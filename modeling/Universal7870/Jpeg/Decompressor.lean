import Universal7870.Jpeg.StreamParser
import Universal7870.Jpeg.V4l2Format

/-!
# The decompressor's flag

`CLibhwjpegDecompressor` parses the stream in `PrepareDecompression` and hands it to the hardware in
`Decompress`; `m_bPrepared` says that nothing was changed in between.  What the operating system and
the driver answer, and what the stream buffer holds when it is parsed, are arguments.
-/

namespace Universal7870.Jpeg

open Lib

/-- A stream buffer: memory of the client, or a mapping made here. -/
inductive StreamBuffer
  | client (addr : Nat)
  | mapping (id : Nat)
  deriving DecidableEq, Repr

/-- What a successful `PrepareDecompression` looked at and set up. -/
structure Validated where
  buffer : StreamBuffer
  length : Nat
  scaleFactor : UInt8
  outputWidth : Nat
  outputHeight : Nat
  format : PixFormat
  deriving DecidableEq, Repr

inductive CodecEvent
  /-- `PrepareDecompression` returned, with what it validated if it returned true. -/
  | prepared (v : Option Validated)
  /-- The hardware was run. -/
  | ran (buffer : Option StreamBuffer) (length : Nat) (format : Option PixFormat)
  deriving DecidableEq, Repr

structure CLibhwjpegDecompressor where
  imageWidth : Nat
  imageHeight : Nat
  numComponents : UInt8
  chromaHSampFactor : UInt8
  chromaVSampFactor : UInt8
  scaleFactor : UInt8
  outputWidth : Nat
  outputHeight : Nat
  outputFormat : BitVec 32
  /-- `HWJPG_FLAG_NEED_MUNMAP`. -/
  needMunmap : Bool
  bPrepared : Bool
  streamBuffer : Option StreamBuffer
  streamLength : Nat
  dummyBytes : Nat
  hwjpeg : FormatDevice
  /-- `m_v4l2DstBuffer.length` of the device. -/
  imageBufferLength : Nat
  /-- The mappings that exist, and the number of those made so far. -/
  mappings : List Nat
  mmaps : Nat
  /-- Newest first. -/
  log : List CodecEvent

namespace CLibhwjpegDecompressor

def v4l2PixFmtRgb32 : BitVec 32 := 0x34424752

def created : CLibhwjpegDecompressor where
  imageWidth := 0
  imageHeight := 0
  numComponents := 3
  chromaHSampFactor := 1
  chromaVSampFactor := 1
  scaleFactor := 1
  outputWidth := 0
  outputHeight := 0
  outputFormat := v4l2PixFmtRgb32
  needMunmap := false
  bPrepared := false
  streamBuffer := none
  streamLength := 0
  dummyBytes := 0
  hwjpeg := CHWJpegV4L2Decompressor.created
  imageBufferLength := 0
  mappings := []
  mmaps := 0
  log := []

/-! ## 1. The setters -/

/-- `munmap` of what the stream buffer points to. -/
def munmap (s : CLibhwjpegDecompressor) : CLibhwjpegDecompressor :=
  match s.streamBuffer with
  | some (.mapping id) => { s with mappings := s.mappings.erase id }
  | _ => s

/-- The stream buffer becomes what `mmap` returns, and NULL when it fails. -/
def mmap (s : CLibhwjpegDecompressor) (succeeds : Bool) : CLibhwjpegDecompressor :=
  if succeeds then
    { s with
      streamBuffer := some (.mapping s.mmaps)
      mappings := s.mmaps :: s.mappings
      mmaps := s.mmaps + 1 }
  else { s with streamBuffer := none }

def hasMapping (s : CLibhwjpegDecompressor) : Bool := s.streamBuffer.isSome && s.needMunmap

/-- The mapping that is there is given up. -/
def release (s : CLibhwjpegDecompressor) : CLibhwjpegDecompressor :=
  if s.hasMapping then { s.munmap with needMunmap := false } else s

/-- The end of `SetStreamPath` and of `SetStreamBuffer` for a dma-buf. -/
def remap (s : CLibhwjpegDecompressor) (mapped : Bool) : Bool × CLibhwjpegDecompressor :=
  if mapped then (true, { s.mmap true with bPrepared := false, needMunmap := true })
  else (false, s.mmap false)

/-- What the system calls of `SetStreamPath` give: the size is that of `fstat`, if it succeeds. -/
structure OpenedFile where
  opened : Bool
  size : Option Nat
  mapped : Bool
  deriving DecidableEq, Repr

def OpenedFile.readable (file : OpenedFile) : Option Nat := if file.opened then file.size else none

/-- What `SetStreamPath` does before it opens the file. -/
def abandon (s : CLibhwjpegDecompressor) : CLibhwjpegDecompressor :=
  if s.hasMapping then { s.release with streamBuffer := none, streamLength := 0 } else s

def setStreamPath (s : CLibhwjpegDecompressor) (file : OpenedFile) :
    Bool × CLibhwjpegDecompressor :=
  match file.readable with
  | none => (false, s.abandon)
  | some size => { s.abandon with streamLength := size, dummyBytes := 0 }.remap file.mapped

/-- `SetStreamBuffer` of a pointer. -/
def setStreamBuffer (s : CLibhwjpegDecompressor) (buffer : Option Nat) (len dummybytes : Nat) :
    Bool × CLibhwjpegDecompressor :=
  (true, { s.release with
    streamBuffer := buffer.map .client
    streamLength := len
    dummyBytes := dummybytes
    bPrepared := false })

/-- `SetStreamBuffer` of a dma-buf. -/
def setStreamDmabuf (s : CLibhwjpegDecompressor) (len dummybytes : Nat) (mapped : Bool) :
    Bool × CLibhwjpegDecompressor :=
  { s.release with streamLength := len, dummyBytes := dummybytes }.remap mapped

/-- `SetImageBuffer`, of a pointer or of a dma-buf. -/
def setImageBuffer (s : CLibhwjpegDecompressor) (len numBufs : Nat) :
    Bool × CLibhwjpegDecompressor :=
  if numBufs ≠ 1 then (false, s) else (true, { s with imageBufferLength := len })

/-- `SetDownscaleFactor`; the field is a byte. -/
def setDownscaleFactor (s : CLibhwjpegDecompressor) (factor : BitVec 32) :
    CLibhwjpegDecompressor :=
  { s with scaleFactor := UInt8.ofBitVec (factor.truncate 8) }

/-! ## 2. Preparing and decompressing -/

/-- `PrepareDecompression` returns false. -/
def refuse (s : CLibhwjpegDecompressor) : Bool × CLibhwjpegDecompressor :=
  (false, { s with log := .prepared none :: s.log })

def setImage (s : CLibhwjpegDecompressor) (p : CJpegStreamParser) : CLibhwjpegDecompressor :=
  { s with
    imageWidth := p.nWidth
    imageHeight := p.nHeight
    numComponents := p.nComponents
    chromaHSampFactor := p.iHorizontalFactor
    chromaVSampFactor := p.iVerticalFactor }

/-- The scaled image has whole blocks. -/
def Scales (s : CLibhwjpegDecompressor) : Prop :=
  s.imageWidth % (s.chromaHSampFactor.toNat * s.scaleFactor.toNat) = 0 ∧
    s.imageHeight % (s.chromaVSampFactor.toNat * s.scaleFactor.toNat) = 0

instance (s : CLibhwjpegDecompressor) : Decidable s.Scales := inferInstanceAs (Decidable (_ ∧ _))

def setOutput (s : CLibhwjpegDecompressor) : CLibhwjpegDecompressor :=
  { s with
    outputWidth := s.imageWidth / s.scaleFactor.toNat
    outputHeight := s.imageHeight / s.scaleFactor.toNat }

def format (s : CLibhwjpegDecompressor) : PixFormat where
  pixelformat := s.outputFormat
  width := BitVec.ofNat 32 s.outputWidth
  height := BitVec.ofNat 32 s.outputHeight

/-- What there is to validate now. -/
def current (s : CLibhwjpegDecompressor) (buffer : StreamBuffer) : Validated where
  buffer := buffer
  length := s.streamLength
  scaleFactor := s.scaleFactor
  outputWidth := s.outputWidth
  outputHeight := s.outputHeight
  format := s.format

def validScale (factor : UInt8) : Prop := factor = 1 ∨ factor = 2 ∨ factor = 4 ∨ factor = 8

instance (factor : UInt8) : Decidable (validScale factor) :=
  inferInstanceAs (Decidable (_ ∨ _))

/-- `PrepareDecompression` once the stream is parsed; `accepts` is the driver's answer to a new
format.  The stream's own size is accepted by every device. -/
def configure (s : CLibhwjpegDecompressor) (buffer : StreamBuffer) (accepts : Bool) :
    Bool × CLibhwjpegDecompressor :=
  if ¬s.Scales then s.refuse
  else
    let s := s.setOutput
    let set := CHWJpegV4L2Decompressor.setImageFormat s.hwjpeg s.format accepts
    let s := { s with hwjpeg := set.2 }
    if set.1 then
      (true, { s with bPrepared := true, log := .prepared (some (s.current buffer)) :: s.log })
    else s.refuse

/-- `PrepareDecompression`; `stream` is what the stream buffer holds. -/
def prepareDecompression (s : CLibhwjpegDecompressor) (stream : List UInt8) (accepts : Bool) :
    Checked (Bool × CLibhwjpegDecompressor) :=
  if ¬validScale s.scaleFactor then .ok s.refuse
  else
    match s.streamBuffer with
    | none => .ok s.refuse
    | some buffer => do
      let parsed ← CJpegStreamParser.parse stream
      return if parsed.1 then (s.setImage parsed.2).configure buffer accepts else s.refuse

/-- `Decompress`; `ready` says whether the queues of the device could be set up, `done` whether it
finished. -/
def decompress (s : CLibhwjpegDecompressor) (ready done : Bool) : Bool × CLibhwjpegDecompressor :=
  if ¬s.bPrepared then (false, s)
  else
    let s := { s with bPrepared := false }
    if s.hwjpeg.v4l2Format = none ∨ s.imageBufferLength = 0 ∨ ¬ready then (false, s)
    else
      (done, { s with
        log := .ran s.streamBuffer s.streamLength s.hwjpeg.v4l2Format :: s.log })

/-! ## 3. Runs -/

inductive Call
  | setStreamPath (file : OpenedFile)
  | setStreamBuffer (buffer : Option Nat) (len dummybytes : Nat)
  | setStreamDmabuf (len dummybytes : Nat) (mapped : Bool)
  | setImageBuffer (len numBufs : Nat)
  | setDownscaleFactor (factor : BitVec 32)
  | prepareDecompression (stream : List UInt8) (accepts : Bool)
  | decompress (ready done : Bool)

/-- `none`: the parser left the stream, and the call does not return. -/
def step (s : CLibhwjpegDecompressor) : Call → Option CLibhwjpegDecompressor
  | .setStreamPath file => some (s.setStreamPath file).2
  | .setStreamBuffer buffer len dummybytes => some (s.setStreamBuffer buffer len dummybytes).2
  | .setStreamDmabuf len dummybytes mapped => some (s.setStreamDmabuf len dummybytes mapped).2
  | .setImageBuffer len numBufs => some (s.setImageBuffer len numBufs).2
  | .setDownscaleFactor factor => some (s.setDownscaleFactor factor)
  | .prepareDecompression stream accepts =>
    (s.prepareDecompression stream accepts).toOption.map (·.2)
  | .decompress ready done => some (s.decompress ready done).2

/-- What the last `PrepareDecompression` validated, if it succeeded. -/
def lastPrepared : List CodecEvent → Option Validated
  | [] => none
  | .prepared v :: _ => v
  | .ran .. :: log => lastPrepared log

/-- A stream buffer that can be read: the client's memory, or a mapping that exists. -/
def Mapped (s : CLibhwjpegDecompressor) : StreamBuffer → Prop
  | .client _ => True
  | .mapping id => id ∈ s.mappings

/-- The flag says that the last `PrepareDecompression` validated what there is now, and the hardware
was run only on what the last one before had validated. -/
structure Sound (s : CLibhwjpegDecompressor) : Prop where
  prepared : s.bPrepared = true →
    ∃ buffer, s.streamBuffer = some buffer ∧ s.Mapped buffer ∧
      lastPrepared s.log = some (s.current buffer)
  ran : ∀ after before buffer length format,
    s.log = after ++ .ran buffer length format :: before →
    ∃ v, lastPrepared before = some v ∧ buffer = some v.buffer ∧ length = v.length ∧
      format = some v.format

/-- The invariant: the flag for the mapping is right, too, and the device has the format. -/
structure Inv (s : CLibhwjpegDecompressor) : Prop extends Sound s where
  owned : s.needMunmap = true ↔ ∃ id, s.streamBuffer = some (.mapping id)
  mapped : ∀ id, s.streamBuffer = some (.mapping id) → id ∈ s.mappings
  format : s.bPrepared = true → s.hwjpeg.v4l2Format = some s.format

/-- The checks of `PrepareDecompression` on what there is. -/
def Passes (s : CLibhwjpegDecompressor) (stream : List UInt8) (accepts : Bool) : Prop :=
  validScale s.scaleFactor ∧
    ∃ p, CJpegStreamParser.parse stream = .ok (true, p) ∧ (s.setImage p).Scales ∧
      (s.hwjpeg.v4l2Format = some (s.setImage p).setOutput.format ∨ accepts = true)

/-- What a call needs while the flag is set. -/
def Keeps (s : CLibhwjpegDecompressor) : Call → Prop
  | .setStreamPath file =>
    if file.readable.isSome then file.mapped = true else s.needMunmap = false
  | .setStreamDmabuf _ _ mapped => mapped = true
  | .setDownscaleFactor factor => (s.setDownscaleFactor factor).scaleFactor = s.scaleFactor
  | .prepareDecompression stream accepts => s.Passes stream accepts
  | _ => True

theorem created_inv : created.Inv where
  prepared := nofun
  ran after before _ _ _ hlog := by simp [created] at hlog
  owned := ⟨nofun, nofun⟩
  mapped := nofun
  format := nofun

/-! ## 4. One call -/

theorem hasMapping_iff {s : CLibhwjpegDecompressor} (h : s.Inv) :
    s.hasMapping = true ↔ s.needMunmap = true := by
  unfold hasMapping
  rw [Bool.and_eq_true]
  constructor
  · exact fun hboth => hboth.2
  · intro hneed
    obtain ⟨id, hid⟩ := h.owned.mp hneed
    rw [hid]
    exact ⟨rfl, hneed⟩

theorem munmap_log (s : CLibhwjpegDecompressor) : s.munmap.log = s.log := by
  unfold munmap
  split
  · rfl
  · rfl

theorem munmap_bPrepared (s : CLibhwjpegDecompressor) : s.munmap.bPrepared = s.bPrepared := by
  unfold munmap
  split
  · rfl
  · rfl

theorem release_log (s : CLibhwjpegDecompressor) : s.release.log = s.log := by
  unfold release
  split
  · exact s.munmap_log
  · rfl

theorem release_bPrepared (s : CLibhwjpegDecompressor) : s.release.bPrepared = s.bPrepared := by
  unfold release
  split
  · exact s.munmap_bPrepared
  · rfl

theorem Inv.release_needMunmap {s : CLibhwjpegDecompressor} (h : s.Inv) :
    s.release.needMunmap = false := by
  unfold release
  split
  · rfl
  · rename_i hnot
    rw [hasMapping_iff h] at hnot
    exact Bool.not_eq_true _ ▸ hnot

/-- Without the flag, what was logged is all there is to show. -/
theorem Inv.of_cleared {s s' : CLibhwjpegDecompressor} (h : s.Inv) (hlog : s'.log = s.log)
    (hcleared : s'.bPrepared = false)
    (howned : s'.needMunmap = true ↔ ∃ id, s'.streamBuffer = some (.mapping id))
    (hmapped : ∀ id, s'.streamBuffer = some (.mapping id) → id ∈ s'.mappings) : s'.Inv where
  prepared hset := by
    rw [hcleared] at hset
    cases hset
  ran := by
    rw [hlog]
    exact h.ran
  owned := howned
  mapped := hmapped
  format hset := by
    rw [hcleared] at hset
    cases hset

/-- A stream buffer that is NULL was not validated. -/
theorem Sound.not_prepared {s : CLibhwjpegDecompressor} (h : s.Sound)
    (hnull : s.streamBuffer = none) : ¬s.bPrepared = true := by
  intro hset
  obtain ⟨buffer, hbuf, _⟩ := h.prepared hset
  rw [hnull] at hbuf
  cases hbuf

/-- What a call does to the invariant, and to the property when its condition does not hold. -/
def Exact (s s' : CLibhwjpegDecompressor) (keeps : Prop) : Prop :=
  ((s.bPrepared = true → keeps) → s'.Inv) ∧ (s'.Sound → s.bPrepared = true → keeps)

/-- The stream buffer became NULL, and the flag stayed as it was. -/
theorem Inv.nulled {s s' : CLibhwjpegDecompressor} (h : s.Inv) (hlog : s'.log = s.log)
    (hsame : s'.bPrepared = s.bPrepared) (hneed : s'.needMunmap = false)
    (hnull : s'.streamBuffer = none) : s.Exact s' False := by
  constructor
  · intro hnot
    apply h.of_cleared hlog
    · rw [hsame]
      exact Bool.not_eq_true _ ▸ hnot
    · rw [hneed, hnull]
      exact ⟨nofun, nofun⟩
    · rw [hnull]
      nofun
  · intro hsound hset
    exact hsound.not_prepared hnull (hsame.trans hset)

theorem remap_spec {s t : CLibhwjpegDecompressor} (h : s.Inv) (hlog : t.log = s.log)
    (hsame : t.bPrepared = s.bPrepared) (hneed : t.needMunmap = false) (mapped : Bool) :
    s.Exact (t.remap mapped).2 (mapped = true) := by
  unfold remap
  cases mapped with
  | true =>
    refine ⟨fun _ => ?_, fun _ _ => rfl⟩
    apply h.of_cleared
    · exact hlog
    · rfl
    · exact ⟨fun _ => ⟨t.mmaps, rfl⟩, fun _ => rfl⟩
    · intro id hid
      obtain rfl : t.mmaps = id := StreamBuffer.mapping.inj (Option.some.inj hid)
      exact List.mem_cons_self
  | false =>
    have hnull : s.Exact (t.mmap false) False := h.nulled hlog hsame hneed rfl
    constructor
    · exact fun hk => hnull.1 fun hset => nomatch hk hset
    · exact fun hsound hset => (hnull.2 hsound hset).elim

theorem abandon_log (s : CLibhwjpegDecompressor) : s.abandon.log = s.log := by
  unfold abandon
  split
  · exact s.release_log
  · rfl

theorem abandon_bPrepared (s : CLibhwjpegDecompressor) : s.abandon.bPrepared = s.bPrepared := by
  unfold abandon
  split
  · exact s.release_bPrepared
  · rfl

theorem Inv.abandon_needMunmap {s : CLibhwjpegDecompressor} (h : s.Inv) :
    s.abandon.needMunmap = false := by
  unfold abandon
  split
  · exact h.release_needMunmap
  · rename_i hnot
    rw [hasMapping_iff h] at hnot
    exact Bool.not_eq_true _ ▸ hnot

theorem setStreamPath_spec {s : CLibhwjpegDecompressor} (h : s.Inv) (file : OpenedFile) :
    s.Exact (s.setStreamPath file).2 (s.Keeps (.setStreamPath file)) := by
  show s.Exact _ (if file.readable.isSome then file.mapped = true else s.needMunmap = false)
  unfold setStreamPath
  cases file.readable with
  | none =>
    show s.Exact s.abandon (s.needMunmap = false)
    by_cases hhas : s.hasMapping = true
    · have hneed := (hasMapping_iff h).mp hhas
      have hnull := h.nulled s.abandon_log s.abandon_bPrepared h.abandon_needMunmap (by
        unfold abandon
        rw [if_pos hhas])
      constructor
      · exact fun hk => hnull.1 fun hset => nomatch hneed.symm.trans (hk hset)
      · exact fun hsound hset => (hnull.2 hsound hset).elim
    · have hsame : s.abandon = s := by
        unfold abandon
        rw [if_neg hhas]
      rw [hasMapping_iff h] at hhas
      rw [hsame]
      exact ⟨fun _ => h, fun _ _ => Bool.not_eq_true _ ▸ hhas⟩
  | some size =>
    apply remap_spec (t := { s.abandon with streamLength := size, dummyBytes := 0 }) h
    · exact s.abandon_log
    · exact s.abandon_bPrepared
    · exact h.abandon_needMunmap

theorem setStreamBuffer_spec {s : CLibhwjpegDecompressor} (h : s.Inv) (buffer : Option Nat)
    (len dummybytes : Nat) : (s.setStreamBuffer buffer len dummybytes).2.Inv := by
  have hclient : ∀ id, buffer.map StreamBuffer.client ≠ some (.mapping id) := by
    intro id
    cases buffer with
    | none => nofun
    | some addr => nofun
  apply h.of_cleared
  · exact s.release_log
  · rfl
  · constructor
    · intro hneed
      exact nomatch h.release_needMunmap.symm.trans hneed
    · rintro ⟨id, hid⟩
      exact absurd hid (hclient id)
  · exact fun id hid => absurd hid (hclient id)

theorem setImageBuffer_spec {s : CLibhwjpegDecompressor} (h : s.Inv) (len numBufs : Nat) :
    (s.setImageBuffer len numBufs).2.Inv := by
  unfold setImageBuffer
  split
  · exact h
  · exact { prepared := h.prepared, ran := h.ran, owned := h.owned, mapped := h.mapped,
            format := h.format }

theorem setDownscaleFactor_spec {s : CLibhwjpegDecompressor} (h : s.Inv) (factor : BitVec 32) :
    s.Exact (s.setDownscaleFactor factor) (s.Keeps (.setDownscaleFactor factor)) := by
  constructor
  · intro hk
    refine { prepared := fun hset => ?_, ran := h.ran, owned := h.owned, mapped := h.mapped,
             format := h.format }
    obtain ⟨buffer, hbuf, hmapped, hlast⟩ := h.prepared hset
    have hsame : (s.setDownscaleFactor factor).scaleFactor = s.scaleFactor := hk hset
    refine ⟨buffer, hbuf, hmapped, hlast.trans ?_⟩
    unfold current
    rw [hsame]
    rfl
  · intro hsound hset
    obtain ⟨buffer, hbuf, _, hlast⟩ := hsound.prepared hset
    obtain ⟨buffer', hbuf', _, hlast'⟩ := h.prepared hset
    exact congrArg Validated.scaleFactor (Option.some.inj (hlast.symm.trans hlast'))

theorem ran_cons_prepared {log : List CodecEvent} {v : Option Validated}
    (h : ∀ after before buffer length format, log = after ++ .ran buffer length format :: before →
      ∃ v, lastPrepared before = some v ∧ buffer = some v.buffer ∧ length = v.length ∧
        format = some v.format) (after before : List CodecEvent) (buffer : Option StreamBuffer)
    (length : Nat) (format : Option PixFormat)
    (hlog : .prepared v :: log = after ++ .ran buffer length format :: before) :
    ∃ v, lastPrepared before = some v ∧ buffer = some v.buffer ∧ length = v.length ∧
      format = some v.format := by
  cases after with
  | nil => cases hlog
  | cons event after => exact h after before buffer length format (List.cons.inj hlog).2

/-- A call that refuses leaves the flag, which nothing stands behind then. -/
theorem refuse_spec {s t : CLibhwjpegDecompressor} (h : s.Inv) (hlog : t.log = s.log)
    (hsame : t.bPrepared = s.bPrepared) (hneed : t.needMunmap = s.needMunmap)
    (hbuf : t.streamBuffer = s.streamBuffer) (hmappings : t.mappings = s.mappings) :
    s.Exact t.refuse.2 False := by
  constructor
  · intro hnot
    have hcleared : ¬t.refuse.2.bPrepared = true := fun hset => hnot (hsame.symm.trans hset)
    refine { prepared := fun hset => absurd hset hcleared, ran := ?_, owned := ?_, mapped := ?_,
             format := fun hset => absurd hset hcleared }
    · apply ran_cons_prepared
      rw [hlog]
      exact h.ran
    · show t.needMunmap = true ↔ ∃ id, t.streamBuffer = some (.mapping id)
      rw [hneed, hbuf]
      exact h.owned
    · show ∀ id, t.streamBuffer = some (.mapping id) → id ∈ t.mappings
      rw [hbuf, hmappings]
      exact h.mapped
  · intro hsound hset
    obtain ⟨buffer, _, _, hlast⟩ := hsound.prepared (hsame.trans hset)
    cases hlast

/-- Everything passed. -/
theorem prepared_inv {s t : CLibhwjpegDecompressor} {buffer : StreamBuffer} (h : s.Inv)
    (hlog : t.log = s.log) (hneed : t.needMunmap = s.needMunmap)
    (hbuf : t.streamBuffer = s.streamBuffer) (hmappings : t.mappings = s.mappings)
    (hbuffer : s.streamBuffer = some buffer) (hformat : t.hwjpeg.v4l2Format = some t.format) :
    Inv { t with bPrepared := true, log := .prepared (some (t.current buffer)) :: t.log } where
  prepared _ := by
    refine ⟨buffer, hbuf.trans hbuffer, ?_, rfl⟩
    cases buffer with
    | client addr => trivial
    | mapping id =>
      show id ∈ t.mappings
      rw [hmappings]
      exact h.mapped id hbuffer
  ran := by
    apply ran_cons_prepared
    rw [hlog]
    exact h.ran
  owned := by
    show t.needMunmap = true ↔ ∃ id, t.streamBuffer = some (.mapping id)
    rw [hneed, hbuf]
    exact h.owned
  mapped := by
    show ∀ id, t.streamBuffer = some (.mapping id) → id ∈ t.mappings
    rw [hbuf, hmappings]
    exact h.mapped
  format _ := hformat

theorem configure_spec {s t : CLibhwjpegDecompressor} {buffer : StreamBuffer} (accepts : Bool)
    (h : s.Inv) (hlog : t.log = s.log) (hsame : t.bPrepared = s.bPrepared)
    (hneed : t.needMunmap = s.needMunmap) (hbuf : t.streamBuffer = s.streamBuffer)
    (hmappings : t.mappings = s.mappings) (hbuffer : s.streamBuffer = some buffer) :
    s.Exact (t.configure buffer accepts).2
      (t.Scales ∧ (t.hwjpeg.v4l2Format = some t.setOutput.format ∨ accepts = true)) := by
  have hrefused {t' : CLibhwjpegDecompressor} {keeps : Prop} (hex : s.Exact t' False)
      (hnot : ¬keeps) : s.Exact t' keeps :=
    ⟨fun hk => hex.1 fun hset => hnot (hk hset), fun hsound hset => (hex.2 hsound hset).elim⟩
  unfold configure
  split
  · rename_i hscales
    apply hrefused
    · exact refuse_spec h hlog hsame hneed hbuf hmappings
    · exact fun hboth => hscales hboth.1
  rename_i hscales
  have hreports := t.hwjpeg.setFormat_reports_iff t.setOutput.format accepts
  dsimp only
  unfold CHWJpegV4L2Decompressor.setImageFormat
  split
  · rename_i hset
    constructor
    · intro _
      apply prepared_inv (t := { t.setOutput with
        hwjpeg := (t.setOutput.hwjpeg.setFormat t.setOutput.format accepts).2 }) h
      · exact hlog
      · exact hneed
      · exact hbuf
      · exact hmappings
      · exact hbuffer
      · exact FormatDevice.setFormat_v4l2Format _ _ _
    · exact fun _ _ => ⟨not_not.mp hscales, hreports.mp hset⟩
  · rename_i hset
    apply hrefused
    · exact refuse_spec h hlog hsame hneed hbuf hmappings
    · exact fun hboth => hset (hreports.mpr hboth.2)

theorem prepareDecompression_spec {s s' : CLibhwjpegDecompressor} {stream : List UInt8}
    {accepts ret : Bool} (h : s.Inv)
    (hprep : s.prepareDecompression stream accepts = .ok (ret, s')) :
    s.Exact s' (s.Passes stream accepts) := by
  have hrefused {keeps : Prop} (hnot : s.bPrepared = true → ¬keeps) :
      s.Exact s.refuse.2 keeps := by
    have hex : s.Exact s.refuse.2 False := refuse_spec h rfl rfl rfl rfl rfl
    exact ⟨fun hk => hex.1 fun hset => hnot hset (hk hset), fun hsound hset =>
      (hex.2 hsound hset).elim⟩
  unfold prepareDecompression at hprep
  split at hprep
  · rename_i hscale
    obtain ⟨_, rfl⟩ := Prod.mk.inj (Except.ok.inj hprep)
    exact hrefused fun _ hpass => hscale hpass.1
  rename_i hscale
  split at hprep
  · rename_i hnull
    obtain ⟨_, rfl⟩ := Prod.mk.inj (Except.ok.inj hprep)
    exact hrefused fun hset => absurd hset (h.toSound.not_prepared hnull)
  rename_i buffer hbuffer
  cases hparse : CJpegStreamParser.parse stream with
  | error fault =>
    rw [hparse] at hprep
    cases hprep
  | ok parsed =>
    rw [hparse] at hprep
    have hret := Except.ok.inj hprep
    split at hret
    · rename_i hok
      have hparsed : CJpegStreamParser.parse stream = .ok (true, parsed.2) := by
        rw [hparse, ← hok]
      have hconf := configure_spec (t := s.setImage parsed.2) accepts h rfl rfl rfl rfl
        rfl hbuffer
      rw [hret] at hconf
      constructor
      · intro hk
        apply hconf.1
        intro hset
        obtain ⟨_, p, hp, hscales, hfmt⟩ := hk hset
        obtain rfl : parsed.2 = p := congrArg Prod.snd (Except.ok.inj (hparsed.symm.trans hp))
        exact ⟨hscales, hfmt⟩
      · intro hsound hset
        exact ⟨not_not.mp hscale, parsed.2, hparsed, hconf.2 hsound hset⟩
    · rename_i hnot
      obtain ⟨_, rfl⟩ := Prod.mk.inj hret
      apply hrefused
      rintro _ ⟨_, p, hp, _⟩
      rw [hparse] at hp
      exact hnot (congrArg Prod.fst (Except.ok.inj hp))

theorem decompress_spec {s : CLibhwjpegDecompressor} (h : s.Inv) (ready done : Bool) :
    (s.decompress ready done).2.Inv := by
  unfold decompress
  split
  · exact h
  rename_i hprep
  dsimp only
  have hcleared : Inv { s with bPrepared := false } := h.of_cleared rfl rfl h.owned h.mapped
  split
  · exact hcleared
  refine { hcleared with
    prepared := (nofun)
    ran := fun after before buffer length format hlog => ?_
    format := (nofun) }
  cases after with
  | nil =>
    -- the hardware is run on what the flag stood for
    obtain ⟨buffer', hbuf, _, hlast⟩ := h.prepared (not_not.mp hprep)
    have hfmt := h.format (not_not.mp hprep)
    obtain ⟨hevent, hbefore⟩ := List.cons.inj hlog
    obtain ⟨hb, hl, hf⟩ := CodecEvent.ran.inj hevent
    refine ⟨s.current buffer', ?_, ?_, hl.symm, ?_⟩
    · rw [← hbefore]
      exact hlast
    · rw [← hb]
      exact hbuf
    · rw [← hf]
      exact hfmt
  | cons event after => exact h.ran after before buffer length format (List.cons.inj hlog).2

/-! ## 5. Runs -/

/-- What a call needs: nothing while the flag is not set. -/
def Safe (s : CLibhwjpegDecompressor) (call : Call) : Prop := s.bPrepared = true → s.Keeps call

theorem step_spec {s s' : CLibhwjpegDecompressor} {call : Call} (h : s.Inv)
    (hstep : s.step call = some s') : (s.Safe call → s'.Inv) ∧ (s'.Sound → s.Safe call) := by
  have htrivial (hinv : s'.Inv) (hk : s.Keeps call) : (s.Safe call → s'.Inv) ∧
      (s'.Sound → s.Safe call) := ⟨fun _ => hinv, fun _ _ => hk⟩
  cases call with
  | setStreamPath file =>
    obtain rfl := Option.some.inj hstep
    exact setStreamPath_spec h file
  | setStreamBuffer buffer len dummybytes =>
    obtain rfl := Option.some.inj hstep
    exact htrivial (setStreamBuffer_spec h buffer len dummybytes) trivial
  | setStreamDmabuf len dummybytes mapped =>
    obtain rfl := Option.some.inj hstep
    apply remap_spec (t := { s.release with streamLength := len, dummyBytes := dummybytes }) h
    · exact s.release_log
    · exact s.release_bPrepared
    · exact h.release_needMunmap
  | setImageBuffer len numBufs =>
    obtain rfl := Option.some.inj hstep
    exact htrivial (setImageBuffer_spec h len numBufs) trivial
  | setDownscaleFactor factor =>
    obtain rfl := Option.some.inj hstep
    exact setDownscaleFactor_spec h factor
  | prepareDecompression stream accepts =>
    have hret : (s.prepareDecompression stream accepts).toOption.map (·.2) = some s' := hstep
    cases hprep : s.prepareDecompression stream accepts with
    | error fault =>
      rw [hprep] at hret
      cases hret
    | ok ret =>
      rw [hprep] at hret
      obtain rfl := Option.some.inj hret
      exact prepareDecompression_spec h hprep
  | decompress ready done =>
    obtain rfl := Option.some.inj hstep
    exact htrivial (decompress_spec h ready done) trivial

/-- After calls that met their conditions the flag is right, and the next call leaves it so exactly
when it meets its condition. -/
theorem sound_iff_safe {calls : List Call} {s : CLibhwjpegDecompressor}
    (run : ExecWhere Safe (guarded step) created calls s) :
    s.Sound ∧ ∀ call s', s.step call = some s' → (s'.Sound ↔ s.Safe call) := by
  have hpreserved (t : CLibhwjpegDecompressor) (call : Call) (t' : CLibhwjpegDecompressor)
      (ht : t.Inv) (hsafe : t.Safe call) (hstep : t.step call = some t') : t'.Inv :=
    (step_spec ht hstep).1 hsafe
  have hinv : s.Inv := run.invariant hpreserved created_inv
  constructor
  · exact hinv.toSound
  · intro call s' hstep
    exact ⟨(step_spec hinv hstep).2, fun hsafe => ((step_spec hinv hstep).1 hsafe).toSound⟩

/-- A baseline frame header for 8x8 pixels. -/
def frame8x8 : List UInt8 :=
  [0xFF, 0xD8, 0xFF, 0xC0, 0, 17, 8, 0, 8, 0, 8, 3, 1, 0x11, 0, 2, 0x11, 1, 3, 0x11, 1]

def afterCalls (calls : List Call) : CLibhwjpegDecompressor :=
  (calls.foldlM step created).getD created

/-- A stream in the client's memory is prepared and decompressed. -/
def decompressRun : List Call :=
  [.setStreamBuffer (some 0) 21 0, .setImageBuffer 256 1, .prepareDecompression frame8x8 true,
    .decompress true true]

theorem sound_iff_safe_decompressed : (afterCalls decompressRun).Sound := by
  have run : ExecWhere Safe (guarded step) created decompressRun (afterCalls decompressRun) := by
    apply ExecWhere.computed (by decide +kernel)
    intro n call s hcall hrun
    match n with
    | 0 | 1 | 3 =>
      obtain rfl := Option.some.inj hcall
      exact fun _ => trivial
    | 2 =>
      have hs : s = afterCalls (decompressRun.take 2) := by
        unfold afterCalls
        rw [hrun]
        rfl
      subst hs
      exact nofun
    | _ + 4 => cases hcall
  exact (sound_iff_safe run).1

/-- The flag survives a path that cannot be opened, while the mapping it stood for is gone. -/
theorem prepared_without_stream :
    ¬∀ (calls : List Call) (s : CLibhwjpegDecompressor), Exec (guarded step) created calls s →
      s.Sound := by
  intro hall
  have hsound := hall
    [.setStreamDmabuf 21 0 true, .prepareDecompression frame8x8 true, .setStreamPath ⟨false, none, false⟩] _
    (Exec.computed (by decide +kernel))
  exact hsound.not_prepared (by decide +kernel) (by decide +kernel)

end CLibhwjpegDecompressor

end Universal7870.Jpeg
