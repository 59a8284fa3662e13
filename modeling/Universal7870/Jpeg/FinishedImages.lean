import Universal7870.Jpeg.FinishCompression
import Universal7870.Lib.Run

/-!
# The images that the camera encoder returns

`encode` and `WaitForCompression` over the life of an encoder, with every content of the client's
buffer and every length that the compressors may return.
-/

namespace Universal7870.Jpeg

open Lib

/-! ## 1. The header that was written -/

section

variable {w : CAppMarkerWriter}

/-- Whether the place was reserved, in the writer behind `Write`. -/
theorem isThumbSpaceReserved_written {reserve : Bool} {dummy align : Nat} {reserveDebug : Bool}
    (hblock : (w.app1Block reserve).length < 2 ^ 64)
    (hsum : w.szApp1 + w.maxThumbSize + 2 < 2 ^ 64) :
    (w.written reserve dummy align reserveDebug).isThumbSpaceReserved ↔
      (w.app1Block reserve).length = w.szApp1 + w.maxThumbSize + 2 := by
  unfold CAppMarkerWriter.isThumbSpaceReserved
  show sizeSub (w.appBase + (w.app1Block reserve).length) w.appBase =
    (w.szApp1 + w.maxThumbSize + 2) % 2 ^ 64 ↔ _
  rw [CAppMarkerWriter.sizeSub_add_left, Nat.mod_eq_of_lt hblock, Nat.mod_eq_of_lt hsum]

/-- What `Write` leaves is placed. -/
theorem placed_written {base limit align : Nat} {reserve reserveDebug : Bool}
    (hbase : w.appBase = base + 2) (halign : align = 16 ∨ align = 1) (hsound : w.Sound)
    (hmeasured : ∀ e ∈ w.exif, w.Measured e) (hfits : ∀ e ∈ w.exif, e.FitsApp1)
    (hnone : w.exif = none → (w.szApp1 = 0 ∧ w.maxThumbSize = 0) ∧ w.thumbBase = 0)
    (hthumb : ∀ e ∈ w.exif, w.thumbBase =
      if e.enableThumb then w.appBase + jpegMarkerSize + e.appLength else 0)
    (hend : 2 + (w.headerCells reserve jpegMarkerSize align reserveDebug).length ≤ limit) :
    Placed (w.written reserve jpegMarkerSize align reserveDebug) base limit := by
  have happx := length_appxCells_le hsound reserveDebug
  have hblock := w.length_app11Block_le (w.app11Start reserve reserveDebug) halign
  have hlength : (w.headerCells reserve jpegMarkerSize align reserveDebug).length =
      (w.app1Block reserve).length + (w.appxCells reserveDebug).length +
        (w.app11Block (w.app11Start reserve reserveDebug) jpegMarkerSize align).length := by
    unfold CAppMarkerWriter.headerCells
    rw [List.length_append, List.length_append]
  have hsum (t : Nat) := appSizeSum_eq (w.written reserve jpegMarkerSize align reserveDebug) t
    reserveDebug
  change ∀ t, (w.written reserve jpegMarkerSize align reserveDebug).appSizeSum t =
    (if 0 < w.szApp1 then w.szApp1 + jpegMarkerSize else 0) + (w.appxCells reserveDebug).length +
    (if (w.written reserve jpegMarkerSize align reserveDebug).isThumbSpaceReserved then
      w.maxThumbSize else min w.maxThumbSize t) +
    (w.app11Block (w.app11Start reserve reserveDebug) jpegMarkerSize align).length % 2 ^ 16 at hsum
  have hmain : (w.written reserve jpegMarkerSize align reserveDebug).mainBase =
      base + (w.headerCells reserve jpegMarkerSize align reserveDebug).length := by
    show w.appBase + _ - 2 = _
    rw [hbase]
    omega
  rw [Nat.mod_eq_of_lt (Nat.lt_of_le_of_lt hblock (by decide))] at hsum
  cases hexif : w.exif with
  | none =>
    obtain ⟨⟨hszApp1, hmax⟩, hbase0⟩ := hnone hexif
    have happ1 : (w.app1Block reserve).length = 0 := by
      unfold CAppMarkerWriter.app1Block
      rw [hexif]
      rfl
    have hsize : (w.written reserve jpegMarkerSize align reserveDebug).calculateAppSize 0 =
        (w.headerCells reserve jpegMarkerSize align reserveDebug).length := by
      have hsum0 := hsum 0
      rw [hszApp1, hmax, if_neg (Nat.lt_irrefl 0), Nat.min_zero, ite_self] at hsum0
      unfold CAppMarkerWriter.calculateAppSize
      rw [hsum0, Nat.mod_eq_of_lt (Nat.lt_of_le_of_lt (m := 6 * 65437 + 21) (by omega) (by decide))]
      omega
    exact ⟨hbase, hsize ▸ hmain, by omega, fun hthere => absurd hbase0 hthere⟩
  | some e =>
    have hm := hmeasured e hexif
    have hfit := hfits e hexif
    have hszApp1 := hm.szApp1 hfit
    have htwo : 2 ≤ e.appLength := by
      unfold ExifAttribute.appLength ExifAttribute.appLengthNoThumb jpegSegmentLenfieldSize
      omega
    have hpos : 0 < e.appLength := Nat.lt_of_lt_of_le Nat.zero_lt_two htwo
    have hle := hfit.2.1
    have happ1 := length_app1Block hexif reserve
    have hmax : w.maxThumbSize ≤ 65435 ∧ (e.enableThumb ≠ true → w.maxThumbSize = 0) := by
      by_cases henable : e.enableThumb = true
      · have hspace := hm.maxThumbSize hfit henable
        unfold jpegMaxSegmentSize at hspace
        exact ⟨by omega, fun hnot => absurd henable hnot⟩
      · have hspace := hm.maxThumbSize_eq
        rw [if_neg henable] at hspace
        exact ⟨by omega, fun _ => hspace⟩
    have hthumbSpace : w.thumbSpace reserve = w.maxThumbSize ∨ w.thumbSpace reserve = 0 := by
      unfold CAppMarkerWriter.thumbSpace
      rw [hexif]
      dsimp only
      split
      · exact .inl rfl
      · exact .inr rfl
    unfold jpegMarkerSize at happ1
    have hreserved : (w.written reserve jpegMarkerSize align reserveDebug).isThumbSpaceReserved ↔
        w.thumbSpace reserve = w.maxThumbSize := by
      rw [isThumbSpaceReserved_written
        (Nat.lt_of_le_of_lt (m := 200000) (by omega) (by decide))
        (Nat.lt_of_le_of_lt (m := 200000) (by omega) (by decide))]
      omega
    have hspace : (if (w.written reserve jpegMarkerSize align reserveDebug).isThumbSpaceReserved
        then w.maxThumbSize else 0) = w.thumbSpace reserve := by
      by_cases hyes : (w.written reserve jpegMarkerSize align reserveDebug).isThumbSpaceReserved
      · rw [if_pos hyes]
        exact (hreserved.mp hyes).symm
      · rw [if_neg hyes]
        rcases hthumbSpace with hfull | hzero
        · exact absurd (hreserved.mpr hfull) hyes
        · exact hzero.symm
    have hsize (t : Nat) (ht : t ≤ w.maxThumbSize) :
        (w.written reserve jpegMarkerSize align reserveDebug).calculateAppSize t =
          (w.headerCells reserve jpegMarkerSize align reserveDebug).length +
            if (w.written reserve jpegMarkerSize align reserveDebug).isThumbSpaceReserved then 0
            else t := by
      have hsumt := hsum t
      rw [hszApp1, if_pos hpos, Nat.min_eq_right ht] at hsumt
      have hmarker : jpegMarkerSize = 2 := rfl
      unfold CAppMarkerWriter.calculateAppSize
      by_cases hyes : (w.written reserve jpegMarkerSize align reserveDebug).isThumbSpaceReserved
      · have hfull := hreserved.mp hyes
        rw [if_pos hyes] at hsumt ⊢
        rw [hlength, happ1, hfull]
        rw [hsumt, Nat.mod_eq_of_lt (Nat.lt_of_le_of_lt (m := 1000000) (by omega) (by decide))]
        omega
      · rw [if_neg hyes] at hsumt hspace ⊢
        rw [hlength, happ1, ← hspace]
        rw [hsumt, Nat.mod_eq_of_lt (Nat.lt_of_le_of_lt (m := 1000000) (by omega) (by decide))]
        omega
    have hsize0 : (w.written reserve jpegMarkerSize align reserveDebug).calculateAppSize 0 =
        (w.headerCells reserve jpegMarkerSize align reserveDebug).length := by
      rw [hsize 0 (Nat.zero_le _), ite_self, Nat.add_zero]
    refine ⟨hbase, hsize0 ▸ hmain, by omega, fun hthere => ?_⟩
    have hplace : w.thumbBase = w.appBase + 2 + e.appLength := by
      have hvalue := hthumb e hexif
      by_cases henable : e.enableThumb = true
      · rw [if_pos henable] at hvalue
        exact hvalue
      · rw [if_neg henable] at hvalue
        exact absurd hvalue hthere
    have henable : e.enableThumb = true := by
      by_contra hnot
      have hvalue := hthumb e hexif
      rw [if_neg hnot] at hvalue
      exact hthere hvalue
    have h11 : 6 ≤ (w.app11Block (w.app11Start reserve reserveDebug) jpegMarkerSize
        align).length := by
      have hbounds := CAppMarkerWriter.app11Length_bounds (w.app11Start reserve reserveDebug) halign
      rw [CAppMarkerWriter.app11Block_eq (.inl (by rw [hexif]; rfl)),
        length_app11Cells (by unfold jpegSegmentLenfieldSize; omega)]
      unfold jpegMarkerSize at hbounds ⊢
      omega
    refine ⟨?_, ?_, ?_, ?_, fun t ht => ?_⟩
    · show w.appBase + (w.app1Block reserve).length = w.thumbBase + ite _ w.maxThumbSize 0
      rw [hspace, hplace, happ1]
      omega
    · rw [hmain, hlength]
      show w.appBase + (w.app1Block reserve).length + 2 ≤ _
      omega
    · show base + 6 ≤ w.thumbBase
      omega
    · show w.thumbPlaceholder + 4 ≤ w.thumbBase
      unfold CAppMarkerWriter.thumbPlaceholder jpegMarkerSize
      rw [hexif]
      dsimp only
      rw [if_pos henable]
      omega
    · rw [hsize t ht, hsize0]

end

/-- The header of an encoder whose attribute fits is placed in the buffer. -/
theorem CameraEncoder.placed_processExif {s : CameraEncoder} {base limit : Nat}
    {exif : Option ExifAttribute} {debug : Option DebugAttribute} (hs : s.appWriter.Reached)
    (hfits : ∀ e ∈ exif, e.FitsApp1) (hresult : (s.processExif base limit exif debug).1 = true) :
    Placed (s.processExif base limit exif debug).2.1 base limit := by
  have hexif : (s.prepared base exif debug).exif = exif := exif_prepareAppWriter _ _ _ _
  have hbase : (s.prepared base exif debug).appBase = base + 2 := appBase_prepareAppWriter _ _ _ _
  have hmeasured : ∀ e ∈ (s.prepared base exif debug).exif,
      (s.prepared base exif debug).Measured e := measured_prepared hfits
  have hprepared : (s.prepared base exif debug).Prepared :=
    fun e he => ⟨(hmeasured e he).counted, (hmeasured e he).n1st_eq⟩
  have hbounds := CAppMarkerWriter.app11Length_bounds ((s.prepared base exif debug).app11Start
    (reserveThumbspace limit exif) s.hwfcEnabled) s.align_eq
  rw [(processExif_of_true hresult).2, CAppMarkerWriter.write_eq _ hprepared _
    (thumbSpace_prepared hfits _) (by unfold jpegSegmentLenfieldSize; omega)]
  apply placed_written hbase s.align_eq (sound_prepared hs) hmeasured
  · rw [hexif]
    exact hfits
  · intro hnone
    rw [hexif] at hnone
    subst hnone
    exact ⟨sizes_prepareAppWriter_none s.appWriter (base + jpegMarkerSize) debug,
      thumbBase_prepareAppWriter_none s.appWriter (base + jpegMarkerSize) debug⟩
  · intro e he
    rw [hexif] at he
    have hmem := hfits e he
    rw [Option.mem_def] at he
    subst he
    rw [hbase]
    exact thumbBase_prepareAppWriter_some s.appWriter (base + jpegMarkerSize) debug hmem.1
  · exact (headerCells_le hs hfits hresult).2

/-! ## 2. Calls of the encoder -/

/-- The buffer of a client: `encode` refuses no address and no length. -/
structure ClientBuffer where
  base : Nat
  size : Nat
  base_pos : 0 < base
  size_pos : 0 < size
  size_lt : size < 2 ^ 31
  end_lt : base + size < 2 ^ 64

/-- What the client configures. -/
structure CameraSettings where
  width : UInt32
  height : UInt32
  thumbWidth : UInt32
  thumbHeight : UInt32
  noStreambaseAlign : Bool
  hwfcEnabled : Bool
  thumbGenerationNeeded : Bool
  btbSupported : Bool
  thumbQuality : Nat

/-- A length that was returned for the bytes at `base`, with the memory of that moment; and the
stream of the main image as the compressor left it, in the memory `raw`. -/
structure Returned where
  base : Nat
  size : Nat
  n : Nat
  mem : Memory
  raw : Memory
  mainBase : Nat
  mainlen : Nat

/-- What was returned is an image that ends with the EOI of the main stream. -/
def Returned.Good (r : Returned) : Prop :=
  Image r.mem r.base r.size r.n ∧ ∃ i, LastEoi r.raw r.mainBase r.mainlen i

/-- The encoder with its current buffer.  `pending`, `finished` and `results` are history: whether a
compression is in flight that the last `encode` started, the image that was finished last since
then, and all lengths that were returned. -/
structure Camera where
  settings : CameraSettings
  appWriter : CAppMarkerWriter
  streamBase : Nat
  streamSize : Nat
  pending : Bool
  finished : Option Returned
  results : List Returned

/-- A call, with the memory when the compressor is done.  `prepared` says whether what comes between
the header and the compressor succeeds; `mainlen` is what the compressor returns, `none` for a
failure. -/
inductive CameraOp
  | configure (settings : CameraSettings)
  | encode (buffer : Option ClientBuffer) (exif : Option ExifAttribute)
      (debug : Option DebugAttribute) (prepared : Bool) (mainlen : Option Nat) (mem : Memory)
      (calls : FinishCalls)
  | waitForCompression (mainlen : Option Nat) (mem : Memory) (calls : FinishCalls)

namespace Camera

def encoder (c : Camera) : CameraEncoder where
  width := c.settings.width
  height := c.settings.height
  thumbWidth := c.settings.thumbWidth
  thumbHeight := c.settings.thumbHeight
  noStreambaseAlign := c.settings.noStreambaseAlign
  hwfcEnabled := c.settings.hwfcEnabled
  appWriter := c.appWriter

def streamEncoder (c : Camera) : StreamEncoder where
  streamBase := c.streamBase
  streamSize := c.streamSize
  appWriter := c.appWriter
  thumbGenerationNeeded := c.settings.thumbGenerationNeeded
  btbSupported := c.settings.btbSupported
  thumbQuality := c.settings.thumbQuality

/-- `FinishCompression` and its result; a failure leaves `m_nStreamSize` at 0. -/
def finish (c : Camera) (mem : Memory) (mainlen : Nat) (calls : FinishCalls) : Camera :=
  let r := c.streamEncoder.finishCompression calls mem mainlen
  match r.1 with
  | none =>
    { c with appWriter := r.2.2, streamSize := 0, pending := false, finished := none }
  | some n =>
    let returned : Returned :=
      { base := c.streamBase, size := c.streamSize, n := n, mem := r.2.1, raw := mem,
        mainBase := c.appWriter.mainBase, mainlen := mainlen }
    { c with
      appWriter := r.2.2
      streamSize := n
      pending := false
      finished := some returned
      results := c.results ++ [returned] }

/-- The encoder once the buffer is taken and `ProcessExif` was called. -/
def begin (c : Camera) (b : ClientBuffer) (exif : Option ExifAttribute)
    (debug : Option DebugAttribute) : Camera :=
  { c with
    streamBase := b.base
    streamSize := b.size
    pending := false
    finished := none
    appWriter := (c.encoder.processExif b.base b.size exif debug).2.1 }

/-- `encode`. -/
def encode (c : Camera) (buffer : Option ClientBuffer) (exif : Option ExifAttribute)
    (debug : Option DebugAttribute) (prepared : Bool) (mainlen : Option Nat) (mem : Memory)
    (calls : FinishCalls) : Camera :=
  match buffer with
  | none => c
  | some b =>
    let t := c.begin b exif debug
    if (c.encoder.processExif b.base b.size exif debug).1 = false ∨ prepared = false then t
    else
      match mainlen with
      | none => t
      | some mainlen =>
        if c.settings.hwfcEnabled then { t with pending := true }
        -- a stream without length returns 0, with the length of the buffer
        else if mainlen = 0 then
          { t with results := t.results ++ [⟨b.base, b.size, b.size, mem, mem,
              t.appWriter.mainBase, 0⟩] }
        else t.finish mem mainlen calls

/-- `WaitForCompression`; without HWFC it returns `m_nStreamSize` as it is. -/
def waitForCompression (c : Camera) (mainlen : Option Nat) (mem : Memory) (calls : FinishCalls) :
    Camera :=
  if c.settings.hwfcEnabled = false then
    { c with results := c.results ++ [c.finished.getD ⟨c.streamBase, c.streamSize, c.streamSize,
        mem, mem, c.appWriter.mainBase, 0⟩] }
  else
    match mainlen with
    | none => { c with pending := false }
    | some mainlen => c.finish mem mainlen calls

def step (c : Camera) : CameraOp → Camera
  | .configure settings => { c with settings := settings }
  | .encode buffer exif debug prepared mainlen mem calls =>
    c.encode buffer exif debug prepared mainlen mem calls
  | .waitForCompression mainlen mem calls => c.waitForCompression mainlen mem calls

/-- An encoder as it is constructed. -/
def constructed (settings : CameraSettings) (fresh : CAppMarkerWriter) (streamSize : Nat) :
    Camera where
  settings := settings
  appWriter := .construct fresh
  streamBase := 0
  streamSize := streamSize
  pending := false
  finished := none
  results := []

/-! ## 3. Runs -/

/-- The compressor's stream has an EOI and stays in the buffer it was given; or the compression
fails for its thumbnail. -/
def StreamOk (c : Camera) (mem : Memory) (mainlen : Nat) (calls : FinishCalls) : Prop :=
  ((∃ i, LastEoi mem c.appWriter.mainBase mainlen i) ∧
      c.appWriter.calculateAppSize 0 + mainlen ≤ c.streamSize) ∨
    c.streamEncoder.ThumbFails calls (removeTrailingDummies mem c.appWriter.mainBase mainlen)

end Camera

/-- An `encode` that compresses has an attribute that fits, and a stream that is fine when it blocks;
`WaitForCompression` has one of the compression that `encode` started, or with HWFC off an image
that was finished before. -/
def CameraOp.Fine (c : Camera) : CameraOp → Prop
  | .configure _ => True
  | .encode buffer exif debug prepared mainlen mem calls => ∀ b ∈ buffer,
      (c.encoder.processExif b.base b.size exif debug).1 = true → prepared = true →
        ∀ len ∈ mainlen, (∀ e ∈ exif, e.FitsApp1) ∧
          (c.settings.hwfcEnabled = false →
            0 < len ∧ (c.begin b exif debug).StreamOk mem len calls)
  | .waitForCompression mainlen mem calls =>
      (c.settings.hwfcEnabled = false → c.finished.isSome) ∧
      (c.settings.hwfcEnabled = true → ∀ len ∈ mainlen,
        c.pending = true ∧ c.StreamOk mem len calls)

namespace Camera

/-- All that was returned is good; a compression in flight has its header in its buffer. -/
structure Sound (c : Camera) : Prop where
  writer : c.appWriter.Reached
  results : ∀ r ∈ c.results, r.Good
  finished : ∀ r ∈ c.finished, r.Good
  pending : c.pending = true →
    Placed c.appWriter c.streamBase c.streamSize ∧ c.streamBase + c.streamSize < 2 ^ 64

variable {c : Camera}

theorem reached_finishCompression (s : StreamEncoder) (h : s.appWriter.Reached)
    (calls : FinishCalls) (mem : Memory) (mainlen : Nat) :
    (s.finishCompression calls mem mainlen).2.2.Reached := by
  unfold StreamEncoder.finishCompression
  dsimp only
  split
  · exact h
  · dsimp only
    unfold StreamEncoder.finishedWriter
    split
    · exact h.finalize _ _
    · exact h

theorem good_append {results : List Returned} (h : ∀ r ∈ results, r.Good) {r : Returned}
    (hr : r.Good) : ∀ r' ∈ results ++ [r], r'.Good := by
  intro r' hr'
  rcases List.mem_append.mp hr' with hold | hnew
  · exact h r' hold
  · rw [List.mem_singleton.mp hnew]
    exact hr

/-- Finishing a compression whose header is placed and whose stream is fine. -/
theorem Sound.finish (h : c.Sound) (hplaced : Placed c.appWriter c.streamBase c.streamSize)
    (hend : c.streamBase + c.streamSize < 2 ^ 64) {mem : Memory} {mainlen : Nat}
    {calls : FinishCalls} (hstream : c.StreamOk mem mainlen calls) :
    (c.finish mem mainlen calls).Sound := by
  have hwriter := reached_finishCompression c.streamEncoder h.writer calls mem mainlen
  unfold Camera.finish
  dsimp only
  cases hresult : (c.streamEncoder.finishCompression calls mem mainlen).1 with
  | none => exact ⟨hwriter, h.results, nofun, nofun⟩
  | some n =>
    dsimp only
    rcases hstream with ⟨⟨i, hlast⟩, hlen⟩ | hfails
    · have himage := StreamEncoder.image_finishCompression (s := c.streamEncoder) hplaced hend hlast
        hlen hresult
      have hgood : Returned.Good ⟨c.streamBase, c.streamSize, n,
          (c.streamEncoder.finishCompression calls mem mainlen).2.1, mem, c.appWriter.mainBase,
          mainlen⟩ := ⟨himage, i, hlast⟩
      refine ⟨hwriter, good_append h.results hgood, fun r hr => ?_, nofun⟩
      rw [← Option.some.inj hr]
      exact hgood
    · have hnone := StreamEncoder.ThumbFails.finishCompression (s := c.streamEncoder) hfails
      rw [hresult] at hnone
      cases hnone

theorem reached_processExif {s : CameraEncoder} (h : s.appWriter.Reached) (base limit : Nat)
    (exif : Option ExifAttribute) (debug : Option DebugAttribute) :
    (s.processExif base limit exif debug).2.1.Reached := by
  have hprepared : (s.prepared base exif debug).Reached := h.prepareAppWriter _ _ _
  unfold CameraEncoder.processExif
  split
  · exact h
  · split
    · exact hprepared
    · exact hprepared.write _ _ _ _ _

theorem Sound.begin (h : c.Sound) (b : ClientBuffer) (exif : Option ExifAttribute)
    (debug : Option DebugAttribute) : (c.begin b exif debug).Sound :=
  ⟨reached_processExif (s := c.encoder) h.writer _ _ _ _, h.results, nofun, nofun⟩

theorem Sound.step (h : c.Sound) {op : CameraOp} (hop : op.Fine c) : (c.step op).Sound := by
  cases op with
  | configure settings => exact ⟨h.writer, h.results, h.finished, h.pending⟩
  | encode buffer exif debug prepared mainlen mem calls =>
    show (c.encode buffer exif debug prepared mainlen mem calls).Sound
    unfold Camera.encode
    cases buffer with
    | none => exact h
    | some b =>
      have hbegun := h.begin b exif debug
      dsimp only
      split
      · exact hbegun
      · rename_i hgoes
        have hheader : (c.encoder.processExif b.base b.size exif debug).1 = true := by
          by_contra hnot
          exact hgoes (.inl (by simpa using hnot))
        have hprepared : prepared = true := by
          by_contra hnot
          exact hgoes (.inr (by simpa using hnot))
        cases mainlen with
        | none => exact hbegun
        | some len =>
          obtain ⟨hfits, hstream⟩ := hop b rfl hheader hprepared len rfl
          have hplaced : Placed (c.begin b exif debug).appWriter b.base b.size :=
            CameraEncoder.placed_processExif (s := c.encoder) h.writer hfits hheader
          dsimp only
          by_cases hhwfc : c.settings.hwfcEnabled = true
          · rw [if_pos hhwfc]
            exact ⟨hbegun.writer, hbegun.results, hbegun.finished, fun _ => ⟨hplaced, b.end_lt⟩⟩
          · rw [if_neg hhwfc]
            obtain ⟨hpos, hok⟩ := hstream (by simpa using hhwfc)
            rw [if_neg (Nat.ne_of_gt hpos)]
            exact hbegun.finish hplaced b.end_lt hok
  | waitForCompression mainlen mem calls =>
    show (c.waitForCompression mainlen mem calls).Sound
    unfold Camera.waitForCompression
    by_cases hhwfc : c.settings.hwfcEnabled = false
    · rw [if_pos hhwfc]
      obtain ⟨r, hr⟩ := Option.isSome_iff_exists.mp (hop.1 hhwfc)
      rw [hr, Option.getD_some]
      exact ⟨h.writer, good_append h.results (h.finished r hr), hr ▸ h.finished, h.pending⟩
    · rw [if_neg hhwfc]
      cases mainlen with
      | none => exact ⟨h.writer, h.results, h.finished, nofun⟩
      | some len =>
        obtain ⟨hpending, hok⟩ := hop.2 (by simpa using hhwfc) len rfl
        exact h.finish (h.pending hpending).1 (h.pending hpending).2 hok

/-- In a run of fine calls all that is returned with a length that is not negative is an image. -/
theorem good_of_fine {settings : CameraSettings} {fresh : CAppMarkerWriter} {streamSize : Nat}
    {ops : List CameraOp} {c : Camera}
    (run : ExecWhere (fun c op => op.Fine c) (functional step)
      (constructed settings fresh streamSize) ops c) : ∀ r ∈ c.results, r.Good := by
  apply Sound.results
  apply run.invariant (I := Sound)
  · rintro c op t hc hop rfl
    exact hc.step hop
  · exact ⟨.construct fresh, nofun, nofun, nofun⟩

def plainSettings : CameraSettings where
  width := 64
  height := 48
  thumbWidth := 0
  thumbHeight := 0
  noStreambaseAlign := true
  hwfcEnabled := false
  thumbGenerationNeeded := true
  btbSupported := false
  thumbQuality := 50

def clientBuffer : ClientBuffer where
  base := 16
  size := 4096
  base_pos := by decide
  size_pos := by decide
  size_lt := by decide
  end_lt := by decide

/-- A compression without a header, of a stream of `mainlen` bytes. -/
def encodePlain (mem : Memory) (mainlen : Nat) : CameraOp :=
  .encode (some clientBuffer) none none true (some mainlen) mem
    ⟨none, fun _ _ => none, fun _ _ => none, 0, fun _ => 0⟩

/-- A stream of six bytes that ends with EOI. -/
def shortStream : Memory := Memory.write (fun _ => 0) 16 [0xFF, 0xD8, 0, 0, 0xFF, 0xD9]

def plainCamera : Camera :=
  constructed plainSettings ⟨0, 0, 0, 0, 0, 0, 0, 0, 0, none, none, 0, 0, 0, 0, 0, 0, 0⟩ 0

theorem good_of_fine_shortStream :
    List.Forall Returned.Good ([encodePlain shortStream 6].foldl step plainCamera).results := by
  rw [List.forall_iff_forall_mem]
  refine @good_of_fine plainSettings _ 0 [encodePlain shortStream 6] _
    (ExecWhere.folded fun n op hop => ?_)
  cases n with
  | zero =>
    obtain rfl := Option.some.inj hop
    intro b hb
    obtain rfl := Option.some.inj hb
    intro _ _ len hlen
    obtain rfl := Option.some.inj hlen
    refine ⟨by simp, fun _ => ⟨by decide, .inl ⟨⟨4, by decide, by decide, by decide +kernel,
      fun j hj hle => ?_⟩, by decide +kernel⟩⟩⟩
    omega
  | succ n => cases hop

/-- A stream without EOI is returned as an image, here of no length. -/
theorem not_good_without_eoi :
    ¬ ∀ (settings : CameraSettings) (fresh : CAppMarkerWriter) (streamSize : Nat)
      (ops : List CameraOp) (c : Camera),
      Exec (functional step) (constructed settings fresh streamSize) ops c →
      ∀ r ∈ c.results, r.Good := by
  intro h
  obtain ⟨_, i, hlast⟩ := h plainSettings _ 0 _ _
    (Exec.folded step plainCamera [encodePlain (fun _ => 0) 100]) _ (List.mem_singleton.mpr rfl)
  exact absurd hlast.at_index Bool.false_ne_true

end Camera

end Universal7870.Jpeg
