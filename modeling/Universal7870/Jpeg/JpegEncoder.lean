import Universal7870.Jpeg.CompressorResults

/-!
# The encoder over the compressor

`ExynosJpegEncoder`: settings that reach the compressor when they are needed, and status codes over
the compressor's booleans and sizes.
-/

namespace Universal7870.Jpeg

open Lib CHWJpegV4L2Compressor

/-! ## 1. The encoder -/

/-- `JPEG_BUF_TYPE_*`. -/
inductive JpegBufType
  | userPtr
  | dmaBuf
  deriving DecidableEq, Repr

def JpegBufType.memory : JpegBufType → V4l2Memory
  | .userPtr => .userptr
  | .dmaBuf => .dmabuf

/-- `ExynosJpegEncoder`; the two booleans are `STATE_SIZE_CHANGED` and `STATE_PIXFMT_CHANGED`. -/
structure ExynosJpegEncoder where
  hwjpeg : Compressor
  inBufType : JpegBufType := .userPtr
  outBufType : JpegBufType := .userPtr
  sizeChanged : Bool := true
  pixfmtChanged : Bool := true
  qFactor : BitVec 32 := 0
  width : BitVec 32 := 0
  height : BitVec 32 := 0
  v4l2Format : BitVec 32 := 0
  jpegFormat : BitVec 32 := 0
  streamSize : BitVec 32 := 0

/-- The factors of `V4L2_PIX_FMT_JPEG_444`, `422`, `420`, `GRAY`, `422V` and `411`. -/
def jpegFactors (jpegFormat : BitVec 32) : Option (BitVec 32 × BitVec 32) :=
  match jpegFormat.toNat with
  | 0x3447504A => some (1, 1)
  | 0x3247504A => some (2, 1)
  | 0x3047504A => some (2, 2)
  | 0x4747504A => some (0, 0)
  | 0x3547504A => some (1, 2)
  | 0x3147504A => some (4, 1)
  | _ => none

/-- The formats whose factors the compressor takes; it has none for `422V`. -/
def jpegFormats : List (BitVec 32) := [0x3447504A, 0x3247504A, 0x3047504A, 0x4747504A, 0x3147504A]

namespace ExynosJpegEncoder

def created (b2bCapable : Bool) : ExynosJpegEncoder where
  hwjpeg := .created b2bCapable

def setSize (e : ExynosJpegEncoder) (w h : BitVec 32) : Int × ExynosJpegEncoder :=
  if e.width ≠ w ∨ e.height ≠ h then (0, { e with width := w, height := h, sizeChanged := true })
  else (0, e)

def setColorFormat (e : ExynosJpegEncoder) (v4l2ColorFormat : BitVec 32) : Int × ExynosJpegEncoder :=
  if v4l2ColorFormat ≠ e.v4l2Format then
    (0, { e with v4l2Format := v4l2ColorFormat, pixfmtChanged := true })
  else (0, e)

def setJpegFormat (e : ExynosJpegEncoder) (v4l2JpegFormat : BitVec 32) : Int × ExynosJpegEncoder :=
  if e.jpegFormat = v4l2JpegFormat then (0, e)
  else
    match jpegFactors v4l2JpegFormat with
    | none => (-1, e)
    | some (hfactor, vfactor) =>
      let r := e.hwjpeg.onControls (e.hwjpeg.controls.setChromaSampFactor hfactor vfactor)
      if r.1 = false then (-1, { e with hwjpeg := r.2 })
      else (0, { e with hwjpeg := r.2, jpegFormat := v4l2JpegFormat })

def setQuality (e : ExynosJpegEncoder) (quality : BitVec 32) : Int × ExynosJpegEncoder :=
  if e.qFactor ≠ quality then
    let r := e.hwjpeg.onControls (e.hwjpeg.controls.setQuality quality 0)
    if r.1 = false then (-1, { e with hwjpeg := r.2 })
    else (0, { e with hwjpeg := r.2, qFactor := quality })
  else (0, e)

/-- `setJpegConfig`, where `that` is the encoder whose settings it is given. -/
def setJpegConfig (e that : ExynosJpegEncoder) : Int × ExynosJpegEncoder :=
  let r := e.setColorFormat that.v4l2Format
  if r.1 = 0 then (-1, r.2)
  else
    let r := r.2.setJpegFormat that.jpegFormat
    if r.1 = 0 then (-1, r.2)
    else
      let r := r.2.setSize that.width that.height
      if r.1 = 0 then (-1, r.2)
      else (0, { r.2 with inBufType := that.inBufType, outBufType := that.outBufType })

def imageFormat (e : ExynosJpegEncoder) : ImageFormat := ⟨e.v4l2Format, e.width, e.height, 0, 0⟩

/-- `__EnsureFormatIsApplied`, with the driver's answer to TRY_FMT. -/
def ensureFormatIsApplied (e : ExynosJpegEncoder) (tryFmt : Option DriverFormat) :
    Bool × ExynosJpegEncoder :=
  if e.sizeChanged || e.pixfmtChanged then
    let r := e.hwjpeg.setImageFormat e.imageFormat tryFmt
    if r.1 = false then (false, { e with hwjpeg := r.2 })
    else (true, { e with hwjpeg := r.2, sizeChanged := false, pixfmtChanged := false })
  else (true, e)

/-- `setInBuf` with buffers of the given lengths, as many as there are planes. -/
def setInBuf (e : ExynosJpegEncoder) (bufType : JpegBufType) (lens : List Nat)
    (tryFmt : Option DriverFormat) : Int × ExynosJpegEncoder :=
  let r := e.ensureFormatIsApplied tryFmt
  if r.1 = false then (-1, r.2)
  else
    let planes := r.2.hwjpeg.format.sizeimage.length
    if 3 < planes then (-1, r.2)
    else
      let c := r.2.hwjpeg.setImageBuffer bufType.memory (lens.take planes)
      if c.1 = false then (-1, { r.2 with hwjpeg := c.2 })
      else (0, { r.2 with hwjpeg := c.2, inBufType := bufType })

def setOutBuf (e : ExynosJpegEncoder) (bufType : JpegBufType) : Int × ExynosJpegEncoder :=
  let c := e.hwjpeg.setJpegBuffer bufType.memory
  if c.1 = false then (-1, { e with hwjpeg := c.2 })
  else (0, { e with hwjpeg := c.2, outBufType := bufType })

/-- `encode`; its `return false` is a 0. -/
def encode (e : ExynosJpegEncoder) (tryFmt : Option DriverFormat) (a : CompressAnswer) :
    Int × ExynosJpegEncoder :=
  let r := e.ensureFormatIsApplied tryFmt
  if r.1 = false then (0, r.2)
  else
    let c := r.2.hwjpeg.compress true a
    let size := BitVec.ofInt 32 c.1
    (if size.toInt < 0 then -1 else 0, { r.2 with hwjpeg := c.2, streamSize := size })

end ExynosJpegEncoder

inductive EncoderCall
  | setJpegConfig (that : ExynosJpegEncoder)
  | setSize (w h : BitVec 32)
  | setColorFormat (v4l2ColorFormat : BitVec 32)
  | setJpegFormat (v4l2JpegFormat : BitVec 32)
  | setQuality (quality : BitVec 32)
  | setInBuf (bufType : JpegBufType) (lens : List Nat) (tryFmt : Option DriverFormat)
  | setOutBuf (bufType : JpegBufType)
  | encode (tryFmt : Option DriverFormat) (a : CompressAnswer)

/-- The image format that the driver has taken over behind a `Compress`. -/
def Compressor.driverFormat (s : Compressor) (a : CompressAnswer) (before : Option PixFormat) :
    Option PixFormat :=
  if s.queues.pixFmt && (s.queues.stopStreaming a.stop).1 then
    match a.srcFmt with
    | none => before
    | some format => some format.pix
  else before

/-- The encoder, and the format the driver has taken over last. -/
structure EncoderRun where
  enc : ExynosJpegEncoder
  driver : Option PixFormat := none

namespace EncoderRun

def step (s : EncoderRun) : EncoderCall → EncoderRun
  | .setJpegConfig that => { s with enc := (s.enc.setJpegConfig that).2 }
  | .setSize w h => { s with enc := (s.enc.setSize w h).2 }
  | .setColorFormat v4l2ColorFormat => { s with enc := (s.enc.setColorFormat v4l2ColorFormat).2 }
  | .setJpegFormat v4l2JpegFormat => { s with enc := (s.enc.setJpegFormat v4l2JpegFormat).2 }
  | .setQuality quality => { s with enc := (s.enc.setQuality quality).2 }
  | .setInBuf bufType lens tryFmt => { s with enc := (s.enc.setInBuf bufType lens tryFmt).2 }
  | .setOutBuf bufType => { s with enc := (s.enc.setOutBuf bufType).2 }
  | .encode tryFmt a =>
    let r := s.enc.ensureFormatIsApplied tryFmt
    { enc := (s.enc.encode tryFmt a).2
      driver := if r.1 = false then s.driver else r.2.hwjpeg.driverFormat a s.driver }

/-- The calls of a client of a new encoder. -/
def run (b2bCapable : Bool) (calls : List EncoderCall) : EncoderRun :=
  calls.foldl step { enc := .created b2bCapable }

end EncoderRun

/-! ## 2. What the status is to say -/

namespace ExynosJpegEncoder

/-- Each setting is accepted. -/
def Accepts (e that : ExynosJpegEncoder) : Prop :=
  (e.setColorFormat that.v4l2Format).1 = 0 ∧ (e.setJpegFormat that.jpegFormat).1 = 0 ∧
    (e.setSize that.width that.height).1 = 0

/-- The settings are those of the other encoder. -/
structure Configured (e that : ExynosJpegEncoder) : Prop where
  v4l2Format : e.v4l2Format = that.v4l2Format
  jpegFormat : e.jpegFormat = that.jpegFormat
  width : e.width = that.width
  height : e.height = that.height
  inBufType : e.inBufType = that.inBufType
  outBufType : e.outBufType = that.outBufType

/-- The driver takes the buffers in this call and completes them. -/
def Completes (e : ExynosJpegEncoder) (tryFmt : Option DriverFormat) (a : CompressAnswer) : Prop :=
  (e.ensureFormatIsApplied tryFmt).1 = true ∧
    ((e.ensureFormatIsApplied tryFmt).2.hwjpeg.queueBuffers a).1 = true ∧
    (a.dq.src && a.dq.dst && !a.dq.error) = true

/-- The compressor is still to be told of the format. -/
def Requests (e : ExynosJpegEncoder) : Prop :=
  (e.sizeChanged || e.pixfmtChanged) = true ∧ e.hwjpeg.format.pix ≠ pixFormat e.imageFormat

instance (e : ExynosJpegEncoder) : Decidable e.Requests := inferInstanceAs (Decidable (_ ∧ _))

/-- What the driver answers to the last S_FMT, now or before, is what is configured. -/
def DriverAgrees (e : ExynosJpegEncoder) (a : CompressAnswer) : Prop :=
  if e.hwjpeg.queues.pixFmt = true ∨ e.Requests then
    ∀ format ∈ a.srcFmt, format.pix = pixFormat e.imageFormat
  else e.hwjpeg.format.pix = pixFormat e.imageFormat

end ExynosJpegEncoder

namespace EncoderRun

/-- The status is 0 or -1, and 0 only for a compression that was completed in the call, of an image
of the configured format and size. -/
structure EncodesRight (s : EncoderRun) (tryFmt : Option DriverFormat) (a : CompressAnswer) : Prop where
  status : (s.enc.encode tryFmt a).1 = 0 ∨ (s.enc.encode tryFmt a).1 = -1
  completed : (s.enc.encode tryFmt a).1 = 0 → s.enc.Completes tryFmt a ∧
    ∃ pix, (s.step (.encode tryFmt a)).driver = some pix ∧ Designates pix s.enc.imageFormat

/-- The status is 0 exactly if all settings are accepted, and they are made then. -/
structure ConfiguresRight (e that : ExynosJpegEncoder) : Prop where
  status : (e.setJpegConfig that).1 = 0 ↔ e.Accepts that
  configured : e.Accepts that → (e.setJpegConfig that).2.Configured that

def CallRight (s : EncoderRun) : EncoderCall → Prop
  | .encode tryFmt a => s.EncodesRight tryFmt a
  | .setJpegConfig that => ConfiguresRight s.enc that
  | _ => True

/-- For `encode`: the format is not refused, and a compression that is completed is one of the format
that was asked for.  For `setJpegConfig`: the JPEG format is refused. -/
def CallFits (s : EncoderRun) : EncoderCall → Prop
  | .encode tryFmt a =>
    ¬(s.enc.Requests ∧ tryFmt = none) ∧
      (s.enc.Completes tryFmt a → a.dq.streamSize.toNat < 2 ^ 31 →
        Fits s.enc.imageFormat ∧ s.enc.DriverAgrees a)
  | .setJpegConfig that => s.enc.jpegFormat ≠ that.jpegFormat ∧ that.jpegFormat ∉ jpegFormats
  | _ => True

end EncoderRun

/-! ## 3. The format through a compression -/

theorem andThen_failed {σ : Type*} {r : Bool × σ} (h : r.1 = false) (f : σ → Bool × σ) :
    andThen r f = r := if_pos h

theorem andThen_ok {σ : Type*} {r : Bool × σ} (h : r.1 = true) (f : σ → Bool × σ) :
    andThen r f = f r.2 := by
  unfold andThen
  rw [h]
  exact if_neg nofun

namespace Compressor

variable {s : Compressor}

/-- Neither the format nor the flag that it is not applied changes. -/
def SameFormat (s t : Compressor) : Prop := t.format = s.format ∧ t.queues.pixFmt = s.queues.pixFmt

theorem reqBufsWith_pixFmt (q : CodecQueues) (wanted : Bool) (src dst : VideoRequest V4l2Memory)
    (a : ReqbufsAnswer) : (q.reqBufsWith wanted src dst a).2.pixFmt = q.pixFmt := by
  unfold CodecQueues.reqBufsWith
  dsimp only
  split
  · rfl
  · split
    · rfl
    · split
      · rfl
      · rfl

theorem stopStreaming_pixFmt (q : CodecQueues) (a : StopAnswer) :
    (q.stopStreaming a).2.pixFmt = q.pixFmt :=
  (reqBufsWith_pixFmt _ false .release .release a.reqbufs).trans
    (CodecQueues.streamOff_flags a.srcOff a.dstOff).2.2

theorem streamOn_pixFmt (q : CodecQueues) (a : StreamOnAnswer) :
    (q.streamOn a).2.pixFmt = q.pixFmt := by
  unfold CodecQueues.streamOn
  dsimp only
  split
  · rfl
  · split
    · rfl
    · split
      · rfl
      · split
        · rfl
        · rfl

theorem qBuf_sameFormat (src dst : V4l2Memory) (a : CompressAnswer) :
    s.SameFormat (s.qBuf src dst a).2 := by
  unfold qBuf
  dsimp only
  split
  · exact ⟨rfl, rfl⟩
  · split
    · exact ⟨rfl, rfl⟩
    · split
      · exact ⟨rfl, stopStreaming_pixFmt _ a.cancel⟩
      · exact ⟨rfl, rfl⟩

theorem startCodec_sameFormat (src dst : V4l2Memory) (a : CompressAnswer) :
    s.SameFormat (s.startCodec src dst a).2 := by
  unfold startCodec
  have hreqd : s.SameFormat (s.onQueues (s.queues.reqBufs src dst a.reqbufs)).2 :=
    ⟨rfl, reqBufsWith_pixFmt _ true (.request src) (.request dst) a.reqbufs⟩
  refine andThen_induct (P := s.SameFormat) hreqd fun _ => ?_
  have hstarted := (streamOn_pixFmt (s.queues.reqBufs src dst a.reqbufs).2 a.streamOn).trans hreqd.2
  refine andThen_induct (P := s.SameFormat) ⟨rfl, hstarted⟩ fun _ => ?_
  refine andThen_induct (P := s.SameFormat) ⟨rfl, hstarted⟩ fun _ => ?_
  obtain ⟨hformat, hpix⟩ := qBuf_sameFormat src dst a
  exact ⟨hformat, hpix.trans hstarted⟩

theorem compressBuffers_sameFormat (a : CompressAnswer) :
    s.SameFormat (s.compressBuffers a).2 := by
  unfold compressBuffers
  split
  · split
    · exact ⟨rfl, rfl⟩
    · exact startCodec_sameFormat (s := { s with controls := s.controls.markBuffers }) _ _ a
  · exact ⟨rfl, rfl⟩

theorem dqBuf_sameFormat (a : DqAnswer) : s.SameFormat (s.dqBuf a).2 := by
  unfold dqBuf
  dsimp only
  split
  · exact ⟨rfl, rfl⟩
  · exact ⟨rfl, rfl⟩

/-- The flag is cleared once the driver has taken over the format. -/
theorem applyFormat_driver {before : Option PixFormat} (a : CompressAnswer)
    (h : s.queues.pixFmt = false → before = some s.format.pix) :
    (s.applyFormat a).2.queues.pixFmt = false →
      s.driverFormat a before = some (s.applyFormat a).2.format.pix := by
  unfold applyFormat driverFormat
  cases hpix : s.queues.pixFmt with
  | false =>
    rw [if_pos rfl]
    exact fun _ => h hpix
  | true =>
    rw [if_neg nofun]
    have hkept := stopStreaming_pixFmt s.queues a.stop
    cases hstop : (s.queues.stopStreaming a.stop).1 with
    | false =>
      rw [andThen_failed (r := s.onQueues _) hstop]
      exact fun hcleared => absurd (hcleared.symm.trans (hkept.trans hpix)) nofun
    | true =>
      rw [andThen_ok (r := s.onQueues _) hstop]
      unfold setFormat
      cases a.srcFmt with
      | none => exact fun hcleared => absurd (hcleared.symm.trans (hkept.trans hpix)) nofun
      | some format => exact fun _ => rfl

/-- What a `Compress` that has queued its buffers has made of the format. -/
theorem queueBuffers_format (a : CompressAnswer) (h : (s.queueBuffers a).1 = true) :
    (s.applyFormat a).1 = true ∧ s.SameFormat (s.applyFormat a).2 ∧ s.queues.pixFmt = false ∨
      (s.applyFormat a).1 = true ∧ s.queues.pixFmt = true ∧ (s.queues.stopStreaming a.stop).1 = true ∧
        ∃ format, a.srcFmt = some format ∧ (s.applyFormat a).2.queues.pixFmt = false ∧
          (s.applyFormat a).2.format = format := by
  have happlied : (s.applyFormat a).1 = true := by
    unfold queueBuffers andThen at h
    split at h
    · exact h
    · rename_i hok
      exact Bool.of_not_eq_false hok
  unfold applyFormat at happlied ⊢
  cases hpix : s.queues.pixFmt with
  | false => exact .inl ⟨rfl, ⟨rfl, rfl⟩, rfl⟩
  | true =>
    rw [hpix, if_neg nofun] at happlied
    rw [if_neg nofun]
    refine .inr ⟨happlied, rfl, ?_⟩
    cases hstop : (s.queues.stopStreaming a.stop).1 with
    | false =>
      rw [andThen_failed (r := s.onQueues _) hstop] at happlied
      exact absurd (hstop.symm.trans happlied) nofun
    | true =>
      rw [andThen_ok (r := s.onQueues _) hstop] at happlied ⊢
      refine ⟨rfl, ?_⟩
      unfold setFormat at happlied ⊢
      cases hsrc : a.srcFmt with
      | none =>
        rw [hsrc] at happlied
        cases happlied
      | some format =>
        rw [hsrc] at happlied
        have hdst : a.dstFmt = true := happlied
        refine ⟨format, rfl, ?_, rfl⟩
        dsimp only
        rw [hdst, Bool.not_true, Bool.and_false]

theorem compress_eq_queueBuffers (a : CompressAnswer) : s.compress true a =
    if (s.queueBuffers a).1 = false then (-1, (s.queueBuffers a).2)
    else (s.queueBuffers a).2.dqBuf a.dq := rfl

theorem compress_driver {before : Option PixFormat} (a : CompressAnswer)
    (h : s.queues.pixFmt = false → before = some s.format.pix) :
    (s.compress true a).2.queues.pixFmt = false →
      s.driverFormat a before = some (s.compress true a).2.format.pix := by
  have hsame : (s.applyFormat a).2.SameFormat (s.compress true a).2 := by
    have hqueued : (s.applyFormat a).2.SameFormat (s.queueBuffers a).2 :=
      andThen_induct (P := (s.applyFormat a).2.SameFormat) ⟨rfl, rfl⟩
        fun _ => compressBuffers_sameFormat a
    rw [compress_eq_queueBuffers]
    split
    · exact hqueued
    · obtain ⟨hformat, hpix⟩ := dqBuf_sameFormat (s := (s.queueBuffers a).2) a.dq
      exact ⟨hformat.trans hqueued.1, hpix.trans hqueued.2⟩
  intro hcleared
  rw [hsame.1]
  exact applyFormat_driver a h (hsame.2.symm.trans hcleared)

/-- What a blocking `Compress` returns. -/
theorem compress_size (a : CompressAnswer) :
    ((s.queueBuffers a).1 = true ∧ (a.dq.src && a.dq.dst && !a.dq.error) = true →
      (s.compress true a).1 = a.dq.streamSize.toNat) ∧
    (¬((s.queueBuffers a).1 = true ∧ (a.dq.src && a.dq.dst && !a.dq.error) = true) →
      (s.compress true a).1 = -1) := by
  rw [compress_eq_queueBuffers]
  cases hok : (s.queueBuffers a).1 with
  | false => exact ⟨fun h => absurd h.1 nofun, fun _ => rfl⟩
  | true =>
    have hreport := dqBuf_of_marked ((queueBuffers_marks a).1 hok) a.dq
    rw [if_neg nofun]
    rcases CompressionRun.outcome_completed_or_failed a.dq with ⟨hdone, hout⟩ | ⟨hfail, hout⟩
    · rw [hout] at hreport
      exact ⟨fun _ => hreport.1, fun h => absurd ⟨rfl, hdone⟩ h⟩
    · rw [hout] at hreport
      exact ⟨fun h => absurd (hfail.symm.trans h.2) nofun, fun _ => hreport⟩

end Compressor

/-! ## 4. The settings -/

namespace ExynosJpegEncoder

variable {e : ExynosJpegEncoder}

theorem setColorFormat_status (v4l2ColorFormat : BitVec 32) :
    (e.setColorFormat v4l2ColorFormat).1 = 0 := by
  unfold setColorFormat
  split
  · rfl
  · rfl

theorem setSize_status (w h : BitVec 32) : (e.setSize w h).1 = 0 := by
  unfold setSize
  split
  · rfl
  · rfl

theorem setColorFormat_hwjpeg (v4l2ColorFormat : BitVec 32) :
    (e.setColorFormat v4l2ColorFormat).2.hwjpeg = e.hwjpeg := by
  unfold setColorFormat
  split
  · rfl
  · rfl

/-- The colour format, which is never refused, is taken for refused. -/
theorem setJpegConfig_eq (e that : ExynosJpegEncoder) :
    e.setJpegConfig that = (-1, (e.setColorFormat that.v4l2Format).2) :=
  if_pos (setColorFormat_status that.v4l2Format)

theorem jpegFormat_known {f : BitVec 32} (h : f.toNat = 0x3447504A ∨ f.toNat = 0x3247504A ∨
    f.toNat = 0x3047504A ∨ f.toNat = 0x4747504A ∨ f.toNat = 0x3147504A) : f ∈ jpegFormats := by
  have heq (n : Nat) (hn : f.toNat = n) : f = BitVec.ofNat 32 n := by
    rw [← hn, BitVec.ofNat_toNat, BitVec.setWidth_eq]
  rcases h with h | h | h | h | h <;> rw [heq _ h] <;> decide

/-- The formats that are not refused. -/
theorem setJpegFormat_status (f : BitVec 32) :
    (e.setJpegFormat f).1 = 0 ↔ e.jpegFormat = f ∨ f ∈ jpegFormats := by
  unfold setJpegFormat
  by_cases hsame : e.jpegFormat = f
  · rw [if_pos hsame]
    exact iff_of_true rfl (.inl hsame)
  · rw [if_neg hsame, or_iff_right hsame]
    constructor
    · unfold jpegFactors
      split
      · nofun
      · rename_i hfactors
        intro hstatus
        split at hfactors
        · exact jpegFormat_known (.inl ‹_›)
        · exact jpegFormat_known (.inr (.inl ‹_›))
        · exact jpegFormat_known (.inr (.inr (.inl ‹_›)))
        · exact jpegFormat_known (.inr (.inr (.inr (.inl ‹_›))))
        · obtain ⟨rfl, rfl⟩ := Prod.mk.inj (Option.some.inj hfactors)
          cases hstatus
        · exact jpegFormat_known (.inr (.inr (.inr (.inr ‹_›))))
        · cases hfactors
    · intro hmem
      unfold jpegFormats at hmem
      simp only [List.mem_cons, List.not_mem_nil, or_false] at hmem
      rcases hmem with rfl | rfl | rfl | rfl | rfl <;> rfl

theorem setJpegFormat_hwjpeg (f : BitVec 32) :
    (e.setJpegFormat f).2.hwjpeg.format = e.hwjpeg.format ∧
      (e.setJpegFormat f).2.hwjpeg.queues = e.hwjpeg.queues := by
  unfold setJpegFormat
  split
  · exact ⟨rfl, rfl⟩
  · split
    · exact ⟨rfl, rfl⟩
    · dsimp only
      split
      · exact ⟨rfl, rfl⟩
      · exact ⟨rfl, rfl⟩

theorem setQuality_hwjpeg (quality : BitVec 32) :
    (e.setQuality quality).2.hwjpeg.format = e.hwjpeg.format ∧
      (e.setQuality quality).2.hwjpeg.queues = e.hwjpeg.queues := by
  unfold setQuality
  split
  · dsimp only
    split
    · exact ⟨rfl, rfl⟩
    · exact ⟨rfl, rfl⟩
  · exact ⟨rfl, rfl⟩

/-- Settings that are accepted are made, but the status says otherwise. -/
theorem configuresRight_iff (e that : ExynosJpegEncoder) : EncoderRun.ConfiguresRight e that ↔
    e.jpegFormat ≠ that.jpegFormat ∧ that.jpegFormat ∉ jpegFormats := by
  have hfailed : ¬(e.setJpegConfig that).1 = 0 := by
    rw [setJpegConfig_eq]
    nofun
  have haccepts : e.Accepts that ↔ e.jpegFormat = that.jpegFormat ∨ that.jpegFormat ∈ jpegFormats := by
    unfold Accepts
    rw [← setJpegFormat_status (e := e)]
    exact ⟨fun h => h.2.1, fun h => ⟨setColorFormat_status _, h, setSize_status _ _⟩⟩
  rw [ne_eq, ← not_or, ← haccepts]
  exact ⟨fun h haccepted => hfailed (h.status.mpr haccepted),
    fun h => ⟨iff_of_false hfailed h, fun haccepted => absurd haccepted h⟩⟩

/-! ## 5. The format when it is needed -/

theorem ensure_of_not_requests (h : ¬e.Requests) (tryFmt : Option DriverFormat) :
    (e.ensureFormatIsApplied tryFmt).1 = true ∧
      (e.ensureFormatIsApplied tryFmt).2.hwjpeg = e.hwjpeg := by
  unfold ensureFormatIsApplied
  split
  · rename_i hchanged
    have hpix : e.hwjpeg.format.pix = pixFormat e.imageFormat :=
      Decidable.not_not.mp fun hne => h ⟨hchanged, hne⟩
    have hset : e.hwjpeg.setImageFormat e.imageFormat tryFmt = (true, e.hwjpeg) := if_pos hpix
    rw [hset]
    exact ⟨rfl, rfl⟩
  · exact ⟨rfl, rfl⟩

theorem ensure_of_requests (h : e.Requests) (tryFmt : Option DriverFormat) :
    (e.ensureFormatIsApplied tryFmt).1 = tryFmt.isSome ∧
      (e.ensureFormatIsApplied tryFmt).2.hwjpeg.queues.pixFmt = true := by
  unfold ensureFormatIsApplied
  rw [if_pos h.1]
  have hset : e.hwjpeg.setImageFormat e.imageFormat tryFmt = (tryFmt.isSome, { e.hwjpeg with
      format := tryFmt.getD ⟨pixFormat e.imageFormat, e.hwjpeg.format.sizeimage⟩
      queues := { e.hwjpeg.queues with pixFmt := true } }) := if_neg h.2
  rw [hset]
  cases tryFmt with
  | none => exact ⟨rfl, rfl⟩
  | some format => exact ⟨rfl, rfl⟩

theorem ensure_eq_true_iff (tryFmt : Option DriverFormat) :
    (e.ensureFormatIsApplied tryFmt).1 = true ↔ ¬(e.Requests ∧ tryFmt = none) := by
  by_cases hreq : e.Requests
  · rw [(ensure_of_requests hreq tryFmt).1, Option.isSome_iff_ne_none, and_iff_right hreq]
  · exact iff_of_true (ensure_of_not_requests hreq tryFmt).1 fun h => hreq h.1

/-- The format is to be applied by the compression. -/
theorem ensure_pixFmt (tryFmt : Option DriverFormat) :
    (e.ensureFormatIsApplied tryFmt).2.hwjpeg.queues.pixFmt = true ↔
      e.hwjpeg.queues.pixFmt = true ∨ e.Requests := by
  by_cases hreq : e.Requests
  · exact iff_of_true (ensure_of_requests hreq tryFmt).2 (.inr hreq)
  · rw [(ensure_of_not_requests hreq tryFmt).2, or_iff_left hreq]

theorem setInBuf_hwjpeg (bufType : JpegBufType) (lens : List Nat) (tryFmt : Option DriverFormat) :
    (e.ensureFormatIsApplied tryFmt).2.hwjpeg.SameFormat (e.setInBuf bufType lens tryFmt).2.hwjpeg := by
  have hkept (c : Compressor) (memory : V4l2Memory) (lens : List Nat) :
      c.SameFormat (c.setImageBuffer memory lens).2 := by
    unfold Compressor.setImageBuffer
    split
    · exact ⟨rfl, rfl⟩
    · split
      · exact ⟨rfl, rfl⟩
      · exact ⟨rfl, rfl⟩
  unfold setInBuf
  dsimp only
  split
  · exact ⟨rfl, rfl⟩
  · split
    · exact ⟨rfl, rfl⟩
    · split
      · exact hkept _ _ _
      · exact hkept _ _ _

end ExynosJpegEncoder

/-! ## 6. Compressions -/

theorem designates_iff {p : PixFormat} {q : ImageFormat} :
    Designates p q ↔ p = pixFormat q ∧ Fits q := by
  constructor
  · exact Designates.eq_pixFormat
  · rintro ⟨rfl, hfits⟩
    exact designates_pixFormat hfits

theorem toInt_ofInt_neg (n : BitVec 32) : (BitVec.ofInt 32 n.toNat).toInt < 0 ↔ ¬n.toNat < 2 ^ 31 := by
  have heq : BitVec.ofInt 32 n.toNat = n := by
    rw [BitVec.ofInt_natCast, BitVec.ofNat_toNat, BitVec.setWidth_eq]
  rw [heq, BitVec.toInt_eq_toNat_cond]
  have hlt := n.isLt
  split <;> omega

namespace EncoderRun

variable {s : EncoderRun}

/-- Once the format is applied, it is the driver's. -/
def Driven (s : EncoderRun) : Prop :=
  s.enc.hwjpeg.queues.pixFmt = false → s.driver = some s.enc.hwjpeg.format.pix

theorem Driven.ensure (h : s.Driven) (tryFmt : Option DriverFormat) :
    (s.enc.ensureFormatIsApplied tryFmt).2.hwjpeg.queues.pixFmt = false →
      s.driver = some (s.enc.ensureFormatIsApplied tryFmt).2.hwjpeg.format.pix := by
  intro hcleared
  have hreq : ¬s.enc.Requests := fun hreq =>
    absurd (hcleared.symm.trans (ExynosJpegEncoder.ensure_of_requests hreq tryFmt).2) nofun
  rw [(ExynosJpegEncoder.ensure_of_not_requests hreq tryFmt).2] at hcleared ⊢
  exact h hcleared

theorem Driven.of_same (h : s.Driven) {t : EncoderRun} (hdriver : t.driver = s.driver)
    (hformat : t.enc.hwjpeg.format = s.enc.hwjpeg.format)
    (hqueues : t.enc.hwjpeg.queues = s.enc.hwjpeg.queues) : t.Driven := by
  unfold Driven
  rw [hdriver, hformat, hqueues]
  exact h

theorem Driven.step (h : s.Driven) (call : EncoderCall) : (s.step call).Driven := by
  cases call with
  | setJpegConfig that =>
    have hkept : (s.enc.setJpegConfig that).2.hwjpeg = s.enc.hwjpeg := by
      rw [ExynosJpegEncoder.setJpegConfig_eq]
      exact ExynosJpegEncoder.setColorFormat_hwjpeg that.v4l2Format
    exact h.of_same rfl (congrArg Compressor.format hkept) (congrArg Compressor.queues hkept)
  | setSize w height =>
    have hkept : (s.enc.setSize w height).2.hwjpeg = s.enc.hwjpeg := by
      unfold ExynosJpegEncoder.setSize
      split
      · rfl
      · rfl
    exact h.of_same rfl (congrArg Compressor.format hkept) (congrArg Compressor.queues hkept)
  | setColorFormat v4l2ColorFormat =>
    have hkept := ExynosJpegEncoder.setColorFormat_hwjpeg (e := s.enc) v4l2ColorFormat
    exact h.of_same rfl (congrArg Compressor.format hkept) (congrArg Compressor.queues hkept)
  | setJpegFormat f =>
    obtain ⟨hformat, hqueues⟩ := ExynosJpegEncoder.setJpegFormat_hwjpeg (e := s.enc) f
    exact h.of_same rfl hformat hqueues
  | setQuality quality =>
    obtain ⟨hformat, hqueues⟩ := ExynosJpegEncoder.setQuality_hwjpeg (e := s.enc) quality
    exact h.of_same rfl hformat hqueues
  | setInBuf bufType lens tryFmt =>
    obtain ⟨hformat, hpix⟩ := ExynosJpegEncoder.setInBuf_hwjpeg (e := s.enc) bufType lens tryFmt
    intro hcleared
    change s.driver = some (s.enc.setInBuf bufType lens tryFmt).2.hwjpeg.format.pix
    rw [hformat]
    exact h.ensure tryFmt (hpix.symm.trans hcleared)
  | setOutBuf bufType => exact h.of_same rfl rfl rfl
  | encode tryFmt a =>
    unfold Driven EncoderRun.step ExynosJpegEncoder.encode
    dsimp only
    cases hok : (s.enc.ensureFormatIsApplied tryFmt).1 with
    | false => exact h.ensure tryFmt
    | true => exact Compressor.compress_driver a (h.ensure tryFmt)

theorem driven_run (b2bCapable : Bool) (calls : List EncoderCall) : (run b2bCapable calls).Driven :=
  Exec.invariant (fun s call t hs hstep => by
    obtain rfl : s.step call = t := hstep
    exact hs.step call) (Exec.folded step _ calls) nofun

/-- A completed compression is of the configured format just if the driver agrees to it. -/
theorem Driven.designates_iff (h : s.Driven) {tryFmt : Option DriverFormat} {a : CompressAnswer}
    (hcompletes : s.enc.Completes tryFmt a) :
    (∃ pix, (s.step (.encode tryFmt a)).driver = some pix ∧ Designates pix s.enc.imageFormat) ↔
      Fits s.enc.imageFormat ∧ s.enc.DriverAgrees a := by
  obtain ⟨hok, hqueued, -⟩ := hcompletes
  have hensured : ¬(s.enc.ensureFormatIsApplied tryFmt).1 = false := by
    rw [hok]
    nofun
  have hdriver : (s.step (.encode tryFmt a)).driver =
      (s.enc.ensureFormatIsApplied tryFmt).2.hwjpeg.driverFormat a s.driver := if_neg hensured
  have hpixFmt := ExynosJpegEncoder.ensure_pixFmt (e := s.enc) tryFmt
  rw [hdriver]
  unfold Compressor.driverFormat ExynosJpegEncoder.DriverAgrees
  rcases Compressor.queueBuffers_format a hqueued with
    ⟨-, -, happlied⟩ | ⟨-, hpix, hstop, format, hsrc, -, -⟩
  · have hnot : ¬(s.enc.hwjpeg.queues.pixFmt = true ∨ s.enc.Requests) := by
      rw [← hpixFmt, happlied]
      nofun
    have hreq : ¬s.enc.Requests := fun hreq => hnot (.inr hreq)
    have hsame := (ExynosJpegEncoder.ensure_of_not_requests hreq tryFmt).2
    rw [happlied, Bool.false_and, if_neg nofun, if_neg hnot, h.ensure tryFmt happlied, hsame]
    constructor
    · rintro ⟨pix, hpix, hdesignates⟩
      obtain rfl := Option.some.inj hpix
      exact (Universal7870.Jpeg.designates_iff.mp hdesignates).symm
    · intro hagrees
      exact ⟨_, rfl, Universal7870.Jpeg.designates_iff.mpr hagrees.symm⟩
  · rw [hpix, hstop, Bool.and_self, if_pos rfl, if_pos (hpixFmt.mp hpix), hsrc]
    constructor
    · rintro ⟨pix, hpix, hdesignates⟩
      obtain rfl := Option.some.inj hpix
      obtain ⟨heq, hfits⟩ := Universal7870.Jpeg.designates_iff.mp hdesignates
      exact ⟨hfits, fun f hf => Option.some.inj hf ▸ heq⟩
    · rintro ⟨hfits, hagrees⟩
      exact ⟨_, rfl, Universal7870.Jpeg.designates_iff.mpr ⟨hagrees format rfl, hfits⟩⟩

theorem Driven.encodesRight_iff (h : s.Driven) (tryFmt : Option DriverFormat) (a : CompressAnswer) :
    s.EncodesRight tryFmt a ↔ s.CallFits (.encode tryFmt a) := by
  have hensure := ExynosJpegEncoder.ensure_eq_true_iff (e := s.enc) tryFmt
  change _ ↔ _ ∧ _
  rw [← hensure]
  cases hok : (s.enc.ensureFormatIsApplied tryFmt).1 with
  | false =>
    have hzero : (s.enc.encode tryFmt a).1 = 0 := congrArg Prod.fst (if_pos hok)
    refine iff_of_false (fun hright => ?_) fun hfits => absurd hfits.1 nofun
    exact absurd (hok.symm.trans (hright.completed hzero).1.1) nofun
  | true =>
    rw [and_iff_right rfl]
    have hensured : ¬(s.enc.ensureFormatIsApplied tryFmt).1 = false := by
      rw [hok]
      nofun
    have hstatus : (s.enc.encode tryFmt a).1 =
        if (BitVec.ofInt 32
          ((s.enc.ensureFormatIsApplied tryFmt).2.hwjpeg.compress true a).1).toInt < 0 then -1 else 0 :=
      congrArg Prod.fst (if_neg hensured)
    obtain ⟨hsize, hfailed⟩ :=
      Compressor.compress_size (s := (s.enc.ensureFormatIsApplied tryFmt).2.hwjpeg) a
    by_cases hcompletes : s.enc.Completes tryFmt a
    · rw [hsize hcompletes.2] at hstatus
      by_cases hlt : a.dq.streamSize.toNat < 2 ^ 31
      · rw [if_neg fun hneg => (toInt_ofInt_neg _).mp hneg hlt] at hstatus
        rw [← h.designates_iff hcompletes]
        exact ⟨fun hright _ _ => (hright.completed hstatus).2,
          fun hfits => ⟨.inl hstatus, fun _ => ⟨hcompletes, hfits hcompletes hlt⟩⟩⟩
      · rw [if_pos ((toInt_ofInt_neg _).mpr hlt)] at hstatus
        refine iff_of_true ⟨.inr hstatus, fun hzero => ?_⟩ fun _ hlt' => absurd hlt' hlt
        exact absurd (hstatus.symm.trans hzero) nofun
    · rw [hfailed fun hdone => hcompletes ⟨hok, hdone⟩] at hstatus
      refine iff_of_true ⟨.inr hstatus, fun hzero => ?_⟩ fun hdone => absurd hdone hcompletes
      exact absurd (hstatus.symm.trans hzero) (by decide)

/-- The status of each call, behind any calls, says what it should just if the driver does not refuse
the format, completes only the format that is configured, and no settings are accepted together. -/
theorem run_callRight_iff (b2bCapable : Bool) (calls : List EncoderCall) (call : EncoderCall) :
    (run b2bCapable calls).CallRight call ↔ (run b2bCapable calls).CallFits call := by
  cases call with
  | encode tryFmt a => exact (driven_run b2bCapable calls).encodesRight_iff tryFmt a
  | setJpegConfig that => exact ExynosJpegEncoder.configuresRight_iff _ that
  | setSize | setColorFormat | setJpegFormat | setQuality | setInBuf | setOutBuf => exact Iff.rfl

/-- The first format of an encoder is refused, and the status is that of a success. -/
theorem refused_format_succeeds :
    ¬(run false [.setColorFormat v4l2PixFmtRgb24, .setSize 32 32]).CallRight
      (.encode none Compressor.grantAll) := by
  intro hright
  have hdone := (hright.completed rfl).1.1
  cases hdone

end EncoderRun

end Universal7870.Jpeg
