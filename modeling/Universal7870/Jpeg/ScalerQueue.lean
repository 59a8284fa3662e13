import Universal7870.Lib.Run
import Universal7870.Lib.VideoDevice

/-!
# The scaler that makes the thumbnail image

`LibScalerForJpeg` keeps one field of what the driver holds for each of its two images.  What the
driver answers to an ioctl is an argument of the call that makes it.
-/

namespace Universal7870.Jpeg

open Lib

inductive V4l2Memory
  | mmap
  | userptr
  | overlay
  | dmabuf
  deriving DecidableEq, Repr

/-- The buffer types of the source and of the destination. -/
inductive BufType
  | videoOutputMplane
  | videoCaptureMplane
  deriving DecidableEq, Repr

abbrev V4l2Device := VideoDevice BufType V4l2Memory

/-! ## 1. The code -/

/-- `LibScalerForJpeg::Image`; the memory type 0 is `none`. -/
structure ScalerImage where
  width : BitVec 32
  height : BitVec 32
  format : BitVec 32
  memoryType : Option V4l2Memory
  planeLen : List (BitVec 32)
  deriving DecidableEq, Repr

def ScalerImage.same (i : ScalerImage) (w h f : BitVec 32) : Bool :=
  i.width == w && i.height == h && i.format == f

structure LibScalerForJpeg where
  device : V4l2Device
  image : BufType → ScalerImage

/-- What the driver says to a STREAMOFF and to the REQBUFS(0) after it. -/
structure ReleaseAnswer where
  streamOff : Bool
  reqbufs : Bool
  deriving DecidableEq, Repr

/-- What the driver says to a STREAMOFF and to the STREAMON after it. -/
structure CancelAnswer where
  streamOff : Bool
  streamOn : Bool
  deriving DecidableEq, Repr

/-- What the driver says to the QBUF and the DQBUF of both images and while they are cancelled. -/
structure QueueAnswer where
  srcQbuf : Bool
  dstQbuf : Bool
  srcDqbuf : Bool
  dstDqbuf : Bool
  srcCancel : CancelAnswer
  dstCancel : CancelAnswer
  deriving DecidableEq, Repr

/-- `Device::requestBuffers` for no buffers: the port has to be stopped first. -/
def releaseBuffers (d : V4l2Device) (t : BufType) (answer : ReleaseAnswer) : Bool × V4l2Device :=
  (answer.reqbufs, (d.ask t .streamOff answer.streamOff).ask t .release answer.reqbufs)

namespace LibScalerForJpeg

/-- `V4L2_PIX_FMT_YUYV`. -/
def pixFmtYuyv : BitVec 32 := 0x56595559#32

def initial : LibScalerForJpeg where
  device := ⟨fun _ => .idle, []⟩
  image := fun _ => ⟨0, 0, pixFmtYuyv, none, []⟩

def setMemoryType (s : LibScalerForJpeg) (t : BufType) (m : Option V4l2Memory) :
    LibScalerForJpeg :=
  { s with image := Function.update s.image t { s.image t with memoryType := m } }

/-- The release that `set` and `begin` make of buffers requested before. -/
def releaseOld (s : LibScalerForJpeg) (t : BufType) (answer : ReleaseAnswer) :
    Bool × LibScalerForJpeg :=
  match (s.image t).memoryType with
  | none => (true, s)
  | some _ =>
    let r := releaseBuffers s.device t answer
    (r.1, { s with device := r.2 })

/-- `Device::setFormat`, then the new REQBUFS that it calls for. -/
def applyFormat (s : LibScalerForJpeg) (t : BufType) :
    Option (List (BitVec 32)) → Bool × LibScalerForJpeg
  | none => (false, { s with device := s.device.ask t .setFormat false })
  | some sizes =>
    let image := s.image t
    (true, { device := s.device.ask t .setFormat true
             image := Function.update s.image t { image with
               planeLen := sizes ++ image.planeLen.drop sizes.length
               memoryType := none } })

/-- `Image::set`; the driver's answer to S_FMT is the plane sizes.  The width, the height and the
format stay as they were. -/
def set (s : LibScalerForJpeg) (t : BufType) (width height format : BitVec 32)
    (release : ReleaseAnswer) (sFmt : Option (List (BitVec 32))) : Bool × LibScalerForJpeg :=
  if (s.image t).same width height format then (true, s)
  else
    let r := s.releaseOld t release
    if r.1 = false then (false, r.2) else r.2.applyFormat t sFmt

/-- The REQBUFS(1) and the STREAMON of `Image::begin`. -/
def startNew (s : LibScalerForJpeg) (t : BufType) (memtype : V4l2Memory)
    (reqbufs streamOn : Bool) : Bool × LibScalerForJpeg :=
  let requested := s.device.ask t (.request memtype) reqbufs
  if reqbufs = false then (false, { s with device := requested })
  else
    let started := requested.ask t .streamOn streamOn
    if streamOn = false then (false, { s with device := started })
    else (true, setMemoryType { s with device := started } t (some memtype))

/-- `Image::begin`. -/
def begin (s : LibScalerForJpeg) (t : BufType) (memtype : V4l2Memory) (release : ReleaseAnswer)
    (reqbufs streamOn : Bool) : Bool × LibScalerForJpeg :=
  if (s.image t).memoryType = some memtype then (true, s)
  else
    let r := s.releaseOld t release
    if r.1 = false then (false, r.2) else r.2.startNew t memtype reqbufs streamOn

/-- `Image::cancelBuffer`. -/
def cancelBuffer (s : LibScalerForJpeg) (t : BufType) (answer : CancelAnswer) : LibScalerForJpeg :=
  let stopped := s.device.ask t .streamOff answer.streamOff
  if answer.streamOff = false then { s with device := stopped }
  else { s with device := stopped.ask t .streamOn answer.streamOn }

def queueBuffer (s : LibScalerForJpeg) (t : BufType) (memtype : V4l2Memory) (granted : Bool) :
    LibScalerForJpeg :=
  { s with device := s.device.ask t (.enqueue memtype) granted }

/-- `queue`: the source buffer has the memory type of the overload, the destination is a
dma-buf. -/
def queue (s : LibScalerForJpeg) (srcMemory : V4l2Memory) (answer : QueueAnswer) :
    Bool × LibScalerForJpeg :=
  let s := s.queueBuffer .videoOutputMplane srcMemory answer.srcQbuf
  if answer.srcQbuf = false then (false, s)
  else
    let s := s.queueBuffer .videoCaptureMplane .dmabuf answer.dstQbuf
    if answer.dstQbuf = false then (false, s.cancelBuffer .videoOutputMplane answer.srcCancel)
    else if answer.srcDqbuf = false ∨ answer.dstDqbuf = false then
      (false, (s.cancelBuffer .videoOutputMplane answer.srcCancel).cancelBuffer
        .videoCaptureMplane answer.dstCancel)
    else (true, s)

end LibScalerForJpeg

/-- The operations on the two images, with the driver's answers. -/
inductive ScalerCall
  | set (t : BufType) (width height format : BitVec 32) (release : ReleaseAnswer)
      (sFmt : Option (List (BitVec 32)))
  | begin (t : BufType) (memtype : V4l2Memory) (release : ReleaseAnswer)
      (reqbufs streamOn : Bool)
  | queue (srcMemory : V4l2Memory) (answer : QueueAnswer)
  deriving DecidableEq, Repr

namespace LibScalerForJpeg

/-- Both images have begun: what `RunStream` has made sure of when it queues. -/
def Begun (s : LibScalerForJpeg) (srcMemory : V4l2Memory) : Prop :=
  (s.image .videoOutputMplane).memoryType = some srcMemory ∧
    (s.image .videoCaptureMplane).memoryType = some .dmabuf

instance (s : LibScalerForJpeg) (srcMemory : V4l2Memory) : Decidable (s.Begun srcMemory) :=
  inferInstanceAs (Decidable (_ ∧ _))

def step (s : LibScalerForJpeg) : ScalerCall → Option LibScalerForJpeg
  | .set t width height format release sFmt => some (s.set t width height format release sFmt).2
  | .begin t memtype release reqbufs streamOn =>
    some (s.begin t memtype release reqbufs streamOn).2
  | .queue srcMemory answer =>
    if s.Begun srcMemory then some (s.queue srcMemory answer).2 else none

/-- `RunStream`. -/
def runStream (s : LibScalerForJpeg) (srcMemory : V4l2Memory)
    (srcRelease : ReleaseAnswer) (srcReqbufs srcStreamOn : Bool)
    (dstRelease : ReleaseAnswer) (dstReqbufs dstStreamOn : Bool) (answer : QueueAnswer) :
    Bool × LibScalerForJpeg :=
  let src := s.begin .videoOutputMplane srcMemory srcRelease srcReqbufs srcStreamOn
  if src.1 = false then (false, src.2)
  else
    let dst := src.2.begin .videoCaptureMplane .dmabuf dstRelease dstReqbufs dstStreamOn
    if dst.1 = false then (false, dst.2) else dst.2.queue srcMemory answer

/-! ## 2. What an operation leaves alone -/

/-- Only the image and the queue of `t` have changed. -/
def OnlyAt (s : LibScalerForJpeg) (t : BufType) (s' : LibScalerForJpeg) : Prop :=
  ∀ t', t' ≠ t → s'.image t' = s.image t' ∧ s'.device.queue t' = s.device.queue t'

theorem OnlyAt.refl (s : LibScalerForJpeg) (t : BufType) : s.OnlyAt t s :=
  fun _ _ => ⟨rfl, rfl⟩

theorem OnlyAt.trans {s₁ s₂ s₃ : LibScalerForJpeg} {t : BufType} (h₁ : s₁.OnlyAt t s₂)
    (h₂ : s₂.OnlyAt t s₃) : s₁.OnlyAt t s₃ := by
  intro t' hne
  rw [(h₂ t' hne).1, (h₂ t' hne).2]
  exact h₁ t' hne

theorem onlyAt_ask (s : LibScalerForJpeg) (t : BufType) (r : VideoRequest V4l2Memory)
    (granted : Bool) : s.OnlyAt t { s with device := s.device.ask t r granted } :=
  fun _ hne => ⟨rfl, VideoDevice.ask_of_ne hne r granted⟩

theorem onlyAt_setMemoryType (s : LibScalerForJpeg) (t : BufType) (m : Option V4l2Memory) :
    s.OnlyAt t (s.setMemoryType t m) :=
  fun _ hne => ⟨Function.update_of_ne hne _ _, rfl⟩

theorem onlyAt_releaseOld (s : LibScalerForJpeg) (t : BufType) (answer : ReleaseAnswer) :
    s.OnlyAt t (s.releaseOld t answer).2 := by
  unfold releaseOld
  cases (s.image t).memoryType with
  | none => exact .refl s t
  | some _ => exact (onlyAt_ask s t .streamOff _).trans (onlyAt_ask _ t .release _)

theorem onlyAt_applyFormat (s : LibScalerForJpeg) (t : BufType)
    (sFmt : Option (List (BitVec 32))) : s.OnlyAt t (s.applyFormat t sFmt).2 := by
  cases sFmt with
  | none => exact onlyAt_ask s t .setFormat false
  | some sizes =>
    exact fun t' hne => ⟨Function.update_of_ne hne _ _, VideoDevice.ask_of_ne hne _ _⟩

theorem onlyAt_startNew (s : LibScalerForJpeg) (t : BufType) (memtype : V4l2Memory)
    (reqbufs streamOn : Bool) : s.OnlyAt t (s.startNew t memtype reqbufs streamOn).2 := by
  have hrequest := onlyAt_ask s t (.request memtype) reqbufs
  unfold startNew
  split
  · exact hrequest
  · have hstart := hrequest.trans (onlyAt_ask _ t .streamOn streamOn)
    split
    · exact hstart
    · exact hstart.trans (onlyAt_setMemoryType _ t _)

theorem onlyAt_set (s : LibScalerForJpeg) (t : BufType) (width height format : BitVec 32)
    (release : ReleaseAnswer) (sFmt : Option (List (BitVec 32))) :
    s.OnlyAt t (s.set t width height format release sFmt).2 := by
  unfold set
  split
  · exact .refl s t
  · dsimp only
    split
    · exact onlyAt_releaseOld s t release
    · exact (onlyAt_releaseOld s t release).trans (onlyAt_applyFormat _ t sFmt)

theorem onlyAt_begin (s : LibScalerForJpeg) (t : BufType) (memtype : V4l2Memory)
    (release : ReleaseAnswer) (reqbufs streamOn : Bool) :
    s.OnlyAt t (s.begin t memtype release reqbufs streamOn).2 := by
  unfold begin
  split
  · exact .refl s t
  · dsimp only
    split
    · exact onlyAt_releaseOld s t release
    · exact (onlyAt_releaseOld s t release).trans (onlyAt_startNew _ t memtype _ _)

theorem onlyAt_cancelBuffer (s : LibScalerForJpeg) (t : BufType) (answer : CancelAnswer) :
    s.OnlyAt t (s.cancelBuffer t answer) := by
  have hstop := onlyAt_ask s t .streamOff answer.streamOff
  unfold cancelBuffer
  dsimp only
  split
  · exact hstop
  · exact hstop.trans (onlyAt_ask _ t .streamOn _)

/-- An image that has begun keeps the memory type it has begun with. -/
theorem begin_memoryType {s : LibScalerForJpeg} {t : BufType} {memtype : V4l2Memory}
    {release : ReleaseAnswer} {reqbufs streamOn : Bool}
    (h : (s.begin t memtype release reqbufs streamOn).1 = true) :
    ((s.begin t memtype release reqbufs streamOn).2.image t).memoryType = some memtype := by
  unfold begin at h ⊢
  split
  · rename_i hsame
    exact hsame
  · rename_i hnew
    rw [if_neg hnew] at h
    dsimp only at h ⊢
    split
    · rename_i hrefused
      rw [if_pos hrefused] at h
      cases h
    · rename_i hreleased
      rw [if_neg hreleased] at h
      cases reqbufs <;> cases streamOn <;> simp [startNew, setMemoryType] at h ⊢

/-- `RunStream` is a run of the operations. -/
theorem exec_runStream (s : LibScalerForJpeg) (srcMemory : V4l2Memory)
    (srcRelease : ReleaseAnswer) (srcReqbufs srcStreamOn : Bool)
    (dstRelease : ReleaseAnswer) (dstReqbufs dstStreamOn : Bool) (answer : QueueAnswer) :
    ∃ calls, Exec (guarded step) s calls (s.runStream srcMemory srcRelease srcReqbufs srcStreamOn
      dstRelease dstReqbufs dstStreamOn answer).2 := by
  unfold runStream
  dsimp only
  split
  · exact ⟨[.begin .videoOutputMplane srcMemory srcRelease srcReqbufs srcStreamOn],
      .cons rfl (.nil _)⟩
  · rename_i hsrc
    split
    · exact ⟨[.begin .videoOutputMplane srcMemory srcRelease srcReqbufs srcStreamOn,
        .begin .videoCaptureMplane .dmabuf dstRelease dstReqbufs dstStreamOn],
        .cons rfl (.cons rfl (.nil _))⟩
    · rename_i hdst
      have hsrc := begin_memoryType ((Bool.eq_false_or_eq_true _).resolve_right hsrc)
      have hdst := begin_memoryType ((Bool.eq_false_or_eq_true _).resolve_right hdst)
      -- beginning the destination keeps the source begun
      rw [← (onlyAt_begin _ .videoCaptureMplane .dmabuf dstRelease dstReqbufs dstStreamOn
        .videoOutputMplane (by decide)).1] at hsrc
      exact ⟨[.begin .videoOutputMplane srcMemory srcRelease srcReqbufs srcStreamOn,
        .begin .videoCaptureMplane .dmabuf dstRelease dstReqbufs dstStreamOn,
        .queue srcMemory answer],
        .cons rfl (.cons rfl (.cons (if_pos ⟨hsrc, hdst⟩) (.nil _)))⟩

/-! ## 3. The field and the driver -/

/-- The memory type kept of an image is that of the buffers the driver holds for it, and the
driver streams them. -/
structure MirrorsAt (s : LibScalerForJpeg) (t : BufType) : Prop where
  configured : ∀ m, (s.image t).memoryType = some m ↔ (s.device.queue t).Serves m
  unconfigured : (s.image t).memoryType = none ↔ (s.device.queue t).held = none

def Mirrors (s : LibScalerForJpeg) : Prop := ∀ t, s.MirrorsAt t

theorem mirrorsAt_iff {s : LibScalerForJpeg} {t : BufType} :
    s.MirrorsAt t ↔ (s.image t).memoryType = (s.device.queue t).held ∧
      ((s.device.queue t).held ≠ none → (s.device.queue t).streaming = true) := by
  constructor
  · intro h
    cases hm : (s.image t).memoryType with
    | none => exact ⟨(h.unconfigured.mp hm).symm, fun hne => absurd (h.unconfigured.mp hm) hne⟩
    | some m =>
      have hserves := (h.configured m).mp hm
      exact ⟨hserves.1.symm, fun _ => hserves.2⟩
  · rintro ⟨hkept, hstreams⟩
    refine ⟨fun m => ?_, by rw [hkept]⟩
    rw [hkept]
    exact ⟨fun hm => ⟨hm, hstreams (by rw [hm]; exact nofun)⟩, fun hserves => hserves.1⟩

theorem OnlyAt.mirrorsAt_iff {s s' : LibScalerForJpeg} {t t' : BufType} (h : s.OnlyAt t s')
    (hne : t' ≠ t) : s'.MirrorsAt t' ↔ s.MirrorsAt t' := by
  obtain ⟨himage, hqueue⟩ := h t' hne
  rw [LibScalerForJpeg.mirrorsAt_iff, LibScalerForJpeg.mirrorsAt_iff, himage, hqueue]

/-- An operation on one image keeps the other as it was. -/
theorem OnlyAt.mirrors_iff {s s' : LibScalerForJpeg} {t : BufType} (h : s.OnlyAt t s')
    (hs : s.Mirrors) : s'.Mirrors ↔ s'.MirrorsAt t := by
  constructor
  · exact fun hall => hall t
  · intro hat t'
    by_cases hne : t' = t
    · exact hne ▸ hat
    · exact (h.mirrorsAt_iff hne).mpr (hs t')

/-! ## 4. When an operation records what it did -/

end LibScalerForJpeg

/-- The queue streams again unless it was never stopped. -/
def CancelAnswer.Restarts (answer : CancelAnswer) : Prop :=
  answer.streamOff = true → answer.streamOn = true

/-- A refused release that has not stopped the queue either. -/
def ReleaseAnswer.Untouched (answer : ReleaseAnswer) : Prop :=
  answer.reqbufs = false ∧ answer.streamOff = false

/-- The driver refuses nothing after the operation has taken something from the queue. -/
def ScalerCall.Recorded (s : LibScalerForJpeg) : ScalerCall → Prop
  | .set t width height format release sFmt =>
    (s.image t).same width height format = true ∨ (s.image t).memoryType = none ∨
      release.Untouched ∨ (release.reqbufs = true ∧ sFmt.isSome = true)
  | .begin t memtype release reqbufs streamOn =>
    match (s.image t).memoryType with
    | none => reqbufs = true → streamOn = true
    | some m => m = memtype ∨ release.Untouched ∨
        (release.reqbufs = true ∧ reqbufs = true ∧ streamOn = true)
  | .queue _ answer =>
    answer.srcQbuf = true →
      if answer.dstQbuf = false then answer.srcCancel.Restarts
      else answer.srcDqbuf = false ∨ answer.dstDqbuf = false →
        answer.srcCancel.Restarts ∧ answer.dstCancel.Restarts

namespace LibScalerForJpeg

variable {s : LibScalerForJpeg} {t : BufType}

theorem mirrorsAt_set_iff (hs : s.MirrorsAt t) (width height format : BitVec 32)
    (release : ReleaseAnswer) (sFmt : Option (List (BitVec 32))) :
    (s.set t width height format release sFmt).2.MirrorsAt t ↔
      ScalerCall.Recorded s (.set t width height format release sFmt) := by
  have hs' := hs
  rw [mirrorsAt_iff] at hs' ⊢
  obtain ⟨hkept, hstreams⟩ := hs'
  obtain ⟨off, req⟩ := release
  unfold set ScalerCall.Recorded
  by_cases hsame : (s.image t).same width height format = true
  · rw [if_pos hsame]
    exact ⟨fun _ => .inl hsame, fun _ => ⟨hkept, hstreams⟩⟩
  · rw [if_neg hsame]
    cases hm : (s.image t).memoryType with
    | none =>
      -- nothing to release: the format may fail or not
      rw [hm] at hkept
      cases sFmt <;> simp [releaseOld, applyFormat, hm, ← hkept, VideoQueue.grant]
    | some m =>
      rw [hm] at hkept
      have hstreams := hstreams (by rw [← hkept]; exact nofun)
      cases req <;> cases off <;> cases sFmt <;>
        simp [releaseOld, releaseBuffers, applyFormat, hm, hsame, ← hkept, hstreams,
          VideoQueue.grant, ReleaseAnswer.Untouched]

theorem mirrorsAt_begin_iff (hs : s.MirrorsAt t) (memtype : V4l2Memory)
    (release : ReleaseAnswer) (reqbufs streamOn : Bool) :
    (s.begin t memtype release reqbufs streamOn).2.MirrorsAt t ↔
      ScalerCall.Recorded s (.begin t memtype release reqbufs streamOn) := by
  have hs' := hs
  rw [mirrorsAt_iff] at hs' ⊢
  obtain ⟨hkept, hstreams⟩ := hs'
  obtain ⟨off, req⟩ := release
  unfold begin ScalerCall.Recorded
  cases hm : (s.image t).memoryType with
  | none =>
    rw [hm] at hkept
    cases reqbufs <;> cases streamOn <;>
      simp [releaseOld, startNew, setMemoryType, hm, ← hkept, VideoQueue.grant]
  | some m =>
    rw [hm] at hkept
    have hstreams := hstreams (by rw [← hkept]; exact nofun)
    by_cases hsame : m = memtype
    · simp [hsame, ← hkept, hstreams, hm]
    · cases req <;> cases off <;> cases reqbufs <;> cases streamOn <;>
        simp [releaseOld, releaseBuffers, startNew, setMemoryType, hm, hsame, ← hkept, hstreams,
          VideoQueue.grant, ReleaseAnswer.Untouched]

theorem mirrorsAt_queueBuffer (hs : s.MirrorsAt t) (t' : BufType) (memtype : V4l2Memory)
    (granted : Bool) : (s.queueBuffer t' memtype granted).MirrorsAt t := by
  rw [mirrorsAt_iff] at hs ⊢
  by_cases hne : t = t'
  · subst hne
    cases granted <;> simpa [queueBuffer, VideoQueue.grant] using hs
  · unfold queueBuffer
    rw [VideoDevice.ask_of_ne hne]
    exact hs

theorem mirrorsAt_cancelBuffer_iff (hs : s.MirrorsAt t) (hheld : (s.image t).memoryType ≠ none)
    (answer : CancelAnswer) : (s.cancelBuffer t answer).MirrorsAt t ↔ answer.Restarts := by
  rw [mirrorsAt_iff] at hs ⊢
  obtain ⟨hkept, hstreams⟩ := hs
  rw [hkept] at hheld
  obtain ⟨off, on⟩ := answer
  cases off <;> cases on <;>
    simp [cancelBuffer, hkept, hheld, hstreams hheld, VideoQueue.grant, CancelAnswer.Restarts]

theorem Mirrors.queueBuffer (hs : s.Mirrors) (t : BufType) (memtype : V4l2Memory)
    (granted : Bool) : (s.queueBuffer t memtype granted).Mirrors :=
  fun t' => mirrorsAt_queueBuffer (hs t') t memtype granted

theorem Mirrors.cancelBuffer_iff (hs : s.Mirrors) (hheld : (s.image t).memoryType ≠ none)
    (answer : CancelAnswer) : (s.cancelBuffer t answer).Mirrors ↔ answer.Restarts := by
  rw [(onlyAt_cancelBuffer s t answer).mirrors_iff hs]
  exact mirrorsAt_cancelBuffer_iff (hs t) hheld answer

@[simp] theorem cancelBuffer_image (answer : CancelAnswer) :
    (s.cancelBuffer t answer).image = s.image := by
  unfold cancelBuffer
  dsimp only
  split <;> rfl

/-- Both images are cancelled: the second may run on what the first has left. -/
theorem Mirrors.cancelBoth_iff (hs : s.Mirrors) (hheld : ∀ t, (s.image t).memoryType ≠ none)
    (src dst : CancelAnswer) :
    ((s.cancelBuffer .videoOutputMplane src).cancelBuffer .videoCaptureMplane dst).Mirrors ↔
      src.Restarts ∧ dst.Restarts := by
  have hfirst := hs.cancelBuffer_iff (hheld .videoOutputMplane) src
  have honly := onlyAt_cancelBuffer (s.cancelBuffer .videoOutputMplane src)
    .videoCaptureMplane dst
  constructor
  · intro hboth
    -- the source is as the first cancel has left it, the destination as it was before that
    have hsrcAt : (s.cancelBuffer .videoOutputMplane src).MirrorsAt .videoOutputMplane :=
      (honly.mirrorsAt_iff (by decide)).mp (hboth _)
    have hsrc : (s.cancelBuffer .videoOutputMplane src).Mirrors :=
      ((onlyAt_cancelBuffer s _ src).mirrors_iff hs).mpr hsrcAt
    refine ⟨hfirst.mp hsrc, (hsrc.cancelBuffer_iff ?_ dst).mp hboth⟩
    rw [cancelBuffer_image]
    exact hheld _
  · intro h
    refine ((hfirst.mpr h.1).cancelBuffer_iff ?_ dst).mpr h.2
    rw [cancelBuffer_image]
    exact hheld _

theorem Begun.memoryType_ne {srcMemory : V4l2Memory} (h : s.Begun srcMemory) (t : BufType) :
    (s.image t).memoryType ≠ none := by
  cases t with
  | videoOutputMplane => rw [h.1]; exact nofun
  | videoCaptureMplane => rw [h.2]; exact nofun

theorem Mirrors.queue_iff (hs : s.Mirrors) {srcMemory : V4l2Memory} (hbegun : s.Begun srcMemory)
    (answer : QueueAnswer) : (s.queue srcMemory answer).2.Mirrors ↔
      ScalerCall.Recorded s (.queue srcMemory answer) := by
  have hsrc := hs.queueBuffer .videoOutputMplane srcMemory answer.srcQbuf
  have hdst := hsrc.queueBuffer .videoCaptureMplane .dmabuf answer.dstQbuf
  have hheld := hbegun.memoryType_ne
  unfold LibScalerForJpeg.queue ScalerCall.Recorded
  dsimp only
  by_cases hq : answer.srcQbuf = false
  · rw [if_pos hq]
    exact ⟨fun _ htrue => absurd hq (by rw [htrue]; decide), fun _ => hsrc⟩
  · rw [if_neg hq]
    have hq' : answer.srcQbuf = true := (Bool.eq_false_or_eq_true _).resolve_right hq
    by_cases hd : answer.dstQbuf = false
    · rw [if_pos hd, if_pos hd, forall_prop_of_true hq']
      exact hdst.cancelBuffer_iff (hheld _) answer.srcCancel
    · rw [if_neg hd, if_neg hd, forall_prop_of_true hq']
      by_cases hdq : answer.srcDqbuf = false ∨ answer.dstDqbuf = false
      · rw [if_pos hdq, forall_prop_of_true hdq]
        exact hdst.cancelBoth_iff hheld answer.srcCancel answer.dstCancel
      · rw [if_neg hdq]
        exact ⟨fun _ hfail => absurd hfail hdq, fun _ => hdst⟩

/-- One operation keeps the field and the driver together exactly when it is recorded. -/
theorem Mirrors.step_iff (hs : s.Mirrors) {c : ScalerCall} {s' : LibScalerForJpeg}
    (hstep : s.step c = some s') : s'.Mirrors ↔ c.Recorded s := by
  cases c with
  | set t width height format release sFmt =>
    obtain rfl := Option.some.inj hstep
    rw [(onlyAt_set s t width height format release sFmt).mirrors_iff hs]
    exact mirrorsAt_set_iff (hs t) width height format release sFmt
  | begin t memtype release reqbufs streamOn =>
    obtain rfl := Option.some.inj hstep
    rw [(onlyAt_begin s t memtype release reqbufs streamOn).mirrors_iff hs]
    exact mirrorsAt_begin_iff (hs t) memtype release reqbufs streamOn
  | queue srcMemory answer =>
    unfold LibScalerForJpeg.step at hstep
    dsimp only at hstep
    split at hstep
    · rename_i hbegun
      obtain rfl := Option.some.inj hstep
      exact hs.queue_iff hbegun answer
    · cases hstep

/-! ## 5. Buffers that are queued -/

theorem queuedServed_releaseOld (h : s.device.QueuedServed) (t : BufType)
    (answer : ReleaseAnswer) : (s.releaseOld t answer).2.device.QueuedServed := by
  unfold releaseOld
  cases (s.image t).memoryType with
  | none => exact h
  | some _ =>
    exact (h.ask_other t .streamOff rfl answer.streamOff).ask_other t .release rfl answer.reqbufs

theorem queuedServed_applyFormat (h : s.device.QueuedServed) (t : BufType)
    (sFmt : Option (List (BitVec 32))) : (s.applyFormat t sFmt).2.device.QueuedServed := by
  cases sFmt <;> exact h.ask_other t .setFormat rfl _

theorem queuedServed_startNew (h : s.device.QueuedServed) (t : BufType) (memtype : V4l2Memory)
    (reqbufs streamOn : Bool) : (s.startNew t memtype reqbufs streamOn).2.device.QueuedServed := by
  have hrequest := h.ask_other t (.request memtype) rfl reqbufs
  unfold startNew
  split
  · exact hrequest
  · dsimp only
    split <;> exact hrequest.ask_other t .streamOn rfl _

theorem queuedServed_cancelBuffer (h : s.device.QueuedServed) (t : BufType)
    (answer : CancelAnswer) : (s.cancelBuffer t answer).device.QueuedServed := by
  have hstop := h.ask_other t .streamOff rfl answer.streamOff
  unfold cancelBuffer
  dsimp only
  split
  · exact hstop
  · exact hstop.ask_other t .streamOn rfl _

theorem Mirrors.queuedServed_queueBuffer (hs : s.Mirrors) (h : s.device.QueuedServed)
    {memtype : V4l2Memory} (hm : (s.image t).memoryType = some memtype) (granted : Bool) :
    (s.queueBuffer t memtype granted).device.QueuedServed := by
  refine h.ask (fun memory heq => ?_) granted
  obtain rfl := VideoRequest.enqueue.inj heq
  exact ((hs t).configured _).mp hm

theorem Mirrors.queuedServed_queue (hs : s.Mirrors) (h : s.device.QueuedServed)
    {srcMemory : V4l2Memory} (hbegun : s.Begun srcMemory) (answer : QueueAnswer) :
    (s.queue srcMemory answer).2.device.QueuedServed := by
  have hsrc := hs.queuedServed_queueBuffer h hbegun.1 answer.srcQbuf
  have hmirrors := hs.queueBuffer .videoOutputMplane srcMemory answer.srcQbuf
  have hdst := hmirrors.queuedServed_queueBuffer hsrc hbegun.2 answer.dstQbuf
  unfold LibScalerForJpeg.queue
  dsimp only
  split
  · exact hsrc
  · split
    · exact queuedServed_cancelBuffer hdst _ _
    · split
      · exact queuedServed_cancelBuffer (queuedServed_cancelBuffer hdst _ _) _ _
      · exact hdst

/-- As long as the field tells what the driver holds, buffers go to queues that serve them. -/
theorem Mirrors.queuedServed_step (hs : s.Mirrors) (h : s.device.QueuedServed) {c : ScalerCall}
    {s' : LibScalerForJpeg} (hstep : s.step c = some s') : s'.device.QueuedServed := by
  cases c with
  | set t width height format release sFmt =>
    obtain rfl := Option.some.inj hstep
    unfold LibScalerForJpeg.set
    split
    · exact h
    · dsimp only
      split
      · exact queuedServed_releaseOld h t release
      · exact queuedServed_applyFormat (queuedServed_releaseOld h t release) t sFmt
  | begin t memtype release reqbufs streamOn =>
    obtain rfl := Option.some.inj hstep
    unfold LibScalerForJpeg.begin
    split
    · exact h
    · dsimp only
      split
      · exact queuedServed_releaseOld h t release
      · exact queuedServed_startNew (queuedServed_releaseOld h t release) t memtype _ _
  | queue srcMemory answer =>
    unfold LibScalerForJpeg.step at hstep
    dsimp only at hstep
    split at hstep
    · rename_i hbegun
      obtain rfl := Option.some.inj hstep
      exact hs.queuedServed_queue h hbegun answer
    · cases hstep

/-! ## 6. Runs of the scaler -/

theorem mirrors_initial : initial.Mirrors :=
  fun _ => mirrorsAt_iff.mpr ⟨rfl, fun hne => absurd rfl hne⟩

/-- While every operation is recorded the field is what the driver holds and streams, and the
first operation that is not recorded ends this. -/
theorem mirrors_of_recorded {calls : List ScalerCall} {s : LibScalerForJpeg}
    (run : ExecWhere (fun s c => c.Recorded s) (guarded step) initial calls s) :
    s.Mirrors ∧ s.device.QueuedServed ∧
      ∀ c s', s.step c = some s' → (s'.Mirrors ↔ c.Recorded s) ∧ s'.device.QueuedServed := by
  have hkept : s.Mirrors ∧ s.device.QueuedServed :=
    run.invariant (I := fun s => s.Mirrors ∧ s.device.QueuedServed)
      (fun _ _ _ hs hok hstep =>
        ⟨(hs.1.step_iff hstep).mpr hok, hs.1.queuedServed_step hs.2 hstep⟩)
      ⟨mirrors_initial, nofun⟩
  exact ⟨hkept.1, hkept.2, fun _ _ hstep =>
    ⟨hkept.1.step_iff hstep, hkept.1.queuedServed_step hkept.2 hstep⟩⟩

/-- What `RunStream` makes of a fresh scaler before it queues. -/
def begunScaler : LibScalerForJpeg :=
  ((initial.begin .videoOutputMplane .userptr ⟨true, true⟩ true true).2.begin
    .videoCaptureMplane .dmabuf ⟨true, true⟩ true true).2

theorem mirrors_of_recorded_begun :
    begunScaler.Mirrors ∧ (begunScaler.device.queue .videoCaptureMplane).Serves .dmabuf := by
  have run : ExecWhere (fun s c => c.Recorded s) (guarded step) initial
      [.begin .videoOutputMplane .userptr ⟨true, true⟩ true true,
        .begin .videoCaptureMplane .dmabuf ⟨true, true⟩ true true] begunScaler :=
    .cons ⟨fun _ => rfl, rfl⟩ (.cons ⟨fun _ => rfl, rfl⟩ (.nil _))
  have h := mirrors_of_recorded run
  exact ⟨h.1, ((h.1 .videoCaptureMplane).configured .dmabuf).mp rfl⟩

/-- The format of the source is refused after its buffers were given back: the memory type stays,
`begin` has nothing to do, and the next buffer goes to an empty queue that does not stream. -/
theorem not_mirrors_after_refused_format :
    ¬ ∀ (calls : List ScalerCall) (s : LibScalerForJpeg), Exec (guarded step) initial calls s →
      s.Mirrors ∧ s.device.QueuedServed := by
  intro h
  let answer : QueueAnswer := ⟨false, true, true, true, ⟨true, true⟩, ⟨true, true⟩⟩
  let refused := (begunScaler.set .videoOutputMplane 320 240 pixFmtYuyv ⟨true, true⟩ none).2
  let again := (refused.begin .videoOutputMplane .userptr ⟨true, true⟩ true true).2
  have run : Exec (guarded step) initial
      [.begin .videoOutputMplane .userptr ⟨true, true⟩ true true,
        .begin .videoCaptureMplane .dmabuf ⟨true, true⟩ true true,
        .set .videoOutputMplane 320 240 pixFmtYuyv ⟨true, true⟩ none,
        .begin .videoOutputMplane .userptr ⟨true, true⟩ true true,
        .queue .userptr answer] (again.queue .userptr answer).2 :=
    .cons rfl (.cons rfl (.cons rfl (.cons rfl (.cons rfl (.nil _)))))
  have hserved := (h _ _ run).2 _ List.mem_cons_self .userptr rfl
  exact absurd hserved.1 (by decide)

end LibScalerForJpeg

end Universal7870.Jpeg
