import Universal7870.Jpeg.Compressor

/-!
# The protocol of the compressor's queues

The flags of the compressor against what the driver holds and streams.
-/

namespace Universal7870.Jpeg

open Lib

/-! ## 1. What the flags tell of the driver -/

namespace CodecQueues

variable {s : CodecQueues}

/-- What the flags always tell.  Of the source queue they do not tell whether it is empty. -/
structure Flagged (s : CodecQueues) : Prop where
  requested : s.streaming = true → s.reqbufs = true
  streams : s.streaming = true → ∀ t, (s.device.queue t).streaming = true
  dstEmpty : s.reqbufs = false → (s.device.queue .videoCaptureMplane).held = none

/-- The source queue is empty while the flag says that no buffers are requested. -/
def SrcEmpty (s : CodecQueues) : Prop :=
  s.reqbufs = false → (s.device.queue .videoOutputMplane).held = none

theorem Flagged.empty (h : s.Flagged) (hsrc : s.SrcEmpty) (hunset : s.reqbufs = false)
    (t : BufType) : (s.device.queue t).held = none := by
  cases t with
  | videoOutputMplane => exact hsrc hunset
  | videoCaptureMplane => exact h.dstEmpty hunset

theorem Flagged.of_stopped (hoff : s.streaming = false)
    (hdst : s.reqbufs = false → (s.device.queue .videoCaptureMplane).held = none) : s.Flagged :=
  ⟨fun hon => absurd hon (by simp [hoff]), fun hon => absurd hon (by simp [hoff]), hdst⟩

/-- What a helper does to the queues keeps the flags and the protocol. -/
structure Keeps (s : CodecQueues) (r : Bool × CodecQueues) : Prop where
  flagged : r.2.Flagged
  proper : r.2.device.Proper
  pixFmt : r.2.pixFmt = s.pixFmt

theorem streamOff_held (srcOff dstOff : Bool) (t : BufType) :
    ((s.streamOff srcOff dstOff).device.queue t).held = (s.device.queue t).held := by
  unfold streamOff
  split
  · rfl
  · cases t <;> cases srcOff <;> cases dstOff <;> simp [VideoDevice.ask_queue, VideoQueue.grant]

theorem streamOff_flags (srcOff dstOff : Bool) :
    (s.streamOff srcOff dstOff).reqbufs = s.reqbufs ∧
      (s.streamOff srcOff dstOff).streaming = false ∧
      (s.streamOff srcOff dstOff).pixFmt = s.pixFmt := by
  unfold streamOff
  split
  · rename_i hoff
    exact ⟨rfl, hoff, rfl⟩
  · exact ⟨rfl, rfl, rfl⟩

theorem streamOff_proper (hp : s.device.Proper) (srcOff dstOff : Bool) :
    (s.streamOff srcOff dstOff).device.Proper := by
  unfold streamOff
  split
  · exact hp
  · exact (hp.ask _ .streamOff trivial srcOff).ask _ .streamOff trivial dstOff

/-- A released pair of queues is empty; a release that is refused leaves the flag. -/
theorem reqNoBufs_spec (h : s.Flagged) (hp : s.device.Proper) (hoff : s.streaming = false)
    (a : ReqbufsAnswer) :
    s.Keeps (s.reqNoBufs a) ∧
      ((s.reqNoBufs a).1 = true → (s.reqNoBufs a).2.reqbufs = false ∧
        (s.SrcEmpty → (s.reqNoBufs a).2.SrcEmpty)) := by
  unfold reqNoBufs reqBufsWith
  by_cases hset : false = s.reqbufs
  · rw [if_pos hset]
    exact ⟨⟨h, hp, rfl⟩, fun _ => ⟨hset.symm, id⟩⟩
  · rw [if_neg hset]
    have hset : s.reqbufs = true := by simpa using hset
    have hsrc := hp.ask .videoOutputMplane .release trivial a.src
    have hdst := hsrc.ask .videoCaptureMplane .release trivial a.dst
    dsimp only
    split
    · exact ⟨⟨.of_stopped hoff fun hun => absurd hun (by simp [hset]), hsrc, rfl⟩, nofun⟩
    · rename_i hgranted
      have hgranted : a.src = true := by simpa using hgranted
      split
      · exact ⟨⟨.of_stopped hoff fun hun => absurd hun (by simp [hset]),
          hdst.ask _ .release trivial a.rollback, rfl⟩, nofun⟩
      · rename_i hgranted'
        have hgranted' : a.dst = true := by simpa using hgranted'
        refine ⟨⟨.of_stopped hoff fun _ => ?_, hdst, rfl⟩, fun _ => ⟨rfl, fun _ _ => ?_⟩⟩
        · simp [hgranted', VideoQueue.grant]
        · simp [hgranted, VideoDevice.ask_queue, VideoQueue.grant]

theorem stopStreaming_spec (h : s.Flagged) (hp : s.device.Proper) (a : StopAnswer) :
    s.Keeps (s.stopStreaming a) ∧
      ((s.stopStreaming a).1 = true → (s.stopStreaming a).2.reqbufs = false ∧
        (s.SrcEmpty → (s.stopStreaming a).2.SrcEmpty)) := by
  obtain ⟨hreq, hoff, hpix⟩ := streamOff_flags (s := s) a.srcOff a.dstOff
  have hheld := streamOff_held (s := s) a.srcOff a.dstOff
  let stopped := { s.streamOff a.srcOff a.dstOff with qbufOut := false, qbufCap := false }
  have hflagged : stopped.Flagged :=
    .of_stopped hoff fun hun => (hheld _).trans (h.dstEmpty (hreq.symm.trans hun))
  have hspec := reqNoBufs_spec hflagged (streamOff_proper hp a.srcOff a.dstOff) hoff a.reqbufs
  refine ⟨⟨hspec.1.flagged, hspec.1.proper, hspec.1.pixFmt.trans hpix⟩, fun hok => ?_⟩
  refine ⟨(hspec.2 hok).1, fun hempty => (hspec.2 hok).2 fun hun => ?_⟩
  exact (hheld _).trans (hempty (hreq.symm.trans hun))

/-- Both queues hold buffers of the given memory types. -/
def Holds (s : CodecQueues) (src dst : V4l2Memory) : Prop :=
  (s.device.queue .videoOutputMplane).held = some src ∧
    (s.device.queue .videoCaptureMplane).held = some dst

/-- The flag for requested buffers tells what is held, of the memory types that are set. -/
def Matches (s : CodecQueues) (src dst : V4l2Memory) : Prop :=
  if s.reqbufs = true then s.Holds src dst
  else (s.device.queue .videoOutputMplane).held = none

theorem reqBufs_spec (h : s.Flagged) (hp : s.device.Proper) {src dst : V4l2Memory}
    (hmatch : s.Matches src dst) (a : ReqbufsAnswer) :
    s.Keeps (s.reqBufs src dst a) ∧
      ((s.reqBufs src dst a).1 = true → (s.reqBufs src dst a).2.reqbufs = true ∧
        (s.reqBufs src dst a).2.Holds src dst) := by
  unfold reqBufs reqBufsWith
  unfold Matches at hmatch
  by_cases hset : true = s.reqbufs
  · rw [if_pos hset]
    rw [if_pos hset.symm] at hmatch
    exact ⟨⟨h, hp, rfl⟩, fun _ => ⟨hset.symm, hmatch⟩⟩
  · rw [if_neg hset]
    rw [if_neg (fun heq => hset heq.symm)] at hmatch
    have hunset : s.reqbufs = false := by simpa using hset
    have hoff : s.streaming = false := by
      cases hon : s.streaming with
      | false => rfl
      | true => exact absurd (h.requested hon) (by simp [hunset])
    have hdst := h.dstEmpty hunset
    have hpsrc := hp.ask .videoOutputMplane (.request src) hmatch a.src
    have hpdst := hpsrc.ask .videoCaptureMplane (.request dst)
      (by rw [VideoRequest.Allowed, VideoDevice.ask_of_ne (by decide)]; exact hdst) a.dst
    dsimp only
    split
    · refine ⟨⟨.of_stopped hoff fun _ => ?_, hpsrc, rfl⟩, nofun⟩
      rw [VideoDevice.ask_of_ne (by decide)]
      exact hdst
    · rename_i hgranted
      have hgranted : a.src = true := by simpa using hgranted
      split
      · rename_i hrefused
        refine ⟨⟨.of_stopped hoff fun _ => ?_, hpdst.ask _ .release trivial a.rollback, rfl⟩,
          nofun⟩
        rw [VideoDevice.ask_of_ne (by decide), hrefused, VideoDevice.ask_refused,
          VideoDevice.ask_of_ne (by decide)]
        exact hdst
      · rename_i hgranted'
        have hgranted' : a.dst = true := by simpa using hgranted'
        refine ⟨⟨.of_stopped hoff nofun, hpdst, rfl⟩, fun _ => ⟨rfl, ?_⟩⟩
        unfold Holds
        simp [hgranted, hgranted', VideoDevice.ask_queue, VideoQueue.grant]

theorem streamOn_spec (h : s.Flagged) (hp : s.device.Proper) {src dst : V4l2Memory}
    (hheld : s.Holds src dst) (a : StreamOnAnswer) :
    s.Keeps (s.streamOn a) ∧
      ((s.streamOn a).1 = true → (s.streamOn a).2.streaming = true ∧
        (s.streamOn a).2.Holds src dst) := by
  unfold streamOn
  split
  · rename_i hon
    exact ⟨⟨h, hp, rfl⟩, fun _ => ⟨hon, hheld⟩⟩
  · rename_i hon
    have hoff : s.streaming = false := by simpa using hon
    split
    · exact ⟨⟨h, hp, rfl⟩, nofun⟩
    · rename_i hset
      have hset : s.reqbufs = true := by simpa using hset
      have hpsrc := hp.ask .videoOutputMplane .streamOn trivial a.src
      have hpdst := hpsrc.ask .videoCaptureMplane .streamOn trivial a.dst
      dsimp only
      split
      · exact ⟨⟨.of_stopped hoff fun hun => absurd hun (by simp [hset]), hpsrc, rfl⟩, nofun⟩
      · rename_i hgranted
        have hgranted : a.src = true := by simpa using hgranted
        split
        · exact ⟨⟨.of_stopped hoff fun hun => absurd hun (by simp [hset]),
            hpdst.ask _ .streamOff trivial a.srcOff, rfl⟩, nofun⟩
        · rename_i hgranted'
          have hgranted' : a.dst = true := by simpa using hgranted'
          refine ⟨⟨⟨?_, ?_, ?_⟩, hpdst, rfl⟩, fun _ => ⟨rfl, ?_⟩⟩
          · exact fun _ => hset
          · intro _ t
            cases t <;> simp [hgranted, hgranted', VideoDevice.ask_queue, VideoQueue.grant]
          · exact fun hun => absurd hun (by simp [hset])
          · exact ⟨by simpa [hgranted, hgranted', VideoDevice.ask_queue, VideoQueue.grant]
                using hheld.1,
              by simpa [hgranted, hgranted', VideoDevice.ask_queue, VideoQueue.grant]
                using hheld.2⟩

end CodecQueues

/-! ## 2. The calls -/

theorem andThen_induct {σ : Type*} {P : σ → Prop} {r : Bool × σ} {f : σ → Bool × σ}
    (hr : P r.2) (hf : r.1 = true → P (f r.2).2) : P (andThen r f).2 := by
  unfold andThen
  split
  · exact hr
  · rename_i hok
    exact hf (by simpa using hok)

namespace Compressor

variable {s : Compressor}

/-- The flags tell what they should, and every call on the driver was in order. -/
structure InOrder (s : Compressor) : Prop where
  flagged : s.queues.Flagged
  proper : s.queues.device.Proper

theorem InOrder.of_queues {s' : Compressor} (h : s.InOrder) (hq : s'.queues = s.queues) :
    s'.InOrder := ⟨hq ▸ h.flagged, hq ▸ h.proper⟩

theorem InOrder.onQueues {r : Bool × CodecQueues} (hr : s.queues.Keeps r) :
    (s.onQueues r).2.InOrder := ⟨hr.flagged, hr.proper⟩

theorem InOrder.onControls (h : s.InOrder) (r : Bool × CodecControls) :
    (s.onControls r).2.InOrder := h.of_queues rfl

@[simp] theorem enqueue_queue (t t' : BufType) (memory : V4l2Memory) (granted : Bool) :
    (s.enqueue t memory granted).queues.device.queue t' = s.queues.device.queue t' := by
  unfold enqueue
  rw [VideoDevice.ask_queue]
  split
  · rename_i hsame
    rw [hsame.1]
    rfl
  · rfl

theorem InOrder.enqueue (h : s.InOrder) {t : BufType} {memory : V4l2Memory}
    (hheld : (s.queues.device.queue t).held = some memory)
    (hon : ∀ t, (s.queues.device.queue t).streaming = true) (granted : Bool) :
    (s.enqueue t memory granted).InOrder := by
  have hqueue := fun t' => enqueue_queue (s := s) t t' memory granted
  refine ⟨⟨h.flagged.requested, fun hs t' => ?_, fun hun => ?_⟩,
    h.proper.ask t (.enqueue memory) ⟨hheld, hon⟩ granted⟩
  · rw [hqueue]
    exact h.flagged.streams hs t'
  · rw [hqueue]
    exact h.flagged.dstEmpty hun

theorem InOrder.stop (h : s.InOrder) (a : StopAnswer) :
    InOrder { s with queues := (s.queues.stopStreaming a).2 } :=
  InOrder.onQueues (CodecQueues.stopStreaming_spec h.flagged h.proper a).1

theorem InOrder.qBuf (h : s.InOrder) {src dst : V4l2Memory} (hheld : s.queues.Holds src dst)
    (hon : s.queues.streaming = true) (a : CompressAnswer) : (s.qBuf src dst a).2.InOrder := by
  have hstreams := h.flagged.streams hon
  have hsrc := h.enqueue hheld.1 hstreams a.srcQbuf
  have hdst : ((s.enqueue .videoOutputMplane src a.srcQbuf).enqueue .videoCaptureMplane dst
      a.dstQbuf).InOrder :=
    hsrc.enqueue (by rw [enqueue_queue]; exact hheld.2)
      (fun t => by rw [enqueue_queue]; exact hstreams t) a.dstQbuf
  unfold Compressor.qBuf
  split
  · exact h
  · dsimp only
    split
    · exact hsrc
    · split
      · exact hdst.stop a.cancel
      · exact ⟨⟨hdst.flagged.requested, hdst.flagged.streams, hdst.flagged.dstEmpty⟩, hdst.proper⟩

theorem InOrder.startCodec (h : s.InOrder) {src dst : V4l2Memory}
    (hmatch : s.queues.Matches src dst) (a : CompressAnswer) :
    (s.startCodec src dst a).2.InOrder := by
  obtain ⟨hreq, hheld⟩ := CodecQueues.reqBufs_spec h.flagged h.proper hmatch a.reqbufs
  have hreqd := InOrder.onQueues hreq
  refine andThen_induct hreqd fun hok => ?_
  obtain ⟨hstream, hon⟩ :=
    CodecQueues.streamOn_spec hreqd.flagged hreqd.proper (hheld hok).2 a.streamOn
  have hstarted := InOrder.onQueues hstream
  refine andThen_induct hstarted fun hok' => ?_
  refine andThen_induct (hstarted.onControls _) fun _ => ?_
  exact (hstarted.onControls _).qBuf (hon hok').2 (hon hok').1 a

/-- Nothing is held, so that a format may be set and buffers of any memory type requested. -/
def Unused (s : Compressor) : Prop := s.queues.reqbufs = false ∧ s.queues.SrcEmpty

theorem Unused.matches (h : s.Unused) (src dst : V4l2Memory) : s.queues.Matches src dst := by
  unfold CodecQueues.Matches
  rw [if_neg (by simp [h.1])]
  exact h.2 h.1

theorem setFormat_spec (h : s.InOrder) (hunused : s.Unused) (srcFmt : Option DriverFormat)
    (dstFmt : Bool) :
    (s.setFormat srcFmt dstFmt).2.InOrder ∧ (s.setFormat srcFmt dstFmt).2.Unused := by
  have hempty := h.flagged.empty hunused.2 hunused.1
  have hqueue : ∀ (d : V4l2Device) (t t' : BufType) (g : Bool),
      (d.ask t .setFormat g).queue t' = d.queue t' := by
    intro d t t' g
    rw [VideoDevice.ask_queue]
    split
    · rename_i hsame
      rw [hsame.1]
      rfl
    · rfl
  have hpsrc := h.proper.ask .videoOutputMplane .setFormat hempty srcFmt.isSome
  unfold Compressor.setFormat
  cases srcFmt with
  | none =>
    exact ⟨⟨⟨h.flagged.requested, h.flagged.streams, h.flagged.dstEmpty⟩, hpsrc⟩, hunused⟩
  | some format =>
    have hpdst := hpsrc.ask .videoCaptureMplane .setFormat
      (fun t => by rw [hqueue]; exact hempty t) dstFmt
    refine ⟨⟨⟨h.flagged.requested, fun hon t => ?_, fun hun => ?_⟩, hpdst⟩,
      hunused.1, fun hun => ?_⟩
    · show (((s.queues.device.ask _ _ _).ask _ _ _).queue t).streaming = true
      rw [hqueue, hqueue]
      exact h.flagged.streams hon t
    · show (((s.queues.device.ask _ _ _).ask _ _ _).queue _).held = none
      rw [hqueue, hqueue]
      exact h.flagged.dstEmpty hun
    · show (((s.queues.device.ask _ _ _).ask _ _ _).queue _).held = none
      rw [hqueue, hqueue]
      exact hunused.2 hun

/-- What `Compress` needs to find: of the source queue that it is empty unless the flag tells of
its buffers, and, with no format to apply, buffers of the memory types that are set. -/
def Matched (s : Compressor) : Prop :=
  if s.queues.pixFmt = true then s.queues.SrcEmpty
  else ∀ src dst, s.srcBuffer = some src → s.dstBuffer = some dst → s.b2bReady = true →
    s.queues.Matches src dst

theorem applyFormat_spec (h : s.InOrder) (hmatch : s.Matched) (a : CompressAnswer) :
    (s.applyFormat a).2.InOrder ∧
      ((s.applyFormat a).1 = true → (s.applyFormat a).2 = s ∧ s.queues.pixFmt = false ∨
        (s.applyFormat a).2.Unused) := by
  unfold Matched at hmatch
  unfold applyFormat
  split
  · rename_i hpix
    exact ⟨h, fun _ => .inl ⟨rfl, hpix⟩⟩
  · rename_i hpix
    rw [if_pos (by simpa using hpix)] at hmatch
    obtain ⟨hkeeps, hreleased⟩ := CodecQueues.stopStreaming_spec h.flagged h.proper a.stop
    have hstopped := InOrder.onQueues hkeeps
    unfold andThen
    split
    · rename_i hfail
      exact ⟨hstopped, fun hok => absurd hok (by rw [hfail]; decide)⟩
    · rename_i hok
      have hok := hreleased (by simpa [onQueues] using hok)
      have hset := setFormat_spec hstopped ⟨hok.1, hok.2 hmatch⟩ a.srcFmt a.dstFmt
      exact ⟨hset.1, fun _ => .inr hset.2⟩

theorem InOrder.compressBuffers (h : s.InOrder)
    (hmatch : ∀ src dst, s.srcBuffer = some src → s.dstBuffer = some dst → s.b2bReady = true →
      s.queues.Matches src dst) (a : CompressAnswer) : (s.compressBuffers a).2.InOrder := by
  unfold Compressor.compressBuffers
  split
  · rename_i src dst hsrc hdst
    split
    · exact h
    · rename_i hready
      have hmarked : InOrder { s with controls := s.controls.markBuffers } := h.of_queues rfl
      exact hmarked.startCodec (hmatch src dst hsrc hdst (by simpa using hready)) a
  · exact h

theorem InOrder.dqBuf (h : s.InOrder) (a : DqAnswer) : (s.dqBuf a).2.InOrder := by
  have hq : InOrder { s with queues := { s.queues with qbufOut := false, qbufCap := false } } :=
    ⟨⟨h.flagged.requested, h.flagged.streams, h.flagged.dstEmpty⟩, h.proper⟩
  unfold Compressor.dqBuf
  dsimp only
  split
  · exact hq
  · exact hq.of_queues rfl

theorem InOrder.compress (h : s.InOrder) (hmatch : s.Matched) (blockMode : Bool)
    (a : CompressAnswer) : (s.compress blockMode a).2.InOrder := by
  obtain ⟨happlied, hmatched⟩ := applyFormat_spec h hmatch a
  have hbuffers : (andThen (s.applyFormat a) fun s => s.compressBuffers a).2.InOrder := by
    refine andThen_induct happlied fun hok => happlied.compressBuffers ?_ a
    intro src dst hsrc hdst hready
    rcases hmatched hok with ⟨hsame, hpix⟩ | hunused
    · unfold Matched at hmatch
      rw [if_neg (by simp [hpix])] at hmatch
      rw [hsame] at hsrc hdst hready ⊢
      exact hmatch src dst hsrc hdst hready
    · exact hunused.matches src dst
  unfold Compressor.compress
  dsimp only
  split
  · exact hbuffers
  · split
    · exact hbuffers.dqBuf a.dq
    · exact hbuffers

/-- Every call but `Compress` keeps the order whatever it finds. -/
theorem InOrder.step (h : s.InOrder) {c : CompressorCall}
    (hmatch : ∀ blockMode a, c = .compress blockMode a → s.Matched) : (s.step c).InOrder := by
  cases c with
  | setAuxFlags | clearAuxFlags | setChromaSampFactor | setQuality | setJpegBuffer =>
    exact h.of_queues rfl
  | setImageFormat q tryFmt =>
    show (s.setImageFormat q tryFmt).2.InOrder
    unfold Compressor.setImageFormat
    dsimp only
    split
    · exact h
    · exact ⟨⟨h.flagged.requested, h.flagged.streams, h.flagged.dstEmpty⟩, h.proper⟩
  | setImageBuffer memory lens =>
    show (s.setImageBuffer memory lens).2.InOrder
    unfold Compressor.setImageBuffer
    split
    · exact h
    · split
      · exact h
      · exact h.of_queues rfl
  | setImageBuffer2 lens =>
    show (s.setImageBuffer2 lens).2.InOrder
    unfold Compressor.setImageBuffer2
    split
    · exact h
    · split
      · exact h
      · exact h.of_queues rfl
  | setJpegBuffer2 =>
    show s.setJpegBuffer2.2.InOrder
    unfold Compressor.setJpegBuffer2
    split
    · exact h
    · exact h.of_queues rfl
  | compress blockMode a => exact h.compress (hmatch blockMode a rfl) blockMode a
  | waitForCompression a => exact h.dqBuf a
  | release a => exact h.stop a

/-! ## 3. Nothing less will do -/

/-- The driver grants everything but a format. -/
def grantBuffers : CompressAnswer where
  stop := ⟨true, true, ⟨true, true, true⟩⟩
  srcFmt := none
  dstFmt := true
  reqbufs := ⟨true, true, true⟩
  streamOn := ⟨true, true, true⟩
  sExtCtrls := true
  srcQbuf := true
  dstQbuf := true
  cancel := ⟨true, true, ⟨true, true, true⟩⟩
  dq := ⟨true, true, false, 0, 0⟩

theorem device_dqBuf (a : DqAnswer) : (s.dqBuf a).2.queues.device = s.queues.device := by
  unfold dqBuf
  dsimp only
  split <;> rfl

theorem device_compress (blockMode : Bool) (a : CompressAnswer) :
    (s.compress blockMode a).2.queues.device =
      (andThen (s.applyFormat a) fun s => s.compressBuffers a).2.queues.device := by
  unfold compress
  dsimp only
  split
  · rfl
  · split
    · exact device_dqBuf a.dq
    · rfl

/-- A format is set although the source queue still holds buffers. -/
theorem srcEmpty_of_proper (h : s.InOrder) (hpix : s.queues.pixFmt = true) {blockMode : Bool}
    (hp : (s.compress blockMode grantBuffers).2.queues.device.Proper) : s.queues.SrcEmpty := by
  intro hunset
  have hoff : s.queues.streaming = false := by
    cases hon : s.queues.streaming with
    | false => rfl
    | true => exact absurd (h.flagged.requested hon) (by simp [hunset])
  have hlog : (s.compress blockMode grantBuffers).2.queues.device.log =
      (s.queues.device.queue, .videoOutputMplane, .setFormat) :: s.queues.device.log := by
    rw [device_compress]
    simp [andThen, applyFormat, hpix, onQueues, CodecQueues.stopStreaming, CodecQueues.streamOff,
      hoff, CodecQueues.reqNoBufs, CodecQueues.reqBufsWith, hunset, setFormat, grantBuffers]
  have hallowed := hp _ (by rw [hlog]; exact List.mem_cons_self)
  exact hallowed .videoOutputMplane

theorem streamOn_granted {s : CodecQueues} (hset : s.reqbufs = true) (srcOff : Bool) :
    (s.streamOn ⟨true, true, srcOff⟩).1 = true ∧
      (s.streamOn ⟨true, true, srcOff⟩).2.reqbufs = true ∧
      ∀ t, ((s.streamOn ⟨true, true, srcOff⟩).2.device.queue t).held =
        (s.device.queue t).held := by
  unfold CodecQueues.streamOn
  split
  · exact ⟨rfl, hset, fun _ => rfl⟩
  · rw [if_neg (by simp [hset])]
    refine ⟨rfl, hset, fun t => ?_⟩
    cases t <;> simp [VideoDevice.ask_queue, VideoQueue.grant]

theorem updateControls_granted (s : CodecControls) : (s.updateControls true).1 = true := by
  unfold CodecControls.updateControls
  split <;> rfl

/-- Buffers are queued although the queues hold buffers of other memory types, or none. -/
theorem matches_of_proper (hpix : s.queues.pixFmt = false) {src dst : V4l2Memory}
    (hsrc : s.srcBuffer = some src) (hdst : s.dstBuffer = some dst) (hready : s.b2bReady = true)
    {blockMode : Bool} (hall : ∀ a, (s.compress blockMode a).2.queues.device.Proper) :
    s.queues.Matches src dst := by
  let marked : Compressor := { s with controls := s.controls.markBuffers }
  have hp : ∀ a, (marked.startCodec src dst a).2.queues.device.Proper := by
    intro a
    have hstart : (s.compress blockMode a).2.queues.device =
        (marked.startCodec src dst a).2.queues.device := by
      rw [device_compress]
      simp [andThen, applyFormat, hpix, compressBuffers, hsrc, hdst, hready, marked]
    exact hstart ▸ hall a
  unfold CodecQueues.Matches
  cases hset : s.queues.reqbufs with
  | true =>
    rw [if_pos rfl]
    obtain ⟨hok, hreq, hheld⟩ := streamOn_granted hset true
    let started := s.queues.streamOn ⟨true, true, true⟩
    have hgranted := updateControls_granted s.controls.markBuffers
    -- the two buffers are the last requests
    have hlog : ∃ log queue, (marked.startCodec src dst grantBuffers).2.queues.device.log =
        (queue, .videoCaptureMplane, .enqueue dst) ::
          (started.2.device.queue, .videoOutputMplane, .enqueue src) :: log ∧
        queue .videoCaptureMplane = started.2.device.queue .videoCaptureMplane := by
      refine ⟨started.2.device.log,
        (started.2.device.ask .videoOutputMplane (.enqueue src) true).queue, ?_, ?_⟩
      · simp [startCodec, andThen, onQueues, onControls, CodecQueues.reqBufs,
          CodecQueues.reqBufsWith, hset, marked, grantBuffers, hok, hgranted, qBuf, hreq, enqueue,
          started]
      · exact VideoDevice.ask_of_ne (by decide) _ _
    obtain ⟨log, queue, hlog, hqueue⟩ := hlog
    have hsrcAllowed := hp grantBuffers _
      (by rw [hlog]; exact List.mem_cons_of_mem _ List.mem_cons_self)
    have hdstAllowed := hp grantBuffers _ (by rw [hlog]; exact List.mem_cons_self)
    exact ⟨(hheld _).symm.trans hsrcAllowed.1,
      (hheld _).symm.trans (hqueue ▸ hdstAllowed.1)⟩
  | false =>
    rw [if_neg (by decide)]
    -- a refused request is the last one
    let refused := { grantBuffers with reqbufs := ⟨false, true, true⟩ }
    have hlog : (marked.startCodec src dst refused).2.queues.device.log =
        (s.queues.device.queue, .videoOutputMplane, .request src) :: s.queues.device.log := by
      simp [startCodec, andThen, onQueues, CodecQueues.reqBufs, CodecQueues.reqBufsWith, hset,
        marked, refused]
    exact hp refused _ (by rw [hlog]; exact List.mem_cons_self)

/-- Whatever the driver says, `Compress` keeps the protocol exactly when it finds a match. -/
theorem InOrder.compress_proper_iff (h : s.InOrder) (blockMode : Bool) :
    (∀ a, (s.compress blockMode a).2.queues.device.Proper) ↔ s.Matched := by
  constructor
  · intro hall
    unfold Matched
    split
    · rename_i hpix
      exact srcEmpty_of_proper h hpix (hall grantBuffers)
    · rename_i hpix
      exact fun src dst hsrc hdst hready =>
        matches_of_proper (by simpa using hpix) hsrc hdst hready hall
  · exact fun hmatch a => (h.compress hmatch blockMode a).proper

/-! ## 4. Runs of the compressor -/

theorem inOrder_created (b2bCapable : Bool) : (created b2bCapable).InOrder :=
  ⟨.of_stopped rfl fun _ => rfl, nofun⟩

/-- While `Compress` finds that the driver holds what the flags and the buffers that are set say,
every call on the driver is in order; when it finds something else, the driver's answers may be
such that it is not. -/
theorem proper_of_matched {b2bCapable : Bool} {calls : List CompressorCall} {s : Compressor}
    (run : ExecWhere (fun s c => ∀ blockMode a, c = .compress blockMode a → s.Matched)
      (functional step) (created b2bCapable) calls s) :
    s.queues.device.Proper ∧
      ∀ blockMode, (∀ a, (s.compress blockMode a).2.queues.device.Proper) ↔ s.Matched := by
  have hs : s.InOrder := by
    apply run.invariant (I := InOrder)
    · rintro s c t hs hmatch rfl
      exact hs.step hmatch
    · exact inOrder_created b2bCapable
  exact ⟨hs.proper, hs.compress_proper_iff⟩

/-- What the driver says to a first compression that it grants, with one plane of 16 bytes. -/
def grantAll : CompressAnswer :=
  { grantBuffers with srcFmt := some ⟨⟨v4l2PixFmtRgb24, 16, 16⟩, [16]⟩ }

def firstCalls : List CompressorCall :=
  [.setImageBuffer .userptr [16], .setJpegBuffer .userptr, .compress true grantAll]

/-- Two compressions from buffers of one memory type. -/
theorem proper_of_matched_twice :
    ((firstCalls ++ firstCalls).foldl step (created false)).queues.device.Proper := by
  refine (@proper_of_matched false (firstCalls ++ firstCalls) _ ?_).1
  apply ExecWhere.folded
  intro n c hc blockMode a hcompress
  subst hcompress
  match n with
  | 0 | 1 | 3 | 4 => cases hc
  | 2 => exact fun _ => rfl
  | 5 =>
    have hmatch : ∀ src dst, some V4l2Memory.userptr = some src →
        some V4l2Memory.userptr = some dst → true = true →
        (((firstCalls ++ firstCalls).take 5).foldl step (created false)).queues.Matches src dst := by
      intro src dst hsrc hdst _
      obtain rfl := Option.some.inj hsrc
      obtain rfl := Option.some.inj hdst
      exact ⟨rfl, rfl⟩
    exact hmatch
  | n + 6 => cases hc

/-- The second image comes in a dma-buf, and is queued where user pointers were requested. -/
theorem not_proper_after_memory_change :
    ¬ ∀ (b2bCapable : Bool) (calls : List CompressorCall) (s : Compressor),
      Exec (functional step) (created b2bCapable) calls s → s.queues.device.Proper := by
  intro h
  have hp := h false _ _ (Exec.folded step (created false)
    (firstCalls ++ [.setImageBuffer .dmabuf [16], .compress true grantAll]))
  have hallowed := hp _ (List.mem_cons_of_mem _ List.mem_cons_self)
  exact absurd hallowed.1 (by decide)

end Compressor

end Universal7870.Jpeg
