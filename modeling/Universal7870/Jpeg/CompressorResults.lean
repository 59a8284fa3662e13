import Universal7870.Jpeg.CompressorQueues

/-!
# What is waited for

`WaitForCompression` against what has become of the last `Compress`.  The answer of the driver to the
two DQBUFs is its report of the compression.
-/

namespace Universal7870.Jpeg

open Lib

/-! ## 1. The last compression -/

/-- What has become of the last `Compress`. -/
inductive CompressionOutcome
  | none
  | pending
  | completed (streamSize thumbStreamSize : Nat)
  | failed
  deriving DecidableEq, Repr

/-- What the hardware reports. -/
def DqAnswer.outcome (a : DqAnswer) : CompressionOutcome :=
  if a.src && a.dst && !a.error then .completed a.streamSize.toNat a.thumbStreamSize.toNat
  else .failed

/-- The report reaches a compression that is under way. -/
def CompressionOutcome.settle (last : CompressionOutcome) (a : DqAnswer) : CompressionOutcome :=
  match last with
  | .pending => a.outcome
  | _ => last

/-- `Compress` up to the queued buffers. -/
def Compressor.queueBuffers (s : Compressor) (a : CompressAnswer) : Bool × Compressor :=
  andThen (s.applyFormat a) fun s => s.compressBuffers a

/-- The compressor, and what has become of its last compression. -/
structure CompressionRun where
  codec : Compressor
  last : CompressionOutcome := .none

namespace CompressionRun

/-- A release takes the buffers from a compression that is under way. -/
def outcome (s : CompressionRun) : CompressorCall → CompressionOutcome
  | .compress blockMode a =>
    if (s.codec.queueBuffers a).1 = false then .failed
    else if blockMode then a.dq.outcome
    else .pending
  | .waitForCompression a => s.last.settle a
  | .release _ => if s.last = .pending then .failed else s.last
  | _ => s.last

def step (s : CompressionRun) (call : CompressorCall) : CompressionRun where
  codec := s.codec.step call
  last := s.outcome call

/-- `WaitForCompression` returns what has become of the last compression: its sizes, or an error. -/
def WaitsRight (s : CompressionRun) (a : DqAnswer) : Prop :=
  match s.last.settle a with
  | .completed streamSize thumbStreamSize =>
    (s.codec.dqBuf a).1 = streamSize ∧ (s.codec.dqBuf a).2.lastThumbStreamSize = thumbStreamSize
  | .failed => (s.codec.dqBuf a).1 < 0
  | _ => True

/-- The compression is under way, it had sizes of zero, or it has failed and so does that of an
earlier one, whose buffers are still queued. -/
def WaitFits (s : CompressionRun) (a : DqAnswer) : Prop :=
  match s.last with
  | .completed streamSize thumbStreamSize => streamSize = 0 ∧ thumbStreamSize = 0
  | .failed => s.codec.queues.qbufOut = true ∧ (a.src && a.dst && !a.error) = false
  | _ => True

end CompressionRun

/-! ## 2. The flags of the queued buffers -/

theorem andThen_cases {σ : Type*} {P Q : σ → Prop} {r : Bool × σ} {f : σ → Bool × σ} (hr : P r.2)
    (hf : r.1 = true → ((f r.2).1 = true → Q (f r.2).2) ∧ ((f r.2).1 = false → P (f r.2).2)) :
    ((andThen r f).1 = true → Q (andThen r f).2) ∧ ((andThen r f).1 = false → P (andThen r f).2) := by
  unfold andThen
  cases hok : r.1 with
  | false =>
    rw [if_pos rfl]
    exact ⟨fun h => absurd (hok.symm.trans h) nofun, fun _ => hr⟩
  | true =>
    rw [if_neg nofun]
    exact hf hok

namespace CodecQueues

/-- Both buffers are queued, or neither is. -/
def Marked (s : CodecQueues) (queued : Bool) : Prop := s.qbufOut = queued ∧ s.qbufCap = queued

/-- The flags are as they were, or both are cleared. -/
def KeepsMarks (s t : CodecQueues) : Prop :=
  t.qbufOut = s.qbufOut ∧ t.qbufCap = s.qbufCap ∨ t.Marked false

variable {s t u : CodecQueues}

theorem KeepsMarks.refl (s : CodecQueues) : s.KeepsMarks s := .inl ⟨rfl, rfl⟩

theorem KeepsMarks.trans (h : s.KeepsMarks t) (h' : t.KeepsMarks u) : s.KeepsMarks u := by
  rcases h' with ⟨hout, hcap⟩ | hcleared
  · rcases h with ⟨hout', hcap'⟩ | ⟨hout', hcap'⟩
    · exact .inl ⟨hout.trans hout', hcap.trans hcap'⟩
    · exact .inr ⟨hout.trans hout', hcap.trans hcap'⟩
  · exact .inr hcleared

theorem reqBufsWith_marks (wanted : Bool) (src dst : VideoRequest V4l2Memory) (a : ReqbufsAnswer) :
    (s.reqBufsWith wanted src dst a).2.qbufOut = s.qbufOut ∧
      (s.reqBufsWith wanted src dst a).2.qbufCap = s.qbufCap := by
  unfold reqBufsWith
  dsimp only
  split
  · exact ⟨rfl, rfl⟩
  · split
    · exact ⟨rfl, rfl⟩
    · split
      · exact ⟨rfl, rfl⟩
      · exact ⟨rfl, rfl⟩

theorem streamOn_marks (a : StreamOnAnswer) :
    (s.streamOn a).2.qbufOut = s.qbufOut ∧ (s.streamOn a).2.qbufCap = s.qbufCap := by
  unfold streamOn
  dsimp only
  split
  · exact ⟨rfl, rfl⟩
  · split
    · exact ⟨rfl, rfl⟩
    · split
      · exact ⟨rfl, rfl⟩
      · split
        · exact ⟨rfl, rfl⟩
        · exact ⟨rfl, rfl⟩

theorem stopStreaming_marked (a : StopAnswer) : (s.stopStreaming a).2.Marked false :=
  reqBufsWith_marks false .release .release a.reqbufs

end CodecQueues

namespace Compressor

variable {s : Compressor}

theorem setFormat_marks (srcFmt : Option DriverFormat) (dstFmt : Bool) :
    s.queues.KeepsMarks (s.setFormat srcFmt dstFmt).2.queues := by
  unfold setFormat
  cases srcFmt with
  | none => exact .inl ⟨rfl, rfl⟩
  | some format => exact .inl ⟨rfl, rfl⟩

theorem applyFormat_marks (a : CompressAnswer) :
    s.queues.KeepsMarks (s.applyFormat a).2.queues := by
  unfold applyFormat
  split
  · exact .refl _
  · have hstopped : s.queues.KeepsMarks (s.onQueues (s.queues.stopStreaming a.stop)).2.queues :=
      .inr (CodecQueues.stopStreaming_marked a.stop)
    exact andThen_induct (P := fun t : Compressor => s.queues.KeepsMarks t.queues) hstopped
      fun _ => hstopped.trans (setFormat_marks a.srcFmt a.dstFmt)

theorem qBuf_marks (src dst : V4l2Memory) (a : CompressAnswer) :
    ((s.qBuf src dst a).1 = true → (s.qBuf src dst a).2.queues.Marked true) ∧
      ((s.qBuf src dst a).1 = false → s.queues.KeepsMarks (s.qBuf src dst a).2.queues) := by
  unfold qBuf
  dsimp only
  split
  · exact ⟨nofun, fun _ => .refl _⟩
  · split
    · exact ⟨nofun, fun _ => .inl ⟨rfl, rfl⟩⟩
    · split
      · exact ⟨nofun, fun _ => .inr (CodecQueues.stopStreaming_marked a.cancel)⟩
      · exact ⟨fun _ => ⟨rfl, rfl⟩, nofun⟩

theorem startCodec_marks (src dst : V4l2Memory) (a : CompressAnswer) :
    ((s.startCodec src dst a).1 = true → (s.startCodec src dst a).2.queues.Marked true) ∧
      ((s.startCodec src dst a).1 = false →
        s.queues.KeepsMarks (s.startCodec src dst a).2.queues) := by
  unfold startCodec
  have hreqd : s.queues.KeepsMarks (s.onQueues (s.queues.reqBufs src dst a.reqbufs)).2.queues :=
    .inl (CodecQueues.reqBufsWith_marks true (.request src) (.request dst) a.reqbufs)
  refine andThen_cases (P := fun t : Compressor => s.queues.KeepsMarks t.queues)
    (Q := fun t : Compressor => t.queues.Marked true) hreqd fun _ => ?_
  have hstarted := hreqd.trans (.inl (CodecQueues.streamOn_marks a.streamOn))
  refine andThen_cases (P := fun t : Compressor => s.queues.KeepsMarks t.queues)
    (Q := fun t : Compressor => t.queues.Marked true) hstarted fun _ => ?_
  refine andThen_cases (P := fun t : Compressor => s.queues.KeepsMarks t.queues)
    (Q := fun t : Compressor => t.queues.Marked true) hstarted fun _ => ?_
  obtain ⟨hqueued, hrefused⟩ := qBuf_marks src dst a
  exact ⟨hqueued, fun h => hstarted.trans (hrefused h)⟩

theorem compressBuffers_marks (a : CompressAnswer) :
    ((s.compressBuffers a).1 = true → (s.compressBuffers a).2.queues.Marked true) ∧
      ((s.compressBuffers a).1 = false → s.queues.KeepsMarks (s.compressBuffers a).2.queues) := by
  unfold compressBuffers
  split
  · split
    · exact ⟨nofun, fun _ => .refl _⟩
    · exact startCodec_marks (s := { s with controls := s.controls.markBuffers }) _ _ a
  · exact ⟨nofun, fun _ => .refl _⟩

/-- The flags tell that a `Compress` has queued its buffers; where it has not, they are those of the
one before it, or cleared. -/
theorem queueBuffers_marks (a : CompressAnswer) :
    ((s.queueBuffers a).1 = true → (s.queueBuffers a).2.queues.Marked true) ∧
      ((s.queueBuffers a).1 = false → s.queues.KeepsMarks (s.queueBuffers a).2.queues) := by
  unfold queueBuffers
  refine andThen_cases (P := fun t : Compressor => s.queues.KeepsMarks t.queues)
    (Q := fun t : Compressor => t.queues.Marked true) (applyFormat_marks a) fun _ => ?_
  obtain ⟨hqueued, hrefused⟩ := compressBuffers_marks (s := (s.applyFormat a).2) a
  exact ⟨hqueued, fun h => (applyFormat_marks a).trans (hrefused h)⟩

theorem dqBuf_marked (a : DqAnswer) : (s.dqBuf a).2.queues.Marked false := by
  unfold dqBuf
  dsimp only
  split
  · exact ⟨rfl, rfl⟩
  · exact ⟨rfl, rfl⟩

/-- What `DQBuf` returns for buffers that are queued. -/
theorem dqBuf_of_marked (h : s.queues.Marked true) (a : DqAnswer) :
    match a.outcome with
    | .completed streamSize thumbStreamSize =>
      (s.dqBuf a).1 = streamSize ∧ (s.dqBuf a).2.lastThumbStreamSize = thumbStreamSize
    | _ => (s.dqBuf a).1 = -1 := by
  obtain ⟨hout, hcap⟩ := h
  obtain ⟨src, dst, error, streamSize, thumbStreamSize⟩ := a
  unfold dqBuf
  simp only [hout, hcap]
  cases src <;> cases dst <;> cases error <;> first | rfl | exact ⟨rfl, rfl⟩

/-- Without queued buffers it returns the sizes of nothing. -/
theorem dqBuf_of_unmarked (h : s.queues.Marked false) (a : DqAnswer) :
    (s.dqBuf a).1 = 0 ∧ (s.dqBuf a).2.lastThumbStreamSize = 0 := by
  obtain ⟨hout, hcap⟩ := h
  unfold dqBuf
  simp only [hout, hcap]
  exact ⟨rfl, rfl⟩

end Compressor

/-! ## 3. Runs -/

namespace CompressionRun

variable {s : CompressionRun}

/-- What the flags tell of the last compression. -/
structure Tracked (s : CompressionRun) : Prop where
  paired : ∃ queued, s.codec.queues.Marked queued
  pending : s.last = .pending → s.codec.queues.Marked true
  completed : ∀ m n, s.last = .completed m n → s.codec.queues.Marked false

theorem outcome_ne_pending (a : DqAnswer) : a.outcome ≠ .pending := by
  unfold DqAnswer.outcome
  split
  · nofun
  · nofun

theorem Tracked.of_keepsMarks (h : s.Tracked) {t : CompressionRun} (hlast : t.last = s.last)
    (hout : t.codec.queues.qbufOut = s.codec.queues.qbufOut)
    (hcap : t.codec.queues.qbufCap = s.codec.queues.qbufCap) : t.Tracked := by
  have hmarked (queued : Bool) (hm : s.codec.queues.Marked queued) : t.codec.queues.Marked queued :=
    ⟨hout.trans hm.1, hcap.trans hm.2⟩
  obtain ⟨queued, hm⟩ := h.paired
  exact ⟨⟨queued, hmarked _ hm⟩, fun hpending => hmarked _ (h.pending (hlast ▸ hpending)),
    fun m n hcompleted => hmarked _ (h.completed m n (hlast ▸ hcompleted))⟩

/-- A compression that was dequeued. -/
theorem tracked_of_unmarked {t : CompressionRun} (hcleared : t.codec.queues.Marked false)
    (hlast : t.last ≠ .pending) : t.Tracked :=
  ⟨⟨false, hcleared⟩, fun h => absurd h hlast, fun _ _ _ => hcleared⟩

theorem tracked_wait (s : CompressionRun) (a : DqAnswer) : (s.step (.waitForCompression a)).Tracked := by
  refine tracked_of_unmarked (Compressor.dqBuf_marked a) ?_
  change s.last.settle a ≠ .pending
  unfold CompressionOutcome.settle
  split
  · exact outcome_ne_pending a
  · rename_i hlast
    exact hlast

theorem Tracked.compress (h : s.Tracked) (blockMode : Bool) (a : CompressAnswer) :
    (s.step (.compress blockMode a)).Tracked := by
  obtain ⟨hqueued, hrefused⟩ := Compressor.queueBuffers_marks (s := s.codec) a
  cases hok : (s.codec.queueBuffers a).1 with
  | false =>
    have hcodec : (s.step (.compress blockMode a)).codec = (s.codec.queueBuffers a).2 := by
      change (s.codec.compress blockMode a).2 = _
      unfold Compressor.compress
      exact congrArg Prod.snd (if_pos hok)
    have hlast : (s.step (.compress blockMode a)).last = .failed := if_pos hok
    obtain ⟨queued, hout, hcap⟩ := h.paired
    refine ⟨?_, fun hp => absurd (hlast.symm.trans hp) nofun,
      fun m n hc => absurd (hlast.symm.trans hc) nofun⟩
    rw [hcodec]
    rcases hrefused hok with ⟨hout', hcap'⟩ | hcleared
    · exact ⟨queued, hout'.trans hout, hcap'.trans hcap⟩
    · exact ⟨false, hcleared⟩
  | true =>
    have hnot : ¬(s.codec.queueBuffers a).1 = false := fun h => absurd (hok.symm.trans h) nofun
    cases blockMode with
    | true =>
      have hcodec : (s.step (.compress true a)).codec = ((s.codec.queueBuffers a).2.dqBuf a.dq).2 := by
        change (s.codec.compress true a).2 = _
        unfold Compressor.compress
        exact congrArg Prod.snd (if_neg hnot)
      have hlast : (s.step (.compress true a)).last = a.dq.outcome := if_neg hnot
      refine tracked_of_unmarked ?_ ?_
      · rw [hcodec]
        exact Compressor.dqBuf_marked a.dq
      · rw [hlast]
        exact outcome_ne_pending a.dq
    | false =>
      have hcodec : (s.step (.compress false a)).codec = (s.codec.queueBuffers a).2 := by
        change (s.codec.compress false a).2 = _
        unfold Compressor.compress
        exact congrArg Prod.snd (if_neg hnot)
      have hlast : (s.step (.compress false a)).last = .pending := if_neg hnot
      refine ⟨⟨true, hcodec ▸ hqueued hok⟩, fun _ => hcodec ▸ hqueued hok, fun m n hc => ?_⟩
      exact absurd (hlast.symm.trans hc) nofun

theorem Tracked.step (h : s.Tracked) (call : CompressorCall) : (s.step call).Tracked := by
  cases call with
  | setAuxFlags | clearAuxFlags | setChromaSampFactor | setQuality | setJpegBuffer =>
    exact h.of_keepsMarks rfl rfl rfl
  | setImageFormat q tryFmt =>
    have hkept : (s.codec.setImageFormat q tryFmt).2.queues.qbufOut = s.codec.queues.qbufOut ∧
        (s.codec.setImageFormat q tryFmt).2.queues.qbufCap = s.codec.queues.qbufCap := by
      unfold Compressor.setImageFormat
      dsimp only
      split
      · exact ⟨rfl, rfl⟩
      · exact ⟨rfl, rfl⟩
    exact h.of_keepsMarks rfl hkept.1 hkept.2
  | setImageBuffer memory lens =>
    have hkept : (s.codec.setImageBuffer memory lens).2.queues = s.codec.queues := by
      unfold Compressor.setImageBuffer
      split
      · rfl
      · split
        · rfl
        · rfl
    exact h.of_keepsMarks rfl (congrArg CodecQueues.qbufOut hkept) (congrArg CodecQueues.qbufCap hkept)
  | setImageBuffer2 lens =>
    have hkept : (s.codec.setImageBuffer2 lens).2.queues = s.codec.queues := by
      unfold Compressor.setImageBuffer2
      split
      · rfl
      · split
        · rfl
        · rfl
    exact h.of_keepsMarks rfl (congrArg CodecQueues.qbufOut hkept) (congrArg CodecQueues.qbufCap hkept)
  | setJpegBuffer2 =>
    have hkept : s.codec.setJpegBuffer2.2.queues = s.codec.queues := by
      unfold Compressor.setJpegBuffer2
      split
      · rfl
      · rfl
    exact h.of_keepsMarks rfl (congrArg CodecQueues.qbufOut hkept) (congrArg CodecQueues.qbufCap hkept)
  | compress blockMode a => exact h.compress blockMode a
  | waitForCompression a => exact tracked_wait s a
  | release a =>
    refine tracked_of_unmarked (CodecQueues.stopStreaming_marked a) ?_
    change (if s.last = .pending then CompressionOutcome.failed else s.last) ≠ .pending
    split
    · nofun
    · rename_i hlast
      exact hlast

/-- The calls of a client of a new compressor. -/
def run (b2bCapable : Bool) (calls : List CompressorCall) : CompressionRun :=
  calls.foldl step { codec := .created b2bCapable }

theorem tracked_run (b2bCapable : Bool) (calls : List CompressorCall) :
    (run b2bCapable calls).Tracked :=
  Exec.invariant (fun s call t hs hstep => by
    obtain rfl : s.step call = t := hstep
    exact hs.step call) (Exec.folded step _ calls) ⟨⟨false, rfl, rfl⟩, nofun, nofun⟩

theorem outcome_completed_or_failed (a : DqAnswer) :
    (a.src && a.dst && !a.error) = true ∧
        a.outcome = .completed a.streamSize.toNat a.thumbStreamSize.toNat ∨
      (a.src && a.dst && !a.error) = false ∧ a.outcome = .failed := by
  unfold DqAnswer.outcome
  cases hok : a.src && a.dst && !a.error with
  | true => exact .inl ⟨rfl, if_pos rfl⟩
  | false => exact .inr ⟨rfl, if_neg nofun⟩

theorem Tracked.waitsRight_iff (h : s.Tracked) (a : DqAnswer) : s.WaitsRight a ↔ s.WaitFits a := by
  unfold WaitsRight WaitFits
  cases hlast : s.last with
  | none => exact Iff.rfl
  | pending =>
    refine iff_of_true ?_ trivial
    have hreport := Compressor.dqBuf_of_marked (h.pending hlast) a
    change match a.outcome with
      | .completed streamSize thumbStreamSize => _
      | .failed => _
      | _ => True
    rcases outcome_completed_or_failed a with ⟨-, hout⟩ | ⟨-, hout⟩
    · rw [hout] at hreport ⊢
      exact hreport
    · rw [hout] at hreport ⊢
      change (s.codec.dqBuf a).1 < 0
      rw [hreport]
      decide
  | completed m n =>
    obtain ⟨hsize, hthumb⟩ := Compressor.dqBuf_of_unmarked (h.completed m n hlast) a
    change (s.codec.dqBuf a).1 = m ∧ (s.codec.dqBuf a).2.lastThumbStreamSize = n ↔ m = 0 ∧ n = 0
    rw [hsize, hthumb]
    omega
  | failed =>
    change (s.codec.dqBuf a).1 < 0 ↔ _
    obtain ⟨queued, hmarked⟩ := h.paired
    dsimp only
    rw [hmarked.1]
    cases queued with
    | false =>
      rw [(Compressor.dqBuf_of_unmarked hmarked a).1]
      exact iff_of_false (by decide) nofun
    | true =>
      have hreport := Compressor.dqBuf_of_marked hmarked a
      rcases outcome_completed_or_failed a with ⟨hok, hout⟩ | ⟨hok, hout⟩
      · rw [hout] at hreport
        rw [hreport.1, hok]
        exact iff_of_false (by omega) nofun
      · rw [hout] at hreport
        rw [show (s.codec.dqBuf a).1 = -1 from hreport]
        exact iff_of_true (by decide) ⟨rfl, hok⟩

/-- After any calls, what is waited for is returned as it was reported just if it is still under way,
or nothing was reported of it that could be told from nothing. -/
theorem run_waitsRight_iff (b2bCapable : Bool) (calls : List CompressorCall) (a : DqAnswer) :
    (run b2bCapable calls).WaitsRight a ↔ (run b2bCapable calls).WaitFits a :=
  (tracked_run b2bCapable calls).waitsRight_iff a

/-- A compression of 1000 bytes. -/
def blockingCalls : List CompressorCall :=
  [.setImageBuffer .userptr [16], .setJpegBuffer .userptr,
    .compress true { Compressor.grantAll with dq := ⟨true, true, false, 1000, 0⟩ }]

/-- Its size is gone by the first wait. -/
theorem blocking_size_lost :
    ¬(run false blockingCalls).WaitsRight ⟨true, true, false, 1000, 0⟩ := by
  rintro ⟨hsize, -⟩
  cases hsize

end CompressionRun

end Universal7870.Jpeg
