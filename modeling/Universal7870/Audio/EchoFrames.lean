import Mathlib.Algebra.GroupWithZero.Nat
import Universal7870.Audio.CaptureData

/-!
# The frames of the echo reference

An echo canceller is given the frames that were played beside those that are captured.  They wait in
`ref_buf` as the captured ones do in `proc_buf_in`, but `start_input_stream` only empties the latter.
-/

namespace Universal7870.Audio

open Lib

/-! ## 1. The code -/

/-- A capture session with effects and an echo reference, whose `read` delivers the samples of
`reference`.  There is no resampler, so `requested_rate` is the rate of the PCM. -/
structure EchoSession extends CaptureSession where
  reference : Nat → Int16
  rate : Nat
  rate_pos : 0 < rate
  hasProcessing_eq : hasProcessing = true

/-- What an effect takes of the frames that it is given. -/
structure Reverse where
  frameCount : Nat → Nat
  frameCount_le : ∀ given, frameCount given ≤ given

/-- How `echo_reference->read` leaves its buffer: the frames that it delivered, if it is `ok`, and the
delay of the echo, which takes the place of the one that it was given. -/
structure EchoRead where
  ok : Bool
  frameCount : Nat
  delayNs : Int32

/-- What a push is answered. -/
structure PushAnswers where
  /-- The frames that `pcm_get_htimestamp` finds in the buffer of the driver, unless it fails. -/
  kernelFrames : Option Nat
  /-- What the echo reference makes of the frames that it is asked for and the capture delay. -/
  read : Nat → Int32 → EchoRead
  /-- The attached effects that have a `process_reverse`. -/
  effects : List Reverse

/-- The history of one turn: the frames that the PCM had captured, where the driver was asked and
tells, the capture delay that the echo reference was given and what it answered, where it was asked,
the delay that the effects were told, and the samples that they consumed. -/
structure EchoTurn where
  pcmFrames : Option Nat
  read : Option (Int32 × EchoRead)
  delayUs : Int32
  captured : List Int16
  reversed : List (List Int16)

/-- `refFrames` and `turns` are history: the frames that the echo reference has delivered, and what
the turns came to. -/
structure EchoData where
  capture : CaptureData
  refBuf : Nat → Int16
  refBufFrames : Nat
  refBufSize : Nat
  refFrames : Nat
  turns : List EchoTurn

inductive EchoCall
  | request (frames : Nat)
  | turn (process : ProcessResult) (answers : PushAnswers)

namespace EchoSession

variable (c : EchoSession)

/-- `get_capture_delay`, as the 32 bits of `delay_ns`. -/
def captureDelay (s : CaptureData) : Option Nat → Int32
  | none => 0
  | some kernelFrames =>
    Int32.ofNat (kernelFrames * 1000000000 / c.rate +
      (s.readBufFrames * 1000000000 / c.rate + s.procBufFrames * 1000000000 / c.rate))

/-- The frames of the echo reference have the main channels only. -/
def updateEchoReference (a : PushAnswers) (s : EchoData) (frames : Nat) : Int32 × EchoData :=
  if s.refBufFrames < frames then
    -- the buffer grows with `realloc`, which keeps what it holds
    let s := if s.refBufSize < frames then { s with refBufSize := frames } else s
    let b := a.read (frames - s.refBufFrames) (c.captureDelay s.capture a.kernelFrames)
    let count := if b.ok then b.frameCount else 0
    (b.delayNs,
      { s with
        refBuf := blit s.refBuf (s.refBufFrames * c.channels) c.reference
          (s.refFrames * c.mainChannels) (count * c.mainChannels)
        refBufFrames := s.refBufFrames + count
        refFrames := s.refFrames + count })
  else (0, s)

/-- Each effect is given the `frameCount` that the one before it left, and frames from the beginning
of `ref_buf` on. -/
def processReverse (refBuf : Nat → Int16) : List Reverse → Nat → Nat × List (List Int16)
  | [], frameCount => (frameCount, [])
  | effect :: effects, frameCount =>
    let consumed := effect.frameCount frameCount
    let r := processReverse refBuf effects consumed
    (r.1, (List.range (consumed * c.mainChannels)).map refBuf :: r.2)

/-- `push_echo_reference`, with the delay and what the effects consumed. -/
def pushEchoReference (copy : Memcpy Int16) (a : PushAnswers) (s : EchoData) (frames : Nat) :
    (Int32 × List (List Int16)) × EchoData :=
  let u := c.updateEchoReference a s frames
  let s := u.2
  -- where the echo reference is short, the effects are given fewer frames
  let frames := if s.refBufFrames < frames then s.refBufFrames else frames
  let r := c.processReverse s.refBuf a.effects frames
  let rest := s.refBufFrames - r.1
  ((u.1 / 1000, r.2),
    { s with
      refBufFrames := rest
      refBuf :=
        if rest ≠ 0 then copy.copy s.refBuf 0 (r.1 * c.channels) (rest * c.channels)
        else s.refBuf })

/-- A turn of the loop in `read_and_process_frames`. -/
def turn (copy : Memcpy Int16) (s : EchoData) (p : ProcessResult) (a : PushAnswers) : EchoData :=
  let capture := c.reload s.capture
  let pushed := c.pushEchoReference copy a { s with capture := capture } capture.procBufFrames
  let consumed := p.consumed capture.procBufFrames (capture.frames - capture.framesWr)
  { pushed.2 with
    capture := c.process copy capture p
    turns := s.turns ++ [{
      pcmFrames :=
        if s.refBufFrames < capture.procBufFrames then
          a.kernelFrames.map (capture.pcmFrames + ·)
        else none
      read :=
        if s.refBufFrames < capture.procBufFrames then
          let delayNs := c.captureDelay capture a.kernelFrames
          some (delayNs, a.read (capture.procBufFrames - s.refBufFrames) delayNs)
        else none
      delayUs := pushed.1.1
      captured := (List.range (consumed * c.channels)).map capture.procBufIn
      reversed := pushed.1.2 }] }

def step (copy : Memcpy Int16) (s : EchoData) : EchoCall → Option EchoData
  | .request frames =>
    if s.capture.frames ≤ s.capture.framesWr then
      some { s with capture := { s.capture with frames := frames, framesWr := 0 } }
    else none
  | .turn p a => if s.capture.framesWr < s.capture.frames then some (c.turn copy s p a) else none

end EchoSession

/-! ## 2. The frames in `ref_buf` -/

/-- The echo reference delivers what it is asked for. -/
def PushAnswers.Delivers (a : PushAnswers) : Prop :=
  ∀ asked delayNs, (a.read asked delayNs).ok ∧ (a.read asked delayNs).frameCount = asked

namespace EchoSession

variable (c : EchoSession)

/-- The samples that are to reach the effects: those of the `left` frames that a session before left
in `ref_buf`, and the echo reference behind them. -/
def stream (refBuf : Nat → Int16) (left : Nat) : Nat → Int16 := fun i =>
  if i < left * c.channels then refBuf i else c.reference (i - left * c.channels)

/-- The frames of the stream that were dropped from `ref_buf`. -/
def dropped (left : Nat) (s : EchoData) : Nat := left + s.refFrames - s.refBufFrames

/-- `ref_buf` begins with the frames that come next. -/
structure RefBufOk (stream : Nat → Int16) (left : Nat) (s : EchoData) : Prop where
  taken : s.refBufFrames ≤ left + s.refFrames
  samples : BeginsWith s.refBuf stream (dropped left s * c.channels) (s.refBufFrames * c.channels)

variable {c} {refBuf : Nat → Int16} {left : Nat} {s : EchoData}

theorem reference_eq (refBuf : Nat → Int16) (left i : Nat) :
    c.reference i = c.stream refBuf left (left * c.channels + i) := by
  unfold stream
  rw [if_neg (by omega), Nat.add_sub_cancel_left]

theorem RefBufOk.update (hmain : c.mainChannels = c.channels)
    (h : c.RefBufOk (c.stream refBuf left) left s) (a : PushAnswers) (frames : Nat) :
    c.RefBufOk (c.stream refBuf left) left (c.updateEchoReference a s frames).2 ∧
      dropped left (c.updateEchoReference a s frames).2 = dropped left s := by
  unfold updateEchoReference
  by_cases hless : s.refBufFrames < frames
  · rw [if_pos hless]
    dsimp only
    generalize hsized : (if s.refBufSize < frames then { s with refBufSize := frames } else s) = u
    have hsame : u.refBuf = s.refBuf ∧ u.refBufFrames = s.refBufFrames ∧
        u.refFrames = s.refFrames := by
      rw [← hsized]
      split <;> exact ⟨rfl, rfl, rfl⟩
    generalize (if (a.read (frames - u.refBufFrames)
      (c.captureDelay u.capture a.kernelFrames)).ok then _ else 0 : Nat) = count
    have htaken := h.taken
    have hdropped : left + (u.refFrames + count) - (u.refBufFrames + count) = dropped left s := by
      unfold dropped
      omega
    refine ⟨⟨?_, ?_⟩, hdropped⟩
    · show u.refBufFrames + count ≤ left + (u.refFrames + count)
      omega
    · unfold dropped
      dsimp only
      rw [hdropped, hmain, hsame.1, hsame.2.1, hsame.2.2, Nat.add_mul]
      have hplace : left + s.refFrames = dropped left s + s.refBufFrames := by
        unfold dropped
        omega
      -- the echo reference goes on where the stream was left
      have hsource : ∀ i < count * c.channels, c.reference (s.refFrames * c.channels + i) =
          c.stream refBuf left (dropped left s * c.channels + s.refBufFrames * c.channels + i) := by
        intro i _
        rw [reference_eq refBuf left, ← Nat.add_assoc, ← Nat.add_mul, ← Nat.add_mul, hplace]
      rw [blit_congr hsource]
      exact h.samples.extend _
  · rw [if_neg hless]
    exact ⟨h, rfl⟩

/-- What the effects consume begins where `ref_buf` begins, and is not less than what is dropped
then. -/
theorem processReverse_spec (refBuf : Nat → Int16) (effects : List Reverse) (n : Nat) :
    (c.processReverse refBuf effects n).1 ≤ n ∧
      ∀ samples ∈ (c.processReverse refBuf effects n).2,
        ∃ k, (c.processReverse refBuf effects n).1 ≤ k ∧ k ≤ n ∧
          samples = (List.range (k * c.mainChannels)).map refBuf := by
  induction effects generalizing n with
  | nil => exact ⟨Nat.le_refl n, List.forall_mem_nil _⟩
  | cons effect effects ih =>
    obtain ⟨hle, hsamples⟩ := ih (effect.frameCount n)
    have hconsumed := effect.frameCount_le n
    unfold processReverse
    dsimp only
    refine ⟨Nat.le_trans hle hconsumed, ?_⟩
    rw [List.forall_mem_cons]
    refine ⟨⟨_, hle, hconsumed, rfl⟩, fun samples hmem => ?_⟩
    obtain ⟨k, hlow, hhigh, heq⟩ := hsamples samples hmem
    exact ⟨k, hlow, Nat.le_trans hhigh hconsumed, heq⟩

/-- The frames that are left are moved to the beginning. -/
theorem RefBufOk.drop (h : c.RefBufOk (c.stream refBuf left) left s) (copy : Memcpy Int16) {n : Nat}
    (hle : n ≤ s.refBufFrames) (hhalf : s.refBufFrames ≤ 2 * n) :
    c.RefBufOk (c.stream refBuf left) left
        { s with
          refBufFrames := s.refBufFrames - n
          refBuf :=
            if s.refBufFrames - n ≠ 0 then
              copy.copy s.refBuf 0 (n * c.channels) ((s.refBufFrames - n) * c.channels)
            else s.refBuf } ∧
      left + s.refFrames - (s.refBufFrames - n) = dropped left s + n := by
  have htaken := h.taken
  have hdropped : left + s.refFrames - (s.refBufFrames - n) = dropped left s + n := by
    unfold dropped
    omega
  refine ⟨⟨?_, ?_⟩, hdropped⟩
  · show s.refBufFrames - n ≤ left + s.refFrames
    omega
  · unfold dropped
    dsimp only
    rw [hdropped]
    by_cases hrest : s.refBufFrames - n ≠ 0
    · rw [if_pos hrest, Nat.add_mul]
      -- `memcpy` within `ref_buf`: half of it is gone, so the blocks do not overlap
      refine BeginsWith.dropFront copy ?_ (Nat.mul_le_mul_right _ (by omega))
      rw [← Nat.add_mul, Nat.add_sub_cancel' hle]
      exact h.samples
    · rw [not_not.mp hrest, Nat.zero_mul]
      exact fun i hi => absurd hi (Nat.not_lt_zero i)

/-- The frames that remain for the next push once all effects were called. -/
def reverseCount (effects : List Reverse) (n : Nat) : Nat :=
  effects.foldl (fun n effect => effect.frameCount n) n

theorem processReverse_fst (refBuf : Nat → Int16) (effects : List Reverse) (n : Nat) :
    (c.processReverse refBuf effects n).1 = reverseCount effects n := by
  induction effects generalizing n with
  | nil => rfl
  | cons effect effects ih => exact ih (effect.frameCount n)

theorem refBufFrames_update {a : PushAnswers} (hread : a.Delivers) (frames : Nat) :
    (c.updateEchoReference a s frames).2.refBufFrames = max s.refBufFrames frames := by
  unfold updateEchoReference
  by_cases hless : s.refBufFrames < frames
  · rw [if_pos hless]
    dsimp only
    rw [if_pos (hread _ _).1, (hread _ _).2]
    split
    · show s.refBufFrames + (frames - s.refBufFrames) = max s.refBufFrames frames
      omega
    · show s.refBufFrames + (frames - s.refBufFrames) = max s.refBufFrames frames
      omega
  · rw [if_neg hless]
    show s.refBufFrames = max s.refBufFrames frames
    omega

/-- A push for which the echo reference has all the frames. -/
theorem RefBufOk.push (hmain : c.mainChannels = c.channels)
    (h : c.RefBufOk (c.stream refBuf left) left s) (copy : Memcpy Int16) {a : PushAnswers}
    (hread : a.Delivers) {frames : Nat}
    (hhalf : max s.refBufFrames frames ≤ 2 * reverseCount a.effects frames) :
    c.RefBufOk (c.stream refBuf left) left (c.pushEchoReference copy a s frames).2 ∧
      dropped left (c.pushEchoReference copy a s frames).2 =
        dropped left s + reverseCount a.effects frames ∧
      ∀ samples ∈ (c.pushEchoReference copy a s frames).1.2,
        ∃ k, reverseCount a.effects frames ≤ k ∧
          samples = (List.range (k * c.channels)).map
            fun i => c.stream refBuf left (dropped left s * c.channels + i) := by
  obtain ⟨hok, hdropped⟩ := h.update hmain a frames
  have hframes := refBufFrames_update (c := c) (s := s) hread frames
  unfold pushEchoReference
  dsimp only
  generalize (c.updateEchoReference a s frames).2 = u at *
  -- nothing is missing, so all effects are given what was captured
  have hgiven : (if u.refBufFrames < frames then u.refBufFrames else frames) = frames :=
    if_neg (by omega)
  obtain ⟨hle, hsamples⟩ := processReverse_spec (c := c) u.refBuf a.effects frames
  rw [processReverse_fst] at hle hsamples
  rw [hgiven, processReverse_fst]
  obtain ⟨hrest, hend⟩ := hok.drop copy
    (show reverseCount a.effects frames ≤ u.refBufFrames by omega) (by omega)
  refine ⟨hrest, ?_, fun samples hmem => ?_⟩
  · rw [← hdropped]
    exact hend
  · obtain ⟨k, hlow, hhigh, heq⟩ := hsamples samples hmem
    refine ⟨k, hlow, ?_⟩
    rw [heq, hmain, ← hdropped]
    exact hok.samples.map_range (Nat.mul_le_mul_right _ (by omega))

/-! ## 3. The delay -/

/-- Three quotients that are rounded down. -/
theorem add_div_bounds (i j k : Nat) {n : Nat} (hn : 0 < n) :
    (i / n + (j / n + k / n)) * n ≤ i + (j + k) ∧
      i + (j + k) < (i / n + (j / n + k / n) + 3) * n := by
  have hparts (m : Nat) : m / n * n ≤ m ∧ m < m / n * n + n :=
    ⟨Nat.div_mul_le_self _ _, Nat.lt_div_mul_add hn⟩
  have hi := hparts i
  have hj := hparts j
  have hk := hparts k
  simp only [Nat.add_mul]
  omega

/-- The capture delay, of at most two seconds, is the time of the frames that are in the buffers of
the driver and of the stream. -/
theorem captureDelay_spec (capture : CaptureData) {kernelFrames frames : Nat}
    (hframes : kernelFrames + (capture.readBufFrames + capture.procBufFrames) = frames) :
    ∃ ns : Nat, c.captureDelay capture (some kernelFrames) = Int32.ofNat ns ∧
      ns * c.rate ≤ frames * 1000000000 ∧ frames * 1000000000 < (ns + 3) * c.rate := by
  have hbounds := add_div_bounds (kernelFrames * 1000000000) (capture.readBufFrames * 1000000000)
    (capture.procBufFrames * 1000000000) c.rate_pos
  rw [← Nat.add_mul, ← Nat.add_mul, hframes] at hbounds
  exact ⟨_, rfl, hbounds⟩

/-! ## 4. Sessions -/

/-- A turn in which the effects get captured frames from the `n`-th on, and as many frames of the
stream at least, from its `n`-th on.  The delay that the echo reference is given, where the driver
tells one, is the time since the `n`-th frame was captured, and the effects are told the delay that
the echo reference answers. -/
structure Paired (c : EchoSession) (stream : Nat → Int16) (n : Nat) (t : EchoTurn) : Prop where
  samples : ∃ m, t.captured = (List.range (m * c.channels)).map
      (fun i => c.pcm (n * c.channels + i)) ∧
    ∀ samples ∈ t.reversed, ∃ k, m ≤ k ∧
      samples = (List.range (k * c.channels)).map fun i => stream (n * c.channels + i)
  unread : t.read = none → t.pcmFrames = none ∧ t.delayUs = 0
  read : ∀ given b, t.read = some (given, b) → t.delayUs = b.delayNs / 1000 ∧
    (t.pcmFrames = none → given = 0) ∧
    ∀ pcmFrames, t.pcmFrames = some pcmFrames → n ≤ pcmFrames ∧
      ∃ ns : Nat, given = Int32.ofNat ns ∧ ns * c.rate ≤ (pcmFrames - n) * 1000000000 ∧
        (pcmFrames - n) * 1000000000 < (ns + 3) * c.rate

end EchoSession

/-- The echo reference delivers what it is asked for, the effects consume as many frames of it as of
the captured ones, and at least half of what waits. -/
def EchoCall.InStep (s : EchoData) : EchoCall → Prop
  | .request _ => True
  | .turn p a =>
    let given := max s.capture.procBufFrames s.capture.frames
    a.Delivers ∧
      EchoSession.reverseCount a.effects given =
        p.consumed given (s.capture.frames - s.capture.framesWr) ∧
      max s.refBufFrames given ≤ 2 * EchoSession.reverseCount a.effects given

namespace EchoSession

variable {c : EchoSession} {refBuf : Nat → Int16} {left : Nat} {s : EchoData}

/-- What holds between calls. -/
structure InStep (c : EchoSession) (refBuf : Nat → Int16) (left : Nat) (s : EchoData) : Prop where
  readBuf : c.ReadBufOk s.capture
  procBuf : c.ProcBufOk s.capture
  waiting : c.RefBufOk (c.stream refBuf left) left s
  together : dropped left s = CaptureSession.next s.capture - s.capture.procBufFrames
  consumed : s.turns.flatMap EchoTurn.captured = s.capture.consumed
  turns : ∀ k t, s.turns[k]? = some t →
    ∃ n, ((s.turns.take k).flatMap EchoTurn.captured).length = n * c.channels ∧
      c.Paired (c.stream refBuf left) n t

theorem reload_next {capture : CaptureData} (hread : c.ReadBufOk capture)
    (hproc : c.ProcBufOk capture) :
    CaptureSession.next (c.reload capture) - (c.reload capture).procBufFrames =
        CaptureSession.next capture - capture.procBufFrames ∧
      (c.reload capture).consumed = capture.consumed := by
  unfold CaptureSession.reload
  by_cases hless : capture.procBufFrames < capture.frames
  · rw [if_pos hless]
    obtain ⟨-, -, hnext, hsame⟩ := hread.readFrames (capture.procBufFrames * c.channels)
      (capture.frames - capture.procBufFrames) capture.procBufIn
      (Nat.zero_le (capture.frames - capture.procBufFrames)) (Nat.le_refl _)
    refine ⟨?_, hsame.consumed⟩
    show CaptureSession.next (c.readFrames _ _ _ _ _ capture).2 -
      (capture.procBufFrames + (capture.frames - capture.procBufFrames)) = _
    -- what was read from the PCM comes behind what waits in `proc_buf_in`
    have htaken := hproc.taken
    omega
  · rw [if_neg hless]
    exact ⟨rfl, rfl⟩

/-- A push tells the delay that the echo reference answers. -/
theorem delay_update (a : PushAnswers) (frames : Nat) :
    (c.updateEchoReference a s frames).1 =
      if s.refBufFrames < frames then
        (a.read (frames - s.refBufFrames) (c.captureDelay s.capture a.kernelFrames)).delayNs
      else 0 := by
  unfold updateEchoReference
  split
  · split <;> rfl
  · rfl

/-- What the echo reference is given: the time of the frames from the `n`-th captured one on, if the
driver tells. -/
theorem given_spec {capture : CaptureData} (hread : c.ReadBufOk capture)
    (htaken : capture.procBufFrames ≤ CaptureSession.next capture) {n : Nat}
    (hn : n = CaptureSession.next capture - capture.procBufFrames) {kernelFrames pcmFrames : Nat}
    (hpcm : capture.pcmFrames + kernelFrames = pcmFrames) :
    n ≤ pcmFrames ∧
      ∃ ns : Nat, c.captureDelay capture (some kernelFrames) = Int32.ofNat ns ∧
        ns * c.rate ≤ (pcmFrames - n) * 1000000000 ∧
        (pcmFrames - n) * 1000000000 < (ns + 3) * c.rate := by
  -- no frame is lost between the PCM, `read_buf` and `proc_buf_in`
  have hbuffers := hread.taken
  unfold CaptureSession.next at htaken hn
  exact ⟨by omega, captureDelay_spec capture (by omega)⟩

theorem InStep.turn (hmain : c.mainChannels = c.channels) (h : c.InStep refBuf left s)
    (copy : Memcpy Int16) {p : ProcessResult} {a : PushAnswers}
    (hcall : (EchoCall.turn p a).InStep s) : c.InStep refBuf left (c.turn copy s p a) := by
  obtain ⟨hread, hproc, hgiven, hframes, hwr⟩ := CaptureSession.ProcBufOk.reload h.readBuf h.procBuf
  obtain ⟨hnext, hconsumed⟩ := reload_next h.readBuf h.procBuf
  unfold EchoCall.InStep at hcall
  dsimp only at hcall
  rw [← hgiven, ← hframes, ← hwr] at hcall
  unfold EchoSession.turn
  generalize c.reload s.capture = capture at *
  dsimp only
  obtain ⟨hall, hsame, hhalf⟩ := hcall
  have hwaiting : c.RefBufOk (c.stream refBuf left) left { s with capture := capture } :=
    ⟨h.waiting.taken, h.waiting.samples⟩
  obtain ⟨hpushed, hdropped, hreversed⟩ := hwaiting.push hmain copy hall hhalf
  have hdelay :
      (c.pushEchoReference copy a { s with capture := capture } capture.procBufFrames).1.1 =
      (if s.refBufFrames < capture.procBufFrames then
        (a.read (capture.procBufFrames - s.refBufFrames)
          (c.captureDelay capture a.kernelFrames)).delayNs
        else 0) / 1000 :=
    congrArg (· / 1000) (delay_update (s := { s with capture := capture }) a capture.procBufFrames)
  have hfirst : dropped left s = CaptureSession.next capture - capture.procBufFrames :=
    h.together.trans hnext.symm
  change dropped left _ = dropped left s + _ at hdropped
  change ∀ samples ∈ _, ∃ k, _ ≤ k ∧ samples = (List.range (k * c.channels)).map
    fun i => c.stream refBuf left (dropped left s * c.channels + i) at hreversed
  -- the same number of frames is dropped from both buffers
  rw [hsame] at hdropped hreversed hhalf
  have hprocess := hproc.process copy p (by omega)
  have hle := p.consumed_le capture.procBufFrames (capture.frames - capture.framesWr)
  have htaken := hproc.taken
  generalize c.pushEchoReference copy a { s with capture := capture } capture.procBufFrames = pushed
    at *
  generalize hm : p.consumed capture.procBufFrames (capture.frames - capture.framesWr) = m at *
  have hlength : (s.turns.flatMap EchoTurn.captured).length = dropped left s * c.channels := by
    rw [h.consumed, ← hconsumed, hproc.consumed, List.length_map, List.length_range, hfirst]
  have hpaired : c.Paired (c.stream refBuf left) (dropped left s)
      { pcmFrames :=
          if s.refBufFrames < capture.procBufFrames then
            a.kernelFrames.map (capture.pcmFrames + ·)
          else none
        read :=
          if s.refBufFrames < capture.procBufFrames then
            let delayNs := c.captureDelay capture a.kernelFrames
            some (delayNs, a.read (capture.procBufFrames - s.refBufFrames) delayNs)
          else none
        delayUs := pushed.1.1
        captured := (List.range (m * c.channels)).map capture.procBufIn
        reversed := pushed.1.2 } := by
    refine ⟨⟨m, ?_, hreversed⟩, fun hunread => ?_, fun given b hasked => ?_⟩
    · rw [hfirst]
      exact BeginsWith.map_range hproc.samples (Nat.mul_le_mul_right _ hle)
    · dsimp only at hunread
      split at hunread
      · cases hunread
      · rename_i hfull
        rw [if_neg hfull] at hdelay
        exact ⟨if_neg hfull, hdelay⟩
    · dsimp only at hasked
      split at hasked
      · rename_i hless
        rw [if_pos hless] at hdelay
        obtain ⟨rfl, rfl⟩ := Option.some.inj hasked
        refine ⟨hdelay, fun hfails => ?_, fun pcmFrames htells => ?_⟩
        · rw [if_pos hless, Option.map_eq_none_iff] at hfails
          rw [hfails]
          rfl
        · rw [if_pos hless] at htells
          obtain ⟨kernelFrames, htells, hpcm⟩ := Option.map_eq_some_iff.mp htells
          rw [htells]
          exact given_spec hread htaken hfirst hpcm
      · cases hasked
  refine ⟨⟨hread.le, hread.taken, hread.samples⟩, hprocess, ⟨hpushed.taken, hpushed.samples⟩,
    ?_, ?_, fun k t ht => ?_⟩
  · change dropped left pushed.2 = CaptureSession.next capture - (capture.procBufFrames - _)
    rw [hdropped, hfirst, hm]
    omega
  · change (s.turns ++ [_]).flatMap EchoTurn.captured =
      capture.consumed ++ (List.range (_ * _)).map _
    rw [List.flatMap_append, h.consumed, hconsumed, hm]
    exact congrArg _ (List.append_nil _)
  · by_cases hold : k < s.turns.length
    · rw [List.getElem?_append_left hold] at ht
      rw [List.take_append_of_le_length (Nat.le_of_lt hold)]
      exact h.turns k t ht
    · rw [List.getElem?_append_right (Nat.not_lt.mp hold), List.getElem?_singleton] at ht
      split at ht
      · rename_i hlast
        obtain rfl := Option.some.inj ht
        have hk : k = s.turns.length := by omega
        refine ⟨dropped left s, ?_, hpaired⟩
        rw [hk, List.take_left]
        exact hlength
      · cases ht

theorem InStep.step {t : EchoData} (hmain : c.mainChannels = c.channels)
    (h : c.InStep refBuf left s) (copy : Memcpy Int16) {call : EchoCall} (hcall : call.InStep s)
    (hstep : c.step copy s call = some t) : c.InStep refBuf left t := by
  cases call with
  | request frames =>
    unfold EchoSession.step at hstep
    dsimp only at hstep
    split at hstep
    · obtain rfl := Option.some.inj hstep
      exact ⟨⟨h.readBuf.le, h.readBuf.taken, h.readBuf.samples⟩,
        ⟨h.procBuf.taken, h.procBuf.samples, h.procBuf.consumed⟩,
        ⟨h.waiting.taken, h.waiting.samples⟩, h.together, h.consumed, h.turns⟩
    · cases hstep
  | turn p a =>
    unfold EchoSession.step at hstep
    dsimp only at hstep
    split at hstep
    · obtain rfl := Option.some.inj hstep
      exact h.turn hmain copy hcall
    · cases hstep

end EchoSession

/-- As `start_input_stream` leaves it; the frames that a session before left in `ref_buf` are kept,
and the buffers may hold anything. -/
def EchoData.started (readBuf procBufIn procBufOut refBuf : Nat → Int16) (left size : Nat) :
    EchoData where
  capture := .started readBuf procBufIn procBufOut
  refBuf := refBuf
  refBufFrames := left
  refBufSize := size
  refFrames := 0
  turns := []

namespace EchoSession

end EchoSession

end Universal7870.Audio
