import Mathlib.Tactic.Common
import Universal7870.Lib.Run

/-!
# The presentation position

`out_get_presentation_position` takes the frames that wait in the buffer of a PCM from those that
were written since the stream was opened.  A stream may play on several PCMs, which play on at their
own pace, and past what was written where their thresholds let them; standby throws away what waits
in them.
-/

namespace Universal7870.Audio

open Lib

/-! ## 1. The code -/

/-- A position with the PCM that told it, the room this PCM said there was in its buffer, what was
written then, and the start of the stream that the PCM belongs to. -/
structure Position where
  start : Nat
  pcm : Nat
  avail : Nat
  written : Nat
  frames : Int
  deriving DecidableEq, Repr

/-- An output stream that is not offloaded.  `pcms` are the frames that wait in the buffers of the
open PCMs, of `size` frames each, and a PCM that has run on past what was written counts them below
0; a stream in standby has none.  `starts` and `positions` are history. -/
structure PlaybackStream where
  standby : Bool
  written : Nat
  pcms : List Int
  starts : Nat
  positions : List Position
  deriving DecidableEq, Repr

/-- As `adev_open_output_stream` leaves it. -/
def PlaybackStream.opened : PlaybackStream where
  standby := true
  written := 0
  pcms := []
  starts := 0
  positions := []

/-- What `pcm_write` does: it fails, or it returns once the frames are in the buffer and `left` or
fewer wait there.  Where it recovers from an underrun, the PCM starts again with an empty buffer. -/
structure PcmWrite where
  ok : Bool
  recovers : Bool
  left : Int
  deriving DecidableEq, Repr

inductive PlaybackEvent
  /-- `out_write`, with the PCMs that `start_output_stream` opens unless it fails. -/
  | write (frames : Nat) (opens : Option Nat) (results : Nat → PcmWrite)
  | standby
  /-- A PCM plays until `left` frames or fewer wait. -/
  | play (pcm : Nat) (left : Int)
  /-- `out_get_presentation_position`, with the PCMs whose `pcm_get_htimestamp` succeeds. -/
  | position (answers : Nat → Bool)

namespace PlaybackStream

variable (size : Nat)

def renderLatency : Int := 0

/-- `avail` of `pcm_get_htimestamp`: the room in the buffer, and what was played past its end. -/
def pcmAvail (queued : Int) : Nat := (size - queued).toNat

/-- The loop over the PCMs, from the `i`-th on: the PCM that tells a position, its `avail` and the
position. -/
def presentationPosition (written : Nat) (answers : Nat → Bool) :
    Nat → List Int → Option (Nat × Nat × Int)
  | _, [] => none
  | i, queued :: pcms =>
    let avail := pcmAvail size queued
    let signedFrames : Int := written - size + avail - renderLatency
    if answers i ∧ signedFrames ≥ 0 then some (i, avail, signedFrames)
    else presentationPosition written answers (i + 1) pcms

def outStandby (s : PlaybackStream) : PlaybackStream := { s with standby := true, pcms := [] }

/-- The frames that wait after a write. -/
def pcmWrite (result : PcmWrite) (queued : Int) (frames : Nat) : Int :=
  let queued := if result.recovers then 0 else queued
  min (min (queued + frames) size) result.left

/-- Every PCM is written to, also when another one fails. -/
def writePcms (s : PlaybackStream) (frames : Nat) (results : Nat → PcmWrite) : PlaybackStream :=
  if (List.range s.pcms.length).all fun i => (results i).ok then
    { s with
      written := s.written + frames
      pcms := s.pcms.mapIdx fun i queued => pcmWrite size (results i) queued frames }
  else s.outStandby

def outWrite (s : PlaybackStream) (frames : Nat) (opens : Option Nat) (results : Nat → PcmWrite) :
    PlaybackStream :=
  if s.standby then
    match opens with
    | none => s
    | some count =>
      writePcms size
        { s with standby := false, pcms := List.replicate count 0, starts := s.starts + 1 }
        frames results
  else s.writePcms size frames results

def step (s : PlaybackStream) : PlaybackEvent → PlaybackStream
  | .write frames opens results => s.outWrite size frames opens results
  | .standby => s.outStandby
  | .play pcm left => { s with pcms := s.pcms.modify pcm (min left) }
  | .position answers =>
    match presentationPosition size s.written answers 0 s.pcms with
    | none => s
    | some (pcm, avail, frames) =>
      { s with positions := s.positions ++ [⟨s.starts, pcm, avail, s.written, frames⟩] }

end PlaybackStream

/-! ## 2. The order of the positions -/

/-- As much of a position as was written when it was told. -/
def Position.reached (p : Position) : Int := min p.frames p.written

/-- A position is what was written when it was told, less what waited in the buffer of its PCM. -/
structure Position.Told (size : Nat) (p : Position) (starts written : Nat) : Prop where
  start : p.start ≤ starts
  written : p.written ≤ written
  nonneg : 0 ≤ p.frames
  frames : p.frames = p.written - size + p.avail

theorem Position.Told.mono {size starts starts' written written' : Nat} {p : Position}
    (h : p.Told size starts written) (hstarts : starts ≤ starts') (hwritten : written ≤ written') :
    p.Told size starts' written' :=
  ⟨Nat.le_trans h.start hstarts, Nat.le_trans h.written hwritten, h.nonneg, h.frames⟩

theorem Position.Told.reached_le {size starts written : Nat} {p : Position}
    (h : p.Told size starts written) : p.reached ≤ written := by
  have hwritten := h.written
  unfold Position.reached
  omega

namespace PlaybackStream

variable (size : Nat)

/-- The later position is no smaller than what had been written of the earlier one; but another PCM
of the same start may be behind by what fits into a buffer. -/
def Before (p q : Position) : Prop :=
  p.reached ≤ q.frames ∨ p.start = q.start ∧ p.pcm ≠ q.pcm ∧ p.reached ≤ q.frames + size

/-- `base` frames were written when the PCMs were opened.  What waits was written since; a position
that was told by an open PCM leaves room for what waits there. -/
structure Ordered (base : Nat) (s : PlaybackStream) : Prop where
  base_le : base ≤ s.written
  waiting : ∀ (i : Nat) (queued : Int), s.pcms[i]? = some queued →
    queued ≤ size ∧ base + queued ≤ s.written
  told : ∀ p ∈ s.positions, p.Told size s.starts s.written
  earlier : ∀ p ∈ s.positions, p.start < s.starts → p.reached ≤ base
  playing : ∀ p ∈ s.positions, p.start = s.starts → ∀ queued : Int, s.pcms[p.pcm]? = some queued →
    p.reached + queued ≤ s.written
  ordered : s.positions.Pairwise (Before size)

variable {size} {base : Nat} {s : PlaybackStream}

theorem presentationPosition_spec {written : Nat} {answers : Nat → Bool} {i : Nat} {pcms : List Int}
    {pcm avail : Nat} {frames : Int}
    (h : presentationPosition size written answers i pcms = some (pcm, avail, frames)) :
    ∃ k queued, pcms[k]? = some queued ∧ pcm = i + k ∧ avail = pcmAvail size queued ∧ 0 ≤ frames ∧
      frames = written - size + avail := by
  induction pcms generalizing i with
  | nil => cases h
  | cons queued pcms ih =>
    unfold presentationPosition at h
    dsimp only at h
    split at h
    · rename_i htold
      obtain ⟨rfl, rfl, rfl⟩ := Option.some.inj h
      refine ⟨0, queued, rfl, rfl, rfl, htold.2, ?_⟩
      show (written : Int) - size + pcmAvail size queued - 0 = _
      omega
    · obtain ⟨k, q, hq, hpcm, hframes⟩ := ih h
      exact ⟨k + 1, q, hq, by omega, hframes⟩

/-- The position that a PCM tells is what was written, less what waits there. -/
theorem Ordered.position (h : Ordered size base s) (answers : Nat → Bool) :
    Ordered size base (s.step size (.position answers)) := by
  show Ordered size base (match presentationPosition size s.written answers 0 s.pcms with
    | none => s
    | some (pcm, avail, frames) =>
      { s with positions := s.positions ++ [⟨s.starts, pcm, avail, s.written, frames⟩] })
  cases htold : presentationPosition size s.written answers 0 s.pcms with
  | none => exact h
  | some told =>
    obtain ⟨pcm, avail, frames⟩ := told
    obtain ⟨k, queued, hqueued, hpcm, havail, hpos, hframes⟩ := presentationPosition_spec htold
    obtain ⟨hsize, hbase⟩ := h.waiting k queued hqueued
    obtain rfl : pcm = k := by omega
    -- `avail` is what does not wait, so the size of the buffer cancels out
    have hlate : frames = s.written - queued := by
      unfold pcmAvail at havail
      omega
    refine ⟨h.base_le, h.waiting, ?_, ?_, ?_, ?_⟩
    · intro p hp
      rcases List.mem_append.mp hp with hp | hp
      · exact h.told p hp
      · obtain rfl := List.mem_singleton.mp hp
        exact ⟨Nat.le_refl _, Nat.le_refl _, hpos, hframes⟩
    · intro p hp hstart
      rcases List.mem_append.mp hp with hp | hp
      · exact h.earlier p hp hstart
      · obtain rfl := List.mem_singleton.mp hp
        exact absurd hstart (Nat.lt_irrefl _)
    · intro p hp hstart q hq
      rcases List.mem_append.mp hp with hp | hp
      · exact h.playing p hp hstart q hq
      -- the PCM leaves room for exactly what waits in it
      · obtain rfl := List.mem_singleton.mp hp
        change s.pcms[pcm]? = some q at hq
        rw [hqueued] at hq
        obtain rfl := Option.some.inj hq
        show min frames s.written + queued ≤ s.written
        omega
    · show (s.positions ++ [_]).Pairwise (Before size)
      rw [List.pairwise_append]
      refine ⟨h.ordered, List.pairwise_singleton _ _, fun p hp q hq => ?_⟩
      obtain rfl := List.mem_singleton.mp hq
      unfold Before
      dsimp only
      -- against an earlier position: of the same PCM, of another one, of an earlier start
      by_cases hstart : p.start = s.starts
      · by_cases hsame : p.pcm = pcm
        · have hroom := h.playing p hp hstart queued (by rw [hsame]; exact hqueued)
          exact .inl (by omega)
        · have hreached := (h.told p hp).reached_le
          exact .inr ⟨hstart, hsame, by omega⟩
      · have hearlier := h.earlier p hp (Nat.lt_of_le_of_ne (h.told p hp).start hstart)
        exact .inl (by omega)

theorem Ordered.outStandby (h : Ordered size base s) : Ordered size base s.outStandby := by
  refine ⟨h.base_le, fun i queued hqueued => ?_, h.told, h.earlier, fun p _ _ queued hqueued => ?_,
    h.ordered⟩
  · rw [show s.outStandby.pcms = [] from rfl, List.getElem?_nil] at hqueued
    cases hqueued
  · rw [show s.outStandby.pcms = [] from rfl, List.getElem?_nil] at hqueued
    cases hqueued

/-- Less waits in a PCM when it has played. -/
theorem Ordered.play (h : Ordered size base s) (pcm : Nat) (left : Int) :
    Ordered size base (s.step size (.play pcm left)) := by
  have hless : ∀ (i : Nat) (queued : Int), (s.pcms.modify pcm (min left))[i]? = some queued →
      ∃ before, s.pcms[i]? = some before ∧ queued ≤ before := by
    intro i queued hqueued
    rw [List.getElem?_modify] at hqueued
    obtain ⟨before, hbefore, rfl⟩ := Option.map_eq_some_iff.mp hqueued
    refine ⟨before, hbefore, ?_⟩
    split
    · exact Int.min_le_right left before
    · exact Int.le_refl before
  refine ⟨h.base_le, fun i queued hqueued => ?_, h.told, h.earlier,
    fun p hp hstart queued hqueued => ?_, h.ordered⟩
  · obtain ⟨before, hbefore, hle⟩ := hless i queued hqueued
    obtain ⟨hsize, hbase⟩ := h.waiting i before hbefore
    exact ⟨by omega, show base + queued ≤ s.written by omega⟩
  · obtain ⟨before, hbefore, hle⟩ := hless p.pcm queued hqueued
    have hroom := h.playing p hp hstart before hbefore
    show p.reached + queued ≤ s.written
    omega

theorem pcmWrite_le_size (result : PcmWrite) (queued : Int) (frames : Nat) :
    pcmWrite size result queued frames ≤ size := by
  unfold pcmWrite
  dsimp only
  omega

/-- After a recovery only the frames of this write wait. -/
theorem pcmWrite_le (size : Nat) (result : PcmWrite) (queued : Int) (frames : Nat) :
    pcmWrite size result queued frames ≤ queued + frames ∨
      pcmWrite size result queued frames ≤ frames := by
  unfold pcmWrite
  dsimp only
  split <;> omega

theorem Ordered.writePcms (h : Ordered size base s) (frames : Nat) (results : Nat → PcmWrite) :
    Ordered size base (s.writePcms size frames results) := by
  unfold PlaybackStream.writePcms
  split
  · have hmore : ∀ (i : Nat) (queued : Int),
        (s.pcms.mapIdx fun i queued => pcmWrite size (results i) queued frames)[i]? =
          some queued →
        ∃ before, s.pcms[i]? = some before ∧ queued = pcmWrite size (results i) before frames := by
      intro i queued hqueued
      rw [List.getElem?_mapIdx] at hqueued
      obtain ⟨before, hbefore, rfl⟩ := Option.map_eq_some_iff.mp hqueued
      exact ⟨before, hbefore, rfl⟩
    have hmono : s.written ≤ s.written + frames := Nat.le_add_right _ _
    refine ⟨Nat.le_trans h.base_le hmono, fun i queued hqueued => ?_,
      fun p hp => (h.told p hp).mono (Nat.le_refl _) hmono, h.earlier,
      fun p hp hstart queued hqueued => ?_, h.ordered⟩
    · obtain ⟨before, hbefore, rfl⟩ := hmore i queued hqueued
      refine ⟨pcmWrite_le_size _ _ _, ?_⟩
      have hwaiting := (h.waiting i before hbefore).2
      have hbase := h.base_le
      show base + pcmWrite size (results i) before frames ≤ (s.written + frames : Nat)
      rcases pcmWrite_le size (results i) before frames with hle | hle
      · omega
      · omega
    · obtain ⟨before, hbefore, rfl⟩ := hmore p.pcm queued hqueued
      have hroom := h.playing p hp hstart before hbefore
      have hreached := (h.told p hp).reached_le
      show p.reached + pcmWrite size (results p.pcm) before frames ≤ (s.written + frames : Nat)
      rcases pcmWrite_le size (results p.pcm) before frames with hle | hle
      · omega
      · omega
  -- one PCM failed, and the stream goes to standby
  · exact h.outStandby

/-- The PCMs are opened with nothing in their buffers. -/
theorem Ordered.opens (h : Ordered size base s) (count : Nat) :
    Ordered size s.written
      { s with standby := false, pcms := List.replicate count 0, starts := s.starts + 1 } := by
  refine ⟨Nat.le_refl _, fun i queued hqueued => ?_,
    fun p hp => (h.told p hp).mono (Nat.le_succ _) (Nat.le_refl _),
    fun p hp _ => (h.told p hp).reached_le, fun p hp hstart => ?_, h.ordered⟩
  · change (List.replicate count (0 : Int))[i]? = some queued at hqueued
    obtain rfl := List.eq_of_mem_replicate (List.mem_of_getElem? hqueued)
    exact ⟨Int.natCast_nonneg size, by show (s.written : Int) + 0 ≤ s.written; omega⟩
  · have htold := (h.told p hp).start
    change p.start = s.starts + 1 at hstart
    omega

theorem Ordered.step (h : Ordered size base s) (e : PlaybackEvent) :
    ∃ base, Ordered size base (s.step size e) := by
  cases e with
  | write frames opens results =>
    show ∃ base, Ordered size base (s.outWrite size frames opens results)
    unfold outWrite
    by_cases hstandby : s.standby = true
    · rw [if_pos hstandby]
      cases opens with
      | none => exact ⟨base, h⟩
      -- a new start: the base is what was written when the PCMs were opened
      | some count => exact ⟨s.written, (h.opens count).writePcms frames results⟩
    · rw [if_neg hstandby]
      exact ⟨base, h.writePcms frames results⟩
  | standby => exact ⟨base, h.outStandby⟩
  | play pcm left => exact ⟨base, h.play pcm left⟩
  | position answers => exact ⟨base, h.position answers⟩

/-- However a stream is written to, played, also past what was written, and put to standby, and
whichever calls fail: more than was written is told exactly where the PCM said there was more room
than its buffer has, and a position is not followed by one that is smaller than what had been written
of it, but for one that another PCM of the same start tells, which is smaller by at most the frames
of a buffer. -/
theorem positions_ordered (size : Nat) (events : List PlaybackEvent) :
    (events.foldl (step size) opened).positions.Pairwise (Before size) ∧
    ∀ p ∈ (events.foldl (step size) opened).positions,
      0 ≤ p.frames ∧ p.written ≤ (events.foldl (step size) opened).written ∧
      p.frames = p.written - size + p.avail ∧ (p.frames ≤ p.written ↔ p.avail ≤ size) := by
  have hopened : Ordered size 0 opened :=
    ⟨Nat.le_refl 0, (fun _ _ h => by cases h), List.forall_mem_nil _, List.forall_mem_nil _,
      List.forall_mem_nil _, List.Pairwise.nil⟩
  obtain ⟨base, h⟩ := List.foldlRecOn (motive := fun s => ∃ base, Ordered size base s) events
    (step size) ⟨0, hopened⟩ fun s hs e _ => hs.elim fun _ h => h.step e
  refine ⟨h.ordered, fun p hp => ?_⟩
  obtain ⟨-, hwritten, hnonneg, hframes⟩ := h.told p hp
  exact ⟨hnonneg, hwritten, hframes, by omega⟩

end PlaybackStream

end Universal7870.Audio
