import Universal7870.Lib.Locks
import Universal7870.Audio.Types

/-!
# The locks of `out_write`

`out_write` of `audio_hw.c` and `out_write_offload` of `compress_offload.c` as programs over the
mutexes they take.  What the thread finds behind each lock, and what each call it makes returns,
is part of the input: other threads run between the locks, and the drivers may fail.
-/

namespace Universal7870.Audio

open Lib

inductive Mutex
  | outPreLock
  | outLock
  | inPreLock
  | inLock
  | adevLock
  | lockInputs
  deriving DecidableEq, Repr

/-- What one call of `out_write` meets, in the order it looks. -/
structure OutWriteInput where
  bytes : Nat
  usecase : UsecaseId
  /-- `out->standby` behind the first lock, and behind the second. -/
  standby : Bool
  stillStandby : Bool
  startRet : Int
  /-- The source of `adev->active_input`, if there is one. -/
  activeInput : Option AudioSource
  offloadState : OffloadState
  enableRet : Int
  compressWriteRet : Int
  echoReferenceChanged : Bool
  /-- The status `pcm_write` gives for each open PCM device of the stream. -/
  pcmStatuses : List Int
  /-- `out->standby` as `out_standby` finds it. -/
  standbyAtExit : Bool
  /-- `in == adev->active_input` when the input is put to standby. -/
  inputStillActive : Bool

def lockOutputStream : LockM Mutex Unit := do
  lock .outPreLock
  lock .outLock
  unlock .outPreLock

def lockInputStream : LockM Mutex Unit := do
  lock .inPreLock
  lock .inLock
  unlock .inPreLock

def outStandby (standby : Bool) : LockM Mutex Unit := do
  lockOutputStream
  if ¬standby then
    lock .adevLock
    unlock .adevLock
  unlock .outLock

/-- `out_write_offload`: the caller's `out->lock` is given back here. -/
def outWriteOffload (i : OutWriteInput) : LockM Mutex Int := do
  let mut ret : Int := 0
  if i.offloadState = .pausedFlushed then
    lock .adevLock
    ret := i.enableRet
    unlock .adevLock
    if ret ≠ 0 then
      return ret
  ret := i.compressWriteRet
  unlock .outLock
  return ret

/-- The part of `out_write` from its label `exit` on.  `input` is the input stream to put to
standby; `lock_inputs` is held iff there is one. -/
def outWriteExit (i : OutWriteInput) (input : Option AudioSource) (ret : Int) :
    LockM Mutex Int := do
  unlock .outLock
  if ret ≠ 0 then
    outStandby i.standbyAtExit
  if input.isSome then
    lockInputStream
    lock .adevLock
    if ¬i.inputStillActive then
      abort
    unlock .adevLock
    unlock .inLock
    unlock .lockInputs
  return i.bytes

/-- The status `out_write` keeps: that of the last device that failed. -/
def lastFailure (statuses : List Int) : Int :=
  statuses.foldl (fun ret status => if status ≠ 0 then status else ret) 0

/-- The part of `out_write` from its label `false_alarm` on. -/
def outWriteData (i : OutWriteInput) (input : Option AudioSource) : LockM Mutex Int := do
  if i.usecase = .audioPlaybackOffload then
    outWriteOffload i
  else
    if i.echoReferenceChanged then
      lock .adevLock
      unlock .adevLock
    outWriteExit i input (lastFailure i.pcmStatuses)

def outWrite (i : OutWriteInput) : LockM Mutex Int := do
  lockOutputStream
  if i.standby then
    unlock .outLock
    lock .lockInputs
    lockOutputStream
    if ¬i.stillStandby then
      unlock .lockInputs
      outWriteData i none
    else
      lock .adevLock
      if i.startRet ≠ 0 then
        unlock .adevLock
        unlock .lockInputs
        outWriteExit i none i.startRet
      else
        let input := i.activeInput.filter AudioSource.followsOutput
        unlock .adevLock
        -- left locked iff there is an input to put to standby
        if input.isNone then
          unlock .lockInputs
        outWriteData i input
  else
    outWriteData i none

/-- `out_write` returns with no mutex held, and releases none it does not hold. -/
def LocksBalanced (i : OutWriteInput) : Prop := wp (outWrite i) ∅ fun _ held => held = ∅

/-- The call takes the stream out of standby itself. -/
def startsStream (i : OutWriteInput) : Prop := i.standby = true ∧ i.stillStandby = true

/-- An offload stream leaves a mutex locked when the call started it while an input that follows
the output is active, or when the call cannot enable the output path of a flushed pause. -/
def LeaksLock (i : OutWriteInput) : Prop :=
  i.usecase = .audioPlaybackOffload ∧ (startsStream i → i.startRet = 0) ∧
    (startsStream i ∧ (i.activeInput.filter AudioSource.followsOutput).isSome = true ∨
      i.offloadState = .pausedFlushed ∧ i.enableRet ≠ 0)

/-! ## 1. What each function does to the held set -/

theorem wp_lockOutputStream {held : Finset Mutex} (hpre : .outPreLock ∉ held)
    (hlock : .outLock ∉ held) (post : Unit → Finset Mutex → Prop) :
    wp lockOutputStream held post ↔ post () (insert .outLock held) :=
  wp_lock_behind (by decide) hpre hlock post

theorem wp_lockInputStream {held : Finset Mutex} (hpre : .inPreLock ∉ held)
    (hlock : .inLock ∉ held) (post : Unit → Finset Mutex → Prop) :
    wp lockInputStream held post ↔ post () (insert .inLock held) :=
  wp_lock_behind (by decide) hpre hlock post

theorem wp_outStandby (standby : Bool) {held : Finset Mutex} (hpre : .outPreLock ∉ held)
    (hlock : .outLock ∉ held) (hadev : .adevLock ∉ held) (post : Unit → Finset Mutex → Prop) :
    wp (outStandby standby) held post ↔ post () held := by
  have hadev' : Mutex.adevLock ∉ insert Mutex.outLock held := by simp [hadev]
  unfold outStandby
  rw [wp_bind, wp_lockOutputStream hpre hlock]
  cases standby with
  | true => simp [Finset.erase_insert hlock]
  | false => simp [Finset.erase_insert hlock, Finset.erase_insert hadev', hadev]

/-- Without an input to put to standby, `exit` gives back `out->lock` and holds nothing else. -/
theorem wp_outWriteExit_none (i : OutWriteInput) (ret : Int) (post : Int → Finset Mutex → Prop) :
    wp (outWriteExit i none ret) {.outLock} post ↔ post i.bytes ∅ := by
  have herase : ({.outLock} : Finset Mutex).erase .outLock = ∅ := by decide
  unfold outWriteExit
  by_cases hret : ret = 0
  · simp [hret, herase]
  · simp [hret, herase, wp_outStandby]

/-- With one, it gives back `lock_inputs` as well, unless the input is another one by now. -/
theorem wp_outWriteExit_some (i : OutWriteInput) (source : AudioSource) (ret : Int)
    (post : Int → Finset Mutex → Prop) :
    wp (outWriteExit i (some source) ret) {.outLock, .lockInputs} post ↔
      (i.inputStillActive = true → post i.bytes ∅) := by
  have herase : ({.outLock, .lockInputs} : Finset Mutex).erase .outLock = {.lockInputs} := by decide
  have hdone : ({.lockInputs} : Finset Mutex).erase .lockInputs = ∅ := by decide
  have hinput : ∀ post : Unit → Finset Mutex → Prop,
      wp lockInputStream {.lockInputs} post ↔ post () (insert .inLock {.lockInputs}) :=
    wp_lockInputStream (by decide) (by decide)
  unfold outWriteExit
  by_cases hret : ret = 0
  · cases hin : i.inputStillActive <;> simp [hret, herase, hinput, hdone]
  · cases hin : i.inputStillActive <;> simp [hret, herase, wp_outStandby, hinput, hdone]

theorem wp_outWriteOffload (i : OutWriteInput) {held : Finset Mutex} (hlock : .outLock ∈ held)
    (hadev : .adevLock ∉ held) (post : Int → Finset Mutex → Prop) :
    wp (outWriteOffload i) held post ↔
      if i.offloadState = .pausedFlushed ∧ i.enableRet ≠ 0 then post i.enableRet held
      else post i.compressWriteRet (held.erase .outLock) := by
  unfold outWriteOffload
  by_cases hstate : i.offloadState = .pausedFlushed
  · by_cases hret : i.enableRet = 0
    · simp [hstate, hret, hlock, hadev, Finset.erase_insert hadev]
    · simp [hstate, hret, hadev, Finset.erase_insert hadev]
  · simp [hstate, hlock]

def NoneHeld (_ : Int) (held : Finset Mutex) : Prop := held = ∅

theorem wp_outWriteData_none (i : OutWriteInput) :
    wp (outWriteData i none) {.outLock} NoneHeld ↔
      ¬(i.usecase = .audioPlaybackOffload ∧ i.offloadState = .pausedFlushed ∧ i.enableRet ≠ 0) := by
  unfold outWriteData
  by_cases husecase : i.usecase = .audioPlaybackOffload
  · rw [if_pos husecase, wp_outWriteOffload i (by decide) (by decide)]
    split
    · rename_i hfail
      have hheld : ¬({.outLock} : Finset Mutex) = ∅ := by decide
      exact iff_of_false hheld fun h => h ⟨husecase, hfail⟩
    · rename_i hok
      exact iff_of_true (by decide : ({.outLock} : Finset Mutex).erase .outLock = ∅) fun h => hok h.2
  · have hexit : NoneHeld i.bytes ∅ := rfl
    cases hecho : i.echoReferenceChanged <;>
      simp [husecase, wp_outWriteExit_none, hexit]

/-- An offload stream returns past the place where `lock_inputs` would be given back. -/
theorem wp_outWriteData_some (i : OutWriteInput) (source : AudioSource) :
    wp (outWriteData i (some source)) {.outLock, .lockInputs} NoneHeld ↔
      i.usecase ≠ .audioPlaybackOffload := by
  unfold outWriteData
  by_cases husecase : i.usecase = .audioPlaybackOffload
  · rw [if_pos husecase, wp_outWriteOffload i (by decide) (by decide)]
    have hheld : ¬({.outLock, .lockInputs} : Finset Mutex) = ∅ := by decide
    have hheld' : ¬({.outLock, .lockInputs} : Finset Mutex).erase .outLock = ∅ := by decide
    split
    · exact iff_of_false hheld (not_not_intro husecase)
    · exact iff_of_false hheld' (not_not_intro husecase)
  · have hexit : NoneHeld i.bytes ∅ := rfl
    have hadev : Mutex.adevLock ∉ ({.outLock, .lockInputs} : Finset Mutex) := by decide
    cases hecho : i.echoReferenceChanged <;>
      simp [husecase, wp_outWriteExit_some, hexit, Finset.erase_insert hadev]

/-! ## 2. When the mutexes are balanced -/

/-- `out_write` leaves no mutex locked, whatever it meets, except where `LeaksLock` says. -/
theorem outWrite_locksBalanced_iff (i : OutWriteInput) : LocksBalanced i ↔ ¬LeaksLock i := by
  have hout : ∀ post : Unit → Finset Mutex → Prop,
      wp lockOutputStream ∅ post ↔ post () {.outLock} :=
    wp_lockOutputStream (by decide) (by decide)
  have houtInputs : ∀ post : Unit → Finset Mutex → Prop,
      wp lockOutputStream {.lockInputs} post ↔ post () {.outLock, .lockInputs} :=
    wp_lockOutputStream (by decide) (by decide)
  have hnone : ({.outLock} : Finset Mutex).erase .outLock = ∅ := by decide
  have hinputs : (insert .lockInputs ∅ : Finset Mutex) = {.lockInputs} := by decide
  have herase : ({.outLock, .lockInputs} : Finset Mutex).erase .lockInputs = {.outLock} := by decide
  have hadev : Mutex.adevLock ∉ ({.outLock, .lockInputs} : Finset Mutex) := by decide
  change wp (outWrite i) ∅ NoneHeld ↔ _
  unfold outWrite LeaksLock startsStream
  rw [wp_bind, hout]
  by_cases hstandby : i.standby = true
  · by_cases hstill : i.stillStandby = true
    · by_cases hstart : i.startRet = 0
      · -- the call starts the stream: it goes on with or without an input to put to standby
        cases hinput : i.activeInput.filter AudioSource.followsOutput with
        | none =>
          simp [hstandby, hstill, hstart, hnone, hinputs, houtInputs, herase, hadev,
            wp_outWriteData_none]
        | some source =>
          simp [hstandby, hstill, hstart, hnone, hinputs, houtInputs, hadev,
            wp_outWriteData_some]
      · have hexit : NoneHeld i.bytes ∅ := rfl
        simp [hstandby, hstill, hstart, hnone, hinputs, houtInputs, herase, hadev,
          wp_outWriteExit_none, hexit]
    · simp [hstandby, hstill, hnone, hinputs, houtInputs, herase, wp_outWriteData_none]
  · simp [hstandby, wp_outWriteData_none]

/-- An offload stream started while a recording from the microphone is active. -/
def offloadStartInput : OutWriteInput where
  bytes := 32768
  usecase := .audioPlaybackOffload
  standby := true
  stillStandby := true
  startRet := 0
  activeInput := some .mic
  offloadState := .idle
  enableRet := 0
  compressWriteRet := 32768
  echoReferenceChanged := false
  pcmStatuses := []
  standbyAtExit := false
  inputStillActive := true

/-- It returns with `lock_inputs` held. -/
theorem outWrite_leaks_lockInputs : ¬∀ i : OutWriteInput, LocksBalanced i := by
  intro hall
  have hfinal : ({.lockInputs} : Finset Mutex) = ∅ := hall offloadStartInput
  exact absurd hfinal (by decide)

end Universal7870.Audio
