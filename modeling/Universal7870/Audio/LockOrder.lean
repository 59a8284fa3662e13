import Universal7870.Lib.LockOrder
import Universal7870.Audio.OutWrite
import Universal7870.Audio.Stream

/-!
# The lock order of the audio HAL

`audio_hw.h` has `lock_inputs` taken first, then the mutexes of an input stream, then those of an
output stream, then `adev->lock`.  Each entry point of the HAL, and the loop of the offload thread,
is the list of what it does to the mutexes on a path: what it finds in the streams and what its
calls return is its input, as other threads run between the locks.  Where the source aborts on a
failed check the path goes on: the run that ends there is a prefix of one where the check passes.
-/

namespace Universal7870.Audio

open Lib

inductive HalMutex
  | lockInputs
  | inPreLock (i : InId)
  | inLock (i : InId)
  | outPreLock (o : OutId)
  | outLock (o : OutId)
  | adevLock
  deriving DecidableEq, Repr

/-- The place of a mutex in the documented order. -/
def HalMutex.rank : HalMutex → Nat
  | .lockInputs => 0
  | .inPreLock _ | .inLock _ => 1
  | .outPreLock _ | .outLock _ => 2
  | .adevLock => 3

/-- The flag is `offload_thread_blocked` of the output stream. -/
abbrev LockPath := List (LockEvent HalMutex OutId)

namespace LockPath

open LockEvent HalMutex

/-! ## 1. The paths -/

def lockInputStream (i : InId) : LockPath :=
  [acquire (inPreLock i), acquire (inLock i), release (inPreLock i)]

def lockOutputStream (o : OutId) : LockPath :=
  [acquire (outPreLock o), acquire (outLock o), release (outPreLock o)]

/-- `pthread_mutex_lock(&adev->lock)`, what is done with it, and its unlock. -/
def withDevice (path : LockPath) : LockPath := [acquire adevLock] ++ path ++ [release adevLock]

/-- What a path that puts an output stream to standby finds in it. -/
structure OutFound where
  usecase : UsecaseId
  standby : Bool
  /-- `out->compr != NULL`. -/
  comprOpen : Bool

/-- `stop_compressed_output_l` waits until the offload thread is out of the driver. -/
def stopCompressedOutput (o : OutId) (comprOpen : Bool) : LockPath :=
  if comprOpen then [awaitClear o (outLock o)] else []

def doOutStandby (o : OutId) (found : OutFound) : LockPath :=
  if found.usecase = .audioPlaybackOffload then stopCompressedOutput o found.comprOpen else []

def outStandby (o : OutId) (found : OutFound) : LockPath :=
  lockOutputStream o ++ (if found.standby then [] else withDevice (doOutStandby o found)) ++
    [release (outLock o)]

/-- `do_in_standby_l` under the locks of the input: it takes none. -/
def resetInput (i : InId) : LockPath :=
  lockInputStream i ++ withDevice [] ++ [release (inLock i)]

/-- What `out_set_parameters` finds where the parameters name a device. -/
structure RoutingFound where
  out : OutFound
  /-- The new device is not `SND_DEVICE_NONE`. -/
  named : Bool
  /-- A PCM device of the stream does not serve the new device, or nothing serves part of it. -/
  doStandby : Bool
  /-- The input stream to put to standby. -/
  input : Option InId

def outSetParameters (o : OutId) : Option RoutingFound → LockPath
  | none => []
  | some found =>
    [acquire lockInputs] ++ lockOutputStream o ++
      withDevice (if found.named ∧ ¬found.out.standby ∧ found.doStandby then
        doOutStandby o found.out else []) ++
      [release (outLock o)] ++
      (match found.input with
        | some i => resetInput i
        | none => []) ++
      [release lockInputs]

/-- `out_write_offload`, called with `out->lock` held. -/
def outWriteOffload (o : OutId) (w : OutWriteInput) : LockPath :=
  if w.offloadState = .pausedFlushed then
    withDevice [] ++ (if w.enableRet ≠ 0 then [] else [release (outLock o)])
  else [release (outLock o)]

/-- `out_write` from its label `exit` on. -/
def outWriteExit (o : OutId) (w : OutWriteInput) (comprOpen : Bool) (input : Option InId)
    (ret : Int) : LockPath :=
  [release (outLock o)] ++
    (if ret ≠ 0 then outStandby o ⟨w.usecase, w.standbyAtExit, comprOpen⟩ else []) ++
    (match input with
      | some i => resetInput i ++ [release lockInputs]
      | none => [])

/-- `out_write` from its label `false_alarm` on. -/
def outWriteData (o : OutId) (w : OutWriteInput) (comprOpen : Bool) (input : Option InId) :
    LockPath :=
  if w.usecase = .audioPlaybackOffload then outWriteOffload o w
  else
    (if w.echoReferenceChanged then withDevice [] else []) ++
      outWriteExit o w comprOpen input (lastFailure w.pcmStatuses)

/-- `active` is the stream `adev->active_input` points to, when `w` has one. -/
def outWrite (o : OutId) (w : OutWriteInput) (comprOpen : Bool) (active : InId) : LockPath :=
  lockOutputStream o ++
    if w.standby then
      [release (outLock o), acquire lockInputs] ++ lockOutputStream o ++
        if ¬w.stillStandby then [release lockInputs] ++ outWriteData o w comprOpen none
        else if w.startRet ≠ 0 then
          withDevice [] ++ [release lockInputs] ++ outWriteExit o w comprOpen none w.startRet
        else if (w.activeInput.filter AudioSource.followsOutput).isSome then
          -- left locked iff there is an input to put to standby
          withDevice [] ++ outWriteData o w comprOpen (some active)
        else withDevice [] ++ [release lockInputs] ++ outWriteData o w comprOpen none
    else outWriteData o w comprOpen none

/-- `out_get_presentation_position`, `out_set_callback`, `out_drain_offload`,
`out_get_render_offload_position` and `destroy_offload_callback_thread` up to its join: each does
its work under the stream's locks alone. -/
def underOutput (o : OutId) : LockPath := lockOutputStream o ++ [release (outLock o)]

/-- `out_pause_offload` and `out_resume_offload`: `due` is the state each acts in. -/
def switchOffloadPath (o : OutId) (due : Bool) : LockPath :=
  lockOutputStream o ++ (if due then withDevice [] else []) ++ [release (outLock o)]

def outFlushOffload (o : OutId) (state : OffloadState) (comprOpen : Bool) : LockPath :=
  lockOutputStream o ++ (if state = .paused then stopCompressedOutput o comprOpen else []) ++
    [release (outLock o)]

/-- `in_standby_l`, called with `lock_inputs` held. -/
def inStandbyL (i : InId) (standby : Bool) : LockPath :=
  lockInputStream i ++ (if standby then [] else withDevice []) ++ [release (inLock i)]

/-- `in_standby` and `adev_close_input_stream`. -/
def inStandby (i : InId) (standby : Bool) : LockPath :=
  [acquire lockInputs] ++ inStandbyL i standby ++ [release lockInputs]

/-- `in_set_parameters` and `add_remove_audio_effect`. -/
def inSetParameters (i : InId) : LockPath :=
  [acquire lockInputs] ++ resetInput i ++ [release lockInputs]

structure InReadFound where
  /-- `in->standby` behind the first lock, and behind the second. -/
  standby : Bool
  stillStandby : Bool
  startRet : Int
  readSucceeds : Bool
  standbyAtExit : Bool

/-- `in_read` from its label `exit` on. -/
def inReadExit (i : InId) (found : InReadFound) (successful : Bool) : LockPath :=
  [release (inLock i)] ++ (if successful then [] else inStandby i found.standbyAtExit)

def inRead (i : InId) (found : InReadFound) : LockPath :=
  lockInputStream i ++
    if found.standby then
      [release (inLock i), acquire lockInputs] ++ lockInputStream i ++
        if ¬found.stillStandby then
          [release lockInputs] ++ inReadExit i found found.readSucceeds
        else
          withDevice [] ++ [release lockInputs] ++
            inReadExit i found (found.startRet = 0 ∧ found.readSucceeds)
    else inReadExit i found found.readSucceeds

def inGetCapturePosition (i : InId) : LockPath := [acquire (inLock i), release (inLock i)]

def adevCloseOutputStream (o : OutId) (found : OutFound) : LockPath :=
  outStandby o found ++ if found.usecase = .audioPlaybackOffload then underOutput o else []

/-- One turn of `offload_thread_loop`. -/
inductive OffloadTurn
  /-- The command list is empty. -/
  | sleep
  /-- There is a command and no compress handle. -/
  | noHandle
  | command
  deriving DecidableEq, Repr

def OffloadTurn.path (o : OutId) : OffloadTurn → LockPath
  | .sleep => [wait (outLock o)]
  | .noHandle => []
  | .command =>
    [setFlag o true, release (outLock o)] ++ lockOutputStream o ++ [setFlag o false]

/-- `offload_thread_loop` until it is told to exit. -/
def offloadThreadLoop (o : OutId) (turns : List OffloadTurn) : LockPath :=
  lockOutputStream o ++ turns.flatMap (OffloadTurn.path o) ++ [release (outLock o)]

end LockPath

open LockPath

/-- A call into the HAL, or the life of an offload thread, with what it finds. -/
inductive LockCall
  | outStandby (o : OutId) (found : OutFound)
  | outSetParameters (o : OutId) (routing : Option RoutingFound)
  | outWrite (o : OutId) (w : OutWriteInput) (comprOpen : Bool) (active : InId)
  | outPause (o : OutId) (due : Bool)
  | outResume (o : OutId) (due : Bool)
  | outDrain (o : OutId)
  | outFlush (o : OutId) (state : OffloadState) (comprOpen : Bool)
  | outGetRenderPosition (o : OutId)
  | outGetPresentationPosition (o : OutId)
  | outSetCallback (o : OutId)
  | inStandby (i : InId) (standby : Bool)
  | inSetParameters (i : InId)
  | addRemoveAudioEffect (i : InId)
  | inRead (i : InId) (found : InReadFound)
  | inGetCapturePosition (i : InId)
  | adevOpenOutputStream
  | adevCloseOutputStream (o : OutId) (found : OutFound)
  | adevCloseInputStream (i : InId) (standby : Bool)
  | adevSetVoiceVolume
  | adevSetMode
  | adevSetMicMute
  | wbAmrCallback
  | offloadThreadLoop (o : OutId) (turns : List OffloadTurn)

def LockCall.path : LockCall → LockPath
  | .outStandby o found => LockPath.outStandby o found
  | .outSetParameters o routing => LockPath.outSetParameters o routing
  | .outWrite o w comprOpen active => LockPath.outWrite o w comprOpen active
  | .outPause o due | .outResume o due => switchOffloadPath o due
  | .outFlush o state comprOpen => outFlushOffload o state comprOpen
  | .outDrain o | .outGetRenderPosition o | .outGetPresentationPosition o | .outSetCallback o =>
    underOutput o
  | .inStandby i standby | .adevCloseInputStream i standby => LockPath.inStandby i standby
  | .inSetParameters i | .addRemoveAudioEffect i => LockPath.inSetParameters i
  | .inRead i found => LockPath.inRead i found
  | .inGetCapturePosition i => LockPath.inGetCapturePosition i
  | .adevCloseOutputStream o found => LockPath.adevCloseOutputStream o found
  | .adevOpenOutputStream | .adevSetVoiceVolume | .adevSetMode | .adevSetMicMute |
    .wbAmrCallback => withDevice []
  | .offloadThreadLoop o turns => LockPath.offloadThreadLoop o turns

/-- What a call can leave locked: `out_write` on an offload stream may return with `out->lock`,
when it cannot enable the path, or with `lock_inputs`, when it started the stream. -/
def leftLocked : Set HalMutex := fun m => m = .lockInputs ∨ ∃ o, m = .outLock o

/-- The documented order.  `adev->lock` is held where `do_out_standby_l` may have to wait. -/
def halLockOrder : LockOrder HalMutex where
  rank := HalMutex.rank
  left := leftLocked
  exempt := {.adevLock}

/-! ## 2. Every path keeps the order -/

namespace LockPath

open LockEvent HalMutex

abbrev KeepsOrder (held : Set HalMutex) (path : LockPath) : Prop :=
  Keeps halLockOrder held path

theorem rank_le_adevLock (m : HalMutex) : m.rank ≤ adevLock.rank := by
  cases m <;> simp [HalMutex.rank]

theorem keeps_release {l : HalMutex} {held : Set HalMutex} {path : LockPath}
    (h : KeepsOrder held path) : KeepsOrder (insert l held) (release l :: path) := by
  change KeepsOrder (insert l held \ {l}) path
  refine h.anti ?_
  rintro m ⟨rfl | hm, hne⟩
  · exact absurd rfl hne
  · exact hm

/-- A mutex taken before the last one is given back first. -/
theorem keeps_release_inner {l l' : HalMutex} {held : Set HalMutex} {path : LockPath}
    (h : KeepsOrder (insert l' held) path) :
    KeepsOrder (insert l' (insert l held)) (release l :: path) := by
  rw [Set.insert_comm]
  exact keeps_release h

theorem rank_of_mem_insert {l : HalMutex} {held : Set HalMutex}
    (hrank : ∀ m ∈ held, m.rank ≤ l.rank) : ∀ m ∈ insert l held, m.rank ≤ l.rank := by
  rintro m (rfl | hm)
  · exact Nat.le_refl _
  · exact hrank m hm

theorem keeps_lockOutputStream (o : OutId) {held : Set HalMutex} {path : LockPath}
    (hrank : ∀ m ∈ held, m.rank ≤ (outLock o).rank) (h : KeepsOrder (insert (outLock o) held) path) :
    KeepsOrder held (lockOutputStream o ++ path) := by
  refine ⟨hrank, ?_, ?_⟩
  · rintro m (rfl | hm)
    · exact Nat.le_refl _
    · exact hrank m hm
  · exact keeps_release_inner h

theorem keeps_lockInputStream (i : InId) {held : Set HalMutex} {path : LockPath}
    (hrank : ∀ m ∈ held, m.rank ≤ (inLock i).rank) (h : KeepsOrder (insert (inLock i) held) path) :
    KeepsOrder held (lockInputStream i ++ path) := by
  refine ⟨hrank, ?_, ?_⟩
  · rintro m (rfl | hm)
    · exact Nat.le_refl _
    · exact hrank m hm
  · exact keeps_release_inner h

/-- Nothing outranks `adev->lock`, so it can be taken whatever is held. -/
theorem keeps_withDevice {held : Set HalMutex} {path : LockPath} (h : KeepsOrder held path) :
    KeepsOrder held (withDevice [] ++ path) :=
  ⟨fun m _ => rank_le_adevLock m, keeps_release h⟩

/-- The wait in `do_out_standby_l` leaves the thread with `out->lock`, as it was called. -/
theorem keeps_doOutStandby (o : OutId) (found : OutFound) {held : Set HalMutex} {path : LockPath}
    (hheld : outLock o ∈ held) (hrank : ∀ m ∈ held, m.rank ≤ (outLock o).rank)
    (h : KeepsOrder held path) :
    KeepsOrder held (withDevice (doOutStandby o found) ++ path) := by
  unfold doOutStandby stopCompressedOutput
  split
  · split
    · refine ⟨fun m _ => rank_le_adevLock m, ?_, ?_⟩
      · rintro m (rfl | hm) _ hexempt
        · exact absurd rfl hexempt
        · exact hrank m hm
      · rw [Set.insert_eq_of_mem (Set.mem_insert_of_mem _ hheld)]
        exact keeps_release h
    · exact keeps_withDevice h
  · exact keeps_withDevice h

theorem keeps_outStandby (o : OutId) (found : OutFound) {held : Set HalMutex} {path : LockPath}
    (hrank : ∀ m ∈ held, m.rank ≤ (outLock o).rank) (h : KeepsOrder held path) :
    KeepsOrder held (outStandby o found ++ path) := by
  have hrelease : KeepsOrder (insert (outLock o) held) (release (outLock o) :: path) :=
    keeps_release h
  unfold outStandby
  rw [List.append_assoc, List.append_assoc]
  refine keeps_lockOutputStream o hrank ?_
  split
  · exact hrelease
  · exact keeps_doOutStandby o found (Set.mem_insert _ _) (rank_of_mem_insert hrank) hrelease

theorem keeps_resetInput (i : InId) {held : Set HalMutex} {path : LockPath}
    (hrank : ∀ m ∈ held, m.rank ≤ (inLock i).rank) (h : KeepsOrder held path) :
    KeepsOrder held (resetInput i ++ path) := by
  unfold resetInput
  rw [List.append_assoc, List.append_assoc]
  exact keeps_lockInputStream i hrank (keeps_withDevice (keeps_release h))

theorem rank_of_mem_empty (l : HalMutex) : ∀ m ∈ (∅ : Set HalMutex), m.rank ≤ l.rank :=
  fun _ hm => hm.elim

theorem rank_of_mem_lockInputs (l : HalMutex) : ∀ m ∈ ({lockInputs} : Set HalMutex),
    m.rank ≤ l.rank := by
  rintro m rfl
  exact Nat.zero_le _

theorem keeps_nil : KeepsOrder ∅ [] := Set.empty_subset _

theorem keeps_nil_outLock (o : OutId) : KeepsOrder {outLock o} [] := by
  rintro m rfl
  exact Or.inr ⟨o, rfl⟩

theorem keeps_nil_outLock_lockInputs (o : OutId) : KeepsOrder {outLock o, lockInputs} [] := by
  rintro m (rfl | rfl)
  · exact Or.inr ⟨o, rfl⟩
  · exact Or.inl rfl

/-- `lock_inputs` taken first. -/
theorem keeps_lockInputs {path : LockPath} (h : KeepsOrder {lockInputs} path) :
    KeepsOrder ∅ (acquire lockInputs :: path) := by
  refine ⟨rank_of_mem_empty lockInputs, ?_⟩
  rw [insert_empty_eq]
  exact h

theorem keeps_releaseLast (l : HalMutex) {path : LockPath} (h : KeepsOrder ∅ path) :
    KeepsOrder {l} (release l :: path) := by
  rw [← insert_empty_eq]
  exact keeps_release h

theorem keeps_outSetParameters (o : OutId) (routing : Option RoutingFound) :
    KeepsOrder ∅ (outSetParameters o routing) := by
  cases routing with
  | none => exact keeps_nil
  | some found =>
    have hinputs : KeepsOrder {lockInputs} [release lockInputs] := keeps_releaseLast _ keeps_nil
    have hreset : KeepsOrder {lockInputs} ((match found.input with
        | some i => resetInput i
        | none => []) ++ [release lockInputs]) := by
      cases found.input with
      | none => exact hinputs
      | some i => exact keeps_resetInput i (rank_of_mem_lockInputs _) hinputs
    have hrelease := keeps_release (l := outLock o) hreset
    unfold outSetParameters
    simp only [List.append_assoc]
    refine keeps_lockInputs (keeps_lockOutputStream o (rank_of_mem_lockInputs _) ?_)
    split
    · exact keeps_doOutStandby o found.out (Set.mem_insert _ _)
        (rank_of_mem_insert (rank_of_mem_lockInputs _)) hrelease
    · exact keeps_withDevice hrelease

/-! ### `out_write` -/

theorem keeps_outWriteOffload (o : OutId) (w : OutWriteInput) {held : Set HalMutex}
    (hheld : KeepsOrder (insert (outLock o) held) []) (h : KeepsOrder held []) :
    KeepsOrder (insert (outLock o) held) (outWriteOffload o w) := by
  unfold outWriteOffload
  split
  · split
    · exact keeps_withDevice hheld
    · exact keeps_withDevice (keeps_release h)
  · exact keeps_release h

theorem keeps_outWriteExit_none (o : OutId) (w : OutWriteInput) (comprOpen : Bool) (ret : Int) :
    KeepsOrder {outLock o} (outWriteExit o w comprOpen none ret) := by
  unfold outWriteExit
  simp only [List.append_assoc]
  refine keeps_releaseLast _ ?_
  split
  · exact keeps_outStandby o _ (rank_of_mem_empty _) keeps_nil
  · exact keeps_nil

theorem keeps_outWriteExit_some (o : OutId) (w : OutWriteInput) (comprOpen : Bool) (i : InId)
    (ret : Int) :
    KeepsOrder {outLock o, lockInputs} (outWriteExit o w comprOpen (some i) ret) := by
  have hreset : KeepsOrder {lockInputs} (resetInput i ++ [release lockInputs]) :=
    keeps_resetInput i (rank_of_mem_lockInputs _) (keeps_releaseLast _ keeps_nil)
  unfold outWriteExit
  simp only [List.append_assoc]
  refine @keeps_release _ {lockInputs} _ ?_
  split
  · exact keeps_outStandby o _ (rank_of_mem_lockInputs _) hreset
  · exact hreset

theorem keeps_outWriteData_none (o : OutId) (w : OutWriteInput) (comprOpen : Bool) :
    KeepsOrder {outLock o} (outWriteData o w comprOpen none) := by
  unfold outWriteData
  split
  · rw [← insert_empty_eq]
    exact keeps_outWriteOffload o w (by rw [insert_empty_eq]; exact keeps_nil_outLock o) keeps_nil
  · split
    · exact keeps_withDevice (keeps_outWriteExit_none o w comprOpen _)
    · exact keeps_outWriteExit_none o w comprOpen _

theorem keeps_outWriteData_some (o : OutId) (w : OutWriteInput) (comprOpen : Bool) (i : InId) :
    KeepsOrder {outLock o, lockInputs} (outWriteData o w comprOpen (some i)) := by
  unfold outWriteData
  split
  · refine keeps_outWriteOffload o w (keeps_nil_outLock_lockInputs o) ?_
    rintro m rfl
    exact Or.inl rfl
  · split
    · exact keeps_withDevice (keeps_outWriteExit_some o w comprOpen i _)
    · exact keeps_outWriteExit_some o w comprOpen i _

theorem keeps_outWrite (o : OutId) (w : OutWriteInput) (comprOpen : Bool) (active : InId) :
    KeepsOrder ∅ (outWrite o w comprOpen active) := by
  have hinputs {path : LockPath} (h : KeepsOrder {outLock o} path) :
      KeepsOrder {outLock o, lockInputs} (release lockInputs :: path) := by
    have hinner := @keeps_release_inner lockInputs (outLock o) ∅ path
    rw [insert_empty_eq, insert_empty_eq] at hinner
    exact hinner h
  unfold outWrite
  refine keeps_lockOutputStream o (rank_of_mem_empty _) ?_
  rw [insert_empty_eq]
  split
  · refine keeps_releaseLast _ (keeps_lockInputs ?_)
    refine keeps_lockOutputStream o (rank_of_mem_lockInputs _) ?_
    split
    · exact hinputs (keeps_outWriteData_none o w comprOpen)
    · split
      · rw [List.append_assoc]
        exact keeps_withDevice (hinputs (keeps_outWriteExit_none o w comprOpen _))
      · split
        · exact keeps_withDevice (keeps_outWriteData_some o w comprOpen active)
        · rw [List.append_assoc]
          exact keeps_withDevice (hinputs (keeps_outWriteData_none o w comprOpen))
  · exact keeps_outWriteData_none o w comprOpen

/-! ### The other calls -/

theorem keeps_underOutput (o : OutId) : KeepsOrder ∅ (underOutput o) :=
  keeps_lockOutputStream o (rank_of_mem_empty _) (keeps_release keeps_nil)

theorem keeps_switchOffloadPath (o : OutId) (due : Bool) :
    KeepsOrder ∅ (switchOffloadPath o due) := by
  unfold switchOffloadPath
  rw [List.append_assoc]
  refine keeps_lockOutputStream o (rank_of_mem_empty _) ?_
  split
  · exact keeps_withDevice (keeps_release keeps_nil)
  · exact keeps_release keeps_nil

/-- `out_flush_offload` waits with `out->lock` alone. -/
theorem keeps_outFlushOffload (o : OutId) (state : OffloadState) (comprOpen : Bool) :
    KeepsOrder ∅ (outFlushOffload o state comprOpen) := by
  have hrelease : KeepsOrder (insert (outLock o) ∅) [release (outLock o)] := keeps_release keeps_nil
  unfold outFlushOffload stopCompressedOutput
  rw [List.append_assoc]
  refine keeps_lockOutputStream o (rank_of_mem_empty _) ?_
  split
  · split
    · refine ⟨?_, ?_⟩
      · rintro m (rfl | hm) hne _
        · exact absurd rfl hne
        · exact hm.elim
      · rw [Set.insert_idem]
        exact hrelease
    · exact hrelease
  · exact hrelease

theorem keeps_inStandby (i : InId) (standby : Bool) {path : LockPath} (h : KeepsOrder ∅ path) :
    KeepsOrder ∅ (inStandby i standby ++ path) := by
  have hrelease : KeepsOrder (insert (inLock i) {lockInputs})
      ([release (inLock i)] ++ ([release lockInputs] ++ path)) :=
    keeps_release (keeps_releaseLast _ h)
  unfold inStandby inStandbyL
  simp only [List.append_assoc]
  refine keeps_lockInputs (keeps_lockInputStream i (rank_of_mem_lockInputs _) ?_)
  split
  · exact hrelease
  · exact keeps_withDevice hrelease

theorem keeps_inSetParameters (i : InId) : KeepsOrder ∅ (inSetParameters i) := by
  unfold inSetParameters
  rw [List.append_assoc]
  exact keeps_lockInputs (keeps_resetInput i (rank_of_mem_lockInputs _)
    (keeps_releaseLast _ keeps_nil))

theorem keeps_inReadExit (i : InId) (found : InReadFound) (successful : Bool) :
    KeepsOrder {inLock i} (inReadExit i found successful) := by
  unfold inReadExit
  refine keeps_releaseLast _ ?_
  split
  · exact keeps_nil
  · rw [← List.append_nil (inStandby _ _)]
    exact keeps_inStandby i found.standbyAtExit keeps_nil

theorem keeps_inRead (i : InId) (found : InReadFound) : KeepsOrder ∅ (inRead i found) := by
  have hinputs {path : LockPath} (h : KeepsOrder {inLock i} path) :
      KeepsOrder {inLock i, lockInputs} (release lockInputs :: path) := by
    have hinner := @keeps_release_inner lockInputs (inLock i) ∅ path
    rw [insert_empty_eq, insert_empty_eq] at hinner
    exact hinner h
  unfold inRead
  refine keeps_lockInputStream i (rank_of_mem_empty _) ?_
  rw [insert_empty_eq]
  split
  · refine keeps_releaseLast _ (keeps_lockInputs ?_)
    refine keeps_lockInputStream i (rank_of_mem_lockInputs _) ?_
    split
    · exact hinputs (keeps_inReadExit i found _)
    · rw [List.append_assoc]
      exact keeps_withDevice (hinputs (keeps_inReadExit i found _))
  · exact keeps_inReadExit i found _

theorem keeps_adevCloseOutputStream (o : OutId) (found : OutFound) :
    KeepsOrder ∅ (adevCloseOutputStream o found) := by
  unfold adevCloseOutputStream
  refine keeps_outStandby o found (rank_of_mem_empty _) ?_
  split
  · exact keeps_underOutput o
  · exact keeps_nil

/-! ### The offload thread -/

theorem keeps_offloadTurn (o : OutId) (turn : OffloadTurn) {path : LockPath}
    (h : KeepsOrder {outLock o} path) : KeepsOrder {outLock o} (turn.path o ++ path) := by
  cases turn with
  | sleep =>
    refine ⟨fun m hm hne => absurd hm hne, ?_⟩
    rw [Set.insert_eq_of_mem (Set.mem_singleton _)]
    exact h
  | noHandle => exact h
  | command =>
    change KeepsOrder {outLock o}
      (release (outLock o) :: (lockOutputStream o ++ (setFlag o false :: path)))
    refine keeps_releaseLast _ (keeps_lockOutputStream o (rank_of_mem_empty _) ?_)
    rw [insert_empty_eq]
    exact h

theorem keeps_offloadThreadLoop (o : OutId) (turns : List OffloadTurn) :
    KeepsOrder ∅ (offloadThreadLoop o turns) := by
  unfold offloadThreadLoop
  rw [List.append_assoc]
  refine keeps_lockOutputStream o (rank_of_mem_empty _) ?_
  rw [insert_empty_eq]
  induction turns with
  | nil => exact keeps_releaseLast _ keeps_nil
  | cons turn turns ih =>
    rw [List.flatMap_cons, List.append_assoc]
    exact keeps_offloadTurn o turn ih

end LockPath

open LockPath in
theorem LockCall.keeps_path (c : LockCall) : KeepsOrder ∅ c.path := by
  have hdevice : KeepsOrder ∅ (withDevice []) := keeps_withDevice keeps_nil
  cases c with
  | outStandby o found =>
    rw [← List.append_nil (LockCall.path _)]
    exact keeps_outStandby o found (rank_of_mem_empty _) keeps_nil
  | outSetParameters o routing => exact keeps_outSetParameters o routing
  | outWrite o w comprOpen active => exact keeps_outWrite o w comprOpen active
  | outPause o due => exact keeps_switchOffloadPath o due
  | outResume o due => exact keeps_switchOffloadPath o due
  | outFlush o state comprOpen => exact keeps_outFlushOffload o state comprOpen
  | outDrain o => exact keeps_underOutput o
  | outGetRenderPosition o => exact keeps_underOutput o
  | outGetPresentationPosition o => exact keeps_underOutput o
  | outSetCallback o => exact keeps_underOutput o
  | inStandby i standby =>
    rw [← List.append_nil (LockCall.path _)]
    exact keeps_inStandby i standby keeps_nil
  | adevCloseInputStream i standby =>
    rw [← List.append_nil (LockCall.path _)]
    exact keeps_inStandby i standby keeps_nil
  | inSetParameters i => exact keeps_inSetParameters i
  | addRemoveAudioEffect i => exact keeps_inSetParameters i
  | inRead i found => exact keeps_inRead i found
  | inGetCapturePosition i => exact ⟨rank_of_mem_empty (.inLock i), keeps_release keeps_nil⟩
  | adevCloseOutputStream o found => exact keeps_adevCloseOutputStream o found
  | adevOpenOutputStream => exact hdevice
  | adevSetVoiceVolume => exact hdevice
  | adevSetMode => exact hdevice
  | adevSetMicMute => exact hdevice
  | wbAmrCallback => exact hdevice
  | offloadThreadLoop o turns => exact keeps_offloadThreadLoop o turns

/-! ## 3. Interleavings -/

variable {T : Type}

abbrev HalThreads (T : Type) := Threads HalMutex OutId T

/-- A thread enters the HAL, or takes the next event of the call it is in. -/
inductive LockAction (T : Type)
  | call (t : T) (c : LockCall)
  | run (t : T)

def LockAction.threadAction : LockAction T → ThreadAction HalMutex OutId T
  | .call t c => .call t c.path
  | .run t => .run t

namespace HalThreads

def step [DecidableEq T] (s : HalThreads T) (a : LockAction T) : Option (HalThreads T) :=
  Threads.step s a.threadAction

/-- No thread that is putting an offload stream to standby, and so holds `adev->lock`, has to wait
for the offload thread; and none that still has an output's mutex from a failed write enters a
call that takes `lock_inputs` or a mutex of an input. -/
def NoWaitUnderDevice (s : HalThreads T) : LockAction T → Prop
  | .call t c => ∀ m, s.owner m = some t → ∀ l, Acquires l c.path → m.rank ≤ l.rank
  | .run t => ∀ o l code, s.code t = .awaitClear o l :: code → s.flag o = true →
      s.owner .adevLock ≠ some t

/-- No thread that holds `adev->lock` is about to acquire another mutex, and none is about to
acquire a mutex that comes before one it holds. -/
def LockOrdered (s : HalThreads T) : Prop :=
  (∀ t l code, s.code t = .acquire l :: code → s.owner .adevLock = some t → l = .adevLock) ∧
    s.InOrder halLockOrder

theorem lockOrdered_of_inOrder {s : HalThreads T} (h : s.InOrder halLockOrder) :
    s.LockOrdered := by
  refine ⟨fun t l code hcode hadev => ?_, h⟩
  have hrank : 3 ≤ l.rank := h t l code hcode .adevLock hadev
  cases l with
  | adevLock => rfl
  | lockInputs => exact absurd hrank (by decide : ¬3 ≤ 0)
  | inPreLock i => exact absurd hrank (by decide : ¬3 ≤ 1)
  | inLock i => exact absurd hrank (by decide : ¬3 ≤ 1)
  | outPreLock o => exact absurd hrank (by decide : ¬3 ≤ 2)
  | outLock o => exact absurd hrank (by decide : ¬3 ≤ 2)

variable [DecidableEq T]

theorem allKeep_step {s s' : HalThreads T} {a : LockAction T} (h : s.AllKeep halLockOrder)
    (hok : s.NoWaitUnderDevice a) (hs : step s a = some s') : s'.AllKeep halLockOrder := by
  cases a with
  | call t c =>
    have horderly : s.Orderly halLockOrder (.call t c.path) := hok
    refine h.step (fun t' code hcode => ?_) horderly hs
    obtain ⟨-, rfl⟩ := ThreadAction.call.inj hcode
    exact c.keeps_path
  | run t =>
    have horderly : s.Orderly halLockOrder (.run t) := by
      rintro o l code hcode hflag m rfl
      exact hok o l code hcode hflag
    exact h.step (fun t' code hcode => by cases hcode) horderly hs

/-- In every interleaving of callers and offload threads in which nobody has to wait for the
offload thread with `adev->lock` held, the mutexes are taken in the documented order. -/
theorem lockOrdered_of_noWaitUnderDevice {as : List (LockAction T)} {s : HalThreads T}
    (run : ExecWhere NoWaitUnderDevice (guarded step) (Threads.init : HalThreads T) as s) :
    s.LockOrdered :=
  lockOrdered_of_inOrder
    (run.invariant (fun _ _ _ h hok hs => allKeep_step h hok hs) Threads.allKeep_init).inOrder

/-- A playing offload stream. -/
def playing : OutFound where
  usecase := .audioPlaybackOffload
  standby := false
  comprOpen := true

/-- It is put to standby while its offload thread is not in the driver. -/
def quietStandby : List (LockAction Bool) :=
  .call false (.outStandby 2 playing) :: List.replicate 7 (.run false)

def afterActions (as : List (LockAction Bool)) : HalThreads Bool :=
  (as.foldlM step Threads.init).getD Threads.init

theorem lockOrdered_quietStandby : (afterActions quietStandby).LockOrdered := by
  have run : ExecWhere NoWaitUnderDevice (guarded step) Threads.init quietStandby
      (afterActions quietStandby) := by
    apply ExecWhere.computed (by decide +kernel)
    intro n a s ha hrun
    have hs : s = afterActions (quietStandby.take n) := by
      unfold afterActions
      rw [hrun]
      rfl
    subst hs
    match n with
    | 0 =>
      obtain rfl := Option.some.inj ha
      intro m hm
      cases hm
    | 1 | 2 | 3 | 4 | 5 | 6 | 7 =>
      obtain rfl := Option.some.inj ha
      intro o l code _ hflag
      exact absurd (hflag : false = true) Bool.false_ne_true
    | _ + 8 => cases ha
  exact lockOrdered_of_noWaitUnderDevice run

/-- A caller starts the stream and asks for a drain, the offload thread goes into the driver to
carry it out, and the caller puts the stream to standby. -/
def standbyDuringDrain : List (LockAction Bool) :=
  [.call false (.outWrite 2 { offloadStartInput with activeInput := none } false 0)] ++
    List.replicate 12 (.run false) ++ [.call false (.outDrain 2)] ++
    List.replicate 4 (.run false) ++ [.call true (.offloadThreadLoop 2 [.command])] ++
    List.replicate 5 (.run true) ++ [.call false (.outStandby 2 playing)] ++
    List.replicate 5 (.run false)

/-- The caller comes back from the wait for `out->lock` while it holds `adev->lock`. -/
theorem outLock_after_adevLock : ¬∀ (as : List (LockAction Bool)) (s : HalThreads Bool),
    Exec (guarded step) Threads.init as s → s.LockOrdered := by
  intro hall
  have hordered := hall standbyDuringDrain _ (Exec.computed (by decide +kernel))
  have hlock := hordered.1 false (.outLock 2)
    [.awaitClear 2 (.outLock 2), .release .adevLock, .release (.outLock 2)] (by decide +kernel)
    (by decide +kernel)
  cases hlock

end HalThreads

end Universal7870.Audio
