import Universal7870.Audio.OffloadHandle

/-!
# Opening an offload stream

`adev_open_output_stream` starts the thread of an offload stream and goes on: it sets the stream up,
initialises the mutexes that the thread takes, and returns.  The memory of the stream was allocated
by `calloc`, and a mutex of zeros is one that nobody holds.
-/

namespace Universal7870.Audio

open Lib

namespace OffloadStream

/-! ## 1. The code -/

/-- What `adev_open_output_stream` does once the thread was created. -/
inductive OpenInstr
  | setIdle
  /-- It takes `adev->lock` to see that the usecase is not listed, and gives it back. -/
  | checkUsecase
  | setStandby
  /-- `pthread_mutex_init`, whoever holds the mutex. -/
  | initMutex (m : Mutex)
  deriving DecidableEq, Repr

def openCode : List OpenInstr :=
  [.setIdle, .checkUsecase, .setStandby, .initMutex .outLock, .initMutex .outPreLock]

def OpenInstr.run (c : State) : OpenInstr → Option State
  | .setIdle => some { c with shared := { c.shared with offloadState := .idle } }
  | .checkUsecase => if c.owner .adevLock = none then some c else none
  | .setStandby => some { c with shared := { c.shared with standby := true } }
  | .initMutex m => some (c.give m none)

/-- The stream, and what is left of `adev_open_output_stream`. -/
structure Opening where
  stream : State
  left : List OpenInstr

inductive OpenTurn
  | opens
  | turn (t : Turn StreamParty Call)
  deriving DecidableEq, Repr

namespace Opening

/-- The thread runs from its creation on, and the framework calls the stream once it is open. -/
def step (s : Opening) : OpenTurn → Option Opening
  | .opens =>
    match s.left with
    | [] => none
    | i :: left => (i.run s.stream).map (⟨·, left⟩)
  | .turn (.enter t call) =>
    if s.left ≠ [] then none
    else (program.step s.stream (.enter t call)).map ({ s with stream := · })
  | .turn (.run t) => (program.step s.stream (.run t)).map ({ s with stream := · })

/-- The stream when its thread is created. -/
structure Start (s : Opening) : Prop where
  standby : s.stream.shared.standby = false
  compr : s.stream.shared.compr = none
  blocked : s.stream.shared.blocked = false
  calls : s.stream.shared.calls = []
  owner : ∀ m, s.stream.owner m = none
  client : ∀ n, s.stream.code (.client n) = []
  offloadThread : s.stream.code .offloadThread = lockOutputStream ++ [.act .threadLoop]
  left : s.left = openCode

/-- Nobody holds the mutex that is initialised. -/
def InitsFree (s : Opening) : OpenTurn → Prop
  | .opens => ∀ m ∈ (s.left.head?.bind fun
      | .initMutex m => some m
      | _ => none), s.stream.owner m = none
  | .turn _ => True

instance (s : Opening) (turn : OpenTurn) : Decidable (s.InitsFree turn) := by
  cases turn <;> unfold InitsFree <;> infer_instance

/-! ## 2. Steps -/

variable {s s' : Opening}

/-- While the stream is opened it has no handle, and only its thread has code. -/
structure Sound (s : Opening) : Prop where
  kept : Kept s.stream
  opening : s.left ≠ [] → s.stream.shared.compr = none ∧ ∀ n, s.stream.code (.client n) = []

theorem compr_of_thread {a : StreamAct} {c c' : OffloadStream} {more : Code}
    (ha : a.isThread = true) (hact : act a c = some (c', more)) : c'.compr = c.compr := by
  cases a with
  | threadLoop =>
    simp only [act] at hact
    split at hact
    · cases hact
      rfl
    · cases hact
      rfl
    · split at hact <;> cases hact <;> rfl
  | drive _ | clearBlocked | clearCmdList | exitThread =>
    obtain ⟨rfl, _⟩ := Prod.mk.inj (Option.some.inj hact)
    rfl
  | _ => cases ha

theorem Sound.opens (hs : s.Sound) {i : OpenInstr} {left : List OpenInstr} (hleft : s.left = i :: left)
    (hok : s.InitsFree .opens) {c : State} (hrun : i.run s.stream = some c) :
    Sound ⟨c, left⟩ := by
  obtain ⟨hcompr, hclient⟩ := hs.opening (by rw [hleft]; exact List.cons_ne_nil i left)
  have hk := hs.kept
  cases i with
  | setIdle =>
    obtain rfl := Option.some.inj hrun
    exact ⟨⟨hk.lawful, hk.blocked, hk.handle, hk.settled, hk.opened, hk.starting, hk.closing, hk.calls⟩,
      fun _ => ⟨hcompr, hclient⟩⟩
  | checkUsecase =>
    simp only [OpenInstr.run] at hrun
    split at hrun
    · obtain rfl := Option.some.inj hrun
      exact ⟨hk, fun _ => ⟨hcompr, hclient⟩⟩
    · cases hrun
  | setStandby =>
    obtain rfl := Option.some.inj hrun
    exact ⟨⟨hk.lawful, hk.blocked, hk.handle, fun _ => .inl hcompr, hk.opened, fun _ _ => rfl,
      hk.closing, hk.calls⟩, fun _ => ⟨hcompr, hclient⟩⟩
  | initMutex m =>
    obtain rfl := Option.some.inj hrun
    have hfree : s.stream.owner m = none := by
      apply hok m
      rw [hleft]
      rfl
    rw [Processes.give_none_of_free hfree]
    exact ⟨hk, fun _ => ⟨hcompr, hclient⟩⟩

/-- While the stream is opened only its thread can run. -/
theorem Sound.run (hs : s.Sound) {t : StreamParty} {c : State}
    (hstep : program.step s.stream (.run t) = some c) : Sound { s with stream := c } := by
  refine ⟨kept_step hs.kept hstep, fun hleft => ?_⟩
  obtain ⟨hcompr, hclient⟩ := hs.opening hleft
  have ht : t = .offloadThread := by
    cases t with
    | client n =>
      simp only [Program.step] at hstep
      rw [hclient n] at hstep
      cases hstep
    | offloadThread => rfl
  subst ht
  have hother (n : Nat) : StreamParty.client n ≠ .offloadThread := by
    intro heq
    cases heq
  cases Program.step_cases hstep with
  | acquired hcode hfree =>
    exact ⟨hcompr, fun n => (Processes.code_put_of_ne (hother n)).trans (hclient n)⟩
  | released hcode =>
    exact ⟨hcompr, fun n => (Processes.code_put_of_ne (hother n)).trans (hclient n)⟩
  | acted hcode hact =>
    have hshape := (hs.kept.lawful .offloadThread).shape
    rw [hcode] at hshape
    exact ⟨(compr_of_thread (isThread_of_shape hshape) hact).trans hcompr,
      fun n => (Processes.code_put_of_ne (hother n)).trans (hclient n)⟩

theorem Sound.step (hs : s.Sound) {turn : OpenTurn} (hok : s.InitsFree turn)
    (hstep : s.step turn = some s') : s'.Sound := by
  cases turn with
  | opens =>
    simp only [Opening.step] at hstep
    split at hstep
    · cases hstep
    · rename_i i left hleft
      obtain ⟨c, hrun, rfl⟩ := Option.map_eq_some_iff.mp hstep
      exact hs.opens hleft hok hrun
  | turn t =>
    cases t with
    | enter t call =>
      simp only [Opening.step] at hstep
      split at hstep
      · cases hstep
      · rename_i hleft
        obtain ⟨c, hrun, rfl⟩ := Option.map_eq_some_iff.mp hstep
        exact ⟨kept_step hs.kept hrun, fun hopening => absurd hopening hleft⟩
    | run t =>
      obtain ⟨c, hrun, rfl⟩ := Option.map_eq_some_iff.mp hstep
      exact hs.run hrun

theorem Start.sound (h : s.Start) : s.Sound := by
  have hheld (t : StreamParty) : s.stream.held t = ∅ := by
    ext m
    refine iff_of_false (fun hm => ?_) (Set.notMem_empty m)
    cases (h.owner m).symm.trans hm
  have hcode (t : StreamParty) : s.stream.code t = [] ∨
      t = .offloadThread ∧ s.stream.code t = lockOutputStream ++ [.act .threadLoop] := by
    cases t with
    | client n => exact .inl (h.client n)
    | offloadThread => exact .inr ⟨rfl, h.offloadThread⟩
  refine ⟨⟨fun t => ?_, ?_, ?_, fun _ => .inl h.compr, ?_, ?_, fun _ _ => h.blocked, ?_⟩,
    fun _ => ⟨h.compr, h.client⟩⟩
  · rw [hheld]
    rcases hcode t with hnil | ⟨rfl, hloop⟩
    · rw [hnil]
      exact ⟨Set.empty_subset OffloadStream.left, .inl rfl⟩
    · rw [hloop]
      refine ⟨obeys_lockOutputStream fun _ => (Discipline.obeys_last rfl).mpr ?_, .inl rfl⟩
      exact ⟨⟨Set.mem_insert _ _, Set.insert_subset (.inr rfl) (Set.empty_subset _)⟩, rfl⟩
  · rw [h.blocked, h.offloadThread]
    refine iff_of_false nofun ?_
    simp [lockOutputStream]
  · intro hblocked
    cases h.blocked.symm.trans hblocked
  · intro handle hcompr
    cases h.compr.symm.trans hcompr
  · intro t hstarts
    rcases hcode t with hnil | ⟨rfl, hloop⟩
    · rw [hnil] at hstarts
      obtain ⟨w, hw | hw⟩ := hstarts <;> cases hw
    · rw [hloop] at hstarts
      exact absurd hstarts (not_startsNext_of_plain (k := true) rfl)
  · rw [h.calls]
    exact nofun

/-! ## 3. Runs -/

/-- Where no mutex is initialised that the thread holds, it makes its driver calls on the stream's
open handle, which stays that until the thread has cleared its flag, however the opening of the
stream, its callbacks and its thread are interleaved. -/
theorem handleSafe_of_initsFree {turns : List OpenTurn} (hstart : s.Start)
    (hrun : ExecWhere InitsFree (guarded step) s turns s') : HandleSafe s'.stream := by
  have hpreserved (s : Opening) (turn : OpenTurn) (s' : Opening) (hs : s.Sound)
      (hok : s.InitsFree turn) (hstep : guarded step s turn s') : s'.Sound := hs.step hok hstep
  exact (hrun.invariant hpreserved hstart.sound).kept.handleSafe

/-- A stream whose thread was just created. -/
def created : Opening where
  stream :=
    { shared :=
        { standby := false
          compr := none
          blocked := false
          entered := none
          driver := {}
          offloadState := .idle
          sendNewMetadata := true
          offloadCmdList := []
          offloadFx := false
          closing := false
          exited := false
          calls := [] }
      owner _ := none
      code
        | .client _ => []
        | .offloadThread => lockOutputStream ++ [.act .threadLoop] }
  left := openCode

theorem created_start : Start created where
  standby := rfl
  compr := rfl
  blocked := rfl
  calls := rfl
  owner _ := rfl
  client _ := rfl
  offloadThread := rfl
  left := rfl

def afterTurns (turns : List OpenTurn) : Opening := (turns.foldlM step created).getD created

def runs (t : StreamParty) (n : Nat) : List OpenTurn := List.replicate n (.turn (.run t))

def write : List OpenTurn :=
  .turn (.enter (.client 0) (.outWrite ⟨true, 7, true, false, true, true⟩)) :: runs (.client 0) 18

/-- The stream is opened before its thread runs; a write takes a part of the buffer, and the thread
waits in the driver for the rest when the stream is put to standby. -/
def standbyInDriver : List OpenTurn :=
  List.replicate 5 .opens ++ write ++ runs .offloadThread 6 ++
    .turn (.enter (.client 1) .outStandby) :: runs (.client 1) 9

theorem handleSafe_standbyInDriver : HandleSafe (afterTurns standbyInDriver).stream :=
  handleSafe_of_initsFree created_start (ExecWhere.of_isSome (by decide +kernel))

/-- The thread is in the driver, on the handle of the stream, and the standby waits. -/
example : ((afterTurns standbyInDriver).stream.shared.blocked,
    (afterTurns standbyInDriver).stream.shared.standby,
    (afterTurns standbyInDriver).stream.shared.compr) = (true, true, some 7) := by decide +kernel

/-- The thread has `out->lock` when it is initialised, and goes on with its loop while the stream is
put to standby by a caller that has it as well. -/
def lockedInOpening : List OpenTurn :=
  runs .offloadThread 3 ++ List.replicate 5 .opens ++ write ++
    .turn (.enter (.client 1) .outStandby) :: runs (.client 1) 8 ++ runs .offloadThread 2 ++
    runs (.client 1) 2 ++ runs .offloadThread 1

/-- The thread waits for a handle that was closed, and reads `NULL` for it. -/
theorem handle_lost_in_opening : ¬∀ (s s' : Opening) (turns : List OpenTurn), s.Start →
    Exec (guarded step) s turns s' → HandleSafe s'.stream := by
  intro hall
  have hsafe := hall created _ lockedInOpening created_start (Exec.computed (by decide +kernel))
  obtain ⟨h, hhandle, -⟩ := hsafe.calls ⟨.wait, none, some 7, false⟩ (by decide +kernel)
  cases hhandle

end Opening

end OffloadStream

end Universal7870.Audio
