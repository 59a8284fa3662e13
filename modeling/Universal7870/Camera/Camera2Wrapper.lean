import Universal7870.Camera.CallbackWorkerThread
import Universal7870.Lib.Run

/-!
# The camera2 device

`Camera2Wrapper.cpp`: the operations of a camera device, which go through to the vendor, and the two
callbacks that the vendor gets in place of the client's.  An operation is the list of its statements,
between which the vendor may raise callbacks and the worker runs.
-/

namespace Universal7870.Camera

open Lib

/-! ## 1. Operations -/

/-- `camera_device_ops_t`, in the order of `camera2_device_open`. -/
inductive Camera2Op
  | setPreviewWindow
  | setCallbacks (data : CallbackData)
  | enableMsgType
  | disableMsgType
  | msgTypeEnabled
  | startPreview
  | stopPreview
  | previewEnabled
  | storeMetaDataInBuffers
  | startRecording
  | stopRecording
  | recordingEnabled
  | releaseRecordingFrame
  | autoFocus
  | cancelAutoFocus
  | takePicture
  | cancelPicture
  | setParameters
  | getParameters
  | putParameters
  | sendCommand
  | release
  | dump
  deriving DecidableEq, Repr

/-- A statement, as far as it touches what the threads share; `vendorCall` is a call of the vendor's
operation, and `leaveIfGuarded` the early return of `camera2_cancel_auto_focus`. -/
inductive Camera2Stmt
  | blockCbs
  | unblockCbs
  | clearCallbacks
  | setCallbacks (data : CallbackData)
  | vendorCall
  | setTimeGuard
  | leaveIfGuarded
  deriving DecidableEq, Repr

/-- The statements of an operation on a device that is not null. -/
def Camera2Op.code : Camera2Op → List Camera2Stmt
  | .setCallbacks data => [.setCallbacks data, .vendorCall]
  | .stopPreview => [.blockCbs, .clearCallbacks, .vendorCall, .unblockCbs]
  | .autoFocus => [.clearCallbacks, .vendorCall, .setTimeGuard]
  | .cancelAutoFocus => [.blockCbs, .clearCallbacks, .leaveIfGuarded, .vendorCall, .unblockCbs]
  | .getParameters => [.vendorCall, .vendorCall]
  | .putParameters => []
  | _ => [.vendorCall]

/-- The operations that block callbacks while they run. -/
def Camera2Op.blocks (op : Camera2Op) : Prop := op = .stopPreview ∨ op = .cancelAutoFocus

/-- A callback of the vendor, the operation that ran when it came, and whether it was discarded. -/
structure RaisedCallback where
  message : WorkerMessage
  during : Option Camera2Op
  discarded : Bool
  deriving DecidableEq, Repr

/-- The wrapper with its worker.  `current` is the operation that runs, with the statements left of
it; `passing` holds the callbacks that have passed the test of `BlockCbs` and are to be added. -/
structure Camera2 where
  cbThread : CallbackWorker := .created
  blockCbs : Bool := false
  cancelAFTimeGuard : Int := 0
  current : Option (Camera2Op × List Camera2Stmt) := none
  passing : List WorkerMessage := []
  raised : List RaisedCallback := []

inductive Camera2Act
  | call (op : Camera2Op) (device : Bool)
  | run (now : Int)
  | raise (message : WorkerMessage)
  | addCallback (i : Nat) (now : Int)
  | workerTake
  | workerProcess (now : Int)
  deriving DecidableEq, Repr

namespace Camera2

/-- The wrapper behind `camera2_device_open`, which leaves the time guard as it finds it. -/
def opened (cancelAFTimeGuard : Int) : Camera2 := { cancelAFTimeGuard := cancelAFTimeGuard }

/-- The operation goes on with `rest`, or returns. -/
def goOn (c : Camera2) (op : Camera2Op) (rest : List Camera2Stmt) : Camera2 :=
  { c with current := if rest = [] then none else some (op, rest) }

def execStmt (c : Camera2) (now : Int) : Camera2Stmt → Camera2
  | .blockCbs => { c with blockCbs := true }
  | .unblockCbs => { c with blockCbs := false }
  | .clearCallbacks => { c with cbThread := c.cbThread.clearCallbacks }
  | .setCallbacks data => { c with cbThread := c.cbThread.setCallbacks data now }
  | .setTimeGuard => { c with cancelAFTimeGuard := now + 500 }
  | .vendorCall | .leaveIfGuarded => c

/-- The next statement of the operation that runs. -/
def runStmt (c : Camera2) (op : Camera2Op) (stmt : Camera2Stmt) (rest : List Camera2Stmt)
    (now : Int) : Camera2 :=
  if stmt = .leaveIfGuarded ∧ 0 < c.cancelAFTimeGuard - now then { c with current := none }
  else (c.execStmt now stmt).goOn op rest

/-- `WrappedNotifyCb` and `WrappedDataCb` up to the call of `AddCallback`. -/
def raiseCallback (c : Camera2) (message : WorkerMessage) : Camera2 :=
  { c with
    passing := if c.blockCbs then c.passing else c.passing ++ [message]
    raised := c.raised ++ [⟨message, c.current.map Prod.fst, c.blockCbs⟩] }

def step (c : Camera2) : Camera2Act → Option Camera2
  | .call op device =>
    match c.current with
    | none => some (c.goOn op (if device then op.code else []))
    | some _ => none
  | .run now =>
    match c.current with
    | some (op, stmt :: rest) => some (c.runStmt op stmt rest now)
    | _ => none
  | .raise message => some (c.raiseCallback message)
  | .addCallback i now =>
    c.passing[i]?.map fun message =>
      { c with
        cbThread := c.cbThread.addCallback message now
        passing := c.passing.eraseIdx i }
  | .workerTake => c.cbThread.takeMessage.map fun w => { c with cbThread := w }
  | .workerProcess now => (c.cbThread.step (.process now)).map fun w => { c with cbThread := w }

/-! ## 2. Callbacks are not left blocked -/

/-- The callbacks that were ever put into the queue. -/
def queued (c : Camera2) : List WorkerMessage :=
  c.cbThread.mailbox.sent.filterMap fun m =>
    match m.body with
    | .executeCallback data => some data
    | _ => none

/-- Behind each operation callbacks are not blocked; the callbacks that came outside the operations
that block are not discarded; and those that are not discarded have been queued, or are about to. -/
structure NeverBlocked (c : Camera2) : Prop where
  idle : c.current = none → c.blockCbs = false
  discarded : ∀ r ∈ c.raised, r.discarded = true → ∃ op, r.during = some op ∧ op.blocks
  queued : ((c.raised.filter fun r => !r.discarded).map RaisedCallback.message).Perm
    (c.queued ++ c.passing)

/-- `camera2_cancel_auto_focus` comes to its test when the time guard is over. -/
def GuardOver (c : Camera2) : Camera2Act → Prop
  | .run now =>
    match c.current with
    | some (_, .leaveIfGuarded :: _) => c.cancelAFTimeGuard ≤ now
    | _ => True
  | _ => True

instance (c : Camera2) : (act : Camera2Act) → Decidable (c.GuardOver act)
  | .run now =>
    decidable_of_iff
      ((c.current.bind (·.2.head?) = some .leaveIfGuarded) → c.cancelAFTimeGuard ≤ now) <| by
        unfold GuardOver
        rcases c.current with _ | ⟨op, _ | ⟨stmt, rest⟩⟩
        · simp
        · simp
        · cases stmt <;> simp
  | .call .. | .raise _ | .addCallback .. | .workerTake | .workerProcess _ => .isTrue trivial

/-- Where callbacks are blocked or not, what is left of an operation ends with callbacks not
blocked, if it does not return early; and it returns early only where they are blocked. -/
def Releases : Bool → List Camera2Stmt → Prop
  | blocked, [] => blocked = false
  | _, .blockCbs :: rest => Releases true rest
  | _, .unblockCbs :: rest => Releases false rest
  | blocked, .leaveIfGuarded :: rest => blocked = true ∧ Releases blocked rest
  | blocked, _ :: rest => Releases blocked rest

theorem releases_code (op : Camera2Op) : Releases false op.code := by
  cases op <;> simp [Camera2Op.code, Releases]

theorem blocks_of_mem_code {op : Camera2Op} (h : .blockCbs ∈ op.code) : op.blocks := by
  cases op <;> simp_all [Camera2Op.code, Camera2Op.blocks]

variable {c t : Camera2} {act : Camera2Act} {op : Camera2Op} {stmt : Camera2Stmt}
  {rest : List Camera2Stmt}

/-- What is left of the operation that runs is the end of its code, and releases callbacks. -/
structure Running (c : Camera2) (op : Camera2Op) (rest : List Camera2Stmt) : Prop where
  unfinished : rest ≠ []
  suffix : rest <:+ op.code
  releases : Releases c.blockCbs rest
  blocks : c.blockCbs = true → op.blocks

structure Inv (c : Camera2) : Prop where
  right : c.NeverBlocked
  running : ∀ op rest, c.current = some (op, rest) → c.Running op rest

theorem inv_opened (cancelAFTimeGuard : Int) : (opened cancelAFTimeGuard).Inv where
  right := ⟨fun _ => rfl, fun _ hr => absurd hr List.not_mem_nil, .nil⟩
  running op rest hrun := by cases hrun

/-! ## 3. What is queued -/

theorem sent_takeMessage {w w' : CallbackWorker} (h : w.takeMessage = some w') :
    w'.mailbox.sent = w.mailbox.sent := by
  unfold CallbackWorker.takeMessage at h
  split at h
  · split at h
    · cases h
    · obtain rfl := Option.some.inj h
      rfl
  · cases h

theorem sent_process {w w' : CallbackWorker} {now : Int} (h : w.step (.process now) = some w') :
    w'.mailbox.sent = w.mailbox.sent := by
  simp only [CallbackWorker.step] at h
  split at h
  · obtain rfl := Option.some.inj h
    unfold CallbackWorker.process CallbackWorker.execute
    split
    · dsimp only
      split
      · split <;> rfl
      · rfl
    · rfl
    · rfl
  · cases h

theorem queued_execStmt (c : Camera2) (now : Int) (stmt : Camera2Stmt) :
    (c.execStmt now stmt).queued = c.queued := by
  cases stmt with
  | setCallbacks data =>
    show (c.cbThread.mailbox.sent ++ [_]).filterMap _ = _
    rw [List.filterMap_append]
    exact List.append_nil _
  | _ => rfl

theorem queued_addCallback (c : Camera2) (message : WorkerMessage) (now : Int)
    (passing : List WorkerMessage) :
    { c with cbThread := c.cbThread.addCallback message now, passing := passing }.queued =
      c.queued ++ [message] :=
  List.filterMap_append

/-! ## 4. Steps -/

/-- A worker step, or a callback that is added, changes neither the operation nor the flag. -/
theorem Inv.of_same (hc : c.Inv) (hcurrent : t.current = c.current) (hblock : t.blockCbs = c.blockCbs)
    (hraised : t.raised = c.raised) (hqueued : (t.queued ++ t.passing).Perm (c.queued ++ c.passing)) :
    t.Inv := by
  refine ⟨⟨?_, ?_, ?_⟩, ?_⟩
  · rw [hcurrent, hblock]
    exact hc.right.idle
  · rw [hraised]
    exact hc.right.discarded
  · rw [hraised]
    exact hc.right.queued.trans hqueued.symm
  · intro op rest hrun
    obtain ⟨h₁, h₂, h₃, h₄⟩ := hc.running op rest (hcurrent ▸ hrun)
    exact ⟨h₁, h₂, hblock ▸ h₃, hblock ▸ h₄⟩

theorem current_goOn (c : Camera2) (op : Camera2Op) (rest : List Camera2Stmt) :
    (c.goOn op rest).current = if rest = [] then none else some (op, rest) := rfl

/-- The operation goes on with code that releases callbacks. -/
theorem inv_goOn (hdiscarded : ∀ r ∈ c.raised, r.discarded = true → ∃ op, r.during = some op ∧ op.blocks)
    (hqueued : ((c.raised.filter fun r => !r.discarded).map RaisedCallback.message).Perm
      (c.queued ++ c.passing))
    (hsuffix : rest <:+ op.code) (hreleases : Releases c.blockCbs rest)
    (hblocks : c.blockCbs = true → op.blocks) : (c.goOn op rest).Inv := by
  refine ⟨⟨fun hidle => ?_, hdiscarded, hqueued⟩, fun op' rest' hrun => ?_⟩
  · rw [current_goOn] at hidle
    split at hidle
    · rename_i hnil
      rw [hnil] at hreleases
      exact hreleases
    · cases hidle
  · rw [current_goOn] at hrun
    split at hrun
    · cases hrun
    · rename_i hne
      obtain ⟨rfl, rfl⟩ := Prod.mk.inj (Option.some.inj hrun)
      exact ⟨hne, hsuffix, hreleases, hblocks⟩

theorem raised_execStmt (c : Camera2) (now : Int) (stmt : Camera2Stmt) :
    (c.execStmt now stmt).raised = c.raised ∧ (c.execStmt now stmt).passing = c.passing := by
  cases stmt <;> exact ⟨rfl, rfl⟩

/-- A statement that is not an early return. -/
theorem inv_execStmt (hc : c.Inv) (hrun : c.current = some (op, stmt :: rest)) (now : Int) :
    ((c.execStmt now stmt).goOn op rest).Inv := by
  obtain ⟨-, hsuffix, hreleases, hblocks⟩ := hc.running op _ hrun
  have hmem : stmt ∈ op.code := hsuffix.subset List.mem_cons_self
  have hrest : rest <:+ op.code := (List.suffix_cons stmt rest).trans hsuffix
  obtain ⟨hraised, hpassing⟩ := raised_execStmt c now stmt
  refine inv_goOn ?_ ?_ hrest ?_ ?_
  · rw [hraised]
    exact hc.right.discarded
  · rw [hraised, queued_execStmt, hpassing]
    exact hc.right.queued
  · cases stmt with
    | leaveIfGuarded => exact hreleases.2
    | _ => exact hreleases
  · cases stmt with
    | blockCbs => exact fun _ => blocks_of_mem_code hmem
    | unblockCbs => exact nofun
    | _ => exact hblocks

/-- The early return leaves callbacks blocked. -/
theorem not_neverBlocked_leave (hc : c.Inv) (hrun : c.current = some (op, .leaveIfGuarded :: rest)) :
    ¬{ c with current := none }.NeverBlocked := by
  intro hright
  have hblocked : c.blockCbs = true := (hc.running op _ hrun).releases.1
  have hidle : c.blockCbs = false := hright.idle rfl
  rw [hblocked] at hidle
  cases hidle

theorem inv_raiseCallback (hc : c.Inv) (message : WorkerMessage) : (c.raiseCallback message).Inv := by
  refine ⟨⟨hc.right.idle, ?_, ?_⟩, fun op rest hrun => ?_⟩
  · intro r hr hdiscarded
    rcases List.mem_append.mp hr with hold | hnew
    · exact hc.right.discarded r hold hdiscarded
    · obtain rfl := List.mem_singleton.mp hnew
      cases hcurrent : c.current with
      | none =>
        rw [hc.right.idle hcurrent] at hdiscarded
        cases hdiscarded
      | some running => exact ⟨running.1, rfl, (hc.running _ _ hcurrent).blocks hdiscarded⟩
  · have hqueued := hc.right.queued
    unfold raiseCallback
    dsimp only
    rw [List.filter_append, List.map_append]
    cases hblock : c.blockCbs with
    | true =>
      rw [if_pos rfl]
      show (_ ++ []).Perm _
      rw [List.append_nil]
      exact hqueued
    | false =>
      rw [if_neg Bool.false_ne_true]
      show (_ ++ [message]).Perm (c.queued ++ (c.passing ++ [message]))
      rw [← List.append_assoc]
      exact hqueued.append_right [message]
  · obtain ⟨h₁, h₂, h₃, h₄⟩ := hc.running op rest hrun
    exact ⟨h₁, h₂, h₃, h₄⟩

/-- One step leaves no callbacks blocked exactly if it is not an early return. -/
theorem inv_step (hc : c.Inv) (hstep : c.step act = some t) :
    (t.NeverBlocked ↔ c.GuardOver act) ∧ (t.NeverBlocked → t.Inv) := by
  have htrue : t.Inv → c.GuardOver act →
      (t.NeverBlocked ↔ c.GuardOver act) ∧ (t.NeverBlocked → t.Inv) :=
    fun hkept hover => ⟨iff_of_true hkept.right hover, fun _ => hkept⟩
  cases act with
  | call op device =>
    simp only [step] at hstep
    split at hstep
    · rename_i hidle
      obtain rfl := Option.some.inj hstep
      have hfree := hc.right.idle hidle
      refine htrue (inv_goOn hc.right.discarded hc.right.queued ?_ ?_ ?_) trivial
      · split
        · exact List.suffix_rfl
        · exact List.nil_suffix
      · rw [hfree]
        split
        · exact releases_code op
        · rfl
      · rw [hfree]
        exact nofun
    · cases hstep
  | run now =>
    simp only [step] at hstep
    split at hstep
    · rename_i op stmt rest hrun
      obtain rfl := Option.some.inj hstep
      unfold runStmt
      by_cases hleave : stmt = .leaveIfGuarded ∧ 0 < c.cancelAFTimeGuard - now
      · obtain ⟨rfl, hguarded⟩ := hleave
        rw [if_pos ⟨rfl, hguarded⟩]
        have hnot := not_neverBlocked_leave hc hrun
        refine ⟨iff_of_false hnot fun hover => ?_, fun h => absurd h hnot⟩
        unfold GuardOver at hover
        rw [hrun] at hover
        have hover' : c.cancelAFTimeGuard ≤ now := hover
        omega
      · rw [if_neg hleave]
        have hover : c.GuardOver (.run now) := by
          unfold GuardOver
          rw [hrun]
          cases stmt with
          | leaveIfGuarded =>
            have hnot : ¬0 < c.cancelAFTimeGuard - now := fun h => hleave ⟨rfl, h⟩
            show c.cancelAFTimeGuard ≤ now
            omega
          | _ => trivial
        have hkept := inv_execStmt hc hrun now
        exact ⟨iff_of_true hkept.right hover, fun _ => hkept⟩
    · cases hstep
  | raise message =>
    obtain rfl := Option.some.inj hstep
    exact htrue (inv_raiseCallback hc message) trivial
  | addCallback i now =>
    obtain ⟨message, hmessage, rfl⟩ := Option.map_eq_some_iff.mp hstep
    refine htrue (hc.of_same rfl rfl rfl ?_) trivial
    obtain ⟨hi, rfl⟩ := List.getElem?_eq_some_iff.mp hmessage
    rw [queued_addCallback, List.append_assoc]
    exact (List.getElem_cons_eraseIdx_perm hi).append_left c.queued
  | workerTake =>
    obtain ⟨w, hw, rfl⟩ := Option.map_eq_some_iff.mp hstep
    refine htrue (hc.of_same rfl rfl rfl ?_) trivial
    have hsame : { c with cbThread := w }.queued = c.queued := by
      unfold Camera2.queued
      rw [sent_takeMessage hw]
    rw [hsame]
  | workerProcess now =>
    obtain ⟨w, hw, rfl⟩ := Option.map_eq_some_iff.mp hstep
    refine htrue (hc.of_same rfl rfl rfl ?_) trivial
    have hsame : { c with cbThread := w }.queued = c.queued := by
      unfold Camera2.queued
      rw [sent_process hw]
    rw [hsame]

/-! ## 5. Runs -/

/-- In every run of operations and vendor callbacks no callbacks are left blocked, exactly if
`cancel_auto_focus` never comes before the time guard of `auto_focus` is over. -/
theorem neverBlocked_iff {guard : Int} {acts : List Camera2Act}
    (run : Exec (guarded step) (opened guard) acts c) :
    (∀ before u, before <+: acts → Exec (guarded step) (opened guard) before u → u.NeverBlocked) ↔
      ExecWhere GuardOver (guarded step) (opened guard) acts c :=
  forall_prefix_iff_of (fun _ _ _ hs hstep => inv_step hs hstep) (fun _ hs => hs.right)
    (inv_opened guard) run

/-- An autofocus that is cancelled when its guard is over, with a callback that is added. -/
def patientRun : List Camera2Act :=
  [.call .autoFocus true, .run 0, .run 1, .run 2, .call .cancelAutoFocus true, .run 600,
    .raise { cbType := .notify, msgType := 4, user := 0 }, .run 601, .run 602, .run 603, .run 604,
    .raise { cbType := .notify, msgType := 4, user := 1 }, .addCallback 0 605]

theorem patientRun_neverBlocked : (patientRun.foldlM step (opened 0)).isSome = true ∧
    ∀ before u, before <+: patientRun → Exec (guarded step) (opened 0) before u → u.NeverBlocked :=
  ⟨rfl, (neverBlocked_iff (Exec.computed rfl)).mpr (ExecWhere.of_isSome (by decide))⟩

/-- An autofocus that is cancelled at once. -/
theorem blocked_after_cancelAutoFocus :
    ¬∀ guard acts c, Exec (guarded step) (opened guard) acts c → c.NeverBlocked := by
  intro hall
  have hright := hall 0 [.call .autoFocus true, .run 0, .run 1, .run 2, .call .cancelAutoFocus true,
    .run 3, .run 4, .run 5] _ (Exec.computed rfl)
  cases hright.idle rfl

end Camera2

end Universal7870.Camera
