import Universal7870.Camera.CallbackWorkerThread
import Universal7870.Lib.Run

/-!
# The objects that come with messages

A callback or an update comes to the worker with an object of its own, which the worker is to release
with the message.  The code that empties the queue releases the messages only.
-/

namespace Universal7870.Camera

open Lib

namespace CallbackWorker

variable {w t : CallbackWorker} {op : WorkerOp} {serial : Nat} {m : ThreadMsg} {now : Int}

/-! ## 1. Who holds an object -/

/-- The numbers of the messages with objects, where the first message has the number `start`. -/
def payloadSerials (start : Nat) : List ThreadMsg → List Nat
  | [] => []
  | m :: rest =>
    if m.hasPayload then start :: payloadSerials (start + 1) rest
    else payloadSerials (start + 1) rest

def inHand (w : CallbackWorker) : List Nat :=
  match w.pc with
  | .handling serial m => payloadSerials serial [m]
  | _ => []

/-- The objects whose message is in the worker's hand or in the queue. -/
def held (w : CallbackWorker) : List Nat :=
  w.inHand ++ payloadSerials w.mailbox.taken w.mailbox.queue

/-- No object was used or released without being there; exactly those are unreleased, each once,
whose message still has to be handled; and none is when the thread has ended. -/
structure PayloadsRight (w : CallbackWorker) : Prop where
  owns : w.payloads.Owns w.held
  ended : w.pc = .ended → w.held = []

/-- No message with an object is in a queue that is emptied, and none is sent to a thread that has
ended. -/
def ReleasesAll (w : CallbackWorker) : WorkerOp → Prop
  | .addCallback _ _ | .setCallbacks _ _ => w.pc ≠ .ended
  | .clearCallbacks => ∀ m ∈ w.mailbox.queue, m.hasPayload = false
  | .process _ =>
    match w.pc with
    | .handling _ m => m.isExit = true → ∀ m' ∈ w.mailbox.queue, m'.hasPayload = false
    | _ => True
  | _ => True

instance (w : CallbackWorker) (op : WorkerOp) : Decidable (w.ReleasesAll op) :=
  match op with
  | .addCallback _ _ | .setCallbacks _ _ => inferInstanceAs (Decidable (_ ≠ _))
  | .clearCallbacks => inferInstanceAs (Decidable (∀ m ∈ w.mailbox.queue, m.hasPayload = false))
  | .process _ =>
    match hpc : w.pc with
    | .handling _ m =>
      decidable_of_iff (m.isExit = true → ∀ m' ∈ w.mailbox.queue, m'.hasPayload = false)
        (by unfold ReleasesAll; rw [hpc])
    | .waiting => isTrue (by unfold ReleasesAll; rw [hpc]; trivial)
    | .ended => isTrue (by unfold ReleasesAll; rw [hpc]; trivial)
  | .exitThread _ | .join | .takeMessage => isTrue trivial

/-! ## 2. Numbers -/

theorem payloadSerials_eq_nil (start : Nat) {msgs : List ThreadMsg} :
    payloadSerials start msgs = [] ↔ ∀ m ∈ msgs, m.hasPayload = false := by
  induction msgs generalizing start with
  | nil => exact iff_of_true rfl nofun
  | cons m rest ih =>
    unfold payloadSerials
    rw [List.forall_mem_cons]
    cases hm : m.hasPayload with
    | true =>
      rw [if_pos rfl]
      exact iff_of_false (List.cons_ne_nil _ _) fun h => by cases h.1
    | false =>
      rw [if_neg Bool.false_ne_true, ih]
      exact (and_iff_right rfl).symm

theorem payloadSerials_append (start : Nat) (msgs more : List ThreadMsg) :
    payloadSerials start (msgs ++ more) =
      payloadSerials start msgs ++ payloadSerials (start + msgs.length) more := by
  induction msgs generalizing start with
  | nil => rfl
  | cons m rest ih =>
    have hstart : start + 1 + rest.length = start + (m :: rest).length := by
      rw [List.length_cons]
      omega
    simp only [payloadSerials, List.cons_append, ih, hstart]
    split
    · rw [List.cons_append]
    · rfl

theorem payloadSerials_cons (start : Nat) (m : ThreadMsg) (rest : List ThreadMsg) :
    payloadSerials start (m :: rest) =
      payloadSerials start [m] ++ payloadSerials (start + 1) rest :=
  payloadSerials_append start [m] rest

theorem taken_add_queue (b : Mailbox ThreadMsg) : b.taken + b.queue.length = b.sent.length := by
  rw [← b.drop_taken, List.length_drop]
  have hle := b.taken_le
  omega

/-! ## 3. Steps -/

theorem held_post (hpc : t.pc = w.pc) (hmailbox : t.mailbox = w.mailbox.post m) :
    t.held = w.held ++ payloadSerials w.mailbox.sent.length [m] := by
  have hhand : t.inHand = w.inHand := by
    unfold inHand
    rw [hpc]
  have hqueue : payloadSerials t.mailbox.taken t.mailbox.queue =
      payloadSerials w.mailbox.taken (w.mailbox.queue ++ [m]) := by rw [hmailbox]; rfl
  unfold held
  rw [hhand, hqueue, payloadSerials_append, taken_add_queue, List.append_assoc]

/-- A message with an object is put into the queue of a thread that has not ended. -/
theorem payloadsRight_postPayload (hw : w.PayloadsRight) (hm : m.hasPayload = true) :
    (w.postPayload m).PayloadsRight ↔ w.pc ≠ .ended := by
  have hheld : (w.postPayload m).held = w.held ++ [w.mailbox.sent.length] := by
    rw [held_post (t := w.postPayload m) (w := w) rfl rfl]
    simp only [payloadSerials, hm, if_true]
  have howns : (w.postPayload m).payloads.Owns (w.postPayload m).held := by
    rw [hheld]
    exact (hw.owns.gain w.mailbox.sent.length).perm (List.perm_append_singleton _ _).symm
  constructor
  · intro h hended
    have hnil := h.ended hended
    rw [hheld] at hnil
    exact List.append_ne_nil_of_right_ne_nil _ (List.cons_ne_nil _ _) hnil
  · exact fun hpc => ⟨howns, fun hended => absurd hended hpc⟩

/-- The queue is emptied, and its objects stay. -/
theorem owns_emptied_iff {l queued : List Nat} {h : Handles Nat} (howns : h.Owns (l ++ queued)) :
    h.Owns l ↔ queued = [] := by
  constructor
  · intro hl
    have hlen := (howns.opened.symm.trans hl.opened).length_eq
    rw [List.length_append] at hlen
    exact List.eq_nil_of_length_eq_zero (by omega)
  · intro hnil
    rw [hnil, List.append_nil] at howns
    exact howns

theorem payloadsRight_clear (hw : w.PayloadsRight) :
    w.clearCallbacks.PayloadsRight ↔ ∀ m ∈ w.mailbox.queue, m.hasPayload = false := by
  have hheld : w.clearCallbacks.held = w.inHand := List.append_nil _
  have hiff : w.payloads.Owns w.inHand ↔ _ := owns_emptied_iff hw.owns
  rw [← payloadSerials_eq_nil w.mailbox.taken, ← hiff]
  constructor
  · intro h
    rw [← hheld]
    exact h.owns
  · intro h
    refine ⟨by rw [hheld]; exact h, fun hended => ?_⟩
    rw [hheld]
    exact (List.append_eq_nil_iff.mp (hw.ended hended)).1

theorem hasPayload_eq_not_isExit (m : ThreadMsg) : m.hasPayload = !m.isExit := by
  unfold ThreadMsg.hasPayload ThreadMsg.isExit
  cases m.body <;> rfl

theorem payloadsRight_takeMessage (hw : w.PayloadsRight) (hstep : w.takeMessage = some t) :
    t.PayloadsRight := by
  unfold takeMessage at hstep
  split at hstep
  · rename_i hpc
    split at hstep
    · cases hstep
    · rename_i m rest h
      obtain rfl := Option.some.inj hstep
      have hheld : payloadSerials w.mailbox.taken [m] ++ payloadSerials (w.mailbox.taken + 1) rest =
          w.held := by
        unfold held inHand
        rw [hpc, h, List.nil_append]
        exact (payloadSerials_cons _ m rest).symm
      constructor
      · show w.payloads.Owns (payloadSerials w.mailbox.taken [m] ++ _)
        exact hheld ▸ hw.owns
      · exact nofun
  · cases hstep

/-- A message whose object is used and released. -/
theorem payloadsRight_handled (hw : w.PayloadsRight) (hpc : w.pc = .handling serial m)
    (hexit : m.isExit = false) (hnext : t.pc = .waiting) (hmailbox : t.mailbox = w.mailbox)
    (hpayloads : t.payloads = (w.payloads.access serial).release serial) : t.PayloadsRight := by
  have hheld : w.held = serial :: t.held := by
    unfold held inHand
    rw [hpc, hnext, hmailbox]
    simp only [payloadSerials, hasPayload_eq_not_isExit m, hexit, Bool.not_false, if_true,
      List.singleton_append, List.nil_append]
  have howns := hw.owns
  rw [hheld] at howns
  constructor
  · rw [hpayloads, howns.access List.mem_cons_self]
    exact howns.release
  · intro hended
    cases hnext.symm.trans hended

theorem payloadsRight_process_iff (hw : w.PayloadsRight) (hpc : w.pc = .handling serial m) :
    (w.process serial m now).PayloadsRight ↔
      (m.isExit = true → ∀ m' ∈ w.mailbox.queue, m'.hasPayload = false) := by
  cases hbody : m.body with
  | executeCallback data =>
    have hexit : m.isExit = false := by
      unfold ThreadMsg.isExit
      rw [hbody]
      rfl
    have hmailbox : (w.process serial m now).mailbox = w.mailbox := by
      unfold process execute
      rw [hbody]
      dsimp only
      split
      · split <;> rfl
      · rfl
    rw [hexit]
    refine iff_of_true (payloadsRight_handled hw hpc hexit ?_ hmailbox ?_) nofun
    · unfold process
      rw [hbody]
    · unfold process
      rw [hbody]
  | updateCallbacks data =>
    have hexit : m.isExit = false := by
      unfold ThreadMsg.isExit
      rw [hbody]
      rfl
    rw [hexit]
    refine iff_of_true (payloadsRight_handled hw hpc hexit ?_ ?_ ?_) nofun
    · unfold process
      rw [hbody]
    · unfold process
      rw [hbody]
    · unfold process
      rw [hbody]
  | exitThread =>
    have hexit : m.isExit = true := decide_eq_true hbody
    have hprocess : w.process serial m now = { w.clearCallbacks with pc := .ended } := by
      unfold process
      rw [hbody]
    have hheld : w.held = payloadSerials w.mailbox.taken w.mailbox.queue := by
      unfold held inHand
      rw [hpc]
      simp only [payloadSerials, hasPayload_eq_not_isExit m, hexit, Bool.not_true,
        Bool.false_eq_true, if_false, List.nil_append]
    have howns := hw.owns
    rw [hheld] at howns
    have hiff : w.payloads.Owns [] ↔ _ := owns_emptied_iff (l := []) howns
    rw [hprocess, hexit, ← payloadSerials_eq_nil w.mailbox.taken, ← hiff]
    exact ⟨fun h _ => h.owns, fun h => ⟨h rfl, fun _ => rfl⟩⟩

/-- One step leaves the objects right exactly if it releases what it takes from the queue. -/
theorem payloadsRight_step_iff (hw : w.PayloadsRight) (hstep : w.step op = some t) :
    t.PayloadsRight ↔ w.ReleasesAll op := by
  cases op with
  | addCallback data timestamp =>
    obtain rfl := Option.some.inj hstep
    exact payloadsRight_postPayload hw rfl
  | setCallbacks data timestamp =>
    obtain rfl := Option.some.inj hstep
    exact payloadsRight_postPayload hw rfl
  | clearCallbacks =>
    obtain rfl := Option.some.inj hstep
    exact payloadsRight_clear hw
  | exitThread timestamp =>
    simp only [step] at hstep
    split at hstep
    · cases hstep
    · obtain rfl := Option.some.inj hstep
      refine iff_of_true ?_ trivial
      unfold exitThread
      split
      · have hheld := held_post (w := w) (m := ⟨.exitThread, timestamp⟩)
          (t := { w with mailbox := w.mailbox.post ⟨.exitThread, timestamp⟩, exiting := true }) rfl rfl
        have hkept := hheld.trans (List.append_nil _)
        exact ⟨hkept ▸ hw.owns, fun hended => hkept.trans (hw.ended hended)⟩
      · exact hw
  | join =>
    simp only [step] at hstep
    split at hstep
    · obtain rfl := Option.some.inj hstep
      exact iff_of_true ⟨hw.owns, hw.ended⟩ trivial
    · cases hstep
  | takeMessage => exact iff_of_true (payloadsRight_takeMessage hw hstep) trivial
  | process now =>
    simp only [step] at hstep
    split at hstep
    · rename_i serial m hpc
      obtain rfl := Option.some.inj hstep
      unfold ReleasesAll
      rw [hpc]
      exact payloadsRight_process_iff hw hpc
    · cases hstep

/-! ## 4. Runs -/

theorem payloadsRight_created : created.PayloadsRight := ⟨Handles.owns_empty, nofun⟩

/-- In every interleaving each object is released once, by whoever takes its message from the queue
and not before, exactly if no queue with objects in it is emptied and nothing is sent to a thread
that has ended. -/
theorem payloadsRight_iff {ops : List WorkerOp} (run : Exec (guarded step) created ops w) :
    (∀ before u, before <+: ops → Exec (guarded step) created before u → u.PayloadsRight) ↔
      ExecWhere ReleasesAll (guarded step) created ops w :=
  forall_prefix_iff (fun _ _ _ hs hstep => payloadsRight_step_iff hs hstep) payloadsRight_created run

/-- Once the thread has ended, each object that was handed over has been released once. -/
theorem released_once_of_ended (hw : w.PayloadsRight) (hended : w.pc = .ended) :
    w.payloads.gained.Perm w.payloads.released := by
  have howns := hw.owns
  rw [hw.ended hended] at howns
  exact howns.sound.perm_released howns.opened_nil

/-- An update and a callback that are handled, and the end of the thread. -/
def releasingRun : List WorkerOp :=
  [.setCallbacks { newUserDataCb := some 2 } 0,
    .addCallback { cbType := .data, msgType := 16, data := 5, user := 7 } 1, .takeMessage, .process 2,
    .takeMessage, .process 3, .exitThread 4, .takeMessage, .process 5, .join]

theorem releasingRun_right : (releasingRun.foldlM step created).isSome = true ∧
    ∀ before u, before <+: releasingRun → Exec (guarded step) created before u → u.PayloadsRight :=
  ⟨rfl, (payloadsRight_iff (Exec.computed rfl)).mpr (ExecWhere.of_isSome (by decide))⟩

/-- The object of a callback that is cleared from the queue is lost. -/
theorem payload_leaked_by_clear :
    ¬∀ ops w, Exec (guarded step) created ops w → w.PayloadsRight := by
  intro hall
  have hright := hall [.addCallback { cbType := .notify, msgType := 4, user := 7 } 0,
    .clearCallbacks] _ (Exec.computed rfl)
  exact absurd hright.owns.opened_nil (List.cons_ne_nil _ _)

end CallbackWorker

end Universal7870.Camera
