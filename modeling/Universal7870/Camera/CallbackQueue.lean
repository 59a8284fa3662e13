import Universal7870.Camera.CallbackWorkerThread
import Universal7870.Lib.Run

/-!
# The order of callbacks, and the messages that must not be lost

One queue carries callbacks, updates of the pointers they are made with, and the message that ends
the thread.  Over all interleavings of the clients with the worker: the calls that are made follow
the queue and use the pointers queued last before them, and the thread ends when it is told to.
-/

namespace Universal7870.Camera

open Lib

namespace CallbackWorker

variable {w t : CallbackWorker} {op : WorkerOp} {serial : Nat} {m : ThreadMsg} {now : Int}

/-! ## 1. What the queue owes -/

/-- No update or exit message has left the queue without being handled; the calls were made in the
order of the queue, none twice, each for a callback message and with the pointers of the last update
queued before it. -/
structure QueueRight (w : CallbackWorker) : Prop where
  controlKept : ∀ m ∈ w.dropped, m.isControl = false
  inOrder : w.executed.Pairwise fun a b => a.serial < b.serial
  calls : ∀ e ∈ w.executed, ∃ data timestamp,
    w.mailbox.sent[e.serial]? = some ⟨.executeCallback data, timestamp⟩ ∧
      data.userCall (lastCallbacks (w.mailbox.sent.take e.serial)) = some e.call

/-- When the queue is emptied, by a client or by the worker on its way out, neither an update nor an
exit message is in it. -/
def SparesControl (w : CallbackWorker) : WorkerOp → Prop
  | .clearCallbacks => ∀ m ∈ w.mailbox.queue, m.isControl = false
  | .process _ =>
    match w.pc with
    | .handling _ m => m.isExit = true → ∀ m' ∈ w.mailbox.queue, m'.isControl = false
    | _ => True
  | _ => True

instance (w : CallbackWorker) (op : WorkerOp) : Decidable (w.SparesControl op) :=
  match op with
  | .clearCallbacks => inferInstanceAs (Decidable (∀ m ∈ w.mailbox.queue, m.isControl = false))
  | .process _ =>
    match hpc : w.pc with
    | .handling _ m =>
      decidable_of_iff (m.isExit = true → ∀ m' ∈ w.mailbox.queue, m'.isControl = false)
        (by unfold SparesControl; rw [hpc])
    | .waiting => isTrue (by unfold SparesControl; rw [hpc]; trivial)
    | .ended => isTrue (by unfold SparesControl; rw [hpc]; trivial)
  | .addCallback _ _ | .setCallbacks _ _ | .exitThread _ | .join | .takeMessage => isTrue trivial

def isWorkerStep : WorkerOp → Bool
  | .takeMessage | .process _ => true
  | _ => false

/-- How many steps of the worker it takes to get to the exit message and to handle it. -/
def stepsToExit (w : CallbackWorker) : Nat :=
  match w.pc with
  | .waiting => 2 * w.mailbox.queue.findIdx ThreadMsg.isExit + 2
  | .handling _ m =>
    if m.isExit then 1 else 2 * w.mailbox.queue.findIdx ThreadMsg.isExit + 3
  | .ended => 0

/-- While a call of `ExitThread` waits, the worker has a step to take or has ended, and then the
join returns. -/
def JoinComes (w : CallbackWorker) : Prop :=
  w.exiting = true →
    if w.pc = .ended then (w.step .join).isSome = true
    else (∃ op, isWorkerStep op = true ∧ (w.step op).isSome = true)

/-- All along a run: once `ExitThread` has been called the join comes, and the worker has ended when
it has taken as many steps as it is away from the exit message. -/
def ExitsEnd (start : CallbackWorker) (ops : List WorkerOp) : Prop :=
  ∀ before after u v, before ++ after <+: ops → Exec (guarded step) start before u →
    Exec (guarded step) u after v → u.exiting = true →
      u.JoinComes ∧ (u.stepsToExit ≤ after.countP isWorkerStep → v.pc = .ended)

/-! ## 2. Steps of the worker -/

theorem step_takeMessage (hstep : w.step .takeMessage = some t) :
    ∃ m rest, ∃ h : w.mailbox.queue = m :: rest, w.pc = .waiting ∧
      t = { w with pc := .handling w.mailbox.taken m, mailbox := w.mailbox.behind rest h } := by
  change w.takeMessage = some t at hstep
  unfold takeMessage at hstep
  split at hstep
  · rename_i hpc
    split at hstep
    · cases hstep
    · rename_i m rest h
      exact ⟨m, rest, h, hpc, (Option.some.inj hstep).symm⟩
  · cases hstep

theorem step_process (hstep : w.step (.process now) = some t) :
    ∃ serial m, w.pc = .handling serial m ∧ t = w.process serial m now := by
  simp only [step] at hstep
  split at hstep
  · rename_i serial m hpc
    exact ⟨serial, m, hpc, (Option.some.inj hstep).symm⟩
  · cases hstep

theorem step_exitThread {timestamp : Int} (hstep : w.step (.exitThread timestamp) = some t) :
    w.exiting = false ∧ t = w.exitThread timestamp := by
  simp only [step] at hstep
  split at hstep
  · cases hstep
  · rename_i hexiting
    exact ⟨Bool.eq_false_iff.mpr hexiting, (Option.some.inj hstep).symm⟩

theorem step_join (hstep : w.step .join = some t) :
    w.exiting = true ∧ w.pc = .ended ∧ t = { w with thread := false, exiting := false } := by
  simp only [step] at hstep
  split at hstep
  · rename_i h
    exact ⟨h.1, h.2, (Option.some.inj hstep).symm⟩
  · cases hstep

/-! ## 3. Pointers -/

theorem lastCallbacks_append (msgs : List ThreadMsg) (m : ThreadMsg) :
    lastCallbacks (msgs ++ [m]) = m.callbacksAfter (lastCallbacks msgs) := by
  unfold lastCallbacks
  rw [List.foldl_append]
  rfl

theorem callbacksAfter_of_not_control (h : m.isControl = false) (cbs : CallbackData) :
    m.callbacksAfter cbs = cbs := by
  unfold ThreadMsg.isControl at h
  unfold ThreadMsg.callbacksAfter
  split
  · rename_i data hbody
    rw [hbody] at h
    cases h
  · rfl

/-- Messages that are only callbacks leave the pointers. -/
theorem lastCallbacks_append_callbacks (msgs : List ThreadMsg) {more : List ThreadMsg}
    (h : ∀ m ∈ more, m.isControl = false) : lastCallbacks (msgs ++ more) = lastCallbacks msgs := by
  induction more generalizing msgs with
  | nil => rw [List.append_nil]
  | cons m more ih =>
    rw [List.append_cons, ih _ fun m' hm' => h m' (List.mem_cons_of_mem m hm'),
      lastCallbacks_append, callbacksAfter_of_not_control (h m List.mem_cons_self)]

theorem lastCallbacks_clear {b : Mailbox ThreadMsg} (h : ∀ m ∈ b.queue, m.isControl = false) :
    lastCallbacks (b.clear.sent.take b.clear.taken) = lastCallbacks (b.sent.take b.taken) := by
  show lastCallbacks (b.sent.take b.sent.length) = _
  rw [List.take_length, ← lastCallbacks_append_callbacks (b.sent.take b.taken) h,
    b.take_append_queue]

/-! ## 4. The invariant -/

/-- The number below which the numbers of the calls lie. -/
def frontier (w : CallbackWorker) : Nat :=
  match w.pc with
  | .handling serial _ => serial
  | _ => w.mailbox.taken

/-- The pointers are those behind the messages in front of the one that is next. -/
def PointersRight (w : CallbackWorker) : Prop :=
  match w.pc with
  | .waiting => w.callbacks = lastCallbacks (w.mailbox.sent.take w.mailbox.taken)
  | .handling serial m =>
    w.callbacks = lastCallbacks (w.mailbox.sent.take serial) ∧
      m.callbacksAfter w.callbacks = lastCallbacks (w.mailbox.sent.take w.mailbox.taken)
  | .ended => True

/-- An exit message is in the queue or in the worker's hand, or the worker has ended. -/
def Leaving (w : CallbackWorker) : Prop :=
  match w.pc with
  | .waiting => ∃ m ∈ w.mailbox.queue, m.isExit = true
  | .handling _ m => m.isExit = true ∨ ∃ m' ∈ w.mailbox.queue, m'.isExit = true
  | .ended => True

structure QueueInv (w : CallbackWorker) : Prop where
  right : w.QueueRight
  inHand : ∀ serial m, w.pc = .handling serial m →
    serial < w.mailbox.taken ∧ w.mailbox.sent[serial]? = some m
  below : ∀ e ∈ w.executed, e.serial < w.frontier
  pointers : w.PointersRight
  leaving : w.exiting = true → w.Leaving

theorem queueInv_created : created.QueueInv where
  right := ⟨nofun, .nil, nofun⟩
  inHand := nofun
  below := nofun
  pointers := rfl
  leaving := nofun

/-- More messages leave the past of the queue as it is. -/
theorem QueueRight.post (hright : w.QueueRight) (m : ThreadMsg)
    (hmailbox : t.mailbox = w.mailbox.post m) (hexecuted : t.executed = w.executed)
    (hdropped : t.dropped = w.dropped) : t.QueueRight := by
  constructor
  · rw [hdropped]
    exact hright.controlKept
  · rw [hexecuted]
    exact hright.inOrder
  · intro e he
    rw [hexecuted] at he
    obtain ⟨data, timestamp, hsent, hcall⟩ := hright.calls e he
    have hlt := Mailbox.lt_of_sent hsent
    refine ⟨data, timestamp, ?_, ?_⟩
    · rw [hmailbox, Mailbox.sent_post hlt]
      exact hsent
    · rw [hmailbox, Mailbox.take_post (Nat.le_of_lt hlt)]
      exact hcall

theorem QueueInv.post (hinv : w.QueueInv) (m : ThreadMsg) (hmailbox : t.mailbox = w.mailbox.post m)
    (hpc : t.pc = w.pc) (hcallbacks : t.callbacks = w.callbacks)
    (hexecuted : t.executed = w.executed) (hdropped : t.dropped = w.dropped)
    (hleaving : t.exiting = true → w.exiting = true ∨ m.isExit = true) : t.QueueInv := by
  have htaken : t.mailbox.taken = w.mailbox.taken := by rw [hmailbox]; rfl
  have hqueue : t.mailbox.queue = w.mailbox.queue ++ [m] := by rw [hmailbox]; rfl
  have htake : t.mailbox.sent.take t.mailbox.taken = w.mailbox.sent.take w.mailbox.taken := by
    rw [htaken, hmailbox, Mailbox.take_post w.mailbox.taken_le]
  have hstays : (∃ m' ∈ w.mailbox.queue, m'.isExit = true) → ∃ m' ∈ t.mailbox.queue, m'.isExit = true := by
    rintro ⟨m', hm', hexit⟩
    exact ⟨m', by rw [hqueue]; exact List.mem_append_left _ hm', hexit⟩
  constructor
  · exact hinv.right.post m hmailbox hexecuted hdropped
  · intro serial m' hhand
    obtain ⟨hlt, hsent⟩ := hinv.inHand serial m' (hpc ▸ hhand)
    refine ⟨htaken ▸ hlt, ?_⟩
    rw [hmailbox, Mailbox.sent_post (Mailbox.lt_of_sent hsent)]
    exact hsent
  · unfold frontier
    rw [hexecuted, hpc, htaken]
    exact hinv.below
  · have hpointers := hinv.pointers
    unfold PointersRight at hpointers ⊢
    rw [hpc, hcallbacks, htake]
    cases hwpc : w.pc with
    | waiting =>
      rw [hwpc] at hpointers
      exact hpointers
    | handling serial m' =>
      rw [hwpc] at hpointers
      have hle := Nat.le_of_lt (Mailbox.lt_of_sent (hinv.inHand serial m' hwpc).2)
      dsimp only
      rw [hmailbox, Mailbox.take_post hle]
      exact hpointers
    | ended => trivial
  · intro hexiting
    have hexit : w.Leaving ∨ m.isExit = true := (hleaving hexiting).imp_left hinv.leaving
    have hnew : m.isExit = true → ∃ m' ∈ t.mailbox.queue, m'.isExit = true := fun h =>
      ⟨m, by rw [hqueue]; exact List.mem_append_right _ (List.mem_singleton_self m), h⟩
    unfold Leaving at hexit ⊢
    rw [hpc]
    cases hwpc : w.pc with
    | waiting =>
      rw [hwpc] at hexit
      exact hexit.elim hstays hnew
    | handling serial m' =>
      rw [hwpc] at hexit
      rcases hexit with (hhand | hqueued) | hexit
      · exact .inl hhand
      · exact .inr (hstays hqueued)
      · exact .inr (hnew hexit)
    | ended => trivial

theorem QueueInv.takeMessage (hinv : w.QueueInv) (hstep : w.step .takeMessage = some t) :
    t.QueueInv := by
  obtain ⟨m, rest, h, hpc, rfl⟩ := step_takeMessage hstep
  have hpointers := hinv.pointers
  have hbelow := hinv.below
  unfold PointersRight at hpointers
  unfold frontier at hbelow
  rw [hpc] at hpointers hbelow
  constructor
  · exact ⟨hinv.right.controlKept, hinv.right.inOrder, hinv.right.calls⟩
  · intro serial m' hhand
    obtain ⟨rfl, rfl⟩ := WorkerPc.handling.inj hhand
    exact ⟨Nat.lt_succ_self _, Mailbox.sent_taken h⟩
  · exact hbelow
  · refine ⟨hpointers, ?_⟩
    show _ = lastCallbacks (w.mailbox.sent.take (w.mailbox.taken + 1))
    rw [Mailbox.take_succ_taken h, lastCallbacks_append, ← hpointers]
  · intro hexiting
    have hleaving := hinv.leaving hexiting
    unfold Leaving at hleaving
    rw [hpc] at hleaving
    obtain ⟨m', hm', hexit⟩ := hleaving
    rw [h] at hm'
    rcases List.mem_cons.mp hm' with rfl | hrest
    · exact .inl hexit
    · exact .inr ⟨m', hrest, hexit⟩

/-- The queue is emptied. -/
theorem QueueRight.emptied_iff (hright : w.QueueRight) (hmailbox : t.mailbox.sent = w.mailbox.sent)
    (hexecuted : t.executed = w.executed) (hdropped : t.dropped = w.dropped ++ w.mailbox.queue) :
    t.QueueRight ↔ ∀ m ∈ w.mailbox.queue, m.isControl = false := by
  constructor
  · intro h m hm
    exact h.controlKept m (by rw [hdropped]; exact List.mem_append_right _ hm)
  · intro h
    constructor
    · intro m hm
      rw [hdropped] at hm
      rcases List.mem_append.mp hm with hold | hqueued
      · exact hright.controlKept m hold
      · exact h m hqueued
    · rw [hexecuted]
      exact hright.inOrder
    · rw [hexecuted, hmailbox]
      exact hright.calls

theorem isControl_of_isExit (h : m.isExit = true) : m.isControl = true := by
  have hbody : m.body = .exitThread := of_decide_eq_true h
  unfold ThreadMsg.isControl
  rw [hbody]

theorem not_exit_of_spared {msgs : List ThreadMsg} (h : ∀ m ∈ msgs, m.isControl = false) :
    ¬∃ m ∈ msgs, m.isExit = true := by
  rintro ⟨m, hm, hexit⟩
  have hcontrol := isControl_of_isExit hexit
  rw [h m hm] at hcontrol
  cases hcontrol

theorem QueueInv.clear (hinv : w.QueueInv) (hspared : ∀ m ∈ w.mailbox.queue, m.isControl = false) :
    w.clearCallbacks.QueueInv := by
  have hlast := lastCallbacks_clear hspared
  have hright : w.clearCallbacks.QueueRight ↔ _ := hinv.right.emptied_iff rfl rfl rfl
  constructor
  · exact hright.mpr hspared
  · intro serial m hhand
    obtain ⟨-, hsent⟩ := hinv.inHand serial m hhand
    exact ⟨Mailbox.lt_of_sent hsent, hsent⟩
  · intro e he
    have hold := hinv.below e he
    unfold frontier at hold ⊢
    show e.serial < match w.pc with
      | .handling serial _ => serial
      | _ => w.mailbox.sent.length
    cases hpc : w.pc with
    | waiting =>
      rw [hpc] at hold
      exact Nat.lt_of_lt_of_le hold w.mailbox.taken_le
    | handling serial m =>
      rw [hpc] at hold
      exact hold
    | ended =>
      rw [hpc] at hold
      exact Nat.lt_of_lt_of_le hold w.mailbox.taken_le
  · have hpointers := hinv.pointers
    unfold PointersRight at hpointers ⊢
    show match w.pc with
      | .waiting => w.callbacks = lastCallbacks (w.mailbox.clear.sent.take w.mailbox.clear.taken)
      | .handling serial m => w.callbacks = lastCallbacks (w.mailbox.sent.take serial) ∧
        m.callbacksAfter w.callbacks =
          lastCallbacks (w.mailbox.clear.sent.take w.mailbox.clear.taken)
      | .ended => True
    rw [hlast]
    exact hpointers
  · intro hexiting
    have hleaving := hinv.leaving hexiting
    unfold Leaving at hleaving ⊢
    show match w.pc with
      | .waiting => ∃ m ∈ ([] : List ThreadMsg), m.isExit = true
      | .handling _ m => m.isExit = true ∨ ∃ m' ∈ ([] : List ThreadMsg), m'.isExit = true
      | .ended => True
    cases hpc : w.pc with
    | waiting =>
      rw [hpc] at hleaving
      exact absurd hleaving (not_exit_of_spared hspared)
    | handling serial m =>
      rw [hpc] at hleaving
      exact .inl (hleaving.resolve_right (not_exit_of_spared hspared))
    | ended => trivial

/-- Going on behind a message that is not the exit. -/
theorem QueueInv.handled (hinv : w.QueueInv) (hpc : w.pc = .handling serial m)
    (hexit : m.isExit = false) (hmailbox : t.mailbox = w.mailbox) (hnext : t.pc = .waiting)
    (hcallbacks : t.callbacks = m.callbacksAfter w.callbacks) (hexiting : t.exiting = w.exiting)
    (hright : t.QueueRight) (hbelow : ∀ e ∈ t.executed, e.serial ≤ serial) : t.QueueInv := by
  constructor
  · exact hright
  · intro s m' hhand
    cases hnext.symm.trans hhand
  · intro e he
    unfold frontier
    rw [hnext, hmailbox]
    exact Nat.lt_of_le_of_lt (hbelow e he) (hinv.inHand serial m hpc).1
  · have hpointers := hinv.pointers
    unfold PointersRight at hpointers ⊢
    rw [hpc] at hpointers
    rw [hnext, hmailbox, hcallbacks]
    exact hpointers.2
  · intro hwaits
    have hleaving := hinv.leaving (hexiting ▸ hwaits)
    unfold Leaving at hleaving ⊢
    rw [hpc] at hleaving
    rw [hnext, hmailbox]
    exact Or.resolve_left hleaving (Bool.eq_false_iff.mp hexit)

theorem below_of_handling (hinv : w.QueueInv) (hpc : w.pc = .handling serial m) :
    ∀ e ∈ w.executed, e.serial < serial := by
  have hbelow := hinv.below
  unfold frontier at hbelow
  rw [hpc] at hbelow
  exact hbelow

/-- A callback is made behind all others, and with the pointers queued last before it. -/
theorem executed_execute (w : CallbackWorker) (serial : Nat) (m : ThreadMsg) (data : WorkerMessage)
    (now : Int) :
    (w.execute serial m data now).executed = w.executed ∨
      ∃ call, data.userCall w.callbacks = some call ∧
        (w.execute serial m data now).executed = w.executed ++ [⟨serial, call⟩] := by
  unfold execute
  split
  · split
    · rename_i call hcall
      exact .inr ⟨call, hcall, rfl⟩
    · exact .inl rfl
  · exact .inl rfl

theorem execute_frame (w : CallbackWorker) (serial : Nat) (m : ThreadMsg) (data : WorkerMessage)
    (now : Int) :
    (w.execute serial m data now).mailbox = w.mailbox ∧
      (w.execute serial m data now).callbacks = w.callbacks ∧
      (w.execute serial m data now).exiting = w.exiting ∧
      (w.execute serial m data now).dropped = w.dropped := by
  unfold execute
  split
  · split <;> exact ⟨rfl, rfl, rfl, rfl⟩
  · exact ⟨rfl, rfl, rfl, rfl⟩

theorem QueueInv.execute (hinv : w.QueueInv) (hpc : w.pc = .handling serial m)
    {data : WorkerMessage} (hbody : m.body = .executeCallback data) (now : Int)
    (ht : t = { w.execute serial m data now with
      pc := .waiting, payloads := (w.payloads.access serial).release serial }) : t.QueueInv := by
  obtain ⟨hmailbox, hcallbacks, hexiting, hdropped⟩ := execute_frame w serial m data now
  obtain ⟨-, hsent⟩ := hinv.inHand serial m hpc
  have hbelow := below_of_handling hinv hpc
  have hold : w.callbacks = lastCallbacks (w.mailbox.sent.take serial) := by
    have hpointers := hinv.pointers
    unfold PointersRight at hpointers
    rw [hpc] at hpointers
    exact hpointers.1
  have hmailbox' : t.mailbox = w.mailbox := by rw [ht]; exact hmailbox
  have hexecuted : t.executed = (w.execute serial m data now).executed := by rw [ht]
  have hexit : m.isExit = false := by
    unfold ThreadMsg.isExit
    rw [hbody]
    rfl
  have hcalls : ∀ e ∈ w.executed, ∃ data timestamp,
      t.mailbox.sent[e.serial]? = some ⟨.executeCallback data, timestamp⟩ ∧
        data.userCall (lastCallbacks (t.mailbox.sent.take e.serial)) = some e.call := by
    rw [hmailbox']
    exact hinv.right.calls
  refine hinv.handled hpc hexit hmailbox' (by rw [ht]) ?_ (by rw [ht]; exact hexiting) ?_ ?_
  · rw [ht, show m.callbacksAfter w.callbacks = w.callbacks by
      unfold ThreadMsg.callbacksAfter; rw [hbody]]
    exact hcallbacks
  · have hkept : ∀ m ∈ t.dropped, m.isControl = false := by
      rw [ht]
      show ∀ m ∈ (w.execute serial _ data now).dropped, m.isControl = false
      rw [hdropped]
      exact hinv.right.controlKept
    rcases executed_execute w serial m data now with hsame | ⟨call, hcall, hnew⟩
    · refine ⟨hkept, ?_, ?_⟩
      · rw [hexecuted, hsame]
        exact hinv.right.inOrder
      · rw [hexecuted, hsame]
        exact hcalls
    · refine ⟨hkept, ?_, ?_⟩
      · rw [hexecuted, hnew, List.pairwise_append]
        refine ⟨hinv.right.inOrder, List.pairwise_singleton .., fun a ha b hb => ?_⟩
        rw [List.mem_singleton.mp hb]
        exact hbelow a ha
      · rw [hexecuted, hnew]
        intro e he
        rcases List.mem_append.mp he with hpast | hlast
        · exact hcalls e hpast
        · obtain rfl := List.mem_singleton.mp hlast
          refine ⟨data, m.callerTS, ?_, ?_⟩
          · rw [hmailbox', hsent, ← hbody]
          · rw [hmailbox', ← hold]
            exact hcall
  · rw [hexecuted]
    intro e he
    rcases executed_execute w serial m data now with hsame | ⟨call, -, hnew⟩
    · rw [hsame] at he
      exact Nat.le_of_lt (hbelow e he)
    · rw [hnew] at he
      rcases List.mem_append.mp he with hpast | hlast
      · exact Nat.le_of_lt (hbelow e hpast)
      · obtain rfl := List.mem_singleton.mp hlast
        exact Nat.le_refl _

theorem QueueInv.update (hinv : w.QueueInv) (hpc : w.pc = .handling serial m)
    {data : CallbackData} (hbody : m.body = .updateCallbacks data)
    (ht : t = { w with
      pc := .waiting, callbacks := data
      payloads := (w.payloads.access serial).release serial }) : t.QueueInv := by
  have hexit : m.isExit = false := by
    unfold ThreadMsg.isExit
    rw [hbody]
    rfl
  have hafter : m.callbacksAfter w.callbacks = data := by
    unfold ThreadMsg.callbacksAfter
    rw [hbody]
  subst ht
  refine hinv.handled hpc hexit rfl rfl hafter.symm rfl ?_ fun e he =>
    Nat.le_of_lt (below_of_handling hinv hpc e he)
  exact ⟨hinv.right.controlKept, hinv.right.inOrder, hinv.right.calls⟩

/-- Handling a message keeps the invariant, but for an exit message with others of its kind or
updates behind it. -/
theorem queueInv_process (hinv : w.QueueInv) (hstep : w.step (.process now) = some t) :
    (t.QueueRight ↔ w.SparesControl (.process now)) ∧ (t.QueueRight → t.QueueInv) := by
  obtain ⟨serial, m, hpc, rfl⟩ := step_process hstep
  have hspares : w.SparesControl (.process now) ↔
      (m.isExit = true → ∀ m' ∈ w.mailbox.queue, m'.isControl = false) := by
    unfold SparesControl
    rw [hpc]
  rw [hspares]
  cases hbody : m.body with
  | executeCallback data =>
    have hnot : m.isExit = false := by
      unfold ThreadMsg.isExit
      rw [hbody]
      rfl
    have hkept : (w.process serial m now).QueueInv := by
      refine hinv.execute hpc hbody now ?_
      unfold process
      rw [hbody]
    rw [hnot]
    exact ⟨iff_of_true hkept.right nofun, fun _ => hkept⟩
  | updateCallbacks data =>
    have hnot : m.isExit = false := by
      unfold ThreadMsg.isExit
      rw [hbody]
      rfl
    have hkept : (w.process serial m now).QueueInv := by
      refine hinv.update hpc hbody ?_
      unfold process
      rw [hbody]
    rw [hnot]
    exact ⟨iff_of_true hkept.right nofun, fun _ => hkept⟩
  | exitThread =>
    have hexit : m.isExit = true := decide_eq_true hbody
    have hprocess : w.process serial m now = { w.clearCallbacks with pc := .ended } := by
      unfold process
      rw [hbody]
    rw [hprocess, hexit]
    have hright : { w.clearCallbacks with pc := .ended }.QueueRight ↔ _ :=
      hinv.right.emptied_iff rfl rfl rfl
    refine ⟨hright.trans ⟨fun h _ => h, fun h => h rfl⟩, fun h => ⟨h, nofun, ?_, trivial, fun _ => trivial⟩⟩
    intro e he
    show e.serial < w.mailbox.sent.length
    have hlt := below_of_handling hinv hpc e he
    exact Nat.lt_trans hlt (Mailbox.lt_of_sent (hinv.inHand serial m hpc).2)

/-- One step leaves the queue right exactly if it spares the control messages. -/
theorem queueInv_step (hinv : w.QueueInv) (hstep : w.step op = some t) :
    (t.QueueRight ↔ w.SparesControl op) ∧ (t.QueueRight → t.QueueInv) := by
  have htrue : t.QueueInv → w.SparesControl op →
      (t.QueueRight ↔ w.SparesControl op) ∧ (t.QueueRight → t.QueueInv) :=
    fun hkept hspares => ⟨iff_of_true hkept.right hspares, fun _ => hkept⟩
  cases op with
  | addCallback data timestamp =>
    obtain rfl := Option.some.inj hstep
    exact htrue (hinv.post _ rfl rfl rfl rfl rfl .inl) trivial
  | setCallbacks data timestamp =>
    obtain rfl := Option.some.inj hstep
    exact htrue (hinv.post _ rfl rfl rfl rfl rfl .inl) trivial
  | clearCallbacks =>
    obtain rfl := Option.some.inj hstep
    have hright : w.clearCallbacks.QueueRight ↔ _ := hinv.right.emptied_iff rfl rfl rfl
    exact ⟨hright, fun h => hinv.clear (hright.mp h)⟩
  | exitThread timestamp =>
    obtain ⟨-, rfl⟩ := step_exitThread hstep
    refine htrue ?_ trivial
    unfold exitThread
    split
    · exact hinv.post _ rfl rfl rfl rfl rfl fun _ => .inr rfl
    · exact hinv
  | join =>
    obtain ⟨-, hpc, rfl⟩ := step_join hstep
    refine htrue ?_ trivial
    exact ⟨⟨hinv.right.controlKept, hinv.right.inOrder, hinv.right.calls⟩, hinv.inHand, hinv.below,
      hinv.pointers, nofun⟩
  | takeMessage => exact htrue (hinv.takeMessage hstep) trivial
  | process now => exact queueInv_process hinv hstep

/-! ## 5. The way to the exit -/

theorem findIdx_append_of_mem {msgs : List ThreadMsg} (h : ∃ m ∈ msgs, m.isExit = true)
    (more : List ThreadMsg) :
    (msgs ++ more).findIdx ThreadMsg.isExit = msgs.findIdx ThreadMsg.isExit := by
  rw [List.findIdx_append, if_pos (List.findIdx_lt_length.mpr h)]

/-- More messages behind the exit message leave the way to it as it is. -/
theorem stepsToExit_post (hleaving : w.Leaving) (hpc : t.pc = w.pc)
    (hqueue : t.mailbox.queue = w.mailbox.queue ++ [m]) :
    t.Leaving ∧ t.stepsToExit ≤ w.stepsToExit := by
  have hstays : (∃ m' ∈ w.mailbox.queue, m'.isExit = true) →
      ∃ m' ∈ t.mailbox.queue, m'.isExit = true := by
    rintro ⟨m', hm', hexit⟩
    exact ⟨m', by rw [hqueue]; exact List.mem_append_left _ hm', hexit⟩
  unfold Leaving at hleaving ⊢
  unfold stepsToExit
  rw [hpc]
  cases hwpc : w.pc with
  | waiting =>
    rw [hwpc] at hleaving
    refine ⟨hstays hleaving, ?_⟩
    dsimp only
    exact Nat.le_of_eq (by rw [hqueue, findIdx_append_of_mem hleaving])
  | handling serial m' =>
    rw [hwpc] at hleaving
    refine ⟨Or.imp_right hstays hleaving, ?_⟩
    dsimp only
    by_cases hexit : m'.isExit = true
    · exact Nat.le_of_eq (by rw [if_pos hexit, if_pos hexit])
    · have hqueued := Or.resolve_left hleaving hexit
      exact Nat.le_of_eq (by rw [if_neg hexit, if_neg hexit, hqueue, findIdx_append_of_mem hqueued])
  | ended => exact ⟨trivial, Nat.le_refl _⟩

theorem stepsToExit_takeMessage (hleaving : w.Leaving) (hstep : w.step .takeMessage = some t) :
    t.Leaving ∧ t.stepsToExit + 1 ≤ w.stepsToExit := by
  obtain ⟨m, rest, h, hpc, rfl⟩ := step_takeMessage hstep
  unfold Leaving at hleaving ⊢
  unfold stepsToExit
  rw [hpc] at hleaving ⊢
  dsimp only
  rw [h] at hleaving ⊢
  rw [List.findIdx_cons]
  show (m.isExit = true ∨ ∃ m' ∈ rest, m'.isExit = true) ∧
    (if m.isExit = true then 1 else 2 * rest.findIdx ThreadMsg.isExit + 3) + 1 ≤ _
  cases hexit : m.isExit with
  | true => exact ⟨.inl rfl, Nat.le_refl 2⟩
  | false =>
    refine ⟨.inr ?_, ?_⟩
    · obtain ⟨m', hm', hexit'⟩ := hleaving
      rcases List.mem_cons.mp hm' with rfl | hrest
      · rw [hexit] at hexit'
        cases hexit'
      · exact ⟨m', hrest, hexit'⟩
    · rw [if_neg Bool.false_ne_true, cond_false]
      omega

theorem process_pc (w : CallbackWorker) (serial : Nat) (m : ThreadMsg) (now : Int) :
    (w.process serial m now).pc = if m.isExit then .ended else .waiting := by
  unfold process ThreadMsg.isExit
  cases m.body <;> rfl

theorem process_queue (w : CallbackWorker) (serial : Nat) {m : ThreadMsg} (now : Int)
    (hexit : m.isExit = false) : (w.process serial m now).mailbox = w.mailbox := by
  unfold process
  cases hbody : m.body with
  | executeCallback data => exact (execute_frame w serial m data now).1
  | updateCallbacks data => rfl
  | exitThread =>
    rw [ThreadMsg.isExit, hbody] at hexit
    cases hexit

theorem stepsToExit_process (hleaving : w.Leaving) (hstep : w.step (.process now) = some t) :
    t.Leaving ∧ t.stepsToExit + 1 ≤ w.stepsToExit := by
  obtain ⟨serial, m, hpc, rfl⟩ := step_process hstep
  have hnext := process_pc w serial m now
  unfold Leaving at hleaving ⊢
  unfold stepsToExit
  rw [hpc] at hleaving ⊢
  rw [hnext]
  dsimp only
  cases hexit : m.isExit with
  | true => exact ⟨trivial, Nat.le_refl 1⟩
  | false =>
    rw [process_queue w serial now hexit, if_neg Bool.false_ne_true, if_neg Bool.false_ne_true]
    exact ⟨Or.resolve_left hleaving (Bool.eq_false_iff.mp hexit), Nat.le_refl _⟩

/-- As long as the control messages are spared, no step makes the way to the exit longer, and each
step of the worker makes it shorter. -/
theorem stepsToExit_step (hleaving : w.Leaving) (hspares : w.SparesControl op)
    (hstep : w.step op = some t) :
    t.Leaving ∧ t.stepsToExit + (if isWorkerStep op then 1 else 0) ≤ w.stepsToExit := by
  cases op with
  | addCallback data timestamp =>
    obtain rfl := Option.some.inj hstep
    exact stepsToExit_post hleaving rfl rfl
  | setCallbacks data timestamp =>
    obtain rfl := Option.some.inj hstep
    exact stepsToExit_post hleaving rfl rfl
  | clearCallbacks =>
    obtain rfl := Option.some.inj hstep
    have hspared : ∀ m ∈ w.mailbox.queue, m.isControl = false := hspares
    unfold Leaving at hleaving ⊢
    unfold stepsToExit clearCallbacks
    dsimp only
    cases hpc : w.pc with
    | waiting =>
      rw [hpc] at hleaving
      exact absurd hleaving (not_exit_of_spared hspared)
    | handling serial m =>
      rw [hpc] at hleaving
      have hexit := Or.resolve_right hleaving (not_exit_of_spared hspared)
      dsimp only
      rw [if_pos hexit, if_pos hexit]
      exact ⟨.inl hexit, Nat.le_refl 1⟩
    | ended => exact ⟨trivial, Nat.le_refl 0⟩
  | exitThread timestamp =>
    obtain ⟨-, rfl⟩ := step_exitThread hstep
    unfold exitThread
    split
    · exact stepsToExit_post hleaving rfl rfl
    · exact ⟨hleaving, Nat.le_refl _⟩
  | join =>
    obtain ⟨-, hpc, rfl⟩ := step_join hstep
    exact ⟨hleaving, Nat.le_refl _⟩
  | takeMessage => exact stepsToExit_takeMessage hleaving hstep
  | process now => exact stepsToExit_process hleaving hstep

theorem stepsToExit_run {ops : List WorkerOp} (hleaving : w.Leaving)
    (run : ExecWhere SparesControl (guarded step) w ops t) :
    t.Leaving ∧ t.stepsToExit + ops.countP isWorkerStep ≤ w.stepsToExit := by
  induction run with
  | nil => exact ⟨hleaving, Nat.le_refl _⟩
  | @cons w u t op ops hstep _ ih =>
    obtain ⟨hnext, hle⟩ := stepsToExit_step hleaving hstep.1 hstep.2
    obtain ⟨hend, hle'⟩ := ih hnext
    rw [List.countP_cons]
    exact ⟨hend, by omega⟩

theorem ended_of_stepsToExit (h : w.stepsToExit = 0) : w.pc = .ended := by
  unfold stepsToExit at h
  split at h
  · omega
  · split at h
    · omega
    · omega
  · assumption

/-- While the exit message is on its way, the worker has a step to take. -/
theorem joinComes_of_leaving (hleaving : w.exiting = true → w.Leaving) : w.JoinComes := by
  intro hexiting
  have hway := hleaving hexiting
  unfold Leaving at hway
  cases hpc : w.pc with
  | waiting =>
    rw [hpc] at hway
    rw [if_neg nofun]
    refine ⟨.takeMessage, rfl, ?_⟩
    obtain ⟨m, hm, -⟩ := hway
    show w.takeMessage.isSome = true
    unfold takeMessage
    rw [hpc]
    dsimp only
    split
    · rename_i hnil
      rw [hnil] at hm
      cases hm
    · rfl
  | handling serial m =>
    rw [if_neg nofun]
    refine ⟨.process 0, rfl, ?_⟩
    simp only [step, hpc, Option.isSome_some]
  | ended =>
    rw [if_pos rfl]
    simp only [step, hexiting, hpc, and_self, if_true, Option.isSome_some]

/-! ## 6. Runs -/

theorem queueInv_run {ops : List WorkerOp}
    (run : ExecWhere SparesControl (guarded step) created ops w) : w.QueueInv := by
  have hpreserved : ∀ (s : CallbackWorker) a u, s.QueueInv → s.SparesControl a →
      guarded step s a u → u.QueueInv := fun s a u hs hok hu =>
    (queueInv_step hs hu).2 ((queueInv_step hs hu).1.mpr hok)
  exact ExecWhere.invariant hpreserved run queueInv_created

/-- In every interleaving of the clients with the worker the queue is right in every state, and
every exit comes to its end, exactly if no step empties the queue of control messages. -/
theorem queueRight_iff {ops : List WorkerOp} (run : Exec (guarded step) created ops w) :
    (∀ before u, before <+: ops → Exec (guarded step) created before u → u.QueueRight) ∧
        ExitsEnd created ops ↔
      ExecWhere SparesControl (guarded step) created ops w := by
  have hiff := forall_prefix_iff_of (fun _ _ _ hs hstep => queueInv_step hs hstep)
    (fun _ hs => hs.right) queueInv_created run
  constructor
  · exact fun h => hiff.mp h.1
  · intro hspares
    refine ⟨hiff.mpr hspares, fun before after u v hinitial hbefore hafter hexiting => ?_⟩
    have hboth := hspares.of_prefix hinitial (hbefore.append hafter)
    have hinv := queueInv_run (hspares.of_prefix
      ((List.prefix_append before after).trans hinitial) hbefore)
    obtain ⟨-, hle⟩ := stepsToExit_run (hinv.leaving hexiting) (hboth.behind hbefore)
    exact ⟨joinComes_of_leaving hinv.leaving, fun hcount => ended_of_stepsToExit (by omega)⟩

/-- Pointers, a callback made with them, and the end of the thread. -/
def orderlyRun : List WorkerOp :=
  [.setCallbacks { newUserNotifyCb := some 1 } 0,
    .addCallback { cbType := .notify, msgType := 4, user := 7 } 1, .takeMessage, .process 2,
    .takeMessage, .process 3, .clearCallbacks, .exitThread 4, .takeMessage, .process 5, .join]

theorem orderlyRun_right :
    (∀ before u, before <+: orderlyRun → Exec (guarded step) created before u → u.QueueRight) ∧
      ExitsEnd created orderlyRun :=
  (queueRight_iff (Exec.computed rfl)).mpr (ExecWhere.of_isSome (by decide))

/-- New pointers and the message for the exit are both lost to a call of `ClearCallbacks`. -/
theorem control_lost_to_clear :
    ¬(∀ ops w, Exec (guarded step) created ops w → w.QueueRight) ∧
      ¬∀ ops w, Exec (guarded step) created ops w → w.JoinComes := by
  constructor
  · intro hall
    have hright := hall [.setCallbacks { newUserNotifyCb := some 1 } 0, .clearCallbacks] _
      (Exec.computed rfl)
    have hkept := hright.controlKept ⟨.updateCallbacks { newUserNotifyCb := some 1 }, 0⟩
      List.mem_cons_self
    cases hkept
  · intro hall
    have hjoin := hall [.exitThread 0, .clearCallbacks] _ (Exec.computed rfl) rfl
    rw [if_neg (by decide)] at hjoin
    obtain ⟨op, hworker, henabled⟩ := hjoin
    cases op with
    | takeMessage => cases henabled
    | process now => cases henabled
    | _ => cases hworker

end CallbackWorker

end Universal7870.Camera
