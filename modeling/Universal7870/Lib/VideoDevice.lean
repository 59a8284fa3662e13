import Mathlib.Logic.Function.Basic

/-!
# A memory-to-memory video device

The queues of a streaming video device as its client sees them.  A request is granted or refused,
and only a granted request changes a queue.  The log keeps each request with the queues as they
were when it was made, newest first.
-/

namespace Universal7870.Lib

variable {π μ : Type*} [DecidableEq π]

/-- The memory type of the buffers a queue holds, and whether it streams. -/
structure VideoQueue (μ : Type*) where
  held : Option μ
  streaming : Bool
  deriving DecidableEq, Repr

inductive VideoRequest (μ : Type*)
  | setFormat
  | request (memory : μ)
  | release
  | streamOn
  | streamOff
  | enqueue (memory : μ)
  deriving DecidableEq, Repr

def VideoRequest.enqueues : VideoRequest μ → Bool
  | .enqueue _ => true
  | _ => false

/-- What a granted request does to its queue.  Releasing the buffers stops the queue. -/
def VideoQueue.grant (q : VideoQueue μ) : VideoRequest μ → VideoQueue μ
  | .setFormat => q
  | .request memory => { q with held := some memory }
  | .release => ⟨none, false⟩
  | .streamOn => { q with streaming := true }
  | .streamOff => { q with streaming := false }
  | .enqueue _ => q

/-- A queue that holds no buffers and does not stream. -/
def VideoQueue.idle : VideoQueue μ := ⟨none, false⟩

/-- A queue that holds buffers of a memory type and streams. -/
def VideoQueue.Serves (q : VideoQueue μ) (memory : μ) : Prop :=
  q.held = some memory ∧ q.streaming = true

instance [DecidableEq μ] (q : VideoQueue μ) (memory : μ) : Decidable (q.Serves memory) :=
  inferInstanceAs (Decidable (_ ∧ _))

structure VideoDevice (π μ : Type*) where
  queue : π → VideoQueue μ
  log : List ((π → VideoQueue μ) × π × VideoRequest μ)

/-- The protocol: a buffer is queued while its queue holds buffers of its memory type and every
queue streams, buffers are requested while the queue holds none, and a format is set while no queue
holds any. -/
def VideoRequest.Allowed (queue : π → VideoQueue μ) (p : π) : VideoRequest μ → Prop
  | .setFormat => ∀ p', (queue p').held = none
  | .request _ => (queue p).held = none
  | .enqueue memory => (queue p).held = some memory ∧ ∀ p', (queue p').streaming = true
  | .release | .streamOn | .streamOff => True

namespace VideoDevice

def ask (d : VideoDevice π μ) (p : π) (r : VideoRequest μ) (granted : Bool) : VideoDevice π μ where
  queue := if granted then Function.update d.queue p ((d.queue p).grant r) else d.queue
  log := (d.queue, p, r) :: d.log

@[simp] theorem ask_refused (d : VideoDevice π μ) (p : π) (r : VideoRequest μ) :
    (d.ask p r false).queue = d.queue := rfl

@[simp] theorem ask_granted (d : VideoDevice π μ) (p : π) (r : VideoRequest μ) :
    (d.ask p r true).queue p = (d.queue p).grant r := Function.update_self ..

@[simp] theorem ask_log (d : VideoDevice π μ) (p : π) (r : VideoRequest μ) (granted : Bool) :
    (d.ask p r granted).log = (d.queue, p, r) :: d.log := rfl

theorem ask_queue (d : VideoDevice π μ) (p p' : π) (r : VideoRequest μ) (granted : Bool) :
    (d.ask p r granted).queue p' =
      if p' = p ∧ granted = true then (d.queue p).grant r else d.queue p' := by
  by_cases hp : p' = p
  · subst hp
    cases granted <;> simp
  · cases granted <;> simp [ask, hp]

/-- A request leaves the other queues alone. -/
theorem ask_of_ne {d : VideoDevice π μ} {p p' : π} (hne : p' ≠ p) (r : VideoRequest μ)
    (granted : Bool) : (d.ask p r granted).queue p' = d.queue p' := by
  cases granted with
  | false => rfl
  | true => exact Function.update_of_ne hne _ _

/-- Every request was made when the protocol allows it. -/
def Proper (d : VideoDevice π μ) : Prop := ∀ e ∈ d.log, e.2.2.Allowed e.1 e.2.1

theorem Proper.ask {d : VideoDevice π μ} (h : d.Proper) (p : π) (r : VideoRequest μ)
    (hr : r.Allowed d.queue p) (granted : Bool) : (d.ask p r granted).Proper := by
  intro e he
  rcases List.mem_cons.mp he with rfl | hold
  · exact hr
  · exact h e hold

/-- No buffer was queued on a queue without buffers of its memory type, or on a stopped one. -/
def QueuedServed (d : VideoDevice π μ) : Prop :=
  ∀ e ∈ d.log, ∀ memory, e.2.2 = .enqueue memory → (e.1 e.2.1).Serves memory

theorem QueuedServed.ask {d : VideoDevice π μ} (h : d.QueuedServed) {p : π} {r : VideoRequest μ}
    (hr : ∀ memory, r = .enqueue memory → (d.queue p).Serves memory) (granted : Bool) :
    (d.ask p r granted).QueuedServed := by
  intro e he
  rcases List.mem_cons.mp he with rfl | hold
  · exact hr
  · exact h e hold

/-- A request that queues no buffer. -/
theorem QueuedServed.ask_other {d : VideoDevice π μ} (h : d.QueuedServed) (p : π)
    (r : VideoRequest μ) (hr : r.enqueues = false) (granted : Bool) :
    (d.ask p r granted).QueuedServed := by
  refine h.ask (fun memory heq => ?_) granted
  subst heq
  cases hr

end VideoDevice

end Universal7870.Lib
