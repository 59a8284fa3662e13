import Mathlib.Data.Finset.Basic

/-!
# Lock discipline of a sequential program

A program that takes and gives back mutexes, as a state monad over the set of mutexes its thread
holds.  It goes wrong when it releases a mutex it does not hold or takes one it holds; it may also
stop on purpose.  `wp` is the weakest precondition for it to return, if it does, with a held set
that meets a postcondition, without having gone wrong on the way.
-/

namespace Universal7870.Lib

variable {L α β : Type}

inductive LockStop (L : Type)
  | notHeld (l : L)
  | heldTwice (l : L)
  | aborted
  deriving DecidableEq

abbrev LockM (L : Type) := StateT (Finset L) (Except (LockStop L))

def lock [DecidableEq L] (l : L) : LockM L Unit := fun held =>
  if l ∈ held then .error (.heldTwice l) else .ok ((), insert l held)

def unlock [DecidableEq L] (l : L) : LockM L Unit := fun held =>
  if l ∈ held then .ok ((), held.erase l) else .error (.notHeld l)

def abort : LockM L α := fun _ => .error .aborted

def wp (m : LockM L α) (held : Finset L) (post : α → Finset L → Prop) : Prop :=
  match m held with
  | .ok (a, held') => post a held'
  | .error .aborted => True
  | .error _ => False

@[simp] theorem wp_pure (a : α) (held : Finset L) (post : α → Finset L → Prop) :
    wp (pure a : LockM L α) held post ↔ post a held := Iff.rfl

@[simp] theorem wp_bind (m : LockM L α) (f : α → LockM L β) (held : Finset L)
    (post : β → Finset L → Prop) :
    wp (m >>= f) held post ↔ wp m held fun a held' => wp (f a) held' post := by
  unfold wp
  change (match (do let (a, s) ← m held; f a s) with
    | .ok (a, held') => post a held'
    | .error .aborted => True
    | .error _ => False) ↔ _
  cases h : m held with
  | error e => cases e <;> exact Iff.rfl
  | ok r => exact Iff.rfl

@[simp] theorem wp_map (m : LockM L α) (f : α → β) (held : Finset L)
    (post : β → Finset L → Prop) :
    wp (f <$> m) held post ↔ wp m held fun a held' => post (f a) held' := by
  rw [map_eq_pure_bind, wp_bind]
  rfl

@[simp] theorem wp_lock [DecidableEq L] (l : L) (held : Finset L)
    (post : Unit → Finset L → Prop) :
    wp (lock l) held post ↔ l ∉ held ∧ post () (insert l held) := by
  unfold wp lock
  by_cases h : l ∈ held
  · simp [h]
  · simp [h]

@[simp] theorem wp_unlock [DecidableEq L] (l : L) (held : Finset L)
    (post : Unit → Finset L → Prop) :
    wp (unlock l) held post ↔ l ∈ held ∧ post () (held.erase l) := by
  unfold wp unlock
  by_cases h : l ∈ held
  · simp [h]
  · simp [h]

@[simp] theorem wp_abort (held : Finset L) (post : α → Finset L → Prop) :
    wp (abort : LockM L α) held post ↔ True := Iff.rfl

/-- A mutex taken behind a turnstile that is left again. -/
theorem wp_lock_behind [DecidableEq L] {pre l : L} (hne : pre ≠ l) {held : Finset L}
    (hpre : pre ∉ held) (hlock : l ∉ held) (post : Unit → Finset L → Prop) :
    wp (do lock pre; lock l; unlock pre) held post ↔ post () (insert l held) := by
  have hpre' : pre ∉ insert l held := by
    rw [Finset.mem_insert, not_or]
    exact ⟨hne, hpre⟩
  have hlock' : l ∉ insert pre held := by
    rw [Finset.mem_insert, not_or]
    exact ⟨hne.symm, hlock⟩
  have herase : (insert l (insert pre held)).erase pre = insert l held := by
    rw [Finset.insert_comm, Finset.erase_insert hpre']
  simp only [wp_bind, wp_lock, wp_unlock, hpre, hlock', herase, Finset.mem_insert_self,
    Finset.mem_insert_of_mem, not_false_iff, true_and]

end Universal7870.Lib
