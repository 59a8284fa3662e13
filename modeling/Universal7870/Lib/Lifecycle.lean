import Mathlib.Data.List.Count

/-!
# The life of objects

A log of what happens to objects that are created, used and released, newest event first.  A log
is well used when every use and every release is of an object that is live at that moment.
-/

namespace Universal7870.Lib

variable {α : Type*}

inductive LifeEvent (α : Type*)
  | created (a : α)
  | used (a : α)
  | released (a : α)
  deriving DecidableEq, Repr

/-- The object was created and has not been released. -/
def Live (log : List (LifeEvent α)) (a : α) : Prop := .created a ∈ log ∧ .released a ∉ log

/-- What may happen next to the objects of a log. -/
def LifeEvent.Allowed (log : List (LifeEvent α)) : LifeEvent α → Prop
  | .created a => .created a ∉ log ∧ .released a ∉ log
  | .used a => Live log a
  | .released a => Live log a

def WellUsed : List (LifeEvent α) → Prop
  | [] => True
  | event :: log => event.Allowed log ∧ WellUsed log

theorem WellUsed.tail {event : LifeEvent α} {log : List (LifeEvent α)}
    (h : WellUsed (event :: log)) : WellUsed log := h.2

theorem WellUsed.of_append {log log' : List (LifeEvent α)} (h : WellUsed (log' ++ log)) :
    WellUsed log := by
  induction log' with
  | nil => exact h
  | cons event log' ih => exact ih h.2

/-- Nothing is used after it was released. -/
theorem WellUsed.not_released_before_use {log log' : List (LifeEvent α)} {a : α}
    (h : WellUsed (log' ++ .used a :: log)) : .released a ∉ log :=
  h.of_append.1.2

/-- Nothing is released twice. -/
theorem WellUsed.count_released_le_one [DecidableEq α] {log : List (LifeEvent α)}
    (h : WellUsed log) (a : α) : log.count (.released a) ≤ 1 := by
  induction log with
  | nil => exact Nat.zero_le 1
  | cons event log ih =>
    by_cases he : event = .released a
    · subst he
      have hnew : .released a ∉ log := h.1.2
      have hone : (LifeEvent.released a :: log).count (.released a) = 1 := by
        rw [List.count_cons_self, List.count_eq_zero_of_not_mem hnew]
      exact Nat.le_of_eq hone
    · rw [List.count_cons_of_ne he]
      exact ih h.2

theorem Live.cons_used {log : List (LifeEvent α)} {a : α} (h : Live log a) (b : α) :
    Live (.used b :: log) a :=
  ⟨List.mem_cons_of_mem _ h.1, by simpa using h.2⟩

theorem Live.cons_created {log : List (LifeEvent α)} {a : α} (h : Live log a) (b : α) :
    Live (.created b :: log) a :=
  ⟨List.mem_cons_of_mem _ h.1, by simpa using h.2⟩

theorem Live.cons_released {log : List (LifeEvent α)} {a b : α} (h : Live log a) (hne : a ≠ b) :
    Live (.released b :: log) a :=
  ⟨List.mem_cons_of_mem _ h.1, by simpa [hne] using h.2⟩

theorem live_created {log : List (LifeEvent α)} {a : α} (h : .released a ∉ log) :
    Live (.created a :: log) a :=
  ⟨List.mem_cons_self, by simpa using h⟩

end Universal7870.Lib
