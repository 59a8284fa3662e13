import Mathlib.Data.Set.Basic
import Mathlib.Data.Set.Insert
import Mathlib.Order.BooleanAlgebra.Set
import Universal7870.Lib.Run

/-!
# Lock order of interleaved threads

Threads that run straight-line code over mutexes and condition variables, interleaved one event at
a time.  A mutex has one owner at most; a thread that waits on a condition variable gives its mutex
up and has to acquire it again.  `Keeps` says of one thread's code that it acquires its mutexes in
the order of their ranks, and `Threads.AllKeep.step` carries that to every interleaving.
-/

namespace Universal7870.Lib

/-- What a thread does to mutexes `L` and to the flags `C` that its condition variables guard. -/
inductive LockEvent (L C : Type)
  | acquire (l : L)
  | release (l : L)
  /-- Waits with the mutex `l` until it is woken up. -/
  | wait (l : L)
  /-- Waits with the mutex `l` for as long as the flag `c` is set. -/
  | awaitClear (c : C) (l : L)
  | setFlag (c : C) (value : Bool)
  deriving DecidableEq, Repr

open LockEvent

variable {L C T : Type}

/-- The order that threads are to keep. -/
structure LockOrder (L : Type) where
  rank : L → Nat
  /-- What a call may leave locked. -/
  left : Set L
  /-- What may be held by a thread that looks whether it has to wait for a flag to clear: if it
  has to, a mutex in here may outrank the one it waits with. -/
  exempt : Set L

/-- The thread that holds `held` acquires, by this code, only mutexes that no held one outranks,
and in the end has at most what the order lets it leave. -/
def Keeps (r : LockOrder L) : Set L → List (LockEvent L C) → Prop
  | held, [] => held ⊆ r.left
  | held, .acquire l :: code => (∀ m ∈ held, r.rank m ≤ r.rank l) ∧ Keeps r (insert l held) code
  | held, .release l :: code => Keeps r (held \ {l}) code
  | held, .wait l :: code =>
    (∀ m ∈ held, m ≠ l → r.rank m ≤ r.rank l) ∧ Keeps r (insert l held) code
  | held, .awaitClear _ l :: code =>
    (∀ m ∈ held, m ≠ l → m ∉ r.exempt → r.rank m ≤ r.rank l) ∧ Keeps r (insert l held) code
  | held, .setFlag _ _ :: code => Keeps r held code

/-- The mutexes the code asks for, among them those it waits with. -/
def Acquires (l : L) (code : List (LockEvent L C)) : Prop :=
  .acquire l ∈ code ∨ .wait l ∈ code ∨ ∃ c, .awaitClear c l ∈ code

variable {r : LockOrder L}

theorem Acquires.tail {l : L} {event : LockEvent L C} {code : List (LockEvent L C)}
    (h : Acquires l code) : Acquires l (event :: code) := by
  rcases h with h | h | ⟨c, h⟩
  · exact Or.inl (List.mem_cons_of_mem _ h)
  · exact Or.inr (Or.inl (List.mem_cons_of_mem _ h))
  · exact Or.inr (Or.inr ⟨c, List.mem_cons_of_mem _ h⟩)

/-- A thread that holds less keeps the order as well. -/
theorem Keeps.anti {held held' : Set L} {code : List (LockEvent L C)} (hsub : held' ⊆ held)
    (h : Keeps r held code) : Keeps r held' code := by
  induction code generalizing held held' with
  | nil => exact hsub.trans h
  | cons event code ih =>
    cases event with
    | acquire l =>
      exact ⟨fun m hm => h.1 m (hsub hm), ih (Set.insert_subset_insert hsub) h.2⟩
    | release l => exact ih (Set.sdiff_subset_sdiff_left hsub) h
    | wait l => exact ⟨fun m hm => h.1 m (hsub hm), ih (Set.insert_subset_insert hsub) h.2⟩
    | awaitClear c l =>
      exact ⟨fun m hm => h.1 m (hsub hm), ih (Set.insert_subset_insert hsub) h.2⟩
    | setFlag c value => exact ih hsub h

/-- So does one that starts with mutexes it may leave and that none it asks for is below. -/
theorem Keeps.union {held extra : Set L} {code : List (LockEvent L C)}
    (h : Keeps r held code) (hleft : extra ⊆ r.left)
    (hrank : ∀ m ∈ extra, ∀ l, Acquires l code → r.rank m ≤ r.rank l) :
    Keeps r (held ∪ extra) code := by
  induction code generalizing held with
  | nil => exact Set.union_subset h hleft
  | cons event code ih =>
    have hrest : ∀ m ∈ extra, ∀ l, Acquires l code → r.rank m ≤ r.rank l :=
      fun m hm l hl => hrank m hm l hl.tail
    cases event with
    | acquire l =>
      refine ⟨fun m hm => ?_, ?_⟩
      · rcases hm with hm | hm
        · exact h.1 m hm
        · exact hrank m hm l (Or.inl List.mem_cons_self)
      · rw [← Set.insert_union]
        exact ih h.2 hrest
    | release l =>
      change Keeps r ((held ∪ extra) \ {l}) code
      refine (ih h hrest).anti ?_
      rw [Set.union_sdiff_distrib]
      exact Set.union_subset_union_right _ Set.sdiff_subset
    | wait l =>
      refine ⟨fun m hm hne => ?_, ?_⟩
      · rcases hm with hm | hm
        · exact h.1 m hm hne
        · exact hrank m hm l (Or.inr (Or.inl List.mem_cons_self))
      · rw [← Set.insert_union]
        exact ih h.2 hrest
    | awaitClear c l =>
      refine ⟨fun m hm hne hexempt => ?_, ?_⟩
      · rcases hm with hm | hm
        · exact h.1 m hm hne hexempt
        · exact hrank m hm l (Or.inr (Or.inr ⟨c, List.mem_cons_self⟩))
      · rw [← Set.insert_union]
        exact ih h.2 hrest
    | setFlag c value => exact ih h hrest

/-! ## 1. Threads -/

/-- Threads `T` that run calls one after the other. -/
structure Threads (L C T : Type) where
  owner : L → Option T
  flag : C → Bool
  /-- What is left of the call each thread is in. -/
  code : T → List (LockEvent L C)

inductive ThreadAction (L C T : Type)
  | call (t : T) (code : List (LockEvent L C))
  | run (t : T)

namespace Threads

def init : Threads L C T where
  owner _ := none
  flag _ := false
  code _ := []

section

variable [DecidableEq T]

def setCode (s : Threads L C T) (t : T) (code : List (LockEvent L C)) : Threads L C T :=
  { s with code := fun t' => if t' = t then code else s.code t' }

def give [DecidableEq L] (s : Threads L C T) (l : L) (holder : Option T) : Threads L C T :=
  { s with owner := fun m => if m = l then holder else s.owner m }

/-- One thread takes one event.  It can acquire only a mutex that nobody owns and give up only one
it owns. -/
def step [DecidableEq L] [DecidableEq C] (s : Threads L C T) :
    ThreadAction L C T → Option (Threads L C T)
  | .call t code => if s.code t = [] then some (s.setCode t code) else none
  | .run t =>
    match s.code t with
    | [] => none
    | .acquire l :: code =>
      if s.owner l = none then some ((s.give l (some t)).setCode t code) else none
    | .release l :: code =>
      if s.owner l = some t then some ((s.give l none).setCode t code) else none
    | .wait l :: code =>
      if s.owner l = some t then some ((s.give l none).setCode t (.acquire l :: code)) else none
    | .awaitClear c l :: code =>
      if s.owner l = some t then
        if s.flag c then some ((s.give l none).setCode t (.acquire l :: .awaitClear c l :: code))
        else some (s.setCode t code)
      else none
    | .setFlag c value :: code =>
      some { s.setCode t code with flag := fun c' => if c' = c then value else s.flag c' }

end

def held (s : Threads L C T) (t : T) : Set L := fun l => s.owner l = some t

/-- No thread is about to acquire a mutex, a first time or after a wait, that one it holds
outranks. -/
def InOrder (r : LockOrder L) (s : Threads L C T) : Prop :=
  ∀ t l code, s.code t = .acquire l :: code → ∀ m, s.owner m = some t → r.rank m ≤ r.rank l

/-- The action does not send a thread that holds an exempt mutex to wait for a flag, and a call is
begun with mutexes left over only if it asks for none below them. -/
def Orderly (r : LockOrder L) (s : Threads L C T) : ThreadAction L C T → Prop
  | .call t code => ∀ m, s.owner m = some t → ∀ l, Acquires l code → r.rank m ≤ r.rank l
  | .run t => ∀ c l code, s.code t = .awaitClear c l :: code → s.flag c = true →
      ∀ m ∈ r.exempt, s.owner m ≠ some t

/-- Every thread keeps the order by what is left of its call. -/
def AllKeep (r : LockOrder L) (s : Threads L C T) : Prop :=
  ∀ t, Keeps r (s.held t) (s.code t)

theorem allKeep_init : AllKeep r (init : Threads L C T) := by
  intro t l hl
  cases hl

theorem AllKeep.inOrder {s : Threads L C T} (h : s.AllKeep r) : s.InOrder r := by
  intro t l code hcode m hm
  have hkeeps := h t
  rw [hcode] at hkeeps
  exact hkeeps.1 m hm

theorem code_setCode_self [DecidableEq T] (s : Threads L C T) (t : T) (code : List (LockEvent L C)) :
    (s.setCode t code).code t = code := if_pos rfl

theorem code_setCode_of_ne [DecidableEq T] (s : Threads L C T) {t t' : T} (h : t' ≠ t)
    (code : List (LockEvent L C)) : (s.setCode t code).code t' = s.code t' := if_neg h

/-- A thread's step leaves the others with their code and with no more mutexes. -/
theorem AllKeep.of_step {s s' : Threads L C T} {t : T} (h : s.AllKeep r)
    (hothers : ∀ t', t' ≠ t → s'.code t' = s.code t' ∧ s'.held t' ⊆ s.held t')
    (hself : Keeps r (s'.held t) (s'.code t)) : s'.AllKeep r := by
  intro t'
  by_cases ht : t' = t
  · rw [ht]
    exact hself
  · rw [(hothers t' ht).1]
    exact (h t').anti (hothers t' ht).2

theorem held_give_self_subset [DecidableEq L] (s : Threads L C T) (l : L) (t : T) :
    (s.give l (some t)).held t ⊆ insert l (s.held t) := by
  intro m hm
  change (if m = l then some t else s.owner m) = some t at hm
  by_cases hml : m = l
  · exact Or.inl hml
  · rw [if_neg hml] at hm
    exact Or.inr hm

theorem held_give_other_subset [DecidableEq L] (s : Threads L C T) (l : L) {t t' : T} (h : t' ≠ t) :
    (s.give l (some t)).held t' ⊆ s.held t' := by
  intro m hm
  change (if m = l then some t else s.owner m) = some t' at hm
  by_cases hml : m = l
  · rw [if_pos hml] at hm
    exact absurd (Option.some.inj hm).symm h
  · rw [if_neg hml] at hm
    exact hm

theorem held_give_none [DecidableEq L] (s : Threads L C T) (l : L) (t : T) :
    (s.give l none).held t ⊆ s.held t \ {l} := by
  intro m hm
  change (if m = l then none else s.owner m) = some t at hm
  by_cases hml : m = l
  · rw [if_pos hml] at hm
    cases hm
  · rw [if_neg hml] at hm
    exact ⟨hm, hml⟩

/-- What every thread keeps, a step that meets the condition keeps, where a call is code that keeps
the order from nothing held. -/
theorem AllKeep.step [DecidableEq L] [DecidableEq C] [DecidableEq T] {s s' : Threads L C T}
    {a : ThreadAction L C T} (h : s.AllKeep r)
    (hcalls : ∀ t code, a = .call t code → Keeps r ∅ code)
    (hok : s.Orderly r a) (hs : s.step a = some s') : s'.AllKeep r := by
  cases a with
  | call t code =>
    simp only [Threads.step] at hs
    split at hs
    · rename_i hidle
      obtain rfl := Option.some.inj hs
      refine h.of_step (t := t) (fun t' ht => ⟨code_setCode_of_ne s ht code, fun _ hl => hl⟩) ?_
      have hleft : s.held t ⊆ r.left := by
        have hkeeps := h t
        rw [hidle] at hkeeps
        exact hkeeps
      have hunion := (hcalls t code rfl).union hleft hok
      rw [Set.empty_union] at hunion
      rw [code_setCode_self]
      exact hunion
    · cases hs
  | run t =>
    have hkeeps := h t
    simp only [Threads.step] at hs
    split at hs
    · cases hs
    · rename_i l code hcode
      rw [hcode] at hkeeps
      split at hs
      · obtain rfl := Option.some.inj hs
        refine h.of_step (t := t) (fun t' ht => ⟨code_setCode_of_ne _ ht code, ?_⟩) ?_
        · exact held_give_other_subset s l ht
        · rw [code_setCode_self]
          exact hkeeps.2.anti (held_give_self_subset s l t)
      · cases hs
    · rename_i l code hcode
      rw [hcode] at hkeeps
      split at hs
      · obtain rfl := Option.some.inj hs
        refine h.of_step (t := t) (fun t' ht => ⟨code_setCode_of_ne _ ht code, ?_⟩) ?_
        · exact (held_give_none s l t').trans Set.sdiff_subset
        · rw [code_setCode_self]
          exact Keeps.anti (held_give_none s l t) hkeeps
      · cases hs
    · rename_i l code hcode
      rw [hcode] at hkeeps
      split at hs
      · obtain rfl := Option.some.inj hs
        refine h.of_step (t := t) (fun t' ht => ⟨code_setCode_of_ne _ ht _, ?_⟩) ?_
        · exact (held_give_none s l t').trans Set.sdiff_subset
        · -- the thread has to acquire again the mutex it waits with
          have hheld := held_give_none s l t
          rw [code_setCode_self]
          refine ⟨fun m hm => hkeeps.1 m (hheld hm).1 (hheld hm).2, ?_⟩
          exact hkeeps.2.anti (Set.insert_subset_insert (hheld.trans Set.sdiff_subset))
      · cases hs
    · rename_i c l code hcode
      rw [hcode] at hkeeps
      split at hs
      · split at hs
        · rename_i hflag
          obtain rfl := Option.some.inj hs
          refine h.of_step (t := t) (fun t' ht => ⟨code_setCode_of_ne _ ht _, ?_⟩) ?_
          · exact (held_give_none s l t').trans Set.sdiff_subset
          · have hheld := held_give_none s l t
            rw [code_setCode_self]
            have hrank : ∀ m ∈ (s.give l none).held t, r.rank m ≤ r.rank l := fun m hm =>
              hkeeps.1 m (hheld hm).1 (hheld hm).2 fun hexempt =>
                hok c l code hcode hflag m hexempt (hheld hm).1
            refine ⟨hrank, ?_, ?_⟩
            · rintro m (rfl | hm) hne
              · exact absurd rfl hne
              · exact fun _ => hrank m hm
            · rw [Set.insert_idem]
              exact hkeeps.2.anti (Set.insert_subset_insert (hheld.trans Set.sdiff_subset))
        · obtain rfl := Option.some.inj hs
          refine h.of_step (t := t) (fun t' ht => ⟨code_setCode_of_ne _ ht _, fun _ hl => hl⟩) ?_
          rw [code_setCode_self]
          exact hkeeps.2.anti (Set.subset_insert l _)
      · cases hs
    · rename_i c value code hcode
      rw [hcode] at hkeeps
      obtain rfl := Option.some.inj hs
      refine h.of_step (t := t) (fun t' ht => ⟨code_setCode_of_ne s ht code, fun _ hl => hl⟩) ?_
      change Keeps r (s.held t) ((s.setCode t code).code t)
      rw [code_setCode_self]
      exact hkeeps

end Threads

end Universal7870.Lib
