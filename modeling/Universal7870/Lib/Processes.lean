import Mathlib.Data.Set.Insert
import Mathlib.Order.BooleanAlgebra.Set
import Universal7870.Lib.Run

/-!
# Processes over mutexes

Processes run code over a shared state, interleaved one instruction at a time.  An instruction takes
a mutex or gives it back, or acts on the shared state and may put further instructions before the
rest of the code.  `Program.Lawful` says of a predicate on one process's code, and on the mutexes it
holds, that its own instructions keep it; `Program.Lawful.step` carries that to every interleaving.
-/

namespace Universal7870.Lib

inductive Instr (μ ι : Type*)
  | acquire (m : μ)
  | release (m : μ)
  | act (a : ι)
  deriving DecidableEq, Repr

/-- Processes `τ` and what is left of their code.  A mutex has one owner at most. -/
structure Processes (τ μ ι σ : Type*) where
  shared : σ
  owner : μ → Option τ
  code : τ → List (Instr μ ι)

/-- The code a process enters by a call, and what its actions do; `none` is for a call or an action
that has to wait. -/
structure Program (τ μ ι κ σ : Type*) where
  enter : τ → κ → σ → Option (σ × List (Instr μ ι))
  act : τ → ι → σ → Option (σ × List (Instr μ ι))

inductive Turn (τ κ : Type*)
  | enter (t : τ) (call : κ)
  | run (t : τ)
  deriving DecidableEq, Repr

variable {τ μ ι κ σ : Type*}

namespace Processes

variable {c : Processes τ μ ι σ} {t t' : τ} {m : μ} {s : σ} {code : List (Instr μ ι)}

def held (c : Processes τ μ ι σ) (t : τ) : Set μ := fun m => c.owner m = some t

/-- A mutex is held by one process. -/
theorem held_unique (h : m ∈ c.held t) (h' : m ∈ c.held t') : t = t' :=
  Option.some.inj (h.symm.trans h')

theorem not_held_of_free (hfree : c.owner m = none) : m ∉ c.held t := by
  intro hm
  have hsome : c.owner m = some t := hm
  rw [hfree] at hsome
  cases hsome

/-- A process goes on with other code. -/
def put [DecidableEq τ] (c : Processes τ μ ι σ) (t : τ) (s : σ) (code : List (Instr μ ι)) :
    Processes τ μ ι σ :=
  { c with shared := s, code := Function.update c.code t code }

def give [DecidableEq μ] (c : Processes τ μ ι σ) (m : μ) (holder : Option τ) : Processes τ μ ι σ :=
  { c with owner := Function.update c.owner m holder }

section

variable [DecidableEq τ]

@[simp] theorem shared_put : (c.put t s code).shared = s := rfl

@[simp] theorem held_put : (c.put t s code).held = c.held := rfl

@[simp] theorem code_put_self : (c.put t s code).code t = code := Function.update_self ..

theorem code_put_of_ne (h : t' ≠ t) : (c.put t s code).code t' = c.code t' :=
  Function.update_of_ne h ..

end

section

variable [DecidableEq μ]

@[simp] theorem shared_give {holder : Option τ} : (c.give m holder).shared = c.shared := rfl

@[simp] theorem code_give {holder : Option τ} : (c.give m holder).code = c.code := rfl

theorem mem_held_give {holder : Option τ} {l : μ} :
    l ∈ (c.give m holder).held t ↔ if l = m then holder = some t else l ∈ c.held t := by
  show Function.update c.owner m holder l = some t ↔ _
  split
  · rename_i hl
    rw [hl, Function.update_self]
  · rename_i hl
    rw [Function.update_of_ne hl]
    exact Iff.rfl

theorem held_give_self : (c.give m (some t)).held t = insert m (c.held t) := by
  ext l
  rw [mem_held_give, Set.mem_insert_iff]
  split
  · rename_i hl
    exact iff_of_true rfl (.inl hl)
  · rename_i hl
    exact (or_iff_right hl).symm

theorem held_give_of_ne (h : t' ≠ t) (hm : m ∉ c.held t') : (c.give m (some t)).held t' = c.held t' := by
  ext l
  rw [mem_held_give]
  split
  · rename_i hl
    rw [hl]
    exact iff_of_false (fun hsome => h (Option.some.inj hsome).symm) hm
  · exact Iff.rfl

theorem held_give_none : (c.give m none).held t = c.held t \ {m} := by
  ext l
  rw [mem_held_give, Set.mem_sdiff, Set.mem_singleton_iff]
  split
  · rename_i hl
    exact iff_of_false nofun fun hboth => hboth.2 hl
  · rename_i hl
    exact (and_iff_left hl).symm

theorem give_none_of_free (hfree : c.owner m = none) : c.give m none = c := by
  unfold give
  rw [← hfree, Function.update_eq_self]

theorem held_give_none_of_notMem (hm : m ∉ c.held t) : (c.give m none).held t = c.held t := by
  rw [held_give_none, Set.sdiff_singleton_eq_self hm]

end

end Processes

/-! ## 1. Steps -/

namespace Program

variable [DecidableEq τ] [DecidableEq μ] {P : Program τ μ ι κ σ} {c c' : Processes τ μ ι σ}

/-- One process takes one instruction, or enters a call when it has none left. -/
def step (P : Program τ μ ι κ σ) (c : Processes τ μ ι σ) :
    Turn τ κ → Option (Processes τ μ ι σ)
  | .enter t call =>
    match c.code t with
    | [] => (P.enter t call c.shared).map fun (s, code) => c.put t s code
    | _ :: _ => none
  | .run t =>
    match c.code t with
    | [] => none
    | .acquire m :: rest =>
      match c.owner m with
      | none => some ((c.give m (some t)).put t c.shared rest)
      | some _ => none
    | .release m :: rest => some ((c.give m none).put t c.shared rest)
    | .act a :: rest => (P.act t a c.shared).map fun (s, more) => c.put t s (more ++ rest)

/-- What a step can be. -/
inductive Stepped (P : Program τ μ ι κ σ) (c : Processes τ μ ι σ) :
    Turn τ κ → Processes τ μ ι σ → Prop
  | entered {t : τ} {call : κ} {s : σ} {code : List (Instr μ ι)} (hidle : c.code t = [])
      (henter : P.enter t call c.shared = some (s, code)) :
      Stepped P c (.enter t call) (c.put t s code)
  | acquired {t : τ} {m : μ} {rest : List (Instr μ ι)} (hcode : c.code t = .acquire m :: rest)
      (hfree : c.owner m = none) :
      Stepped P c (.run t) ((c.give m (some t)).put t c.shared rest)
  | released {t : τ} {m : μ} {rest : List (Instr μ ι)} (hcode : c.code t = .release m :: rest) :
      Stepped P c (.run t) ((c.give m none).put t c.shared rest)
  | acted {t : τ} {a : ι} {s : σ} {more rest : List (Instr μ ι)} (hcode : c.code t = .act a :: rest)
      (hact : P.act t a c.shared = some (s, more)) :
      Stepped P c (.run t) (c.put t s (more ++ rest))

theorem step_cases {turn : Turn τ κ} (hstep : P.step c turn = some c') : P.Stepped c turn c' := by
  cases turn with
  | enter t call =>
    simp only [step] at hstep
    split at hstep
    · rename_i hidle
      obtain ⟨⟨s, code⟩, henter, rfl⟩ := Option.map_eq_some_iff.mp hstep
      exact .entered hidle henter
    · cases hstep
  | run t =>
    simp only [step] at hstep
    split at hstep
    · cases hstep
    · rename_i m rest hcode
      split at hstep
      · rename_i hfree
        obtain rfl := Option.some.inj hstep
        exact .acquired hcode hfree
      · cases hstep
    · rename_i m rest hcode
      obtain rfl := Option.some.inj hstep
      exact .released hcode
    · rename_i a rest hcode
      obtain ⟨⟨s, more⟩, hact, rfl⟩ := Option.map_eq_some_iff.mp hstep
      exact .acted hcode hact

/-! ## 2. What each process keeps -/

/-- A predicate on the mutexes a process holds and on its code, which its instructions keep.  It
gives back only what it holds. -/
structure Lawful (P : Program τ μ ι κ σ) (L : τ → Set μ → List (Instr μ ι) → Prop) : Prop where
  enter : ∀ {t H call s s' code}, L t H [] → P.enter t call s = some (s', code) → L t H code
  acquire : ∀ {t H m rest}, L t H (.acquire m :: rest) → m ∉ H → L t (insert m H) rest
  release : ∀ {t H m rest}, L t H (.release m :: rest) → m ∈ H ∧ L t (H \ {m}) rest
  act : ∀ {t H a s s' more rest}, L t H (.act a :: rest) → P.act t a s = some (s', more) →
    L t H (more ++ rest)

variable {L : τ → Set μ → List (Instr μ ι) → Prop}

/-- A step of one process leaves the others what they hold. -/
theorem Lawful.held_of_ne (hL : P.Lawful L) (h : ∀ t, L t (c.held t) (c.code t)) {turn : Turn τ κ}
    (hstep : P.Stepped c turn c') {t : τ} (hother : turn ≠ .run t) : c'.held t = c.held t := by
  cases hstep with
  | entered hidle henter => rfl
  | @acquired t' m rest hcode hfree =>
    have hne : t ≠ t' := fun hsame => hother (by rw [hsame])
    exact Processes.held_give_of_ne hne (Processes.not_held_of_free hfree)
  | @released t' m rest hcode =>
    have hne : t' ≠ t := fun hsame => hother (by rw [hsame])
    have hm : m ∈ c.held t' := (hL.release (hcode ▸ h t')).1
    exact Processes.held_give_none_of_notMem fun hm' => hne (Processes.held_unique hm hm')
  | acted hcode hact => rfl

/-- What each process keeps, every step keeps of all of them. -/
theorem Lawful.step (hL : P.Lawful L) (h : ∀ t, L t (c.held t) (c.code t)) {turn : Turn τ κ}
    (hstep : P.step c turn = some c') (t : τ) : L t (c'.held t) (c'.code t) := by
  have hstepped := step_cases hstep
  by_cases hrun : turn = .run t
  · cases hstepped with
    | entered hidle henter => cases hrun
    | @acquired t' m rest hcode hfree =>
      obtain rfl := Turn.run.inj hrun
      rw [Processes.held_put, Processes.held_give_self, Processes.code_put_self]
      exact hL.acquire (hcode ▸ h t') (Processes.not_held_of_free hfree)
    | @released t' m rest hcode =>
      obtain rfl := Turn.run.inj hrun
      rw [Processes.held_put, Processes.held_give_none, Processes.code_put_self]
      exact (hL.release (hcode ▸ h t')).2
    | @acted t' a s more rest hcode hact =>
      obtain rfl := Turn.run.inj hrun
      rw [Processes.held_put, Processes.code_put_self]
      exact hL.act (hcode ▸ h t') hact
  rw [hL.held_of_ne h hstepped hrun]
  cases hstepped with
  | @entered t' call s code hidle henter =>
    by_cases ht : t = t'
    · subst ht
      rw [Processes.code_put_self]
      exact hL.enter (hidle ▸ h t) henter
    · rw [Processes.code_put_of_ne ht]
      exact h t
  | @acquired t' m rest hcode hfree =>
    rw [Processes.code_put_of_ne fun hsame => hrun (by rw [hsame])]
    exact h t
  | @released t' m rest hcode =>
    rw [Processes.code_put_of_ne fun hsame => hrun (by rw [hsame])]
    exact h t
  | @acted t' a s more rest hcode hact =>
    rw [Processes.code_put_of_ne fun hsame => hrun (by rw [hsame])]
    exact h t

end Program

/-! ## 3. Lock disciplines -/

/-- What an action needs: `pre` of the mutexes held and of the code that follows it.  An action that
is `last` takes over what is left to do, and `left` is what a call may leave locked. -/
structure Discipline (τ μ ι : Type*) where
  pre : τ → ι → Set μ → List (Instr μ ι) → Prop
  last : ι → Bool
  left : Set μ

namespace Discipline

variable {d : Discipline τ μ ι} {t : τ} {H : Set μ} {m : μ} {a : ι} {code : List (Instr μ ι)}

/-- The process that holds `H` finds, by this code, what each of its actions needs.  What follows a
mutex that is held already is not reached. -/
def Obeys (d : Discipline τ μ ι) (t : τ) : Set μ → List (Instr μ ι) → Prop
  | H, [] => H ⊆ d.left
  | H, .acquire m :: code => m ∉ H → d.Obeys t (insert m H) code
  | H, .release m :: code => m ∈ H ∧ d.Obeys t (H \ {m}) code
  | H, .act a :: code => d.pre t a H code ∧ if d.last a then code = [] else d.Obeys t H code

theorem obeys_nil : d.Obeys t H [] ↔ H ⊆ d.left := Iff.rfl

theorem obeys_act (hlast : d.last a = false) :
    d.Obeys t H (.act a :: code) ↔ d.pre t a H code ∧ d.Obeys t H code := by
  show _ ∧ (if d.last a then _ else _) ↔ _
  rw [hlast, if_neg Bool.false_ne_true]

theorem obeys_last (hlast : d.last a = true) :
    d.Obeys t H (.act a :: code) ↔ d.pre t a H code ∧ code = [] := by
  show _ ∧ (if d.last a then _ else _) ↔ _
  rw [hlast, if_pos rfl]

/-- A mutex that is taken and given back. -/
theorem Obeys.release_acquired (hm : m ∉ H) (h : d.Obeys t H code) :
    d.Obeys t (insert m H) (.release m :: code) := by
  refine ⟨Set.mem_insert m H, ?_⟩
  rw [Set.insert_sdiff_self_of_notMem hm]
  exact h

/-- A mutex that is given back and taken again. -/
theorem Obeys.reacquire (hm : m ∈ H) (h : d.Obeys t H code) :
    d.Obeys t H (.release m :: .acquire m :: code) := by
  refine ⟨hm, fun _ => ?_⟩
  rw [Set.insert_sdiff_singleton, Set.insert_eq_of_mem hm]
  exact h

/-- A mutex that is taken under another one, which is given back then. -/
theorem Obeys.acquire_behind {p : μ} (hp : p ≠ m) (h : m ∉ H → d.Obeys t (insert m H) code) :
    d.Obeys t H (.acquire p :: .acquire m :: .release p :: code) := by
  intro hpH hm
  have hm' : m ∉ H := fun hmem => hm (Set.mem_insert_of_mem p hmem)
  rw [Set.insert_comm]
  refine Obeys.release_acquired (fun hmem => ?_) (h hm')
  rcases Set.mem_insert_iff.mp hmem with heq | hmem
  · exact hp heq
  · exact hpH hmem

/-- The code of every process obeys at each step if what it enters and what its actions put before
the rest does. -/
theorem lawful [DecidableEq τ] [DecidableEq μ] {P : Program τ μ ι κ σ}
    (henter : ∀ {t H call s s' code}, H ⊆ d.left → P.enter t call s = some (s', code) →
      d.Obeys t H code)
    (hact : ∀ {t H a s s' more rest}, d.Obeys t H (.act a :: rest) →
      P.act t a s = some (s', more) → d.Obeys t H (more ++ rest)) : P.Lawful d.Obeys where
  enter := henter
  acquire h hm := h hm
  release h := h
  act := hact

end Discipline

end Universal7870.Lib
