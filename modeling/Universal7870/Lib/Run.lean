import Mathlib.Logic.Basic
import Mathlib.Data.List.Basic

/-!
# Runs of a transition system

A system is a step relation `σ → α → σ → Prop` over states and actions.  `Exec` is its
finite runs; `ExecWhere` is the runs all of whose steps meet a condition on the state they
are taken in.  The two invariant rules turn a fact about one step into one about every run.
-/

namespace Universal7870.Lib

variable {σ α : Type*}

/-- `Exec step s as s'`: taking the actions `as` from `s` can end in `s'`. -/
inductive Exec (step : σ → α → σ → Prop) : σ → List α → σ → Prop
  | nil (s : σ) : Exec step s [] s
  | cons {s t u : σ} {a : α} {as : List α} : step s a t → Exec step t as u → Exec step s (a :: as) u

/-- A run every step of which is taken in a state, and with an action, that `ok` accepts. -/
def ExecWhere (ok : σ → α → Prop) (step : σ → α → σ → Prop) : σ → List α → σ → Prop :=
  Exec fun s a t => ok s a ∧ step s a t

/-- The step relation of a total step function. -/
def functional (f : σ → α → σ) : σ → α → σ → Prop := fun s a t => f s a = t

/-- The step relation of a step function that disables an action by returning `none`. -/
def guarded (f : σ → α → Option σ) : σ → α → σ → Prop := fun s a t => f s a = some t

theorem Exec.mono {step step' : σ → α → σ → Prop} (h : ∀ s a t, step s a t → step' s a t)
    {s t : σ} {as : List α} (run : Exec step s as t) : Exec step' s as t := by
  induction run with
  | nil s => exact .nil s
  | cons hs _ ih => exact .cons (h _ _ _ hs) ih

/-- What one step preserves, every run preserves. -/
theorem Exec.invariant {step : σ → α → σ → Prop} {I : σ → Prop}
    (preserved : ∀ s a t, I s → step s a t → I t)
    {s t : σ} {as : List α} (run : Exec step s as t) (hs : I s) : I t := by
  induction run with
  | nil => exact hs
  | cons h _ ih => exact ih (preserved _ _ _ hs h)

/-- What one step that meets the condition preserves, every run of such steps preserves. -/
theorem ExecWhere.invariant {ok : σ → α → Prop} {step : σ → α → σ → Prop} {I : σ → Prop}
    (preserved : ∀ s a t, I s → ok s a → step s a t → I t)
    {s t : σ} {as : List α} (run : ExecWhere ok step s as t) (hs : I s) : I t :=
  Exec.invariant (fun s a t hi h => preserved s a t hi h.1 h.2) run hs

/-- A computed run. -/
theorem ExecWhere.of_foldlM {ok : σ → α → Prop} [∀ s a, Decidable (ok s a)]
    {f : σ → α → Option σ} {s t : σ} {as : List α}
    (h : as.foldlM (fun s a => if ok s a then f s a else none) s = some t) :
    ExecWhere ok (guarded f) s as t := by
  induction as generalizing s with
  | nil =>
    obtain rfl := Option.some.inj h
    exact .nil s
  | cons a as ih =>
    rw [List.foldlM_cons] at h
    obtain ⟨u, hu, hrest⟩ := Option.bind_eq_some_iff.mp h
    split at hu
    · rename_i hok
      exact .cons ⟨hok, hu⟩ (ih hrest)
    · cases hu

theorem Exec.of_foldlM {f : σ → α → Option σ} {s t : σ} {as : List α}
    (h : as.foldlM f s = some t) : Exec (guarded f) s as t := by
  induction as generalizing s with
  | nil =>
    obtain rfl := Option.some.inj h
    exact .nil s
  | cons a as ih =>
    rw [List.foldlM_cons] at h
    obtain ⟨u, hu, hrest⟩ := Option.bind_eq_some_iff.mp h
    exact .cons hu (ih hrest)

/-- A run of a step function ends in what it computes. -/
theorem Exec.foldlM {f : σ → α → Option σ} {s t : σ} {as : List α}
    (run : Exec (guarded f) s as t) : as.foldlM f s = some t := by
  induction run with
  | nil => rfl
  | cons hstep _ ih =>
    rw [List.foldlM_cons, hstep]
    exact ih

/-- A computed run ends in what was computed. -/
theorem Exec.computed {f : σ → α → Option σ} {s : σ} {as : List α}
    (h : (as.foldlM f s).isSome = true) : Exec (guarded f) s as ((as.foldlM f s).getD s) := by
  obtain ⟨t, ht⟩ := Option.isSome_iff_exists.mp h
  rw [ht]
  exact Exec.of_foldlM ht

/-- A computed run whose steps meet the condition. -/
theorem ExecWhere.computed {ok : σ → α → Prop} {f : σ → α → Option σ} {s : σ} {as : List α}
    (h : (as.foldlM f s).isSome = true)
    (hok : ∀ n a t, as[n]? = some a → (as.take n).foldlM f s = some t → ok t a) :
    ExecWhere ok (guarded f) s as ((as.foldlM f s).getD s) := by
  obtain ⟨u, hu⟩ := Option.isSome_iff_exists.mp h
  rw [hu, Option.getD_some]
  clear h
  induction as generalizing s with
  | nil =>
    obtain rfl := Option.some.inj hu
    exact .nil s
  | cons a as ih =>
    rw [List.foldlM_cons] at hu
    obtain ⟨t, ht, hrest⟩ := Option.bind_eq_some_iff.mp hu
    have hfirst : ok s a := hok 0 a s rfl rfl
    refine .cons ⟨hfirst, ht⟩ (ih (fun n b t' hb ht' => ?_) hrest)
    apply hok (n + 1) b t' hb
    rw [List.take_succ_cons, List.foldlM_cons, ht]
    exact ht'

/-- A run that is computed together with the condition. -/
theorem ExecWhere.of_isSome {ok : σ → α → Prop} [∀ s a, Decidable (ok s a)] {f : σ → α → Option σ}
    {s : σ} {as : List α}
    (h : (as.foldlM (fun s a => if ok s a then f s a else none) s).isSome = true) :
    ExecWhere ok (guarded f) s as ((as.foldlM f s).getD s) := by
  obtain ⟨t, ht⟩ := Option.isSome_iff_exists.mp h
  have hwhere : ExecWhere ok (guarded f) s as t := ExecWhere.of_foldlM ht
  have hrun : Exec (guarded f) s as t := hwhere.mono fun _ _ _ hstep => hstep.2
  rw [hrun.foldlM]
  exact hwhere

theorem Exec.folded (f : σ → α → σ) (s : σ) (as : List α) :
    Exec (functional f) s as (as.foldl f s) := by
  induction as generalizing s with
  | nil => exact .nil s
  | cons a as ih => exact .cons rfl (ih (f s a))

theorem ExecWhere.folded {ok : σ → α → Prop} {f : σ → α → σ} {s : σ} {as : List α}
    (hok : ∀ n a, as[n]? = some a → ok ((as.take n).foldl f s) a) :
    ExecWhere ok (functional f) s as (as.foldl f s) := by
  induction as generalizing s with
  | nil => exact .nil s
  | cons a as ih => exact .cons ⟨hok 0 a rfl, rfl⟩ (ih fun n b hb => hok (n + 1) b hb)

/-- Where one step keeps `I` exactly if it meets the condition, `I` holds all along a run exactly if
each step meets it. -/
theorem forall_take_iff {f : σ → α → σ} {I : σ → Prop} {ok : σ → α → Prop}
    (hstep : ∀ s a, I s → (I (f s a) ↔ ok s a)) {s : σ} (hs : I s) (as : List α) :
    (∀ n, I ((as.take n).foldl f s)) ↔ ∀ n a, as[n]? = some a → ok ((as.take n).foldl f s) a := by
  induction as generalizing s with
  | nil =>
    refine ⟨fun _ n a ha => ?_, fun _ n => ?_⟩
    · rw [List.getElem?_nil] at ha
      cases ha
    · rw [List.take_nil]
      exact hs
  | cons a as ih =>
    refine ⟨fun hI n b hb => ?_, fun hok n => ?_⟩
    · cases n with
      | zero =>
        obtain rfl := Option.some.inj hb
        exact (hstep s a hs).mp (hI 1)
      | succ n => exact (ih (hI 1)).mp (fun m => hI (m + 1)) n b hb
    · cases n with
      | zero => exact hs
      | succ n => exact (ih ((hstep s a hs).mpr (hok 0 a rfl))).mpr (fun m b hb => hok (m + 1) b hb) n

/-- Where a step from a state with `I` leads to one with `P` exactly if it meets the condition, and
to one with `I` again if so, `P` holds in all states of a run exactly if each step meets it. -/
theorem forall_prefix_iff_of {f : σ → α → Option σ} {I P : σ → Prop} {ok : σ → α → Prop}
    (hstep : ∀ s a t, I s → f s a = some t → (P t ↔ ok s a) ∧ (P t → I t)) (hweak : ∀ s, I s → P s)
    {s t : σ} {as : List α} (hs : I s) (run : Exec (guarded f) s as t) :
    (∀ before u, before <+: as → Exec (guarded f) s before u → P u) ↔
      ExecWhere ok (guarded f) s as t := by
  induction run with
  | nil s =>
    refine ⟨fun _ => .nil s, fun _ before u hbefore hu => ?_⟩
    obtain rfl := List.prefix_nil.mp hbefore
    cases hu
    exact hweak s hs
  | @cons s t u a as ha _ ih =>
    obtain ⟨hiff, hstrong⟩ := hstep s a t hs ha
    constructor
    · intro hP
      have ht : P t := hP [a] t (List.prefix_append [a] as) (.cons ha (.nil t))
      refine .cons ⟨hiff.mp ht, ha⟩ ((ih (hstrong ht)).mp fun before v hbefore hv => ?_)
      exact hP (a :: before) v ((List.prefix_cons_inj a).mpr hbefore) (.cons ha hv)
    · intro hok before v hbefore hv
      cases hok with
      | cons hfirst hrest =>
        obtain rfl := Option.some.inj (ha.symm.trans hfirst.2)
        cases before with
        | nil =>
          cases hv
          exact hweak s hs
        | cons b before =>
          obtain ⟨rfl, hafter⟩ := List.cons_prefix_cons.mp hbefore
          cases hv with
          | cons hb hv =>
            obtain rfl := Option.some.inj (ha.symm.trans hb)
            exact (ih (hstrong (hiff.mpr hfirst.1))).mpr hrest before v hafter hv

/-- Where one step of a step function keeps `I` exactly if it meets the condition, `I` holds in all
states of a run exactly if each step meets it. -/
theorem forall_prefix_iff {f : σ → α → Option σ} {I : σ → Prop} {ok : σ → α → Prop}
    (hstep : ∀ s a t, I s → f s a = some t → (I t ↔ ok s a)) {s t : σ} {as : List α} (hs : I s)
    (run : Exec (guarded f) s as t) :
    (∀ before u, before <+: as → Exec (guarded f) s before u → I u) ↔
      ExecWhere ok (guarded f) s as t :=
  forall_prefix_iff_of (fun s a t hi ha => ⟨hstep s a t hi ha, id⟩) (fun _ => id) hs run

theorem Exec.append {step : σ → α → σ → Prop} {s t u : σ} {as bs : List α}
    (h₁ : Exec step s as t) (h₂ : Exec step t bs u) : Exec step s (as ++ bs) u := by
  induction h₁ with
  | nil => exact h₂
  | cons h _ ih => exact .cons h (ih h₂)

/-- A run of a concatenation splits at the boundary. -/
theorem Exec.split {step : σ → α → σ → Prop} {s u : σ} {as bs : List α}
    (h : Exec step s (as ++ bs) u) : ∃ t, Exec step s as t ∧ Exec step t bs u := by
  induction as generalizing s with
  | nil => exact ⟨s, .nil s, h⟩
  | cons a as ih =>
    cases h with
    | cons hs ht =>
      obtain ⟨t, h₁, h₂⟩ := ih ht
      exact ⟨t, .cons hs h₁, h₂⟩

/-- A step function takes a run to one state only. -/
theorem Exec.unique {f : σ → α → Option σ} {s t u : σ} {as : List α}
    (h : Exec (guarded f) s as t) (h' : Exec (guarded f) s as u) : t = u :=
  Option.some.inj (h.foldlM.symm.trans h'.foldlM)

/-- The condition holds on every initial part of a run on which it holds. -/
theorem ExecWhere.of_prefix {ok : σ → α → Prop} {f : σ → α → Option σ} {s t u : σ}
    {as bs : List α} (run : ExecWhere ok (guarded f) s as t) (hinitial : bs <+: as)
    (hb : Exec (guarded f) s bs u) : ExecWhere ok (guarded f) s bs u := by
  obtain ⟨cs, rfl⟩ := hinitial
  obtain ⟨v, hv, -⟩ := Exec.split run
  obtain rfl := Exec.unique (hv.mono fun _ _ _ h => h.2) hb
  exact hv

/-- The condition holds on what follows an initial part. -/
theorem ExecWhere.behind {ok : σ → α → Prop} {f : σ → α → Option σ} {s t u : σ} {as bs : List α}
    (run : ExecWhere ok (guarded f) s (as ++ bs) t) (ha : Exec (guarded f) s as u) :
    ExecWhere ok (guarded f) u bs t := by
  obtain ⟨v, hv, hrest⟩ := Exec.split run
  obtain rfl := Exec.unique (hv.mono fun _ _ _ h => h.2) ha
  exact hrest

end Universal7870.Lib
