import Universal7870.Audio.ForcedStandbyCode
import Universal7870.Audio.UniqueUsecases

/-!
# The input that is forced to standby

`lock_inputs` is held from the choice of the input to the check that it is still the active one, so
the check never fails.  The input is also open, unless a stream was freed while it was the active one.
-/

namespace Universal7870.Audio

open Lib

namespace SharedDevice

variable {T : Type} {t : T} {H : Set HalMutex} {rest more : Code} {a : HalAct}
  {s s' : SharedDevice T} {i : InId} {o : OutId}

/-! ## 1. The active input is the chosen one -/

abbrev State (T : Type) := Processes T HalMutex HalAct (SharedDevice T)

variable {c c' : State T} {call : Call} {code : Code}

/-- A call is entered with code in which nothing is chosen. -/
structure Fresh (code : Code) : Prop where
  obeys : ∀ (t : T) H, discipline.Obeys t H code
  clean : clean code = true
  hasChosen : hasChosen code = false

theorem fresh_of_enter (henter : enter t call s = some (s', code)) :
    Fresh (T := T) code ∧ s'.dev.hal.activeInput = s.dev.hal.activeInput := by
  have hinput {i : InId} {code' : Code} (hcode : inputCode call = some (i, code'))
      (hsome : (if s.known i then
        some ({ s with callers := Function.update s.callers i (t :: s.callers i) }, code')
        else none) = some (s', code)) :
      Fresh (T := T) code ∧ s'.dev.hal.activeInput = s.dev.hal.activeInput := by
    split at hsome
    · obtain ⟨rfl, rfl⟩ := Prod.mk.inj (Option.some.inj hsome)
      refine ⟨⟨fun t H => obeys_inputCode hcode, ?_, ?_⟩, rfl⟩
      · cases call <;> cases hcode <;> rfl
      · cases call <;> cases hcode <;> rfl
    · cases hsome
  cases call with
  | outWrite o w =>
    obtain ⟨rfl, rfl⟩ := Prod.mk.inj (Option.some.inj henter)
    refine ⟨⟨fun t H => ?_, rfl, rfl⟩, rfl⟩
    apply obeys_lockOutputStream
    intro _
    exact (Discipline.obeys_last rfl).mpr ⟨.inl rfl, rfl⟩
  | outSetParameters o val allocated =>
    obtain ⟨rfl, rfl⟩ := Prod.mk.inj (Option.some.inj henter)
    refine ⟨⟨fun t H _ => ?_, rfl, rfl⟩, rfl⟩
    apply obeys_lockOutputStream
    intro _ _
    exact (Discipline.obeys_last rfl).mpr
      ⟨⟨.inr (.inl rfl), .inr (.inr (.inl rfl)), .inl rfl⟩, rfl⟩
  | adevOpenInputStream i config =>
    simp only [enter] at henter
    split at henter
    · cases henter
    · obtain ⟨rfl, rfl⟩ := Prod.mk.inj (Option.some.inj henter)
      refine ⟨⟨fun t H => obeys_nil, rfl, rfl⟩, ?_⟩
      show (s.dev.openInputStream i config).2.hal.activeInput = _
      unfold AudioDevice.openInputStream
      split <;> rfl
  | adevCloseInputStream i freed =>
    simp only [enter] at henter
    split at henter
    · obtain ⟨rfl, rfl⟩ := Prod.mk.inj (Option.some.inj henter)
      exact ⟨⟨fun t H => obeys_closeCode, rfl, rfl⟩, rfl⟩
    · cases henter
  | inRead i r => exact hinput rfl henter
  | inStandby i => exact hinput rfl henter
  | inSetParameters i source routing => exact hinput rfl henter
  | addAudioEffect i aec auxChanged => exact hinput rfl henter
  | removeAudioEffect i aec => exact hinput rfl henter

/-- A thread that has chosen an input holds `lock_inputs`, and the input is the active one. -/
structure Guarded (c : State T) : Prop where
  obeys : ∀ t, discipline.Obeys t (c.held t) (c.code t)
  clean : ∀ t, clean (c.code t) = true
  chosen : ∀ t a i, .act a ∈ c.code t → chosen a = some i →
    .lockInputs ∈ c.held t ∧ c.shared.dev.hal.activeInput = some i

theorem Start.guarded (h : Start c) : Guarded c := by
  refine ⟨fun t => ?_, fun t => ?_, fun t a i ha => ?_⟩
  · rw [h.code t]
    exact obeys_nil
  · rw [h.code t]
    rfl
  · rw [h.code t] at ha
    cases ha

theorem lockInputs_of_writesActive {t : T} (hobeys : discipline.Obeys t H (.act a :: rest))
    (ha : writesActive a = true) : .lockInputs ∈ H := by
  cases a with
  | doInStandby i => exact ((Discipline.obeys_act rfl).mp hobeys).1
  | startInputStream i r => exact ((Discipline.obeys_last rfl).mp hobeys).1.2.1
  | inSetParameters i source routing => exact ((Discipline.obeys_act rfl).mp hobeys).1
  | addAudioEffect i aec auxChanged => exact ((Discipline.obeys_act rfl).mp hobeys).1
  | removeAudioEffect i aec => exact ((Discipline.obeys_act rfl).mp hobeys).1
  | _ => cases ha

theorem lockInputs_of_chooses {t : T} (hobeys : discipline.Obeys t H (.act a :: rest))
    (ha : chooses a = true) : .lockInputs ∈ H := by
  cases a with
  | startOutputStream o w => exact ((Discipline.obeys_last rfl).mp hobeys).1.2.1
  | outSetRouting o val allocated => exact ((Discipline.obeys_last rfl).mp hobeys).1.2.1
  | _ => cases ha

/-- The other threads keep their choice where the active input is the same, or the step needs
`lock_inputs`. -/
theorem chosen_others {t t' : T} {active : Option InId} (hg : Guarded c) (ht : t' ≠ t)
    (ha : .act a ∈ c.code t') (hi : chosen a = some i)
    (hactive : active = c.shared.dev.hal.activeInput ∨ .lockInputs ∈ c.held t) :
    .lockInputs ∈ c.held t' ∧ active = some i := by
  obtain ⟨hinputs, hchosen⟩ := hg.chosen t' a i ha hi
  refine ⟨hinputs, ?_⟩
  rcases hactive with hsame | hinputs'
  · rw [hsame]
    exact hchosen
  · exact absurd (Processes.held_unique hinputs hinputs') ht

section

variable [DecidableEq T]

theorem obeys_lawful : (program (T := T)).Lawful discipline.Obeys := by
  refine discipline.lawful ?_ ?_
  · intro t H call s s' code _ henter
    exact (fresh_of_enter henter).1.obeys t H
  · exact fun h hact => obeys_more h hact

theorem guarded_step {turn : Turn T Call} (hg : Guarded c)
    (hstep : program.step c turn = some c') : Guarded c' := by
  have hobeys := obeys_lawful.step hg.obeys hstep
  cases Program.step_cases hstep with
  | @entered t call s code hidle henter =>
    obtain ⟨hfresh, hactive⟩ := fresh_of_enter henter
    refine ⟨hobeys, fun t' => ?_, fun t' a i ha hi => ?_⟩
    · by_cases ht : t' = t
      · subst ht
        rw [Processes.code_put_self]
        exact hfresh.clean
      · rw [Processes.code_put_of_ne ht]
        exact hg.clean t'
    · by_cases ht : t' = t
      · subst ht
        rw [Processes.code_put_self] at ha
        cases hfresh.hasChosen.symm.trans (hasChosen_of_mem ha hi)
      · rw [Processes.code_put_of_ne ht] at ha
        rw [Processes.held_put]
        exact chosen_others hg ht ha hi (.inl hactive)
  | @acquired t m rest hcode hfree =>
    have hclean : clean (.acquire m :: rest) = true := hcode ▸ hg.clean t
    refine ⟨hobeys, fun t' => ?_, fun t' a i ha hi => ?_⟩
    · by_cases ht : t' = t
      · subst ht
        rw [Processes.code_put_self]
        exact (clean_cons.mp hclean).2
      · rw [Processes.code_put_of_ne ht]
        exact hg.clean t'
    · by_cases ht : t' = t
      · subst ht
        rw [Processes.code_put_self] at ha
        obtain ⟨hinputs, hactive⟩ := hg.chosen t' a i (hcode ▸ List.mem_cons_of_mem _ ha) hi
        rw [Processes.held_put, Processes.held_give_self]
        exact ⟨.inr hinputs, hactive⟩
      · rw [Processes.code_put_of_ne ht] at ha
        rw [Processes.held_put, Processes.held_give_of_ne ht (Processes.not_held_of_free hfree)]
        exact chosen_others hg ht ha hi (.inl rfl)
  | @released t m rest hcode =>
    have hclean : clean (.release m :: rest) = true := hcode ▸ hg.clean t
    have hown : m ∈ c.held t := (obeys_lawful.release (hcode ▸ hg.obeys t)).1
    refine ⟨hobeys, fun t' => ?_, fun t' a i ha hi => ?_⟩
    · by_cases ht : t' = t
      · subst ht
        rw [Processes.code_put_self]
        exact (clean_cons.mp hclean).2
      · rw [Processes.code_put_of_ne ht]
        exact hg.clean t'
    · by_cases ht : t' = t
      · subst ht
        rw [Processes.code_put_self] at ha
        obtain ⟨hinputs, hactive⟩ := hg.chosen t' a i (hcode ▸ List.mem_cons_of_mem _ ha) hi
        rw [Processes.held_put, Processes.held_give_none]
        refine ⟨⟨hinputs, ?_⟩, hactive⟩
        -- `lock_inputs` is given back only where nothing is chosen
        rintro rfl
        cases ((clean_cons.mp hclean).1 rfl).symm.trans (hasChosen_of_mem ha hi)
      -- a mutex is given back by the thread that holds it
      · rw [Processes.code_put_of_ne ht] at ha
        have hother : m ∉ c.held t' := fun hm => ht (Processes.held_unique hm hown)
        rw [Processes.held_put, Processes.held_give_none_of_notMem hother]
        exact chosen_others hg ht ha hi (.inl rfl)
  | @acted t a s more rest hcode hact =>
    have hown : discipline.Obeys t (c.held t) (.act a :: rest) := hcode ▸ hg.obeys t
    have hclean : clean (.act a :: rest) = true := hcode ▸ hg.clean t
    refine ⟨hobeys, fun t' => ?_, fun t' b i hb hi => ?_⟩
    · by_cases ht : t' = t
      · subst ht
        rw [Processes.code_put_self]
        exact clean_more hown hclean hact
      · rw [Processes.code_put_of_ne ht]
        exact hg.clean t'
    by_cases ht : t' = t
    · subst ht
      rw [Processes.code_put_self] at hb
      -- an action of a thread that has chosen an input does not write `active_input`
      have hsame (hchosen : chosen a = some i ∨ hasChosen rest = true)
          (hactive : c.shared.dev.hal.activeInput = some i) : s.dev.hal.activeInput = some i := by
        have hquiet : writesActive a = false := by
          rcases hchosen with hchosen | hrest
          · cases a <;> first | rfl | cases hchosen
          · cases ha : writesActive a with
            | false => rfl
            | true =>
              have hbreaks : breaks (.act a) = true := by
                show (writesActive a || _) = true
                rw [ha, Bool.true_or]
              cases ((clean_cons.mp hclean).1 hbreaks).symm.trans hrest
        exact (act_activeInput hquiet hact).trans hactive
      -- what the action puts before the rest, and the rest
      rcases List.mem_append.mp hb with hb | hb
      · rcases (follows_more hact hb).chosen i hi with hchosen | ⟨hchooses, hactive⟩
        · obtain ⟨hinputs, hactive⟩ := hg.chosen t' a i (hcode ▸ List.mem_cons_self) hchosen
          exact ⟨hinputs, hsame (.inl hchosen) hactive⟩
        · exact ⟨lockInputs_of_chooses hown hchooses, hactive⟩
      · obtain ⟨hinputs, hactive⟩ := hg.chosen t' b i (hcode ▸ List.mem_cons_of_mem _ hb) hi
        exact ⟨hinputs, hsame (.inr (hasChosen_of_mem hb hi)) hactive⟩
    · rw [Processes.code_put_of_ne ht] at hb
      rw [Processes.held_put]
      refine chosen_others hg ht hb hi ?_
      cases ha : writesActive a with
      | false => exact .inl (act_activeInput ha hact)
      | true => exact .inr (lockInputs_of_writesActive hown ha)

end

/-! ## 2. The streams that calls hold on to -/

variable {active : Option InId} {d : State T}

/-- What the code of a thread relies on: the stream it will free is open, and not called any more;
the stream it may start is one it is in a call on. -/
structure Relies (s : SharedDevice T) (t : T) (code : Code) : Prop where
  free : ∀ i freed, .act (.freeInput i freed) ∈ code →
    s.dev.inOpen i = true ∧ s.known i = false ∧ s.callers i = []
  starts : ∀ a i, .act a ∈ code → starts a = some i → t ∈ s.callers i

/-- Streams are open while the framework has them, and while they are called. -/
structure Owned (c : State T) : Prop where
  known : ∀ i, c.shared.known i = true → c.shared.dev.inOpen i = true
  callers : ∀ t i, t ∈ c.shared.callers i → c.shared.dev.inOpen i = true
  active : ∀ i, c.shared.dev.hal.activeInput = some i → c.shared.dev.inOpen i = true
  relies : ∀ t, Relies c.shared t (c.code t)
  freed : ∀ t t' i f f', .act (.freeInput i f) ∈ c.code t → .act (.freeInput i f') ∈ c.code t' → t = t'

theorem Start.owned (h : Start c) : Owned c := by
  refine ⟨fun i hi => ?_, fun t i ht => ?_, fun i hi => ?_, fun t => ⟨fun i f hf => ?_,
    fun a i ha => ?_⟩, fun t t' i f f' hf => ?_⟩
  · cases (h.known i).symm.trans hi
  · rw [h.callers i] at ht
    cases ht
  · cases h.activeInput.symm.trans hi
  · rw [h.code t] at hf
    cases hf
  · rw [h.code t] at ha
    cases ha
  · rw [h.code t] at hf
    cases hf

/-- The same streams, and the same code or less. -/
structure Shrinks (c d : State T) : Prop where
  streams : d.shared.dev.inOpen = c.shared.dev.inOpen ∧ d.shared.known = c.shared.known ∧
    d.shared.callers = c.shared.callers
  active : ∀ i, d.shared.dev.hal.activeInput = some i → c.shared.dev.hal.activeInput = some i ∨
    ∃ t, t ∈ c.shared.callers i
  free : ∀ t i f, .act (.freeInput i f) ∈ d.code t → .act (.freeInput i f) ∈ c.code t
  starts : ∀ t a i, .act a ∈ d.code t → starts a = some i → ∃ b, .act b ∈ c.code t ∧ starts b = some i

theorem Owned.shrinks (hc : Owned c) (h : Shrinks c d) : Owned d := by
  obtain ⟨hopen, hknown, hcallers⟩ := h.streams
  refine ⟨?_, ?_, ?_, fun t => ⟨?_, ?_⟩, ?_⟩
  · rw [hopen, hknown]
    exact hc.known
  · rw [hopen, hcallers]
    exact hc.callers
  · intro i hi
    rw [hopen]
    rcases h.active i hi with hactive | ⟨t, ht⟩
    · exact hc.active i hactive
    · exact hc.callers t i ht
  · rw [hopen, hknown, hcallers]
    exact fun i freed hf => (hc.relies t).free i freed (h.free t i freed hf)
  · intro a i ha hi
    obtain ⟨b, hb, hib⟩ := h.starts t a i ha hi
    rw [hcallers]
    exact (hc.relies t).starts b i hb hib
  · exact fun t t' i f f' hf hf' => hc.freed t t' i f f' (h.free t i f hf) (h.free t' i f' hf')

section

variable [DecidableEq T]

/-- A thread goes on with a part of its code. -/
theorem shrinks_put {t : T} {code code' : Code} (hstart : d.shared = c.shared ∧ d.code = c.code)
    (hcode : c.code t = code) (hsub : code' ⊆ code) : Shrinks c (d.put t c.shared code') := by
  have hmem (t' : T) (x : Instr HalMutex HalAct) (hx : x ∈ (d.put t c.shared code').code t') :
      x ∈ c.code t' := by
    by_cases ht : t' = t
    · subst ht
      rw [Processes.code_put_self] at hx
      exact hcode ▸ hsub hx
    · rwa [Processes.code_put_of_ne ht, hstart.2] at hx
  exact ⟨⟨rfl, rfl, rfl⟩, fun _ hi => .inl hi, fun t' _ _ hf => hmem t' _ hf,
    fun t' b _ hb hi => ⟨b, hmem t' _ hb, hi⟩⟩

/-- An action that ends no stream and no call. -/
theorem shrinks_act {t : T} (hc : Owned c) (hcode : c.code t = .act a :: rest)
    (hfree : ∀ i freed, a ≠ .freeInput i freed) (hleave : ∀ i, a ≠ .leave i)
    (hact : act t a c.shared = some (s, more)) : Shrinks c (c.put t s (more ++ rest)) := by
  have hhead : .act a ∈ c.code t := by
    rw [hcode]
    exact List.mem_cons_self
  have hmem (t' : T) (b : HalAct) (hb : .act b ∈ (c.put t s (more ++ rest)).code t') :
      .act b ∈ c.code t' ∨ t' = t ∧ Follows a s b := by
    by_cases ht : t' = t
    · subst ht
      rw [Processes.code_put_self] at hb
      rcases List.mem_append.mp hb with hb | hb
      · exact .inr ⟨rfl, follows_more hact hb⟩
      · rw [hcode]
        exact .inl (List.mem_cons_of_mem _ hb)
    · rw [Processes.code_put_of_ne ht] at hb
      exact .inl hb
  refine ⟨act_streams hfree hleave hact, fun i hi => ?_, fun t' i f hf => ?_, fun t' b i hb hi => ?_⟩
  -- a stream that becomes the active input is called by the thread that starts it
  · rcases act_activeInput_cases hact with hsame | hnone | ⟨j, r, rfl, hj⟩
    · exact .inl (hsame ▸ hi)
    · cases hnone.symm.trans hi
    · obtain rfl := Option.some.inj (hj.symm.trans hi)
      exact .inr ⟨t, (hc.relies t).starts _ _ hhead rfl⟩
  · rcases hmem t' _ hf with hf | ⟨_, hfollows⟩
    · exact hf
    · exact absurd rfl (hfollows.free i f)
  · rcases hmem t' b hb with hb | ⟨rfl, hfollows⟩
    · exact ⟨b, hb, hi⟩
    · exact ⟨a, hhead, hfollows.starts i hi⟩

/-- A call returns: its thread has no code left. -/
theorem Owned.leave {t : T} (hc : Owned c) (hcode : c.code t = [.act (.leave i)])
    (hact : act t (.leave i) c.shared = some (s, more)) : Owned (c.put t s (more ++ [])) := by
  obtain ⟨rfl, rfl⟩ := Prod.mk.inj (Option.some.inj hact)
  have hcallers (t' : T) (j : InId) : t' ∈ Function.update c.shared.callers i
      ((c.shared.callers i).filter (· ≠ t)) j ↔ t' ∈ c.shared.callers j ∧ (j = i → t' ≠ t) := by
    by_cases hj : j = i
    · subst hj
      rw [Function.update_self, List.mem_filter, decide_eq_true_iff]
      exact and_congr_right fun _ => ⟨fun ht _ => ht, fun ht => ht rfl⟩
    · rw [Function.update_of_ne hj]
      exact (and_iff_left fun h => absurd h hj).symm
  have hcode' (t' : T) (x : Instr HalMutex HalAct) (hx : x ∈ Function.update c.code t [] t') :
      t' ≠ t ∧ x ∈ c.code t' := by
    by_cases ht : t' = t
    · subst ht
      rw [Function.update_self] at hx
      cases hx
    · rw [Function.update_of_ne ht] at hx
      exact ⟨ht, hx⟩
  refine ⟨hc.known, ?_, hc.active, fun t' => ⟨?_, ?_⟩, ?_⟩
  · exact fun t' j ht' => hc.callers t' j ((hcallers t' j).mp ht').1
  · intro j freed hf
    obtain ⟨hopen, hknown, hnone⟩ := (hc.relies t').free j freed (hcode' t' _ hf).2
    refine ⟨hopen, hknown, List.eq_nil_iff_forall_not_mem.mpr fun t'' ht'' => ?_⟩
    have hcaller := ((hcallers t'' j).mp ht'').1
    rw [hnone] at hcaller
    cases hcaller
  · intro b j hb hj
    obtain ⟨ht, hb⟩ := hcode' t' _ hb
    exact (hcallers t' j).mpr ⟨(hc.relies t').starts b j hb hj, fun _ => ht⟩
  · exact fun t₁ t₂ j f f' hf hf' => hc.freed t₁ t₂ j f f' (hcode' t₁ _ hf).2 (hcode' t₂ _ hf').2

/-- A stream that is not the active input is freed. -/
theorem Owned.free {t : T} {freed : StreamIn} (hc : Owned c)
    (hcode : c.code t = [.act (.freeInput i freed), .release .lockInputs])
    (hactive : c.shared.dev.hal.activeInput ≠ some i)
    (hact : act t (.freeInput i freed) c.shared = some (s, more)) :
    Owned (c.put t s (more ++ [.release .lockInputs])) := by
  obtain ⟨rfl, rfl⟩ := Prod.mk.inj (Option.some.inj hact)
  have hhead : .act (.freeInput i freed) ∈ c.code t := by
    rw [hcode]
    exact List.mem_cons_self
  obtain ⟨_, hknown, hnone⟩ := (hc.relies t).free i freed hhead
  have hopen (j : InId) (hj : j ≠ i) (h : c.shared.dev.inOpen j = true) :
      Function.update c.shared.dev.inOpen i false j = true := by
    rw [Function.update_of_ne hj]
    exact h
  have hcode' (t' : T) (b : HalAct) (hb : .act b ∈ Function.update c.code t [.release .lockInputs] t') :
      t' ≠ t ∧ .act b ∈ c.code t' := by
    by_cases ht : t' = t
    · subst ht
      rw [Function.update_self] at hb
      cases List.mem_singleton.mp hb
    · rw [Function.update_of_ne ht] at hb
      exact ⟨ht, hb⟩
  refine ⟨fun j hj => ?_, fun t' j ht' => ?_, fun j hj => ?_, fun t' => ⟨fun j f hf => ?_, ?_⟩, ?_⟩
  · refine hopen j ?_ (hc.known j hj)
    rintro rfl
    cases hknown.symm.trans hj
  · refine hopen j ?_ (hc.callers t' j ht')
    rintro rfl
    have ht' : t' ∈ c.shared.callers j := ht'
    rw [hnone] at ht'
    cases ht'
  · refine hopen j ?_ (hc.active j hj)
    rintro rfl
    exact hactive hj
  -- no other thread is going to free the same stream
  · obtain ⟨ht, hother⟩ := hcode' t' _ hf
    obtain ⟨hj, hclosed⟩ := (hc.relies t').free j f hother
    refine ⟨hopen j ?_ hj, hclosed⟩
    rintro rfl
    exact ht (hc.freed t' t j f freed hother hhead)
  · exact fun b j hb hj => (hc.relies t').starts b j (hcode' t' _ hb).2 hj
  · exact fun t₁ t₂ j f f' hf hf' => hc.freed t₁ t₂ j f f' (hcode' t₁ _ hf).2 (hcode' t₂ _ hf').2

/-- A call that no stream is opened, closed or started by. -/
theorem shrinks_tame {t : T} (htame : Tame code) :
    Shrinks c (c.put t c.shared code) := by
  have hother (t' : T) (b : HalAct) (hb : .act b ∈ (c.put t c.shared code).code t') :
      tame b = true ∨ .act b ∈ c.code t' := by
    by_cases ht : t' = t
    · subst ht
      rw [Processes.code_put_self] at hb
      exact .inl (htame b hb)
    · rw [Processes.code_put_of_ne ht] at hb
      exact .inr hb
  refine ⟨⟨rfl, rfl, rfl⟩, fun _ hi => .inl hi, fun t' i f hf => ?_, fun t' b i hb hi => ?_⟩
  · exact (hother t' _ hf).resolve_left fun htame => by cases htame
  · rcases hother t' b hb with htame | hb
    · cases (starts_of_tame htame).symm.trans hi
    · exact ⟨b, hb, hi⟩

/-- A callback of an input stream frees none, and starts that one at most. -/
theorem inputCode_acts {j : InId} (hcode : inputCode call = some (j, code)) {b : HalAct}
    (hb : .act b ∈ code) : (∀ i f, b ≠ .freeInput i f) ∧ ∀ i, starts b = some i → i = j := by
  have hquiet (htame : tame b = true) :
      (∀ i f, b ≠ .freeInput i f) ∧ ∀ i, starts b = some i → i = j := by
    refine ⟨?_, fun i hi => ?_⟩
    · rintro i f rfl
      cases htame
    · cases (starts_of_tame htame).symm.trans hi
  have hunder {k : InId} {a : HalAct} (ha : tame a = true) : Tame (underInput k a) :=
    tame_acquire (tame_append tame_lockInputStream (tame_acquire (tame_act ha (tame_release
      (tame_release (tame_release (tame_act rfl tame_nil)))))))
  cases call with
  | inRead k r =>
    obtain ⟨rfl, rfl⟩ := Prod.mk.inj (Option.some.inj hcode)
    rcases List.mem_append.mp hb with hb | hb
    · exact hquiet (tame_lockInputStream b hb)
    · cases List.mem_singleton.mp hb
      exact ⟨fun _ _ h => (by cases h), fun i hi => (Option.some.inj hi).symm⟩
  | inStandby k =>
    obtain ⟨rfl, rfl⟩ := Prod.mk.inj (Option.some.inj hcode)
    exact hquiet (tame_append tame_standbyIn (tame_act rfl tame_nil) b hb)
  | inSetParameters k source routing =>
    obtain ⟨rfl, rfl⟩ := Prod.mk.inj (Option.some.inj hcode)
    exact hquiet (hunder rfl b hb)
  | addAudioEffect k aec auxChanged =>
    obtain ⟨rfl, rfl⟩ := Prod.mk.inj (Option.some.inj hcode)
    exact hquiet (hunder rfl b hb)
  | removeAudioEffect k aec =>
    obtain ⟨rfl, rfl⟩ := Prod.mk.inj (Option.some.inj hcode)
    exact hquiet (hunder rfl b hb)
  | _ => cases hcode

/-- Closing frees the stream that is closed. -/
theorem closeCode_acts {freed : StreamIn} {b : HalAct} (hb : .act b ∈ closeCode i freed) :
    starts b = none ∧ ∀ j f, b = .freeInput j f → j = i := by
  rcases List.mem_append.mp hb with hb | hb
  · have htame := tame_append (tame_acquire tame_nil) tame_standbyInL b hb
    refine ⟨starts_of_tame htame, ?_⟩
    rintro j f rfl
    cases htame
  rcases List.mem_cons.mp hb with hb | hb
  · cases hb
    refine ⟨rfl, fun j f hj => ?_⟩
    cases hj
    rfl
  · cases List.mem_singleton.mp hb

/-- A thread that enters a callback has the stream from the framework. -/
theorem Owned.enter_input {t : T} {j : InId} (hc : Owned c) (hcode : inputCode call = some (j, code))
    (hknown : c.shared.known j = true) :
    Owned (c.put t
      { c.shared with callers := Function.update c.shared.callers j (t :: c.shared.callers j) }
      code) := by
  have hother (t' : T) (b : HalAct) (hb : .act b ∈ Function.update c.code t code t') :
      t' = t ∧ .act b ∈ code ∨ .act b ∈ c.code t' := by
    by_cases ht : t' = t
    · subst ht
      rw [Function.update_self] at hb
      exact .inl ⟨rfl, hb⟩
    · rw [Function.update_of_ne ht] at hb
      exact .inr hb
  have hfree (t' : T) (i : InId) (f : StreamIn)
      (hf : .act (.freeInput i f) ∈ Function.update c.code t code t') :
      .act (.freeInput i f) ∈ c.code t' := by
    rcases hother t' _ hf with ⟨_, hf⟩ | hf
    · exact absurd rfl ((inputCode_acts hcode hf).1 i f)
    · exact hf
  have hcallers (t' : T) (i : InId) : t' ∈ Function.update c.shared.callers j
      (t :: c.shared.callers j) i ↔ t' ∈ c.shared.callers i ∨ i = j ∧ t' = t := by
    by_cases hi : i = j
    · subst hi
      rw [Function.update_self, List.mem_cons, or_comm]
      exact or_congr_right (and_iff_right rfl).symm
    · rw [Function.update_of_ne hi]
      exact (or_iff_left fun h => hi h.1).symm
  refine ⟨hc.known, fun t' i ht' => ?_, hc.active, fun t' => ⟨fun i f hf => ?_, fun b i hb hi => ?_⟩, ?_⟩
  · rcases (hcallers t' i).mp ht' with ht' | ⟨rfl, _⟩
    · exact hc.callers t' i ht'
    · exact hc.known i hknown
  · obtain ⟨hopen, hclosed, hnone⟩ := (hc.relies t').free i f (hfree t' i f hf)
    have hi : i ≠ j := by
      rintro rfl
      cases hclosed.symm.trans hknown
    exact ⟨hopen, hclosed, (Function.update_of_ne hi _ _).trans hnone⟩
  · refine (hcallers t' i).mpr ?_
    rcases hother t' b hb with ⟨ht, hb⟩ | hb
    · exact .inr ⟨(inputCode_acts hcode hb).2 i hi, ht⟩
    · exact .inl ((hc.relies t').starts b i hb hi)
  · exact fun t₁ t₂ i f f' hf hf' => hc.freed t₁ t₂ i f f' (hfree t₁ i f hf) (hfree t₂ i f' hf')

theorem Owned.enter_open {t : T} {config : InputConfig} (hc : Owned c)
    (hclosed : c.shared.dev.inOpen i = false) :
    Owned (c.put t { c.shared with
      dev := (c.shared.dev.openInputStream i config).2
      known := Function.update c.shared.known i (config.check = 0) } []) := by
  have hstreams : (c.shared.dev.openInputStream i config).2.inOpen =
      Function.update c.shared.dev.inOpen i (decide (config.check = 0)) ∧
      (c.shared.dev.openInputStream i config).2.hal.activeInput = c.shared.dev.hal.activeInput := by
    unfold AudioDevice.openInputStream
    by_cases hcheck : config.check = 0
    · rw [if_neg (not_not.mpr hcheck), decide_eq_true hcheck]
      exact ⟨rfl, rfl⟩
    · rw [if_pos hcheck, decide_eq_false hcheck, ← hclosed, Function.update_eq_self]
      exact ⟨rfl, rfl⟩
  have hopened (j : InId) (hj : c.shared.dev.inOpen j = true) :
      (c.shared.dev.openInputStream i config).2.inOpen j = true := by
    have hne : j ≠ i := by
      rintro rfl
      cases hclosed.symm.trans hj
    rw [hstreams.1, Function.update_of_ne hne]
    exact hj
  have hcode (t' : T) (x : Instr HalMutex HalAct) (hx : x ∈ Function.update c.code t [] t') :
      x ∈ c.code t' := by
    by_cases ht : t' = t
    · subst ht
      rw [Function.update_self] at hx
      cases hx
    · rwa [Function.update_of_ne ht] at hx
  refine ⟨fun j hj => ?_, fun t' j ht' => hopened j (hc.callers t' j ht'), fun j hj => ?_,
    fun t' => ⟨fun j f hf => ?_, ?_⟩, ?_⟩
  · show (c.shared.dev.openInputStream i config).2.inOpen j = true
    by_cases hij : j = i
    · subst hij
      rw [hstreams.1, Function.update_self]
      exact (Function.update_self ..).symm.trans hj
    · exact hopened j (hc.known j ((Function.update_of_ne hij ..).symm.trans hj))
  · exact hopened j (hc.active j (hstreams.2.symm.trans hj))
  · obtain ⟨hopen, hunknown, hnone⟩ := (hc.relies t').free j f (hcode t' _ hf)
    have hij : j ≠ i := by
      rintro rfl
      cases hclosed.symm.trans hopen
    exact ⟨hopened j hopen, (Function.update_of_ne hij ..).trans hunknown, hnone⟩
  · exact fun b j hb hj => (hc.relies t').starts b j (hcode t' _ hb) hj
  · exact fun t₁ t₂ j f f' hf hf' => hc.freed t₁ t₂ j f f' (hcode t₁ _ hf) (hcode t₂ _ hf')

theorem Owned.enter_close {t : T} {freed : StreamIn} (hc : Owned c)
    (hknown : c.shared.known i = true) (hnone : c.shared.callers i = []) :
    Owned (c.put t { c.shared with known := Function.update c.shared.known i false }
      (closeCode i freed)) := by
  have hother (t' : T) (b : HalAct) (hb : .act b ∈ Function.update c.code t (closeCode i freed) t') :
      t' = t ∧ .act b ∈ closeCode i freed ∨ .act b ∈ c.code t' := by
    by_cases ht : t' = t
    · subst ht
      rw [Function.update_self] at hb
      exact .inl ⟨rfl, hb⟩
    · rw [Function.update_of_ne ht] at hb
      exact .inr hb
  -- whatever was going to be freed before was not known any more
  have hfree (t' : T) (j : InId) (f : StreamIn)
      (hf : .act (.freeInput j f) ∈ Function.update c.code t (closeCode i freed) t') :
      t' = t ∧ j = i ∨ j ≠ i ∧ .act (.freeInput j f) ∈ c.code t' := by
    rcases hother t' _ hf with ⟨ht, hclose⟩ | hbefore
    · exact .inl ⟨ht, (closeCode_acts hclose).2 j f rfl⟩
    · refine .inr ⟨?_, hbefore⟩
      rintro rfl
      cases ((hc.relies t').free j f hbefore).2.1.symm.trans hknown
  refine ⟨fun j hj => ?_, hc.callers, hc.active, fun t' => ⟨fun j f hf => ?_, fun b j hb hj => ?_⟩,
    fun t₁ t₂ j f f' hf hf' => ?_⟩
  · by_cases hij : j = i
    · subst hij
      cases (Function.update_self ..).symm.trans hj
    · exact hc.known j ((Function.update_of_ne hij ..).symm.trans hj)
  · rcases hfree t' j f hf with ⟨_, rfl⟩ | ⟨hij, hf⟩
    · exact ⟨hc.known j hknown, Function.update_self .., hnone⟩
    · obtain ⟨hopen, hunknown, hcallers⟩ := (hc.relies t').free j f hf
      exact ⟨hopen, (Function.update_of_ne hij ..).trans hunknown, hcallers⟩
  · rcases hother t' b hb with ⟨_, hb⟩ | hb
    · cases (closeCode_acts hb).1.symm.trans hj
    · exact (hc.relies t').starts b j hb hj
  -- one thread only is going to free the stream: it was known until now
  · rcases hfree t₁ j f hf with ⟨rfl, rfl⟩ | ⟨hij, hf⟩
    · rcases hfree t₂ j f' hf' with ⟨rfl, _⟩ | ⟨hij, _⟩
      · rfl
      · exact absurd rfl hij
    · rcases hfree t₂ j f' hf' with ⟨_, hij'⟩ | ⟨_, hf'⟩
      · exact absurd hij' hij
      · exact hc.freed t₁ t₂ j f f' hf hf'

theorem Owned.enter {t : T} (hc : Owned c) (henter : enter t call c.shared = some (s, code)) :
    Owned (c.put t s code) := by
  have hinput {j : InId} {code' : Code} (hcode : inputCode call = some (j, code'))
      (hsome : (if c.shared.known j then
        some ({ c.shared with callers := Function.update c.shared.callers j (t :: c.shared.callers j) },
          code')
        else none) = some (s, code)) : Owned (c.put t s code) := by
    split at hsome
    · rename_i hknown
      obtain ⟨rfl, rfl⟩ := Prod.mk.inj (Option.some.inj hsome)
      exact hc.enter_input hcode hknown
    · cases hsome
  cases call with
  | outWrite o w =>
    obtain ⟨rfl, rfl⟩ := Prod.mk.inj (Option.some.inj henter)
    exact hc.shrinks (shrinks_tame (tame_append tame_lockOutputStream (tame_act rfl tame_nil)))
  | outSetParameters o val allocated =>
    obtain ⟨rfl, rfl⟩ := Prod.mk.inj (Option.some.inj henter)
    exact hc.shrinks (shrinks_tame (tame_acquire (tame_append tame_lockOutputStream
      (tame_acquire (tame_act rfl tame_nil)))))
  | adevOpenInputStream i config =>
    simp only [SharedDevice.enter] at henter
    split at henter
    · cases henter
    · rename_i hclosed
      obtain ⟨rfl, rfl⟩ := Prod.mk.inj (Option.some.inj henter)
      exact hc.enter_open (Bool.eq_false_iff.mpr hclosed)
  | adevCloseInputStream i freed =>
    simp only [SharedDevice.enter] at henter
    split at henter
    · rename_i hfree
      obtain ⟨rfl, rfl⟩ := Prod.mk.inj (Option.some.inj henter)
      exact hc.enter_close hfree.1 (List.isEmpty_iff.mp hfree.2)
    · cases henter
  | inRead i r => exact hinput rfl henter
  | inStandby i => exact hinput rfl henter
  | inSetParameters i source routing => exact hinput rfl henter
  | addAudioEffect i aec auxChanged => exact hinput rfl henter
  | removeAudioEffect i aec => exact hinput rfl henter

/-! ## 3. Runs -/

/-- A stream that is freed next is not the active input. -/
def FreesInactive (c : State T) : Turn T Call → Prop
  | .run t =>
    match c.code t with
    | .act (.freeInput i _) :: _ => c.shared.dev.hal.activeInput ≠ some i
    | _ => True
  | .enter _ _ => True

instance (c : State T) (turn : Turn T Call) : Decidable (FreesInactive c turn) := by
  unfold FreesInactive
  split
  · split <;> infer_instance
  · infer_instance

theorem owned_step {turn : Turn T Call} (hg : Guarded c) (hc : Owned c) (hok : FreesInactive c turn)
    (hstep : program.step c turn = some d) : Owned d := by
  cases Program.step_cases hstep with
  | entered hidle henter => exact hc.enter henter
  | acquired hcode hfree =>
    exact hc.shrinks (shrinks_put ⟨rfl, rfl⟩ hcode (List.subset_cons_self ..))
  | released hcode =>
    exact hc.shrinks (shrinks_put ⟨rfl, rfl⟩ hcode (List.subset_cons_self ..))
  | @acted t a s more rest hcode hact =>
    have hobeys : discipline.Obeys t (c.held t) (.act a :: rest) := hcode ▸ hg.obeys t
    by_cases hfree : ∃ i freed, a = .freeInput i freed
    · obtain ⟨i, freed, rfl⟩ := hfree
      -- the last action of `adev_close_input_stream`
      have hrest : rest = [.release .lockInputs] := ((Discipline.obeys_act rfl).mp hobeys).1.2
      have hactive : c.shared.dev.hal.activeInput ≠ some i := by
        simp only [FreesInactive, hcode] at hok
        exact hok
      subst hrest
      exact hc.free hcode hactive hact
    by_cases hleave : ∃ i, a = .leave i
    · obtain ⟨i, rfl⟩ := hleave
      -- a call returns with nothing left to do
      have hrest : rest = [] := ((Discipline.obeys_act rfl).mp hobeys).1
      subst hrest
      exact hc.leave hcode hact
    · exact hc.shrinks (shrinks_act hc hcode (fun i f h => hfree ⟨i, f, h⟩)
        (fun i h => hleave ⟨i, h⟩) hact)

theorem guarded_run {c₀ : State T} {turns : List (Turn T Call)} (hstart : Start c₀)
    (hrun : Exec (guarded program.step) c₀ turns c) : Guarded c := by
  have hpreserved (c : State T) (turn : Turn T Call) (d : State T) (hg : Guarded c)
      (hstep : guarded program.step c turn d) : Guarded d := guarded_step hg hstep
  exact hrun.invariant hpreserved hstart.guarded

/-- The check that the chosen input is still the active one does not fail: no run reaches a state
where it would. -/
theorem assert_active {c₀ : State T} {turns : List (Turn T Call)} (hstart : Start c₀)
    (hrun : Exec (guarded program.step) c₀ turns c) {t : T}
    (hcode : c.code t = .act (.assertActive i) :: rest) : c.shared.dev.hal.activeInput = some i := by
  refine ((guarded_run hstart hrun).chosen t (.assertActive i) i ?_ rfl).2
  rw [hcode]
  exact List.mem_cons_self

/-- Wherever the check is made, the input is the active one, and it is open. -/
def Safe (c : State T) : Prop :=
  ∀ t i rest, c.code t = .act (.assertActive i) :: rest →
    c.shared.dev.hal.activeInput = some i ∧ c.shared.dev.inOpen i = true

/-- Where no stream is freed while it is the active input, the input that is put to standby is the
active one, and it is open. -/
theorem safe_of_freesInactive {c₀ : State T} {turns : List (Turn T Call)} (hstart : Start c₀)
    (hrun : ExecWhere FreesInactive (guarded program.step) c₀ turns c) : Safe c := by
  have hpreserved (c : State T) (turn : Turn T Call) (d : State T) (hc : Guarded c ∧ Owned c)
      (hok : FreesInactive c turn) (hstep : guarded program.step c turn d) :
      Guarded d ∧ Owned d :=
    ⟨guarded_step hc.1 hstep, owned_step hc.1 hc.2 hok hstep⟩
  obtain ⟨hg, hc⟩ := ExecWhere.invariant hpreserved hrun ⟨hstart.guarded, hstart.owned⟩
  intro t i rest hcode
  have hhead : .act (.assertActive i) ∈ c.code t := by
    rw [hcode]
    exact List.mem_cons_self
  have hactive := (hg.chosen t (.assertActive i) i hhead rfl).2
  exact ⟨hactive, hc.active i hactive⟩

end

/-! ## 4. A recording and a playback -/

def idle : State Nat where
  shared := ⟨AudioDevice.fresh false, fun _ => false, fun _ => []⟩
  owner _ := none
  code _ := []

theorem idle_start : Start idle where
  activeInput := rfl
  inOpen _ := rfl
  known _ := rfl
  callers _ := rfl
  owner _ := rfl
  code _ := rfl

/-- Thread 0 opens an input and reads from it. -/
def readTurns (config : InputConfig) (r : InputRead) (n : Nat) : List (Turn Nat Call) :=
  [.enter 0 (.adevOpenInputStream 0 config), .enter 0 (.inRead 0 r)] ++
    List.replicate n (.run 0)

/-- Thread 1 writes to an output that is in standby, up to the check of the input it has chosen. -/
def writeTurns : List (Turn Nat Call) :=
  .enter 1 (.outWrite 0 ⟨⟨true, true⟩, true, ⟨⟨true, true⟩, true, true⟩, false⟩) ::
    List.replicate 20 (.run 1)

/-- The input that is checked next. -/
def checkedNext : Code → Option InId
  | .act (.assertActive i) :: _ => some i
  | _ => none

theorem checkedNext_eq_some :
    checkedNext code = some i ↔ ∃ rest, code = .act (.assertActive i) :: rest := by
  constructor
  · intro h
    unfold checkedNext at h
    split at h
    · obtain rfl := Option.some.inj h
      exact ⟨_, rfl⟩
    · cases h
  · rintro ⟨rest, rfl⟩
    rfl

/-- The playback starts while the input records. -/
def recordingForced : List (Turn Nat Call) :=
  readTurns AudioDevice.recorder ⟨AudioDevice.startedInput, true⟩ 18 ++ writeTurns

def afterTurns (turns : List (Turn Nat Call)) : State Nat := (turns.foldlM program.step idle).getD idle

theorem safe_recordingForced : Safe (afterTurns recordingForced) ∧
    checkedNext ((afterTurns recordingForced).code 1) = some 0 := by
  have hwhere : ExecWhere FreesInactive (guarded program.step) idle recordingForced
      (afterTurns recordingForced) := ExecWhere.of_isSome (by decide +kernel)
  exact ⟨safe_of_freesInactive idle_start hwhere, by decide +kernel⟩

/-- A recorder that needs a resampler. -/
def resampled : InputConfig := { AudioDevice.recorder with sampleRate := 16000 }

/-- The resampler is not created for want of memory, and the input is closed before the playback
starts. -/
def closedForced : List (Turn Nat Call) :=
  readTurns resampled ⟨⟨true, true, -12, true, true⟩, true⟩ 23 ++
    (.enter 0 (.adevCloseInputStream 0 resampled.stream) :: List.replicate 8 (.run 0)) ++ writeTurns

/-- `out_write` puts an input to standby that was freed. -/
theorem freed_input_forced : ¬∀ (c₀ c : State Nat) (turns : List (Turn Nat Call)), Start c₀ →
    Exec (guarded program.step) c₀ turns c → Safe c := by
  intro hall
  have hsafe := hall idle (afterTurns closedForced) closedForced idle_start
    (Exec.computed (by decide +kernel))
  have hchecked : checkedNext ((afterTurns closedForced).code 1) = some 0 := by decide +kernel
  obtain ⟨rest, hrest⟩ := checkedNext_eq_some.mp hchecked
  have hopen := (hsafe 1 0 rest hrest).2
  exact absurd hopen (by decide +kernel)

end SharedDevice

end Universal7870.Audio
