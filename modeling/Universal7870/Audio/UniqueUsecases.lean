import Mathlib.Data.List.Nodup
import Universal7870.Audio.StreamRefs

/-!
# One usecase of an id

Nothing looks at the list where a usecase is added to it, so no two listed usecases share an id as
long as each stream that starts, or whose path is enabled again, finds none of its own.
-/

namespace Universal7870.Audio

open Lib

/-! ## 1. What is claimed of a state -/

namespace Hal

/-- No two listed usecases share an id, and none did when a usecase was added; so the usecase that
is found by an id is the one, and a card's node of an id is linked by one usecase. -/
structure UniqueUsecases (h : Hal) : Prop where
  throughout : IdsApart h.routing.log
  ids : (h.routing.usecaseList.map (·.id)).Nodup
  found : ∀ uc u, h.routing.usecaseList[uc]? = some u → h.routing.getUsecaseFromId u.id = some uc
  linked : ∀ card id, (h.routing.usecaseList.countP fun u => u.id = id ∧ card ∈ u.mixerList) ≤ 1

/-- The usecase that an operation lists for its stream is not listed yet. -/
def ListsApart (h : Hal) (op : Op) : Prop :=
  ∀ u ∈ h.lists op, h.routing.getUsecaseFromId u.id = none

instance (h : Hal) (op : Op) : Decidable (h.ListsApart op) :=
  inferInstanceAs (Decidable (∀ u ∈ h.lists op, _))

end Hal

namespace AudioDevice

def ListsApart (d : AudioDevice) : DeviceOp → Prop
  | .call op => d.hal.ListsApart op
  | _ => True

instance (d : AudioDevice) (op : DeviceOp) : Decidable (d.ListsApart op) :=
  match op with
  | .call op => inferInstanceAs (Decidable (d.hal.ListsApart op))
  | .openOutput .. | .closeOutput .. | .openInput .. | .closeInput .. => isTrue trivial

end AudioDevice

/-! ## 2. Ids -/

namespace Routing

def ids (r : Routing) : List UsecaseId := r.usecaseList.map (·.id)

theorem ids_eq_kinds (r : Routing) : r.ids = r.kinds.map (·.1) := by
  unfold ids kinds
  rw [List.map_map]
  rfl

theorem getUsecaseFromId_eq_none {r : Routing} {id : UsecaseId} :
    r.getUsecaseFromId id = none ↔ id ∉ r.ids := by
  unfold getUsecaseFromId ids
  rw [List.findIdx?_eq_none_iff, List.mem_map]
  constructor
  · rintro hnone ⟨u, hu, rfl⟩
    exact of_decide_eq_false (hnone u hu) rfl
  · intro hnone u hu
    exact decide_eq_false fun hid => hnone ⟨u, hu, hid⟩

/-- Where no two usecases share an id, each is found by its own. -/
theorem getUsecaseFromId_of_nodup {r : Routing} (hids : r.ids.Nodup) {uc : Nat} {u : AudioUsecase}
    (hu : r.usecaseList[uc]? = some u) : r.getUsecaseFromId u.id = some uc := by
  obtain ⟨hlt, rfl⟩ := List.getElem?_eq_some_iff.mp hu
  unfold getUsecaseFromId
  rw [List.findIdx?_eq_some_iff_getElem]
  refine ⟨hlt, decide_eq_true rfl, fun j hj hsame => ?_⟩
  have hjlt : j < r.usecaseList.length := Nat.lt_trans hj hlt
  have hlength : r.ids.length = r.usecaseList.length := List.length_map _
  have hjids : j < r.ids.length := hlength ▸ hjlt
  have hucids : uc < r.ids.length := hlength ▸ hlt
  have heq : r.ids[j] = r.ids[uc] := by
    simp only [ids, List.getElem_map]
    exact of_decide_eq_true hsame
  exact absurd (hids.getElem_inj_iff.mp heq) (Nat.ne_of_lt hj)

theorem countP_linked_le {r : Routing} (hids : r.ids.Nodup) (card : Nat) (id : UsecaseId) :
    (r.usecaseList.countP fun u => u.id = id ∧ card ∈ u.mixerList) ≤ 1 := by
  have hcount : r.usecaseList.countP (fun u => u.id = id) = r.ids.count id := by
    unfold ids
    rw [List.count, List.countP_map]
    rfl
  have hle : r.usecaseList.countP (fun u => u.id = id ∧ card ∈ u.mixerList) ≤
      r.usecaseList.countP (fun u => u.id = id) :=
    List.countP_mono_left fun u _ hu => decide_eq_true (of_decide_eq_true hu).1
  rw [hcount] at hle
  exact hle.trans (List.nodup_iff_count_le_one.mp hids id)

end Routing

theorem Quietly.idsApart {log log' : List RouteEvent} (h : Quietly log log') (hids : IdsApart log) :
    IdsApart log' := by
  obtain ⟨later, rfl, hlater⟩ := h
  intro event he
  rcases List.mem_append.mp he with he | he
  · rw [hlater event he]
    exact List.nodup_nil
  · exact hids event he

namespace Hal

variable {h h' : Hal}

/-- No two listed usecases share an id, or ever did. -/
structure Apart (h : Hal) : Prop where
  throughout : IdsApart h.routing.log
  ids : h.routing.ids.Nodup

theorem Apart.unique (ha : h.Apart) : h.UniqueUsecases where
  throughout := ha.throughout
  ids := ha.ids
  found _ _ hu := Routing.getUsecaseFromId_of_nodup ha.ids hu
  linked := Routing.countP_linked_le ha.ids

/-- What gives references up keeps the usecases apart. -/
theorem Apart.drops (ha : h.Apart) (hd : h.Drops h') : h'.Apart where
  throughout := hd.log.idsApart ha.throughout
  ids := by
    have hids := ha.ids
    rw [Routing.ids_eq_kinds] at hids ⊢
    exact hids.sublist (hd.kinds.map _)

theorem ids_addUsecase (r : Routing) (u : AudioUsecase) : (r.addUsecase u).ids = r.ids ++ [u.id] := by
  show List.map _ (r.usecaseList ++ [u]) = _
  rw [List.map_append]
  rfl

theorem nodup_append_singleton {l : List UsecaseId} {id : UsecaseId} :
    (l ++ [id]).Nodup ↔ l.Nodup ∧ id ∉ l := by
  rw [List.nodup_append_comm, List.singleton_append, List.nodup_cons, and_comm]

/-- A usecase keeps them apart that was not listed yet. -/
theorem Apart.adds {u : AudioUsecase} (ha : h.Apart)
    (hrouting : h'.routing = h.routing.addUsecase u)
    (hnone : h.routing.getUsecaseFromId u.id = none) : h'.Apart := by
  have hids : (h.routing.addUsecase u).ids.Nodup := by
    rw [ids_addUsecase]
    exact nodup_append_singleton.mpr ⟨ha.ids, Routing.getUsecaseFromId_eq_none.mp hnone⟩
  refine ⟨?_, by rw [hrouting]; exact hids⟩
  rw [hrouting]
  intro event he
  rcases List.mem_cons.mp he with rfl | he
  · exact hids
  · exact ha.throughout event he

/-- A usecase that is listed already does not. -/
theorem not_listed_of_idsApart {u : AudioUsecase} (hrouting : h'.routing = h.routing.addUsecase u)
    (hids : IdsApart h'.routing.log) : h.routing.getUsecaseFromId u.id = none := by
  rw [hrouting] at hids
  have hnodup : (h.routing.addUsecase u).ids.Nodup := hids _ List.mem_cons_self
  rw [ids_addUsecase] at hnodup
  exact Routing.getUsecaseFromId_eq_none.mpr (nodup_append_singleton.mp hnodup).2

/-! ## 3. Steps -/

/-- The call is listed apart from the others, as it is listed once at most. -/
theorem Apart.listsCall (ha : h.Apart) (hl : h.Listed) (hcall : h.ListsCall h') : h'.Apart := by
  obtain ⟨h₁, o, hd, hl₁, hnone, _, hd'⟩ := hcall
  have hzero := (hl₁ hl).calls
  rw [hnone] at hzero
  have hfound : h₁.routing.getUsecaseFromId .voiceCall = none := by
    rw [Routing.getUsecaseFromId, List.findIdx?_eq_none_iff]
    intro u hu
    exact Bool.not_eq_true _ ▸ List.countP_eq_zero.mp hzero u hu
  have hadded : (h₁.listCall o).Apart := (ha.drops hd).adds rfl hfound
  exact hadded.drops hd'

theorem apart_step {op : Op} (ha : h.Apart) (hl : h.Listed) (hok : h.ListsApart op)
    (hstep : h.step op = some h') : h'.Apart := by
  have hlisting := step_listing hstep
  cases hlists : h.lists op with
  | some u =>
    rw [hlists] at hlisting
    obtain ⟨h₁, hadds, hd⟩ := hlisting
    exact (ha.adds hadds.routing (hok u (Option.mem_def.mpr hlists))).drops hd
  | none =>
    rw [hlists] at hlisting
    rcases hlisting with hd | hcall
    · exact ha.drops hd
    · exact ha.listsCall hl hcall

/-- An operation that leaves the log in order lists apart. -/
theorem listsApart_of_step {op : Op} (hstep : h.step op = some h')
    (hids : IdsApart h'.routing.log) : h.ListsApart op := by
  intro u hu
  have hlisting := step_listing hstep
  rw [Option.mem_def.mp hu] at hlisting
  obtain ⟨h₁, hadds, hd⟩ := hlisting
  exact not_listed_of_idsApart hadds.routing (hids.mono hd.log.suffix)

theorem suffix_step {op : Op} (hstep : h.step op = some h') :
    h.routing.log <:+ h'.routing.log :=
  (keeps_closed.step (fun _ _ => trivial) hstep).log

end Hal

namespace AudioDevice

variable {d d' : AudioDevice}

theorem openOutputStream_routing (d : AudioDevice) (o : OutId) (c : OutputConfig)
    (freed : StreamOut) : (d.openOutputStream o c freed).2.hal.routing = d.hal.routing := by
  unfold openOutputStream
  split
  · rfl
  split
  · rfl
  split
  · rfl
  dsimp only
  split <;> split <;> rfl

/-- An operation on the HAL, or one after which no more is listed than before. -/
theorem step_cases {op : DeviceOp} (hstep : d.step op = some d') :
    (∃ call, op = .call call ∧ d.hal.step call = some d'.hal) ∨
      (∀ call, op ≠ .call call) ∧ ∃ h, d.hal.Drops h ∧ d'.hal.routing = h.routing := by
  cases op with
  | openOutput o c freed =>
    simp only [step] at hstep
    split at hstep
    · cases hstep
    · obtain rfl := Option.some.inj hstep
      exact .inr ⟨by simp, d.hal, .refl _, d.openOutputStream_routing o c freed⟩
  | closeOutput o freed =>
    simp only [step] at hstep
    split at hstep
    · obtain rfl := Option.some.inj hstep
      exact .inr ⟨by simp, _, Hal.drops_outStandby d.hal o, rfl⟩
    · cases hstep
  | openInput i c =>
    simp only [step] at hstep
    split at hstep
    · cases hstep
    · obtain rfl := Option.some.inj hstep
      refine .inr ⟨by simp, d.hal, .refl _, ?_⟩
      unfold openInputStream
      split <;> rfl
  | closeInput i freed =>
    simp only [step] at hstep
    split at hstep
    · obtain rfl := Option.some.inj hstep
      exact .inr ⟨by simp, _, Hal.drops_doInStandby d.hal i, rfl⟩
    · cases hstep
  | call op =>
    simp only [step] at hstep
    split at hstep
    · obtain ⟨h', hcall, rfl⟩ := Option.map_eq_some_iff.mp hstep
      exact .inl ⟨op, rfl, hcall⟩
    · cases hstep

theorem apart_step {op : DeviceOp} (ha : d.hal.Apart) (hl : d.hal.Listed) (hok : d.ListsApart op)
    (hstep : d.step op = some d') : d'.hal.Apart := by
  rcases step_cases hstep with ⟨call, rfl, hcall⟩ | ⟨_, h, hd, hrouting⟩
  · exact Hal.apart_step ha hl hok hcall
  · have hapart := ha.drops hd
    exact ⟨by rw [hrouting]; exact hapart.throughout, by rw [hrouting]; exact hapart.ids⟩

theorem listsApart_of_step {op : DeviceOp} (hstep : d.step op = some d')
    (hids : IdsApart d'.hal.routing.log) : d.ListsApart op := by
  rcases step_cases hstep with ⟨call, rfl, hcall⟩ | ⟨hother, _⟩
  · exact Hal.listsApart_of_step hcall hids
  · cases op with
    | call op => exact absurd rfl (hother op)
    | openOutput o c freed => trivial
    | closeOutput o freed => trivial
    | openInput i c => trivial
    | closeInput i freed => trivial

theorem suffix_step {op : DeviceOp} (hstep : d.step op = some d') :
    d.hal.routing.log <:+ d'.hal.routing.log := by
  rcases step_cases hstep with ⟨call, rfl, hcall⟩ | ⟨_, h, hd, hrouting⟩
  · exact Hal.suffix_step hcall
  · rw [hrouting]
    exact hd.log.suffix

/-! ## 4. Runs -/

theorem start_apart (hstart : Start d) : d.hal.Apart where
  throughout := by
    rw [hstart.hal.routeLog]
    exact nofun
  ids := by
    rw [Routing.ids, hstart.hal.usecaseList]
    exact List.nodup_nil

/-- The log of a run is in order only if every step lists apart. -/
theorem execWhere_listsApart {d₀ : AudioDevice} {ops : List DeviceOp}
    (hrun : Exec (guarded step) d₀ ops d) (hids : IdsApart d.hal.routing.log) :
    ExecWhere ListsApart (guarded step) d₀ ops d ∧ IdsApart d₀.hal.routing.log := by
  induction hrun with
  | nil d => exact ⟨.nil d, hids⟩
  | cons hstep _ ih =>
    obtain ⟨hwhere, hnext⟩ := ih hids
    exact ⟨.cons ⟨listsApart_of_step hstep hnext, hstep⟩ hwhere, hnext.mono (suffix_step hstep)⟩

/-- However streams are opened, used and closed and calls are made, no two usecases share an id at
any point exactly when no stream's usecase is listed, at its start or when its path is enabled
again, while one of its id is. -/
theorem uniqueUsecases_iff_listsApart {d₀ d : AudioDevice} {ops : List DeviceOp}
    (hrun : Reaches d₀ ops d) :
    d.hal.UniqueUsecases ↔ ExecWhere ListsApart (guarded step) d₀ ops d := by
  constructor
  · intro hunique
    exact (execWhere_listsApart hrun.2 hunique.throughout).1
  · intro hwhere
    have hpreserved : ∀ (d : AudioDevice) (op : DeviceOp) (d' : AudioDevice),
        d.hal.Apart ∧ d.hal.Listed → d.ListsApart op → guarded step d op d' →
          d'.hal.Apart ∧ d'.hal.Listed :=
      fun _ _ _ h hok hstep => ⟨apart_step h.1 h.2 hok hstep, step_listed h.2 hstep⟩
    exact (hwhere.invariant hpreserved
      ⟨start_apart hrun.1, Hal.start_listed hrun.1.hal⟩).1.unique

/-- A recorder and its stream. -/
def recorder : InputConfig :=
  ⟨48000, true, 2, AudioDevices.inBuiltinMic, false, .mic, true⟩

def startedInput : Hal.InputStart := ⟨true, true, 0, true, true⟩

/-- A recording ends before the other starts. -/
def recordingsInTurn : List DeviceOp :=
  [.openInput 0 recorder, .openInput 1 recorder, .call (.inStart 0 startedInput),
    .call (.inStandby 0), .call (.inStart 1 startedInput)]

theorem uniqueUsecases_recordingsInTurn :
    ((recordingsInTurn.foldlM step (fresh false)).getD (fresh false)).hal.UniqueUsecases := by
  have hrun : Reaches (fresh false) recordingsInTurn
      ((recordingsInTurn.foldlM step (fresh false)).getD (fresh false)) :=
    ⟨fresh_start false, Exec.computed (by decide +kernel)⟩
  apply (uniqueUsecases_iff_listsApart hrun).mpr
  exact (execWhere_listsApart hrun.2 (by decide +kernel)).1

/-- Two recordings at a time. -/
def recordingsAtOnce : List DeviceOp :=
  [.openInput 0 recorder, .openInput 1 recorder, .call (.inStart 0 startedInput),
    .call (.inStart 1 startedInput)]

/-- The second stream that is started lists the usecase of the first again. -/
theorem capture_listed_twice : ¬∀ (d₀ d : AudioDevice) (ops : List DeviceOp),
    Reaches d₀ ops d → d.hal.UniqueUsecases := by
  intro hall
  have hunique := hall (fresh false) _ recordingsAtOnce
    ⟨fresh_start false, Exec.computed (by decide +kernel)⟩
  exact absurd hunique.throughout (by decide +kernel)

end AudioDevice

end Universal7870.Audio
