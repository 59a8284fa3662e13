import Mathlib.Data.List.InsertIdx
import Universal7870.Audio.UniqueUsecases

/-!
# Dangling stream references

A stream that is freed is not looked for among the references to streams: it has to be given up
before.
-/

namespace Universal7870.Audio

open Lib

/-! ## 1. What is claimed of a state -/

namespace AudioDevice

/-- The stream was opened and not closed since then. -/
def Live (d : AudioDevice) : StreamRef → Prop
  | .output o => d.outOpen o = true
  | .input i => d.inOpen i = true

/-- What the device and the listed usecases refer to are open streams. -/
structure NoDangling (d : AudioDevice) : Prop where
  primaryOutput : ∀ o, d.hal.primaryOutput = some o → d.outOpen o = true
  activeInput : ∀ i, d.hal.activeInput = some i → d.inOpen i = true
  usecases : ∀ u ∈ d.hal.routing.usecaseList, d.Live u.stream

end AudioDevice

namespace Hal

/-- `out_standby` takes the usecase at a place off the list: the stream is not in standby, its path
is disabled, and the usecase is the one found by its id. -/
def StandbyDelistsOut (h : Hal) (o : OutId) (uc : Nat) : Prop :=
  (h.outs o).standby = false ∧
    ¬(h.offloadFx = true ∧
      ((h.outs o).offloadState = .paused ∨ (h.outs o).offloadState = .pausedFlushed)) ∧
    h.routing.getUsecaseFromId (h.outs o).usecase = some uc

def StandbyDelistsIn (h : Hal) (i : InId) (uc : Nat) : Prop :=
  (h.ins i).standby = false ∧ h.routing.getUsecaseFromId (h.ins i).usecase = some uc

instance (h : Hal) (o : OutId) (uc : Nat) : Decidable (h.StandbyDelistsOut o uc) :=
  inferInstanceAs (Decidable (_ ∧ _))

instance (h : Hal) (i : InId) (uc : Nat) : Decidable (h.StandbyDelistsIn i uc) :=
  inferInstanceAs (Decidable (_ ∧ _))

end Hal

namespace AudioDevice

/-- A primary output is not opened, in the place of none, while its usecase is listed; what is
closed is not the primary output, or the active input while it is in standby, and its standby takes
every usecase of it off the list. -/
def GivesUp (d : AudioDevice) : DeviceOp → Prop
  | .openOutput _ c _ => c.alloc = true → c.check = 0 → c.primary = true →
      d.hal.primaryOutput = none → d.hal.routing.getUsecaseFromId c.usecase = none
  | .closeOutput o _ => d.hal.primaryOutput ≠ some o ∧
      ∀ uc (_ : uc < d.hal.routing.usecaseList.length),
        d.hal.routing.usecaseList[uc].stream = .output o → d.hal.StandbyDelistsOut o uc
  | .closeInput i _ => (d.hal.activeInput = some i → (d.hal.ins i).standby = false) ∧
      ∀ uc (_ : uc < d.hal.routing.usecaseList.length),
        d.hal.routing.usecaseList[uc].stream = .input i → d.hal.StandbyDelistsIn i uc
  | _ => True

instance (d : AudioDevice) (op : DeviceOp) : Decidable (d.GivesUp op) :=
  match op with
  | .openOutput _ c _ => inferInstanceAs (Decidable (c.alloc = true → _))
  | .closeOutput .. | .closeInput .. => inferInstanceAs (Decidable (_ ∧ _))
  | .openInput .. | .call _ => isTrue trivial

end AudioDevice

/-! ## 2. What standby takes off the list -/

namespace Hal

variable {h h' : Hal} {o : OutId} {i : InId}

/-- The usecases that are left when the one at a place is taken off. -/
def kindsWithout (h : Hal) (uc : Option Nat) : List (UsecaseId × UsecaseType × StreamRef) :=
  match uc with
  | some uc => h.routing.kinds.eraseIdx uc
  | none => h.routing.kinds

theorem mem_kindsWithout {uc : Option Nat} {k : UsecaseId × UsecaseType × StreamRef} :
    k ∈ h.kindsWithout uc ↔ ∃ j, uc ≠ some j ∧ h.routing.kinds[j]? = some k := by
  cases uc with
  | none =>
    refine List.mem_iff_getElem?.trans ⟨?_, ?_⟩
    · rintro ⟨j, hj⟩
      exact ⟨j, nofun, hj⟩
    · rintro ⟨j, _, hj⟩
      exact ⟨j, hj⟩
  | some uc =>
    refine List.mem_eraseIdx_iff_getElem?.trans ⟨?_, ?_⟩
    · rintro ⟨j, hne, hj⟩
      exact ⟨j, fun hsame => hne (Option.some.inj hsame).symm, hj⟩
    · rintro ⟨j, hne, hj⟩
      exact ⟨j, fun hsame => hne (congrArg some hsame.symm), hj⟩

theorem kinds_removeUsecase (r : Routing) (u : AudioUsecase) (d : SndDevice) (uc : Nat) :
    ((r.disableSndDevice u d).removeUsecase uc).kinds = r.kinds.eraseIdx uc := by
  show ((r.disableSndDevice u d).usecaseList.eraseIdx uc).map _ = _
  rw [Routing.disableSndDevice_usecaseList, ← List.eraseIdx_map]
  rfl

theorem kinds_disableOutputPath (h : Hal) (o : OutId) :
    (h.disableOutputPath o).routing.kinds =
      h.kindsWithout (h.routing.getUsecaseFromId (h.outs o).usecase) := by
  unfold disableOutputPath
  split
  · rename_i hnone
    rw [hnone]
    rfl
  rename_i uc huc
  rw [huc]
  split
  · rename_i hout
    exact absurd (List.getElem?_eq_none_iff.mp hout)
      (Nat.not_le.mpr (List.findIdx?_eq_some_iff_getElem.mp huc).1)
  · rename_i u _
    dsimp only
    split <;> exact kinds_removeUsecase h.routing u u.outSndDevice uc

theorem kinds_stopOutputStream (h : Hal) (o : OutId) :
    (h.stopOutputStream o).routing.kinds = h.kindsWithout
      (if h.offloadFx = true ∧
          ((h.outs o).offloadState = .paused ∨ (h.outs o).offloadState = .pausedFlushed) then none
        else h.routing.getUsecaseFromId (h.outs o).usecase) := by
  unfold stopOutputStream stopOutputOffloadStream
  by_cases hfx : h.offloadFx = true
  · rw [if_pos hfx]
    dsimp only
    by_cases hpaused : (h.outs o).offloadState = .paused ∨ (h.outs o).offloadState = .pausedFlushed
    · rw [if_neg (by rw [decide_eq_true_iff, not_not]; exact hpaused), if_pos ⟨hfx, hpaused⟩]
      rfl
    · rw [if_pos (decide_eq_true hpaused), if_neg (fun hboth => hpaused hboth.2),
        kinds_disableOutputPath]
      unfold modifyOut
      simp only [Function.update_self]
      rfl
  · rw [if_neg hfx]
    dsimp only
    rw [if_pos rfl, if_neg (fun hboth => hfx hboth.1)]
    exact kinds_disableOutputPath h o

/-- What a stream is stopped by is the same. -/
structure StopsAlike (o : OutId) (h h' : Hal) : Prop where
  routing : h'.routing = h.routing
  offloadFx : h'.offloadFx = h.offloadFx
  offloadState : (h'.outs o).offloadState = (h.outs o).offloadState
  usecase : (h'.outs o).usecase = (h.outs o).usecase

theorem StopsAlike.trans {h'' : Hal} (hs : StopsAlike o h h') (hs' : StopsAlike o h' h'') :
    StopsAlike o h h'' :=
  ⟨hs'.routing.trans hs.routing, hs'.offloadFx.trans hs.offloadFx,
    hs'.offloadState.trans hs.offloadState, hs'.usecase.trans hs.usecase⟩

theorem stopsAlike_modifyOut (h : Hal) (o : OutId) {f : StreamOut → StreamOut}
    (hf : (f (h.outs o)).offloadState = (h.outs o).offloadState ∧
      (f (h.outs o)).usecase = (h.outs o).usecase) : StopsAlike o h (h.modifyOut o f) := by
  have hout : (h.modifyOut o f).outs o = f (h.outs o) := Function.update_self ..
  exact ⟨rfl, rfl, by rw [hout]; exact hf.1, by rw [hout]; exact hf.2⟩

theorem stopsAlike_dropOutEcho (h : Hal) (o : OutId) : StopsAlike o h (h.dropOutEcho o) := by
  have hlog (h : Hal) (event : LifeEvent EchoRef) : StopsAlike o h (h.logEcho event) :=
    ⟨rfl, rfl, rfl, rfl⟩
  unfold dropOutEcho
  split
  · exact ⟨rfl, rfl, rfl, rfl⟩
  · dsimp only
    split
    · exact ((hlog h _).trans ((hlog _ _).trans (stopsAlike_modifyOut _ o ⟨rfl, rfl⟩))).trans
        (stopsAlike_modifyOut _ o ⟨rfl, rfl⟩)
    · exact (hlog h _).trans (stopsAlike_modifyOut _ o ⟨rfl, rfl⟩)

theorem StopsAlike.kinds (hs : StopsAlike o h h') :
    (h'.stopOutputStream o).routing.kinds = (h.stopOutputStream o).routing.kinds := by
  rw [kinds_stopOutputStream, kinds_stopOutputStream, hs.routing, hs.offloadFx, hs.offloadState,
    hs.usecase]
  unfold kindsWithout
  rw [hs.routing]

theorem kinds_doOutStandby (h : Hal) (o : OutId) :
    (h.doOutStandby o).routing.kinds = (h.stopOutputStream o).routing.kinds := by
  have hasleep : StopsAlike o h (h.modifyOut o ({ · with standby := true })) :=
    stopsAlike_modifyOut h o ⟨rfl, rfl⟩
  unfold doOutStandby
  dsimp only
  split
  · have hclosed := hasleep.trans (stopsAlike_modifyOut _ o
      (f := fun out => { out with pcmDevList := out.pcmDevList.map ({ · with pcm := false }) })
      ⟨rfl, rfl⟩)
    exact (hclosed.trans (stopsAlike_dropOutEcho _ o)).kinds
  · unfold stopCompressedOutput callCompress
    rw [if_pos rfl]
    exact (((hasleep.trans (stopsAlike_modifyOut _ o ⟨rfl, rfl⟩)).trans
      (stopsAlike_modifyOut _ o ⟨rfl, rfl⟩)).trans (stopsAlike_modifyOut _ o ⟨rfl, rfl⟩)).kinds

/-- A usecase is left listed by the standby of an output that does not take it off. -/
theorem mem_kinds_outStandby {k : UsecaseId × UsecaseType × StreamRef} :
    k ∈ (h.outStandby o).routing.kinds ↔
      ∃ uc, ¬h.StandbyDelistsOut o uc ∧ h.routing.kinds[uc]? = some k := by
  have hother : ∀ P : Nat → Prop, (∀ uc, ¬P uc) →
      (k ∈ h.routing.kinds ↔ ∃ uc, ¬P uc ∧ h.routing.kinds[uc]? = some k) := by
    intro P hP
    rw [List.mem_iff_getElem?]
    exact exists_congr fun uc => (and_iff_right (hP uc)).symm
  unfold outStandby
  split
  · rename_i hstandby
    apply hother
    intro uc hdelists
    have hawake := hdelists.1
    rw [hstandby] at hawake
    cases hawake
  rename_i hawake
  rw [kinds_doOutStandby, kinds_stopOutputStream]
  have hactive : (h.outs o).standby = false := Bool.not_eq_true _ ▸ hawake
  split
  · rename_i hpaused
    exact hother (h.StandbyDelistsOut o) fun uc hdelists => hdelists.2.1 hpaused
  · rename_i hruns
    rw [mem_kindsWithout]
    apply exists_congr
    intro uc
    unfold StandbyDelistsOut
    simp only [hactive, hruns, not_false_iff, true_and, ne_eq]

theorem kinds_stopInputStream (h : Hal) (i : InId) : (h.stopInputStream i).routing.kinds =
    h.kindsWithout (h.routing.getUsecaseFromId (h.ins i).usecase) := by
  unfold stopInputStream
  dsimp only
  split
  · rename_i hnone
    rw [hnone]
    rfl
  rename_i uc huc
  rw [huc]
  split
  · rename_i hout
    exact absurd (List.getElem?_eq_none_iff.mp hout)
      (Nat.not_le.mpr (List.findIdx?_eq_some_iff_getElem.mp huc).1)
  · rename_i u _
    exact kinds_removeUsecase h.routing u u.inSndDevice uc

theorem stopInputStream_activeInput (h : Hal) (i : InId) : (h.stopInputStream i).activeInput = none := by
  unfold stopInputStream
  dsimp only
  split
  · rfl
  split <;> rfl

/-- The echo reference of an input is put back without a look at the usecases. -/
theorem dropInEcho_routing (h : Hal) (i : InId) : (h.dropInEcho i).routing = h.routing := by
  have hrelease (h : Hal) (e : Option EchoRef) : (h.releaseEchoReference e).routing = h.routing := by
    cases e <;> rfl
  unfold dropInEcho
  split
  · rfl
  show ((h.logEcho _).putEchoReference _).routing = _
  unfold putEchoReference
  split
  · dsimp only
    split
    · rfl
    · exact hrelease _ _
  · rfl

theorem mem_kinds_doInStandby {k : UsecaseId × UsecaseType × StreamRef} :
    k ∈ (h.doInStandby i).routing.kinds ↔
      ∃ uc, ¬h.StandbyDelistsIn i uc ∧ h.routing.kinds[uc]? = some k := by
  unfold doInStandby
  split
  · rename_i hstandby
    rw [List.mem_iff_getElem?]
    apply exists_congr
    intro uc
    have hkept : ¬h.StandbyDelistsIn i uc := by
      rintro ⟨hawake, _⟩
      rw [hstandby] at hawake
      cases hawake
    exact (and_iff_right hkept).symm
  rename_i hawake
  have hactive : (h.ins i).standby = false := Bool.not_eq_true _ ▸ hawake
  have hrouting : ((h.inClosePcmDevices i).dropInEcho i).routing = h.routing :=
    dropInEcho_routing _ i
  show k ∈ (stopInputStream _ i).routing.kinds ↔ _
  rw [kinds_stopInputStream, StreamIn.usecase_eq]
  unfold StandbyDelistsIn
  rw [StreamIn.usecase_eq, mem_kindsWithout, hrouting]
  apply exists_congr
  intro uc
  simp only [hactive, true_and, ne_eq]

/-- A stream that is in standby stays the active input. -/
theorem doInStandby_activeInput (h : Hal) (i : InId) :
    (h.doInStandby i).activeInput = if (h.ins i).standby then h.activeInput else none := by
  unfold doInStandby
  split
  · rfl
  · exact stopInputStream_activeInput _ i

theorem mem_lists_stream {op : Op} {u : AudioUsecase} (hu : h.lists op = some u) :
    (∃ o ∈ op.output, u.stream = .output o) ∨ ∃ i ∈ op.input, u.stream = .input i := by
  have hif {P : Prop} [Decidable P] {v : Option AudioUsecase} (hv : (if P then v else none) = some u) :
      v = some u := by
    split at hv
    · exact hv
    · cases hv
  cases op with
  | outStart o alloc ready =>
    obtain rfl := Option.some.inj (hif hu)
    exact .inl ⟨o, rfl, rfl⟩
  | outWriteOffload o w =>
    obtain rfl := Option.some.inj (hif hu)
    exact .inl ⟨o, rfl, rfl⟩
  | outResume o alloc succeeds =>
    obtain rfl := Option.some.inj (hif hu)
    exact .inl ⟨o, rfl, rfl⟩
  | inStart i start =>
    have hstarts := hif hu
    unfold startsUsecase at hstarts
    split at hstarts
    · cases hstarts
    · obtain rfl := Option.some.inj (hif hstarts)
      exact .inr ⟨i, rfl, rfl⟩
  | _ => cases hu

end Hal

/-! ## 3. Steps -/

namespace AudioDevice

variable {d d' : AudioDevice}

theorem forall_usecaseList {r : Routing} {P : StreamRef → Prop} :
    (∀ u ∈ r.usecaseList, P u.stream) ↔ ∀ k ∈ r.kinds, P k.2.2 := by
  unfold Routing.kinds
  rw [List.forall_mem_map]
  rfl

theorem forall_usecaseList_getElem {r : Routing} {P : Nat → StreamRef → Prop} :
    (∀ uc (_ : uc < r.usecaseList.length), P uc r.usecaseList[uc].stream) ↔
      ∀ uc k, r.kinds[uc]? = some k → P uc k.2.2 := by
  unfold Routing.kinds
  constructor
  · intro hall uc k hk
    rw [List.getElem?_map] at hk
    obtain ⟨u, hu, rfl⟩ := Option.map_eq_some_iff.mp hk
    obtain ⟨hlt, rfl⟩ := List.getElem?_eq_some_iff.mp hu
    exact hall uc hlt
  · intro hall uc hlt
    exact hall uc r.usecaseList[uc].kind (by
      rw [List.getElem?_map, List.getElem?_eq_getElem hlt]
      rfl)

theorem NoDangling.kinds (hn : d.NoDangling) : ∀ k ∈ d.hal.routing.kinds, d.Live k.2.2 :=
  forall_usecaseList.mp hn.usecases

/-- What gives references up leaves none dangling. -/
theorem NoDangling.drops {h : Hal} (hn : d.NoDangling) (hd : d.hal.Drops h) :
    NoDangling { d with hal := h } where
  primaryOutput o ho := hn.primaryOutput o (hd.primaryOutput ▸ ho)
  activeInput i hi := by
    rcases hd.activeInput with hsame | hnone
    · exact hn.activeInput i (hsame ▸ hi)
    · rw [hnone] at hi
      cases hi
  usecases := forall_usecaseList.mpr fun k hk => hn.kinds k (hd.kinds.subset hk)

/-- A usecase of an open stream is listed. -/
theorem NoDangling.adds {h : Hal} {u : AudioUsecase} (hn : d.NoDangling) (ha : d.hal.Adds u h)
    (hlive : d.Live u.stream) : NoDangling { d with hal := h } where
  primaryOutput o ho := hn.primaryOutput o (ha.primaryOutput ▸ ho)
  activeInput i hi := by
    rcases ha.activeInput with hsame | ⟨j, hstream, hj⟩
    · exact hn.activeInput i (hsame ▸ hi)
    · obtain rfl := Option.some.inj (hj.symm.trans hi)
      rw [hstream] at hlive
      exact hlive
  usecases v hv := by
    have hmem : v ∈ d.hal.routing.usecaseList ++ [u] := by
      have hlisted : v ∈ h.routing.usecaseList := hv
      rw [ha.routing] at hlisted
      exact hlisted
    rcases List.mem_append.mp hmem with hold | hnew
    · exact hn.usecases v hold
    · obtain rfl := List.mem_singleton.mp hnew
      exact hlive

theorem noDangling_call {op : Hal.Op} {h : Hal} (hn : d.NoDangling) (hcalls : d.Calls op)
    (hstep : d.hal.step op = some h) : NoDangling { d with hal := h } := by
  have hlisting := Hal.step_listing hstep
  cases hlists : d.hal.lists op with
  | some u =>
    rw [hlists] at hlisting
    obtain ⟨h₁, hadds, hdrops⟩ := hlisting
    have hlive : d.Live u.stream := by
      rcases Hal.mem_lists_stream hlists with ⟨o, ho, hstream⟩ | ⟨i, hi, hstream⟩
      · rw [hstream]
        exact hcalls.1 o ho
      · rw [hstream]
        exact hcalls.2 i hi
    exact (hn.adds hadds hlive).drops hdrops
  | none =>
    rw [hlists] at hlisting
    rcases hlisting with hdrops | ⟨h₁, o, hbefore, _, _, hprimary, hafter⟩
    · exact hn.drops hdrops
    · -- the call is listed for the primary output, which is open
      have hn₁ := hn.drops hbefore
      have hadds : h₁.Adds (h₁.callUsecase o) (h₁.listCall o) := ⟨rfl, rfl, .inl rfl⟩
      exact (hn₁.adds hadds (hn₁.primaryOutput o hprimary)).drops hafter

/-- The memory of a stream that is not open is given back. -/
theorem update_closed {f : Nat → Bool} {n : Nat} (hclosed : f n = false) :
    Function.update f n false = f := by
  rw [← hclosed, Function.update_eq_self]

theorem noDangling_openOutput {o : OutId} {c : OutputConfig} {freed : StreamOut}
    (hn : d.NoDangling) (hclosed : d.outOpen o = false) :
    (d.openOutputStream o c freed).2.NoDangling ↔ d.GivesUp (.openOutput o c freed) := by
  have hfreed : Function.update d.outOpen o false = d.outOpen := update_closed hclosed
  have hkept : (d.freeOut o freed).NoDangling := by
    have hlive (s : StreamRef) (hs : d.Live s) : (d.freeOut o freed).Live s := by
      cases s with
      | output o' => exact (congrFun hfreed o').trans hs
      | input i => exact hs
    exact ⟨fun p hp => hlive (.output p) (hn.primaryOutput p hp), hn.activeInput,
      fun u hu => hlive u.stream (hn.usecases u hu)⟩
  have hopened : ∀ s, d.Live s →
      Live { d with outOpen := Function.update d.outOpen o true } s := by
    intro s hs
    cases s with
    | output o' =>
      show Function.update d.outOpen o true o' = true
      rcases eq_or_ne o' o with rfl | hne
      · exact Function.update_self ..
      · rw [Function.update_of_ne hne]
        exact hs
    | input i => exact hs
  dsimp only [GivesUp]
  unfold openOutputStream
  by_cases halloc : c.alloc = true
  swap
  · rw [if_pos halloc]
    exact iff_of_true hn fun hall => absurd hall halloc
  rw [if_neg (not_not.mpr halloc)]
  by_cases hcheck : c.check = 0
  swap
  · rw [if_pos hcheck]
    exact iff_of_true hkept fun _ hall => absurd hall hcheck
  rw [if_neg (not_not.mpr hcheck)]
  by_cases hprimary : c.primary = true
  · by_cases hnone : d.hal.primaryOutput = none
    swap
    · rw [if_pos ⟨hprimary, hnone⟩]
      exact iff_of_true hkept fun _ _ _ hall => absurd hall hnone
    rw [if_neg fun hboth => hboth.2 hnone, if_pos hprimary]
    dsimp only
    by_cases hfound : d.hal.routing.getUsecaseFromId c.usecase = none
    · rw [if_neg (not_not.mpr hfound)]
      refine iff_of_true ⟨?_, hn.activeInput, ?_⟩ fun _ _ _ _ => hfound
      · intro p hp
        obtain rfl := Option.some.inj hp
        exact Function.update_self ..
      · exact fun u hu => hopened u.stream (hn.usecases u hu)
    · rw [if_pos hfound]
      -- the primary output is the stream that was given back
      refine iff_of_false (fun hbad => ?_) fun hall => hfound (hall halloc hcheck hprimary hnone)
      have hlive : Function.update d.outOpen o false o = true := hbad.primaryOutput o rfl
      rw [Function.update_self] at hlive
      cases hlive
  · rw [if_neg fun hboth => hprimary hboth.1, if_neg hprimary]
    have hgives : c.alloc = true → c.check = 0 → c.primary = true → d.hal.primaryOutput = none →
        d.hal.routing.getUsecaseFromId c.usecase = none := fun _ _ hbad => absurd hbad hprimary
    dsimp only
    split
    · exact iff_of_true hkept hgives
    · refine iff_of_true ⟨?_, hn.activeInput, ?_⟩ hgives
      · exact fun p hp => hopened (.output p) (hn.primaryOutput p hp)
      · exact fun u hu => hopened u.stream (hn.usecases u hu)

theorem noDangling_closeOutput {o : OutId} {freed : StreamOut} (hn : d.NoDangling) :
    (d.closeOutputStream o freed).NoDangling ↔ d.GivesUp (.closeOutput o freed) := by
  have hdrops := Hal.drops_outStandby d.hal o
  have hlive (s : StreamRef) :
      (d.closeOutputStream o freed).Live s ↔ d.Live s ∧ s ≠ .output o := by
    cases s with
    | output o' =>
      show Function.update d.outOpen o false o' = true ↔ _
      rcases eq_or_ne o' o with rfl | hne
      · rw [Function.update_self]
        exact iff_of_false Bool.false_ne_true fun hboth => hboth.2 rfl
      · rw [Function.update_of_ne hne]
        exact (and_iff_left fun hsame => hne (StreamRef.output.inj hsame)).symm
    | input i => exact (and_iff_left nofun).symm
  dsimp only [GivesUp]
  rw [forall_usecaseList_getElem (P := fun uc s => s = .output o → d.hal.StandbyDelistsOut o uc)]
  constructor
  · intro hd'
    refine ⟨fun hprimary => ?_, fun uc k hk hstream => ?_⟩
    · have hbad : (d.closeOutputStream o freed).Live (.output o) :=
        hd'.primaryOutput o (hdrops.primaryOutput.trans hprimary)
      exact ((hlive _).mp hbad).2 rfl
    · by_contra hkept
      have hmem : k ∈ (d.closeOutputStream o freed).hal.routing.kinds :=
        Hal.mem_kinds_outStandby.mpr ⟨uc, hkept, hk⟩
      exact ((hlive _).mp (hd'.kinds k hmem)).2 hstream
  · rintro ⟨hprimary, hdelists⟩
    refine ⟨fun p hp => ?_, fun i hi => ?_, forall_usecaseList.mpr fun k hk => ?_⟩
    · have hp' : d.hal.primaryOutput = some p := hdrops.primaryOutput ▸ hp
      refine (hlive (.output p)).mpr ⟨hn.primaryOutput p hp', fun hsame => ?_⟩
      obtain rfl := StreamRef.output.inj hsame
      exact hprimary hp'
    · exact (hn.drops hdrops).activeInput i hi
    · obtain ⟨uc, hkept, hlisted⟩ := Hal.mem_kinds_outStandby.mp hk
      exact (hlive _).mpr ⟨hn.kinds k (List.mem_of_getElem? hlisted),
        fun hstream => hkept (hdelists uc k hlisted hstream)⟩

theorem noDangling_openInput {i : InId} {c : InputConfig} (hn : d.NoDangling) :
    (d.openInputStream i c).2.NoDangling := by
  have hopened (j : InId) (hj : d.inOpen j = true) :
      Function.update d.inOpen i true j = true := by
    rcases eq_or_ne j i with rfl | hne
    · exact Function.update_self ..
    · rw [Function.update_of_ne hne]
      exact hj
  unfold openInputStream
  split
  · exact hn
  · refine ⟨hn.primaryOutput, fun j hj => hopened j (hn.activeInput j hj), fun u hu => ?_⟩
    have hlive := hn.usecases u hu
    cases hstream : u.stream with
    | output o =>
      rw [hstream] at hlive
      exact hlive
    | input j =>
      rw [hstream] at hlive
      exact hopened j hlive

theorem noDangling_closeInput {i : InId} {freed : StreamIn} (hn : d.NoDangling) :
    (d.closeInputStream i freed).NoDangling ↔ d.GivesUp (.closeInput i freed) := by
  have hdrops := Hal.drops_doInStandby d.hal i
  have hactive := Hal.doInStandby_activeInput d.hal i
  have hlive (s : StreamRef) :
      (d.closeInputStream i freed).Live s ↔ d.Live s ∧ s ≠ .input i := by
    cases s with
    | output o => exact (and_iff_left nofun).symm
    | input j =>
      show Function.update d.inOpen i false j = true ↔ _
      rcases eq_or_ne j i with rfl | hne
      · rw [Function.update_self]
        exact iff_of_false Bool.false_ne_true fun hboth => hboth.2 rfl
      · rw [Function.update_of_ne hne]
        exact (and_iff_left fun hsame => hne (StreamRef.input.inj hsame)).symm
  dsimp only [GivesUp]
  rw [forall_usecaseList_getElem (P := fun uc s => s = .input i → d.hal.StandbyDelistsIn i uc)]
  constructor
  · intro hd'
    refine ⟨fun hinput => ?_, fun uc k hk hstream => ?_⟩
    · by_contra hstandby
      rw [if_pos (Bool.not_eq_false _ ▸ hstandby)] at hactive
      have hbad : (d.closeInputStream i freed).Live (.input i) :=
        hd'.activeInput i (hactive.trans hinput)
      exact ((hlive _).mp hbad).2 rfl
    · by_contra hkept
      have hmem : k ∈ (d.closeInputStream i freed).hal.routing.kinds :=
        Hal.mem_kinds_doInStandby.mpr ⟨uc, hkept, hk⟩
      exact ((hlive _).mp (hd'.kinds k hmem)).2 hstream
  · rintro ⟨hinput, hdelists⟩
    refine ⟨fun p hp => ?_, fun j hj => ?_, forall_usecaseList.mpr fun k hk => ?_⟩
    · exact (hn.drops hdrops).primaryOutput p hp
    · have hj' : (d.hal.doInStandby i).activeInput = some j := hj
      refine (hlive (.input j)).mpr ⟨(hn.drops hdrops).activeInput j hj', fun hsame => ?_⟩
      obtain rfl := StreamRef.input.inj hsame
      rw [hactive] at hj'
      split at hj'
      · rename_i hstandby
        exact absurd (hinput hj') (by rw [hstandby]; exact nofun)
      · cases hj'
    · obtain ⟨uc, hkept, hlisted⟩ := Hal.mem_kinds_doInStandby.mp hk
      exact (hlive _).mpr ⟨hn.kinds k (List.mem_of_getElem? hlisted),
        fun hstream => hkept (hdelists uc k hlisted hstream)⟩

/-- An operation leaves no reference dangling exactly if it gives up what it frees. -/
theorem noDangling_step {op : DeviceOp} (hn : d.NoDangling) (hstep : d.step op = some d') :
    d'.NoDangling ↔ d.GivesUp op := by
  cases op with
  | openOutput o c freed =>
    simp only [step] at hstep
    split at hstep
    · cases hstep
    · rename_i hclosed
      obtain rfl := Option.some.inj hstep
      exact noDangling_openOutput hn (Bool.not_eq_true _ ▸ hclosed)
  | closeOutput o freed =>
    simp only [step] at hstep
    split at hstep
    · obtain rfl := Option.some.inj hstep
      exact noDangling_closeOutput hn
    · cases hstep
  | openInput i c =>
    simp only [step] at hstep
    split at hstep
    · cases hstep
    · obtain rfl := Option.some.inj hstep
      exact iff_of_true (noDangling_openInput hn) trivial
  | closeInput i freed =>
    simp only [step] at hstep
    split at hstep
    · obtain rfl := Option.some.inj hstep
      exact noDangling_closeInput hn
    · cases hstep
  | call op =>
    simp only [step] at hstep
    split at hstep
    · rename_i hcalls
      obtain ⟨h, hcall, rfl⟩ := Option.map_eq_some_iff.mp hstep
      exact iff_of_true (noDangling_call hn hcalls hcall) trivial
    · cases hstep

/-! ## 4. Runs -/

theorem start_noDangling (hstart : Start d) : d.NoDangling where
  primaryOutput o ho := by
    rw [hstart.primaryOutput] at ho
    cases ho
  activeInput i hi := by
    rw [hstart.hal.activeInput] at hi
    cases hi
  usecases u hu := by
    rw [hstart.hal.usecaseList] at hu
    cases hu

/-- However streams are opened, used and closed and calls are made, no reference dangles at any
point exactly when each stream that is freed is given up first. -/
theorem noDangling_iff_givesUp {d₀ d : AudioDevice} {ops : List DeviceOp}
    (hrun : Reaches d₀ ops d) :
    (∀ before d', before <+: ops → Reaches d₀ before d' → d'.NoDangling) ↔
      ExecWhere GivesUp (guarded step) d₀ ops d := by
  have hall : (∀ before d', before <+: ops → Reaches d₀ before d' → d'.NoDangling) ↔
      ∀ before d', before <+: ops → Exec (guarded step) d₀ before d' → d'.NoDangling :=
    forall_congr' fun before => forall_congr' fun d' => forall_congr' fun _ =>
      ⟨fun h hexec => h ⟨hrun.1, hexec⟩, fun h hreaches => h hreaches.2⟩
  rw [hall]
  exact forall_prefix_iff (fun _ _ _ => noDangling_step) (start_noDangling hrun.1) hrun.2

/-- A playback stream that starts before the primary output is opened. -/
def player (primary : Bool) : OutputConfig :=
  ⟨true, AudioDevices.outSpeaker, primary, false, false, true, true, true⟩

def freedOutput : StreamOut := Hal.openedOut .audioPlayback Hal.isOutput_audioPlayback

def freedInput : StreamIn := Hal.openedIn

/-- A recording is given up before its stream is closed, and so is a playback stream. -/
def givenUp : List DeviceOp :=
  [.openOutput 0 (player false) freedOutput, .openInput 0 recorder,
    .call (.outStart 0 ⟨true, true⟩ true), .call (.inStart 0 startedInput),
    .closeInput 0 freedInput, .closeOutput 0 freedOutput]

theorem noDangling_givenUp :
    ((givenUp.foldlM step (fresh false)).getD (fresh false)).NoDangling := by
  have hwhere : ExecWhere GivesUp (guarded step) (fresh false) givenUp
      ((givenUp.foldlM step (fresh false)).getD (fresh false)) :=
    ExecWhere.of_isSome (by decide +kernel)
  have hrun : Reaches (fresh false) givenUp
      ((givenUp.foldlM step (fresh false)).getD (fresh false)) :=
    ⟨fresh_start false, hwhere.mono fun _ _ _ hstep => hstep.2⟩
  exact (noDangling_iff_givesUp hrun).mpr hwhere givenUp _ (List.prefix_refl _) hrun

/-- The primary output is closed. -/
def primaryClosed : List DeviceOp :=
  [.openOutput 0 (player true) freedOutput, .closeOutput 0 freedOutput]

/-- `adev_close_output_stream` leaves the primary output set. -/
theorem primary_output_dangles : ¬∀ (d₀ d : AudioDevice) (ops : List DeviceOp),
    Reaches d₀ ops d → d.NoDangling := by
  intro hall
  have hn := hall (fresh false) _ primaryClosed
    ⟨fresh_start false, Exec.computed (by decide +kernel)⟩
  exact absurd (hn.primaryOutput 0 (by decide +kernel)) (by decide +kernel)

end AudioDevice

end Universal7870.Audio
