import Universal7870.Audio.RoutingCounts

/-!
# The route of the offload usecase

The offload usecase is routed when it is listed with a sound device.  Once it is, routing takes the
device from it only when it is selected itself and its stream's devices have no sound device.
-/

namespace Universal7870.Audio

/-- The type and the stream that go with an id, where `o` is the offload stream. -/
def AudioUsecase.Proper (o : OutId) (u : AudioUsecase) : Prop :=
  (u.id = .audioPlaybackOffload → u.type = .pcmPlayback ∧ u.stream = .output o) ∧
    (u.id = .audioCapture → u.type = .pcmCapture) ∧ (u.id = .voiceCall → u.type = .voiceCall)

/-- What stays the same of a usecase as long as it is listed. -/
def AudioUsecase.kind (u : AudioUsecase) : UsecaseId × UsecaseType × StreamRef :=
  (u.id, u.type, u.stream)

theorem AudioUsecase.Proper.of_kind {o : OutId} {u w : AudioUsecase} (h : u.Proper o)
    (hkind : w.kind = u.kind) : w.Proper o := by
  have hid : w.id = u.id := congrArg Prod.fst hkind
  have htype : w.type = u.type := congrArg (·.2.1) hkind
  have hstream : w.stream = u.stream := congrArg (·.2.2) hkind
  unfold Proper
  rw [hid, htype, hstream]
  exact h

theorem AudioUsecase.kind_setSndDevice (type : UsecaseType) (d : SndDevice) (u : AudioUsecase) :
    (u.setSndDevice type d).kind = u.kind := by
  unfold setSndDevice
  split
  · rfl
  · rfl

/-- The usecase is the offload usecase and has a sound device. -/
def AudioUsecase.OnDevice (u : AudioUsecase) : Prop :=
  u.id = .audioPlaybackOffload ∧ u.outSndDevice ≠ .none

theorem AudioUsecase.OnDevice.setSndDevice {u : AudioUsecase} (h : u.OnDevice) (type : UsecaseType)
    {d : SndDevice} (hd : d ≠ .none) : (u.setSndDevice type d).OnDevice := by
  unfold AudioUsecase.setSndDevice
  split
  · exact ⟨h.1, hd⟩
  · exact h

namespace Routing

/-- The offload usecase is listed and routed. -/
def OffloadRouted (r : Routing) : Prop := ∃ u ∈ r.usecaseList, u.OnDevice

def Proper (o : OutId) (r : Routing) : Prop := ∀ u ∈ r.usecaseList, u.Proper o

def kinds (r : Routing) : List (UsecaseId × UsecaseType × StreamRef) :=
  r.usecaseList.map AudioUsecase.kind

theorem Proper.of_kinds {o : OutId} {r r' : Routing} (h : r.Proper o) (hkinds : r'.kinds = r.kinds) :
    r'.Proper o := by
  intro w hw
  have hmem : w.kind ∈ r.kinds := by
    rw [← hkinds]
    exact List.mem_map_of_mem hw
  obtain ⟨u, hu, hkind⟩ := List.mem_map.mp hmem
  exact (h u hu).of_kind hkind.symm

/-- A place keeps what it is for. -/
theorem kind_at {r r' : Routing} (hkinds : r'.kinds = r.kinds) {uc : Nat} {u w : AudioUsecase}
    (hu : r.usecaseList[uc]? = some u) (hw : r'.usecaseList[uc]? = some w) : w.kind = u.kind := by
  have hat : r'.kinds[uc]? = r.kinds[uc]? := by rw [hkinds]
  unfold kinds at hat
  rw [List.getElem?_map, List.getElem?_map, hu, hw] at hat
  exact Option.some.inj hat

/-! ## 1. Switching usecases -/

theorem kinds_modifyUsecase (r : Routing) (uc : Nat) {f : AudioUsecase → AudioUsecase}
    (hf : ∀ u, (f u).kind = u.kind) : (r.modifyUsecase uc f).kinds = r.kinds :=
  map_modify_of_key (f := f) (k := AudioUsecase.kind) hf r.usecaseList uc

theorem getElem?_modifyUsecase {r : Routing} {uc : Nat} {u : AudioUsecase}
    (f : AudioUsecase → AudioUsecase) (hu : r.usecaseList[uc]? = some u) :
    (r.modifyUsecase uc f).usecaseList[uc]? = some (f u) := by
  show (r.usecaseList.modify uc f)[uc]? = some (f u)
  rw [List.getElem?_modify_eq, hu]
  rfl

theorem OffloadRouted.modifyUsecase {r : Routing} (h : r.OffloadRouted) (uc : Nat)
    {f : AudioUsecase → AudioUsecase}
    (hf : ∀ u, r.usecaseList[uc]? = some u → u.OnDevice → (f u).OnDevice) :
    (r.modifyUsecase uc f).OffloadRouted := by
  obtain ⟨u, hu, hdev⟩ := h
  obtain ⟨i, hi⟩ := List.mem_iff_getElem?.mp hu
  by_cases huc : uc = i
  · subst huc
    exact ⟨f u, List.mem_of_getElem? (getElem?_modifyUsecase f hi), hf u hi hdev⟩
  · refine ⟨u, List.mem_of_getElem? (i := i) ?_, hdev⟩
    show (r.usecaseList.modify uc f)[i]? = some u
    rw [List.getElem?_modify_ne f _ huc]
    exact hi

theorem OffloadRouted.of_list {r r' : Routing} (h : r.OffloadRouted)
    (hlist : r'.usecaseList = r.usecaseList) : r'.OffloadRouted := by
  unfold OffloadRouted
  rwa [hlist]

/-- What switching does to usecases other than the one it is for. -/
structure Moves (r r' : Routing) : Prop where
  kinds : r'.kinds = r.kinds
  routed : r.OffloadRouted → r'.OffloadRouted

theorem Moves.refl (r : Routing) : r.Moves r := ⟨rfl, fun h => h⟩

theorem Moves.trans {r r' r'' : Routing} (h : r.Moves r') (h' : r'.Moves r'') : r.Moves r'' :=
  ⟨h'.kinds.trans h.kinds, fun hr => h'.routed (h.routed hr)⟩

theorem Moves.of_list {r r' : Routing} (hlist : r'.usecaseList = r.usecaseList) : r.Moves r' := by
  refine ⟨?_, fun h => h.of_list hlist⟩
  unfold Routing.kinds
  rw [hlist]

theorem disableSndDevice_moves (r : Routing) (u : AudioUsecase) (d : SndDevice) :
    r.Moves (r.disableSndDevice u d) :=
  .of_list (disableSndDevice_usecaseList r u d)

theorem enableSndDevice_moves (r : Routing) (u : AudioUsecase) (d : SndDevice) :
    r.Moves (r.enableSndDevice u d) :=
  .of_list (enableSndDevice_usecaseList r u d)

theorem switchAt_moves (ids : List UsecaseId) (type : UsecaseType) {d : SndDevice} (hd : d ≠ .none)
    (r : Routing) (i : Nat) : r.Moves (switchAt ids type d r i) := by
  rcases switchAt_usecaseList ids type d r i with hsame | ⟨hmod, _⟩
  · exact .of_list hsame
  · have hmoves : r.Moves (r.modifyUsecase i (·.setSndDevice type d)) :=
      ⟨r.kinds_modifyUsecase i fun u => u.kind_setSndDevice type d,
        fun h => h.modifyUsecase i fun _ _ hdev => hdev.setSndDevice type hd⟩
    exact hmoves.trans (.of_list hmod)

theorem checkAndRouteUsecases_moves (r : Routing) (uc : Nat) (type : UsecaseType) {d : SndDevice}
    (hd : d ≠ .none) : r.Moves (r.checkAndRouteUsecases uc type d) := by
  unfold checkAndRouteUsecases
  generalize r.switchedIds uc type d = ids
  generalize List.range r.usecaseList.length = places
  induction places generalizing r with
  | nil => exact .refl r
  | cons i places ih => exact (switchAt_moves ids type hd r i).trans (ih _)

/-- `switchDevices` up to where it writes the devices of its own usecase. -/
theorem switchDevices_moves {r : Routing} {uc : Nat} {u : AudioUsecase}
    (hu : r.usecaseList[uc]? = some u) (out input : SndDevice) :
    r.switchDevices uc out input = r ∧ u.outSndDevice = out ∨
      ∃ r', r.Moves r' ∧ r.switchDevices uc out input =
        r'.modifyUsecase uc fun u => { u with inSndDevice := input, outSndDevice := out } := by
  have hdis : ∀ (r : Routing) (d : SndDevice),
      r.Moves (if d ≠ .none then r.disableSndDevice u d else r) := by
    intro r d
    split
    · exact r.disableSndDevice_moves u d
    · exact .refl r
  have hen : ∀ (r : Routing) (type : UsecaseType) (d : SndDevice),
      r.Moves (if d ≠ .none then (r.checkAndRouteUsecases uc type d).enableSndDevice u d
        else r) := by
    intro r type d
    split
    · rename_i hd
      exact (r.checkAndRouteUsecases_moves uc type hd).trans (enableSndDevice_moves _ u d)
    · exact .refl r
  unfold switchDevices
  split
  · rename_i hnone
    rw [hu] at hnone
    cases hnone
  rename_i w hw
  obtain rfl : u = w := Option.some.inj (hu.symm.trans hw)
  split
  · rename_i hsame
    exact .inl ⟨rfl, hsame.1.symm⟩
  · exact .inr ⟨_, ((hdis _ _).trans (hdis _ _)).trans
      ((hen _ .pcmPlayback out).trans (hen _ .pcmCapture input)), rfl⟩

theorem kinds_switchDevices (r : Routing) (uc : Nat) (out input : SndDevice) :
    (r.switchDevices uc out input).kinds = r.kinds := by
  cases hu : r.usecaseList[uc]? with
  | none =>
    unfold switchDevices
    rw [hu]
  | some u =>
    rcases switchDevices_moves hu out input with ⟨hsame, _⟩ | ⟨r', hm, heq⟩
    · rw [hsame]
    · rw [heq, kinds_modifyUsecase r' uc fun _ => by rfl, hm.kinds]

/-- The offload usecase stays routed unless it is the one that is switched and gets no device. -/
theorem OffloadRouted.switchDevices {r : Routing} (h : r.OffloadRouted) (uc : Nat)
    {out input : SndDevice}
    (hout : ∀ u, r.usecaseList[uc]? = some u → u.id = .audioPlaybackOffload → out ≠ .none) :
    (r.switchDevices uc out input).OffloadRouted := by
  cases hu : r.usecaseList[uc]? with
  | none =>
    unfold Routing.switchDevices
    rwa [hu]
  | some u =>
    rcases switchDevices_moves hu out input with ⟨hsame, _⟩ | ⟨r', hm, heq⟩
    · rwa [hsame]
    · rw [heq]
      apply (hm.routed h).modifyUsecase
      intro w hw hdev
      have hid : w.id = u.id := congrArg Prod.fst (kind_at hm.kinds hu hw)
      exact ⟨hdev.1, hout u hu (hid ▸ hdev.1)⟩

/-- Switching the offload usecase to a device routes it. -/
theorem offloadRouted_switchDevices {r : Routing} {uc : Nat} {u : AudioUsecase}
    {out input : SndDevice} (hu : r.usecaseList[uc]? = some u)
    (hid : u.id = .audioPlaybackOffload) (hout : out ≠ .none) :
    (r.switchDevices uc out input).OffloadRouted := by
  rcases switchDevices_moves hu out input with ⟨hsame, hdev⟩ | ⟨r', hm, heq⟩
  · rw [hsame]
    exact ⟨u, List.mem_of_getElem? hu, hid, hdev ▸ hout⟩
  · rw [heq]
    have hlen : uc < r'.usecaseList.length := by
      have hsame : r'.usecaseList.length = r.usecaseList.length := by
        simpa [kinds] using congrArg List.length hm.kinds
      rw [hsame]
      exact (List.getElem?_eq_some_iff.mp hu).1
    have hw := List.getElem?_eq_getElem hlen
    have hkind : r'.usecaseList[uc].id = u.id := congrArg Prod.fst (kind_at hm.kinds hu hw)
    exact ⟨_, List.mem_of_getElem? (getElem?_modifyUsecase _ hw), hkind.trans hid, hout⟩

end Routing

end Universal7870.Audio
