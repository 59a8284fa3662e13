import Universal7870.Audio.OffloadRoute
import Universal7870.Audio.RoutingSteps

/-!
# The usecases that are listed

A listed usecase has the id, the type and the kind of stream that go together, and the call is
listed once while `in_call` is set and not at all otherwise.
-/

namespace Universal7870.Audio

/-- The id, the type and the kind of stream that go together. -/
def AudioUsecase.Consistent (u : AudioUsecase) : Prop :=
  (u.id.isOutput = true ∧ u.type = .pcmPlayback ∧ ∃ o, u.stream = .output o) ∨
    (u.id = .audioCapture ∧ u.type = .pcmCapture ∧ ∃ i, u.stream = .input i) ∨
    (u.id = .voiceCall ∧ u.type = .voiceCall ∧ ∃ o, u.stream = .output o)

theorem AudioUsecase.Consistent.of_kind {u w : AudioUsecase} (h : u.Consistent)
    (hkind : w.kind = u.kind) : w.Consistent := by
  have hid : w.id = u.id := congrArg Prod.fst hkind
  have htype : w.type = u.type := congrArg (·.2.1) hkind
  have hstream : w.stream = u.stream := congrArg (·.2.2) hkind
  unfold Consistent
  rw [hid, htype, hstream]
  exact h

theorem AudioUsecase.New.consistent {u : AudioUsecase} (h : u.New) : u.Consistent :=
  h.kind.imp_right .inl

theorem AudioUsecase.New.not_call {u : AudioUsecase} (h : u.New) : u.id ≠ .voiceCall := by
  rintro hid
  rcases h.kind with ⟨hout, _⟩ | ⟨hin, _⟩
  · rw [hid] at hout
    cases hout
  · rw [hid] at hin
    cases hin

theorem AudioUsecase.UsesOnly.not_call {u : AudioUsecase} {d : SndDevice} (h : u.UsesOnly d) :
    u.id ≠ .voiceCall := by
  rintro hid
  rcases h with ⟨hother, _⟩ | ⟨hother, _⟩
  · rw [hid] at hother
    cases hother
  · rw [hid] at hother
    cases hother

theorem AudioUsecase.Consistent.id_of_call {u : AudioUsecase} (h : u.Consistent)
    (htype : u.type = .voiceCall) : u.id = .voiceCall := by
  rcases h with ⟨_, hother, _⟩ | ⟨_, hother, _⟩ | ⟨hid, _⟩
  · rw [hother] at htype
    cases htype
  · rw [hother] at htype
    cases htype
  · exact hid

theorem AudioUsecase.Consistent.type_of_call {u : AudioUsecase} (h : u.Consistent)
    (hid : u.id = .voiceCall) : u.type = .voiceCall := by
  rcases h with ⟨hother, _⟩ | ⟨hother, _⟩ | ⟨_, htype, _⟩
  · rw [hid] at hother
    cases hother
  · rw [hid] at hother
    cases hother
  · exact htype

theorem AudioUsecase.Consistent.type_of_output {u : AudioUsecase} (h : u.Consistent)
    (hid : u.id.isOutput = true) : u.type = .pcmPlayback := by
  rcases h with ⟨_, htype, _⟩ | ⟨hother, _⟩ | ⟨hother, _⟩
  · exact htype
  · rw [hother] at hid
    cases hid
  · rw [hother] at hid
    cases hid

theorem AudioUsecase.Consistent.type_of_capture {u : AudioUsecase} (h : u.Consistent)
    (hid : u.id = .audioCapture) : u.type = .pcmCapture := by
  rcases h with ⟨hother, _⟩ | ⟨_, htype, _⟩ | ⟨hother, _⟩
  · rw [hid] at hother
    cases hother
  · exact htype
  · rw [hid] at hother
    cases hother

/-- A playback or a call has an output stream. -/
theorem AudioUsecase.Consistent.output {u : AudioUsecase} (h : u.Consistent)
    (htype : u.type ≠ .pcmCapture) : ∃ o, u.stream = .output o := by
  rcases h with ⟨_, _, hstream⟩ | ⟨_, hcapture, _⟩ | ⟨_, _, hstream⟩
  · exact hstream
  · exact absurd hcapture htype
  · exact hstream

theorem AudioUsecase.Consistent.input {u : AudioUsecase} (h : u.Consistent)
    (htype : u.type = .pcmCapture) : ∃ i, u.stream = .input i := by
  rcases h with ⟨_, hother, _⟩ | ⟨_, _, hstream⟩ | ⟨_, hother, _⟩
  · rw [hother] at htype
    cases htype
  · exact hstream
  · rw [hother] at htype
    cases htype

/-! ## 1. Selecting devices keeps what is listed -/

namespace Routing

theorem kinds_setDevices (r : Routing) (uc : Nat) (devices : AudioDevices) :
    (r.setDevices uc devices).kinds = r.kinds :=
  r.kinds_modifyUsecase uc fun _ => rfl

theorem kinds_leaveSpeaker (r : Routing) (uc : Nat) : (r.leaveSpeaker uc).kinds = r.kinds := by
  unfold leaveSpeaker
  split
  · rfl
  split
  · have hmoves := disableSndDevice_moves
      (r.modifyUsecase uc (·.setSndDevice .pcmPlayback .outHeadphones)) ‹_› .outSpeaker
    rw [hmoves.kinds]
    exact r.kinds_modifyUsecase uc fun u => u.kind_setSndDevice _ _
  · rfl

end Routing

theorem Settings.kinds_selectDevicesAt (v : Settings) {depth : Nat} {r r' : Routing}
    {id : UsecaseId} (hsel : v.selectDevicesAt depth r id = some r') : r'.kinds = r.kinds := by
  induction depth generalizing r r' id with
  | zero => cases hsel
  | succ depth ih =>
    unfold selectDevicesAt at hsel
    split at hsel
    · obtain rfl := Option.some.inj hsel
      rfl
    rename_i uc _
    split at hsel
    · obtain rfl := Option.some.inj hsel
      rfl
    have hsw : ∀ (r₁ : Routing) (out input : SndDevice), r₁.kinds = r.kinds →
        (r₁.switchDevices uc out input).kinds = r.kinds :=
      fun r₁ out input h => (r₁.kinds_switchDevices uc out input).trans h
    have hset := fun devices => r.kinds_setDevices uc devices
    dsimp only at hsel
    split at hsel
    · obtain rfl := Option.some.inj hsel
      exact hsw _ _ _ (hset _)
    · split at hsel
      · obtain rfl := Option.some.inj hsel
        exact hsw _ _ _ (hset _)
      · split at hsel
        · obtain ⟨r₁, hr₁, hsel⟩ := Option.bind_eq_some_iff.mp hsel
          obtain rfl := Option.some.inj hsel
          exact hsw _ _ _ ((ih hr₁).trans (hset _))
        · obtain rfl := Option.some.inj hsel
          exact hsw _ _ _ (hset _)
    · obtain rfl := Option.some.inj hsel
      exact hsw _ _ _ (hset _)
    · obtain rfl := Option.some.inj hsel
      exact hsw _ _ _ rfl

/-! ## 2. The list of a device -/

/-- The number of calls that are listed. -/
def Routing.calls (r : Routing) : Nat := r.usecaseList.countP (·.id = .voiceCall)

theorem Routing.calls_of_kinds {r r' : Routing} (hkinds : r'.kinds = r.kinds) :
    r'.calls = r.calls := by
  have hcount : ∀ r : Routing, r.calls = r.kinds.countP (·.1 = .voiceCall) := by
    intro r
    unfold calls kinds
    rw [List.countP_map]
    rfl
  rw [hcount, hcount, hkinds]

namespace Hal

/-- What is listed while no operation is under way. -/
structure Listed (h : Hal) : Prop where
  consistent : ∀ u ∈ h.routing.usecaseList, u.Consistent
  calls : h.routing.calls = if h.inCall then 1 else 0

theorem Listed.of_kinds {h h' : Hal} (hl : h.Listed) (hkinds : h'.routing.kinds = h.routing.kinds)
    (hcall : h'.inCall = h.inCall) : h'.Listed where
  consistent w hw := by
    have hmem : w.kind ∈ h.routing.kinds := by
      rw [← hkinds]
      exact List.mem_map_of_mem hw
    obtain ⟨u, hu, hkind⟩ := List.mem_map.mp hmem
    exact (hl.consistent u hu).of_kind hkind.symm
  calls := by
    rw [Routing.calls_of_kinds hkinds, hcall]
    exact hl.calls

theorem kinds_selectDevices {h h' : Hal} {id : UsecaseId}
    (hsel : h.selectDevices id = some h') :
    h'.routing.kinds = h.routing.kinds ∧ h'.inCall = h.inCall := by
  obtain ⟨r, hr, rfl⟩ := Option.map_eq_some_iff.mp hsel
  exact ⟨h.toSettings.kinds_selectDevicesAt hr, rfl⟩

theorem Listed.select {h h' : Hal} {id : UsecaseId} (hl : h.Listed)
    (hsel : h.selectDevices id = some h') : h'.Listed :=
  hl.of_kinds (kinds_selectDevices hsel).1 (kinds_selectDevices hsel).2

theorem Listed.add {h : Hal} (hl : h.Listed) {u : AudioUsecase} (hnew : u.New) :
    { h with routing := h.routing.addUsecase u }.Listed where
  consistent w hw := by
    rcases List.mem_append.mp hw with hw | hw
    · exact hl.consistent w hw
    · rw [List.mem_singleton.mp hw]
      exact hnew.consistent
  calls := by
    show (h.routing.usecaseList ++ [u]).countP _ = _
    rw [List.countP_append, List.countP_singleton, if_neg (by simpa using hnew.not_call)]
    exact hl.calls

theorem Listed.listCall {h : Hal} (hl : h.Listed) (hcall : h.inCall = false) (o : OutId) :
    (h.listCall o).Listed where
  consistent w hw := by
    rcases List.mem_append.mp hw with hw | hw
    · exact hl.consistent w hw
    · rw [List.mem_singleton.mp hw]
      exact .inr (.inr ⟨rfl, rfl, o, rfl⟩)
  calls := by
    have hzero := hl.calls
    rw [hcall] at hzero
    show (h.routing.usecaseList ++ [_]).countP _ = 1
    rw [List.countP_append, show h.routing.usecaseList.countP _ = 0 from hzero]
    rfl

/-- What is left when the usecase at a place is delisted. -/
theorem Listed.removed {h h' : Hal} (hl : h.Listed) {uc : Nat} {u : AudioUsecase}
    (hu : h.routing.usecaseList[uc]? = some u)
    (hlist : h'.routing.usecaseList = h.routing.usecaseList.eraseIdx uc)
    (hcalls : h.routing.calls = (if h'.inCall then 1 else 0) +
      if u.id = .voiceCall then 1 else 0) : h'.Listed where
  consistent w hw := by
    rw [hlist] at hw
    exact hl.consistent w (List.mem_of_mem_eraseIdx hw)
  calls := by
    have herase := countP_eraseIdx (p := fun u => u.id = .voiceCall) hu
    unfold Routing.calls at hcalls ⊢
    rw [hlist]
    simp only [decide_eq_true_eq] at herase
    omega

theorem Listed.remove {h : Hal} (hl : h.Listed) {uc : Nat} {u : AudioUsecase} {d : SndDevice}
    (hu : h.routing.usecaseList[uc]? = some u) (huses : u.UsesOnly d) :
    { h with routing := (h.routing.disableSndDevice u d).removeUsecase uc }.Listed := by
  apply hl.removed hu
  · show ((h.routing.disableSndDevice u d).usecaseList).eraseIdx uc = _
    rw [Routing.disableSndDevice_usecaseList]
  · rw [if_neg huses.not_call]
    exact hl.calls

/-- The call's usecase is found while it is listed. -/
theorem stopVoiceCall_listed {h : Hal} (hl : h.Listed) : h.stopVoiceCall.Listed := by
  have hsession : h.routing.calls = 0 → { h with inCall := false }.stopVoiceSession.Listed := by
    intro hzero
    exact ⟨hl.consistent, hzero⟩
  unfold stopVoiceCall
  dsimp only
  split
  · rename_i hnone
    apply hsession
    apply List.countP_eq_zero.mpr
    exact fun w hw => List.findIdx?_eq_none_iff.mp hnone w hw ▸ Bool.false_ne_true
  rename_i uc huc
  split
  · rename_i hout
    have hlt := (List.findIdx?_eq_some_iff_getElem.mp huc).1
    exact absurd (List.getElem?_eq_none_iff.mp hout) (Nat.not_le.mpr hlt)
  · rename_i u hu
    have hid := Routing.getUsecaseFromId_id huc hu
    have hcalls := hl.calls
    have hone : 0 < h.routing.calls :=
      List.countP_pos_iff.mpr ⟨u, List.mem_of_getElem? hu, decide_eq_true hid⟩
    apply hl.removed hu
    · have hsame : ∀ (k : Hal) (d : SndDevice),
          (k.disableSndDevice u d).routing.usecaseList = k.routing.usecaseList :=
        fun k d => Routing.disableSndDevice_usecaseList k.routing u d
      show List.eraseIdx _ uc = _
      rw [hsame, hsame]
      rfl
    · show h.routing.calls = 0 + _
      rw [if_pos hid]
      split at hcalls
      · omega
      · omega

theorem leaveSpeaker_listed {h : Hal} (hl : h.Listed) (o : OutId) (uc : Nat) :
    (h.leaveSpeaker o uc).Listed := by
  unfold leaveSpeaker
  split
  · exact hl.of_kinds (h.routing.kinds_leaveSpeaker uc) rfl
  · exact hl

theorem listed_closed : Closed (fun _ _ => True) fun h h' => h.Listed → h'.Listed where
  refl _ hl := hl
  trans hk hk' hl := hk' (hk hl)
  frame hrouting hcall hl := hl.of_kinds (by rw [hrouting]) hcall
  session _ _ hl := hl.of_kinds rfl rfl
  select _ hsel hl := hl.select hsel
  add _ _ hnew hl := hl.add hnew
  remove _ _ _ _ hu huses hl := hl.remove hu huses
  stopCall _ hl := stopVoiceCall_listed hl
  startCall hcall _ hsel hl := (hl.listCall hcall _).select hsel
  reroute _ _ hsel hl := (leaveSpeaker_listed hl _ _).select hsel

theorem listed_on : ClosedOn (fun _ => True) (fun _ _ => True) fun h h' => h.Listed → h'.Listed :=
  listed_closed.on _

theorem start_listed {h : Hal} (hstart : Start h) : h.Listed where
  consistent u hu := by
    rw [hstart.usecaseList] at hu
    cases hu
  calls := by
    unfold Routing.calls
    rw [hstart.usecaseList, hstart.inCall]
    rfl

theorem Reaches.listed {h₀ h : Hal} {ops : List Op} (hrun : Reaches h₀ ops h) : h.Listed :=
  listed_closed.run hrun.2 (start_listed hrun.1)

end Hal

end Universal7870.Audio
