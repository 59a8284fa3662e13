import Universal7870.Audio.StreamTyping

/-!
# One output device for all

Playbacks and the call share the hardware codec, so those that are routed to an output device are
routed to the same one.  `check_and_route_usecases` takes the other playbacks along whenever one
usecase is switched.
-/

namespace Universal7870.Audio

open Lib

/-- A usecase that shares the output of the codec. -/
def AudioUsecase.SharesOutput (u : AudioUsecase) : Prop :=
  u.type = .pcmPlayback ∨ u.type = .voiceCall

instance (u : AudioUsecase) : Decidable u.SharesOutput := inferInstanceAs (Decidable (_ ∨ _))

/-- All that are routed to an output device are routed to the same one. -/
def Routing.CommonDevice (r : Routing) : Prop :=
  ∀ u ∈ r.usecaseList, ∀ w ∈ r.usecaseList, u.SharesOutput → w.SharesOutput →
    u.outSndDevice ≠ .none → w.outSndDevice ≠ .none → u.outSndDevice = w.outSndDevice

/-! ## 1. What the two loops do -/

section Lists

variable {α : Type*}

theorem getElem?_foldl_modify (f : α → α) (l : List α) (n j : Nat) :
    ((List.range n).foldl (fun l i => l.modify i f) l)[j]? =
      if j < n then l[j]?.map f else l[j]? := by
  induction n with
  | zero => rfl
  | succ n ih =>
    rw [List.range_succ, List.foldl_append, List.foldl_cons, List.foldl_nil, List.getElem?_modify,
      ih]
    by_cases hlt : j < n
    · rw [if_pos hlt, if_pos (by omega), Option.map_eq_map, Option.map_map]
      congr 1
      funext a
      exact if_neg (by omega)
    · rw [if_neg hlt]
      by_cases heq : n = j
      · rw [if_pos (by omega)]
        simp only [heq, ↓reduceIte]
        rfl
      · rw [if_neg (by omega)]
        simp only [heq, ↓reduceIte]
        exact Option.map_id'

/-- A loop over the places of a list that changes each place is a map. -/
theorem foldl_modify_range (f : α → α) (l : List α) :
    (List.range l.length).foldl (fun l i => l.modify i f) l = l.map f := by
  apply List.ext_getElem?
  intro j
  rw [getElem?_foldl_modify, List.getElem?_map]
  split
  · rfl
  · rename_i hge
    rw [List.getElem?_eq_none (by omega)]
    rfl

theorem modify_congr_at {f g : α → α} {l : List α} {i : Nat} (h : ∀ a, l[i]? = some a → f a = g a) :
    l.modify i f = l.modify i g := by
  apply List.ext_getElem?
  intro j
  rw [List.getElem?_modify, List.getElem?_modify]
  cases hj : l[j]? with
  | none => rfl
  | some a =>
    by_cases hij : i = j
    · subst hij
      simp [h a hj]
    · simp [hij]

end Lists

namespace Routing

/-- What the loop makes of a usecase. -/
def route (ids : List UsecaseId) (type : UsecaseType) (d : SndDevice) (u : AudioUsecase) :
    AudioUsecase :=
  if u.id ∈ ids then u.setSndDevice type d else u

theorem switchAt_list (ids : List UsecaseId) (type : UsecaseType) (d : SndDevice) (r : Routing)
    (i : Nat) : (switchAt ids type d r i).usecaseList = r.usecaseList.modify i (route ids type d) := by
  have hsame : (∀ u, r.usecaseList[i]? = some u → id u = route ids type d u) →
      r.usecaseList = r.usecaseList.modify i (route ids type d) := by
    intro hroute
    calc r.usecaseList = r.usecaseList.modify i id := (List.modify_id i _).symm
      _ = r.usecaseList.modify i (route ids type d) := modify_congr_at hroute
  unfold switchAt
  split
  · rename_i hnone
    apply hsame
    intro u hu
    rw [hnone] at hu
    cases hu
  · rename_i u hu
    split
    · rename_i hmem
      simp only [modifyUsecase, enableSndDevice_usecaseList, disableSndDevice_usecaseList]
      apply modify_congr_at
      intro w hw
      obtain rfl : u = w := Option.some.inj (hu.symm.trans hw)
      exact (if_pos hmem).symm
    · rename_i hmem
      apply hsame
      intro w hw
      obtain rfl : u = w := Option.some.inj (hu.symm.trans hw)
      exact (if_neg hmem).symm

theorem checkAndRouteUsecases_list (r : Routing) (uc : Nat) (type : UsecaseType) (d : SndDevice) :
    (r.checkAndRouteUsecases uc type d).usecaseList =
      r.usecaseList.map (route (r.switchedIds uc type d) type d) := by
  unfold checkAndRouteUsecases
  generalize r.switchedIds uc type d = ids
  have hfold : ∀ (places : List Nat) (r : Routing),
      (places.foldl (switchAt ids type d) r).usecaseList =
        places.foldl (fun l i => l.modify i (route ids type d)) r.usecaseList := by
    intro places
    induction places with
    | nil => exact fun _ => rfl
    | cons i places ih =>
      intro r
      rw [List.foldl_cons, ih, switchAt_list, List.foldl_cons]
  rw [hfold, foldl_modify_range]

theorem kind_route (ids : List UsecaseId) (type : UsecaseType) (d : SndDevice) (u : AudioUsecase) :
    (route ids type d u).kind = u.kind := by
  unfold route
  split
  · exact u.kind_setSndDevice type d
  · rfl

/-- A playback in another place is on the device afterwards. -/
theorem route_playback {r : Routing} {uc i : Nat} {u : AudioUsecase} {d : SndDevice}
    (hu : r.usecaseList[i]? = some u) (hne : i ≠ uc) (htype : u.type = .pcmPlayback) :
    (route (r.switchedIds uc .pcmPlayback d) .pcmPlayback d u).outSndDevice = d := by
  unfold route
  split
  · rfl
  · rename_i hnot
    by_contra hother
    apply hnot
    unfold switchedIds
    rw [List.mem_map]
    refine ⟨(u, i), List.mem_filter.mpr ⟨List.mem_zipIdx_iff_getElem?.mpr hu, ?_⟩, rfl⟩
    exact decide_eq_true ⟨htype, hne, hother⟩

theorem route_out (ids : List UsecaseId) (d : SndDevice) (u : AudioUsecase) :
    (route ids .pcmPlayback d u).outSndDevice = u.outSndDevice ∨
      (route ids .pcmPlayback d u).outSndDevice = d := by
  unfold route
  split
  · exact .inr rfl
  · exact .inl rfl

theorem route_capture_out (ids : List UsecaseId) (d : SndDevice) (u : AudioUsecase) :
    (route ids .pcmCapture d u).outSndDevice = u.outSndDevice := by
  unfold route
  split
  · rfl
  · rfl

/-- What switching the usecase at `uc` does to a place. -/
structure Switched (uc : Nat) (out : SndDevice) (i : Nat) (u w : AudioUsecase) : Prop where
  kind : w.kind = u.kind
  own : i = uc → w.outSndDevice = out
  kept : i ≠ uc → w.outSndDevice = u.outSndDevice ∨ out ≠ .none ∧ w.outSndDevice = out
  playback : i ≠ uc → out ≠ .none → u.type = .pcmPlayback → w.outSndDevice = out

theorem switchDevices_switched {r : Routing} {uc : Nat} {u : AudioUsecase}
    (hu : r.usecaseList[uc]? = some u) (out input : SndDevice) :
    r.switchDevices uc out input = r ∧ u.outSndDevice = out ∨
      ∀ (i : Nat) (w : AudioUsecase), (r.switchDevices uc out input).usecaseList[i]? = some w →
        ∃ v, r.usecaseList[i]? = some v ∧ Switched uc out i v w := by
  have hdis : ∀ (r : Routing) (d : SndDevice),
      (if d ≠ .none then r.disableSndDevice u d else r).usecaseList = r.usecaseList := by
    intro r d
    split
    · exact disableSndDevice_usecaseList r u d
    · rfl
  -- the loop for playbacks, then the one for recordings
  have hout : ∀ r₁ : Routing, r₁.usecaseList = r.usecaseList → ∀ (i : Nat) (w : AudioUsecase),
      (if out ≠ .none then (r₁.checkAndRouteUsecases uc .pcmPlayback out).enableSndDevice u out
        else r₁).usecaseList[i]? = some w →
      ∃ v, r.usecaseList[i]? = some v ∧ w.kind = v.kind ∧
        (w.outSndDevice = v.outSndDevice ∨ out ≠ .none ∧ w.outSndDevice = out) ∧
        (i ≠ uc → out ≠ .none → v.type = .pcmPlayback → w.outSndDevice = out) := by
    intro r₁ hlist i w hw
    split at hw
    · rename_i hne
      rw [enableSndDevice_usecaseList, checkAndRouteUsecases_list, List.getElem?_map, hlist] at hw
      obtain ⟨v, hv, rfl⟩ := Option.map_eq_some_iff.mp hw
      refine ⟨v, hv, kind_route _ _ _ v, (route_out _ out v).imp_right fun h => ⟨hne, h⟩, ?_⟩
      exact fun hi _ htype => route_playback (hlist ▸ hv) hi htype
    · rename_i hnone
      rw [hlist] at hw
      exact ⟨w, hw, rfl, .inl rfl, fun _ hne => absurd hne hnone⟩
  have hin : ∀ (r₁ : Routing) (i : Nat) (w : AudioUsecase),
      (if input ≠ .none then (r₁.checkAndRouteUsecases uc .pcmCapture input).enableSndDevice u input
        else r₁).usecaseList[i]? = some w →
      ∃ v, r₁.usecaseList[i]? = some v ∧ w.kind = v.kind ∧ w.outSndDevice = v.outSndDevice := by
    intro r₁ i w hw
    split at hw
    · rw [enableSndDevice_usecaseList, checkAndRouteUsecases_list, List.getElem?_map] at hw
      obtain ⟨v, hv, rfl⟩ := Option.map_eq_some_iff.mp hw
      exact ⟨v, hv, kind_route _ _ _ v, route_capture_out _ _ v⟩
    · exact ⟨w, hw, rfl, rfl⟩
  unfold switchDevices
  rw [hu]
  dsimp only
  split
  · rename_i hsame
    exact .inl ⟨rfl, hsame.1.symm⟩
  · right
    intro i w hw
    change (List.modify _ uc _)[i]? = some w at hw
    rw [List.getElem?_modify, Option.map_eq_map] at hw
    obtain ⟨v₂, hv₂, rfl⟩ := Option.map_eq_some_iff.mp hw
    obtain ⟨v₁, hv₁, hkind₂, hout₂⟩ := hin _ i v₂ hv₂
    obtain ⟨v, hv, hkind₁, hout₁, hplay⟩ := hout _ ((hdis _ _).trans (hdis _ _)) i v₁ hv₁
    refine ⟨v, hv, ?_⟩
    by_cases huc : uc = i
    · simp only [huc, ↓reduceIte]
      exact ⟨hkind₂.trans hkind₁, fun _ => rfl, fun hne => absurd rfl hne,
        fun hne => absurd rfl hne⟩
    · simp only [huc, ↓reduceIte]
      refine ⟨hkind₂.trans hkind₁, fun heq => absurd heq.symm huc, fun _ => ?_, ?_⟩
      · rw [hout₂]
        exact hout₁
      · rw [hout₂]
        exact hplay

end Routing

/-! ## 2. One device -/

/-- All that share the output are on `d`, or on no device; the place `except` is not looked at. -/
def Routing.OnDevice (r : Routing) (except : Option Nat) (d : SndDevice) : Prop :=
  ∀ (i : Nat) (u : AudioUsecase), r.usecaseList[i]? = some u → u.SharesOutput →
    except ≠ some i → u.outSndDevice = .none ∨ u.outSndDevice = d

theorem Routing.OnDevice.common {r : Routing} {d : SndDevice} (h : r.OnDevice none d) :
    r.CommonDevice := by
  intro u hu w hw husp hwsp hune hwne
  obtain ⟨i, hi⟩ := List.mem_iff_getElem?.mp hu
  obtain ⟨j, hj⟩ := List.mem_iff_getElem?.mp hw
  have hud := (h i u hi husp nofun).resolve_left hune
  have hwd := (h j w hj hwsp nofun).resolve_left hwne
  rw [hud, hwd]

theorem Routing.OnDevice.drop {r : Routing} {d : SndDevice} (h : r.OnDevice none d)
    (except : Option Nat) : r.OnDevice except d :=
  fun i u hu hshares _ => h i u hu hshares nofun

theorem AudioUsecase.SharesOutput.of_kind {u w : AudioUsecase} (h : w.SharesOutput)
    (hkind : w.kind = u.kind) : u.SharesOutput := by
  have htype : w.type = u.type := congrArg (·.2.1) hkind
  unfold SharesOutput at h ⊢
  rwa [← htype]

/-- No call but the one at `except` is on a device other than `d`. -/
def Routing.CallsOn (r : Routing) (except : Nat) (d : SndDevice) : Prop :=
  ∀ (i : Nat) (u : AudioUsecase), r.usecaseList[i]? = some u → i ≠ except →
    u.type = .voiceCall → u.outSndDevice = .none ∨ u.outSndDevice = d

/-- Switching a usecase that shares the output takes the playbacks along to its device, and leaves
the others where they are if it gets none. -/
theorem Routing.OnDevice.switchDevices {r : Routing} {except : Option Nat} {d out : SndDevice}
    (h : r.OnDevice except d) {uc : Nat} {u : AudioUsecase} {input : SndDevice}
    (hu : r.usecaseList[uc]? = some u) (hcalls : out ≠ .none → r.CallsOn uc out)
    (hexcept : ∀ e, except = some e → e = uc ∧ u.outSndDevice ≠ out) :
    ∃ d', (r.switchDevices uc out input).OnDevice none d' := by
  rcases switchDevices_switched hu out input with ⟨hsame, hdev⟩ | hsw
  · rw [hsame]
    cases except with
    | none => exact ⟨d, h⟩
    | some e => exact absurd hdev (hexcept e rfl).2
  · by_cases hout : out = .none
    · refine ⟨d, fun i w hw hwshares _ => ?_⟩
      obtain ⟨v, hv, hswitched⟩ := hsw i w hw
      by_cases hi : i = uc
      · exact .inl ((hswitched.own hi).trans hout)
      · rcases hswitched.kept hi with hkept | ⟨hne, _⟩
        · rw [hkept]
          apply h i v hv (hwshares.of_kind hswitched.kind)
          intro he
          exact hi (hexcept i he).1
        · exact absurd hout hne
    · refine ⟨out, fun i w hw hwshares _ => ?_⟩
      obtain ⟨v, hv, hswitched⟩ := hsw i w hw
      by_cases hi : i = uc
      · exact .inr (hswitched.own hi)
      · rcases hwshares.of_kind hswitched.kind with hplay | hcall
        · exact .inr (hswitched.playback hi hout hplay)
        · rcases hswitched.kept hi with hkept | ⟨_, hmoved⟩
          · rw [hkept]
            exact hcalls hout i v hv hi hcall
          · exact .inr hmoved

/-- Only the output devices of recordings changed. -/
def Routing.Rests (r r' : Routing) : Prop :=
  ∀ (i : Nat) (w : AudioUsecase), r'.usecaseList[i]? = some w →
    ∃ v, r.usecaseList[i]? = some v ∧ w.kind = v.kind ∧
      (v.type ≠ .pcmCapture → w.outSndDevice = v.outSndDevice)

theorem Routing.Rests.refl (r : Routing) : r.Rests r := fun _ w hw => ⟨w, hw, rfl, fun _ => rfl⟩

theorem Routing.Rests.trans {r r' r'' : Routing} (h : r.Rests r') (h' : r'.Rests r'') :
    r.Rests r'' := by
  intro i w hw
  obtain ⟨v, hv, hkind, hout⟩ := h' i w hw
  obtain ⟨u, hu, hkind₁, hout₁⟩ := h i v hv
  have htype : v.type = u.type := congrArg (·.2.1) hkind₁
  refine ⟨u, hu, hkind.trans hkind₁, fun hne => ?_⟩
  rw [hout (htype ▸ hne), hout₁ hne]

theorem AudioUsecase.SharesOutput.not_capture {u : AudioUsecase} (h : u.SharesOutput) :
    u.type ≠ .pcmCapture := by
  intro hcapture
  rcases h with htype | htype
  · rw [htype] at hcapture
    cases hcapture
  · rw [htype] at hcapture
    cases hcapture

theorem Routing.OnDevice.rests {r r' : Routing} {except : Option Nat} {d : SndDevice}
    (h : r.OnDevice except d) (hrests : r.Rests r') : r'.OnDevice except d := by
  intro i w hw hshares hexcept
  obtain ⟨v, hv, hkind, hout⟩ := hrests i w hw
  have hvshares := hshares.of_kind hkind
  rw [hout hvshares.not_capture]
  exact h i v hv hvshares hexcept

theorem Routing.CallsOn.rests {r r' : Routing} {except : Nat} {d : SndDevice}
    (h : r.CallsOn except d) (hrests : r.Rests r') : r'.CallsOn except d := by
  intro i w hw hne htype
  obtain ⟨v, hv, hkind, hout⟩ := hrests i w hw
  have hvtype : v.type = .voiceCall := (congrArg (·.2.1) hkind).symm.trans htype
  rw [hout (AudioUsecase.SharesOutput.not_capture (.inr hvtype))]
  exact h i v hv hne hvtype

theorem Routing.setDevices_rests (r : Routing) (uc : Nat) (devices : AudioDevices) :
    r.Rests (r.setDevices uc devices) := by
  intro i w hw
  change (r.usecaseList.modify uc _)[i]? = some w at hw
  rw [List.getElem?_modify, Option.map_eq_map] at hw
  obtain ⟨v, hv, rfl⟩ := Option.map_eq_some_iff.mp hw
  refine ⟨v, hv, ?_⟩
  split
  · exact ⟨rfl, fun _ => rfl⟩
  · exact ⟨rfl, fun _ => rfl⟩

/-- Switching a recording. -/
theorem Routing.switchDevices_rests {r : Routing} {uc : Nat} {u : AudioUsecase} {input : SndDevice}
    (hu : r.usecaseList[uc]? = some u) (htype : u.type = .pcmCapture) :
    r.Rests (r.switchDevices uc .none input) := by
  rcases switchDevices_switched hu .none input with ⟨hsame, _⟩ | hsw
  · rw [hsame]
    exact .refl r
  · intro i w hw
    obtain ⟨v, hv, hswitched⟩ := hsw i w hw
    refine ⟨v, hv, hswitched.kind, fun hne => ?_⟩
    by_cases hi : i = uc
    · subst hi
      obtain rfl : u = v := Option.some.inj (hu.symm.trans hv)
      exact absurd htype hne
    · rcases hswitched.kept hi with hkept | ⟨hno, _⟩
      · exact hkept
      · exact absurd rfl hno

/-! ## 3. One selection -/

/-- The device `select_devices` chooses for a playback. -/
def Settings.playbackDevice (v : Settings) (r : Routing) (u : AudioUsecase) : SndDevice :=
  if (v.callDevices r).1 ≠ .none then (v.callDevices r).1
  else v.outputSndDevice r (v.outputDevicesAt u.stream)

/-- Calls listed beside the one at a place. -/
theorem countP_ge_two {α : Type*} {p : α → Bool} {l : List α} {i j : Nat} {a b : α}
    (hi : l[i]? = some a) (hj : l[j]? = some b) (hne : i ≠ j) (ha : p a = true) (hb : p b = true) :
    2 ≤ l.countP p := by
  have herase := countP_eraseIdx (p := p) hi
  rw [if_pos ha] at herase
  have hmem : b ∈ l.eraseIdx i := List.mem_eraseIdx_iff_getElem?.mpr ⟨j, fun h => hne h.symm, hj⟩
  have hpos : 0 < (l.eraseIdx i).countP p := List.countP_pos_iff.mpr ⟨b, hmem, hb⟩
  omega

namespace Routing

variable {v : Settings} {r : Routing}

/-- The list is in order, as far as a selection relies on it. -/
structure InOrder (v : Settings) (r : Routing) : Prop where
  consistent : ∀ u ∈ r.usecaseList, u.Consistent
  calls : r.calls = if v.inCall then 1 else 0

/-- Beside a call there is no other. -/
theorem InOrder.callsOn_call (h : InOrder v r) {uc : Nat} {u : AudioUsecase}
    (hu : r.usecaseList[uc]? = some u) (hcall : u.type = .voiceCall) (d : SndDevice) :
    r.CallsOn uc d := by
  intro i w hw hne htype
  have huid := (h.consistent u (List.mem_of_getElem? hu)).id_of_call hcall
  have hwid := (h.consistent w (List.mem_of_getElem? hw)).id_of_call htype
  have htwo := countP_ge_two (p := fun u => u.id = .voiceCall) hw hu hne (decide_eq_true hwid)
    (decide_eq_true huid)
  have hcalls := h.calls
  unfold Routing.calls at hcalls
  split at hcalls
  · omega
  · omega

/-- The call that is found is the only one. -/
theorem InOrder.call_device (h : InOrder v r) {i : Nat} {w : AudioUsecase}
    (hw : r.usecaseList[i]? = some w) (htype : w.type = .voiceCall) :
    (v.callDevices r).1 = w.outSndDevice := by
  have hwid := (h.consistent w (List.mem_of_getElem? hw)).id_of_call htype
  have hmem := List.mem_of_getElem? hw
  have hpos : 0 < r.usecaseList.countP (·.id = .voiceCall) :=
    List.countP_pos_iff.mpr ⟨w, hmem, decide_eq_true hwid⟩
  have hcalls := h.calls
  unfold Routing.calls at hcalls
  split at hcalls
  case isFalse => omega
  rename_i hin
  have hfound : (r.usecaseList.find? (·.id = .voiceCall)).isSome :=
    List.find?_isSome.mpr ⟨w, hmem, decide_eq_true hwid⟩
  obtain ⟨c, hc⟩ := Option.isSome_iff_exists.mp hfound
  have hcid : c.id = .voiceCall := by simpa using List.find?_some hc
  have hcw : c = w := by
    obtain ⟨j, hj⟩ := List.mem_iff_getElem?.mp (List.mem_of_find?_eq_some hc)
    by_cases hij : j = i
    · subst hij
      exact Option.some.inj (hj.symm.trans hw)
    · have htwo := countP_ge_two (p := fun u => u.id = .voiceCall) hj hw hij
        (decide_eq_true hcid) (decide_eq_true hwid)
      omega
  unfold Settings.callDevices
  rw [if_pos hin, hc, hcw]

/-- A playback is switched to the call's device if the call has one. -/
theorem InOrder.callsOn_playback (h : InOrder v r) (uc : Nat) (u : AudioUsecase) :
    r.CallsOn uc (v.playbackDevice r u) := by
  intro i w hw _ htype
  have hdev := h.call_device hw htype
  unfold Settings.playbackDevice
  split
  · exact .inr hdev.symm
  · rename_i hnone
    exact .inl (hdev.symm.trans (Classical.not_not.mp hnone))

/-- The place keeps what it is for, and what it is routed to unless it is a recording. -/
theorem Rests.at {r r' : Routing} (h : r.Rests r') (hkinds : r'.kinds = r.kinds) {uc : Nat}
    {u : AudioUsecase} (hu : r.usecaseList[uc]? = some u) :
    ∃ w, r'.usecaseList[uc]? = some w ∧ w.kind = u.kind ∧
      (u.type ≠ .pcmCapture → w.outSndDevice = u.outSndDevice) := by
  have hlt : uc < r'.usecaseList.length := by
    have hlen : r'.usecaseList.length = r.usecaseList.length := by
      simpa [kinds] using congrArg List.length hkinds
    rw [hlen]
    exact (List.getElem?_eq_some_iff.mp hu).1
  have hw := List.getElem?_eq_getElem hlt
  obtain ⟨v, hv, hkind, hout⟩ := h uc _ hw
  obtain rfl : u = v := Option.some.inj (hu.symm.trans hv)
  exact ⟨_, hw, hkind, hout⟩

theorem select_recording_rests {r' : Routing} (hr : ∀ u ∈ r.usecaseList, u.Consistent)
    {depth : Nat} (hsel : v.selectDevicesAt depth r .audioCapture = some r') : r.Rests r' := by
  cases depth with
  | zero => cases hsel
  | succ depth =>
    unfold Settings.selectDevicesAt at hsel
    split at hsel
    · obtain rfl := Option.some.inj hsel
      exact .refl r
    rename_i uc huc
    split at hsel
    · obtain rfl := Option.some.inj hsel
      exact .refl r
    rename_i u hu
    have hid := getUsecaseFromId_id huc hu
    have htype := (hr u (List.mem_of_getElem? hu)).type_of_capture hid
    dsimp only at hsel
    rw [htype] at hsel
    obtain rfl := Option.some.inj hsel
    have hset := r.setDevices_rests uc (v.inputAt u.stream).devices
    obtain ⟨w, hw, hkind, _⟩ := hset.at (r.kinds_setDevices uc _) hu
    exact hset.trans (switchDevices_rests hw ((congrArg (·.2.1) hkind).trans htype))

/-- A selection for a playback; `except` is the place of a usecase that was switched by itself. -/
theorem OnDevice.select_playback {r' : Routing} {except : Option Nat} {d : SndDevice}
    {id : UsecaseId} (h : r.OnDevice except d) (hin : InOrder v r) (hid : id.isOutput = true)
    (htyped : v.SelectionTyped r id) {uc : Nat} {u : AudioUsecase}
    (huc : r.getUsecaseFromId id = some uc) (hu : r.usecaseList[uc]? = some u)
    (hexcept : ∀ e, except = some e → e = uc ∧ u.outSndDevice ≠ v.playbackDevice r u)
    (hsel : v.selectDevices r id = some r') : ∃ d', r'.OnDevice none d' := by
  have huid := getUsecaseFromId_id huc hu
  have hcons := hin.consistent u (List.mem_of_getElem? hu)
  have htype := hcons.type_of_output (huid ▸ hid)
  have hcalls := hin.callsOn_playback uc u
  -- whatever goes before, the usecase is switched to the device that was chosen
  have hswitch : ∀ r₁ : Routing, r.Rests r₁ → r₁.kinds = r.kinds →
      ∃ d', (r₁.switchDevices uc (v.playbackDevice r u) .none).OnDevice none d' := by
    intro r₁ hrests hkinds
    obtain ⟨w, hw, _, hout⟩ := hrests.at hkinds hu
    have hne : u.type ≠ .pcmCapture := AudioUsecase.SharesOutput.not_capture (.inl htype)
    apply (h.rests hrests).switchDevices hw fun _ => hcalls.rests hrests
    rw [hout hne]
    exact hexcept
  have hset := r.setDevices_rests uc (v.outputDevicesAt u.stream)
  have hkinds := r.kinds_setDevices uc (v.outputDevicesAt u.stream)
  unfold Settings.selectDevices Settings.selectDevicesAt at hsel
  rw [huc] at hsel
  dsimp only at hsel
  rw [hu] at hsel
  dsimp only at hsel
  rw [htype] at hsel
  dsimp only at hsel
  by_cases hcall : (v.callDevices r).1 = .none
  · rw [if_neg (Classical.not_not.mpr hcall)] at hsel
    have hdev : v.playbackDevice r u = v.outputSndDevice r (v.outputDevicesAt u.stream) := by
      unfold Settings.playbackDevice
      rw [if_neg (Classical.not_not.mpr hcall)]
    split at hsel
    · rename_i input hinput
      obtain ⟨r₁, hr₁, hsel⟩ := Option.bind_eq_some_iff.mp hsel
      obtain rfl := Option.some.inj hsel
      have hreads : v.ReadsActiveInput r u := by
        unfold Settings.ReadsActiveInput
        rw [htype]
        refine ⟨hcall, ?_⟩
        unfold Settings.selectsFirst at hinput
        split at hinput
        · assumption
        · cases hinput
      have hfirst : ¬(r.setDevices uc (v.outputDevicesAt u.stream)).FirstIsCall := by
        rw [Hal.firstIsCall_of_kinds hkinds]
        exact htyped u (Hal.find?_of_getUsecaseFromId huc hu) hreads
      have hcons' : ∀ w ∈ (r.setDevices uc (v.outputDevicesAt u.stream)).usecaseList,
          w.Consistent := by
        intro w hw
        obtain ⟨i, hi⟩ := List.mem_iff_getElem?.mp hw
        obtain ⟨c, hc, hkind, _⟩ := hset i w hi
        exact (hin.consistent c (List.mem_of_getElem? hc)).of_kind hkind
      obtain rfl := Hal.selectsFirst_recording hcons' hfirst hinput
      have hrests := select_recording_rests hcons' hr₁
      have hk := (v.kinds_selectDevicesAt hr₁).trans hkinds
      have hdone := hswitch r₁ (hset.trans hrests) hk
      rwa [hdev] at hdone
    · obtain rfl := Option.some.inj hsel
      have hdone := hswitch _ hset hkinds
      rwa [hdev] at hdone
  · rw [if_pos hcall] at hsel
    obtain rfl := Option.some.inj hsel
    have hdev : v.playbackDevice r u = (v.callDevices r).1 := by
      unfold Settings.playbackDevice
      rw [if_pos hcall]
    have hdone := hswitch _ hset hkinds
    rwa [hdev] at hdone

/-- A selection for the call. -/
theorem OnDevice.select_call {r' : Routing} {d : SndDevice} {id : UsecaseId}
    (h : r.OnDevice none d) (hin : InOrder v r) {uc : Nat} {u : AudioUsecase}
    (huc : r.getUsecaseFromId id = some uc) (hu : r.usecaseList[uc]? = some u)
    (htype : u.type = .voiceCall) (hsel : v.selectDevices r id = some r') :
    ∃ d', r'.OnDevice none d' := by
  have hrests : r.Rests ((r.setDevices uc (v.outputDevicesAt u.stream)).prepareSession
      (v.outputDevicesAt u.stream)) := r.setDevices_rests uc _
  have hkinds : ((r.setDevices uc (v.outputDevicesAt u.stream)).prepareSession
      (v.outputDevicesAt u.stream)).kinds = r.kinds := r.kinds_setDevices uc _
  obtain ⟨w, hw, _, _⟩ := hrests.at hkinds hu
  unfold Settings.selectDevices Settings.selectDevicesAt at hsel
  rw [huc] at hsel
  dsimp only at hsel
  rw [hu] at hsel
  dsimp only at hsel
  rw [htype] at hsel
  obtain rfl := Option.some.inj hsel
  apply (h.rests hrests).switchDevices hw
  · exact fun _ => (hin.callsOn_call hu htype _).rests hrests
  · intro e heq
    cases heq

theorem OnDevice.select {r' : Routing} {d : SndDevice} {id : UsecaseId} (h : r.OnDevice none d)
    (hin : InOrder v r) (htyped : id.isOutput = true → v.SelectionTyped r id)
    (hsel : v.selectDevices r id = some r') : ∃ d', r'.OnDevice none d' := by
  cases huc : r.getUsecaseFromId id with
  | none =>
    unfold Settings.selectDevices Settings.selectDevicesAt at hsel
    rw [huc] at hsel
    obtain rfl := Option.some.inj hsel
    exact ⟨d, h⟩
  | some uc =>
    have hlt := (List.findIdx?_eq_some_iff_getElem.mp huc).1
    have hu := List.getElem?_eq_getElem hlt
    have huid := getUsecaseFromId_id huc hu
    rcases hin.consistent _ (List.mem_of_getElem? hu) with
      ⟨hout, _⟩ | ⟨hcapture, _⟩ | ⟨hcall, htype, _⟩
    · have hid : id.isOutput = true := huid ▸ hout
      exact h.select_playback hin hid (htyped hid) huc hu (fun _ heq => by cases heq) hsel
    · obtain rfl := hcapture.symm.trans huid
      exact ⟨d, h.rests (select_recording_rests hin.consistent hsel)⟩
    · exact h.select_call hin huc hu htype hsel

end Routing

/-! ## 4. Every operation -/

namespace Hal

/-- The usecase of an offload stream is moved off the combined device by itself, and is not moved
again, while something else stays on that device. -/
def LeavesBehind (h : Hal) (o : OutId) (uc : Nat) (u : AudioUsecase) : Prop :=
  (h.outs o).isOffload ∧ u.outSndDevice = .outSpeakerAndHeadphones ∧
    h.toSettings.playbackDevice h.routing u = .outHeadphones ∧
    ∃ (i : Nat) (w : AudioUsecase), h.routing.usecaseList[i]? = some w ∧ i ≠ uc ∧
      w.SharesOutput ∧ w.outSndDevice ≠ .none

/-- What an operation needs to keep all on one device. -/
def KeepsTogether (h : Hal) : Op → Prop
  | .outStart o alloc ready => h.ReadsTyped (.outStart o alloc ready)
  | .outWriteOffload o w => h.ReadsTyped (.outWriteOffload o w)
  | .outResume o alloc succeeds => h.ReadsTyped (.outResume o alloc succeeds)
  | .outSetRouting o val _ =>
    val ≠ AudioDevices.none → (h.outs o).standby = false →
      leavesPcmDevices (h.outs o).pcmDevList val = false →
      ∀ uc u, h.routing.getUsecaseFromId (h.outs o).usecase = some uc →
        h.routing.usecaseList[uc]? = some u →
        h.PlaybackTyped o ∧ ¬(h.modifyOut o ({ · with devices := val })).LeavesBehind o uc u
  | _ => True

/-- What a selection needs for that: of a playback only. -/
def SelectsTogether (h : Hal) (id : UsecaseId) : Prop :=
  id.isOutput = true → h.toSettings.SelectionTyped h.routing id ∧
    ((∃ d, h.routing.OnDevice none d) ∨
      ∀ uc u, h.routing.getUsecaseFromId id = some uc → h.routing.usecaseList[uc]? = some u →
        u.outSndDevice ≠ h.toSettings.playbackDevice h.routing u)

/-- The invariant. -/
structure Together (h : Hal) : Prop where
  listed : h.Listed
  common : ∃ d, h.routing.OnDevice none d

theorem Listed.inOrder {h : Hal} (hl : h.Listed) : h.routing.InOrder h.toSettings :=
  ⟨hl.consistent, hl.calls⟩

/-- Usecases were delisted, or listed on no device. -/
theorem Together.of_list {h h' : Hal} (ht : h.Together) (hl : h'.Listed)
    (hsub : ∀ u ∈ h'.routing.usecaseList, u ∈ h.routing.usecaseList ∨ u.outSndDevice = .none) :
    h'.Together := by
  obtain ⟨d, hd⟩ := ht.common
  refine ⟨hl, d, fun i u hu hshares _ => ?_⟩
  rcases hsub u (List.mem_of_getElem? hu) with hmem | hnone
  · obtain ⟨j, hj⟩ := List.mem_iff_getElem?.mp hmem
    exact hd j u hj hshares nofun
  · exact .inl hnone

theorem Together.add {h : Hal} (ht : h.Together) {u : AudioUsecase} (hnew : u.New) {h' : Hal}
    (hrouting : h'.routing = h.routing.addUsecase u) (hcall : h'.inCall = h.inCall) :
    h'.Together := by
  apply ht.of_list (Routing.addUsecase_listed ht.listed hnew hrouting hcall)
  intro w hw
  rw [hrouting] at hw
  rcases List.mem_append.mp hw with hw | hw
  · exact .inl hw
  · rw [List.mem_singleton.mp hw]
    exact .inr hnew.outSndDevice

theorem Together.select {h h' : Hal} {id : UsecaseId} (ht : h.Together)
    (hsel : h.SelectsTogether id) (hselect : h.selectDevices id = some h') : h'.Together := by
  refine ⟨ht.listed.select hselect, ?_⟩
  obtain ⟨d, hd⟩ := ht.common
  obtain ⟨r, hr, rfl⟩ := Option.map_eq_some_iff.mp hselect
  exact hd.select ht.listed.inOrder (fun hid => (hsel hid).1) hr

theorem stopVoiceCall_subset (h : Hal) :
    ∀ u ∈ h.stopVoiceCall.routing.usecaseList, u ∈ h.routing.usecaseList := by
  have hdis : ∀ (k : Hal) (u : AudioUsecase) (d : SndDevice),
      (k.disableSndDevice u d).routing.usecaseList = k.routing.usecaseList :=
    fun k u d => Routing.disableSndDevice_usecaseList k.routing u d
  unfold stopVoiceCall
  dsimp only
  split
  · exact fun _ hu => hu
  split
  · exact fun _ hu => hu
  · intro u hu
    change u ∈ List.eraseIdx _ _ at hu
    rw [hdis, hdis] at hu
    exact List.mem_of_mem_eraseIdx hu

/-- The usecase that leaves the combined device is the only one that does. -/
theorem onDevice_leaveSpeaker {h : Hal} {o : OutId} {uc : Nat} {d : SndDevice}
    (hd : h.routing.OnDevice none d) :
    (h.leaveSpeaker o uc).routing.OnDevice (some uc) d := by
  unfold leaveSpeaker
  split
  case isFalse => exact hd.drop _
  unfold Routing.leaveSpeaker
  split
  · exact hd.drop _
  split
  case isFalse => exact hd.drop _
  intro i w hw hshares hne
  dsimp only at hw
  rw [Routing.disableSndDevice_usecaseList] at hw
  change (h.routing.usecaseList.modify uc _)[i]? = some w at hw
  rw [List.getElem?_modify_ne _ _ fun heq => hne (congrArg some heq)] at hw
  exact hd i w hw hshares nofun

theorem getUsecaseFromId_of_kinds {r r' : Routing} (hkinds : r'.kinds = r.kinds) (id : UsecaseId) :
    r'.getUsecaseFromId id = r.getUsecaseFromId id := by
  have hkind : ∀ r : Routing, r.getUsecaseFromId id = r.kinds.findIdx? (·.1 = id) := by
    intro r
    unfold Routing.getUsecaseFromId Routing.kinds
    rw [List.findIdx?_map]
    rfl
  rw [hkind, hkind, hkinds]

theorem reroute_together {h h' : Hal} {o : OutId} {uc : Nat} (ht : h.Together)
    (huc : h.routing.getUsecaseFromId (h.outs o).usecase = some uc)
    (hsel : (h.leaveSpeaker o uc).SelectsTogether (h.outs o).usecase)
    (hselect : (h.leaveSpeaker o uc).selectDevices (h.outs o).usecase = some h') :
    h'.Together := by
  have hl := leaveSpeaker_listed ht.listed o uc
  have hout := (h.outs o).usecase_isOutput
  rcases (hsel hout).2 with hcommon | hmoves
  · exact Together.select ⟨hl, hcommon⟩ hsel hselect
  · refine ⟨hl.select hselect, ?_⟩
    obtain ⟨d, hd⟩ := ht.common
    have hkinds := h.kinds_leaveSpeaker o uc
    have huc' : (h.leaveSpeaker o uc).routing.getUsecaseFromId (h.outs o).usecase = some uc := by
      rw [getUsecaseFromId_of_kinds hkinds]
      exact huc
    have hlt := (List.findIdx?_eq_some_iff_getElem.mp huc').1
    have hu := List.getElem?_eq_getElem hlt
    obtain ⟨r, hr, rfl⟩ := Option.map_eq_some_iff.mp hselect
    apply (onDevice_leaveSpeaker hd).select_playback hl.inOrder hout (hsel hout).1 huc' hu _ hr
    intro e he
    exact ⟨(Option.some.inj he).symm, hmoves uc _ huc' hu⟩

theorem together_closed : Closed SelectsTogether fun h h' => h.Together → h'.Together where
  refl _ ht := ht
  trans hk hk' ht := hk' (hk ht)
  frame {h h'} hrouting hcall ht := by
    refine ⟨ht.listed.of_kinds (by rw [hrouting]) hcall, ?_⟩
    rw [hrouting]
    exact ht.common
  session _ _ ht := ⟨ht.listed.of_kinds rfl rfl, ht.common⟩
  select hsel hselect ht := ht.select hsel hselect
  add _ _ hnew ht := ht.add hnew rfl rfl
  remove h uc u d hu huses ht := by
    apply ht.of_list (ht.listed.remove hu huses)
    intro w hw
    change w ∈ ((h.routing.disableSndDevice u d).usecaseList).eraseIdx uc at hw
    rw [Routing.disableSndDevice_usecaseList] at hw
    exact .inl (List.mem_of_mem_eraseIdx hw)
  stopCall h ht := by
    apply ht.of_list (stopVoiceCall_listed ht.listed)
    exact fun u hu => .inl (h.stopVoiceCall_subset u hu)
  startCall {h h' o} hcall hsel hselect ht := by
    have htl : (h.listCall o).Together := by
      apply ht.of_list (ht.listed.listCall hcall o)
      intro w hw
      rcases List.mem_append.mp hw with hw | hw
      · exact .inl hw
      · rw [List.mem_singleton.mp hw]
        exact .inr rfl
    exact htl.select hsel hselect
  reroute huc hsel hselect ht := reroute_together ht huc hsel hselect

theorem leaveSpeaker_session (r : Routing) (uc : Nat) : (r.leaveSpeaker uc).session = r.session := by
  have hsingle : ∀ (r : Routing) (u : AudioUsecase) (d : SndDevice),
      (r.disableSingle u d).session = r.session := by
    intro r u d
    unfold Routing.disableSingle
    dsimp only
    split
    · rfl
    · rfl
  unfold Routing.leaveSpeaker
  split
  · rfl
  split
  · exact hsingle _ _ _
  · rfl

/-- The state `out_set_parameters` selects devices in, unless something is left behind. -/
theorem selectsTogether_leaveSpeaker {h : Hal} {o : OutId} {uc : Nat} {u : AudioUsecase}
    (ht : h.Together) (huc : h.routing.getUsecaseFromId (h.outs o).usecase = some uc)
    (hu : h.routing.usecaseList[uc]? = some u) (hnot : ¬h.LeavesBehind o uc u) :
    (∃ d, (h.leaveSpeaker o uc).routing.OnDevice none d) ∨
      ∀ uc' u', (h.leaveSpeaker o uc).routing.getUsecaseFromId (h.outs o).usecase = some uc' →
        (h.leaveSpeaker o uc).routing.usecaseList[uc']? = some u' →
        u'.outSndDevice ≠ (h.leaveSpeaker o uc).toSettings.playbackDevice
          (h.leaveSpeaker o uc).routing u' := by
  obtain ⟨d, hd⟩ := ht.common
  by_cases hoffload : (h.outs o).isOffload
  case neg =>
    left
    unfold leaveSpeaker
    rw [if_neg hoffload]
    exact ⟨d, hd⟩
  by_cases hcombined : u.outSndDevice = .outSpeakerAndHeadphones
  case neg =>
    left
    unfold leaveSpeaker Routing.leaveSpeaker
    rw [if_pos hoffload, hu]
    dsimp only
    rw [if_neg hcombined]
    exact ⟨d, hd⟩
  have hlist : (h.leaveSpeaker o uc).routing.usecaseList =
      h.routing.usecaseList.modify uc (·.setSndDevice .pcmPlayback .outHeadphones) := by
    unfold leaveSpeaker Routing.leaveSpeaker
    rw [if_pos hoffload, hu]
    dsimp only
    rw [if_pos hcombined, Routing.disableSndDevice_usecaseList]
    rfl
  by_cases hdev : h.toSettings.playbackDevice h.routing u = .outHeadphones
  · left
    refine ⟨.outHeadphones, fun i w hw hshares _ => ?_⟩
    rw [hlist, List.getElem?_modify, Option.map_eq_map] at hw
    obtain ⟨v, hv, rfl⟩ := Option.map_eq_some_iff.mp hw
    by_cases hi : uc = i
    · simp only [hi, ↓reduceIte]
      exact .inr rfl
    · simp only [hi, ↓reduceIte] at hshares ⊢
      left
      by_contra hne
      exact hnot ⟨hoffload, hcombined, hdev, i, v, hv, fun heq => hi heq.symm, hshares, hne⟩
  · right
    intro uc' u' huc' hu'
    rw [getUsecaseFromId_of_kinds (h.kinds_leaveSpeaker o uc), huc] at huc'
    obtain rfl := Option.some.inj huc'
    rw [hlist, List.getElem?_modify, hu] at hu'
    simp only [↓reduceIte, Option.map_eq_map, Option.map_some, Option.some.injEq] at hu'
    subst hu'
    have hsession : (h.leaveSpeaker o uc).routing.session = h.routing.session := by
      unfold leaveSpeaker
      rw [if_pos hoffload]
      exact leaveSpeaker_session h.routing uc
    have hsame : (h.leaveSpeaker o uc).toSettings.playbackDevice (h.leaveSpeaker o uc).routing
        (u.setSndDevice .pcmPlayback .outHeadphones) =
          h.toSettings.playbackDevice h.routing u := by
      unfold Settings.playbackDevice Settings.outputSndDevice
      rw [callDevices_leaveSpeaker h o huc, leaveSpeaker_same, hsession]
      rfl
    rw [hsame]
    exact fun heq => hdev heq.symm

theorem voiceCall_of_followCall {h : Hal} {o : OutId} {allocated : Bool} :
    ∀ s ∈ h.followCallSelections o allocated, s.2 = .voiceCall := by
  have hstart : ∀ h : Hal, ∀ s ∈ h.startVoiceCallSelections allocated, s.2 = .voiceCall := by
    intro h s hs
    unfold startVoiceCallSelections at hs
    split at hs
    · cases hs
    split at hs
    · cases hs
    · rw [List.mem_singleton.mp hs]
  unfold followCallSelections
  split
  · split
    · exact hstart _
    · exact hstart _
  · exact List.forall_mem_nil _

theorem selectsTogether_of_not_output {h : Hal} {id : UsecaseId} (hid : id.isOutput = false) :
    h.SelectsTogether id := by
  intro hout
  rw [hid] at hout
  cases hout

/-- A stream whose path is enabled is listed on no device first. -/
theorem selecting_enableOutputPath {h : Hal} (ht : h.Together) {o : OutId} {alloc : PathAlloc}
    (htyped : ∀ s ∈ h.enableOutputPathSelections o alloc, Selection.Typed s) :
    Selecting SelectsTogether (h.enableOutputPathSelections o alloc) := by
  intro s hs _
  refine ⟨htyped s hs, .inl ?_⟩
  unfold enableOutputPathSelections at hs
  split at hs
  · cases hs
  · rw [List.mem_singleton.mp hs]
    have htl : (h.listOutput o alloc).Together := ht.add (outputUsecase_new _ o _) rfl rfl
    exact htl.common

theorem selecting_outSetRouting {h : Hal} (ht : h.Together) {o : OutId} {val : AudioDevices}
    {allocated : Bool} (hkeeps : h.KeepsTogether (.outSetRouting o val allocated)) :
    Selecting SelectsTogether (h.outSetRoutingSelections o val allocated) := by
  unfold outSetRoutingSelections
  split
  · exact List.forall_mem_nil _
  rename_i hval
  have htm : (h.modifyOut o ({ · with devices := val })).Together :=
    ⟨ht.listed.of_kinds rfl rfl, ht.common⟩
  have hout : (h.modifyOut o ({ · with devices := val })).outs o =
      { h.outs o with devices := val } := Function.update_self ..
  intro s hs
  rcases List.mem_append.mp hs with hs | hs
  · have htyped := (typedWhen_reroute htm.listed o val).typed_iff
    rw [hout, playbackTyped_modifyOut] at htyped
    unfold reroute at hs htyped
    rw [hout] at hs htyped
    split at hs
    · cases hs
    rename_i hactive
    have hactive' : (h.outs o).standby = false := Bool.not_eq_true _ ▸ hactive
    dsimp only at hs htyped
    rw [if_neg hactive] at htyped
    unfold rerouteOutSelections at hs htyped
    rw [hout] at hs htyped
    dsimp only at hs htyped
    split at hs
    · cases hs
    rename_i uc huc
    rw [huc] at htyped
    dsimp only at htyped
    split at hs
    · cases hs
    rename_i hstays
    rw [if_neg hstays] at htyped
    have hlt := (List.findIdx?_eq_some_iff_getElem.mp huc).1
    have hu := List.getElem?_eq_getElem hlt
    obtain ⟨hplay, hnot⟩ := hkeeps hval hactive' (Bool.not_eq_true _ ▸ hstays) uc _ huc hu
    obtain rfl := List.mem_singleton.mp hs
    intro _
    refine ⟨htyped.mpr (fun _ _ _ => hplay) _ (List.mem_singleton.mpr rfl), ?_⟩
    have hfound := selectsTogether_leaveSpeaker htm (o := o) (by rw [hout]; exact huc) hu hnot
    rw [hout] at hfound
    exact hfound
  · obtain ⟨h₁, _, hs⟩ := List.mem_flatMap.mp hs
    apply selectsTogether_of_not_output
    rw [voiceCall_of_followCall s hs]
    rfl

/-- The selections of inputs are for recordings, and those of a call for the call. -/
theorem selecting_recording {l : List Selection}
    (hl : ∀ s ∈ l, s.2 = .audioCapture ∨ s.2 = .voiceCall) : Selecting SelectsTogether l := by
  intro s hs
  apply selectsTogether_of_not_output
  rcases hl s hs with hid | hid
  · rw [hid]
    rfl
  · rw [hid]
    rfl

theorem recording_of_inSetRouting {h : Hal} {i : InId} {val : AudioDevices} :
    ∀ s ∈ h.inSetRoutingSelections i val, s.2 = .audioCapture := by
  unfold inSetRoutingSelections
  split
  · exact List.forall_mem_nil _
  dsimp only
  split
  · exact List.forall_mem_nil _
  split
  · exact List.forall_mem_nil _
  · intro s hs
    rw [List.mem_singleton.mp hs]
    exact ((h.modifyIn i _).ins i).usecase_eq

theorem recording_of_setAec {h : Hal} {i : InId} {enable : Bool} :
    ∀ s ∈ h.setAecSelections i enable, s.2 = .audioCapture := by
  unfold setAecSelections
  dsimp only
  split
  · exact List.forall_mem_nil _
  · intro s hs
    rw [List.mem_singleton.mp hs]
    exact ((h.modifyIn i _).ins i).usecase_eq

theorem recording_of_inStart {h : Hal} {i : InId} {start : InputStart} :
    ∀ s ∈ h.inStartSelections i start, s.2 = .audioCapture := by
  unfold inStartSelections startInputStreamSelections
  split
  case isFalse => exact List.forall_mem_nil _
  dsimp only
  split
  · exact List.forall_mem_nil _
  split
  · exact List.forall_mem_nil _
  · intro s hs
    rw [List.mem_singleton.mp hs]
    exact (h.ins i).usecase_eq

theorem call_of_wbAmrCallback {h : Hal} {wbAmrType : Int} {allocated : Bool} :
    ∀ s ∈ h.wbAmrCallbackSelections wbAmrType allocated, s.2 = .voiceCall := by
  unfold wbAmrCallbackSelections
  split
  · exact List.forall_mem_nil _
  dsimp only
  split
  case isFalse => exact List.forall_mem_nil _
  unfold startVoiceCallSelections
  split
  · exact List.forall_mem_nil _
  split
  · exact List.forall_mem_nil _
  · intro s hs
    rw [List.mem_singleton.mp hs]

/-- Operations that are for no output select devices for recordings and for the call only. -/
theorem recording_or_call {h : Hal} {op : Op} (hop : op.output = none) :
    ∀ s ∈ h.selections op, s.2 = .audioCapture ∨ s.2 = .voiceCall := by
  cases op with
  | inStart i start => exact fun s hs => .inl (recording_of_inStart s hs)
  | inSetParameters i source routing =>
    intro s hs
    change s ∈ h.inSetParametersSelections i source routing at hs
    unfold inSetParametersSelections at hs
    cases routing with
    | none => cases hs
    | some val => exact .inl (recording_of_inSetRouting s hs)
  | addAudioEffect i aec auxChanged =>
    intro s hs
    change s ∈ h.addAudioEffectSelections i aec auxChanged at hs
    unfold addAudioEffectSelections at hs
    dsimp only at hs
    split at hs
    · exact .inl (recording_of_setAec s hs)
    · cases hs
  | removeAudioEffect i aec =>
    intro s hs
    change s ∈ h.removeAudioEffectSelections i aec at hs
    unfold removeAudioEffectSelections at hs
    dsimp only at hs
    split at hs
    · exact .inl (recording_of_setAec s hs)
    · cases hs
  | wbAmrCallback wbAmrType allocated => exact fun s hs => .inr (call_of_wbAmrCallback s hs)
  | inRead _ | inStandby _ | setMode _ | setBluetoothWb _ => exact List.forall_mem_nil _
  | outStart _ _ _ | outSyncEcho _ | outWritePcm _ | outWriteOffload _ _ | outStandby _
  | outSetRouting _ _ _ | outPause _ _ | outResume _ _ _ | outDrain _ _ | outFlush _ _
  | offloadThread _ => cases hop

theorem selecting_of_keepsTogether {h : Hal} (ht : h.Together) {op : Op}
    (hkeeps : h.KeepsTogether op) : Selecting SelectsTogether (h.selections op) := by
  cases op with
  | outStart o alloc ready =>
    have htyped := (typedWhen_selections ht.listed (.outStart o alloc ready)).typed_iff.mpr hkeeps
    show Selecting _ (h.outStartSelections o alloc)
    change ∀ s ∈ h.outStartSelections o alloc, Selection.Typed s at htyped
    unfold outStartSelections at htyped ⊢
    split
    · rename_i hstandby
      rw [if_pos hstandby] at htyped
      exact selecting_enableOutputPath ht htyped
    · exact List.forall_mem_nil _
  | outWriteOffload o w =>
    have htyped := (typedWhen_selections ht.listed (.outWriteOffload o w)).typed_iff.mpr hkeeps
    show Selecting _ (h.outWriteOffloadSelections o w.alloc)
    change ∀ s ∈ h.outWriteOffloadSelections o w.alloc, Selection.Typed s at htyped
    unfold outWriteOffloadSelections at htyped ⊢
    split
    · exact List.forall_mem_nil _
    rename_i hactive
    rw [if_neg hactive] at htyped
    split
    · rename_i hstate
      rw [if_pos hstate] at htyped
      exact selecting_enableOutputPath ht htyped
    · exact List.forall_mem_nil _
  | outResume o alloc succeeds =>
    have htyped := (typedWhen_selections ht.listed (.outResume o alloc succeeds)).typed_iff.mpr
      hkeeps
    show Selecting _ (h.outResumeSelections o alloc)
    change ∀ s ∈ h.outResumeSelections o alloc, Selection.Typed s at htyped
    unfold outResumeSelections at htyped ⊢
    split
    · exact List.forall_mem_nil _
    rename_i hoffload
    rw [if_neg hoffload] at htyped
    split
    · rename_i hpaused
      rw [if_pos hpaused] at htyped
      exact selecting_enableOutputPath ht htyped
    · exact List.forall_mem_nil _
  | outSetRouting o val allocated => exact selecting_outSetRouting ht hkeeps
  | inStart _ _ | inSetParameters _ _ _ | addAudioEffect _ _ _ | removeAudioEffect _ _
  | wbAmrCallback _ _ | inRead _ | inStandby _ | setMode _ | setBluetoothWb _ =>
    exact selecting_recording (recording_or_call rfl)
  | outSyncEcho _ | outWritePcm _ | outStandby _ | outPause _ _ | outDrain _ _ | outFlush _ _
  | offloadThread _ => exact List.forall_mem_nil _

/-! ## 5. Whole runs -/

theorem start_together {h : Hal} (hstart : Start h) : h.Together := by
  refine ⟨start_listed hstart, .none, fun i u hu _ _ => ?_⟩
  rw [hstart.usecaseList] at hu
  cases hu

/-- In every run in which no usecase is left behind on the combined device, and no playback's
selection reads the call as an input, the playbacks and the call that are routed to an output device
are on the same one after every operation. -/
theorem commonDevice_of_keepsTogether {h₀ h : Hal} {ops : List Op} (hstart : Start h₀)
    (hrun : ExecWhere KeepsTogether (guarded step) h₀ ops h) : h.routing.CommonDevice := by
  have hkept : h.Together := by
    apply hrun.invariant _ (start_together hstart)
    intro s op t ht hkeeps hstep
    exact together_closed.step (selecting_of_keepsTogether ht hkeeps) hstep ht
  obtain ⟨d, hd⟩ := hkept.common
  exact hd.common

/-- Both outputs go to the speaker and the headset, and the playback follows to the headset. -/
def combinedRun (rerouted : OutId) : List Op :=
  [.outSetRouting 0 (AudioDevices.outSpeaker ||| AudioDevices.outWiredHeadset) true,
    .outSetRouting 2 (AudioDevices.outSpeaker ||| AudioDevices.outWiredHeadset) true,
    .outStart 0 ⟨true, true⟩ true, .outStart 2 ⟨true, true⟩ true,
    .outSetRouting rerouted AudioDevices.outWiredHeadset true]

def combined (rerouted : OutId) : Hal :=
  ((combinedRun rerouted).foldlM step (opened false)).getD (opened false)

theorem combined_keepsTogether :
    ExecWhere KeepsTogether (guarded step) (opened false) (combinedRun 0) (combined 0) := by
  apply ExecWhere.computed (by decide +kernel)
  intro n op t hop ht
  obtain rfl : t = (((combinedRun 0).take n).foldlM step (opened false)).getD (opened false) := by
    rw [ht]
    rfl
  clear ht
  rcases n with _ | _ | _ | _ | _ | n
  · obtain rfl := Option.some.inj hop
    exact fun _ hactive => absurd hactive (by decide +kernel)
  · obtain rfl := Option.some.inj hop
    exact fun _ hactive => absurd hactive (by decide +kernel)
  · obtain rfl := Option.some.inj hop
    exact fun _ _ _ _ => by decide +kernel
  · obtain rfl := Option.some.inj hop
    exact fun _ _ _ _ => by decide +kernel
  · obtain rfl := Option.some.inj hop
    intro _ _ _ uc u _ _
    refine ⟨fun _ _ => by decide +kernel, fun hleft => ?_⟩
    exact absurd hleft.1 (by decide +kernel)
  · cases hop

theorem commonDevice_of_keepsTogether_combined :
    (combined 0).routing.CommonDevice ∧ (combined 0).routing.usecaseList.length = 2 :=
  ⟨commonDevice_of_keepsTogether (opened_start false) combined_keepsTogether, by decide +kernel⟩

theorem offload_left_alone : ¬∀ (h₀ h : Hal) (ops : List Op), Reaches h₀ ops h →
    h.routing.CommonDevice := by
  intro hall
  have hrun : Exec (guarded step) (opened false) (combinedRun 2) (combined 2) :=
    Exec.computed (by decide +kernel)
  have hcommon := hall _ _ _ ⟨opened_start false, hrun⟩
  have hdevs := hcommon ((combined 2).routing.usecaseList.get ⟨0, by decide +kernel⟩)
    (List.get_mem _ _) ((combined 2).routing.usecaseList.get ⟨1, by decide +kernel⟩)
    (List.get_mem _ _) (by decide +kernel) (by decide +kernel) (by decide +kernel)
    (by decide +kernel)
  exact absurd hdevs (by decide +kernel)

end Hal

end Universal7870.Audio
