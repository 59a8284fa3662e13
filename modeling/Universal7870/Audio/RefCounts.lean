import Mathlib.Data.List.Infix
import Universal7870.Audio.RoutingCounts
import Universal7870.Audio.RoutingSteps

/-!
# The reference counts over whole runs

Whatever the HAL is asked to do, `snd_dev_ref_cnt` counts the directions of the listed usecases,
as long as no usecase is listed while another with its id is.
-/

namespace Universal7870.Audio

open Lib

/-! ## 1. Switching devices lists nothing -/

/-- The ids that are listed when a usecase is added. -/
def RouteEvent.ids : RouteEvent → List UsecaseId
  | .listed ids => ids
  | _ => []

/-- The paths `enable_snd_device` applies for a device. -/
def SndDevice.paths (d : SndDevice) : List SndDevice :=
  if d = .outSpeakerAndHeadphones then [.outSpeaker, .outHeadphones] else [d]

/-- More is logged, all of it events that meet `P`. -/
def Logs (P : RouteEvent → Prop) (log log' : List RouteEvent) : Prop :=
  ∃ later, log' = later ++ log ∧ ∀ event ∈ later, P event

/-- More is logged, and no usecase was added. -/
abbrev Quietly : List RouteEvent → List RouteEvent → Prop := Logs (·.ids = [])

/-- What enabling a device logs. -/
def RouteEvent.Enables : RouteEvent → Prop
  | .pathApplied _ _ | .amplifierEnabled _ _ => True
  | _ => False

/-- What disabling a device logs. -/
def RouteEvent.Disables (d : SndDevice) : RouteEvent → Prop
  | .pathReset _ d' => d' ∈ d.paths
  | .listed _ => False
  | _ => True

namespace Logs

variable {P Q : RouteEvent → Prop} {log log' log'' : List RouteEvent}

theorem refl (log : List RouteEvent) : Logs P log log := ⟨[], rfl, nofun⟩

theorem trans (h : Logs P log log') (h' : Logs P log' log'') : Logs P log log'' := by
  obtain ⟨later, rfl, hlater⟩ := h
  obtain ⟨later', rfl, hlater'⟩ := h'
  refine ⟨later' ++ later, (List.append_assoc ..).symm, fun event he => ?_⟩
  rcases List.mem_append.mp he with he | he
  · exact hlater' event he
  · exact hlater event he

theorem cons {event : RouteEvent} (hevent : P event) (log : List RouteEvent) :
    Logs P log (event :: log) := by
  refine ⟨[event], rfl, fun e he => ?_⟩
  rw [List.mem_singleton.mp he]
  exact hevent

theorem mono (hPQ : ∀ event, P event → Q event) (h : Logs P log log') : Logs Q log log' := by
  obtain ⟨later, rfl, hlater⟩ := h
  exact ⟨later, rfl, fun event he => hPQ event (hlater event he)⟩

theorem suffix (h : Logs P log log') : log <:+ log' := by
  obtain ⟨later, rfl, _⟩ := h
  exact List.suffix_append later log

theorem foldl {β : Type*} {f : List RouteEvent → β → List RouteEvent}
    (hf : ∀ log b, Logs P log (f log b)) (bs : List β) (log : List RouteEvent) :
    Logs P log (bs.foldl f log) := by
  induction bs generalizing log with
  | nil => exact refl log
  | cons b bs ih => exact (hf log b).trans (ih _)

end Logs

theorem RouteEvent.Enables.ids {event : RouteEvent} (h : event.Enables) : event.ids = [] := by
  cases event with
  | listed ids => cases h
  | _ => rfl

theorem RouteEvent.Disables.ids {d : SndDevice} {event : RouteEvent} (h : event.Disables d) :
    event.ids = [] := by
  cases event with
  | listed ids => cases h
  | _ => rfl

namespace Routing

theorem enableSingle_logs (r : Routing) (u : AudioUsecase) (d : SndDevice) :
    Logs RouteEvent.Enables r.log (r.enableSingle u d).log := by
  simp only [enableSingle]
  split
  · exact Logs.refl _
  · apply Logs.foldl
    intro log card
    exact (Logs.cons trivial _).trans (Logs.cons trivial _)

theorem enableSndDevice_logs (r : Routing) (u : AudioUsecase) (d : SndDevice) :
    Logs RouteEvent.Enables r.log (r.enableSndDevice u d).log := by
  unfold enableSndDevice
  split
  · exact (enableSingle_logs _ _ _).trans (enableSingle_logs _ _ _)
  · exact enableSingle_logs r u d

theorem enableSndDevice_log (r : Routing) (u : AudioUsecase) (d : SndDevice) :
    Quietly r.log (r.enableSndDevice u d).log :=
  (r.enableSndDevice_logs u d).mono fun _ h => h.ids

theorem resetOnCard_logs (out : Option SndDevice) {d d' : SndDevice} (hd : d ∈ d'.paths)
    (log : List RouteEvent) (card : Nat) :
    Logs (RouteEvent.Disables d') log (resetOnCard out d log card) := by
  unfold resetOnCard
  have hreset : Logs (RouteEvent.Disables d') log (.pathReset card d :: log) := .cons hd log
  cases out with
  | none => exact hreset.trans (Logs.cons trivial _)
  | some out =>
    dsimp only
    split
    · exact (hreset.trans (Logs.cons trivial _)).trans (Logs.cons trivial _)
    · exact hreset.trans (Logs.cons trivial _)

theorem disableSingle_logs (r : Routing) (u : AudioUsecase) {d d' : SndDevice}
    (hd : d ∈ d'.paths) : Logs (RouteEvent.Disables d') r.log (r.disableSingle u d).log := by
  unfold disableSingle
  split
  · exact Logs.cons trivial _
  · dsimp only
    split
    · exact Logs.foldl (resetOnCard_logs _ hd) _ _
    · exact Logs.refl _

theorem disableSndDevice_logs (r : Routing) (u : AudioUsecase) (d : SndDevice) :
    Logs (RouteEvent.Disables d) r.log (r.disableSndDevice u d).log := by
  unfold disableSndDevice
  split
  · rename_i hcombo
    subst hcombo
    exact (disableSingle_logs _ _ (by decide)).trans (disableSingle_logs _ _ (by decide))
  · rename_i hsingle
    have hpath : d ∈ d.paths := by
      unfold SndDevice.paths
      rw [if_neg hsingle]
      exact List.mem_singleton_self d
    exact disableSingle_logs r u hpath

theorem disableSndDevice_log (r : Routing) (u : AudioUsecase) (d : SndDevice) :
    Quietly r.log (r.disableSndDevice u d).log :=
  (r.disableSndDevice_logs u d).mono fun _ h => h.ids

theorem switchAt_log (ids : List UsecaseId) (type : UsecaseType) (d : SndDevice) (r : Routing)
    (i : Nat) : Quietly r.log (switchAt ids type d r i).log := by
  unfold switchAt
  split
  · exact Logs.refl _
  · split
    · exact (disableSndDevice_log _ _ _).trans (enableSndDevice_log _ _ _)
    · exact Logs.refl _

theorem checkAndRouteUsecases_log (r : Routing) (uc : Nat) (type : UsecaseType) (d : SndDevice) :
    Quietly r.log (r.checkAndRouteUsecases uc type d).log := by
  unfold checkAndRouteUsecases
  generalize r.switchedIds uc type d = ids
  generalize List.range r.usecaseList.length = places
  induction places generalizing r with
  | nil => exact Logs.refl _
  | cons i places ih => exact (switchAt_log ids type d r i).trans (ih _)

theorem switchDevices_log (r : Routing) (uc : Nat) (out input : SndDevice) :
    Quietly r.log (r.switchDevices uc out input).log := by
  have hdis : ∀ (r : Routing) (u : AudioUsecase) (d : SndDevice),
      Quietly r.log (if d ≠ .none then r.disableSndDevice u d else r).log := by
    intro r u d
    split
    · exact disableSndDevice_log r u d
    · exact Logs.refl _
  have hen : ∀ (r : Routing) (u : AudioUsecase) (type : UsecaseType) (d : SndDevice),
      Quietly r.log (if d ≠ .none then (r.checkAndRouteUsecases uc type d).enableSndDevice u d
        else r).log := by
    intro r u type d
    split
    · exact (checkAndRouteUsecases_log r uc type d).trans (enableSndDevice_log _ _ _)
    · exact Logs.refl _
  unfold switchDevices
  split
  · exact Logs.refl _
  · split
    · exact Logs.refl _
    · exact (((hdis _ _ _).trans (hdis _ _ _)).trans (hen _ _ .pcmPlayback _)).trans
        (hen _ _ .pcmCapture _)

end Routing

theorem Settings.selectDevicesAt_log (v : Settings) {depth : Nat} {r r' : Routing} {id : UsecaseId}
    (hsel : v.selectDevicesAt depth r id = some r') : Quietly r.log r'.log := by
  induction depth generalizing r r' id with
  | zero => cases hsel
  | succ depth ih =>
    unfold selectDevicesAt at hsel
    split at hsel
    · obtain rfl := Option.some.inj hsel
      exact Logs.refl _
    rename_i uc _
    split at hsel
    · obtain rfl := Option.some.inj hsel
      exact Logs.refl _
    rename_i u _
    -- whatever was set before, what is logged after it is logged by `switchDevices`
    have hsw : ∀ (r₁ : Routing) (out input : SndDevice), Quietly r.log r₁.log →
        Quietly r.log (r₁.switchDevices uc out input).log :=
      fun r₁ out input h => h.trans (r₁.switchDevices_log uc out input)
    have hset : ∀ devices, Quietly r.log (r.setDevices uc devices).log :=
      fun _ => Logs.refl _
    have hprepare : ∀ devices, Quietly r.log ((r.setDevices uc devices).prepareSession devices).log :=
      fun _ => Logs.refl _
    dsimp only at hsel
    split at hsel
    · obtain rfl := Option.some.inj hsel
      exact hsw _ _ _ (hprepare _)
    · split at hsel
      · obtain rfl := Option.some.inj hsel
        exact hsw _ _ _ (hset _)
      · split at hsel
        · obtain ⟨r₁, hr₁, hsel⟩ := Option.bind_eq_some_iff.mp hsel
          obtain rfl := Option.some.inj hsel
          exact hsw _ _ _ ((hset _).trans (ih hr₁))
        · obtain rfl := Option.some.inj hsel
          exact hsw _ _ _ (hset _)
    · obtain rfl := Option.some.inj hsel
      exact hsw _ _ _ (hset _)
    · obtain rfl := Option.some.inj hsel
      exact hsw _ _ _ (Logs.refl _)

/-! ## 2. Listing and delisting a usecase -/

/-- Whenever a usecase was added, no two listed usecases shared an id. -/
def IdsApart (log : List RouteEvent) : Prop := ∀ event ∈ log, event.ids.Nodup

instance (log : List RouteEvent) : Decidable (IdsApart log) :=
  inferInstanceAs (Decidable (∀ event ∈ log, event.ids.Nodup))

theorem IdsApart.mono {log log' : List RouteEvent} (h : IdsApart log') (hlog : log <:+ log') :
    IdsApart log :=
  fun event he => h event (hlog.subset he)

namespace Routing

/-- What every operation does to the routing state. -/
structure Keeps (r r' : Routing) : Prop where
  log : r.log <:+ r'.log
  good : IdsApart r'.log → r.Good → r'.Good

theorem Keeps.refl (r : Routing) : r.Keeps r := ⟨List.suffix_refl _, fun _ h => h⟩

theorem Keeps.trans {r r' r'' : Routing} (h : r.Keeps r') (h' : r'.Keeps r'') : r.Keeps r'' :=
  ⟨h.log.trans h'.log, fun hids hr => h'.good hids (h.good (hids.mono h'.log) hr)⟩

/-- A new usecase is listed before it is routed. -/
theorem addUsecase_keeps (r : Routing) {u : AudioUsecase} (hdir : u.Directed)
    (hout : u.outSndDevice = .none) (hin : u.inSndDevice = .none) : r.Keeps (r.addUsecase u) := by
  refine ⟨List.suffix_cons _ _, fun hids hr => ⟨?_, ?_, ?_, ?_⟩⟩
  · exact hids _ List.mem_cons_self
  · intro w hw
    rcases List.mem_append.mp hw with hw | hw
    · exact hr.directed w hw
    · rw [List.mem_singleton.mp hw]
      exact hdir
  · intro d
    show r.sndDevRefCnt d = (routedTo (r.usecaseList ++ [u]) d : Int)
    rw [hr.tallied.refCnt, routedTo_append, AudioUsecase.weight, hout, hin]
    rfl
  · intro d hd
    rcases List.mem_cons.mp hd with hd | hd
    · cases hd
    · exact hr.tallied.errors d hd

/-- Delisting a usecase that is off all devices. -/
theorem Switching.removed {r₀ r : Routing} {uc : Nat} {u : AudioUsecase}
    (h : Switching r₀ uc (.assign .none .none) r) (hids : (r₀.usecaseList.map (·.id)).Nodup)
    (hu : r₀.usecaseList[uc]? = some u) : (r.removeUsecase uc).Good := by
  have hat := getElem?_modify_assign (a := .none) (b := .none) (h.kept.trans hu)
  refine ⟨?_, ?_, ?_, h.tallied.errors⟩
  · rw [← h.ids] at hids
    exact hids.sublist ((List.eraseIdx_sublist _ _).map _)
  · intro w hw
    exact h.directed w (List.mem_of_mem_eraseIdx hw)
  · intro d
    show r.sndDevRefCnt d = (routedTo (r.usecaseList.eraseIdx uc) d : Int)
    have herase := routedTo_eraseIdx hat d
    have hzero : (u.assign .none .none).weight d = 0 := rfl
    rw [List.eraseIdx_modify_of_eq] at herase
    rw [h.tallied.refCnt, ← herase, hzero, Nat.add_zero]

/-- Disabling the only direction of a usecase and delisting it. -/
theorem disable_remove_keeps {r : Routing} {uc : Nat} {u : AudioUsecase} {d : SndDevice}
    (hu : r.usecaseList[uc]? = some u) (hd : u.Directed → ∀ x, d.weight x = u.weight x) :
    r.Keeps ((r.disableSndDevice u d).removeUsecase uc) := by
  refine ⟨(disableSndDevice_log r u d).suffix, fun _ hr => ?_⟩
  have hw := hd (hr.directed u (List.mem_of_getElem? hu))
  have hdis : Switching r uc (.assign .none .none) (r.disableSndDevice u d) :=
    (hr.switching hu).disable hu fun x => by
      rw [weight_none, hw]
      exact Nat.zero_add _
  exact hdis.removed hr.ids hu

/-- The same for both directions of a call. -/
theorem disable_both_remove_keeps {r : Routing} {uc : Nat} {u : AudioUsecase}
    (hu : r.usecaseList[uc]? = some u) :
    r.Keeps (((r.disableSndDevice u u.outSndDevice).disableSndDevice u u.inSndDevice).removeUsecase
      uc) := by
  refine ⟨((disableSndDevice_log _ _ _).trans (disableSndDevice_log _ _ _)).suffix, fun _ hr => ?_⟩
  have hout : Switching r uc (.assign .none u.inSndDevice)
      (r.disableSndDevice u u.outSndDevice) :=
    (hr.switching hu).disable hu fun x => by rw [weight_none]; omega
  have hboth : Switching r uc (.assign .none .none)
      ((r.disableSndDevice u u.outSndDevice).disableSndDevice u u.inSndDevice) :=
    hout.disable hu fun x => by rw [weight_none, Nat.add_zero]
  exact hboth.removed hr.ids hu

/-- The combined device is left for one of its parts. -/
theorem leaveSpeaker_keeps (r : Routing) (uc : Nat) : r.Keeps (r.leaveSpeaker uc) := by
  unfold leaveSpeaker
  split
  · exact .refl r
  rename_i u hu
  split
  case isFalse => exact .refl r
  rename_i hcombo
  refine ⟨(disableSndDevice_log (r.modifyUsecase uc _) u _).suffix, fun _ hr => ?_⟩
  have hdir := hr.directed u (List.mem_of_getElem? hu)
  have hw : ∀ x, (u.setSndDevice .pcmPlayback .outHeadphones).weight x +
      SndDevice.outSpeaker.weight x = u.weight x := by
    intro x
    have hparts : SndDevice.outHeadphones.weight x + SndDevice.outSpeaker.weight x =
        SndDevice.outSpeakerAndHeadphones.weight x := by cases x <;> rfl
    have hset := u.weight_setSndDevice .pcmPlayback .outHeadphones x
    rw [show u.sndDevice .pcmPlayback = u.outSndDevice from rfl, hcombo] at hset
    omega
  have hsame : (r.modifyUsecase uc (·.setSndDevice .pcmPlayback .outHeadphones)).Tallied
      r.usecaseList := hr.tallied.congr rfl rfl
  refine ⟨?_, ?_, ?_⟩
  · rw [disableSndDevice_usecaseList]
    have hkeep := map_modify_of_key (f := (·.setSndDevice .pcmPlayback .outHeadphones))
      (k := AudioUsecase.id) (fun w => (w.setSndDevice_id _ _).1) r.usecaseList uc
    exact hkeep ▸ hr.ids
  · rw [disableSndDevice_usecaseList]
    intro w hw
    rcases exists_of_mem_modify hw with hw | ⟨c, hc, rfl⟩
    · exact hr.directed w hw
    · obtain rfl : u = c := Option.some.inj (hu.symm.trans hc)
      refine ⟨hdir.1, fun hid => ?_⟩
      rw [(hdir.2 hid).2] at hcombo
      cases hcombo
  · rw [disableSndDevice_usecaseList]
    exact hsame.disable u hu hw

end Routing

/-! ## 3. The operations -/

theorem AudioUsecase.New.directed {u : AudioUsecase} (h : u.New) : u.Directed := by
  rcases h.kind with ⟨hid, htype, _⟩ | ⟨hid, htype, _⟩
  · refine ⟨fun _ => ⟨htype, h.inSndDevice⟩, fun hcapture => ?_⟩
    rw [hcapture] at hid
    cases hid
  · refine ⟨fun hout => ?_, fun _ => ⟨htype, h.outSndDevice⟩⟩
    rw [hid] at hout
    cases hout

/-- The direction that is not used has no device. -/
theorem AudioUsecase.UsesOnly.weight {u : AudioUsecase} {d : SndDevice} (h : u.UsesOnly d)
    (hdir : u.Directed) (x : SndDevice) : d.weight x = u.weight x := by
  rcases h with ⟨hid, rfl⟩ | ⟨hid, rfl⟩
  · rw [AudioUsecase.weight, (hdir.1 hid).2, weight_none, Nat.add_zero]
  · rw [AudioUsecase.weight, (hdir.2 hid).2, weight_none, Nat.zero_add]

namespace Hal

/-- The routing state is kept in the sense of `Routing.Keeps`. -/
def Keeps (h h' : Hal) : Prop := h.routing.Keeps h'.routing

theorem Keeps.refl (h : Hal) : h.Keeps h := Routing.Keeps.refl _

theorem Keeps.trans {h h' h'' : Hal} (hk : h.Keeps h') (hk' : h'.Keeps h'') : h.Keeps h'' :=
  Routing.Keeps.trans hk hk'

theorem selectDevices_keeps {h h' : Hal} {id : UsecaseId} (hsel : h.selectDevices id = some h') :
    h.Keeps h' := by
  obtain ⟨r, hr, rfl⟩ := Option.map_eq_some_iff.mp hsel
  exact ⟨(h.selectDevicesAt_log hr).suffix, fun _ hgood => (h.selectDevicesAt_good hgood hr).1⟩

theorem session_keeps (h : Hal) (session : VoiceSession) :
    h.Keeps { h with routing.session := session } :=
  ⟨List.suffix_refl _, fun _ hgood => hgood.setSession _⟩

theorem stopVoiceCall_keeps (h : Hal) : h.Keeps h.stopVoiceCall := by
  have hsession : h.Keeps { h with inCall := false }.stopVoiceSession := session_keeps h _
  unfold stopVoiceCall
  dsimp only
  split
  · exact hsession
  split
  · exact hsession
  · rename_i u hu
    exact hsession.trans (Routing.disable_both_remove_keeps hu)

theorem keeps_closed : Closed (fun _ _ => True) Keeps where
  refl := Keeps.refl
  trans := Keeps.trans
  frame {h h'} hrouting _ := by
    show h.routing.Keeps h'.routing
    rw [hrouting]
    exact .refl _
  session := session_keeps
  select _ hsel := selectDevices_keeps hsel
  add h u hnew := Routing.addUsecase_keeps _ hnew.directed hnew.outSndDevice hnew.inSndDevice
  remove h uc u d hu huses := Routing.disable_remove_keeps hu huses.weight
  stopCall := stopVoiceCall_keeps
  startCall {h h' o} _ _ hsel := by
    have hlisted : h.Keeps (h.listCall o) :=
      Routing.addUsecase_keeps h.routing ⟨nofun, nofun⟩ rfl rfl
    exact hlisted.trans (selectDevices_keeps hsel)
  reroute {h h' o uc} _ _ hsel := by
    have hleft : h.Keeps (h.leaveSpeaker o uc) := by
      unfold leaveSpeaker
      split
      · exact h.routing.leaveSpeaker_keeps uc
      · exact .refl h
    exact hleft.trans (selectDevices_keeps hsel)

/-! ## 4. Whole runs -/

theorem start_good {h : Hal} (hstart : Start h) : h.routing.Good := by
  constructor
  · rw [hstart.usecaseList]
    exact List.nodup_nil
  · intro u hu
    rw [hstart.usecaseList] at hu
    cases hu
  constructor
  · intro d
    rw [hstart.usecaseList, hstart.sndDevRefCnt]
    rfl
  · intro d hd
    rw [hstart.routeLog] at hd
    cases hd

/-- After every operation of every run in which no usecase is listed beside another of its id,
`snd_dev_ref_cnt` is the number of directions routed to each device, so it is never negative, and
`disable_snd_device` found a count of 0 only when asked to disable no device. -/
theorem sndDevRefCnt_eq_routedTo {h₀ h : Hal} {ops : List Op} (hrun : Reaches h₀ ops h)
    (hids : IdsApart h.routing.log) :
    (∀ d, h.routing.sndDevRefCnt d = routedTo h.routing.usecaseList d) ∧
      (∀ d, 0 ≤ h.routing.sndDevRefCnt d) ∧
      ∀ d, .refCntAlreadyZero d ∈ h.routing.log → d = .none := by
  have hgood : h.routing.Good := (keeps_closed.run hrun.2).good hids (start_good hrun.1)
  have hcnt := hgood.tallied.refCnt
  refine ⟨hcnt, fun d => ?_, hgood.tallied.errors⟩
  rw [hcnt]
  exact Int.natCast_nonneg _

/-- Two playbacks, one of them taken along to the headset, a recording and the standby of the
other. -/
def reroutedRun : List Op :=
  [.outStart 0 ⟨true, true⟩ true, .outStart 1 ⟨true, true⟩ true,
    .inStart 0 ⟨true, true, 0, true, true⟩,
    .outSetRouting 0 (AudioDevices.outSpeaker ||| AudioDevices.outWiredHeadset) true,
    .outStandby 0]

def rerouted : Hal := (reroutedRun.foldlM step (opened false)).getD (opened false)

theorem sndDevRefCnt_eq_routedTo_rerouted :
    routedTo rerouted.routing.usecaseList .outSpeaker = 1 ∧
      (∀ d, rerouted.routing.sndDevRefCnt d = routedTo rerouted.routing.usecaseList d) := by
  have hrun : Exec (guarded step) (opened false) reroutedRun rerouted :=
    Exec.computed (by decide +kernel)
  have hids : IdsApart rerouted.routing.log := by decide +kernel
  refine ⟨by decide +kernel, ?_⟩
  exact (sndDevRefCnt_eq_routedTo ⟨opened_start false, hrun⟩ hids).1

end Hal

end Universal7870.Audio
