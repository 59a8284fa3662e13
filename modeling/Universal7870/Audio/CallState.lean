import Universal7870.Audio.CommonDevice
import Universal7870.Audio.OpenStreams
import Universal7870.Audio.StreamTyping

/-!
# The state of a call

`in_call` says whether the call is listed, whichever entry point started or stopped it.
-/

namespace Universal7870.Audio

open Lib

/-! ## 1. Where a call is started, stopped and looked up -/

inductive CallEvent
  | start
  | stop
  deriving DecidableEq, Repr

namespace Hal

/-- A call of `start_voice_call` or `stop_voice_call`, and the state it is made in. -/
abbrev VoiceCallAt := Hal × CallEvent

def restartVoiceCalls (h : Hal) : List VoiceCallAt := [(h, .stop), (h.stopVoiceCall, .start)]

def followCallVoiceCalls (h : Hal) (o : OutId) : List VoiceCallAt :=
  if h.mode = .inCall ∧ h.primaryOutput = some o then
    if h.inCall then h.restartVoiceCalls else [(h, .start)]
  else []

def outSetRoutingVoiceCalls (h : Hal) (o : OutId) (val : AudioDevices) : List VoiceCallAt :=
  if val = AudioDevices.none then []
  else
    let rerouted := (h.modifyOut o ({ · with devices := val })).reroute o val
    rerouted.2.toList.flatMap fun h => (h.switchBtSco (h.outs o).devices).followCallVoiceCalls o

def setModeVoiceCalls (h : Hal) (mode : AudioMode) : List VoiceCallAt :=
  if h.mode = mode then []
  else if mode = .normal ∧ h.inCall then [({ h with mode := mode }, .stop)] else []

def wbAmrVoiceCalls (h : Hal) (wbAmrType : Int) : List VoiceCallAt :=
  if h.routing.session.wbAmrType = wbAmrType then []
  else
    let h := { h with routing.session.wbAmrType := wbAmrType }
    if h.inCall then h.restartVoiceCalls else []

/-- The calls of `start_voice_call` and `stop_voice_call` that an operation makes. -/
def voiceCalls (h : Hal) : Op → List VoiceCallAt
  | .outSetRouting o val _ => h.outSetRoutingVoiceCalls o val
  | .setMode mode => h.setModeVoiceCalls mode
  | .wbAmrCallback wbAmrType _ => h.wbAmrVoiceCalls wbAmrType
  | _ => []

/-- A call is started while none is listed, and stopped while one is. -/
def VoiceCallAt.Fits (c : VoiceCallAt) : Prop :=
  match c.2 with
  | .start => c.1.routing.calls = 0
  | .stop => c.1.routing.calls = 1 ∧ c.1.routing.getUsecaseFromId .voiceCall ≠ none

end Hal

/-- The states that `select_devices` is entered in, where it calls itself the last one. -/
def Settings.entered (v : Settings) : Nat → Routing → UsecaseId → List Routing
  | 0, _, _ => []
  | depth + 1, r, id =>
    r :: match (r.getUsecaseFromId id).bind fun uc => (r.usecaseList[uc]?).map (uc, ·) with
      | none => []
      | some (uc, u) =>
        if u.type = .pcmPlayback ∧ (v.callDevices r).1 = .none then
          let r := r.setDevices uc (v.outputDevicesAt u.stream)
          match v.selectsFirst r u.stream with
          | some input => v.entered depth r input
          | none => []
        else []

namespace Hal

/-- `select_devices` finds the call while `in_call` is set, which `start_voice_call` does before it
selects. -/
def Selection.FindsCall (s : Selection) : Prop :=
  s.1.inCall = true →
    ∀ r ∈ s.1.toSettings.entered 2 s.1.routing s.2, r.getUsecaseFromId .voiceCall ≠ none

/-- The flag says whether a call is listed, and there is at most one. -/
structure CallState (h : Hal) : Prop where
  inCall_iff : h.inCall = true ↔ h.routing.calls = 1
  calls_le : h.routing.calls ≤ 1

/-! ## 2. The flag and the list -/

theorem Listed.callState {h : Hal} (hl : h.Listed) : h.CallState := by
  have hcalls := hl.calls
  constructor
  · rw [hcalls]
    cases h.inCall
    · exact ⟨fun hbad => absurd hbad Bool.false_ne_true, fun hbad => absurd hbad Nat.zero_ne_one⟩
    · exact ⟨fun _ => rfl, fun _ => rfl⟩
  · rw [hcalls]
    split
    · exact Nat.le_refl 1
    · exact Nat.zero_le 1

/-- A listed call is found. -/
theorem getUsecaseFromId_of_calls {r : Routing} (hcalls : r.calls = 1) :
    r.getUsecaseFromId .voiceCall ≠ none := by
  intro hnone
  have hzero : r.calls = 0 := by
    apply List.countP_eq_zero.mpr
    exact fun w hw => List.findIdx?_eq_none_iff.mp hnone w hw ▸ Bool.false_ne_true
  omega

theorem Listed.fits_stop {h : Hal} (hl : h.Listed) (hcall : h.inCall = true) :
    VoiceCallAt.Fits (h, .stop) := by
  have hone := hl.callState.inCall_iff.mp hcall
  exact ⟨hone, getUsecaseFromId_of_calls hone⟩

theorem Listed.fits_start {h : Hal} (hl : h.Listed) (hcall : h.inCall = false) :
    VoiceCallAt.Fits (h, .start) := by
  have hcalls := hl.calls
  rw [hcall] at hcalls
  exact hcalls

theorem Listed.fits_restart {h : Hal} (hl : h.Listed) (hcall : h.inCall = true) :
    ∀ c ∈ h.restartVoiceCalls, VoiceCallAt.Fits c := by
  intro c hc
  rcases List.mem_cons.mp hc with rfl | hc
  · exact hl.fits_stop hcall
  · rw [List.mem_singleton.mp hc]
    exact (stopVoiceCall_listed hl).fits_start h.stopVoiceCall_inCall

theorem Listed.fits_followCall {h : Hal} (hl : h.Listed) (o : OutId) :
    ∀ c ∈ h.followCallVoiceCalls o, VoiceCallAt.Fits c := by
  intro c hc
  unfold followCallVoiceCalls at hc
  split at hc
  · split at hc
    · exact hl.fits_restart ‹_› c hc
    · rename_i hcall
      rw [List.mem_singleton.mp hc]
      exact hl.fits_start (Bool.not_eq_true _ ▸ hcall)
  · cases hc

theorem Listed.fits_outSetRouting {h : Hal} (hl : h.Listed) (o : OutId) (val : AudioDevices) :
    ∀ c ∈ h.outSetRoutingVoiceCalls o val, VoiceCallAt.Fits c := by
  intro c hc
  unfold outSetRoutingVoiceCalls at hc
  split at hc
  · cases hc
  · obtain ⟨h₁, hroute, hc⟩ := List.mem_flatMap.mp hc
    have hlm : (h.modifyOut o ({ · with devices := val })).Listed := hl.of_kinds rfl rfl
    have hl₁ : h₁.Listed := by
      rcases reroute_rerouted hlm o val with ⟨h₂, hsome, hre⟩ | ⟨hnone, _⟩
      · rw [hsome] at hroute
        obtain rfl := Option.mem_some.mp (Option.mem_toList.mp hroute)
        exact hre.listed
      · rw [hnone] at hroute
        cases hroute
    exact (listed_on.switchBtSco h₁ (h₁.outs o).devices hl₁).fits_followCall o c hc

/-- Every operation starts and stops calls where it should. -/
theorem Listed.fits_voiceCalls {h : Hal} (hl : h.Listed) (op : Op) :
    ∀ c ∈ h.voiceCalls op, VoiceCallAt.Fits c := by
  intro c hc
  unfold voiceCalls at hc
  split at hc
  · exact hl.fits_outSetRouting _ _ c hc
  · unfold setModeVoiceCalls at hc
    split at hc
    · cases hc
    split at hc
    · rename_i hnormal
      rw [List.mem_singleton.mp hc]
      have hlm : { h with mode := _ }.Listed := hl.of_kinds rfl rfl
      exact hlm.fits_stop hnormal.2
    · cases hc
  · unfold wbAmrVoiceCalls at hc
    split at hc
    · cases hc
    dsimp only at hc
    split at hc
    · rename_i wbAmrType _ _ hcall
      have hlm : { h with routing.session.wbAmrType := wbAmrType }.Listed := hl.of_kinds rfl rfl
      exact hlm.fits_restart hcall c hc
    · cases hc
  · cases hc

end Hal

/-! ## 3. Looking the call up -/

theorem Settings.kinds_entered (v : Settings) {depth : Nat} {r r' : Routing} {id : UsecaseId}
    (hr : r' ∈ v.entered depth r id) : r'.kinds = r.kinds := by
  induction depth generalizing r id with
  | zero => cases hr
  | succ depth ih =>
    unfold entered at hr
    rcases List.mem_cons.mp hr with rfl | hr
    · rfl
    split at hr
    · cases hr
    · rename_i uc u _
      dsimp only at hr
      split at hr
      · split at hr
        · rw [ih hr]
          exact r.kinds_setDevices uc _
        · cases hr
      · cases hr

/-- Either `select_devices` returns without calling itself, or it goes through the call that is
listed next and then switches the devices of its own usecase. -/
theorem Settings.selectDevicesAt_entered (v : Settings) (depth : Nat) (r : Routing) (id : UsecaseId) :
    (v.entered (depth + 1) r id = [r] ∧
      ∃ r', ∀ n, v.selectDevicesAt (n + 1) r id = some r') ∨
    ∃ r₁ input uc out, v.entered (depth + 1) r id = r :: v.entered depth r₁ input ∧
      ∀ n, v.selectDevicesAt (n + 1) r id =
        (v.selectDevicesAt n r₁ input).map (·.switchDevices uc out .none) := by
  simp only [entered, selectDevicesAt]
  cases r.getUsecaseFromId id with
  | none => exact .inl ⟨rfl, _, fun _ => rfl⟩
  | some uc =>
    dsimp only [Option.bind_some]
    cases r.usecaseList[uc]? with
    | none => exact .inl ⟨rfl, _, fun _ => rfl⟩
    | some u =>
      dsimp only [Option.map_some]
      cases htype : u.type with
      | pcmPlayback =>
        -- only a playback outside of a call selects for another usecase first
        by_cases hcall : (v.callDevices r).1 = .none
        · rw [if_pos ⟨rfl, hcall⟩]
          simp only [if_neg (not_not.mpr hcall)]
          cases v.selectsFirst (r.setDevices uc (v.outputDevicesAt u.stream)) u.stream with
          | none => exact .inl ⟨rfl, _, fun _ => rfl⟩
          | some input => exact .inr ⟨_, input, uc, _, rfl, fun n => (Option.map_eq_bind ..).symm⟩
        · rw [if_neg fun hboth => hcall hboth.2]
          simp only [ne_eq, if_pos hcall]
          exact .inl ⟨trivial, _, fun _ => rfl⟩
      | voiceCall => exact .inl ⟨rfl, _, fun _ => rfl⟩
      | pcmCapture => exact .inl ⟨rfl, _, fun _ => rfl⟩
      | pcmCaptureLowLatency => exact .inl ⟨rfl, _, fun _ => rfl⟩

theorem Hal.Listed.findsCall {s : Hal.Selection} (hl : s.1.Listed) : Hal.Selection.FindsCall s := by
  intro hcall r hr
  rw [Hal.getUsecaseFromId_of_kinds (s.1.toSettings.kinds_entered hr)]
  exact Hal.getUsecaseFromId_of_calls (hl.callState.inCall_iff.mp hcall)

/-! ## 4. The lists and the steps -/

namespace Hal

/-- The flag and the number of listed calls stay. -/
def KeepsCalls (h h' : Hal) : Prop :=
  h'.inCall = h.inCall ∧ h'.routing.calls = h.routing.calls

theorem KeepsCalls.of_kinds {h h' : Hal} (hcall : h'.inCall = h.inCall)
    (hkinds : h'.routing.kinds = h.routing.kinds) : h.KeepsCalls h' :=
  ⟨hcall, Routing.calls_of_kinds hkinds⟩

theorem KeepsCalls.trans {h h' h'' : Hal} (hk : h.KeepsCalls h') (hk' : h'.KeepsCalls h'') :
    h.KeepsCalls h'' :=
  ⟨hk'.1.trans hk.1, hk'.2.trans hk.2⟩

theorem keepsCalls_leaveSpeaker (h : Hal) (o : OutId) (uc : Nat) :
    h.KeepsCalls (h.leaveSpeaker o uc) := by
  unfold leaveSpeaker
  split
  · exact .of_kinds rfl (h.routing.kinds_leaveSpeaker uc)
  · exact ⟨rfl, rfl⟩

theorem keepsCalls_selectDevices {h h' : Hal} {id : UsecaseId}
    (hsel : h.selectDevices id = some h') : h.KeepsCalls h' :=
  .of_kinds (kinds_selectDevices hsel).2 (kinds_selectDevices hsel).1

/-- Streams leave calls alone. -/
theorem keepsCalls_closed : StreamsClosedOn (fun _ => True) (fun _ _ => True) KeepsCalls where
  refl _ := ⟨rfl, rfl⟩
  trans hk hk' := hk.trans hk'
  frame hf := ⟨hf.inCall, by rw [hf.routing]⟩
  session _ _ := ⟨rfl, rfl⟩
  select _ hsel := keepsCalls_selectDevices hsel
  add h u hnew _ := by
    refine ⟨rfl, ?_⟩
    show (h.routing.usecaseList ++ [u]).countP _ = _
    rw [List.countP_append, List.countP_singleton, if_neg (by simpa using hnew.not_call)]
    rfl
  remove h uc u d hu huses _ := by
    refine ⟨rfl, ?_⟩
    have herase := countP_eraseIdx (p := fun u => u.id = .voiceCall) hu
    simp only [decide_eq_true_eq] at herase
    rw [if_neg huses.not_call] at herase
    show ((h.routing.disableSndDevice u d).usecaseList.eraseIdx uc).countP _ = _
    rw [Routing.disableSndDevice_usecaseList]
    exact herase
  reroute _ _ _ hsel := (keepsCalls_leaveSpeaker _ _ _).trans (keepsCalls_selectDevices hsel)

/-- A part of an operation: a call of `stop_voice_call` or of `start_voice_call`, or anything else. -/
inductive CallPart : Hal → List VoiceCallAt → Hal → Prop
  | other {h h' : Hal} : h.KeepsCalls h' → CallPart h [] h'
  | stop (h : Hal) : CallPart h [(h, .stop)] h.stopVoiceCall
  | start {h h' : Hal} {allocated : Bool} : h.startVoiceCall allocated = some h' →
    CallPart h [(h, .start)] h'

/-- The step consists of these calls, each made in the state that goes with it, and of parts that
leave calls alone. -/
def MakesVoiceCalls (h : Hal) (calls : List VoiceCallAt) (h' : Hal) : Prop :=
  ∃ parts, Exec CallPart h parts h' ∧ parts.flatten = calls

namespace MakesVoiceCalls

variable {h h' h'' : Hal} {calls calls' : List VoiceCallAt}

theorem of_part (hpart : CallPart h calls h') : h.MakesVoiceCalls calls h' :=
  ⟨[calls], .cons hpart (.nil h'), List.append_nil calls⟩

theorem trans (hmade : h.MakesVoiceCalls calls h') (hmade' : h'.MakesVoiceCalls calls' h'') :
    h.MakesVoiceCalls (calls ++ calls') h'' := by
  obtain ⟨parts, hparts, rfl⟩ := hmade
  obtain ⟨parts', hparts', rfl⟩ := hmade'
  exact ⟨parts ++ parts', hparts.append hparts', List.flatten_append⟩

theorem restart {allocated : Bool} (hstart : h.stopVoiceCall.startVoiceCall allocated = some h') :
    h.MakesVoiceCalls h.restartVoiceCalls h' :=
  (of_part (.stop h)).trans (of_part (.start hstart))

theorem followCall {o : OutId} {allocated : Bool} (hfollow : h.followCall o allocated = some h') :
    h.MakesVoiceCalls (h.followCallVoiceCalls o) h' := by
  unfold Hal.followCall at hfollow
  unfold followCallVoiceCalls
  split at hfollow
  · rename_i hmode
    rw [if_pos hmode]
    split at hfollow
    · rename_i hcall
      rw [if_pos hcall]
      exact restart hfollow
    · rename_i hcall
      rw [if_neg hcall]
      exact of_part (.start hfollow)
  · rename_i hmode
    rw [if_neg hmode]
    obtain rfl := Option.some.inj hfollow
    exact of_part (.other ⟨rfl, rfl⟩)

theorem outSetRouting {o : OutId} {val : AudioDevices} {allocated : Bool}
    (hset : h.outSetRouting o val allocated = some h') :
    h.MakesVoiceCalls (h.outSetRoutingVoiceCalls o val) h' := by
  unfold Hal.outSetRouting at hset
  unfold outSetRoutingVoiceCalls
  split at hset
  · rename_i hval
    rw [if_pos hval]
    obtain rfl := Option.some.inj hset
    exact of_part (.other ⟨rfl, rfl⟩)
  rename_i hval
  rw [if_neg hval]
  obtain ⟨h₁, hroute, hfollow⟩ := Option.bind_eq_some_iff.mp hset
  rw [← reroute_snd] at hroute
  dsimp only
  rw [hroute, Option.toList_some, List.flatMap_singleton]
  have hdev : h.KeepsCalls (h.modifyOut o ({ · with devices := val })) := ⟨rfl, rfl⟩
  -- the routing of the stream comes before the call is looked at, and leaves it alone
  have hrouted := keepsCalls_closed.rerouteOutput trivial (fun _ _ => trivial) hroute
  have hsco := keepsCalls_closed.switchBtSco h₁ (h₁.outs o).devices
  exact (of_part (.other ((hdev.trans hrouted).trans hsco))).trans (followCall hfollow)

theorem setMode (h : Hal) (mode : AudioMode) :
    h.MakesVoiceCalls (h.setModeVoiceCalls mode) (h.setMode mode) := by
  unfold setModeVoiceCalls Hal.setMode
  split
  · exact of_part (.other ⟨rfl, rfl⟩)
  have hmode : h.MakesVoiceCalls [] { h with mode := mode } := of_part (.other ⟨rfl, rfl⟩)
  dsimp only
  split
  · exact hmode.trans (of_part (.stop _))
  · exact hmode

theorem wbAmrCallback {wbAmrType : Int} {allocated : Bool}
    (hcallback : h.wbAmrCallback wbAmrType allocated = some h') :
    h.MakesVoiceCalls (h.wbAmrVoiceCalls wbAmrType) h' := by
  unfold Hal.wbAmrCallback at hcallback
  unfold wbAmrVoiceCalls
  split at hcallback
  · rename_i hsame
    rw [if_pos hsame]
    obtain rfl := Option.some.inj hcallback
    exact of_part (.other ⟨rfl, rfl⟩)
  rename_i hchanged
  rw [if_neg hchanged]
  have htype : h.MakesVoiceCalls [] { h with routing.session.wbAmrType := wbAmrType } :=
    of_part (.other ⟨rfl, rfl⟩)
  dsimp only at hcallback ⊢
  split at hcallback
  · rename_i hcall
    rw [if_pos hcall]
    exact htype.trans (restart hcallback)
  · rename_i hcall
    rw [if_neg hcall]
    obtain rfl := Option.some.inj hcallback
    exact htype

end MakesVoiceCalls

/-- An operation makes the calls of its list, in that order, and no others. -/
theorem makesVoiceCalls_step {h h' : Hal} {op : Op} (hstep : h.step op = some h') :
    h.MakesVoiceCalls (h.voiceCalls op) h' := by
  have hother (hcalls : op.drivesCall = false) : h.MakesVoiceCalls [] h' :=
    .of_part (.other (keepsCalls_closed.step (fun _ _ => trivial) hcalls (fun _ _ => trivial) hstep))
  cases op with
  | outSetRouting o val allocated => exact .outSetRouting hstep
  | setMode mode =>
    obtain rfl := Option.some.inj hstep
    exact .setMode h mode
  | wbAmrCallback wbAmrType allocated => exact .wbAmrCallback hstep
  | _ => exact hother rfl

end Hal

/-! ## 5. Runs -/

namespace AudioDevice

/-- However streams are opened, used and closed and calls are made, `in_call` is set exactly while
the one call is listed; every further operation starts a call while none is listed, stops one while
one is, and finds it where it looks for it. -/
theorem callState_of_reaches {d₀ d : AudioDevice} {ops : List DeviceOp} (hrun : Reaches d₀ ops d) :
    d.hal.CallState ∧ ∀ op, (∀ c ∈ d.hal.voiceCalls op, Hal.VoiceCallAt.Fits c) ∧
      ∀ s ∈ d.hal.selections op, Hal.Selection.FindsCall s := by
  have hl := hrun.listed
  refine ⟨hl.callState, fun op => ⟨hl.fits_voiceCalls op, fun s hs => ?_⟩⟩
  exact ((Hal.typedWhen_selections hl op).listed s hs).findsCall

/-- The primary output is opened, a call is made over it, and the network switches to wide band. -/
def wideBandCall : List DeviceOp :=
  [.openOutput 0 ⟨true, AudioDevices.outSpeaker, true, false, false, true, true, true⟩
      (Hal.openedOut .audioPlayback Hal.isOutput_audioPlayback),
    .call (.setMode .inCall), .call (.outSetRouting 0 AudioDevices.outEarpiece true),
    .call (.wbAmrCallback 1 true)]

def wideBandCallState : AudioDevice := (wideBandCall.foldlM step (fresh false)).getD (fresh false)

theorem callState_of_reaches_wideBandCall :
    wideBandCallState.hal.CallState ∧
      ∀ op, (∀ c ∈ wideBandCallState.hal.voiceCalls op, Hal.VoiceCallAt.Fits c) ∧
        ∀ s ∈ wideBandCallState.hal.selections op, Hal.Selection.FindsCall s :=
  callState_of_reaches ⟨fresh_start false, Exec.computed (by decide +kernel)⟩

end AudioDevice

end Universal7870.Audio
