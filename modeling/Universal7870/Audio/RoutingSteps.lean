import Universal7870.Audio.Hal

/-!
# The routing steps of an operation

Every operation changes the routing state through a few steps: usecases are listed and delisted,
devices are selected, and the session is written.  A relation between states that each of these
steps meets is met by every operation, given what it asks of the selections.
-/

namespace Universal7870.Audio

open Lib

/-! ## 1. The usecases that are listed -/

/-- A usecase that was just listed: what it is for, and no device yet. -/
structure AudioUsecase.New (u : AudioUsecase) : Prop where
  kind : (u.id.isOutput = true ∧ u.type = .pcmPlayback ∧ ∃ o, u.stream = .output o) ∨
    (u.id = .audioCapture ∧ u.type = .pcmCapture ∧ ∃ i, u.stream = .input i)
  outSndDevice : u.outSndDevice = .none
  inSndDevice : u.inSndDevice = .none

/-- The direction of a playback or of a recording. -/
def AudioUsecase.UsesOnly (u : AudioUsecase) (d : SndDevice) : Prop :=
  u.id.isOutput = true ∧ d = u.outSndDevice ∨ u.id = .audioCapture ∧ d = u.inSndDevice

theorem Routing.getUsecaseFromId_id {r : Routing} {id : UsecaseId} {uc : Nat} {u : AudioUsecase}
    (hid : r.getUsecaseFromId id = some uc) (hu : r.usecaseList[uc]? = some u) : u.id = id := by
  obtain ⟨hlt, hp, _⟩ := List.findIdx?_eq_some_iff_getElem.mp hid
  rw [List.getElem?_eq_getElem hlt] at hu
  obtain rfl := Option.some.inj hu
  simpa using hp

namespace Hal

/-- `enable_output_path_l` before it selects devices. -/
def listOutput (h : Hal) (o : OutId) (alloc : PathAlloc) : Hal :=
  let profiles :=
    if alloc.pcmDevices then selectPcmProfiles .pcmPlayback (h.outs o).devices else []
  let h := h.modifyOut o ({ · with pcmDevList := profiles.map fun p => ⟨p, false⟩ })
  { h with routing := h.routing.addUsecase (h.outputUsecase o profiles) }

/-- `start_input_stream` before it selects devices. -/
def listInput (h : Hal) (i : InId) (profile : PcmDeviceProfile) : Hal :=
  let h := h.modifyIn i ({ · with pcmDevList := [⟨profile, false⟩] })
  { h with routing := h.routing.addUsecase (h.inputUsecase i profile) }

/-- `start_voice_call` before it selects devices. -/
def listCall (h : Hal) (o : OutId) : Hal :=
  let h := { h with inCall := true }
  { h with routing := h.routing.addUsecase (h.callUsecase o) }

/-- `out_set_parameters` before it selects devices for an active stream. -/
def leaveSpeaker (h : Hal) (o : OutId) (uc : Nat) : Hal :=
  if (h.outs o).isOffload then { h with routing := h.routing.leaveSpeaker uc } else h

theorem outputUsecase_new (h : Hal) (o : OutId) (profiles : List PcmDeviceProfile) :
    (h.outputUsecase o profiles).New :=
  ⟨.inl ⟨(h.outs o).usecase_isOutput, rfl, o, rfl⟩, rfl, rfl⟩

theorem inputUsecase_new (h : Hal) (i : InId) (profile : PcmDeviceProfile) :
    (h.inputUsecase i profile).New :=
  ⟨.inr ⟨(h.ins i).usecase_eq, rfl, i, rfl⟩, rfl, rfl⟩

/-! ## 2. The selections of an operation -/

/-- A call of `select_devices`: the state it is made in, and the usecase. -/
abbrev Selection := Hal × UsecaseId

def enableOutputPathSelections (h : Hal) (o : OutId) (alloc : PathAlloc) : List Selection :=
  if ¬alloc.usecase then [] else [(h.listOutput o alloc, (h.outs o).usecase)]

def startVoiceCallSelections (h : Hal) (allocated : Bool) : List Selection :=
  if ¬allocated then []
  else
    match h.primaryOutput with
    | none => []
    | some o => [(h.listCall o, .voiceCall)]

def rerouteOutSelections (h : Hal) (o : OutId) (val : AudioDevices) : List Selection :=
  match h.routing.getUsecaseFromId (h.outs o).usecase with
  | none => []
  | some uc =>
    if leavesPcmDevices (h.outs o).pcmDevList val then []
    else [(h.leaveSpeaker o uc, (h.outs o).usecase)]

def followCallSelections (h : Hal) (o : OutId) (allocated : Bool) : List Selection :=
  if h.mode = .inCall ∧ h.primaryOutput = some o then
    if h.inCall then h.stopVoiceCall.startVoiceCallSelections allocated
    else h.startVoiceCallSelections allocated
  else []

/-- The routing of an output in `out_set_parameters`, and the selections in it. -/
def reroute (h : Hal) (o : OutId) (val : AudioDevices) : List Selection × Option Hal :=
  if (h.outs o).standby then ([], some h) else (h.rerouteOutSelections o val, h.rerouteOut o val)

def outSetRoutingSelections (h : Hal) (o : OutId) (val : AudioDevices) (allocated : Bool) :
    List Selection :=
  if val = AudioDevices.none then []
  else
    let rerouted := (h.modifyOut o ({ · with devices := val })).reroute o val
    rerouted.1 ++ rerouted.2.toList.flatMap fun h =>
      (h.switchBtSco (h.outs o).devices).followCallSelections o allocated

def startInputStreamSelections (h : Hal) (i : InId) (start : InputStart) : List Selection :=
  let h := { h with activeInput := some i }
  match getPcmDevice (h.ins i).usecaseType (h.ins i).devices with
  | none => []
  | some profile =>
    if ¬start.usecase ∨ ¬start.pcmDevice then []
    else [(h.listInput i profile, (h.ins i).usecase)]

def inSetRoutingSelections (h : Hal) (i : InId) (val : AudioDevices) : List Selection :=
  if (h.ins i).devices = val ∨ val = AudioDevices.none then []
  else
    let h := h.modifyIn i ({ · with devices := val })
    if (h.ins i).standby then []
    else if h.leavesInputDevice i val then []
    else [(h, (h.ins i).usecase)]

def inSetParametersSelections (h : Hal) (i : InId) (source : Option AudioSource)
    (routing : Option AudioDevices) : List Selection :=
  let source := (source.filter (· ≠ .default)).getD (h.ins i).source
  let h := h.modifyIn i ({ · with source := source })
  match routing with
  | none => []
  | some val => h.inSetRoutingSelections i val

def setAecSelections (h : Hal) (i : InId) (enable : Bool) : List Selection :=
  let h := h.modifyIn i ({ · with enableAec := enable })
  if (h.ins i).standby then [] else [(h, (h.ins i).usecase)]

def addAudioEffectSelections (h : Hal) (i : InId) (aec auxChanged : Bool) : List Selection :=
  let h := h.setAuxChannelsChanged i true
  let h := if auxChanged then h.doInStandby i else h
  if aec then h.setAecSelections i true else []

def removeAudioEffectSelections (h : Hal) (i : InId) (aec : Bool) : List Selection :=
  let h := h.setAuxChannelsChanged i false
  if aec then h.setAecSelections i false else []

def wbAmrCallbackSelections (h : Hal) (wbAmrType : Int) (allocated : Bool) : List Selection :=
  if h.routing.session.wbAmrType = wbAmrType then []
  else
    let h := { h with routing.session.wbAmrType := wbAmrType }
    if h.inCall then h.stopVoiceCall.startVoiceCallSelections allocated else []

def outStartSelections (h : Hal) (o : OutId) (alloc : PathAlloc) : List Selection :=
  if (h.outs o).standby then h.enableOutputPathSelections o alloc else []

def outWriteOffloadSelections (h : Hal) (o : OutId) (alloc : PathAlloc) : List Selection :=
  if (h.outs o).standby ∨ ¬(h.outs o).isOffload then []
  else if (h.outs o).offloadState = .pausedFlushed then h.enableOutputPathSelections o alloc
  else []

def outResumeSelections (h : Hal) (o : OutId) (alloc : PathAlloc) : List Selection :=
  if ¬(h.outs o).isOffload then []
  else if (h.outs o).compr ≠ none ∧ (h.outs o).offloadState = .paused then
    h.enableOutputPathSelections o alloc
  else []

def inStartSelections (h : Hal) (i : InId) (start : InputStart) : List Selection :=
  if (h.ins i).standby then h.startInputStreamSelections i start else []

/-- The calls of `select_devices` that an operation makes. -/
def selections (h : Hal) : Op → List Selection
  | .outStart o alloc _ => h.outStartSelections o alloc
  | .outWriteOffload o w => h.outWriteOffloadSelections o w.alloc
  | .outSetRouting o val allocated => h.outSetRoutingSelections o val allocated
  | .outResume o alloc _ => h.outResumeSelections o alloc
  | .inStart i start => h.inStartSelections i start
  | .inSetParameters i source routing => h.inSetParametersSelections i source routing
  | .addAudioEffect i aec auxChanged => h.addAudioEffectSelections i aec auxChanged
  | .removeAudioEffect i aec => h.removeAudioEffectSelections i aec
  | .wbAmrCallback wbAmrType allocated => h.wbAmrCallbackSelections wbAmrType allocated
  | _ => []

/-! ## 3. The steps -/

/-- A relation that every step of the routing state meets, where `Sel` is what it needs of a
selection. -/
structure Closed (Sel : Hal → UsecaseId → Prop) (K : Hal → Hal → Prop) : Prop where
  refl : ∀ h, K h h
  trans : ∀ {h h' h''}, K h h' → K h' h'' → K h h''
  /-- What routing does not look at. -/
  frame : ∀ {h h' : Hal}, h'.routing = h.routing → h'.inCall = h.inCall → K h h'
  session : ∀ (h : Hal) (session : VoiceSession), K h { h with routing.session := session }
  select : ∀ {h h' : Hal} {id}, Sel h id → h.selectDevices id = some h' → K h h'
  add : ∀ (h : Hal) {u : AudioUsecase}, u.New →
    K h { h with routing := h.routing.addUsecase u }
  remove : ∀ (h : Hal) {uc u d}, h.routing.usecaseList[uc]? = some u → u.UsesOnly d →
    K h { h with routing := (h.routing.disableSndDevice u d).removeUsecase uc }
  stopCall : ∀ h : Hal, K h h.stopVoiceCall
  startCall : ∀ {h h' : Hal} {o}, h.inCall = false → Sel (h.listCall o) .voiceCall →
    (h.listCall o).selectDevices .voiceCall = some h' → K h h'
  /-- The path of an offload stream is switched from the combined device first. -/
  reroute : ∀ {h h' : Hal} {o uc}, h.routing.getUsecaseFromId (h.outs o).usecase = some uc →
    Sel (h.leaveSpeaker o uc) (h.outs o).usecase →
    (h.leaveSpeaker o uc).selectDevices (h.outs o).usecase = some h' → K h h'

/-- Routing and calls are left alone, outputs outside of `S` are the same but for their PCM devices,
and no stream changes its usecase. -/
structure Frame (S : OutId → Prop) (h h' : Hal) : Prop where
  routing : h'.routing = h.routing
  inCall : h'.inCall = h.inCall
  asInput : h'.asInput = h.asInput
  usecase : ∀ o, (h'.outs o).usecase = (h.outs o).usecase
  out : ∀ o, ¬S o → ∃ devs, h'.outs o = { h.outs o with pcmDevList := devs }

/-- The id is one that inputs use, or an output in `S`. -/
def Owns (S : OutId → Prop) (h : Hal) (id : UsecaseId) : Prop :=
  id = .audioCapture ∨ ∃ o, S o ∧ (h.outs o).usecase = id

/-- The usecase is one of an input, or that of an output in `S`. -/
def Lists (S : OutId → Prop) (h : Hal) (u : AudioUsecase) : Prop :=
  u.id = .audioCapture ∨ ∃ o, S o ∧ (h.outs o).usecase = u.id ∧ u.stream = .output o

/-- A relation that every step of inputs and the outputs in `S` meets. -/
structure StreamsClosedOn (S : OutId → Prop) (Sel : Hal → UsecaseId → Prop)
    (K : Hal → Hal → Prop) : Prop where
  refl : ∀ h, K h h
  trans : ∀ {h h' h''}, K h h' → K h' h'' → K h h''
  frame : ∀ {h h' : Hal}, h.Frame S h' → K h h'
  session : ∀ (h : Hal) (session : VoiceSession), K h { h with routing.session := session }
  select : ∀ {h h' : Hal} {id}, Sel h id → h.selectDevices id = some h' → K h h'
  add : ∀ (h : Hal) {u : AudioUsecase}, u.New → h.Lists S u →
    K h { h with routing := h.routing.addUsecase u }
  remove : ∀ (h : Hal) {uc u d}, h.routing.usecaseList[uc]? = some u → u.UsesOnly d →
    h.Owns S u.id → K h { h with routing := (h.routing.disableSndDevice u d).removeUsecase uc }
  reroute : ∀ {h h' : Hal} {o uc}, S o → h.routing.getUsecaseFromId (h.outs o).usecase = some uc →
    Sel (h.leaveSpeaker o uc) (h.outs o).usecase →
    (h.leaveSpeaker o uc).selectDevices (h.outs o).usecase = some h' → K h h'

/-- A relation that calls meet as well. -/
structure ClosedOn (S : OutId → Prop) (Sel : Hal → UsecaseId → Prop) (K : Hal → Hal → Prop) : Prop
    extends StreamsClosedOn S Sel K where
  stopCall : ∀ h : Hal, K h h.stopVoiceCall
  startCall : ∀ {h h' : Hal} {o}, h.inCall = false → Sel (h.listCall o) .voiceCall →
    (h.listCall o).selectDevices .voiceCall = some h' → K h h'

/-- The output an operation is for. -/
def Op.output : Op → Option OutId
  | .outStart o _ _ | .outSyncEcho o | .outWritePcm o | .outWriteOffload o _ | .outStandby o
  | .outSetRouting o _ _ | .outPause o _ | .outResume o _ _ | .outDrain o _ | .outFlush o _
  | .offloadThread o => some o
  | _ => none

/-- The operation can start or stop a call. -/
def Op.drivesCall : Op → Bool
  | .outSetRouting .. | .setMode _ | .wbAmrCallback .. => true
  | _ => false

/-- What a relation needs of the selections of an operation. -/
def Selecting (Sel : Hal → UsecaseId → Prop) (selections : List Selection) : Prop :=
  ∀ s ∈ selections, Sel s.1 s.2

namespace Frame

variable {S : OutId → Prop} {h h' h'' : Hal} {o : OutId}

theorem of_eq (hrouting : h'.routing = h.routing) (hcall : h'.inCall = h.inCall)
    (hview : h'.asInput = h.asInput) (houts : h'.outs = h.outs) : h.Frame S h' :=
  ⟨hrouting, hcall, hview, fun _ => by rw [houts], fun _ _ => ⟨_, by rw [houts]⟩⟩

theorem refl (h : Hal) : h.Frame S h := .of_eq rfl rfl rfl rfl

theorem trans (hf : h.Frame S h') (hf' : h'.Frame S h'') : h.Frame S h'' where
  routing := hf'.routing.trans hf.routing
  inCall := hf'.inCall.trans hf.inCall
  asInput := hf'.asInput.trans hf.asInput
  usecase o := (hf'.usecase o).trans (hf.usecase o)
  out o ho := by
    obtain ⟨devs, hdevs⟩ := hf.out o ho
    obtain ⟨devs', hdevs'⟩ := hf'.out o ho
    exact ⟨devs', by rw [hdevs', hdevs]⟩

/-- A stream of `S` is written. -/
theorem modifyOut (h : Hal) (ho : S o) {f : StreamOut → StreamOut}
    (hf : (f (h.outs o)).usecase = (h.outs o).usecase) : h.Frame S (h.modifyOut o f) where
  routing := rfl
  inCall := rfl
  asInput := rfl
  usecase o' := by
    by_cases hsame : o' = o
    · subst hsame
      show (Function.update h.outs o' (f (h.outs o')) o').usecase = _
      rw [Function.update_self]
      exact hf
    · exact congrArg StreamOut.usecase (Function.update_of_ne hsame _ _)
  out o' ho' := by
    have hne : o' ≠ o := fun hsame => ho' (hsame ▸ ho)
    exact ⟨_, Function.update_of_ne hne _ _⟩

/-- The PCM devices of any stream are written. -/
theorem pcm (h : Hal) (o : OutId) (f : StreamOut → List PcmDevice) :
    h.Frame S (h.modifyOut o fun out => { out with pcmDevList := f out }) where
  routing := rfl
  inCall := rfl
  asInput := rfl
  usecase o' := by
    by_cases hsame : o' = o
    · subst hsame
      show (Function.update h.outs o' { h.outs o' with pcmDevList := f (h.outs o') } o').usecase = _
      rw [Function.update_self]
    · exact congrArg StreamOut.usecase (Function.update_of_ne hsame _ _)
  out o' _ := by
    by_cases hsame : o' = o
    · subst hsame
      exact ⟨_, Function.update_self o' _ _⟩
    · exact ⟨_, Function.update_of_ne hsame _ _⟩

theorem releaseEchoReference (h : Hal) (e : Option EchoRef) :
    h.Frame S (h.releaseEchoReference e) := by
  cases e <;> exact .of_eq rfl rfl rfl rfl

theorem useEchoReference (h : Hal) (e : Option EchoRef) : h.Frame S (h.useEchoReference e) := by
  cases e <;> exact .of_eq rfl rfl rfl rfl

theorem putEchoReference (h : Hal) (e : Option EchoRef) : h.Frame S (h.putEchoReference e) := by
  unfold Hal.putEchoReference
  split
  · dsimp only
    have hput : h.Frame S { h with
        echo.reference := none
        echo.generation := h.echo.generation + 1 } := .of_eq rfl rfl rfl rfl
    split
    · exact hput
    · exact hput.trans (.releaseEchoReference _ e)
  · exact .refl h

theorem getEchoReference (h : Hal) (created : Bool) :
    h.Frame S (h.getEchoReference created) := by
  unfold Hal.getEchoReference
  dsimp only
  split
  · exact (Frame.putEchoReference h _).trans (.of_eq rfl rfl rfl rfl)
  · exact .putEchoReference h _

theorem dropOutEcho (h : Hal) (ho : S o) : h.Frame S (h.dropOutEcho o) := by
  have hlog (h : Hal) (event : LifeEvent EchoRef) : h.Frame S (h.logEcho event) :=
    .of_eq rfl rfl rfl rfl
  unfold Hal.dropOutEcho
  split
  · exact .refl h
  · dsimp only
    split
    · exact (((hlog h _).trans (hlog _ _)).trans (.modifyOut _ ho rfl)).trans (.modifyOut _ ho rfl)
    · exact (hlog h _).trans (.modifyOut _ ho rfl)

theorem dropInEcho (h : Hal) (i : InId) : h.Frame S (h.dropInEcho i) := by
  unfold Hal.dropInEcho
  split
  · exact .refl h
  · have hlog (e : EchoRef) : h.Frame S (h.logEcho (.used e)) := .of_eq rfl rfl rfl rfl
    exact ((hlog _).trans (.putEchoReference _ _)).trans (.of_eq rfl rfl rfl rfl)

theorem takeInEcho (h : Hal) (i : InId) (created : Bool) : h.Frame S (h.takeInEcho i created) := by
  unfold Hal.takeInEcho
  split
  · exact (Frame.getEchoReference h created).trans (.of_eq rfl rfl rfl rfl)
  · exact .refl h

theorem callCompress (h : Hal) (ho : S o) (call : CompressCall) (succeeds : Bool) :
    h.Frame S (h.callCompress o call succeeds) := by
  unfold Hal.callCompress
  split
  · exact .modifyOut h ho rfl
  · exact .refl h

theorem foldl_writeEcho (devs : List PcmDevice) (h : Hal) (o : OutId) :
    h.Frame S (devs.foldl (·.writeEcho o ·) h) := by
  induction devs generalizing h with
  | nil => exact .refl h
  | cons d devs ih =>
    have hwrite : h.Frame S (h.writeEcho o d) := by
      unfold writeEcho
      split
      · exact .useEchoReference h _
      · exact .refl h
    exact hwrite.trans (ih _)

end Frame

theorem reroute_snd (h : Hal) (o : OutId) (val : AudioDevices) :
    (h.reroute o val).2 = if (h.outs o).standby then some h else h.rerouteOut o val := by
  unfold reroute
  split
  · rfl
  · rfl

theorem stopVoiceCall_inCall (h : Hal) : h.stopVoiceCall.inCall = false := by
  unfold stopVoiceCall
  dsimp only
  split
  · rfl
  · split
    · rfl
    · rfl

namespace StreamsClosedOn

variable {S : OutId → Prop} {Sel : Hal → UsecaseId → Prop} {K : Hal → Hal → Prop} {h h' : Hal}
  {o : OutId} {i : InId}

/-! ## 4. Outputs -/

/-- The usecase an output gives up is a playback. -/
theorem disableOutputPath (hK : StreamsClosedOn S Sel K) (h : Hal) (ho : S o) :
    K h (h.disableOutputPath o) := by
  unfold Hal.disableOutputPath
  split
  · exact hK.refl h
  rename_i uc huc
  split
  · exact hK.refl h
  rename_i u hu
  have huses : u.UsesOnly u.outSndDevice := by
    left
    rw [Routing.getUsecaseFromId_id huc hu]
    exact ⟨(h.outs o).usecase_isOutput, rfl⟩
  have howns : h.Owns S u.id := .inr ⟨o, ho, (Routing.getUsecaseFromId_id huc hu).symm⟩
  have hremoved := hK.remove h hu huses howns
  dsimp only
  split
  · exact hK.trans hremoved (hK.frame (Frame.pcm
      { h with routing := (h.routing.disableSndDevice u u.outSndDevice).removeUsecase uc } _
      fun _ => []))
  · exact hremoved

theorem enableOutputPath (hK : StreamsClosedOn S Sel K) (ho : S o) {alloc : PathAlloc} {ok : Bool}
    (hsel : Selecting Sel (h.enableOutputPathSelections o alloc))
    (hen : h.enableOutputPath o alloc = some (ok, h')) : K h h' := by
  unfold Hal.enableOutputPath at hen
  unfold enableOutputPathSelections at hsel
  split at hen
  · obtain ⟨_, rfl⟩ := Prod.mk.inj (Option.some.inj hen)
    exact hK.refl h
  · rename_i halloc
    rw [if_neg halloc] at hsel
    obtain ⟨h₁, hselect, hpair⟩ := Option.map_eq_some_iff.mp hen
    obtain ⟨_, rfl⟩ := Prod.mk.inj hpair
    have hlisted : K h (h.listOutput o alloc) := by
      have hpcm (devs : List PcmDevice) : K h (h.modifyOut o ({ · with pcmDevList := devs })) :=
        hK.frame (.pcm h o fun _ => devs)
      exact hK.trans (hpcm _) (hK.add _ (outputUsecase_new ..) (.inr ⟨o, ho, rfl, rfl⟩))
    have hid : (h.listOutput o alloc).selectDevices (h.outs o).usecase = some h₁ := by
      have hsame : ((h.listOutput o alloc).outs o).usecase = (h.outs o).usecase := by
        simp only [listOutput, modifyOut, Function.update_self]
      rw [← hsame]
      exact hselect
    exact hK.trans hlisted (hK.select (hsel _ (List.mem_singleton.mpr rfl)) hid)

theorem stopOutputStream (hK : StreamsClosedOn S Sel K) (h : Hal) (ho : S o) :
    K h (h.stopOutputStream o) := by
  have hoffload : K h (h.stopOutputOffloadStream o).2 := by
    have hidle : h.Frame S (h.modifyOut o ({ · with offloadState := .idle })) :=
      .modifyOut h ho rfl
    unfold stopOutputOffloadStream
    split
    · exact hK.frame hidle
    · exact hK.refl h
  unfold Hal.stopOutputStream
  dsimp only
  split
  · exact hK.trans hoffload (hK.disableOutputPath _ ho)
  · exact hoffload

theorem openOutput (hK : StreamsClosedOn S Sel K) (h : Hal) (ho : S o) (ready : Bool) :
    K h (h.openOutput o ready).2 := by
  have hstop (h' : Hal) (hf : h.Frame S h') : K h (h'.stopOutputStream o) :=
    hK.trans (hK.frame hf) (hK.stopOutputStream h' ho)
  have hcompr (compr : Option Compress) : h.Frame S (h.modifyOut o ({ · with compr := compr })) :=
    .modifyOut h ho rfl
  have hecho (h' : Hal) : h'.Frame S (h'.pickUpEcho o) := .modifyOut h' ho rfl
  unfold Hal.openOutput
  split
  · dsimp only
    split
    · exact hstop _ ((hcompr none).trans (.pcm _ _ _))
    · exact hK.frame (((hcompr none).trans (.pcm _ _ _)).trans (hecho _))
  · split
    · exact hstop _ (hcompr none)
    · exact hK.frame (hcompr _)

theorem startOutputStream (hK : StreamsClosedOn S Sel K) (ho : S o) {alloc : PathAlloc}
    {ready ok : Bool} (hsel : Selecting Sel (h.enableOutputPathSelections o alloc))
    (hstart : h.startOutputStream o alloc ready = some (ok, h')) : K h h' := by
  obtain ⟨⟨ok₁, h₁⟩, hen, hopen⟩ := Option.map_eq_some_iff.mp hstart
  have hen := hK.enableOutputPath ho hsel hen
  dsimp only at hopen
  split at hopen
  · have hk := hK.openOutput h₁ ho ready
    rw [hopen] at hk
    exact hK.trans hen hk
  · obtain ⟨_, rfl⟩ := Prod.mk.inj hopen
    exact hen

theorem outStart (hK : StreamsClosedOn S Sel K) (ho : S o) {alloc : PathAlloc} {ready : Bool}
    (hsel : Selecting Sel (h.outStartSelections o alloc))
    (hstart : h.outStart o alloc ready = some h') : K h h' := by
  unfold Hal.outStart at hstart
  unfold outStartSelections at hsel
  split at hstart
  · rename_i hstandby
    rw [if_pos hstandby] at hsel
    obtain ⟨⟨ok, h₁⟩, hout, rfl⟩ := Option.map_eq_some_iff.mp hstart
    have hkeep := hK.startOutputStream ho hsel hout
    dsimp only
    split
    · exact hK.trans hkeep (hK.frame (.modifyOut _ ho rfl))
    · exact hkeep
  · cases hstart

theorem doOutStandby (hK : StreamsClosedOn S Sel K) (h : Hal) (ho : S o) : K h (h.doOutStandby o) := by
  have hstop (h' : Hal) (hf : h.Frame S h') : K h (h'.stopOutputStream o) :=
    hK.trans (hK.frame hf) (hK.stopOutputStream h' ho)
  have hasleep : h.Frame S (h.modifyOut o ({ · with standby := true })) := .modifyOut h ho rfl
  unfold Hal.doOutStandby
  dsimp only
  split
  · exact hstop _ ((hasleep.trans (.pcm _ _ _)).trans (.dropOutEcho _ ho))
  · unfold stopCompressedOutput
    exact hstop _ (((hasleep.trans (.modifyOut _ ho rfl)).trans (.callCompress _ ho _ _)).trans
      (.modifyOut _ ho rfl))

theorem outStandby (hK : StreamsClosedOn S Sel K) (h : Hal) (ho : S o) : K h (h.outStandby o) := by
  unfold Hal.outStandby
  split
  · exact hK.refl h
  · exact hK.doOutStandby h ho

theorem outSyncEcho (hK : StreamsClosedOn S Sel K) (ho : S o)
    (hsync : h.outSyncEcho o = some h') : K h h' := by
  unfold Hal.outSyncEcho at hsync
  split at hsync
  · cases hsync
  split at hsync
  · obtain rfl := Option.some.inj hsync
    exact hK.refl h
  · obtain rfl := Option.some.inj hsync
    exact hK.frame ((Frame.releaseEchoReference h _).trans (.modifyOut _ ho rfl))

theorem outWritePcm (hK : StreamsClosedOn S Sel K) (hwrite : h.outWritePcm o = some h') : K h h' := by
  unfold Hal.outWritePcm at hwrite
  split at hwrite
  · cases hwrite
  · obtain rfl := Option.some.inj hwrite
    exact hK.frame (.foldl_writeEcho _ h o)

theorem writeCompress (hK : StreamsClosedOn S Sel K) (ho : S o) {w : OffloadWrite}
    (hwrite : h.writeCompress o w = some h') : K h h' := by
  unfold Hal.writeCompress at hwrite
  split at hwrite
  · cases hwrite
  obtain rfl := Option.some.inj hwrite
  have hfeed : K h (h.feedCompress o w.writesPart) := by
    have hmetadata : h.Frame S (h.modifyOut o ({ · with sendNewMetadata := false })) :=
      .modifyOut h ho rfl
    unfold feedCompress
    dsimp only
    split
    · exact hK.frame (hmetadata.trans (.modifyOut _ ho rfl))
    · exact hK.frame hmetadata
  refine hK.trans hfeed ?_
  unfold startCompress
  split
  · exact hK.frame ((Frame.callCompress _ ho _ _).trans (.modifyOut _ ho rfl))
  · exact hK.refl _

theorem outWriteOffload (hK : StreamsClosedOn S Sel K) (ho : S o) {w : OffloadWrite}
    (hsel : Selecting Sel (h.outWriteOffloadSelections o w.alloc))
    (hwrite : h.outWriteOffload o w = some h') : K h h' := by
  unfold Hal.outWriteOffload at hwrite
  unfold outWriteOffloadSelections at hsel
  split at hwrite
  · cases hwrite
  rename_i hactive
  rw [if_neg hactive] at hsel
  split at hwrite
  · rename_i hstate
    rw [if_pos hstate] at hsel
    obtain ⟨⟨ok, h₁⟩, hen, hwrite⟩ := Option.bind_eq_some_iff.mp hwrite
    have hen := hK.enableOutputPath ho hsel hen
    dsimp only at hwrite
    split at hwrite
    · exact hK.trans hen (hK.writeCompress ho hwrite)
    · obtain rfl := Option.some.inj hwrite
      exact hen
  · exact hK.writeCompress ho hwrite

theorem outPause (hK : StreamsClosedOn S Sel K) (ho : S o) {succeeds : Bool}
    (hpause : h.outPause o succeeds = some h') : K h h' := by
  unfold Hal.outPause at hpause
  split at hpause
  · cases hpause
  split at hpause
  · obtain rfl := Option.some.inj hpause
    have hcall : K h ((h.callCompress o .pause succeeds).modifyOut o
        ({ · with offloadState := .paused })) :=
      hK.frame ((Frame.callCompress h ho _ _).trans (.modifyOut _ ho rfl))
    exact hK.trans hcall (hK.disableOutputPath _ ho)
  · obtain rfl := Option.some.inj hpause
    exact hK.refl h

theorem outResume (hK : StreamsClosedOn S Sel K) (ho : S o) {alloc : PathAlloc} {succeeds : Bool}
    (hsel : Selecting Sel (h.outResumeSelections o alloc))
    (hresume : h.outResume o alloc succeeds = some h') : K h h' := by
  unfold Hal.outResume at hresume
  unfold outResumeSelections at hsel
  split at hresume
  · cases hresume
  rename_i hoffload
  rw [if_neg hoffload] at hsel
  split at hresume
  · rename_i hpaused
    rw [if_pos hpaused] at hsel
    obtain ⟨⟨ok, h₁⟩, hen, rfl⟩ := Option.map_eq_some_iff.mp hresume
    exact hK.trans (hK.enableOutputPath ho hsel hen)
      (hK.frame ((Frame.callCompress h₁ ho _ _).trans (.modifyOut _ ho rfl)))
  · obtain rfl := Option.some.inj hresume
    exact hK.refl h

theorem outFlush (hK : StreamsClosedOn S Sel K) (ho : S o) {succeeds : Bool}
    (hflush : h.outFlush o succeeds = some h') : K h h' := by
  unfold Hal.outFlush at hflush
  split at hflush
  · cases hflush
  split at hflush
  · obtain rfl := Option.some.inj hflush
    have hmetadata : h.Frame S (h.modifyOut o ({ · with sendNewMetadata := true })) :=
      .modifyOut h ho rfl
    exact hK.frame ((hmetadata.trans (.callCompress _ ho _ _)).trans (.modifyOut _ ho rfl))
  · obtain rfl := Option.some.inj hflush
    exact hK.refl h

theorem outDrain (hK : StreamsClosedOn S Sel K) (ho : S o) {earlyNotify : Bool}
    (hdrain : h.outDrain o earlyNotify = some h') : K h h' := by
  unfold Hal.outDrain at hdrain
  split at hdrain
  · cases hdrain
  · obtain rfl := Option.some.inj hdrain
    exact hK.frame (.modifyOut h ho rfl)

theorem offloadThread (hK : StreamsClosedOn S Sel K) (ho : S o)
    (hthread : h.offloadThread o = some h') : K h h' := by
  unfold Hal.offloadThread at hthread
  split at hthread
  · cases hthread
  · obtain rfl := Option.some.inj hthread
    exact hK.frame (.modifyOut h ho rfl)

/-! ## 5. Inputs -/

/-- The usecase an input gives up is a recording. -/
theorem stopInputStream (hK : StreamsClosedOn S Sel K) (h : Hal) (i : InId) :
    K h (h.stopInputStream i) := by
  have hactive : K h { h with activeInput := none } := hK.frame (.of_eq rfl rfl rfl rfl)
  unfold Hal.stopInputStream
  dsimp only
  split
  · exact hactive
  rename_i uc huc
  split
  · exact hactive
  rename_i u hu
  have huses : u.UsesOnly u.inSndDevice := by
    right
    rw [Routing.getUsecaseFromId_id huc hu]
    exact ⟨(h.ins i).usecase_eq, rfl⟩
  have howns : Owns S { h with activeInput := none } u.id :=
    .inl ((Routing.getUsecaseFromId_id huc hu).trans (h.ins i).usecase_eq)
  have hremoved := hK.remove { h with activeInput := none } hu huses howns
  exact hK.trans hactive (hK.trans hremoved (hK.frame (.of_eq rfl rfl rfl rfl)))

theorem doInStandby (hK : StreamsClosedOn S Sel K) (h : Hal) (i : InId) : K h (h.doInStandby i) := by
  unfold Hal.doInStandby
  split
  · exact hK.refl h
  · have hclose : h.Frame S (h.inClosePcmDevices i) := .of_eq rfl rfl rfl rfl
    have hecho : K h ((h.inClosePcmDevices i).dropInEcho i) :=
      hK.frame (hclose.trans (.dropInEcho _ i))
    exact hK.trans hecho (hK.trans (hK.stopInputStream _ i) (hK.frame (.of_eq rfl rfl rfl rfl)))

theorem openInput (hK : StreamsClosedOn S Sel K) (h : Hal) (i : InId) (resampler : Int) (ready : Bool) :
    K h (h.openInput i resampler ready).2 := by
  unfold Hal.openInput
  split
  · exact hK.trans (hK.stopInputStream h i) (hK.frame (.of_eq rfl rfl rfl rfl))
  · exact hK.frame (.of_eq rfl rfl rfl rfl)

theorem startInputStream (hK : StreamsClosedOn S Sel K) {start : InputStart} {status : Int}
    (hsel : Selecting Sel (h.startInputStreamSelections i start))
    (hstart : h.startInputStream i start = some (status, h')) : K h h' := by
  unfold Hal.startInputStream at hstart
  unfold startInputStreamSelections at hsel
  dsimp only at hstart hsel
  have hactive : ∀ active, K h { h with activeInput := active } :=
    fun _ => hK.frame (.of_eq rfl rfl rfl rfl)
  split at hstart
  · obtain ⟨_, rfl⟩ := Prod.mk.inj (Option.some.inj hstart)
    exact hactive _
  rename_i profile hprofile
  rw [hprofile] at hsel
  dsimp only at hsel
  split at hstart
  · obtain ⟨_, rfl⟩ := Prod.mk.inj (Option.some.inj hstart)
    exact hactive _
  rename_i halloc
  rw [if_neg halloc] at hsel
  obtain ⟨h₁, hlist, hopen⟩ := Option.map_eq_some_iff.mp hstart
  have hlisted : K h ({ h with activeInput := some i }.listInput i profile) := by
    have hpcm : ∀ f, K h ({ h with activeInput := some i }.modifyIn i f) :=
      fun _ => hK.frame (.of_eq rfl rfl rfl rfl)
    exact hK.trans (hpcm _) (hK.add _ (inputUsecase_new ..) (.inl (StreamIn.usecase_eq _)))
  have hselected : K h h₁ := by
    have hid : ({ h with activeInput := some i }.listInput i profile).selectDevices
        (h.ins i).usecase = some h₁ := by
      have hsame : (({ h with activeInput := some i }.listInput i profile).ins i).usecase =
          (h.ins i).usecase := by
        simp only [listInput, modifyIn, Function.update_self]
      rw [← hsame]
      exact hlist
    exact hK.trans hlisted (hK.select (hsel _ (List.mem_singleton.mpr rfl)) hid)
  have hconfig : h₁.Frame S (h₁.setInputConfig i profile) := .of_eq rfl rfl rfl rfl
  have hecho := hK.frame (hconfig.trans (.takeInEcho _ i start.echoReference))
  have hopened := hK.openInput ((h₁.setInputConfig i profile).takeInEcho i start.echoReference) i
    (h₁.resamplerStatus i profile start) start.ready
  rw [hopen] at hopened
  exact hK.trans hselected (hK.trans hecho hopened)

theorem inStart (hK : StreamsClosedOn S Sel K) {start : InputStart}
    (hsel : Selecting Sel (h.inStartSelections i start))
    (hstart : h.inStart i start = some h') : K h h' := by
  unfold Hal.inStart at hstart
  unfold inStartSelections at hsel
  split at hstart
  · rename_i hstandby
    rw [if_pos hstandby] at hsel
    obtain ⟨⟨status, h₁⟩, hin, rfl⟩ := Option.map_eq_some_iff.mp hstart
    have hkeep := hK.startInputStream hsel hin
    dsimp only
    split
    · exact hK.trans hkeep (hK.frame (.of_eq rfl rfl rfl rfl))
    · exact hkeep
  · cases hstart

theorem inRead (hK : StreamsClosedOn S Sel K) (hread : h.inRead i = some h') : K h h' := by
  unfold Hal.inRead at hread
  split at hread
  · cases hread
  · obtain rfl := Option.some.inj hread
    exact hK.frame (.useEchoReference h _)

theorem inSetRouting (hK : StreamsClosedOn S Sel K) {val : AudioDevices}
    (hsel : Selecting Sel (h.inSetRoutingSelections i val))
    (hset : h.inSetRouting i val = some h') : K h h' := by
  unfold Hal.inSetRouting at hset
  unfold inSetRoutingSelections at hsel
  split at hset
  · obtain rfl := Option.some.inj hset
    exact hK.refl h
  rename_i hval
  rw [if_neg hval] at hsel
  dsimp only at hset hsel
  have hdev : ∀ f, K h (h.modifyIn i f) := fun _ => hK.frame (.of_eq rfl rfl rfl rfl)
  split at hset
  · obtain rfl := Option.some.inj hset
    exact hdev _
  rename_i hactive
  rw [if_neg hactive] at hsel
  split at hset
  · obtain rfl := Option.some.inj hset
    exact hK.trans (hdev _) (hK.doInStandby _ i)
  · rename_i hstays
    rw [if_neg hstays] at hsel
    exact hK.trans (hdev _) (hK.select (hsel _ (List.mem_singleton.mpr rfl)) hset)

theorem inSetParameters (hK : StreamsClosedOn S Sel K) {source : Option AudioSource}
    {routing : Option AudioDevices}
    (hsel : Selecting Sel (h.inSetParametersSelections i source routing))
    (hset : h.inSetParameters i source routing = some h') : K h h' := by
  unfold Hal.inSetParameters at hset
  unfold inSetParametersSelections at hsel
  dsimp only at hset hsel
  have hsource : ∀ f, K h (h.modifyIn i f) := fun _ => hK.frame (.of_eq rfl rfl rfl rfl)
  split at hset
  · obtain rfl := Option.some.inj hset
    exact hsource _
  · exact hK.trans (hsource _) (hK.inSetRouting hsel hset)

theorem setAec (hK : StreamsClosedOn S Sel K) {enable : Bool}
    (hsel : Selecting Sel (h.setAecSelections i enable))
    (hset : h.setAec i enable = some h') : K h h' := by
  unfold Hal.setAec at hset
  unfold setAecSelections at hsel
  dsimp only at hset hsel
  have haec : ∀ f, K h (h.modifyIn i f) := fun _ => hK.frame (.of_eq rfl rfl rfl rfl)
  split at hset
  · obtain rfl := Option.some.inj hset
    exact haec _
  · rename_i hactive
    rw [if_neg hactive] at hsel
    obtain ⟨h₁, hselect, rfl⟩ := Option.map_eq_some_iff.mp hset
    have hselected : K (h.modifyIn i ({ · with enableAec := enable })) h₁ :=
      hK.select (hsel _ (List.mem_singleton.mpr rfl)) hselect
    exact hK.trans (haec _) (hK.trans hselected (hK.doInStandby h₁ i))

theorem addAudioEffect (hK : StreamsClosedOn S Sel K) {aec auxChanged : Bool}
    (hsel : Selecting Sel (h.addAudioEffectSelections i aec auxChanged))
    (hadd : h.addAudioEffect i aec auxChanged = some h') : K h h' := by
  have hchanged : K h (h.setAuxChannelsChanged i true) := hK.frame (.of_eq rfl rfl rfl rfl)
  have haux : K h (if auxChanged then (h.setAuxChannelsChanged i true).doInStandby i
      else h.setAuxChannelsChanged i true) := by
    split
    · exact hK.trans hchanged (hK.doInStandby _ i)
    · exact hchanged
  unfold Hal.addAudioEffect at hadd
  unfold addAudioEffectSelections at hsel
  dsimp only at hadd hsel
  split at hadd
  · rename_i haec
    rw [if_pos haec] at hsel
    exact hK.trans haux (hK.setAec hsel hadd)
  · obtain rfl := Option.some.inj hadd
    exact haux

theorem removeAudioEffect (hK : StreamsClosedOn S Sel K) {aec : Bool}
    (hsel : Selecting Sel (h.removeAudioEffectSelections i aec))
    (hremove : h.removeAudioEffect i aec = some h') : K h h' := by
  have hchanged : K h (h.setAuxChannelsChanged i false) := hK.frame (.of_eq rfl rfl rfl rfl)
  unfold Hal.removeAudioEffect at hremove
  unfold removeAudioEffectSelections at hsel
  dsimp only at hremove hsel
  split at hremove
  · rename_i haec
    rw [if_pos haec] at hsel
    exact hK.trans hchanged (hK.setAec hsel hremove)
  · obtain rfl := Option.some.inj hremove
    exact hchanged

/-! ## 6. Calls and routing requests -/

theorem stopVoiceSession (hK : StreamsClosedOn S Sel K) (h : Hal) : K h h.stopVoiceSession :=
  hK.session h _

theorem switchBtSco (hK : StreamsClosedOn S Sel K) (h : Hal) (devices : AudioDevices) :
    K h (h.switchBtSco devices) := by
  unfold Hal.switchBtSco
  dsimp only
  split
  · exact hK.frame (.of_eq rfl rfl rfl rfl)
  · split
    · split
      · have hsco : K h { h with btScoActive := false } := hK.frame (.of_eq rfl rfl rfl rfl)
        exact hK.trans hsco (hK.stopVoiceSession _)
      · exact hK.frame (.of_eq rfl rfl rfl rfl)
    · exact hK.refl h

theorem rerouteOut (hK : StreamsClosedOn S Sel K) (ho : S o) {val : AudioDevices}
    (hsel : Selecting Sel (h.rerouteOutSelections o val))
    (hroute : h.rerouteOut o val = some h') : K h h' := by
  unfold Hal.rerouteOut at hroute
  unfold rerouteOutSelections at hsel
  split at hroute
  · obtain rfl := Option.some.inj hroute
    exact hK.refl h
  rename_i uc huc
  rw [huc] at hsel
  dsimp only at hsel
  split at hroute
  · obtain rfl := Option.some.inj hroute
    exact hK.doOutStandby h ho
  · rename_i hstays
    rw [if_neg hstays] at hsel
    apply hK.reroute ho huc (hsel _ (List.mem_singleton.mpr rfl))
    have hsame : ((h.leaveSpeaker o uc).outs o).usecase = (h.outs o).usecase := by
      unfold Hal.leaveSpeaker
      split
      · rfl
      · rfl
    rw [← hsame]
    exact hroute

theorem rerouteOutput (hK : StreamsClosedOn S Sel K) (ho : S o) {val : AudioDevices}
    (hsel : Selecting Sel (h.reroute o val).1) (hroute : (h.reroute o val).2 = some h') :
    K h h' := by
  unfold Hal.reroute at hsel hroute
  split at hroute
  · obtain rfl := Option.some.inj hroute
    exact hK.refl h
  · rename_i hactive
    rw [if_neg hactive] at hsel
    exact hK.rerouteOut ho hsel hroute

/-- What the operations meet that neither start nor stop a call. -/
theorem step (hK : StreamsClosedOn S Sel K) {op : Op} (hop : ∀ o ∈ op.output, S o)
    (hcalls : op.drivesCall = false) (hsel : Selecting Sel (h.selections op))
    (hstep : h.step op = some h') : K h h' := by
  cases op with
  | outStart o alloc ready => exact hK.outStart (hop o rfl) hsel hstep
  | outSyncEcho o => exact hK.outSyncEcho (hop o rfl) hstep
  | outWritePcm o => exact hK.outWritePcm hstep
  | outWriteOffload o w => exact hK.outWriteOffload (hop o rfl) hsel hstep
  | outStandby o =>
    obtain rfl := Option.some.inj hstep
    exact hK.outStandby h (hop o rfl)
  | outSetRouting o val allocated => cases hcalls
  | outPause o succeeds => exact hK.outPause (hop o rfl) hstep
  | outResume o alloc succeeds => exact hK.outResume (hop o rfl) hsel hstep
  | outDrain o earlyNotify => exact hK.outDrain (hop o rfl) hstep
  | outFlush o succeeds => exact hK.outFlush (hop o rfl) hstep
  | offloadThread o => exact hK.offloadThread (hop o rfl) hstep
  | inStart i start => exact hK.inStart hsel hstep
  | inRead i => exact hK.inRead hstep
  | inStandby i =>
    obtain rfl := Option.some.inj hstep
    exact hK.doInStandby h i
  | inSetParameters i source routing => exact hK.inSetParameters hsel hstep
  | addAudioEffect i aec auxChanged => exact hK.addAudioEffect hsel hstep
  | removeAudioEffect i aec => exact hK.removeAudioEffect hsel hstep
  | setMode mode => cases hcalls
  | setBluetoothWb on =>
    obtain rfl := Option.some.inj hstep
    exact hK.frame (.of_eq rfl rfl rfl rfl)
  | wbAmrCallback wbAmrType allocated => cases hcalls

end StreamsClosedOn

namespace ClosedOn

variable {S : OutId → Prop} {Sel : Hal → UsecaseId → Prop} {K : Hal → Hal → Prop} {h h' : Hal}
  {o : OutId}

theorem startVoiceCall (hK : ClosedOn S Sel K) {allocated : Bool} (hcall : h.inCall = false)
    (hsel : Selecting Sel (h.startVoiceCallSelections allocated))
    (hstart : h.startVoiceCall allocated = some h') : K h h' := by
  unfold Hal.startVoiceCall at hstart
  unfold startVoiceCallSelections at hsel
  split at hstart
  · obtain rfl := Option.some.inj hstart
    exact hK.refl h
  rename_i halloc
  rw [if_neg halloc] at hsel
  split at hstart
  · cases hstart
  · rename_i o hprimary
    rw [hprimary] at hsel
    exact hK.startCall hcall (hsel _ (List.mem_singleton.mpr rfl)) hstart

/-- The call is started again. -/
theorem restartVoiceCall (hK : ClosedOn S Sel K) {allocated : Bool}
    (hsel : Selecting Sel (h.stopVoiceCall.startVoiceCallSelections allocated))
    (hstart : h.stopVoiceCall.startVoiceCall allocated = some h') : K h h' :=
  hK.trans (hK.stopCall h) (hK.startVoiceCall h.stopVoiceCall_inCall hsel hstart)

theorem followCall (hK : ClosedOn S Sel K) {allocated : Bool}
    (hsel : Selecting Sel (h.followCallSelections o allocated))
    (hfollow : h.followCall o allocated = some h') : K h h' := by
  unfold Hal.followCall at hfollow
  unfold followCallSelections at hsel
  split at hfollow
  · rename_i hmode
    rw [if_pos hmode] at hsel
    split at hfollow
    · rename_i hcall
      rw [if_pos hcall] at hsel
      exact hK.restartVoiceCall hsel hfollow
    · rename_i hcall
      rw [if_neg hcall] at hsel
      exact hK.startVoiceCall (Bool.not_eq_true _ ▸ hcall) hsel hfollow
  · obtain rfl := Option.some.inj hfollow
    exact hK.refl h

theorem outSetRouting (hK : ClosedOn S Sel K) (ho : S o) {val : AudioDevices} {allocated : Bool}
    (hsel : Selecting Sel (h.outSetRoutingSelections o val allocated))
    (hset : h.outSetRouting o val allocated = some h') : K h h' := by
  unfold Hal.outSetRouting at hset
  unfold outSetRoutingSelections at hsel
  split at hset
  · obtain rfl := Option.some.inj hset
    exact hK.refl h
  rename_i hval
  rw [if_neg hval] at hsel
  obtain ⟨h₁, hroute, hfollow⟩ := Option.bind_eq_some_iff.mp hset
  rw [← reroute_snd] at hroute
  have hdev : K h (h.modifyOut o ({ · with devices := val })) := hK.frame (.modifyOut h ho rfl)
  have hrouted : K h h₁ :=
    hK.trans hdev (hK.rerouteOutput ho (fun s hs => hsel s (List.mem_append_left _ hs)) hroute)
  have hfollowed : Selecting Sel ((h₁.switchBtSco (h₁.outs o).devices).followCallSelections o
      allocated) := by
    intro s hs
    apply hsel s
    apply List.mem_append_right
    rw [List.mem_flatMap]
    exact ⟨h₁, Option.mem_toList.mpr hroute, hs⟩
  exact hK.trans hrouted (hK.trans (hK.switchBtSco _ _) (hK.followCall hfollowed hfollow))

theorem setMode (hK : ClosedOn S Sel K) (h : Hal) (mode : AudioMode) : K h (h.setMode mode) := by
  unfold Hal.setMode
  split
  · exact hK.refl h
  · dsimp only
    split
    · have hmode : K h { h with mode := mode } := hK.frame (.of_eq rfl rfl rfl rfl)
      exact hK.trans hmode (hK.stopCall _)
    · exact hK.frame (.of_eq rfl rfl rfl rfl)

theorem wbAmrCallback (hK : ClosedOn S Sel K) {wbAmrType : Int} {allocated : Bool}
    (hsel : Selecting Sel (h.wbAmrCallbackSelections wbAmrType allocated))
    (hcallback : h.wbAmrCallback wbAmrType allocated = some h') : K h h' := by
  unfold Hal.wbAmrCallback at hcallback
  unfold wbAmrCallbackSelections at hsel
  split at hcallback
  · obtain rfl := Option.some.inj hcallback
    exact hK.refl h
  rename_i hchanged
  rw [if_neg hchanged] at hsel
  have htype : K h { h with routing.session.wbAmrType := wbAmrType } :=
    hK.session h { h.routing.session with wbAmrType := wbAmrType }
  dsimp only at hcallback hsel
  split at hcallback
  · rename_i hcall
    rw [if_pos hcall] at hsel
    exact hK.trans htype (hK.restartVoiceCall hsel hcallback)
  · obtain rfl := Option.some.inj hcallback
    exact htype

/-! ## 7. Operations and runs -/

theorem step (hK : ClosedOn S Sel K) {op : Op} (hop : ∀ o ∈ op.output, S o)
    (hsel : Selecting Sel (h.selections op)) (hstep : h.step op = some h') : K h h' := by
  cases op with
  | outSetRouting o val allocated => exact hK.outSetRouting (hop o rfl) hsel hstep
  | setMode mode =>
    obtain rfl := Option.some.inj hstep
    exact hK.setMode h mode
  | wbAmrCallback wbAmrType allocated => exact hK.wbAmrCallback hsel hstep
  | _ => exact hK.toStreamsClosedOn.step hop rfl hsel hstep

end ClosedOn

namespace Closed

variable {Sel : Hal → UsecaseId → Prop} {K : Hal → Hal → Prop} {h h' : Hal}

/-- What every step meets, the steps of any outputs meet. -/
theorem on (hK : Closed Sel K) (S : OutId → Prop) : ClosedOn S Sel K where
  refl := hK.refl
  trans := hK.trans
  frame hf := hK.frame hf.routing hf.inCall
  session := hK.session
  select := hK.select
  add h _ hnew _ := hK.add h hnew
  remove h _ _ _ hu huses _ := hK.remove h hu huses
  stopCall := hK.stopCall
  startCall := hK.startCall
  reroute _ := hK.reroute

theorem step (hK : Closed Sel K) {op : Op} (hsel : Selecting Sel (h.selections op))
    (hstep : h.step op = some h') : K h h' :=
  (hK.on fun _ => True).step (fun _ _ => trivial) hsel hstep

/-- A relation that asks nothing of the selections is met by every run. -/
theorem run (hK : Closed (fun _ _ => True) K) {ops : List Op}
    (hrun : Exec (guarded Hal.step) h ops h') : K h h' := by
  induction hrun with
  | nil h => exact hK.refl h
  | cons hstep _ ih => exact hK.trans (hK.step (fun _ _ => trivial) hstep) ih

end Closed

end Hal

end Universal7870.Audio
