import Universal7870.Lib.Lifecycle
import Universal7870.Lib.Run
import Universal7870.Audio.Routing

/-!
# The audio HAL

The operations of `audio_hw.c`, `compress_offload.c` and `voice.c` on streams and calls.  Each
runs under the stream's lock and `adev->lock`, or is a part of an operation that does, so a run of
the HAL is a sequence of them.  Drivers and allocations may fail: what they answer is an argument.
-/

namespace Universal7870.Audio

open Lib

/-- The echo reference of `struct audio_device`, and what happened to all of them. -/
structure EchoDevice where
  reference : Option EchoRef
  generation : BitVec 32
  /-- The number of objects created so far. -/
  created : Nat
  /-- The calls of `read` and `write` are the uses. -/
  log : List (LifeEvent EchoRef)
  deriving DecidableEq, Repr

/-- `struct audio_device`. -/
structure Hal extends Settings where
  routing : Routing
  activeInput : Option InId
  btScoActive : Bool
  /-- The offload effects library was found. -/
  offloadFx : Bool
  echo : EchoDevice

namespace Hal

def modifyOut (h : Hal) (o : OutId) (f : StreamOut → StreamOut) : Hal :=
  { h with outs := Function.update h.outs o (f (h.outs o)) }

def modifyIn (h : Hal) (i : InId) (f : StreamIn → StreamIn) : Hal :=
  { h with ins := Function.update h.ins i (f (h.ins i)) }

def selectDevices (h : Hal) (id : UsecaseId) : Option Hal :=
  (h.toSettings.selectDevices h.routing id).map ({ h with routing := · })

/-- `disable_snd_device` for the usecase at place `uc`. -/
def disableSndDevice (h : Hal) (u : AudioUsecase) (d : SndDevice) : Hal :=
  { h with routing := h.routing.disableSndDevice u d }

/-! ## 1. The echo reference -/

def logEcho (h : Hal) (event : LifeEvent EchoRef) : Hal :=
  { h with echo.log := event :: h.echo.log }

/-- `release_echo_reference` of what a stream or the device holds. -/
def releaseEchoReference (h : Hal) (reference : Option EchoRef) : Hal :=
  match reference with
  | some e => h.logEcho (.released e)
  | none => h

/-- A `read` or `write` call on what a stream holds. -/
def useEchoReference (h : Hal) (reference : Option EchoRef) : Hal :=
  match reference with
  | some e => h.logEcho (.used e)
  | none => h

/-- The primary output is a playback stream that picked up the device's echo reference and has yet
to give it back. -/
def primaryKeepsEcho (h : Hal) : Bool :=
  match h.primaryOutput.map h.outs with
  | some out =>
    out.usecase = .audioPlayback ∧ out.echoReferenceGeneration = h.echo.generation ∧ ¬out.standby
  | none => false

def putEchoReference (h : Hal) (reference : Option EchoRef) : Hal :=
  if h.echo.reference ≠ none ∧ reference = h.echo.reference then
    let h' := { h with
      echo.reference := none
      echo.generation := h.echo.generation + 1 }
    if h.primaryKeepsEcho then h' else h'.releaseEchoReference reference
  else h

/-- There is a primary output, it is a playback stream and it is not in standby. -/
def primaryPlays (h : Hal) : Bool :=
  match h.toSettings.primaryActive with
  | some out => out.usecase = .audioPlayback
  | none => false

/-- `get_echo_reference`; `created` says whether `create_echo_reference` succeeds. -/
def getEchoReference (h : Hal) (created : Bool) : Hal :=
  let h := h.putEchoReference h.echo.reference
  if h.primaryPlays ∧ created then
    { h with echo := {
        reference := some h.echo.created
        generation := h.echo.generation + 1
        created := h.echo.created + 1
        log := .created h.echo.created :: h.echo.log } }
  else h

/-! ## 2. Output streams -/

/-- What the allocations of `enable_output_path_l` give. -/
structure PathAlloc where
  usecase : Bool
  pcmDevices : Bool
  deriving DecidableEq, Repr

/-- The usecase `enable_output_path_l` lists for a stream with these PCM devices. -/
def outputUsecase (h : Hal) (o : OutId) (profiles : List PcmDeviceProfile) : AudioUsecase where
  id := (h.outs o).usecase
  type := .pcmPlayback
  devices := (h.outs o).devices
  outSndDevice := .none
  inSndDevice := .none
  stream := .output o
  mixerList := (profiles.map (·.card)).eraseDups

/-- `enable_output_path_l`, which fails with `-ENOMEM` only. -/
def enableOutputPath (h : Hal) (o : OutId) (alloc : PathAlloc) : Option (Bool × Hal) :=
  if ¬alloc.usecase then some (false, h)
  else
    let profiles :=
      if alloc.pcmDevices then selectPcmProfiles .pcmPlayback (h.outs o).devices else []
    let h := h.modifyOut o ({ · with pcmDevList := profiles.map fun p => ⟨p, false⟩ })
    let h := { h with routing := h.routing.addUsecase (h.outputUsecase o profiles) }
    (h.selectDevices (h.outs o).usecase).map fun h => (true, h)

/-- `disable_output_path_l`.  `uc_release_pcm_devices` goes through the usecase's stream, which for
an output's id is an output. -/
def disableOutputPath (h : Hal) (o : OutId) : Hal :=
  match h.routing.getUsecaseFromId (h.outs o).usecase with
  | none => h
  | some uc =>
    match h.routing.usecaseList[uc]? with
    | none => h
    | some u =>
      let h := h.disableSndDevice u u.outSndDevice
      let h := match u.stream with
        | .output o' => h.modifyOut o' ({ · with pcmDevList := [] })
        | .input _ => h
      { h with routing := h.routing.removeUsecase uc }

/-- `stop_output_offload_stream`, called for every output: whether to disable the path, and the
stream afterwards. -/
def stopOutputOffloadStream (h : Hal) (o : OutId) : Bool × Hal :=
  if h.offloadFx then
    let state := (h.outs o).offloadState
    (¬(state = .paused ∨ state = .pausedFlushed), h.modifyOut o ({ · with offloadState := .idle }))
  else (true, h)

def stopOutputStream (h : Hal) (o : OutId) : Hal :=
  let stopped := h.stopOutputOffloadStream o
  if stopped.1 then stopped.2.disableOutputPath o else stopped.2

def outOpenPcmDevices (h : Hal) (o : OutId) : Hal :=
  h.modifyOut o fun out => { out with pcmDevList := out.pcmDevList.map ({ · with pcm := true }) }

def outClosePcmDevices (h : Hal) (o : OutId) : Hal :=
  h.modifyOut o fun out => { out with pcmDevList := out.pcmDevList.map ({ · with pcm := false }) }

/-- The device's echo reference as `start_output_stream` and `out_write` take it over. -/
def pickUpEcho (h : Hal) (o : OutId) : Hal :=
  h.modifyOut o ({ · with
    echoReference := h.echo.reference
    echoReferenceGeneration := h.echo.generation })

/-- `start_output_stream` once the path is enabled; `ready` is what `pcm_is_ready` or
`is_compress_ready` says. -/
def openOutput (h : Hal) (o : OutId) (ready : Bool) : Bool × Hal :=
  if ¬(h.outs o).isOffload then
    let h := h.modifyOut o ({ · with compr := none })
    if ¬ready ∧ (h.outs o).pcmDevList ≠ [] then
      (false, (h.outClosePcmDevices o).stopOutputStream o)
    else (true, (h.outOpenPcmDevices o).pickUpEcho o)
  else if ¬ready then
    (false, (h.modifyOut o ({ · with compr := none })).stopOutputStream o)
  else (true, h.modifyOut o ({ · with compr := some ⟨false, false⟩ }))

def startOutputStream (h : Hal) (o : OutId) (alloc : PathAlloc) (ready : Bool) :
    Option (Bool × Hal) :=
  (h.enableOutputPath o alloc).map fun (ok, h) => if ok then h.openOutput o ready else (false, h)

/-- What `compress_start`, `compress_pause`, `compress_resume` and `compress_stop` do to a handle
when they succeed. -/
inductive CompressCall
  | start
  | pause
  | resume
  | stop
  deriving DecidableEq, Repr

def CompressCall.apply : CompressCall → Compress → Compress
  | .start, c => { c with started := true }
  | .pause, c => { c with paused := true }
  | .resume, c => { c with paused := false }
  | .stop, _ => ⟨false, false⟩

/-- A driver call on the stream's handle; its status is not looked at. -/
def callCompress (h : Hal) (o : OutId) (call : CompressCall) (succeeds : Bool) : Hal :=
  if succeeds then h.modifyOut o fun out => { out with compr := out.compr.map call.apply } else h

/-- `stop_compressed_output_l`, less the wait for the offload thread. -/
def stopCompressedOutput (h : Hal) (o : OutId) (succeeds : Bool) : Hal :=
  (h.modifyOut o ({ · with sendNewMetadata := true })).callCompress o .stop succeeds

/-- `do_out_standby_l`: the echo reference of an output that has one. -/
def dropOutEcho (h : Hal) (o : OutId) : Hal :=
  match (h.outs o).echoReference with
  | none => h
  | some e =>
    let h := h.logEcho (.used e)
    let h :=
      if (h.outs o).echoReferenceGeneration ≠ h.echo.generation then
        (h.logEcho (.released e)).modifyOut o
          ({ · with echoReferenceGeneration := h.echo.generation })
      else h
    h.modifyOut o ({ · with echoReference := none })

/-- `do_out_standby_l`. -/
def doOutStandby (h : Hal) (o : OutId) : Hal :=
  let h := h.modifyOut o ({ · with standby := true })
  let h :=
    if ¬(h.outs o).isOffload then (h.outClosePcmDevices o).dropOutEcho o
    else (h.stopCompressedOutput o true).modifyOut o ({ · with compr := none })
  h.stopOutputStream o

/-! ## 3. Input streams -/

def inClosePcmDevices (h : Hal) (i : InId) : Hal :=
  h.modifyIn i fun s => { s with pcmDevList := s.pcmDevList.map ({ · with pcm := false }) }

def stopInputStream (h : Hal) (i : InId) : Hal :=
  let h := { h with activeInput := none }
  match h.routing.getUsecaseFromId (h.ins i).usecase with
  | none => h
  | some uc =>
    match h.routing.usecaseList[uc]? with
    | none => h
    | some u =>
      let h := h.disableSndDevice u u.inSndDevice
      let h := { h with routing := h.routing.removeUsecase uc }
      h.modifyIn i ({ · with pcmDevList := [] })

/-- `do_in_standby_l`: the echo reference of an input that has one. -/
def dropInEcho (h : Hal) (i : InId) : Hal :=
  match (h.ins i).echoReference with
  | none => h
  | some e =>
    ((h.logEcho (.used e)).putEchoReference (some e)).modifyIn i ({ · with echoReference := none })

def doInStandby (h : Hal) (i : InId) : Hal :=
  if (h.ins i).standby then h
  else
    let h := ((h.inClosePcmDevices i).dropInEcho i).stopInputStream i
    h.modifyIn i ({ · with standby := true })

theorem doInStandby_standby (h : Hal) (i : InId) : ((h.doInStandby i).ins i).standby = true := by
  unfold doInStandby
  split
  · assumption
  · simp only [modifyIn, Function.update_self]

/-- What the calls of `start_input_stream` give: the allocations of the usecase and of its PCM
device, the status of `create_resampler` where it is called, the echo reference, and whether the
PCM device is ready. -/
structure InputStart where
  usecase : Bool
  pcmDevice : Bool
  resampler : Int
  echoReference : Bool
  ready : Bool
  deriving DecidableEq, Repr

/-- The usecase `start_input_stream` lists. -/
def inputUsecase (h : Hal) (i : InId) (profile : PcmDeviceProfile) : AudioUsecase where
  id := (h.ins i).usecase
  type := .pcmCapture
  devices := (h.ins i).devices
  outSndDevice := .none
  inSndDevice := .none
  stream := .input i
  mixerList := [profile.card]

/-- The part of `start_input_stream` that lists the usecase and routes it. -/
def listInputStream (h : Hal) (i : InId) (profile : PcmDeviceProfile) : Option Hal :=
  let h := h.modifyIn i ({ · with pcmDevList := [⟨profile, false⟩] })
  { h with routing := h.routing.addUsecase (h.inputUsecase i profile) }.selectDevices
    (h.ins i).usecase

/-- `start_input_stream` creates the resampler, again if there is one: the stream does not run at
the rate of its PCM device, is not asked for that rate, or has other auxiliary channels. -/
def recreatesResampler (h : Hal) (i : InId) (profile : PcmDeviceProfile) : Bool :=
  (h.ins i).configRate ≠ profile.config.rate ∨ (h.ins i).auxChannelsChanged ∨
    (h.ins i).requestedRate ≠ profile.config.rate

/-- `ret` after that. -/
def resamplerStatus (h : Hal) (i : InId) (profile : PcmDeviceProfile) (start : InputStart) : Int :=
  if h.recreatesResampler i profile then start.resampler else 0

def setInputConfig (h : Hal) (i : InId) (profile : PcmDeviceProfile) : Hal :=
  h.modifyIn i ({ · with configRate := profile.config.rate })

/-- The echo reference `start_input_stream` takes for a stream with echo cancellation that has
none. -/
def takeInEcho (h : Hal) (i : InId) (created : Bool) : Hal :=
  if (h.ins i).enableAec ∧ (h.ins i).echoReference = none then
    let h := h.getEchoReference created
    h.modifyIn i ({ · with echoReference := h.echo.reference })
  else h

/-- The end of `start_input_stream`.  The status of the resampler is returned, but where it is a
failure nothing is undone for it. -/
def openInput (h : Hal) (i : InId) (resampler : Int) (ready : Bool) : Int × Hal :=
  if ¬ready then (-5, { h.stopInputStream i with activeInput := none })
  else (resampler, h.modifyIn i fun s =>
    { s with pcmDevList := s.pcmDevList.map ({ · with pcm := true }) })

/-- `start_input_stream`: its status (`-EINVAL`, `-ENOMEM`, `-EIO` or that of the resampler). -/
def startInputStream (h : Hal) (i : InId) (start : InputStart) : Option (Int × Hal) :=
  let h := { h with activeInput := some i }
  match getPcmDevice (h.ins i).usecaseType (h.ins i).devices with
  | none => some (-22, { h with activeInput := none })
  | some profile =>
    if ¬start.usecase ∨ ¬start.pcmDevice then some (-12, { h with activeInput := none })
    else (h.listInputStream i profile).map fun h =>
      ((h.setInputConfig i profile).takeInEcho i start.echoReference).openInput i
        (h.resamplerStatus i profile start) start.ready

/-! ## 4. Calls -/

/-- `stop_voice_session`. -/
def stopVoiceSession (h : Hal) : Hal :=
  { h with routing.session.outDevice := AudioDevices.none }

def stopVoiceCall (h : Hal) : Hal :=
  let h := { h with inCall := false }.stopVoiceSession
  match h.routing.getUsecaseFromId .voiceCall with
  | none => h
  | some uc =>
    match h.routing.usecaseList[uc]? with
    | none => h
    | some u =>
      let h := (h.disableSndDevice u u.outSndDevice).disableSndDevice u u.inSndDevice
      { h with routing := h.routing.removeUsecase uc }

/-- The usecase `start_voice_call` lists for the primary output `o`. -/
def callUsecase (h : Hal) (o : OutId) : AudioUsecase where
  id := .voiceCall
  type := .voiceCall
  devices := (h.outs o).devices
  outSndDevice := .none
  inSndDevice := .none
  stream := .output o
  mixerList := [soundCard]

/-- `start_voice_call`, which reads the primary output without a check. -/
def startVoiceCall (h : Hal) (allocated : Bool) : Option Hal :=
  if ¬allocated then some h
  else
    match h.primaryOutput with
    | none => none
    | some o =>
      let h := { h with inCall := true }
      { h with routing := h.routing.addUsecase (h.callUsecase o) }.selectDevices .voiceCall

/-- The part of `stop_voice_session_bt_sco` and of its counterpart that the choice of devices can
see. -/
def switchBtSco (h : Hal) (outDevices : AudioDevices) : Hal :=
  let sco := outDevices.has AudioDevices.outAllSco
  if (h.mode = .inCommunication ∨ h.mode = .inCall) ∧ sco ∧ ¬h.btScoActive then
    { h with btScoActive := true }
  else if ¬sco ∧ h.btScoActive then
    let h := { h with btScoActive := false }
    if h.mode ≠ .inCall then h.stopVoiceSession else h
  else h

/-! ## 5. Routing requests -/

/-- A routing request cannot be met while the stream's PCM devices stay open: one of them has none
of the devices, or a device is left that none of them has. -/
def leavesPcmDevices (devs : List PcmDevice) (val : AudioDevices) : Bool :=
  let (doStandby, left) := devs.foldl (fun (doStandby, left) d =>
    (doStandby || !left.has d.pcmProfile.devices, left &&& ~~~d.pcmProfile.devices)) (false, val)
  doStandby || left ≠ 0

/-- The routing of an active stream in `out_set_parameters`. -/
def rerouteOut (h : Hal) (o : OutId) (val : AudioDevices) : Option Hal :=
  match h.routing.getUsecaseFromId (h.outs o).usecase with
  | none => some h
  | some uc =>
    if leavesPcmDevices (h.outs o).pcmDevList val then some (h.doOutStandby o)
    else
      let h :=
        if (h.outs o).isOffload then { h with routing := h.routing.leaveSpeaker uc } else h
      h.selectDevices (h.outs o).usecase

/-- The call follows the primary output: `out_set_parameters` starts it, or starts it again. -/
def followCall (h : Hal) (o : OutId) (allocated : Bool) : Option Hal :=
  if h.mode = .inCall ∧ h.primaryOutput = some o then
    if h.inCall then h.stopVoiceCall.startVoiceCall allocated else h.startVoiceCall allocated
  else some h

/-- `out_set_parameters` with a routing request, up to where it puts the active input to standby. -/
def outSetRouting (h : Hal) (o : OutId) (val : AudioDevices) (allocated : Bool) : Option Hal :=
  if val = AudioDevices.none then some h
  else
    let h := h.modifyOut o ({ · with devices := val })
    (if (h.outs o).standby then some h else h.rerouteOut o val).bind fun h =>
      (h.switchBtSco (h.outs o).devices).followCall o allocated

/-- The stream's usecase is listed and its PCM device has none of the requested devices. -/
def leavesInputDevice (h : Hal) (i : InId) (val : AudioDevices) : Bool :=
  (h.routing.getUsecaseFromId (h.ins i).usecase).isSome &&
    (h.ins i).pcmDevList.head?.any fun d =>
      !(val &&& ~~~AudioDevices.bitIn).has d.pcmProfile.devices

/-- The routing request of `in_set_parameters`. -/
def inSetRouting (h : Hal) (i : InId) (val : AudioDevices) : Option Hal :=
  if (h.ins i).devices = val ∨ val = AudioDevices.none then some h
  else
    let h := h.modifyIn i ({ · with devices := val })
    if (h.ins i).standby then some h
    else if h.leavesInputDevice i val then some (h.doInStandby i)
    else h.selectDevices (h.ins i).usecase

/-- `in_set_parameters`: a new source, which 0 is not, then a routing request. -/
def inSetParameters (h : Hal) (i : InId) (source : Option AudioSource)
    (routing : Option AudioDevices) : Option Hal :=
  let source := (source.filter (· ≠ .default)).getD (h.ins i).source
  let h := h.modifyIn i ({ · with source := source })
  match routing with
  | none => some h
  | some val => h.inSetRouting i val

/-- The end of `add_remove_audio_effect` for an echo canceller. -/
def setAec (h : Hal) (i : InId) (enable : Bool) : Option Hal :=
  let h := h.modifyIn i ({ · with enableAec := enable })
  if (h.ins i).standby then some h
  else (h.selectDevices (h.ins i).usecase).map (·.doInStandby i)

def setAuxChannelsChanged (h : Hal) (i : InId) (changed : Bool) : Hal :=
  h.modifyIn i ({ · with auxChannelsChanged := changed })

/-- `add_remove_audio_effect` adding an effect; `auxChanged` says whether the auxiliary channels
change for it. -/
def addAudioEffect (h : Hal) (i : InId) (aec auxChanged : Bool) : Option Hal :=
  let h := h.setAuxChannelsChanged i true
  let h := if auxChanged then h.doInStandby i else h
  if aec then h.setAec i true else some h

/-- `add_remove_audio_effect` removing an effect that the stream has. -/
def removeAudioEffect (h : Hal) (i : InId) (aec : Bool) : Option Hal :=
  let h := h.setAuxChannelsChanged i false
  if aec then h.setAec i false else some h

/-- `adev_set_mode`. -/
def setMode (h : Hal) (mode : AudioMode) : Hal :=
  if h.mode = mode then h
  else
    let inCall := h.inCall
    let h := { h with mode := mode }
    if mode = .normal ∧ inCall then h.stopVoiceCall else h

/-- `voice_session_wb_amr_callback`. -/
def wbAmrCallback (h : Hal) (wbAmrType : Int) (allocated : Bool) : Option Hal :=
  if h.routing.session.wbAmrType = wbAmrType then some h
  else
    let h := { h with routing.session.wbAmrType := wbAmrType }
    if h.inCall then h.stopVoiceCall.startVoiceCall allocated else some h

/-! ## 6. Writing and reading -/

/-- `out_write` of a stream in standby, up to the label `false_alarm`. -/
def outStart (h : Hal) (o : OutId) (alloc : PathAlloc) (ready : Bool) : Option Hal :=
  if (h.outs o).standby then
    (h.startOutputStream o alloc ready).map fun (ok, h) =>
      if ok then h.modifyOut o ({ · with standby := false }) else h
  else none

/-- `out_write` takes over the device's echo reference when its generation has changed. -/
def outSyncEcho (h : Hal) (o : OutId) : Option Hal :=
  if (h.outs o).standby ∨ (h.outs o).isOffload then none
  else if h.echo.generation = (h.outs o).echoReferenceGeneration then some h
  else some ((h.releaseEchoReference (h.outs o).echoReference).pickUpEcho o)

/-- `out_write` writes to the echo reference for each open PCM device whose mask is not the number
of `SND_DEVICE_OUT_SPEAKER`. -/
def writeEcho (h : Hal) (o : OutId) (d : PcmDevice) : Hal :=
  if d.pcm ∧ d.pcmProfile.devices ≠ BitVec.ofNat 32 SndDevice.outSpeaker.ctorIdx then
    h.useEchoReference (h.outs o).echoReference
  else h

def outWritePcm (h : Hal) (o : OutId) : Option Hal :=
  if (h.outs o).standby ∨ (h.outs o).isOffload then none
  else some ((h.outs o).pcmDevList.foldl (·.writeEcho o ·) h)

def outStandby (h : Hal) (o : OutId) : Hal :=
  if (h.outs o).standby then h else h.doOutStandby o

def sendOffloadCmd (h : Hal) (o : OutId) (cmd : OffloadCmd) : Hal :=
  h.modifyOut o fun out => { out with offloadCmdList := out.offloadCmdList ++ [cmd] }

/-- What the calls of `out_write_offload` give: the allocations, whether `compress_write` takes only
a part of the buffer, and whether `compress_start` succeeds. -/
structure OffloadWrite where
  alloc : PathAlloc
  writesPart : Bool
  starts : Bool
  deriving DecidableEq, Repr

/-- `out_write_offload` up to `compress_write`. -/
def feedCompress (h : Hal) (o : OutId) (writesPart : Bool) : Hal :=
  let h := h.modifyOut o ({ · with sendNewMetadata := false })
  if writesPart then h.sendOffloadCmd o .waitForBuffer else h

def startCompress (h : Hal) (o : OutId) (starts : Bool) : Hal :=
  if (h.outs o).offloadState ≠ .playing then
    (h.callCompress o .start starts).modifyOut o ({ · with offloadState := .playing })
  else h

/-- `out_write_offload` once the output path is there.  It calls the driver with whatever handle
the stream has. -/
def writeCompress (h : Hal) (o : OutId) (w : OffloadWrite) : Option Hal :=
  if (h.outs o).compr = none then none
  else some ((h.feedCompress o w.writesPart).startCompress o w.starts)

def outWriteOffload (h : Hal) (o : OutId) (w : OffloadWrite) : Option Hal :=
  if (h.outs o).standby ∨ ¬(h.outs o).isOffload then none
  else if (h.outs o).offloadState = .pausedFlushed then
    (h.enableOutputPath o w.alloc).bind fun (ok, h) => if ok then h.writeCompress o w else some h
  else h.writeCompress o w

/-- `out_pause_offload`. -/
def outPause (h : Hal) (o : OutId) (succeeds : Bool) : Option Hal :=
  if ¬(h.outs o).isOffload then none
  else if (h.outs o).compr ≠ none ∧ (h.outs o).offloadState = .playing then
    let h := h.callCompress o .pause succeeds
    some ((h.modifyOut o ({ · with offloadState := .paused })).disableOutputPath o)
  else some h

/-- `out_resume_offload`, which does not look at the status of `enable_output_path_l`. -/
def outResume (h : Hal) (o : OutId) (alloc : PathAlloc) (succeeds : Bool) : Option Hal :=
  if ¬(h.outs o).isOffload then none
  else if (h.outs o).compr ≠ none ∧ (h.outs o).offloadState = .paused then
    (h.enableOutputPath o alloc).map fun (_, h) =>
      (h.callCompress o .resume succeeds).modifyOut o ({ · with offloadState := .playing })
  else some h

/-- `out_drain_offload`. -/
def outDrain (h : Hal) (o : OutId) (earlyNotify : Bool) : Option Hal :=
  if ¬(h.outs o).isOffload then none
  else some (h.sendOffloadCmd o (if earlyNotify then .partialDrain else .drain))

/-- `out_flush_offload`. -/
def outFlush (h : Hal) (o : OutId) (succeeds : Bool) : Option Hal :=
  if ¬(h.outs o).isOffload then none
  else if (h.outs o).offloadState = .paused then
    some ((h.stopCompressedOutput o succeeds).modifyOut o ({ · with
      offloadState := .pausedFlushed }))
  else some h

/-- The offload thread takes its next command.  The driver calls it makes for it wait for the
device and neither stop nor pause it. -/
def offloadThread (h : Hal) (o : OutId) : Option Hal :=
  match (h.outs o).offloadCmdList with
  | [] => none
  | _ :: cmds => some (h.modifyOut o ({ · with offloadCmdList := cmds }))

/-- `in_read` of a stream in standby, up to the label `false_alarm`. -/
def inStart (h : Hal) (i : InId) (start : InputStart) : Option Hal :=
  if (h.ins i).standby then
    (h.startInputStream i start).map fun (status, h) =>
      if status = 0 then h.modifyIn i ({ · with standby := false }) else h
  else none

/-- `push_echo_reference` in `in_read`. -/
def inRead (h : Hal) (i : InId) : Option Hal :=
  if (h.ins i).standby ∨ (h.ins i).pcmDevList = [] then none
  else some (h.useEchoReference (h.ins i).echoReference)

/-! ## 7. Runs -/

inductive Op
  | outStart (o : OutId) (alloc : PathAlloc) (ready : Bool)
  | outSyncEcho (o : OutId)
  | outWritePcm (o : OutId)
  | outWriteOffload (o : OutId) (w : OffloadWrite)
  | outStandby (o : OutId)
  | outSetRouting (o : OutId) (val : AudioDevices) (allocated : Bool)
  | outPause (o : OutId) (succeeds : Bool)
  | outResume (o : OutId) (alloc : PathAlloc) (succeeds : Bool)
  | outDrain (o : OutId) (earlyNotify : Bool)
  | outFlush (o : OutId) (succeeds : Bool)
  | offloadThread (o : OutId)
  | inStart (i : InId) (start : InputStart)
  | inRead (i : InId)
  | inStandby (i : InId)
  | inSetParameters (i : InId) (source : Option AudioSource) (routing : Option AudioDevices)
  | addAudioEffect (i : InId) (aec auxChanged : Bool)
  | removeAudioEffect (i : InId) (aec : Bool)
  | setMode (mode : AudioMode)
  | setBluetoothWb (on : Bool)
  | wbAmrCallback (wbAmrType : Int) (allocated : Bool)
  deriving DecidableEq, Repr

/-- `none`: the operation does not come to this part, or does not return from it. -/
def step (h : Hal) : Op → Option Hal
  | .outStart o alloc ready => h.outStart o alloc ready
  | .outSyncEcho o => h.outSyncEcho o
  | .outWritePcm o => h.outWritePcm o
  | .outWriteOffload o w => h.outWriteOffload o w
  | .outStandby o => some (h.outStandby o)
  | .outSetRouting o val allocated => h.outSetRouting o val allocated
  | .outPause o succeeds => h.outPause o succeeds
  | .outResume o alloc succeeds => h.outResume o alloc succeeds
  | .outDrain o earlyNotify => h.outDrain o earlyNotify
  | .outFlush o succeeds => h.outFlush o succeeds
  | .offloadThread o => h.offloadThread o
  | .inStart i start => h.inStart i start
  | .inRead i => h.inRead i
  | .inStandby i => some (h.doInStandby i)
  | .inSetParameters i source routing => h.inSetParameters i source routing
  | .addAudioEffect i aec auxChanged => h.addAudioEffect i aec auxChanged
  | .removeAudioEffect i aec => h.removeAudioEffect i aec
  | .setMode mode => some (h.setMode mode)
  | .setBluetoothWb on => some { h with bluetoothWb := on }
  | .wbAmrCallback wbAmrType allocated => h.wbAmrCallback wbAmrType allocated

/-- A HAL that was just opened, with streams that were just opened: nothing is routed, every stream
is in standby and holds nothing. -/
structure Start (h : Hal) : Prop where
  usecaseList : h.routing.usecaseList = []
  sndDevRefCnt : ∀ d, h.routing.sndDevRefCnt d = 0
  routeLog : h.routing.log = []
  activeInput : h.activeInput = none
  inCall : h.inCall = false
  echo : h.echo = ⟨none, 0, 0, []⟩
  outs : ∀ o, (h.outs o).standby = true ∧ (h.outs o).pcmDevList = [] ∧ (h.outs o).compr = none ∧
    (h.outs o).offloadState = .idle ∧ (h.outs o).echoReference = none ∧
    (h.outs o).echoReferenceGeneration = 0
  ins : ∀ i, (h.ins i).standby = true ∧ (h.ins i).pcmDevList = [] ∧
    (h.ins i).echoReference = none ∧ (h.ins i).enableAec = false

/-- `h` can be reached by the operations `ops` of a HAL that starts in `h₀`. -/
def Reaches (h₀ : Hal) (ops : List Op) (h : Hal) : Prop :=
  Start h₀ ∧ Exec (guarded step) h₀ ops h

/-- A stream as `adev_open_output_stream` leaves it. -/
def openedOut (usecase : UsecaseId) (h : usecase.isOutput = true) : StreamOut where
  usecase := usecase
  devices := AudioDevices.outSpeaker
  standby := true
  pcmDevList := []
  compr := none
  offloadState := .idle
  sendNewMetadata := true
  offloadCmdList := []
  echoReference := none
  echoReferenceGeneration := 0
  usecase_isOutput := h

/-- A stream of 16 kHz as `adev_open_input_stream` leaves it. -/
def openedIn : StreamIn where
  usecase := .audioCapture
  usecaseType := .pcmCapture
  source := .voiceCommunication
  devices := AudioDevices.inBuiltinMic
  enableAec := false
  requestedRate := 16000
  configRate := captureDefaultSamplingRate
  auxChannelsChanged := false
  standby := true
  pcmDevList := []
  echoReference := none
  usecase_eq := rfl

theorem isOutput_audioPlayback : UsecaseId.audioPlayback.isOutput = true := rfl

/-- A HAL with a primary playback stream 0, a deep-buffer stream 1, an offload stream 2 and
recordings for a voice communication. -/
def opened (offloadFx : Bool) : Hal where
  mode := .normal
  inCall := false
  bluetoothWb := false
  primaryOutput := some 0
  outs o :=
    if o = 0 then openedOut .audioPlayback isOutput_audioPlayback
    else if o = 2 then openedOut .audioPlaybackOffload rfl
    else openedOut .audioPlaybackDeepBuffer rfl
  ins _ := openedIn
  asInput out := ⟨.other 0, out.devices, false, .invalid⟩
  asOutput s := s.devices
  routing :=
    { usecaseList := []
      sndDevRefCnt := fun _ => 0
      session := ⟨AudioDevices.none, false, false, 0⟩
      log := [] }
  activeInput := none
  btScoActive := false
  offloadFx := offloadFx
  echo := ⟨none, 0, 0, []⟩

theorem opened_start (offloadFx : Bool) : Start (opened offloadFx) := by
  constructor <;> try exact fun _ => rfl
  all_goals try rfl
  · intro o
    unfold opened
    dsimp only
    split
    · exact ⟨rfl, rfl, rfl, rfl, rfl, rfl⟩
    · split <;> exact ⟨rfl, rfl, rfl, rfl, rfl, rfl⟩
  · exact fun _ => ⟨rfl, rfl, rfl, rfl⟩

end Hal

end Universal7870.Audio
