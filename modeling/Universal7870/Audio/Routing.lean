import Mathlib.Data.List.Basic
import Universal7870.Audio.Stream

/-!
# Routing usecases to sound devices

`enable_snd_device`, `disable_snd_device`, `check_and_route_usecases` and `select_devices` of
`audio_hw.c`, with the list of usecases and the reference counts they keep.  All of them run
with `adev->lock` held.
-/

namespace Universal7870.Audio

/-- `struct audio_usecase`; `mixerList` holds the cards of its mixers. -/
structure AudioUsecase where
  id : UsecaseId
  type : UsecaseType
  devices : AudioDevices
  outSndDevice : SndDevice
  inSndDevice : SndDevice
  stream : StreamRef
  mixerList : List Nat
  deriving DecidableEq, Repr

/-- What routing does that is seen outside of its own state, or said in the log. -/
inductive RouteEvent
  /-- A usecase was added; these ids are listed now. -/
  | listed (ids : List UsecaseId)
  | pathApplied (card : Nat) (d : SndDevice)
  | pathReset (card : Nat) (d : SndDevice)
  | amplifierEnabled (d : SndDevice) (enable : Bool)
  /-- The error branch of `disable_snd_device`. -/
  | refCntAlreadyZero (d : SndDevice)
  deriving DecidableEq, Repr

structure Routing where
  usecaseList : List AudioUsecase
  sndDevRefCnt : SndDevice → Int
  session : VoiceSession
  /-- Newest first. -/
  log : List RouteEvent

/-! ## 1. The usecase list -/

/-- `get_usecase_from_id`; a usecase's place in the list stands for the pointer to it. -/
def Routing.getUsecaseFromId (r : Routing) (id : UsecaseId) : Option Nat :=
  r.usecaseList.findIdx? (·.id = id)

/-- `get_usecase_from_type`, for the types the mask is made of. -/
def Routing.getUsecaseFromType (r : Routing) (types : List UsecaseType) : Option AudioUsecase :=
  r.usecaseList.find? (·.type ∈ types)

def Routing.modifyUsecase (r : Routing) (uc : Nat) (f : AudioUsecase → AudioUsecase) : Routing :=
  { r with usecaseList := r.usecaseList.modify uc f }

def Routing.setDevices (r : Routing) (uc : Nat) (devices : AudioDevices) : Routing :=
  r.modifyUsecase uc fun u => { u with devices := devices }

/-- `prepare_voice_session`. -/
def Routing.prepareSession (r : Routing) (devices : AudioDevices) : Routing :=
  { r with session := prepareVoiceSession r.session devices }

/-- `list_add_tail` of a usecase. -/
def Routing.addUsecase (r : Routing) (u : AudioUsecase) : Routing :=
  { r with
    usecaseList := r.usecaseList ++ [u]
    log := .listed ((r.usecaseList ++ [u]).map (·.id)) :: r.log }

def Routing.removeUsecase (r : Routing) (uc : Nat) : Routing :=
  { r with usecaseList := r.usecaseList.eraseIdx uc }

/-! ## 2. Enabling and disabling a sound device -/

/-- `enable_snd_device` of a device that is not the combined one. -/
def Routing.enableSingle (r : Routing) (u : AudioUsecase) (d : SndDevice) : Routing :=
  let cnt := r.sndDevRefCnt d + 1
  { r with
    sndDevRefCnt := Function.update r.sndDevRefCnt d cnt
    log :=
      if cnt > 1 then r.log
      else u.mixerList.foldl
        (fun log card => .pathApplied card d :: .amplifierEnabled d true :: log) r.log }

def Routing.enableSndDevice (r : Routing) (u : AudioUsecase) (d : SndDevice) : Routing :=
  if d = .outSpeakerAndHeadphones then
    (r.enableSingle u .outSpeaker).enableSingle u .outHeadphones
  else r.enableSingle u d

/-- What is logged for one card when the last user of `d` is gone.  Resetting the path of an input
device applies that of the playback device again, unless the device is the first input device. -/
def resetOnCard (outDevice : Option SndDevice) (d : SndDevice) (log : List RouteEvent)
    (card : Nat) : List RouteEvent :=
  let log := .pathReset card d :: log
  let log := match outDevice with
    | some out =>
      if d.ctorIdx > SndDevice.inBegin.ctorIdx then .pathApplied card out :: log else log
    | none => log
  .amplifierEnabled d false :: log

/-- `disable_snd_device` of a device that is not the combined one. -/
def Routing.disableSingle (r : Routing) (u : AudioUsecase) (d : SndDevice) : Routing :=
  let outDevice := (r.getUsecaseFromType [.pcmPlayback]).map (·.outSndDevice)
  if r.sndDevRefCnt d ≤ 0 then { r with log := .refCntAlreadyZero d :: r.log }
  else
    let cnt := r.sndDevRefCnt d - 1
    { r with
      sndDevRefCnt := Function.update r.sndDevRefCnt d cnt
      log := if cnt = 0 then u.mixerList.foldl (resetOnCard outDevice d) r.log else r.log }

def Routing.disableSndDevice (r : Routing) (u : AudioUsecase) (d : SndDevice) : Routing :=
  if d = .outSpeakerAndHeadphones then
    (r.disableSingle u .outSpeaker).disableSingle u .outHeadphones
  else r.disableSingle u d

/-! ## 3. Switching usecases -/

/-- The device of the direction `check_and_route_usecases` looks at. -/
def AudioUsecase.sndDevice (u : AudioUsecase) (type : UsecaseType) : SndDevice :=
  if type = .pcmPlayback then u.outSndDevice else u.inSndDevice

def AudioUsecase.setSndDevice (u : AudioUsecase) (type : UsecaseType) (d : SndDevice) :
    AudioUsecase :=
  if type = .pcmPlayback then { u with outSndDevice := d } else { u with inSndDevice := d }

/-- The ids for which `switch_device` is set: of the other usecases of the type that are not on
`d`. -/
def Routing.switchedIds (r : Routing) (uc : Nat) (type : UsecaseType) (d : SndDevice) :
    List UsecaseId :=
  (r.usecaseList.zipIdx.filter fun (u, i) =>
    u.type = type ∧ i ≠ uc ∧ u.sndDevice type ≠ d).map (·.1.id)

/-- One round of the second loop of `check_and_route_usecases`. -/
def Routing.switchAt (ids : List UsecaseId) (type : UsecaseType) (d : SndDevice) (r : Routing)
    (i : Nat) : Routing :=
  match r.usecaseList[i]? with
  | none => r
  | some u =>
    if u.id ∈ ids then
      ((r.disableSndDevice u (u.sndDevice type)).enableSndDevice u d).modifyUsecase i
        (·.setSndDevice type d)
    else r

/-- The loops only change the usecases' devices, so both go over the places of the same list. -/
def Routing.checkAndRouteUsecases (r : Routing) (uc : Nat) (type : UsecaseType) (d : SndDevice) :
    Routing :=
  (List.range r.usecaseList.length).foldl (Routing.switchAt (r.switchedIds uc type d) type d) r

/-- The part of `select_devices` after the devices are chosen. -/
def Routing.switchDevices (r : Routing) (uc : Nat) (out input : SndDevice) : Routing :=
  match r.usecaseList[uc]? with
  | none => r
  | some u =>
    if out = u.outSndDevice ∧ input = u.inSndDevice then r
    else
      let r := if u.outSndDevice ≠ .none then r.disableSndDevice u u.outSndDevice else r
      let r := if u.inSndDevice ≠ .none then r.disableSndDevice u u.inSndDevice else r
      let r :=
        if out ≠ .none then (r.checkAndRouteUsecases uc .pcmPlayback out).enableSndDevice u out
        else r
      let r :=
        if input ≠ .none then (r.checkAndRouteUsecases uc .pcmCapture input).enableSndDevice u input
        else r
      r.modifyUsecase uc fun u => { u with inSndDevice := input, outSndDevice := out }

/-- `out_set_offload_parameters` for the usecase at `uc`. -/
def Routing.leaveSpeaker (r : Routing) (uc : Nat) : Routing :=
  match r.usecaseList[uc]? with
  | none => r
  | some u =>
    if u.outSndDevice = .outSpeakerAndHeadphones then
      (r.modifyUsecase uc (·.setSndDevice .pcmPlayback .outHeadphones)).disableSndDevice u .outSpeaker
    else r

/-! ## 4. Choosing the devices -/

namespace Settings

/-- `get_output_snd_device`. -/
def outputSndDevice (v : Settings) (r : Routing) (devices : AudioDevices) : SndDevice :=
  getOutputSndDevice v.mode (r.session.usesWideband v.bluetoothWb) devices

/-- The stream of the first capture or call usecase, read as an input stream. -/
def activeInputOf (v : Settings) (r : Routing) : Option InputView :=
  (r.getUsecaseFromType [.pcmCapture, .voiceCall]).map fun u => v.inputAt u.stream

/-- `get_input_snd_device`. -/
def inputSndDevice (v : Settings) (r : Routing) (outDevice : AudioDevices) : SndDevice :=
  getInputSndDevice v.mode r.session v.bluetoothWb (v.activeInputOf r) outDevice

/-- The output and input device of the call, which its other usecases share. -/
def callDevices (v : Settings) (r : Routing) : SndDevice × SndDevice :=
  if v.inCall then
    match r.usecaseList.find? (·.id = .voiceCall) with
    | some vc => (vc.outSndDevice, vc.inSndDevice)
    | none => (.none, .none)
  else (.none, .none)

/-- The microphone of a recording outside of a call. -/
def captureSndDevice (v : Settings) (r : Routing) : SndDevice :=
  match v.activeInputOf r, v.primaryActive with
  | some input, some out =>
    if input.source = .voiceCommunication then v.inputSndDevice r out.devices
    else v.inputSndDevice r AudioDevices.none
  | _, _ => v.inputSndDevice r AudioDevices.none

/-- The usecase `select_devices` selects for first when it is asked for `stream`: the recording of
a voice communication that goes with the primary output. -/
def selectsFirst (v : Settings) (r : Routing) (stream : StreamRef) : Option UsecaseId :=
  if v.primaryOutput.map StreamRef.output = some stream then
    ((v.activeInputOf r).filter (·.source = .voiceCommunication)).map (·.usecase)
  else none

/-- `select_devices`, less its status.  It calls itself for a usecase that it reads from
`activeInputOf`, which the call does not change: with `depth` calls used up it never returns. -/
def selectDevicesAt (v : Settings) : Nat → Routing → UsecaseId → Option Routing
  | 0, _, _ => none
  | depth + 1, r, id =>
    match r.getUsecaseFromId id with
    | none => some r
    | some uc =>
      match r.usecaseList[uc]? with
      | none => some r
      | some u =>
        let call := v.callDevices r
        let outDevices := v.outputDevicesAt u.stream
        match u.type with
        | .voiceCall =>
          let r := (r.setDevices uc outDevices).prepareSession outDevices
          r.switchDevices uc (v.outputSndDevice r outDevices) (v.inputSndDevice r outDevices)
        | .pcmPlayback =>
          let r := r.setDevices uc outDevices
          if call.1 ≠ .none then r.switchDevices uc call.1 .none
          else
            let out := v.outputSndDevice r outDevices
            match v.selectsFirst r u.stream with
            | some input => do
              let r ← selectDevicesAt v depth r input
              r.switchDevices uc out .none
            | none => r.switchDevices uc out .none
        | .pcmCapture =>
          let r := r.setDevices uc (v.inputAt u.stream).devices
          let input := if call.2 ≠ .none then call.2 else v.captureSndDevice r
          r.switchDevices uc .none input
        | .pcmCaptureLowLatency => r.switchDevices uc call.1 call.2

/-- A third level would be the second again, so two say whether the call returns. -/
def selectDevices (v : Settings) (r : Routing) (id : UsecaseId) : Option Routing :=
  v.selectDevicesAt 2 r id

end Settings

end Universal7870.Audio
