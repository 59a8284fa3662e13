import Mathlib.Logic.Basic
import Universal7870.Audio.Types

/-!
# Audio devices

The platform's device masks, the HAL's own sound devices and the table of PCM devices, with the
functions of `audio_hw.c` that only compare them.
-/

namespace Universal7870.Audio

/-- `audio_devices_t`: a mask of the platform's devices. -/
abbrev AudioDevices := BitVec 32

namespace AudioDevices

def none : AudioDevices := 0
def bitIn : AudioDevices := 0x80000000

def outEarpiece : AudioDevices := 0x1
def outSpeaker : AudioDevices := 0x2
def outWiredHeadset : AudioDevices := 0x4
def outWiredHeadphone : AudioDevices := 0x8
def outBluetoothSco : AudioDevices := 0x10
def outBluetoothScoHeadset : AudioDevices := 0x20
def outBluetoothScoCarkit : AudioDevices := 0x40
def outAllSco : AudioDevices := outBluetoothSco ||| outBluetoothScoHeadset ||| outBluetoothScoCarkit

def inCommunication : AudioDevices := bitIn ||| 0x1
def inBuiltinMic : AudioDevices := bitIn ||| 0x4
def inBluetoothScoHeadset : AudioDevices := bitIn ||| 0x8
def inWiredHeadset : AudioDevices := bitIn ||| 0x10
def inAuxDigital : AudioDevices := bitIn ||| 0x20
def inVoiceCall : AudioDevices := bitIn ||| 0x40
def inBackMic : AudioDevices := bitIn ||| 0x80

/-- The test `devices & mask` of the source. -/
def has (devices mask : AudioDevices) : Bool := devices &&& mask ≠ 0

def popcount (devices : AudioDevices) : Nat :=
  ((List.range 32).filter devices.getLsbD).length

end AudioDevices

/-- `audio_mode_t`. -/
inductive AudioMode
  | normal
  | ringtone
  | inCall
  | inCommunication
  deriving DecidableEq, Repr

/-- `snd_device_t`, in the order of `audio_hw.h`. -/
inductive SndDevice
  | none
  | outEarpiece
  | outSpeaker
  | outHeadphones
  | outSpeakerAndHeadphones
  | outVoiceEarpiece
  | outVoiceEarpieceWb
  | outVoiceSpeaker
  | outVoiceSpeakerWb
  | outVoiceHeadphones
  | outVoiceHeadphonesWb
  | outVoiceBtSco
  | outVoiceBtScoWb
  | outHdmi
  | outSpeakerAndHdmi
  | outBtSco
  | inEarpieceMic
  | inSpeakerMic
  | inHeadsetMic
  | inEarpieceMicAec
  | inSpeakerMicAec
  | inHeadsetMicAec
  | inVoiceMic
  | inVoiceEarpieceMic
  | inVoiceEarpieceMicWb
  | inVoiceSpeakerMic
  | inVoiceSpeakerMicWb
  | inVoiceHeadsetMic
  | inVoiceHeadsetMicWb
  | inVoiceBtScoMic
  | inVoiceBtScoMicWb
  | inHdmiMic
  | inBtScoMic
  | inCamcorderMic
  | inVoiceRecHeadsetMic
  | inVoiceRecMic
  deriving DecidableEq, Repr

/-- `SND_DEVICE_IN_BEGIN`, which is itself an input device. -/
def SndDevice.inBegin : SndDevice := .inEarpieceMic

/-- `usecase_type_t`. -/
inductive UsecaseType
  | pcmPlayback
  | pcmCapture
  | voiceCall
  | pcmCaptureLowLatency
  deriving DecidableEq, Repr

/-! ## 1. The PCM devices -/

/-- `struct pcm_device_profile`, less its `pcm_config`, which for a capture profile is `config`. -/
structure PcmDeviceProfile where
  card : Nat
  id : Nat
  type : UsecaseType
  devices : AudioDevices
  deriving DecidableEq, Repr

def soundCard : Nat := 0
def soundPlaybackDevice : Nat := 0
def soundCaptureDevice : Nat := 0

open AudioDevices in
def pcmDevicePlayback : PcmDeviceProfile where
  card := soundCard
  id := soundPlaybackDevice
  type := .pcmPlayback
  devices := outWiredHeadset ||| outWiredHeadphone ||| outSpeaker ||| outEarpiece ||| outAllSco

open AudioDevices in
def pcmDeviceCapture : PcmDeviceProfile where
  card := soundCard
  id := soundCaptureDevice
  type := .pcmCapture
  devices := inBuiltinMic ||| inWiredHeadset ||| inBackMic ||| inBluetoothScoHeadset

def pcmDeviceCaptureLowLatency : PcmDeviceProfile :=
  { pcmDeviceCapture with type := .pcmCaptureLowLatency }

/-- The members of `struct pcm_config` that an input stream works with. -/
structure PcmConfig where
  channels : Nat
  rate : Nat
  periodSize : Nat
  deriving DecidableEq, Repr

def captureDefaultChannelCount : Nat := 2
def captureDefaultSamplingRate : Nat := 48000
def capturePeriodSize : Nat := 1024
def capturePeriodSizeLowLatency : Nat := 256

/-- The `config` of the capture profiles. -/
def PcmDeviceProfile.config (profile : PcmDeviceProfile) : PcmConfig where
  channels := captureDefaultChannelCount
  rate := captureDefaultSamplingRate
  periodSize :=
    if profile.type = .pcmCaptureLowLatency then capturePeriodSizeLowLatency else capturePeriodSize

def pcmDevices : List PcmDeviceProfile :=
  [pcmDevicePlayback, pcmDeviceCapture, pcmDeviceCaptureLowLatency]

def getPcmDevice (type : UsecaseType) (devices : AudioDevices) : Option PcmDeviceProfile :=
  pcmDevices.find? fun p => p.type = type ∧ (devices &&& ~~~AudioDevices.bitIn).has p.devices

/-- The profiles `uc_select_pcm_devices` goes through: the first that matches what is left of the
mask, until none does.  A profile clears its own bits, so it is met once, in the table's order. -/
def selectPcmProfiles (type : UsecaseType) (devices : AudioDevices) : List PcmDeviceProfile :=
  (pcmDevices.foldl (fun (found, left) p =>
    if p.type = type ∧ (left &&& ~~~AudioDevices.bitIn).has p.devices then
      (found ++ [p], left &&& ~~~p.devices)
    else (found, left)) ([], devices)).1

/-! ## 2. The voice session -/

/-- What `struct voice_session` says about the devices of a call. -/
structure VoiceSession where
  outDevice : AudioDevices
  twoMicControl : Bool
  twoMicDisabled : Bool
  wbAmrType : Int
  deriving DecidableEq, Repr

def prepareVoiceSession (session : VoiceSession) (activeOutDevices : AudioDevices) :
    VoiceSession :=
  { session with
    outDevice := activeOutDevices
    twoMicControl := !session.twoMicDisabled &&
      (activeOutDevices = AudioDevices.outEarpiece ∨ activeOutDevices = AudioDevices.outSpeaker) }

def VoiceSession.usesTwomic (session : VoiceSession) : Bool :=
  !session.twoMicDisabled && session.twoMicControl

def VoiceSession.usesWideband (session : VoiceSession) (bluetoothWb : Bool) : Bool :=
  if session.outDevice.has AudioDevices.outAllSco then bluetoothWb else session.wbAmrType ≥ 1

/-! ## 3. From the platform's devices to sound devices -/

open AudioDevices in
/-- The device of a call, where `wideband` is `voice_session_uses_wideband`. -/
def getVoiceOutputSndDevice (wideband : Bool) (devices : AudioDevices) : SndDevice :=
  if devices.has outWiredHeadphone ∨ devices.has outWiredHeadset then
    if wideband then .outVoiceHeadphonesWb else .outVoiceHeadphones
  else if devices.has outAllSco then
    if wideband then .outVoiceBtScoWb else .outVoiceBtSco
  else if devices.has outSpeaker then
    if wideband then .outVoiceSpeakerWb else .outVoiceSpeaker
  else if devices.has outEarpiece then
    if wideband then .outVoiceEarpieceWb else .outVoiceEarpiece
  else .none

open AudioDevices in
def getMediaOutputSndDevice (devices : AudioDevices) : SndDevice :=
  if devices.popcount = 2 then
    if devices = outWiredHeadphone ||| outSpeaker ∨ devices = outWiredHeadset ||| outSpeaker then
      .outSpeakerAndHeadphones
    else .none
  else if devices.popcount ≠ 1 then .none
  else if devices.has outWiredHeadphone ∨ devices.has outWiredHeadset then .outHeadphones
  else if devices.has outSpeaker then .outSpeaker
  else if devices.has outAllSco then .outBtSco
  else if devices.has outEarpiece then .outEarpiece
  else .none

def getOutputSndDevice (mode : AudioMode) (wideband : Bool) (devices : AudioDevices) : SndDevice :=
  if devices = AudioDevices.none ∨ devices.has AudioDevices.bitIn then .none
  else if mode = .inCall ∧ getVoiceOutputSndDevice wideband devices ≠ .none then
    getVoiceOutputSndDevice wideband devices
  else getMediaOutputSndDevice devices

/-- What the HAL reads of an input stream through a `stream_in` pointer to choose its devices. -/
structure InputView where
  source : AudioSource
  devices : AudioDevices
  enableAec : Bool
  usecase : UsecaseId
  deriving DecidableEq, Repr

open AudioDevices in
/-- The microphone of a call. -/
def getVoiceInputSndDevice (session : VoiceSession) (bluetoothWb : Bool)
    (outDevice : AudioDevices) : SndDevice :=
  let wideband := session.usesWideband bluetoothWb
  let besideMouth := outDevice.has outEarpiece ∨ outDevice.has outWiredHeadphone
  if outDevice.has outAllSco then
    if wideband then .inVoiceBtScoMicWb else .inVoiceBtScoMic
  else if wideband ∧ session.usesTwomic ∧ besideMouth then .inVoiceEarpieceMicWb
  else if wideband ∧ session.usesTwomic ∧ outDevice.has outSpeaker then .inVoiceSpeakerMicWb
  else if wideband ∧ outDevice.has outWiredHeadset then .inVoiceHeadsetMicWb
  else if session.usesTwomic ∧ besideMouth then .inVoiceEarpieceMic
  else if session.usesTwomic ∧ outDevice.has outSpeaker then .inVoiceSpeakerMic
  else if outDevice.has outWiredHeadset then .inVoiceHeadsetMic
  else .inVoiceMic

open AudioDevices in
/-- The microphone the source of the recording asks for, `none` where it leaves the choice to the
devices. -/
def getSourceInputSndDevice (input : InputView) (inDevice outDevice : AudioDevices) : SndDevice :=
  match input.source with
  | .camcorder =>
    if inDevice.has inBuiltinMic ∨ inDevice.has inBackMic then .inCamcorderMic else .none
  | .voiceRecognition =>
    if inDevice.has inBuiltinMic then .inVoiceRecMic
    else if inDevice.has inWiredHeadset then .inVoiceRecHeadsetMic
    else .none
  | .voiceCommunication | .mic =>
    if ¬input.enableAec then .none
    else if inDevice.has inBackMic then .inSpeakerMicAec
    else if inDevice.has inBuiltinMic then
      if outDevice.has outWiredHeadphone then .inSpeakerMicAec else .inEarpieceMicAec
    else if inDevice.has inWiredHeadset then .inHeadsetMicAec
    else .none
  | _ => .none

open AudioDevices in
/-- The microphone when the source does not decide: by the input device if there is a usable one,
else by the output device. -/
def getDefaultInputSndDevice (inDevice outDevice : AudioDevices) : SndDevice :=
  if inDevice ≠ AudioDevices.none ∧ ¬inDevice.has inVoiceCall ∧ ¬inDevice.has inCommunication then
    if inDevice.has inBuiltinMic then .inEarpieceMic
    else if inDevice.has inBackMic then .inSpeakerMic
    else if inDevice.has inWiredHeadset then .inHeadsetMic
    else if inDevice.has inBluetoothScoHeadset then .inBtScoMic
    else if inDevice.has inAuxDigital then .inHdmiMic
    else .inEarpieceMic
  else
    if outDevice.has outEarpiece then .inEarpieceMic
    else if outDevice.has outWiredHeadset then .inHeadsetMic
    else if outDevice.has outSpeaker then .inSpeakerMic
    else if outDevice.has outWiredHeadphone then .inEarpieceMic
    else if outDevice.has outBluetoothScoHeadset then .inBtScoMic
    else .inEarpieceMic

open AudioDevices hiding none in
/-- `get_input_snd_device`; `activeInput` is the stream of the first capture or call usecase. -/
def getInputSndDevice (mode : AudioMode) (session : VoiceSession) (bluetoothWb : Bool)
    (activeInput : Option InputView) (outDevice : AudioDevices) : SndDevice :=
  if mode = .inCall then
    if outDevice = AudioDevices.none then .none
    else getVoiceInputSndDevice session bluetoothWb outDevice
  else
    match activeInput with
    | none => .none
    | some input =>
      if input.source = .default then .none
      else
        -- the speaker moves the recording to the microphone away from it
        let inDevice :=
          if input.source.followsOutput ∧ outDevice.has outSpeaker then inBackMic
          else input.devices &&& ~~~bitIn
        if getSourceInputSndDevice input inDevice outDevice ≠ .none then
          getSourceInputSndDevice input inDevice outDevice
        else getDefaultInputSndDevice inDevice outDevice

end Universal7870.Audio
