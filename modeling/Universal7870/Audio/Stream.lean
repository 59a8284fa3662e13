import Mathlib.Logic.Function.Basic
import Universal7870.Audio.Devices

/-!
# Streams of the audio HAL

`struct stream_out` and `struct stream_in` as far as routing, offload playback and the echo
reference need them, and the fields of `struct audio_device` that choose the devices.
-/

namespace Universal7870.Audio

/-- The usecases `adev_open_output_stream` gives a stream. -/
def UsecaseId.isOutput : UsecaseId → Bool
  | .audioPlayback | .audioPlaybackOffload | .audioPlaybackDeepBuffer => true
  | _ => false

/-- `struct pcm_device`; `pcm` says whether its handle is open. -/
structure PcmDevice where
  pcmProfile : PcmDeviceProfile
  pcm : Bool
  deriving DecidableEq, Repr

/-- An open handle of the compress driver: started since it was opened or last stopped, and paused
since then. -/
structure Compress where
  started : Bool
  paused : Bool
  deriving DecidableEq, Repr

/-- The commands the callbacks leave for the offload thread. -/
inductive OffloadCmd
  | drain
  | partialDrain
  | waitForBuffer
  deriving DecidableEq, Repr

/-- An `echo_reference_itfe` object, by the order of their creation. -/
abbrev EchoRef := Nat

/-- Streams are named by the number of their allocation. -/
abbrev OutId := Nat
abbrev InId := Nat

structure StreamOut where
  usecase : UsecaseId
  devices : AudioDevices
  standby : Bool
  pcmDevList : List PcmDevice
  compr : Option Compress
  offloadState : OffloadState
  sendNewMetadata : Bool
  offloadCmdList : List OffloadCmd
  echoReference : Option EchoRef
  echoReferenceGeneration : BitVec 32
  usecase_isOutput : usecase.isOutput = true

def StreamOut.isOffload (out : StreamOut) : Prop := out.usecase = .audioPlaybackOffload

instance (out : StreamOut) : Decidable out.isOffload :=
  inferInstanceAs (Decidable (out.usecase = .audioPlaybackOffload))

structure StreamIn where
  usecase : UsecaseId
  usecaseType : UsecaseType
  source : AudioSource
  devices : AudioDevices
  enableAec : Bool
  requestedRate : Nat
  /-- `config.rate`. -/
  configRate : Nat
  auxChannelsChanged : Bool
  standby : Bool
  pcmDevList : List PcmDevice
  echoReference : Option EchoRef
  usecase_eq : usecase = .audioCapture

def StreamIn.view (s : StreamIn) : InputView where
  source := s.source
  devices := s.devices
  enableAec := s.enableAec
  usecase := s.usecase

/-- The untyped `stream` pointer of a usecase. -/
inductive StreamRef
  | output (o : OutId)
  | input (i : InId)
  deriving DecidableEq, Repr

/-- The streams and the settings that the choice of a sound device reads.

A usecase's `stream` is cast without a check.  `asInput` is what the memory of an output stream
reads as through a `stream_in` pointer, `asOutput` what the memory of an input stream gives for
`devices` through a `stream_out` pointer. -/
structure Settings where
  mode : AudioMode
  inCall : Bool
  bluetoothWb : Bool
  primaryOutput : Option OutId
  outs : OutId → StreamOut
  ins : InId → StreamIn
  asInput : StreamOut → InputView
  asOutput : StreamIn → AudioDevices

namespace Settings

/-- `(struct stream_in *) usecase->stream`. -/
def inputAt (v : Settings) : StreamRef → InputView
  | .output o => v.asInput (v.outs o)
  | .input i => (v.ins i).view

/-- `((struct stream_out *) usecase->stream)->devices`. -/
def outputDevicesAt (v : Settings) : StreamRef → AudioDevices
  | .output o => (v.outs o).devices
  | .input i => v.asOutput (v.ins i)

/-- `adev->primary_output && !adev->primary_output->standby`. -/
def primaryActive (v : Settings) : Option StreamOut :=
  (v.primaryOutput.map v.outs).filter (!·.standby)

end Settings

end Universal7870.Audio
