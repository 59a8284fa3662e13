import Universal7870.Audio.CaptureStream
import Universal7870.Audio.ListedUsecases

/-!
# Opening and closing streams

`adev_open_output_stream`, `adev_open_input_stream` and their counterparts.  A stream is named by
its allocation, which may be used again once the stream is freed.
-/

namespace Universal7870.Audio

open Lib

/-- `struct audio_device` and the streams that were opened and not closed since then. -/
structure AudioDevice where
  hal : Hal
  outOpen : OutId → Bool
  inOpen : InId → Bool

/-- The arguments of `adev_open_output_stream` and what its allocations give. -/
structure OutputConfig where
  alloc : Bool
  devices : AudioDevices
  /-- The flags `PRIMARY`, `COMPRESS_OFFLOAD` and `DEEP_BUFFER`. -/
  primary : Bool
  compressOffload : Bool
  deepBuffer : Bool
  /-- `offload_info` has the version and the size that are expected, and a supported format. -/
  offloadInfo : Bool
  supportedFormat : Bool
  codec : Bool
  deriving DecidableEq, Repr

/-- The usecase that the flags choose. -/
def OutputConfig.usecase (c : OutputConfig) : UsecaseId :=
  if c.compressOffload then .audioPlaybackOffload
  else if c.deepBuffer then .audioPlaybackDeepBuffer
  else .audioPlayback

theorem OutputConfig.usecase_isOutput (c : OutputConfig) : c.usecase.isOutput = true := by
  unfold OutputConfig.usecase
  split
  · rfl
  · split <;> rfl

/-- The device of a stream that is opened for none. -/
def OutputConfig.outDevices (c : OutputConfig) : AudioDevices :=
  if c.devices = AudioDevices.none then AudioDevices.outSpeaker else c.devices

/-- The status of the checks on the arguments: `-EINVAL`, `-ENOMEM` or 0. -/
def OutputConfig.check (c : OutputConfig) : Int :=
  if getPcmDevice .pcmPlayback c.outDevices = none then -22
  else if c.compressOffload ∧ (¬c.offloadInfo ∨ ¬c.supportedFormat) then -22
  else if c.compressOffload ∧ ¬c.codec then -12
  else 0

def OutputConfig.stream (c : OutputConfig) : StreamOut :=
  { Hal.openedOut c.usecase c.usecase_isOutput with devices := c.outDevices }

/-- The arguments of `adev_open_input_stream` and what its allocation gives. -/
structure InputConfig where
  sampleRate : Nat
  pcm16Bit : Bool
  channelCount : Nat
  devices : AudioDevices
  /-- The flag `FAST`. -/
  fast : Bool
  source : AudioSource
  alloc : Bool
  deriving DecidableEq, Repr

/-- A low latency profile is looked for first, for a fast stream. -/
def InputConfig.usecaseType (c : InputConfig) : UsecaseType :=
  if c.fast ∧ getPcmDevice .pcmCaptureLowLatency c.devices ≠ none then .pcmCaptureLowLatency
  else .pcmCapture

def InputConfig.check (c : InputConfig) : Int :=
  if ¬checkInputParameters c.sampleRate c.pcm16Bit c.channelCount then -22
  else if getPcmDevice c.usecaseType c.devices = none then -22
  else if ¬c.alloc then -12
  else 0

def InputConfig.stream (c : InputConfig) : StreamIn :=
  { Hal.openedIn with
    usecaseType := c.usecaseType
    source := c.source
    devices := c.devices
    requestedRate := c.sampleRate
    configRate := captureDefaultSamplingRate }

namespace AudioDevice

/-! ## 1. The code -/

/-- The memory of an output stream reads as `freed` once it is given back. -/
def freeOut (d : AudioDevice) (o : OutId) (freed : StreamOut) : AudioDevice :=
  { d with
    hal := d.hal.modifyOut o fun _ => freed
    outOpen := Function.update d.outOpen o false }

def freeIn (d : AudioDevice) (i : InId) (freed : StreamIn) : AudioDevice :=
  { d with
    hal := d.hal.modifyIn i fun _ => freed
    inOpen := Function.update d.inOpen i false }

/-- `adev_open_output_stream`.  The primary output is set before the last check, and left as it is
where that fails. -/
def openOutputStream (d : AudioDevice) (o : OutId) (c : OutputConfig) (freed : StreamOut) :
    Int × AudioDevice :=
  if ¬c.alloc then (-12, d)
  else if c.check ≠ 0 then (c.check, d.freeOut o freed)
  else if c.primary ∧ d.hal.primaryOutput ≠ none then (-17, d.freeOut o freed)
  else
    let d := if c.primary then { d with hal.primaryOutput := some o } else d
    if d.hal.routing.getUsecaseFromId c.usecase ≠ none then (-17, d.freeOut o freed)
    else (0, { d with
      hal := d.hal.modifyOut o fun _ => c.stream
      outOpen := Function.update d.outOpen o true })

/-- `adev_close_output_stream`. -/
def closeOutputStream (d : AudioDevice) (o : OutId) (freed : StreamOut) : AudioDevice :=
  { d with hal := d.hal.outStandby o }.freeOut o freed

/-- `adev_open_input_stream`. -/
def openInputStream (d : AudioDevice) (i : InId) (c : InputConfig) : Int × AudioDevice :=
  if c.check ≠ 0 then (c.check, d)
  else (0, { d with
    hal := d.hal.modifyIn i fun _ => c.stream
    inOpen := Function.update d.inOpen i true })

/-- `adev_close_input_stream`. -/
def closeInputStream (d : AudioDevice) (i : InId) (freed : StreamIn) : AudioDevice :=
  { d with hal := d.hal.doInStandby i }.freeIn i freed

end AudioDevice

/-! ## 2. Runs -/

/-- The input an operation is for. -/
def Hal.Op.input : Hal.Op → Option InId
  | .inStart i _ | .inRead i | .inStandby i | .inSetParameters i _ _ | .addAudioEffect i _ _
  | .removeAudioEffect i _ => some i
  | _ => none

/-- A stream is opened or closed, or an operation is called. -/
inductive DeviceOp
  | openOutput (o : OutId) (c : OutputConfig) (freed : StreamOut)
  | closeOutput (o : OutId) (freed : StreamOut)
  | openInput (i : InId) (c : InputConfig)
  | closeInput (i : InId) (freed : StreamIn)
  | call (op : Hal.Op)

namespace AudioDevice

/-- The streams an operation is for are open. -/
def Calls (d : AudioDevice) (op : Hal.Op) : Prop :=
  (∀ o ∈ op.output, d.outOpen o = true) ∧ ∀ i ∈ op.input, d.inOpen i = true

instance (d : AudioDevice) (op : Hal.Op) : Decidable (d.Calls op) :=
  inferInstanceAs (Decidable (_ ∧ _))

/-- A stream's memory is in use from its opening to its closing, and a stream is called in between
only. -/
def step (d : AudioDevice) : DeviceOp → Option AudioDevice
  | .openOutput o c freed => if d.outOpen o then none else some (d.openOutputStream o c freed).2
  | .closeOutput o freed => if d.outOpen o then some (d.closeOutputStream o freed) else none
  | .openInput i c => if d.inOpen i then none else some (d.openInputStream i c).2
  | .closeInput i freed => if d.inOpen i then some (d.closeInputStream i freed) else none
  | .call op => if d.Calls op then (d.hal.step op).map ({ d with hal := · }) else none

/-- The device after `adev_open`: no stream was opened. -/
structure Start (d : AudioDevice) : Prop where
  hal : d.hal.Start
  primaryOutput : d.hal.primaryOutput = none
  outOpen : ∀ o, d.outOpen o = false
  inOpen : ∀ i, d.inOpen i = false

def Reaches (d₀ : AudioDevice) (ops : List DeviceOp) (d : AudioDevice) : Prop :=
  Start d₀ ∧ Exec (guarded step) d₀ ops d

/-- What is listed stays in order when streams are opened and closed. -/
theorem step_listed {d d' : AudioDevice} {op : DeviceOp} (hl : d.hal.Listed)
    (hstep : d.step op = some d') : d'.hal.Listed := by
  cases op with
  | openOutput o c freed =>
    have hsame : (d.openOutputStream o c freed).2.hal.routing = d.hal.routing ∧
        (d.openOutputStream o c freed).2.hal.inCall = d.hal.inCall := by
      unfold openOutputStream
      split
      · exact ⟨rfl, rfl⟩
      split
      · exact ⟨rfl, rfl⟩
      split
      · exact ⟨rfl, rfl⟩
      dsimp only
      split <;> split <;> exact ⟨rfl, rfl⟩
    simp only [step] at hstep
    split at hstep
    · cases hstep
    · obtain rfl := Option.some.inj hstep
      exact hl.of_kinds (by rw [hsame.1]) hsame.2
  | closeOutput o freed =>
    simp only [step] at hstep
    split at hstep
    · obtain rfl := Option.some.inj hstep
      have hstandby : (d.hal.outStandby o).Listed := Hal.listed_on.outStandby d.hal trivial hl
      exact hstandby.of_kinds rfl rfl
    · cases hstep
  | openInput i c =>
    simp only [step] at hstep
    split at hstep
    · cases hstep
    · obtain rfl := Option.some.inj hstep
      unfold openInputStream
      split
      · exact hl
      · exact hl.of_kinds rfl rfl
  | closeInput i freed =>
    simp only [step] at hstep
    split at hstep
    · obtain rfl := Option.some.inj hstep
      have hstandby : (d.hal.doInStandby i).Listed := Hal.listed_on.doInStandby d.hal i hl
      exact hstandby.of_kinds rfl rfl
    · cases hstep
  | call op =>
    simp only [step] at hstep
    split at hstep
    · obtain ⟨h', hcall, rfl⟩ := Option.map_eq_some_iff.mp hstep
      exact Hal.listed_closed.step (fun _ _ => trivial) hcall hl
    · cases hstep

theorem Reaches.listed {d₀ d : AudioDevice} {ops : List DeviceOp} (hrun : Reaches d₀ ops d) :
    d.hal.Listed := by
  have hpreserved : ∀ (d : AudioDevice) (op : DeviceOp) (d' : AudioDevice), d.hal.Listed →
      guarded step d op d' → d'.hal.Listed := fun _ _ _ hl hstep => step_listed hl hstep
  exact hrun.2.invariant hpreserved (Hal.start_listed hrun.1.hal)

/-- A device that was just opened. -/
def fresh (offloadFx : Bool) : AudioDevice where
  hal := { Hal.opened offloadFx with primaryOutput := none }
  outOpen _ := false
  inOpen _ := false

theorem fresh_start (offloadFx : Bool) : Start (fresh offloadFx) where
  hal := by
    have hstart := Hal.opened_start offloadFx
    exact ⟨hstart.usecaseList, hstart.sndDevRefCnt, hstart.routeLog, hstart.activeInput,
      hstart.inCall, hstart.echo, hstart.outs, hstart.ins⟩
  primaryOutput := rfl
  outOpen _ := rfl
  inOpen _ := rfl

end AudioDevice

end Universal7870.Audio
