import Universal7870.Lib.Processes
import Universal7870.Audio.LockOrder
import Universal7870.Audio.OpenStreams

/-!
# Forcing an input to standby

`out_write` and `out_set_parameters` choose the active input under `adev->lock`, and put it to
standby once they have taken its locks.  They and the callbacks of the input streams are code over
the mutexes of the HAL; what is done under the locks is one action on the device.
-/

namespace Universal7870.Audio

open Lib

/-- What the calls of `out_write` give: whether the stream starts and what it writes, and whether
`pcm_write` fails. -/
structure OutputWrite where
  alloc : Hal.PathAlloc
  ready : Bool
  offload : Hal.OffloadWrite
  pcmFails : Bool
  deriving DecidableEq, Repr

/-- What the calls of `in_read` give. -/
structure InputRead where
  start : Hal.InputStart
  readFrames : Bool
  deriving DecidableEq, Repr

inductive HalAct
  | testOut (o : OutId) (w : OutputWrite)
  | retestOut (o : OutId) (w : OutputWrite)
  | startOutputStream (o : OutId) (w : OutputWrite)
  | outWriteData (o : OutId) (w : OutputWrite) (input : Option InId)
  | syncEcho (o : OutId)
  | pcmWrite (o : OutId) (w : OutputWrite) (input : Option InId)
  | outWriteOffload (o : OutId) (w : OutputWrite)
  | enableOutputPath (o : OutId) (w : OutputWrite)
  | writeCompress (o : OutId) (w : OutputWrite)
  | outStandby (o : OutId)
  | doOutStandby (o : OutId)
  | outSetRouting (o : OutId) (val : AudioDevices) (allocated : Bool)
  /-- `LOG_ALWAYS_FATAL_IF(in != adev->active_input)`. -/
  | assertActive (i : InId)
  | doInStandby (i : InId)
  | testIn (i : InId) (r : InputRead)
  | retestIn (i : InId) (r : InputRead)
  | startInputStream (i : InId) (r : InputRead)
  | setActive (i : InId)
  | readFrames (i : InId) (r : InputRead)
  | inStandbyL (i : InId)
  | inSetParameters (i : InId) (source : Option AudioSource) (routing : Option AudioDevices)
  | addAudioEffect (i : InId) (aec auxChanged : Bool)
  | removeAudioEffect (i : InId) (aec : Bool)
  | freeInput (i : InId) (freed : StreamIn)
  /-- A call on an input stream returns. -/
  | leave (i : InId)

/-- The device, the input streams that the framework has and did not ask to close, and the threads
that are in a call on each. -/
structure SharedDevice (T : Type) where
  dev : AudioDevice
  known : InId → Bool
  callers : InId → List T

namespace SharedDevice

variable {T : Type}

abbrev Code := List (Instr HalMutex HalAct)

def setHal (s : SharedDevice T) (h : Hal) : SharedDevice T := { s with dev.hal := h }

/-! ## 1. The code -/

def lockInputStream (i : InId) : Code :=
  [.acquire (.inPreLock i), .acquire (.inLock i), .release (.inPreLock i)]

def lockOutputStream (o : OutId) : Code :=
  [.acquire (.outPreLock o), .acquire (.outLock o), .release (.outPreLock o)]

def standbyOut (o : OutId) : Code :=
  lockOutputStream o ++ [.act (.outStandby o), .release (.outLock o)]

/-- `in_standby_l`. -/
def standbyInL (i : InId) : Code :=
  lockInputStream i ++ [.act (.inStandbyL i), .release (.inLock i)]

def standbyIn (i : InId) : Code :=
  [.acquire .lockInputs] ++ standbyInL i ++ [.release .lockInputs]

/-- The chosen input is put to standby. -/
def forceStandby (i : InId) : Code :=
  lockInputStream i ++ [.acquire .adevLock, .act (.assertActive i), .act (.doInStandby i),
    .release .adevLock, .release (.inLock i)]

/-- The end of `out_write`, where `lock_inputs` is locked iff there is an input. -/
def forceChosen : Option InId → Code
  | some i => forceStandby i ++ [.release .lockInputs]
  | none => []

/-- `out_write` from its label `exit` on. -/
def outWriteExit (o : OutId) (input : Option InId) (fails : Bool) : Code :=
  [.release (.outLock o)] ++ (if fails then standbyOut o else []) ++ forceChosen input

/-- `in_read` from its label `exit` on. -/
def readExit (i : InId) (successful : Bool) : Code :=
  [.release (.inLock i)] ++ (if successful then [] else standbyIn i) ++ [.act (.leave i)]

/-- A callback that does its work under all the locks of an input. -/
def underInput (i : InId) (a : HalAct) : Code :=
  [.acquire .lockInputs] ++ lockInputStream i ++ [.acquire .adevLock, .act a, .release .adevLock,
    .release (.inLock i), .release .lockInputs, .act (.leave i)]

/-- The active input, if it records what an output stream may disturb. -/
def chooseInput (h : Hal) : Option InId :=
  h.activeInput.filter fun i => (h.ins i).source.followsOutput

/-- What an action does to the device, and the code it goes on with. -/
def act [DecidableEq T] (t : T) : HalAct → SharedDevice T → Option (SharedDevice T × Code)
  | .testOut o w, s => some (s,
      if (s.dev.hal.outs o).standby then
        [.release (.outLock o), .acquire .lockInputs] ++ lockOutputStream o ++
          [.act (.retestOut o w)]
      else [.act (.outWriteData o w none)])
  | .retestOut o w, s => some (s,
      if (s.dev.hal.outs o).standby then [.acquire .adevLock, .act (.startOutputStream o w)]
      else [.release .lockInputs, .act (.outWriteData o w none)])
  | .startOutputStream o w, s =>
    (s.dev.hal.startOutputStream o w.alloc w.ready).map fun (ok, h) =>
      if ok then
        let h := h.modifyOut o ({ · with standby := false })
        (s.setHal h, [.release .adevLock] ++
          (if chooseInput h = none then [.release .lockInputs] else []) ++
            [.act (.outWriteData o w (chooseInput h))])
      else (s.setHal h, [.release .adevLock, .release .lockInputs] ++ outWriteExit o none true)
  | .outWriteData o w input, s =>
    let out := s.dev.hal.outs o
    some (s,
      if out.isOffload then [.act (.outWriteOffload o w)]
      else (if out.echoReferenceGeneration ≠ s.dev.hal.echo.generation then
          [.acquire .adevLock, .act (.syncEcho o), .release .adevLock] else []) ++
        [.act (.pcmWrite o w input)])
  | .syncEcho o, s => some (s.setHal
      ((s.dev.hal.releaseEchoReference (s.dev.hal.outs o).echoReference).pickUpEcho o), [])
  | .pcmWrite o w input, s =>
    some (s.setHal ((s.dev.hal.outs o).pcmDevList.foldl (·.writeEcho o ·) s.dev.hal),
      outWriteExit o input w.pcmFails)
  | .outWriteOffload o w, s => some (s,
      if (s.dev.hal.outs o).offloadState = .pausedFlushed then
        [.acquire .adevLock, .act (.enableOutputPath o w)]
      else [.act (.writeCompress o w)])
  | .enableOutputPath o w, s =>
    (s.dev.hal.enableOutputPath o w.offload.alloc).map fun (ok, h) =>
      (s.setHal h, [.release .adevLock] ++ if ok then [.act (.writeCompress o w)] else [])
  | .writeCompress o w, s => (s.dev.hal.writeCompress o w.offload).map fun h =>
      (s.setHal h, [.release (.outLock o)])
  | .outStandby o, s => some (s,
      if (s.dev.hal.outs o).standby then []
      else [.acquire .adevLock, .act (.doOutStandby o), .release .adevLock])
  | .doOutStandby o, s => some (s.setHal (s.dev.hal.doOutStandby o), [])
  | .outSetRouting o val allocated, s =>
    let out := s.dev.hal.outs o
    let input :=
      if out.devices ≠ val ∧ val ≠ AudioDevices.none ∧ ¬out.standby ∧ out.usecase = .audioPlayback then
        chooseInput s.dev.hal
      else none
    (s.dev.hal.outSetRouting o val allocated).map fun h =>
      (s.setHal h, [.release .adevLock, .release (.outLock o)] ++
        (match input with
          | some i => forceStandby i
          | none => []) ++ [.release .lockInputs])
  -- the process is aborted
  | .assertActive i, s => if s.dev.hal.activeInput = some i then some (s, []) else none
  | .doInStandby i, s => some (s.setHal (s.dev.hal.doInStandby i), [])
  | .testIn i r, s => some (s,
      if (s.dev.hal.ins i).standby then
        [.release (.inLock i), .acquire .lockInputs] ++ lockInputStream i ++ [.act (.retestIn i r)]
      else [.act (.readFrames i r)])
  | .retestIn i r, s => some (s,
      if (s.dev.hal.ins i).standby then [.acquire .adevLock, .act (.startInputStream i r)]
      else [.release .lockInputs, .act (.readFrames i r)])
  | .startInputStream i r, s => (s.dev.hal.startInputStream i r.start).map fun (status, h) =>
      (s.setHal h, [.release .adevLock, .release .lockInputs] ++
        if status = 0 then [.act (.setActive i), .act (.readFrames i r)] else readExit i false)
  | .setActive i, s => some (s.setHal (s.dev.hal.modifyIn i ({ · with standby := false })), [])
  | .readFrames i r, s =>
    if (s.dev.hal.ins i).pcmDevList = [] then some (s, readExit i false)
    else some (s.setHal (s.dev.hal.useEchoReference (s.dev.hal.ins i).echoReference),
      readExit i r.readFrames)
  | .inStandbyL i, s => some (s,
      if (s.dev.hal.ins i).standby then []
      else [.acquire .adevLock, .act (.doInStandby i), .release .adevLock])
  | .inSetParameters i source routing, s =>
    (s.dev.hal.inSetParameters i source routing).map fun h => (s.setHal h, [])
  | .addAudioEffect i aec auxChanged, s =>
    (s.dev.hal.addAudioEffect i aec auxChanged).map fun h => (s.setHal h, [])
  | .removeAudioEffect i aec, s =>
    (s.dev.hal.removeAudioEffect i aec).map fun h => (s.setHal h, [])
  | .freeInput i freed, s =>
    some ({ s with dev := s.dev.freeIn i freed }, [])
  | .leave i, s => some ({ s with
      callers := Function.update s.callers i ((s.callers i).filter (· ≠ t)) }, [])

/-! ## 2. Calls -/

inductive Call
  | outWrite (o : OutId) (w : OutputWrite)
  | outSetParameters (o : OutId) (val : AudioDevices) (allocated : Bool)
  | inRead (i : InId) (r : InputRead)
  | inStandby (i : InId)
  | inSetParameters (i : InId) (source : Option AudioSource) (routing : Option AudioDevices)
  | addAudioEffect (i : InId) (aec auxChanged : Bool)
  | removeAudioEffect (i : InId) (aec : Bool)
  | adevOpenInputStream (i : InId) (c : InputConfig)
  | adevCloseInputStream (i : InId) (freed : StreamIn)

/-- The callbacks of an input stream. -/
def inputCode : Call → Option (InId × Code)
  | .inRead i r => some (i, lockInputStream i ++ [.act (.testIn i r)])
  | .inStandby i => some (i, standbyIn i ++ [.act (.leave i)])
  | .inSetParameters i source routing => some (i, underInput i (.inSetParameters i source routing))
  | .addAudioEffect i aec auxChanged => some (i, underInput i (.addAudioEffect i aec auxChanged))
  | .removeAudioEffect i aec => some (i, underInput i (.removeAudioEffect i aec))
  | .outWrite .. | .outSetParameters .. | .adevOpenInputStream .. | .adevCloseInputStream .. => none

def closeCode (i : InId) (freed : StreamIn) : Code :=
  [.acquire .lockInputs] ++ standbyInL i ++ [.act (.freeInput i freed), .release .lockInputs]

/-- A stream is called between its opening and its closing, and closed when no call on it is left:
the contract that `in_read` relies on. -/
def enter (t : T) (call : Call) (s : SharedDevice T) : Option (SharedDevice T × Code) :=
  match call with
  | .outWrite o w => some (s, lockOutputStream o ++ [.act (.testOut o w)])
  | .outSetParameters o val allocated => some (s, [.acquire .lockInputs] ++ lockOutputStream o ++
      [.acquire .adevLock, .act (.outSetRouting o val allocated)])
  | .adevOpenInputStream i c =>
    if s.dev.inOpen i then none
    else some ({ s with
      dev := (s.dev.openInputStream i c).2
      known := Function.update s.known i (c.check = 0) }, [])
  | .adevCloseInputStream i freed =>
    if s.known i = true ∧ (s.callers i).isEmpty then
      some ({ s with known := Function.update s.known i false }, closeCode i freed)
    else none
  | call =>
    match inputCode call with
    | some (i, code) =>
      if s.known i then
        some ({ s with callers := Function.update s.callers i (t :: s.callers i) }, code)
      else none
    | none => none

def program [DecidableEq T] : Program T HalMutex HalAct Call (SharedDevice T) where
  enter := enter
  act := act

/-- Threads that share a device without input streams. -/
structure Start (c : Processes T HalMutex HalAct (SharedDevice T)) : Prop where
  activeInput : c.shared.dev.hal.activeInput = none
  inOpen : ∀ i, c.shared.dev.inOpen i = false
  known : ∀ i, c.shared.known i = false
  callers : ∀ i, c.shared.callers i = []
  owner : ∀ m, c.owner m = none
  code : ∀ t, c.code t = []

end SharedDevice

end Universal7870.Audio
