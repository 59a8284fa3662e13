import Universal7870.Lib.Handles
import Universal7870.Lib.Processes
import Universal7870.Audio.OutWrite
import Universal7870.Audio.Stream

/-!
# The offload thread

The callbacks of one offload stream and `offload_thread_loop`, as processes over the mutexes they
take.  The thread reads `out->compr` for each of its driver calls, which it makes with `out->lock`
released.  A wait on a condition variable gives the mutex up and takes it again before it looks.
-/

namespace Universal7870.Audio

open Lib

/-! ## 1. The stream -/

/-- The threads of the framework, and the one of the stream. -/
inductive StreamParty
  | client (n : Nat)
  | offloadThread
  deriving DecidableEq, Repr

/-- The commands of the list; `destroy_offload_callback_thread` sends the last one. -/
inductive ThreadCmd
  | run (cmd : OffloadCmd)
  | exit
  deriving DecidableEq, Repr

/-- The driver calls that the thread makes. -/
inductive DriverCall
  | wait
  | nextTrack
  | partialDrain
  | drain
  deriving DecidableEq, Repr

def OffloadCmd.driverCalls : OffloadCmd → List DriverCall
  | .waitForBuffer => [.wait]
  | .partialDrain => [.nextTrack, .partialDrain]
  | .drain => [.drain]

/-- A driver call of the thread: the handle it reads, the one there was when it released the lock,
and whether what it reads is open. -/
structure ThreadCall where
  call : DriverCall
  handle : Option Nat
  entered : Option Nat
  isOpen : Bool
  deriving DecidableEq, Repr

/-- What decides on the handle.  `entered` is the handle the thread saw when it last set
`offload_thread_blocked`; `driver` has the handles of `compress_open`. -/
structure OffloadHandle where
  standby : Bool
  compr : Option Nat
  blocked : Bool
  entered : Option Nat
  driver : Handles Nat
  deriving DecidableEq, Repr

structure OffloadStream extends OffloadHandle where
  offloadState : OffloadState
  sendNewMetadata : Bool
  offloadCmdList : List ThreadCmd
  /-- `adev->offload_fx_stop_output != NULL`. -/
  offloadFx : Bool
  /-- `adev_close_output_stream` was called. -/
  closing : Bool
  /-- The thread has returned. -/
  exited : Bool
  calls : List ThreadCall
  deriving DecidableEq, Repr

/-- What the calls of `out_write` give: whether `enable_output_path_l` succeeds for the start, the
handle of `compress_open` and whether it is ready, whether an input is to be put to standby, whether
`enable_output_path_l` succeeds in `out_write_offload`, and whether a part of the buffer is
written. -/
structure StreamWrite where
  pathStarts : Bool
  handle : Nat
  ready : Bool
  forcesInput : Bool
  pathEnabled : Bool
  writesPart : Bool
  deriving DecidableEq, Repr

inductive StreamAct
  | testStandby (w : StreamWrite)
  | retestStandby (w : StreamWrite)
  | startOutputStream (w : StreamWrite)
  | setActive (w : StreamWrite)
  | outWriteOffload (w : StreamWrite)
  | enableOutputPath (w : StreamWrite)
  | writeCompress (w : StreamWrite)
  | outStandby
  | setStandby
  | stopCompressedOutput
  | awaitUnblocked
  | closeCompress
  | clearCompr
  | stopOutputStream
  | outPause
  | outResume
  | resumeCompress
  | sendOffloadCmd (cmd : ThreadCmd)
  | outFlush
  | setFlushed
  | outSetRouting (named doStandby : Bool)
  | parseCompressMetadata
  | joinThread
  | threadLoop
  | drive (call : DriverCall)
  | clearBlocked
  | clearCmdList
  | exitThread
  deriving DecidableEq, Repr

/-! ## 2. The code -/

namespace OffloadStream

abbrev Code := List (Instr Mutex StreamAct)

def lockOutputStream : Code := [.acquire .outPreLock, .acquire .outLock, .release .outPreLock]

/-- `do_out_standby_l`. -/
def doOutStandby : Code :=
  [.act .setStandby, .act .stopCompressedOutput, .act .closeCompress, .act .stopOutputStream]

/-- `out_standby`. -/
def standbyCode : Code := lockOutputStream ++ [.act .outStandby, .release .outLock]

/-- `out_write` from a `start_output_stream` that failed. -/
def startFails : Code := [.release .adevLock, .release .lockInputs, .release .outLock] ++ standbyCode

/-- What an action does, and the code it goes on with. -/
def act : StreamAct → OffloadStream → Option (OffloadStream × Code)
  | .testStandby w, s => some (s,
      if s.standby then
        [.release .outLock, .acquire .lockInputs] ++ lockOutputStream ++ [.act (.retestStandby w)]
      else [.act (.outWriteOffload w)])
  | .retestStandby w, s => some (s,
      if s.standby then [.acquire .adevLock, .act (.startOutputStream w)]
      else [.release .lockInputs, .act (.outWriteOffload w)])
  | .startOutputStream w, s =>
    if ¬w.pathStarts then some (s, startFails)
    -- the driver gives a handle that is not open
    else if w.handle ∈ s.driver.opened then none
    else
      let s := { s with compr := some w.handle, driver := s.driver.gain w.handle }
      some (s,
        if w.ready then [.act (.setActive w)]
        else [.act .closeCompress, .act .stopOutputStream] ++ startFails)
  | .setActive w, s => some ({ s with standby := false },
      [.release .adevLock] ++ (if w.forcesInput then [] else [.release .lockInputs]) ++
        [.act (.outWriteOffload w)])
  | .outWriteOffload w, s => some (s,
      if s.offloadState = .pausedFlushed then [.acquire .adevLock, .act (.enableOutputPath w)]
      else [.act (.writeCompress w)])
  | .enableOutputPath w, s => some (s,
      [.release .adevLock] ++ if w.pathEnabled then [.act (.writeCompress w)] else [])
  | .writeCompress w, s => some ({ s with
      sendNewMetadata := false
      offloadCmdList :=
        if w.writesPart then s.offloadCmdList ++ [.run .waitForBuffer] else s.offloadCmdList
      offloadState := .playing }, [.release .outLock])
  | .outStandby, s => some (s,
      if s.standby then [] else [.acquire .adevLock] ++ doOutStandby ++ [.release .adevLock])
  | .setStandby, s => some ({ s with standby := true }, [])
  | .stopCompressedOutput, s => some ({ s with sendNewMetadata := true },
      if s.compr = none then [] else [.act .awaitUnblocked])
  | .awaitUnblocked, s => some (s,
      if s.blocked then [.release .outLock, .acquire .outLock, .act .awaitUnblocked] else [])
  | .closeCompress, s =>
    match s.compr with
    | none => some (s, [])
    | some h => some ({ s with driver := s.driver.release h }, [.act .clearCompr])
  | .clearCompr, s => some ({ s with compr := none }, [])
  | .stopOutputStream, s =>
    some ({ s with offloadState := if s.offloadFx then .idle else s.offloadState }, [])
  | .outPause, s =>
    if s.compr ≠ none ∧ s.offloadState = .playing then
      some ({ s with offloadState := .paused }, [.acquire .adevLock, .release .adevLock])
    else some (s, [])
  | .outResume, s =>
    some (s, if s.compr ≠ none ∧ s.offloadState = .paused then
      [.acquire .adevLock, .release .adevLock, .act .resumeCompress] else [])
  | .resumeCompress, s => some ({ s with offloadState := .playing }, [])
  | .sendOffloadCmd cmd, s => some ({ s with offloadCmdList := s.offloadCmdList ++ [cmd] }, [])
  | .outFlush, s => some (s,
      if s.offloadState = .paused then [.act .stopCompressedOutput, .act .setFlushed] else [])
  | .setFlushed, s => some ({ s with offloadState := .pausedFlushed }, [])
  | .outSetRouting named doStandby, s => some (s,
      if named ∧ ¬s.standby ∧ doStandby then doOutStandby else [])
  | .parseCompressMetadata, s => some ({ s with sendNewMetadata := true }, [])
  | .joinThread, s => if s.exited then some (s, []) else none
  | .threadLoop, s =>
    match s.offloadCmdList with
    | [] => some (s, [.release .outLock, .acquire .outLock, .act .threadLoop])
    | .exit :: cmds => some ({ s with offloadCmdList := cmds },
        [.act .clearCmdList, .release .outLock, .act .exitThread])
    | .run cmd :: cmds =>
      let s := { s with offloadCmdList := cmds }
      if s.compr = none then some (s, [.act .threadLoop])
      else some ({ s with blocked := true, entered := s.compr },
        [.release .outLock] ++ cmd.driverCalls.map (Instr.act <| .drive ·) ++ lockOutputStream ++
          [.act .clearBlocked, .act .threadLoop])
  | .drive call, s => some ({ s with calls := s.calls ++ [{
      call := call
      handle := s.compr
      entered := s.entered
      isOpen := s.compr.any (· ∈ s.driver.opened) }] }, [])
  | .clearBlocked, s => some ({ s with blocked := false }, [])
  | .clearCmdList, s => some ({ s with offloadCmdList := [] }, [])
  | .exitThread, s => some ({ s with exited := true }, [])

/-- The calls of the framework on the stream. -/
inductive Call
  | outWrite (w : StreamWrite)
  | outPause
  | outResume
  | outDrain (earlyNotify : Bool)
  | outFlush
  | outStandby
  /-- `out_set_parameters`; the routing is given by whether it names a device and whether the
  stream's PCM devices do not serve it. -/
  | outSetParameters (routing : Option (Bool × Bool)) (metadata : Bool)
  | adevCloseOutputStream
  deriving DecidableEq, Repr

def underOutput (a : StreamAct) : Code := lockOutputStream ++ [.act a, .release .outLock]

def code : Call → Code
  | .outWrite w => lockOutputStream ++ [.act (.testStandby w)]
  | .outPause => underOutput .outPause
  | .outResume => underOutput .outResume
  | .outDrain earlyNotify =>
    underOutput (.sendOffloadCmd (.run (if earlyNotify then .partialDrain else .drain)))
  | .outFlush => underOutput .outFlush
  | .outStandby => standbyCode
  | .outSetParameters routing metadata =>
    (match routing with
      | none => []
      | some (named, doStandby) =>
        [.acquire .lockInputs] ++ lockOutputStream ++
          [.acquire .adevLock, .act (.outSetRouting named doStandby), .release .adevLock,
            .release .outLock, .release .lockInputs]) ++
      if metadata then [.act .parseCompressMetadata] else []
  | .adevCloseOutputStream =>
    standbyCode ++ underOutput (.sendOffloadCmd .exit) ++ [.act .joinThread]

/-- No call is made on a stream that is being closed. -/
def enter : StreamParty → Call → OffloadStream → Option (OffloadStream × Code)
  | .offloadThread, _, _ => none
  | .client _, call, s =>
    if s.closing then none
    else some ({ s with closing := call = .adevCloseOutputStream }, code call)

def program : Program StreamParty Mutex StreamAct Call OffloadStream where
  enter := enter
  act _ := act

end OffloadStream

end Universal7870.Audio
