import Universal7870.Lib.Handles
import Universal7870.SecRil.Client

/-!
# The connection of the RIL client

`Connect_RILD`, `SendOemRequestHookRaw`, `Disconnect_RILD`, `CloseClient_RILD` and `RxReaderFunc`,
cut into the steps between which the other thread runs.  The reader's steps are those between two
accesses to the members it shares with the client.
-/

namespace Universal7870.SecRil

open Lib

/-! ## 1. The members and the threads -/

/-- Where a reader thread stands in `RxReaderFunc`: in front of the loop's test; in `select`; in the
loop over records, having seen whether the pipe is ready; in front of the read of the pipe; and
behind the end of the stream or a failure of `select`. -/
inductive ReaderPc
  | testing
  | selecting
  | reading (pipeReady : Bool)
  | commanded
  | dropping (failed : Bool)
  | freeing (failed : Bool)
  | reporting (failed : Bool)
  deriving DecidableEq, Repr

structure ReaderThread where
  tid : Nat
  pc : ReaderPc
  deriving DecidableEq, Repr

/-- Where the client stands: in `Disconnect_RILD` in front of the reset of `b_connect`, or of the
join, on behalf of `CloseClient_RILD` or not; in front of `free`; or behind it. -/
inductive ClientPc
  | idle
  | stopping (closing : Bool)
  | joining (closing : Bool)
  | freeing
  | closed
  deriving DecidableEq, Repr

structure Connection where
  bConnect : Bool := false
  sock : Int := -1
  pipefd : Nat × Nat := (0, 0)
  /-- The descriptor that `p_rs` reads from. -/
  recordStream : Option Nat := none
  tidReader : Nat := 0
  /-- Whether there is an error callback. -/
  errCb : Bool := false
  /-- A command is in the pipe. -/
  piped : Bool := false
  readers : List ReaderThread := []
  nextTid : Nat := 1
  client : ClientPc := .idle
  fds : Handles Nat := {}
  /-- A reader thread has accessed the members after they were freed. -/
  touchedFreed : Bool := false
  deriving DecidableEq, Repr

/-- How the calls of `Connect_RILD` end. -/
structure ConnectOutcome where
  socket : Option Nat
  fcntlSock : Bool
  pipe : Option (Nat × Nat)
  fcntlPipe : Bool
  thread : Bool
  deriving DecidableEq, Repr

/-- How `SendOemRequestHookRaw` goes on: it has no token, or no entry in the history, or it writes,
with these results. -/
inductive SendOutcome
  | noToken
  | noRecord
  | written (header body : Int)
  deriving DecidableEq, Repr

inductive SelectOutcome
  | failed
  | ready (sock pipe : Bool)
  deriving DecidableEq, Repr

/-- A result of `record_stream_get_next`. -/
inductive StreamOutcome
  | record
  | again
  | ended
  deriving DecidableEq, Repr

inductive ConnectionOp
  | connect (outcome : ConnectOutcome)
  | send (outcome : SendOutcome)
  | disconnect (closing : Bool)
  | resetConnect
  | join
  | free
  | readerTest (tid : Nat)
  | readerSelect (tid : Nat) (outcome : SelectOutcome)
  | readerRead (tid : Nat) (outcome : StreamOutcome)
  | readerCommand (tid : Nat)
  | readerDrop (tid : Nat)
  | readerFree (tid : Nat)
  | readerReport (tid : Nat)
  deriving DecidableEq, Repr

namespace Connection

/-! ## 2. Descriptors -/

/-- A call on a descriptor; a negative number is none. -/
def access (c : Connection) (fd : Int) : Connection :=
  if 0 ≤ fd then { c with fds := c.fds.access fd.toNat } else c

def close (c : Connection) (fd : Int) : Connection :=
  if 0 ≤ fd then { c with fds := c.fds.release fd.toNat } else c

def gain (c : Connection) (fd : Nat) : Connection := { c with fds := c.fds.gain fd }

def closePipe (c : Connection) : Connection := (c.close c.pipefd.1).close c.pipefd.2

/-! ## 3. The client -/

/-- The descriptors of an outcome are not open yet: numbers in use are not handed out. -/
def Fresh (c : Connection) (o : ConnectOutcome) : Prop :=
  (o.socket.toList ++ (o.pipe.map fun p => [p.1, p.2]).getD []).Nodup ∧
    ∀ fd ∈ o.socket.toList ++ (o.pipe.map fun p => [p.1, p.2]).getD [], fd ∉ c.fds.opened

instance (c : Connection) (o : ConnectOutcome) : Decidable (c.Fresh o) :=
  inferInstanceAs (Decidable (_ ∧ _))

/-- What is left when the thread cannot be created: `memset`, and -1 for the socket. -/
def zeroed (c : Connection) : Connection :=
  { c with bConnect := false, sock := -1, pipefd := (0, 0), recordStream := none, tidReader := 0,
           errCb := false }

/-- `Connect_RILD` from `pthread_create` on. -/
def startReader (c : Connection) (created : Bool) : Connection :=
  if created then
    { c with
      tidReader := c.nextTid
      nextTid := c.nextTid + 1
      readers := c.readers ++ [⟨c.nextTid, .testing⟩] }
  else ((c.close c.sock).closePipe).zeroed

/-- `Connect_RILD` from `pipe` on. -/
def openPipe (c : Connection) (o : ConnectOutcome) : Connection :=
  match o.pipe with
  | none => c.close c.sock
  | some p =>
    let c := { (c.gain p.1).gain p.2 with pipefd := p, piped := false }.access p.1
    if o.fcntlPipe then c.startReader o.thread else (c.close c.sock).closePipe

def connect (c : Connection) (o : ConnectOutcome) : Connection :=
  match o.socket with
  | none => { c with sock := -1 }
  | some fd =>
    let c := { c.gain fd with sock := fd, bConnect := true }.access fd
    if o.fcntlSock then { c with recordStream := some fd }.openPipe o else c.close c.sock

/-- The end of `SendOemRequestHookRaw` behind `error`. -/
def abortSend (c : Connection) (ret : Int) : Connection :=
  if ret = errPipe ∨ ret = errBadFd then
    { c.close c.sock with sock := -1, bConnect := false }
  else c

/-- `blockingWrite` closes the socket when it fails. -/
def blockingWrite (c : Connection) (ret : Int) : Connection :=
  if ret < 0 then (c.access c.sock).close c.sock else c.access c.sock

def send (c : Connection) (o : SendOutcome) : Connection :=
  if c.sock < 0 then c
  else
    match o with
    | .noToken => c
    | .noRecord => c.abortSend 0
    | .written header body =>
      if header < 0 then (c.blockingWrite header).abortSend header
      else if body < 0 then ((c.blockingWrite header).blockingWrite body).abortSend body
      else (c.blockingWrite header).blockingWrite body

/-- `Disconnect_RILD` up to its write to the pipe. -/
def disconnect (c : Connection) (closing : Bool) : Connection :=
  if c.sock = -1 then { c with client := if closing then .freeing else .idle }
  else if 0 < c.sock then
    { c.access c.pipefd.2 with piped := true, client := .stopping closing }
  else { c with client := .stopping closing }

/-! ## 4. The reader -/

/-- A step of a reader thread touches the members. -/
def touch (c : Connection) : Connection :=
  if c.client = .closed then { c with touchedFreed := true } else c

def setPc (c : Connection) (tid : Nat) (pc : ReaderPc) : Connection :=
  { c with readers := c.readers.map fun r => if r.tid = tid then ⟨tid, pc⟩ else r }

def terminate (c : Connection) (tid : Nat) : Connection :=
  { c with readers := c.readers.filter fun r => r.tid ≠ tid }

/-- The test of `b_connect`, and the sets of the next `select`. -/
def readerTest (c : Connection) (tid : Nat) : Connection :=
  if c.bConnect then ((c.access c.sock).access c.pipefd.1).setPc tid .selecting
  else c.terminate tid

def readerSelect (c : Connection) (tid : Nat) : SelectOutcome → Connection
  | .failed => c.setPc tid (.dropping true)
  | .ready sock pipe =>
    if sock then c.setPc tid (.reading pipe)
    else if pipe then c.setPc tid .commanded
    else c.setPc tid .testing

/-- `record_stream_get_next` reads from the descriptor of its stream. -/
def readStream (c : Connection) : Connection :=
  match c.recordStream with
  | none => c
  | some fd => c.access fd

def readerRead (c : Connection) (tid : Nat) (pipeReady : Bool) : StreamOutcome → Connection
  | .record => c.readStream
  | .again => c.readStream.setPc tid (if pipeReady then .commanded else .testing)
  | .ended => c.readStream.setPc tid (.dropping false)

def readerCommand (c : Connection) (tid : Nat) : Connection :=
  let c := c.access c.pipefd.1
  if c.piped then
    { (c.close c.sock).closePipe with sock := -1, bConnect := false, piped := false }.setPc tid
      .testing
  else c.setPc tid .testing

def readerDrop (c : Connection) (tid : Nat) (failed : Bool) : Connection :=
  if 0 < c.sock then
    { c.close c.sock with sock := -1, bConnect := false }.setPc tid (.freeing failed)
  else c.setPc tid (.freeing failed)

/-- Without a callback a failure of `select` goes on to the test of the loop. -/
def readerReport (c : Connection) (tid : Nat) (failed : Bool) : Connection :=
  if c.errCb ∨ failed = false then c.terminate tid else c.setPc tid .testing

/-! ## 5. Steps -/

def pcOf (c : Connection) (tid : Nat) : Option ReaderPc :=
  (c.readers.find? fun r => r.tid = tid).map (·.pc)

def step (c : Connection) : ConnectionOp → Option Connection
  | .connect o => if c.client = .idle ∧ c.Fresh o then some (c.connect o) else none
  | .send o => if c.client = .idle then some (c.send o) else none
  | .disconnect closing => if c.client = .idle then some (c.disconnect closing) else none
  | .resetConnect =>
    match c.client with
    | .stopping closing => some { c with bConnect := false, client := .joining closing }
    | _ => none
  | .join =>
    match c.client with
    | .joining closing =>
      if c.readers.any fun r => r.tid = c.tidReader then none
      else some { c with client := if closing then .freeing else .idle }
    | _ => none
  | .free => if c.client = .freeing then some { c with client := .closed } else none
  | .readerTest tid => if c.pcOf tid = some .testing then some (c.touch.readerTest tid) else none
  | .readerSelect tid outcome =>
    -- the pipe is ready exactly when a command is in it
    if c.pcOf tid = some .selecting ∧ ∀ sock pipe, outcome = .ready sock pipe → pipe = c.piped then
      some (c.touch.readerSelect tid outcome)
    else none
  | .readerRead tid outcome =>
    match c.pcOf tid with
    | some (.reading pipeReady) => some (c.touch.readerRead tid pipeReady outcome)
    | _ => none
  | .readerCommand tid =>
    if c.pcOf tid = some .commanded then some (c.touch.readerCommand tid) else none
  | .readerDrop tid =>
    match c.pcOf tid with
    | some (.dropping failed) => some (c.touch.readerDrop tid failed)
    | _ => none
  | .readerFree tid =>
    match c.pcOf tid with
    | some (.freeing failed) => some (c.touch.setPc tid (.reporting failed))
    | _ => none
  | .readerReport tid =>
    match c.pcOf tid with
    | some (.reporting failed) => some (c.touch.readerReport tid failed)
    | _ => none

end Connection

end Universal7870.SecRil
