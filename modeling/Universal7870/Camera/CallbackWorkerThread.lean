import Universal7870.Lib.Handles
import Universal7870.Lib.Mailbox

/-!
# The callback worker

`CallbackWorkerThread.cpp`: the thread that runs the client's camera callbacks, the queue it takes
its messages from, and the four functions that client and vendor threads call.  Each section under
`m_mutex` is one step, and so is what the worker does with a message that it has taken.
-/

namespace Universal7870.Camera

open Lib

/-! ## 1. Messages -/

/-- `CB_TYPE_NONE`, `CB_TYPE_NOTIFY` and `CB_TYPE_DATA`. -/
inductive CbType
  | none
  | notify
  | data
  deriving DecidableEq, Repr

/-- `WorkerMessage`, with pointers as numbers. -/
structure WorkerMessage where
  cbType : CbType
  msgType : Int
  data : Nat := 0
  index : Nat := 0
  metadata : Nat := 0
  user : Nat
  ext1 : Int := 0
  ext2 : Int := 0
  deriving DecidableEq, Repr

/-- `CallbackData`; a null pointer is `none`. -/
structure CallbackData where
  newUserNotifyCb : Option Nat := none
  newUserDataCb : Option Nat := none
  deriving DecidableEq, Repr

/-- What a `ThreadMsg` says, by its `id`. -/
inductive MsgBody
  | exitThread
  | executeCallback (data : WorkerMessage)
  | updateCallbacks (data : CallbackData)
  deriving DecidableEq, Repr

structure ThreadMsg where
  body : MsgBody
  callerTS : Int
  deriving DecidableEq, Repr

/-- A call of one of the client's functions. -/
inductive UserCall
  | notify (cb : Nat) (msgType ext1 ext2 : Int) (user : Nat)
  | data (cb : Nat) (msgType : Int) (data index metadata user : Nat)
  deriving DecidableEq, Repr

/-- The call that a callback message makes with these pointers, if any. -/
def WorkerMessage.userCall (m : WorkerMessage) (cbs : CallbackData) : Option UserCall :=
  match m.cbType with
  | .notify => cbs.newUserNotifyCb.map fun cb => .notify cb m.msgType m.ext1 m.ext2 m.user
  | .data => cbs.newUserDataCb.map fun cb => .data cb m.msgType m.data m.index m.metadata m.user
  | .none => none

namespace ThreadMsg

/-- The messages that are not callbacks of the user. -/
def isControl (m : ThreadMsg) : Bool :=
  match m.body with
  | .executeCallback _ => false
  | _ => true

def isExit (m : ThreadMsg) : Bool := m.body = .exitThread

/-- The message comes with an object of its own. -/
def hasPayload (m : ThreadMsg) : Bool := m.body ≠ .exitThread

/-- The pointers behind the message. -/
def callbacksAfter (m : ThreadMsg) (cbs : CallbackData) : CallbackData :=
  match m.body with
  | .updateCallbacks data => data
  | _ => cbs

end ThreadMsg

/-- The pointers of the last update among the messages. -/
def lastCallbacks (msgs : List ThreadMsg) : CallbackData :=
  msgs.foldl (fun cbs m => m.callbacksAfter cbs) {}

/-! ## 2. The worker object -/

/-- Where the worker stands in `Process`: in front of the queue, with a message that it has taken
(and its number), or behind the loop. -/
inductive WorkerPc
  | waiting
  | handling (serial : Nat) (msg : ThreadMsg)
  | ended
  deriving DecidableEq, Repr

/-- A call that was made for the message with this number. -/
structure Executed where
  serial : Nat
  call : UserCall
  deriving DecidableEq, Repr

/-- The object with its thread.  `exiting` is set while a call of `ExitThread` waits for the thread;
`executed`, `dropped` and `payloads` are observations: the calls that were made, the messages that
left the queue without being handled, and the objects that came with messages. -/
structure CallbackWorker where
  thread : Bool := true
  pc : WorkerPc := .waiting
  callbacks : CallbackData := {}
  mailbox : Mailbox ThreadMsg := {}
  exiting : Bool := false
  executed : List Executed := []
  dropped : List ThreadMsg := []
  payloads : Handles Nat := {}

inductive WorkerOp
  | addCallback (data : WorkerMessage) (timestamp : Int)
  | setCallbacks (data : CallbackData) (timestamp : Int)
  | clearCallbacks
  | exitThread (timestamp : Int)
  | join
  | takeMessage
  | process (now : Int)
  deriving DecidableEq, Repr

namespace CallbackWorker

/-- The object behind `CreateThread`: the thread starts without pointers. -/
def created : CallbackWorker := {}

/-- A message with its object is put into the queue. -/
def postPayload (w : CallbackWorker) (m : ThreadMsg) : CallbackWorker :=
  { w with mailbox := w.mailbox.post m, payloads := w.payloads.gain w.mailbox.sent.length }

def addCallback (w : CallbackWorker) (data : WorkerMessage) (timestamp : Int) : CallbackWorker :=
  w.postPayload ⟨.executeCallback data, timestamp⟩

def setCallbacks (w : CallbackWorker) (data : CallbackData) (timestamp : Int) : CallbackWorker :=
  w.postPayload ⟨.updateCallbacks data, timestamp⟩

/-- The loops that empty the queue delete the messages, and not the objects that came with them. -/
def clearCallbacks (w : CallbackWorker) : CallbackWorker :=
  { w with mailbox := w.mailbox.clear, dropped := w.dropped ++ w.mailbox.queue }

/-- `ExitThread` up to the join. -/
def exitThread (w : CallbackWorker) (timestamp : Int) : CallbackWorker :=
  if w.thread then
    { w with mailbox := w.mailbox.post ⟨.exitThread, timestamp⟩, exiting := true }
  else w

/-- A callback that is not stale is made, if there is a function for it. -/
def execute (w : CallbackWorker) (serial : Nat) (m : ThreadMsg) (data : WorkerMessage) (now : Int) :
    CallbackWorker :=
  if now - m.callerTS < 5 then
    match data.userCall w.callbacks with
    | some call => { w with executed := w.executed ++ [⟨serial, call⟩] }
    | none => w
  else w

/-- The `switch` of `Process` for the message with this number. -/
def process (w : CallbackWorker) (serial : Nat) (m : ThreadMsg) (now : Int) : CallbackWorker :=
  match m.body with
  | .executeCallback data =>
    { w.execute serial m data now with
      pc := .waiting
      payloads := (w.payloads.access serial).release serial }
  | .updateCallbacks data =>
    { w with
      pc := .waiting
      callbacks := data
      payloads := (w.payloads.access serial).release serial }
  | .exitThread => { w.clearCallbacks with pc := .ended }

/-- The head of the loop of `Process`; an empty queue has to be waited for. -/
def takeMessage (w : CallbackWorker) : Option CallbackWorker :=
  match w.pc with
  | .waiting =>
    match h : w.mailbox.queue with
    | [] => none
    | m :: rest =>
      some { w with pc := .handling w.mailbox.taken m, mailbox := w.mailbox.behind rest h }
  | _ => none

/-- The steps of all threads.  The calls of `ExitThread` are made one behind the other, under the
lock of the camera wrapper. -/
def step (w : CallbackWorker) : WorkerOp → Option CallbackWorker
  | .addCallback data timestamp => some (w.addCallback data timestamp)
  | .setCallbacks data timestamp => some (w.setCallbacks data timestamp)
  | .clearCallbacks => some w.clearCallbacks
  | .exitThread timestamp => if w.exiting then none else some (w.exitThread timestamp)
  | .join =>
    if w.exiting ∧ w.pc = .ended then some { w with thread := false, exiting := false } else none
  | .takeMessage => w.takeMessage
  | .process now =>
    match w.pc with
    | .handling serial m => some (w.process serial m now)
    | _ => none

end CallbackWorker

end Universal7870.Camera
