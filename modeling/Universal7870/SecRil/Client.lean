import Universal7870.SecRil.Tables
import Universal7870.Lib.Run

/-!
# The RIL client and the daemon it talks to

`SendOemRequestHookRaw` and `processSolicited` as the steps between which other threads run.  Two
threads matter: the sender, of which `mutex_modem` lets in one at a time, and the reader.  Clients
change the handler table at any time.  The daemon answers a request that was sent at any later
time, in any order, and once at most.
-/

namespace Universal7870.SecRil

/-- A request that has taken a token. -/
structure Request where
  seq : Nat
  id : Nat
  token : Token
  deriving DecidableEq, Repr

def Request.entry (r : Request) : ReqHistory := { token := r.token, id := r.id, seq := r.seq }

/-- Where the sender stands in `SendOemRequestHookRaw`, with the result of its last call. -/
inductive Sender
  | idle
  | started (id : Nat)
  | allocated (r : Request)
  | recorded (r : Request)
  | written (r : Request)
  | freeing (r : Request)
  | clearing (r : Request)
  | failFreeing (r : Request) (ret : Int)
  | failClearing (r : Request) (ret : Int)
  | failClosing (ret : Int)
  deriving DecidableEq, Repr

/-- Where the reader stands in `processSolicited`.  The answer carries the token of the request it
answers; `err` is its error field, if there is one. -/
inductive Reader
  | idle
  | received (r : Request) (err : Option Int)
  | lookingUp (r : Request)
  | calling (r : Request) (entry : ReqHistory) (slot : ReqRespHandler)
  | called (r : Request) (reqId : Nat)
  | freeing (r : Request)
  | clearing (r : Request)
  deriving DecidableEq, Repr

/-- One call of a completion handler: the request whose answer is passed on, the entry and the slot
it was found through. -/
structure Delivery where
  answered : Request
  entry : ReqHistory
  slot : ReqRespHandler
  deriving DecidableEq, Repr

structure State where
  connected : Bool := true
  tokenPool : Token := 0
  history : List ReqHistory := List.replicate tokenPoolSize {}
  reqHandlers : List ReqRespHandler := List.replicate reqPoolSize {}
  delHandler : Bool := false
  sender : Sender := .idle
  reader : Reader := .idle
  /-- Requests sent whose answer has not been received. -/
  awaited : List Request := []
  nextSeq : Nat := 0
  deliveries : List Delivery := []
  deriving DecidableEq, Repr

def errPipe : Int := -32

def errBadFd : Int := -77

/-- One step of a thread.  The sender's and the reader's steps are those of their functions, with
the outcome where the step has one. -/
inductive Action
  /-- A client enters `SendOemRequestHookRaw` and takes `mutex_modem`. -/
  | send (id : Nat)
  | allocate
  | record
  /-- Both writes to the socket, with the result of the last one. -/
  | write (ret : Int)
  | findHandler
  | senderFree
  | senderClear
  | senderClose
  | receive (r : Request) (err : Option Int)
  | checkToken
  | lookup
  | callHandler
  | afterHandler
  | readerFree
  | readerClear
  | register (id : Nat) (handler : Option Handler)
  /-- `GetMute`: the next handler that is called is unregistered. -/
  | setDelHandler
  deriving DecidableEq, Repr

namespace State

def findReqHandler (s : State) (token : Token) : Option Handler :=
  (findReqSlot s.history s.reqHandlers token).bind fun found => found.2.handler

/-! ## 1. The sender -/

def send (s : State) (id : Nat) : Option State :=
  if s.sender = .idle then some { s with sender := .started id } else none

def allocate (s : State) : Option State :=
  match s.sender with
  | .started id =>
    if ¬s.connected then some { s with sender := .idle }
    else
      let taken := allocateToken s.tokenPool
      if taken.1 = 0 then some { s with sender := .idle }
      else some { s with
        tokenPool := taken.2
        sender := .allocated { seq := s.nextSeq, id := id, token := taken.1 }
        nextSeq := s.nextSeq + 1 }
  | _ => none

def record (s : State) : Option State :=
  match s.sender with
  | .allocated r =>
    match recordReqHistory r.entry s.history with
    | some history => some { s with history := history, sender := .recorded r }
    | none => some { s with sender := .failFreeing r 0 }
  | _ => none

def write (s : State) (ret : Int) : Option State :=
  match s.sender with
  | .recorded r =>
    if ret < 0 then some { s with sender := .failFreeing r ret }
    else some { s with sender := .written r, awaited := r :: s.awaited }
  | _ => none

/-- A request without a handler gives its token back at once. -/
def findHandler (s : State) : Option State :=
  match s.sender with
  | .written r =>
    if (s.findReqHandler r.token).isSome then some { s with sender := .idle }
    else some { s with sender := .freeing r }
  | _ => none

def senderFree (s : State) : Option State :=
  match s.sender with
  | .freeing r =>
    some { s with tokenPool := freeToken s.tokenPool r.token, sender := .clearing r }
  | .failFreeing r ret =>
    some { s with tokenPool := freeToken s.tokenPool r.token, sender := .failClearing r ret }
  | _ => none

def senderClear (s : State) : Option State :=
  match s.sender with
  | .clearing r => some { s with history := clearReqHistory r.token s.history, sender := .idle }
  | .failClearing r ret =>
    some { s with history := clearReqHistory r.token s.history, sender := .failClosing ret }
  | _ => none

def senderClose (s : State) : Option State :=
  match s.sender with
  | .failClosing ret =>
    some { s with
      connected := if ret = errPipe ∨ ret = errBadFd then false else s.connected
      sender := .idle }
  | _ => none

/-! ## 2. The reader -/

def receive (s : State) (r : Request) (err : Option Int) : Option State :=
  if s.reader = .idle ∧ r ∈ s.awaited then
    some { s with awaited := s.awaited.erase r, reader := .received r err }
  else none

def checkToken (s : State) : Option State :=
  match s.reader with
  | .received r err =>
    if ¬isValidToken s.tokenPool r.token then some { s with reader := .idle }
    else if err = some 0 then some { s with reader := .lookingUp r }
    else some { s with reader := .freeing r }
  | _ => none

def lookup (s : State) : Option State :=
  match s.reader with
  | .lookingUp r =>
    match findReqSlot s.history s.reqHandlers r.token with
    | some (entry, slot) =>
      if slot.handler.isSome then some { s with reader := .calling r entry slot }
      else some { s with reader := .freeing r }
    | none => some { s with reader := .freeing r }
  | _ => none

def callHandler (s : State) : Option State :=
  match s.reader with
  | .calling r entry slot =>
    some { s with reader := .called r slot.id, deliveries := ⟨r, entry, slot⟩ :: s.deliveries }
  | _ => none

def afterHandler (s : State) : Option State :=
  match s.reader with
  | .called r reqId =>
    if s.delHandler then
      some { s with
        delHandler := false
        reqHandlers :=
          (registerRequestCompleteHandler s.reqHandlers reqId none).getD s.reqHandlers
        reader := .freeing r }
    else some { s with reader := .freeing r }
  | _ => none

def readerFree (s : State) : Option State :=
  match s.reader with
  | .freeing r =>
    some { s with tokenPool := freeToken s.tokenPool r.token, reader := .clearing r }
  | _ => none

def readerClear (s : State) : Option State :=
  match s.reader with
  | .clearing r => some { s with history := clearReqHistory r.token s.history, reader := .idle }
  | _ => none

/-! ## 3. All threads -/

def register (s : State) (id : Nat) (handler : Option Handler) : State :=
  { s with
    reqHandlers := (registerRequestCompleteHandler s.reqHandlers id handler).getD s.reqHandlers }

def step (s : State) : Action → Option State
  | .send id => s.send id
  | .allocate => s.allocate
  | .record => s.record
  | .write ret => s.write ret
  | .findHandler => s.findHandler
  | .senderFree => s.senderFree
  | .senderClear => s.senderClear
  | .senderClose => s.senderClose
  | .receive r err => s.receive r err
  | .checkToken => s.checkToken
  | .lookup => s.lookup
  | .callHandler => s.callHandler
  | .afterHandler => s.afterHandler
  | .readerFree => s.readerFree
  | .readerClear => s.readerClear
  | .register id handler => some (s.register id handler)
  | .setDelHandler => some { s with delHandler := true }

end State

end Universal7870.SecRil
