import Universal7870.Lib.Run
import Universal7870.SecRil.Requests

/-!
# The stream of requests

Any thread calls a function of the library; `mutex_modem` lets in one at a time, and `blockingWrite`
hands its bytes to a socket that does not block, which takes any number of them, and which the
reader closes at any time.  A descriptor that was closed can stay in `sock`: what is written to it
may go elsewhere.  `Connect_RILD` takes no mutex: a request that is written then may end on the new
socket.
-/

namespace Universal7870.SecRil

open Lib

/-! ## 1. The code -/

/-- Where the bytes of a request went: the socket of the last connection took them all so far, or
some went elsewhere after it was closed, or the request began before it was connected. -/
inductive Place
  | whole
  | cut
  | astray
  deriving DecidableEq, Repr

/-- Where the thread with `mutex_modem` stands: in the header or in the body, with the bytes left.
`linked` says that the descriptor in hand is the one of the last connection. -/
structure Writing where
  call : ApiCall
  token : Token
  inBody : Bool
  left : List UInt8
  place : Place
  linked : Bool
  deriving DecidableEq, Repr

/-- A request whose call succeeded. -/
structure Sent where
  call : ApiCall
  token : Token
  place : Place
  deriving DecidableEq, Repr

structure RequestStream where
  prv : RilClientPrv := { connected := false }
  /-- The socket of the last connection is open. -/
  isOpen : Bool := false
  /-- The bytes that socket took. -/
  received : List UInt8 := []
  /-- The request that was written when the socket was connected, and its bytes among them. -/
  earlier : Option (ApiCall × Token) := none
  stray : List UInt8 := []
  /-- Calls in front of `mutex_modem`. -/
  waiting : List ApiCall := []
  writing : Option Writing := none
  /-- Calls behind a failed `SendOemRequestHookRaw`, with its result. -/
  failing : List (ApiCall × Nat) := []
  /-- What succeeded, and what was returned, since the socket was connected. -/
  sent : List Sent := []
  returned : List (ApiCall × Nat) := []
  deriving DecidableEq, Repr

/-- A result of `send`. -/
inductive WriteOutcome
  | taken (n : Nat)
  | interrupted
  | failed (errno : Nat)
  deriving DecidableEq, Repr

inductive RequestOp
  | call (c : ApiCall)
  | lock (c : ApiCall)
  | write (outcome : WriteOutcome)
  /-- `blockingWrite` returns. -/
  | written
  | giveUp (c : ApiCall) (ret : Nat)
  /-- A socket is connected; `reused` says that it gets the number of the descriptor that a request
  is written to. -/
  | connect (reused : Bool)
  /-- The socket is closed; `sock` is reset, or stays. -/
  | close (reset : Bool)
  | register (id : Nat) (handler : Option Handler)
  | processSolicited (token : Option Token) (err : Option Int)
  | finish
  deriving DecidableEq, Repr

namespace RequestStream

/-- A function up to `SendOemRequestHookRaw`. -/
def call (s : RequestStream) (c : ApiCall) : RequestStream :=
  if ¬s.prv.connected then { s with returned := s.returned ++ [(c, errConnect)] }
  else if ¬c.request.valid then { s with returned := s.returned ++ [(c, errInval)] }
  else
    let prv := if c.request.setsDelHandler then { s.prv with delHandler := true } else s.prv
    let prv :=
      if c.request.registers then prv.register c.request.reqId c.request.handler else prv
    { s with prv := prv, waiting := s.waiting ++ [c] }

/-- `SendOemRequestHookRaw` returns an error. -/
def fail (s : RequestStream) (c : ApiCall) (r : Nat × RilClientPrv) : RequestStream :=
  { s with prv := r.2, writing := none, failing := s.failing ++ [(c, r.1)] }

/-- A function behind a `SendOemRequestHookRaw` that failed. -/
def giveUp (s : RequestStream) (c : ApiCall) (ret : Nat) : RequestStream :=
  { s with
    prv := if c.request.registers then s.prv.register c.request.reqId none else s.prv
    failing := s.failing.erase (c, ret)
    returned := s.returned ++ [(c, ret)] }

section

variable (writes : ParcelWrites)

/-- `SendOemRequestHookRaw` up to the first write. -/
def lock (s : RequestStream) (c : ApiCall) : RequestStream :=
  let s := { s with waiting := s.waiting.erase c }
  if ¬s.prv.connected then s.fail c (errAgain, s.prv)
  else
    let taken := allocateToken s.prv.tokenPool
    if taken.1 = 0 then s.fail c (errAgain, s.prv)
    else
      let prv := { s.prv with tokenPool := taken.2 }
      match recordReqHistory { token := taken.1, id := c.request.reqId } prv.history with
      -- no entry of the history is free: the token is given back
      | none => s.fail c (prv.abort taken.1 0)
      | some history =>
        -- `blockingWrite` of the length, in the order of the network
        let header := be32 (requestBody writes taken.1 c.request.data).length
        { s with
          prv := { prv with history := history }
          writing := some ⟨c, taken.1, false, header, if s.isOpen then .whole else .cut, true⟩ }

/-- One `send` of `blockingWrite`, which closes the descriptor when it fails. -/
def write (s : RequestStream) (w : Writing) : WriteOutcome → RequestStream
  | .taken n =>
    if s.isOpen ∧ w.linked then
      { s with
        received := s.received ++ w.left.take n
        stray := if w.place = .astray then s.stray ++ w.left.take n else s.stray
        writing := some { w with left := w.left.drop n } }
    -- the bytes go to whatever has the number of the old descriptor now
    else
      { s with
        writing := some { w with
          left := w.left.drop n
          place := if w.place = .astray then .astray else .cut } }
  | .interrupted => s
  | .failed errno =>
    let r := s.prv.abort w.token (-errno)
    -- behind some errors `sock` is closed too, whichever descriptor it is by then
    { s with isOpen := s.isOpen && !w.linked && r.2.connected }.fail w.call r

/-- Behind the header the body is written, to what `sock` is then; behind the body the call
succeeds. -/
def written (s : RequestStream) (w : Writing) : RequestStream :=
  if w.inBody then
    let r := s.prv.transmit w.token 0 0
    { s with
      prv := r.2
      writing := none
      sent := s.sent ++ [⟨w.call, w.token, w.place⟩]
      returned := s.returned ++ [(w.call, r.1)] }
  else
    { s with
      writing := some { w with
        inBody := true
        left := requestBody writes w.token w.call.request.data
        linked := true } }

def connect (s : RequestStream) (reused : Bool) : RequestStream :=
  { s with
    prv := { s.prv with connected := true }
    isOpen := true
    received := []
    earlier := s.writing.map fun w => (w.call, w.token)
    stray := []
    writing := s.writing.map fun w => { w with place := .astray, linked := reused }
    sent := []
    returned := [] }

/-- The results that `send` can have. -/
def Possible (w : Writing) : WriteOutcome → Prop
  | .taken n => n ≤ w.left.length
  | .interrupted => True
  | .failed errno => 0 < errno

instance (w : Writing) (outcome : WriteOutcome) : Decidable (Possible w outcome) :=
  match outcome with
  | .taken n => inferInstanceAs (Decidable (n ≤ w.left.length))
  | .interrupted => inferInstanceAs (Decidable True)
  | .failed errno => inferInstanceAs (Decidable (0 < errno))

def step (s : RequestStream) : RequestOp → Option RequestStream
  | .call c => some (s.call c)
  | .lock c => if s.writing = none ∧ c ∈ s.waiting then some (s.lock writes c) else none
  | .write outcome =>
    match s.writing with
    | some w => if w.left ≠ [] ∧ Possible w outcome then some (s.write w outcome) else none
    | none => none
  | .written =>
    match s.writing with
    | some w => if w.left = [] then some (s.written writes w) else none
    | none => none
  | .giveUp c ret => if (c, ret) ∈ s.failing then some (s.giveUp c ret) else none
  | .connect reused =>
    -- the number of a descriptor that is open is not given away
    if reused ∧ s.isOpen ∧ s.writing.any (·.linked) then none else some (s.connect reused)
  | .close reset =>
    some { s with
      prv := { s.prv with connected := if reset then false else s.prv.connected }
      isOpen := false }
  | .register id handler => some { s with prv := s.prv.register id handler }
  | .processSolicited token err =>
    (s.prv.step (.processSolicited token err)).map fun prv => { s with prv := prv }
  | .finish => (s.prv.step .finish).map fun prv => { s with prv := prv }

end

end RequestStream

/-! ## 2. What is on the stream -/

section

variable (writes : ParcelWrites)

def Sent.body (x : Sent) : List UInt8 := requestBody writes x.token x.call.request.data

def Writing.body (w : Writing) : List UInt8 := requestBody writes w.token w.call.request.data

/-- The bytes of a record that are still to be written. -/
def Writing.remaining (w : Writing) : List UInt8 :=
  w.left ++ if w.inBody then [] else w.body writes

end

/-- The arguments are accepted, and the length of the data is an `int32_t` in the parcel. -/
structure ApiCall.Fits (c : ApiCall) : Prop where
  valid : c.request.valid = true
  length_lt : c.request.data.length < 2 ^ 31 - 16

theorem ApiCall.Fits.length_body {writes : ParcelWrites} {reads : ParcelReads}
    (hdoc : writes.Documented reads) {c : ApiCall} (h : c.Fits) (token : Token) :
    (requestBody writes token c.request.data).length < 2 ^ 32 := by
  have hbody := length_requestBody hdoc token c.request.data
  have hlength := h.length_lt
  omega

def RequestOp.Legal : RequestOp → Prop
  | .call c => c.request.data.length < 2 ^ 31 - 16
  | _ => True

namespace RequestStream

/-- The bodies that the socket took whole. -/
def bodies (writes : ParcelWrites) (s : RequestStream) : List (List UInt8) :=
  (s.sent.filter (·.place = .whole)).map (·.body writes)

/-- The record of the request that was written when the socket was connected. -/
def earlierRecord (writes : ParcelWrites) (s : RequestStream) : List UInt8 :=
  s.earlier.elim [] fun r => recordBytes (requestBody writes r.2 r.1.request.data)

/-- The stream is what it took of a request that began before it, the records of the requests that
succeeded, and `tail` behind them. -/
structure Framed (writes : ParcelWrites) (s : RequestStream) (tail : List UInt8) : Prop where
  received : s.received = s.stray ++ ((s.bodies writes).flatMap recordBytes ++ tail)
  part : s.stray <:+: s.earlierRecord writes
  idle : s.writing = none → Incomplete tail ∧ (s.isOpen = true → tail = [])
  going : ∀ w, s.writing = some w → w.remaining writes <:+ recordBytes (w.body writes)
  whole : ∀ w, s.writing = some w → w.place = .whole →
    w.linked = true ∧ tail ++ w.remaining writes = recordBytes (w.body writes)
  cut : ∀ w, s.writing = some w → w.place = .cut → s.isOpen = false ∧ Incomplete tail
  astray : ∀ w, s.writing = some w → w.place = .astray →
    s.earlier = some (w.call, w.token) ∧ s.bodies writes = [] ∧ tail = [] ∧
      (w.linked = false → s.stray = []) ∧
      (s.isOpen = true → s.stray ++ w.remaining writes <:+ recordBytes (w.body writes))

/-- Calls on their way fit, and those that succeeded are the ones sent. -/
structure Accounted (s : RequestStream) : Prop where
  waiting : ∀ c ∈ s.waiting, c.Fits
  writing : ∀ w, s.writing = some w → w.call.Fits ∧ IsBit w.token
  sent : ∀ x ∈ s.sent, x.call.Fits ∧ IsBit x.token ∧ (s.isOpen = true → x.place ≠ .cut) ∧
    (x.place = .astray → s.earlier = some (x.call, x.token))
  failing : ∀ f ∈ s.failing, f.2 ≠ errSuccess
  returned : (s.returned.filter fun r => r.2 = errSuccess).map (·.1) = s.sent.map (·.call)

section

variable {writes : ParcelWrites} {s t : RequestStream} {tail : List UInt8}

theorem errAgain_ne : errAgain ≠ errSuccess := by decide

theorem errUnknown_ne : errUnknown ≠ errSuccess := by decide

/-- Only the bytes on the socket and the requests they are from count. -/
theorem Framed.of_eq (h : s.Framed writes tail) (hreceived : t.received = s.received)
    (hearlier : t.earlier = s.earlier) (hstray : t.stray = s.stray) (hsent : t.sent = s.sent)
    (hwriting : t.writing = s.writing) (hopen : t.isOpen = s.isOpen) : t.Framed writes tail := by
  have hbodies : t.bodies writes = s.bodies writes := by
    unfold bodies
    rw [hsent]
  have hrecord : t.earlierRecord writes = s.earlierRecord writes := by
    unfold earlierRecord
    rw [hearlier]
  constructor
  · rw [hreceived, hstray, hbodies]
    exact h.received
  · rw [hstray, hrecord]
    exact h.part
  · rw [hwriting, hopen]
    exact h.idle
  · rw [hwriting]
    exact h.going
  · rw [hwriting]
    exact h.whole
  · rw [hwriting, hopen]
    exact h.cut
  · rw [hwriting, hopen, hearlier, hstray, hbodies]
    exact h.astray

/-- A request that is not sent returns its error. -/
theorem returned_error (h : s.Accounted) {c : ApiCall} {ret : Nat} (hret : ret ≠ errSuccess) :
    ((s.returned ++ [(c, ret)]).filter fun r => r.2 = errSuccess).map (·.1) =
      s.sent.map (·.call) := by
  rw [List.filter_append, List.filter_cons_of_neg (by simpa using hret), List.filter_nil,
    List.append_nil]
  exact h.returned

theorem call_framed (h : s.Framed writes tail) (c : ApiCall) : (s.call c).Framed writes tail := by
  unfold call
  split
  · exact h.of_eq rfl rfl rfl rfl rfl rfl
  · split
    · exact h.of_eq rfl rfl rfl rfl rfl rfl
    · exact h.of_eq rfl rfl rfl rfl rfl rfl

theorem call_accounted (h : s.Accounted) {c : ApiCall} (hc : (RequestOp.call c).Legal) :
    (s.call c).Accounted := by
  unfold call
  split
  · exact ⟨h.waiting, h.writing, h.sent, h.failing, returned_error h (by decide)⟩
  · split
    · exact ⟨h.waiting, h.writing, h.sent, h.failing, returned_error h (by decide)⟩
    · rename_i hvalid
      refine ⟨fun d hd => ?_, h.writing, h.sent, h.failing, h.returned⟩
      rcases List.mem_append.mp hd with hold | hnew
      · exact h.waiting d hold
      · obtain rfl := List.mem_singleton.mp hnew
        exact ⟨not_not.mp hvalid, hc⟩

theorem fail_framed (h : s.Framed writes tail) (hidle : s.writing = none) (c : ApiCall)
    (r : Nat × RilClientPrv) : (s.fail c r).Framed writes tail :=
  h.of_eq rfl rfl rfl rfl hidle.symm rfl

theorem fail_accounted (h : s.Accounted) (c : ApiCall) {r : Nat × RilClientPrv}
    (hr : r.1 ≠ errSuccess) : (s.fail c r).Accounted where
  waiting := h.waiting
  writing w hw := by cases hw
  sent := h.sent
  failing f hf := by
    rcases List.mem_append.mp hf with hold | hnew
    · exact h.failing f hold
    · obtain rfl := List.mem_singleton.mp hnew
      exact hr
  returned := h.returned

theorem lock_framed (h : s.Framed writes tail) (hidle : s.writing = none) (c : ApiCall) :
    (s.lock writes c).Framed writes tail := by
  have hs : ({ s with waiting := s.waiting.erase c } : RequestStream).Framed writes tail :=
    h.of_eq rfl rfl rfl rfl rfl rfl
  unfold lock
  dsimp only
  split
  · exact fail_framed hs hidle c _
  · split
    · exact fail_framed hs hidle c _
    · cases recordReqHistory { token := (allocateToken s.prv.tokenPool).1, id := c.request.reqId }
        s.prv.history with
      | none => exact fail_framed hs hidle c _
      | some history =>
        -- the socket took nothing yet, if it is open; else all of it will be lost
        have hplace : ∀ {p : Place}, (if s.isOpen then Place.whole else Place.cut) = p →
            s.isOpen = true ∧ p = .whole ∨ s.isOpen = false ∧ p = .cut := by
          rintro _ rfl
          cases s.isOpen with
          | true => exact .inl ⟨rfl, rfl⟩
          | false => exact .inr ⟨rfl, rfl⟩
        refine ⟨h.received, h.part, (fun hw => by cases hw), fun w hw => ?_, fun w hw hwhole => ?_,
          fun w hw hcut => ?_, fun w hw hastray => ?_⟩
        · obtain rfl := Option.some.inj hw
          exact List.suffix_refl _
        · obtain rfl := Option.some.inj hw
          rcases hplace hwhole with ⟨hopen, -⟩ | ⟨-, hne⟩
          · rw [(h.idle hidle).2 hopen]
            exact ⟨rfl, rfl⟩
          · cases hne
        · obtain rfl := Option.some.inj hw
          rcases hplace hcut with ⟨-, hne⟩ | ⟨hclosed, -⟩
          · cases hne
          · exact ⟨hclosed, (h.idle hidle).1⟩
        · obtain rfl := Option.some.inj hw
          rcases hplace hastray with ⟨-, hne⟩ | ⟨-, hne⟩
          · cases hne
          · cases hne

theorem lock_accounted (h : s.Accounted) {c : ApiCall} (hc : c ∈ s.waiting) :
    (s.lock writes c).Accounted := by
  have hs : ({ s with waiting := s.waiting.erase c } : RequestStream).Accounted :=
    ⟨fun d hd => h.waiting d (List.mem_of_mem_erase hd), h.writing, h.sent, h.failing, h.returned⟩
  unfold lock
  dsimp only
  split
  · exact fail_accounted hs c errAgain_ne
  · split
    · exact fail_accounted hs c errAgain_ne
    · rename_i hzero
      cases recordReqHistory { token := (allocateToken s.prv.tokenPool).1, id := c.request.reqId }
        s.prv.history with
      | none => exact fail_accounted hs c errUnknown_ne
      | some history =>
        refine ⟨hs.waiting, fun w hw => ?_, h.sent, h.failing, h.returned⟩
        obtain rfl := Option.some.inj hw
        exact ⟨h.waiting c hc, (allocateToken_fst s.prv.tokenPool).resolve_left hzero⟩

theorem giveUp_framed (h : s.Framed writes tail) (c : ApiCall) (ret : Nat) :
    (s.giveUp c ret).Framed writes tail :=
  h.of_eq rfl rfl rfl rfl rfl rfl

theorem giveUp_accounted (h : s.Accounted) {c : ApiCall} {ret : Nat} (hf : (c, ret) ∈ s.failing) :
    (s.giveUp c ret).Accounted where
  waiting := h.waiting
  writing := h.writing
  sent := h.sent
  failing f hmem := h.failing f (List.mem_of_mem_erase hmem)
  returned := returned_error h (h.failing _ hf)

/-- A record with bytes left is not there to its end. -/
theorem incomplete_of_left {w : Writing} (hfits : (w.body writes).length < 2 ^ 32)
    (hleft : w.left ≠ []) (h : tail ++ w.remaining writes = recordBytes (w.body writes)) :
    Incomplete tail := by
  refine ⟨w.body writes, w.remaining writes, hfits, fun hnil => ?_, h⟩
  exact hleft (List.append_eq_nil_iff.mp hnil).1

/-- The bytes that a write takes move from what remains to what is in front of it. -/
theorem remaining_take {w : Writing} (n : Nat) (front : List UInt8) :
    front ++ w.left.take n ++ { w with left := w.left.drop n }.remaining writes =
      front ++ w.remaining writes := by
  unfold Writing.remaining
  rw [List.append_assoc, ← List.append_assoc (w.left.take n), List.take_append_drop]
  rfl

theorem going_taken {w : Writing} (h : w.remaining writes <:+ recordBytes (w.body writes)) (n : Nat) :
    { w with left := w.left.drop n }.remaining writes <:+ recordBytes (w.body writes) := by
  refine List.IsSuffix.trans ⟨w.left.take n, ?_⟩ h
  exact remaining_take n []

/-- An open socket took all bytes of a request that began on it. -/
theorem Framed.linked_of_whole (h : s.Framed writes tail) {w : Writing} (hw : s.writing = some w)
    (hplace : w.place ≠ .astray) (hopen : s.isOpen = true) :
    w.place = .whole ∧ w.linked = true := by
  cases hw' : w.place with
  | whole => exact ⟨rfl, (h.whole w hw hw').1⟩
  | cut =>
    rw [(h.cut w hw hw').1] at hopen
    cases hopen
  | astray => exact absurd hw' hplace

/-- What is there of a request that some bytes of are missing. -/
theorem Framed.incomplete (h : s.Framed writes tail) {w : Writing} (hw : s.writing = some w)
    (hfits : (w.body writes).length < 2 ^ 32) (hleft : w.left ≠ []) : Incomplete tail := by
  cases hplace : w.place with
  | whole => exact incomplete_of_left hfits hleft (h.whole w hw hplace).2
  | cut => exact (h.cut w hw hplace).2
  | astray =>
    obtain ⟨-, -, rfl, -⟩ := h.astray w hw hplace
    exact incomplete_nil

/-- Where a write goes on, the bytes that were taken move from what remains to the stream. -/
theorem taken_framed (h : s.Framed writes tail) {w : Writing} (hw : s.writing = some w)
    (hfits : (w.body writes).length < 2 ^ 32) (hleft : w.left ≠ []) (n : Nat) :
    ∃ tail, (s.write w (.taken n)).Framed writes tail := by
  have hgoing := going_taken (h.going w hw) n
  unfold write
  dsimp only
  by_cases hlinked : s.isOpen = true ∧ w.linked = true
  · rw [if_pos hlinked]
    by_cases hplace : w.place = .astray
    -- the bytes are those of a request that began on another connection
    · rw [if_pos hplace]
      obtain ⟨hearlier, hnone, rfl, -, hstray⟩ := h.astray w hw hplace
      have hrest := hstray hlinked.1
      rw [← remaining_take n] at hrest
      refine ⟨[], ?_, ?_, (fun hw' => by cases hw'), fun w' hw' => ?_, fun w' hw' hne => ?_,
        fun w' hw' hne => ?_, fun w' hw' _ => ?_⟩
      · change s.received ++ w.left.take n =
          s.stray ++ w.left.take n ++ ((s.bodies writes).flatMap recordBytes ++ [])
        rw [h.received, hnone]
        simp only [List.flatMap_nil, List.append_nil]
      · change s.stray ++ w.left.take n <:+: s.earlierRecord writes
        unfold earlierRecord
        rw [hearlier]
        obtain ⟨before, hbefore⟩ := hrest
        exact ⟨before, _, (List.append_assoc _ _ _).trans hbefore⟩
      · obtain rfl := Option.some.inj hw'
        exact hgoing
      · obtain rfl := Option.some.inj hw'
        exact absurd (hplace.symm.trans hne) (by decide)
      · obtain rfl := Option.some.inj hw'
        exact absurd (hplace.symm.trans hne) (by decide)
      · obtain rfl := Option.some.inj hw'
        refine ⟨hearlier, hnone, rfl, fun hun => ?_, fun _ => hrest⟩
        exact absurd (hlinked.2.symm.trans hun) (by decide)
    · rw [if_neg hplace]
      obtain ⟨hwhole, -⟩ := h.linked_of_whole hw hplace hlinked.1
      refine ⟨tail ++ w.left.take n, ?_, h.part, (fun hw' => by cases hw'), fun w' hw' => ?_,
        fun w' hw' _ => ?_, fun w' hw' hne => ?_, fun w' hw' hne => ?_⟩
      · change s.received ++ w.left.take n =
          s.stray ++ ((s.bodies writes).flatMap recordBytes ++ (tail ++ w.left.take n))
        rw [h.received, List.append_assoc, List.append_assoc]
      · obtain rfl := Option.some.inj hw'
        exact hgoing
      · obtain rfl := Option.some.inj hw'
        exact ⟨hlinked.2, (remaining_take n tail).trans (h.whole w hw hwhole).2⟩
      · obtain rfl := Option.some.inj hw'
        exact absurd (hwhole.symm.trans hne) (by decide)
      · obtain rfl := Option.some.inj hw'
        exact absurd hne hplace
  · rw [if_neg hlinked]
    by_cases hplace : w.place = .astray
    -- the bytes go elsewhere, and the socket has had none if it is open
    · rw [if_pos hplace]
      obtain ⟨hearlier, hnone, rfl, hun, -⟩ := h.astray w hw hplace
      refine ⟨[], h.received, h.part, (fun hw' => by cases hw'), fun w' hw' => ?_,
        fun w' hw' hne => ?_, fun w' hw' hne => ?_, fun w' hw' _ => ?_⟩
      · obtain rfl := Option.some.inj hw'
        exact hgoing
      · obtain rfl := Option.some.inj hw'
        cases hne
      · obtain rfl := Option.some.inj hw'
        cases hne
      · obtain rfl := Option.some.inj hw'
        refine ⟨hearlier, hnone, rfl, hun, fun hopen => ?_⟩
        change s.isOpen = true at hopen
        show s.stray ++ _ <:+ _
        rw [hun (Bool.eq_false_iff.mpr fun hl => hlinked ⟨hopen, hl⟩)]
        exact hgoing
    -- the connection was lost in the middle of the request: its stream ends here
    · rw [if_neg hplace]
      have hclosed : s.isOpen = false :=
        Bool.eq_false_iff.mpr fun hopen =>
          hlinked ⟨hopen, (h.linked_of_whole hw hplace hopen).2⟩
      refine ⟨tail, h.received, h.part, (fun hw' => by cases hw'), fun w' hw' => ?_,
        fun w' hw' hne => ?_, fun w' hw' _ => ⟨hclosed, h.incomplete hw hfits hleft⟩,
        fun w' hw' hne => ?_⟩
      · obtain rfl := Option.some.inj hw'
        exact hgoing
      · obtain rfl := Option.some.inj hw'
        cases hne
      · obtain rfl := Option.some.inj hw'
        cases hne

/-- Where a write fails, the descriptor is closed behind what it took. -/
theorem failed_framed (h : s.Framed writes tail) {w : Writing} (hw : s.writing = some w)
    (hfits : (w.body writes).length < 2 ^ 32) (hleft : w.left ≠ []) (errno : Nat) :
    (s.write w (.failed errno)).Framed writes tail where
  received := h.received
  part := h.part
  idle _ := by
    refine ⟨h.incomplete hw hfits hleft, fun hopen => ?_⟩
    change (s.isOpen && !w.linked && _) = true at hopen
    rw [Bool.and_eq_true, Bool.and_eq_true] at hopen
    by_cases hplace : w.place = .astray
    · exact (h.astray w hw hplace).2.2.1
    · rw [(h.linked_of_whole hw hplace hopen.1.1).2] at hopen
      cases hopen.1.2
  going w' hw' := by cases hw'
  whole w' hw' := by cases hw'
  cut w' hw' := by cases hw'
  astray w' hw' := by cases hw'

theorem Accounted.of_closed (h : s.Accounted) {isOpen : Bool}
    (hopen : isOpen = true → s.isOpen = true) :
    ({ s with isOpen := isOpen } : RequestStream).Accounted := by
  refine ⟨h.waiting, h.writing, fun x hx => ?_, h.failing, h.returned⟩
  obtain ⟨hfits, hbit, hcut, hastray⟩ := h.sent x hx
  exact ⟨hfits, hbit, fun ho => hcut (hopen ho), hastray⟩

theorem write_accounted (h : s.Accounted) {w : Writing} (hw : s.writing = some w)
    (outcome : WriteOutcome) : (s.write w outcome).Accounted := by
  cases outcome with
  | taken n =>
    unfold write
    dsimp only
    split
    · refine ⟨h.waiting, fun w' hw' => ?_, h.sent, h.failing, h.returned⟩
      obtain rfl := Option.some.inj hw'
      exact h.writing w hw
    · refine ⟨h.waiting, fun w' hw' => ?_, h.sent, h.failing, h.returned⟩
      obtain rfl := Option.some.inj hw'
      exact h.writing w hw
  | interrupted => exact h
  | failed errno =>
    refine fail_accounted (h.of_closed fun hopen => ?_) w.call errUnknown_ne
    rw [Bool.and_eq_true, Bool.and_eq_true] at hopen
    exact hopen.1.1

/-- Writes that succeeded make the call succeed. -/
theorem transmit_fst (prv : RilClientPrv) (token : Token) : (prv.transmit token 0 0).1 = errSuccess := by
  unfold RilClientPrv.transmit
  rw [if_neg (Int.lt_irrefl 0), if_neg (Int.lt_irrefl 0)]
  split <;> rfl

theorem bodies_sent {x : Sent} (h : t.sent = s.sent ++ [x]) :
    t.bodies writes = s.bodies writes ++ if x.place = .whole then [x.body writes] else [] := by
  unfold bodies
  rw [h, List.filter_append, List.map_append, List.filter_singleton]
  by_cases hplace : x.place = .whole
  · rw [if_pos hplace, decide_eq_true hplace]
    rfl
  · rw [if_neg hplace, decide_eq_false hplace]
    rfl

theorem written_framed (h : s.Framed writes tail) {w : Writing} (hw : s.writing = some w)
    (hleft : w.left = []) : ∃ tail, (s.written writes w).Framed writes tail := by
  have hremaining : w.remaining writes = if w.inBody then [] else w.body writes := by
    unfold Writing.remaining
    rw [hleft, List.nil_append]
  unfold written
  by_cases hbody : w.inBody = true
  · rw [if_pos hbody]
    rw [if_pos hbody] at hremaining
    dsimp only
    by_cases hplace : w.place = .whole
    -- the record is complete
    · have htaken := (h.whole w hw hplace).2
      rw [hremaining, List.append_nil] at htaken
      refine ⟨[], ?_, h.part, fun _ => ⟨incomplete_nil, fun _ => rfl⟩, (fun w' hw' => by cases hw'),
        (fun w' hw' => by cases hw'), (fun w' hw' => by cases hw'), fun w' hw' => by cases hw'⟩
      rw [bodies_sent rfl, if_pos hplace, List.flatMap_append, List.append_nil]
      show s.received = _
      rw [h.received, htaken]
      rw [List.flatMap_cons, List.flatMap_nil, List.append_nil]
      rfl
    · have hidle : Incomplete tail ∧ (s.isOpen = true → tail = []) := by
        cases hw' : w.place with
        | whole => exact absurd hw' hplace
        | cut =>
          obtain ⟨hclosed, htail⟩ := h.cut w hw hw'
          exact ⟨htail, fun hopen => absurd (hopen.symm.trans hclosed) (by decide)⟩
        | astray =>
          obtain ⟨-, -, rfl, -⟩ := h.astray w hw hw'
          exact ⟨incomplete_nil, fun _ => rfl⟩
      refine ⟨tail, ?_, h.part, fun _ => hidle, (fun w' hw' => by cases hw'),
        (fun w' hw' => by cases hw'), (fun w' hw' => by cases hw'), fun w' hw' => by cases hw'⟩
      rw [bodies_sent rfl, if_neg hplace, List.append_nil]
      exact h.received
  -- the header is written, and the body takes its place in what remains
  · rw [if_neg hbody]
    rw [if_neg hbody] at hremaining
    have hsame : ({ w with
        inBody := true
        left := requestBody writes w.token w.call.request.data
        linked := true } : Writing).remaining writes = w.remaining writes :=
      (List.append_nil _).trans hremaining.symm
    refine ⟨tail, h.received, h.part, (fun hw' => by cases hw'), fun w' hw' => ?_,
      fun w' hw' hwhole => ?_, fun w' hw' hcut => ?_, fun w' hw' hastray => ?_⟩
    · obtain rfl := Option.some.inj hw'
      rw [hsame]
      exact h.going w hw
    · obtain rfl := Option.some.inj hw'
      rw [hsame]
      exact ⟨rfl, (h.whole w hw hwhole).2⟩
    · obtain rfl := Option.some.inj hw'
      exact h.cut w hw hcut
    · obtain rfl := Option.some.inj hw'
      obtain ⟨hearlier, hnone, htail, -, hstray⟩ := h.astray w hw hastray
      rw [hsame]
      exact ⟨hearlier, hnone, htail, (fun hun => by cases hun), hstray⟩

theorem written_accounted (h : s.Accounted) (hf : s.Framed writes tail) {w : Writing}
    (hw : s.writing = some w) : (s.written writes w).Accounted := by
  unfold written
  split
  · refine ⟨h.waiting, (fun w' hw' => by cases hw'), fun x hx => ?_, h.failing, ?_⟩
    · rcases List.mem_append.mp hx with hold | hnew
      · exact h.sent x hold
      · obtain rfl := List.mem_singleton.mp hnew
        refine ⟨(h.writing w hw).1, (h.writing w hw).2, fun hopen hcut => ?_,
          fun hastray => (hf.astray w hw hastray).1⟩
        exact absurd (hopen.symm.trans (hf.cut w hw hcut).1) (by decide)
    · change ((s.returned ++ [(w.call, (s.prv.transmit w.token 0 0).1)]).filter
        fun r => r.2 = errSuccess).map (·.1) =
          (s.sent ++ [(⟨w.call, w.token, w.place⟩ : Sent)]).map (·.call)
      rw [transmit_fst, List.filter_append, List.map_append, List.map_append, h.returned]
      rfl
  · refine ⟨h.waiting, fun w' hw' => ?_, h.sent, h.failing, h.returned⟩
    obtain rfl := Option.some.inj hw'
    exact h.writing w hw

/-- On a new socket nothing is there yet, and what remains of a request is astray. -/
theorem connect_framed (h : s.Framed writes tail) (reused : Bool) :
    (s.connect reused).Framed writes [] := by
  refine ⟨rfl, ⟨[], _, rfl⟩, fun _ => ⟨incomplete_nil, fun _ => rfl⟩, fun w hw => ?_,
    fun w hw hne => ?_, fun w hw hne => ?_, fun w hw _ => ?_⟩
  · obtain ⟨w, hold, rfl⟩ := Option.map_eq_some_iff.mp hw
    exact h.going w hold
  · obtain ⟨w, hold, rfl⟩ := Option.map_eq_some_iff.mp hw
    cases hne
  · obtain ⟨w, hold, rfl⟩ := Option.map_eq_some_iff.mp hw
    cases hne
  · obtain ⟨w, hold, rfl⟩ := Option.map_eq_some_iff.mp hw
    refine ⟨?_, rfl, rfl, fun _ => rfl, fun _ => h.going w hold⟩
    show s.writing.map _ = _
    rw [hold]
    rfl

theorem connect_accounted (h : s.Accounted) (reused : Bool) : (s.connect reused).Accounted := by
  refine ⟨h.waiting, fun w hw => ?_, List.forall_mem_nil _, h.failing, rfl⟩
  obtain ⟨w, hold, rfl⟩ := Option.map_eq_some_iff.mp hw
  exact h.writing w hold

theorem close_framed (h : s.Framed writes tail) (prv : RilClientPrv) :
    ({ s with prv := prv, isOpen := false } : RequestStream).Framed writes tail := by
  refine ⟨h.received, h.part, fun hw => ⟨(h.idle hw).1, fun hopen => by cases hopen⟩, h.going,
    h.whole, fun w hw hcut => ⟨rfl, (h.cut w hw hcut).2⟩, fun w hw hastray => ?_⟩
  obtain ⟨hearlier, hnone, htail, hun, -⟩ := h.astray w hw hastray
  exact ⟨hearlier, hnone, htail, hun, fun hopen => by cases hopen⟩

end

structure Inv (writes : ParcelWrites) (s : RequestStream) : Prop where
  framed : ∃ tail, s.Framed writes tail
  accounted : s.Accounted

section

variable {writes : ParcelWrites} {reads : ParcelReads} {s t : RequestStream}

/-- Steps that leave the stream and the calls alone. -/
theorem Inv.of_prv (h : s.Inv writes) (prv : RilClientPrv) :
    ({ s with prv := prv } : RequestStream).Inv writes where
  framed := h.framed.imp fun _ hf => hf.of_eq rfl rfl rfl rfl rfl rfl
  accounted :=
    ⟨h.accounted.waiting, h.accounted.writing, h.accounted.sent, h.accounted.failing,
      h.accounted.returned⟩

theorem write_inv (hdoc : writes.Documented reads) (h : s.Inv writes) {w : Writing}
    (hw : s.writing = some w) (hleft : w.left ≠ []) (outcome : WriteOutcome) :
    (s.write w outcome).Inv writes where
  framed := by
    obtain ⟨tail, hf⟩ := h.framed
    have hlength := (h.accounted.writing w hw).1.length_body hdoc w.token
    cases outcome with
    | taken n => exact taken_framed hf hw hlength hleft n
    | interrupted => exact ⟨tail, hf⟩
    | failed errno => exact ⟨tail, failed_framed hf hw hlength hleft errno⟩
  accounted := write_accounted h.accounted hw outcome

theorem written_inv (h : s.Inv writes) {w : Writing} (hw : s.writing = some w)
    (hleft : w.left = []) : (s.written writes w).Inv writes where
  framed := by
    obtain ⟨tail, hf⟩ := h.framed
    exact written_framed hf hw hleft
  accounted := by
    obtain ⟨tail, hf⟩ := h.framed
    exact written_accounted h.accounted hf hw

/-- Every step of a thread keeps the stream framed. -/
theorem step_inv (hdoc : writes.Documented reads) (h : s.Inv writes) {op : RequestOp}
    (hop : op.Legal) (hstep : s.step writes op = some t) : t.Inv writes := by
  obtain ⟨tail, hf⟩ := h.framed
  have ha := h.accounted
  cases op with
  | call c =>
    obtain rfl := Option.some.inj hstep
    exact ⟨⟨tail, call_framed hf c⟩, call_accounted ha hop⟩
  | lock c =>
    unfold step at hstep
    dsimp only at hstep
    split at hstep
    · rename_i hc
      obtain rfl := Option.some.inj hstep
      exact ⟨⟨tail, lock_framed hf hc.1 c⟩, lock_accounted ha hc.2⟩
    · cases hstep
  | write outcome =>
    unfold step at hstep
    dsimp only at hstep
    split at hstep
    · rename_i w hw
      split at hstep
      · rename_i hpossible
        obtain rfl := Option.some.inj hstep
        exact write_inv hdoc h hw hpossible.1 outcome
      · cases hstep
    · cases hstep
  | written =>
    unfold step at hstep
    dsimp only at hstep
    split at hstep
    · rename_i w hw
      split at hstep
      · rename_i hleft
        obtain rfl := Option.some.inj hstep
        exact written_inv h hw hleft
      · cases hstep
    · cases hstep
  | giveUp c ret =>
    unfold step at hstep
    dsimp only at hstep
    split at hstep
    · rename_i hmem
      obtain rfl := Option.some.inj hstep
      exact ⟨⟨tail, giveUp_framed hf c ret⟩, giveUp_accounted ha hmem⟩
    · cases hstep
  | connect reused =>
    unfold step at hstep
    dsimp only at hstep
    split at hstep
    · cases hstep
    · obtain rfl := Option.some.inj hstep
      exact ⟨⟨[], connect_framed hf reused⟩, connect_accounted ha reused⟩
  | close reset =>
    obtain rfl := Option.some.inj hstep
    exact ⟨⟨tail, close_framed hf _⟩, (h.of_prv _).accounted.of_closed fun hopen => by cases hopen⟩
  | register id handler =>
    obtain rfl := Option.some.inj hstep
    exact h.of_prv _
  | processSolicited token err =>
    obtain ⟨prv, -, rfl⟩ := Option.map_eq_some_iff.mp hstep
    exact h.of_prv prv
  | finish =>
    obtain ⟨prv, -, rfl⟩ := Option.map_eq_some_iff.mp hstep
    exact h.of_prv prv

end

/-- The body whose last byte the socket took, before its call returns. -/
def completing (writes : ParcelWrites) (s : RequestStream) : List (List UInt8) :=
  match s.writing with
  | some w => if w.place = .whole ∧ w.remaining writes = [] then [w.body writes] else []
  | none => []

theorem forall_bodies {P : List UInt8 → Prop} {writes : ParcelWrites} {s : RequestStream}
    (h : ∀ x ∈ s.sent, P (x.body writes)) : ∀ body ∈ s.bodies writes, P body := by
  intro body hbody
  obtain ⟨x, hx, rfl⟩ := List.mem_map.mp hbody
  exact h x (List.mem_of_mem_filter hx)

/-- In a framed state the daemon reads the requests that were sent, and what is behind them. -/
theorem Inv.readRecords {writes : ParcelWrites} {reads : ParcelReads} {s : RequestStream}
    (hdoc : writes.Documented reads) (h : s.Inv writes) :
    ∃ framed rest, s.received = s.stray ++ framed ∧
      Lib.readRecords framed = (s.bodies writes ++ s.completing writes, rest) ∧
      (s.writing = none → s.isOpen = true → rest = []) := by
  obtain ⟨tail, hf⟩ := h.framed
  have hbodies : ∀ body ∈ s.bodies writes, body.length < 2 ^ 32 :=
    forall_bodies fun x hx => (h.accounted.sent x hx).1.length_body hdoc x.token
  refine ⟨(s.bodies writes).flatMap recordBytes ++ tail, ?_⟩
  unfold completing
  cases hwriting : s.writing with
  | none =>
    refine ⟨tail, hf.received, ?_, fun _ => (hf.idle hwriting).2⟩
    rw [readRecords_append hbodies (hf.idle hwriting).1, List.append_nil]
  | some w =>
    have hlength := (h.accounted.writing w hwriting).1.length_body hdoc w.token
    dsimp only
    -- a record may be complete on the stream before its call returns
    by_cases hdone : w.place = .whole ∧ w.remaining writes = []
    · have htaken := (hf.whole w hwriting hdone.1).2
      rw [hdone.2, List.append_nil] at htaken
      have hflat : (s.bodies writes).flatMap recordBytes ++ tail =
          (s.bodies writes ++ [w.body writes]).flatMap recordBytes ++ [] := by
        rw [List.flatMap_append, List.append_nil, htaken]
        exact congrArg (_ ++ ·) (List.append_nil _).symm
      rw [if_pos hdone]
      refine ⟨[], hf.received, ?_, fun _ _ => rfl⟩
      rw [hflat]
      refine readRecords_append (fun body hbody => ?_) incomplete_nil
      rcases List.mem_append.mp hbody with hold | hnew
      · exact hbodies body hold
      · obtain rfl := List.mem_singleton.mp hnew
        exact hlength
    -- else what is behind the records is the beginning of one
    · have htail : Incomplete tail := by
        cases hplace : w.place with
        | whole =>
          refine ⟨w.body writes, w.remaining writes, hlength, ?_, (hf.whole w hwriting hplace).2⟩
          exact fun hnil => hdone ⟨hplace, hnil⟩
        | cut => exact (hf.cut w hwriting hplace).2
        | astray =>
          obtain ⟨-, -, rfl, -⟩ := hf.astray w hwriting hplace
          exact incomplete_nil
      rw [if_neg hdone]
      refine ⟨tail, hf.received, ?_, fun hnone => by cases hnone⟩
      rw [readRecords_append hbodies htail, List.append_nil]

end RequestStream

/-! ## 3. A parcel -/

namespace RequestStream

instance (op : RequestOp) : Decidable op.Legal :=
  match op with
  | .call c => inferInstanceAs (Decidable (c.request.data.length < _))
  | .lock _ | .write _ | .written | .giveUp _ _ | .connect _ | .close _ | .register _ _
  | .processSolicited _ _ | .finish => inferInstanceAs (Decidable True)

end RequestStream

end Universal7870.SecRil
