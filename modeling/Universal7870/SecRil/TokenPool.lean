import Mathlib.Data.BitVec
import Universal7870.SecRil.Client

/-!
# The token pool and the history

A request takes a bit of the pool and an entry of the history, and both are given back when it
fails, when nobody waits for its answer, or when an answer carries its token.  Requests are whole
calls here; an answer is split where its handler runs, since a handler sends requests of its own.
-/

namespace Universal7870.SecRil

/-! ## 1. The client -/

/-- The answer whose handler runs: its token, and the id the handler was found under. -/
structure Answer where
  token : Token
  reqId : Option Nat
  deriving DecidableEq, Repr

structure RilClientPrv where
  connected : Bool := true
  tokenPool : Token := 0
  history : List ReqHistory := List.replicate tokenPoolSize {}
  reqHandlers : List ReqRespHandler := List.replicate reqPoolSize {}
  delHandler : Bool := false
  answering : Option Answer := none
  deriving DecidableEq, Repr

def errSuccess : Nat := 0

def errAgain : Nat := 1

def errUnknown : Nat := 7

namespace RilClientPrv

/-- `FreeToken`, then `ClearReqHistory`. -/
def giveBack (s : RilClientPrv) (token : Token) : RilClientPrv :=
  { s with
    tokenPool := freeToken s.tokenPool token
    history := clearReqHistory token s.history }

/-- A request failed with the result `ret` of a write. -/
def abort (s : RilClientPrv) (token : Token) (ret : Int) : Nat × RilClientPrv :=
  (errUnknown, { s.giveBack token with
    connected := if ret = errPipe ∨ ret = errBadFd then false else s.connected })

def findReqHandler (s : RilClientPrv) (token : Token) : Option (Nat × Handler) :=
  (findReqSlot s.history s.reqHandlers token).bind fun found =>
    found.2.handler.map fun handler => (found.2.id, handler)

/-- The end of `SendOemRequestHookRaw`; `header` and `body` are the results of its two writes. -/
def transmit (s : RilClientPrv) (token : Token) (header body : Int) : Nat × RilClientPrv :=
  if header < 0 then s.abort token header
  else if body < 0 then s.abort token body
  else if (s.findReqHandler token).isSome then (errSuccess, s)
  else (errSuccess, s.giveBack token)

/-- `SendOemRequestHookRaw` once it has a token. -/
def recordAndTransmit (s : RilClientPrv) (token : Token) (id : Nat) (header body : Int) :
    Nat × RilClientPrv :=
  match recordReqHistory { token := token, id := id } s.history with
  | none => s.abort token 0
  | some history => { s with history := history }.transmit token header body

def sendOemRequestHookRaw (s : RilClientPrv) (id : Nat) (header body : Int) :
    Nat × RilClientPrv :=
  if ¬s.connected then (errAgain, s)
  else
    let taken := allocateToken s.tokenPool
    if taken.1 = 0 then (errAgain, s)
    else { s with tokenPool := taken.2 }.recordAndTransmit taken.1 id header body

def register (s : RilClientPrv) (id : Nat) (handler : Option Handler) : RilClientPrv :=
  { s with
    reqHandlers := (registerRequestCompleteHandler s.reqHandlers id handler).getD s.reqHandlers }

/-- `processSolicited` up to the handler; the message may be too short for a token and for an
error. -/
def processSolicited (s : RilClientPrv) (token : Option Token) (err : Option Int) :
    RilClientPrv :=
  match token with
  | none => s
  | some token =>
    if ¬isValidToken s.tokenPool token then s
    else
      let reqId := if err = some 0 then (s.findReqHandler token).map (·.1) else none
      { s with answering := some { token := token, reqId := reqId } }

/-- `b_del_handler`, after a handler was called. -/
def dropHandler (s : RilClientPrv) : Option Nat → RilClientPrv
  | none => s
  | some id => if s.delHandler then { s with delHandler := false }.register id none else s

/-- The rest of `processSolicited`. -/
def finish (s : RilClientPrv) (answer : Answer) : RilClientPrv :=
  { (s.dropHandler answer.reqId).giveBack answer.token with answering := none }

/-- What happens to a client.  `SetCallVolume` and its like are made of these. -/
inductive Op
  | sendOemRequestHookRaw (id : Nat) (header body : Int)
  | register (id : Nat) (handler : Option Handler)
  | setDelHandler
  /-- The socket is opened or closed. -/
  | connection (up : Bool)
  | processSolicited (token : Option Token) (err : Option Int)
  /-- The handler of the answer returns. -/
  | finish
  deriving DecidableEq, Repr

/-- One thread reads answers, so the next is read when this one is done. -/
def step (s : RilClientPrv) : Op → Option RilClientPrv
  | .sendOemRequestHookRaw id header body => some (s.sendOemRequestHookRaw id header body).2
  | .register id handler => some (s.register id handler)
  | .setDelHandler => some { s with delHandler := true }
  | .connection up => some { s with connected := up }
  | .processSolicited token err =>
    if s.answering = none then some (s.processSolicited token err) else none
  | .finish => s.answering.map s.finish

end RilClientPrv

/-! ## 2. Pool and history -/

/-- A token that is in the pool: a bit that is set. -/
def InPool (pool token : Token) : Prop := ∃ i < 32, token = tokenBit i ∧ pool.getLsbD i = true

def Outstanding (history : List ReqHistory) (token : Token) : Prop :=
  token ≠ 0 ∧ ∃ e ∈ history, e.token = token

/-- The bits that are set are the tokens of the recorded requests, each in one entry. -/
structure InStep (pool : Token) (history : List ReqHistory) : Prop where
  bits : ∀ token, InPool pool token ↔ Outstanding history token
  once : TokensDistinct history

theorem tokenBit_getLsbD {i : Nat} (hi : i < 32) (j : Nat) :
    (tokenBit i).getLsbD j = decide (i = j) := by
  change (BitVec.twoPow 32 i).getLsbD j = _
  rw [BitVec.getLsbD_twoPow, decide_eq_true hi, Bool.true_and]

theorem tokenBit_inj {i j : Nat} (hi : i < 32) (hj : j < 32) (h : tokenBit i = tokenBit j) :
    i = j := by
  have hbit := tokenBit_getLsbD hi j
  rw [h, tokenBit_getLsbD hj j, decide_eq_true rfl] at hbit
  exact of_decide_eq_true hbit.symm

def isSingleBit (token : Token) : Bool := (List.range 32).any fun i => token = tokenBit i

theorem isSingleBit_iff {token : Token} : isSingleBit token = true ↔ IsBit token := by
  simp [isSingleBit, IsBit]

theorem exists_getLsbD_of_ne_zero {token : Token} (h : token ≠ 0) :
    ∃ i < 32, token.getLsbD i = true := by
  by_contra hnone
  apply h
  apply BitVec.eq_of_getLsbD_eq
  intro i hi
  have hunset : ¬token.getLsbD i = true := fun hset => hnone ⟨i, hi, hset⟩
  exact (Bool.not_eq_true _ ▸ hunset).trans BitVec.getLsbD_zero.symm

theorem and_tokenBit_eq_zero {pool : Token} {i : Nat} (hi : i < 32)
    (h : pool &&& tokenBit i = 0) : pool.getLsbD i = false := by
  have hbit := congrArg (fun b => b.getLsbD i) h
  rw [BitVec.getLsbD_and, tokenBit_getLsbD hi, decide_eq_true rfl, Bool.and_true] at hbit
  exact hbit.trans BitVec.getLsbD_zero

/-- A token that is handed out is a bit that was clear. -/
theorem allocateToken_spec (pool : Token) (h : (allocateToken pool).1 ≠ 0) :
    ∃ i < 32, pool.getLsbD i = false ∧ allocateToken pool = (tokenBit i, pool ||| tokenBit i) := by
  unfold allocateToken at h ⊢
  split
  · rename_i hfull
    rw [if_pos hfull] at h
    exact absurd rfl h
  · rename_i hfull
    rw [if_neg hfull] at h
    cases hfind : (List.range 32).find? fun i => pool &&& tokenBit i = 0 with
    | none =>
      rw [hfind] at h
      exact absurd rfl h
    | some i =>
      have hi : i < 32 := List.mem_range.mp (List.mem_of_find?_eq_some hfind)
      have hclear : pool &&& tokenBit i = 0 := by simpa using List.find?_some hfind
      exact ⟨i, hi, and_tokenBit_eq_zero hi hclear, rfl⟩

theorem inPool_or {pool : Token} {i : Nat} (hi : i < 32) (token : Token) :
    InPool (pool ||| tokenBit i) token ↔ InPool pool token ∨ token = tokenBit i := by
  unfold InPool
  constructor
  · rintro ⟨j, hj, rfl, hbit⟩
    rw [BitVec.getLsbD_or, tokenBit_getLsbD hi, Bool.or_eq_true, decide_eq_true_iff] at hbit
    rcases hbit with hold | rfl
    · exact Or.inl ⟨j, hj, rfl, hold⟩
    · exact Or.inr rfl
  · rintro (⟨j, hj, rfl, hbit⟩ | rfl)
    · exact ⟨j, hj, rfl, by rw [BitVec.getLsbD_or, hbit, Bool.true_or]⟩
    · refine ⟨i, hi, rfl, ?_⟩
      rw [BitVec.getLsbD_or, tokenBit_getLsbD hi, decide_eq_true rfl, Bool.or_true]

/-- Of the bits that were set, those of the token are cleared. -/
theorem inPool_free {pool freed : Token} {i : Nat} (hi : i < 32) :
    InPool (freeToken pool freed) (tokenBit i) ↔
      InPool pool (tokenBit i) ∧ freed.getLsbD i = false := by
  have hown : ∀ p : Token, InPool p (tokenBit i) ↔ p.getLsbD i = true := by
    intro p
    constructor
    · rintro ⟨j, hj, hij, hbit⟩
      rw [tokenBit_inj hi hj hij]
      exact hbit
    · exact fun hbit => ⟨i, hi, rfl, hbit⟩
  rw [hown, hown, freeToken, BitVec.getLsbD_and, BitVec.getLsbD_not, decide_eq_true hi,
    Bool.true_and, Bool.and_eq_true, Bool.not_eq_true']

theorem InPool.isBit {pool token : Token} (h : InPool pool token) : IsBit token := by
  obtain ⟨i, hi, heq, _⟩ := h
  exact ⟨i, hi, heq⟩

/-- Giving back one bit clears that bit. -/
theorem inPool_free_isBit {pool freed : Token} (hbit : IsBit freed) (token : Token) :
    InPool (freeToken pool freed) token ↔ InPool pool token ∧ token ≠ freed := by
  by_cases htoken : IsBit token
  · obtain ⟨i, hi, rfl⟩ := htoken
    obtain ⟨j, hj, rfl⟩ := hbit
    rw [inPool_free hi, tokenBit_getLsbD hj, decide_eq_false_iff_not]
    refine and_congr_right fun _ => not_congr ⟨fun h => h ▸ rfl, fun h => ?_⟩
    exact tokenBit_inj hj hi h.symm
  · constructor
    · exact fun h => absurd h.isBit htoken
    · exact fun h => absurd h.1.isBit htoken

theorem outstanding_record {entry : ReqHistory} {h h' : List ReqHistory}
    (hrec : recordReqHistory entry h = some h') (hne : entry.token ≠ 0) (token : Token) :
    Outstanding h' token ↔ Outstanding h token ∨ token = entry.token := by
  induction h generalizing h' with
  | nil => cases hrec
  | cons x xs ih =>
    unfold recordReqHistory at hrec
    split at hrec
    · rename_i hfree
      obtain rfl := Option.some.inj hrec
      simp only [Outstanding, List.exists_mem_cons_iff]
      grind
    · obtain ⟨ys, hys, rfl⟩ := Option.map_eq_some_iff.mp hrec
      have hrest := ih hys
      simp only [Outstanding, List.exists_mem_cons_iff] at hrest ⊢
      grind

/-- An entry with another token stays where it is. -/
theorem clearReqHistory_at {cleared : Token} {h : List ReqHistory} {k : Nat} {e : ReqHistory}
    (he : h[k]? = some e) (hne : e.token ≠ cleared) : (clearReqHistory cleared h)[k]? = some e := by
  induction h generalizing k with
  | nil => cases he
  | cons x xs ih =>
    unfold clearReqHistory
    cases k with
    | zero =>
      obtain rfl := Option.some.inj he
      rw [if_neg hne]
      rfl
    | succ k =>
      split
      · exact he
      · exact ih he

theorem outstanding_clear {cleared : Token} (hne : cleared ≠ 0) {h : List ReqHistory}
    (hd : TokensDistinct h) (token : Token) :
    Outstanding (clearReqHistory cleared h) token ↔ Outstanding h token ∧ token ≠ cleared := by
  have hgone := clearReqHistory_gone hne hd
  constructor
  · rintro ⟨hzero, e, he, rfl⟩
    rcases mem_of_mem_clear he with rfl | hmem
    · exact absurd rfl hzero
    · exact ⟨⟨hzero, e, hmem, rfl⟩, hgone e he⟩
  · rintro ⟨⟨hzero, e, he, rfl⟩, hother⟩
    obtain ⟨k, hk⟩ := List.mem_iff_getElem?.mp he
    exact ⟨hzero, e, List.mem_of_getElem? (clearReqHistory_at hk hother), rfl⟩

/-- A token that is given back is in neither of the two; it may have been in one only before. -/
theorem InStep.giveBack {pool token : Token} {h : List ReqHistory} (hbit : IsBit token)
    (hbits : ∀ t, t ≠ token → (InPool pool t ↔ Outstanding h t)) (hd : TokensDistinct h) :
    InStep (freeToken pool token) (clearReqHistory token h) where
  bits t := by
    rw [inPool_free_isBit hbit, outstanding_clear hbit.ne_zero hd]
    exact and_congr_left (hbits t)
  once := clearReqHistory_distinct hd

/-- A token that is handed out and recorded. -/
theorem InStep.record {pool token : Token} {h h' : List ReqHistory} (hstep : InStep pool h)
    {i : Nat} (hi : i < 32) (hclear : pool.getLsbD i = false) (htoken : token = tokenBit i)
    {entry : ReqHistory} (hentry : entry.token = token)
    (hrec : recordReqHistory entry h = some h') : InStep (pool ||| token) h' := by
  subst htoken
  have hne : entry.token ≠ 0 := by
    rw [hentry]
    exact tokenBit_ne_zero i hi
  constructor
  · intro t
    rw [inPool_or hi, outstanding_record hrec hne, hstep.bits t, hentry]
  · apply recordReqHistory_distinct hrec hstep.once
    intro e he heq
    have hin : InPool pool (tokenBit i) :=
      (hstep.bits _).mpr ⟨tokenBit_ne_zero i hi, e, he, heq.trans hentry⟩
    obtain ⟨j, hj, hij, hset⟩ := hin
    rw [← tokenBit_inj hi hj hij, hclear] at hset
    cases hset

/-! ## 3. One operation -/

namespace RilClientPrv

/-- The pool and the history say the same. -/
def Consistent (s : RilClientPrv) : Prop := InStep s.tokenPool s.history

/-- Bits other than the token's and entries with another token are left as they are. -/
structure ChangesOnly (s s' : RilClientPrv) (token : Token) : Prop where
  pool : ∀ t, t ≠ token → (InPool s'.tokenPool t ↔ InPool s.tokenPool t)
  history : ∀ (k : Nat) (e : ReqHistory), s.history[k]? = some e → e.token ≠ token →
    s'.history[k]? = some e

/-- What an operation may do: a request is given a bit that was clear, and an answer changes the
request whose token it carries. -/
def Proper (s s' : RilClientPrv) : Op → Prop
  | .sendOemRequestHookRaw .. =>
    (allocateToken s.tokenPool).1 ≠ 0 →
      IsBit (allocateToken s.tokenPool).1 ∧ ¬InPool s.tokenPool (allocateToken s.tokenPool).1
  | .processSolicited .. => s'.tokenPool = s.tokenPool ∧ s'.history = s.history
  | .finish => ∀ answer, s.answering = some answer → s.ChangesOnly s' answer.token
  | _ => True

/-- The answer that is being processed carries a single bit. -/
def SingleBit (s : RilClientPrv) (op : Op) : Prop :=
  op = .finish → ∀ answer, s.answering = some answer → IsBit answer.token

/-- The invariant: all bits of the token being answered are in the pool. -/
structure Inv (s : RilClientPrv) : Prop where
  consistent : s.Consistent
  answering : ∀ answer, s.answering = some answer → answer.token ≠ 0 ∧
    ∀ i < 32, answer.token.getLsbD i = true → InPool s.tokenPool (tokenBit i)

theorem inv_start : Inv {} where
  consistent := by
    constructor
    · intro t
      constructor
      · rintro ⟨i, hi, _, hset⟩
        exact absurd hset (by simp)
      · rintro ⟨hne, e, he, rfl⟩
        exact absurd (congrArg ReqHistory.token (List.eq_of_mem_replicate he)) hne
    · exact List.pairwise_replicate.mpr (Or.inr fun _ => rfl)
  answering := nofun

/-- What leaves the two tables and the answer alone. -/
theorem Inv.of_eq {s s' : RilClientPrv} (h : s.Inv) (hpool : s'.tokenPool = s.tokenPool)
    (hhistory : s'.history = s.history) (hanswer : s'.answering = s.answering) : s'.Inv where
  consistent := by
    unfold Consistent
    rw [hpool, hhistory]
    exact h.consistent
  answering := by
    rw [hpool, hanswer]
    exact h.answering

/-- The tables changed, and no token left the pool. -/
theorem Inv.of_inStep {s s' : RilClientPrv} (h : s.Inv)
    (hstep : InStep s'.tokenPool s'.history)
    (hkept : ∀ t, InPool s.tokenPool t → InPool s'.tokenPool t)
    (hanswer : s'.answering = s.answering) : s'.Inv where
  consistent := hstep
  answering answer hsome := by
    rw [hanswer] at hsome
    have hold := h.answering answer hsome
    exact ⟨hold.1, fun i hi hset => hkept _ (hold.2 i hi hset)⟩

/-- A token that was taken for a request is given back. -/
theorem Inv.giveBack {s t : RilClientPrv} (h : s.Inv) {i : Nat} (hi : i < 32)
    (hclear : s.tokenPool.getLsbD i = false) (hpool : t.tokenPool = s.tokenPool ||| tokenBit i)
    (hother : ∀ u, u ≠ tokenBit i → (Outstanding t.history u ↔ Outstanding s.history u))
    (hd : TokensDistinct t.history) (hanswer : t.answering = s.answering) :
    (t.giveBack (tokenBit i)).Inv := by
  have hbit : IsBit (tokenBit i) := ⟨i, hi, rfl⟩
  apply h.of_inStep
  · apply InStep.giveBack hbit
    · intro u hu
      rw [hpool, inPool_or hi, hother u hu, h.consistent.bits u]
      exact or_iff_left hu
    · exact hd
  · intro u hin
    change InPool (freeToken t.tokenPool (tokenBit i)) u
    rw [inPool_free_isBit hbit, hpool, inPool_or hi]
    refine ⟨Or.inl hin, ?_⟩
    -- the bit was clear before
    rintro rfl
    obtain ⟨j, hj, hij, hset⟩ := hin
    rw [← tokenBit_inj hi hj hij, hclear] at hset
    cases hset
  · exact hanswer

theorem abort_inv {s : RilClientPrv} {token : Token} (h : (s.giveBack token).Inv) (ret : Int) :
    (s.abort token ret).2.Inv :=
  h.of_eq rfl rfl rfl

theorem transmit_inv {s : RilClientPrv} {token : Token} (h : s.Inv)
    (hback : (s.giveBack token).Inv) (header body : Int) :
    (s.transmit token header body).2.Inv := by
  unfold transmit
  split
  · exact abort_inv hback header
  · split
    · exact abort_inv hback body
    · split
      · exact h
      · exact hback

theorem sendOemRequestHookRaw_inv {s : RilClientPrv} (h : s.Inv) (id : Nat) (header body : Int) :
    (s.sendOemRequestHookRaw id header body).2.Inv := by
  unfold sendOemRequestHookRaw
  split
  · exact h
  · by_cases hzero : (allocateToken s.tokenPool).1 = 0
    · simp only [hzero, ↓reduceIte]
      exact h
    · obtain ⟨i, hi, hclear, htaken⟩ := allocateToken_spec s.tokenPool hzero
      simp only [htaken, tokenBit_ne_zero i hi, ↓reduceIte]
      unfold recordAndTransmit
      split
      · apply abort_inv
        exact h.giveBack hi hclear rfl (fun _ _ => Iff.rfl) h.consistent.once rfl
      · rename_i history hrec
        have hrecord : InStep (s.tokenPool ||| tokenBit i) history :=
          h.consistent.record hi hclear rfl rfl hrec
        apply transmit_inv
        · apply h.of_inStep hrecord
          · exact fun u hin => (inPool_or hi u).mpr (Or.inl hin)
          · rfl
        · apply h.giveBack hi hclear rfl
          · intro u hu
            rw [outstanding_record hrec (tokenBit_ne_zero i hi)]
            exact or_iff_left hu
          · exact hrecord.once
          · rfl

theorem processSolicited_inv {s : RilClientPrv} (h : s.Inv) (token : Option Token)
    (err : Option Int) : (s.processSolicited token err).Inv := by
  unfold processSolicited
  split
  · exact h
  · split
    · exact h
    · rename_i token hnot
      constructor
      · exact h.consistent
      · intro answer hsome
        obtain rfl := Option.some.inj hsome
        have hvalid := isValidToken_iff.mp (Classical.not_not.mp hnot)
        refine ⟨hvalid.1, fun i hi hset => ⟨i, hi, rfl, ?_⟩⟩
        have hand := congrArg (fun b => b.getLsbD i) hvalid.2
        simp only [BitVec.getLsbD_and, hset, Bool.and_true] at hand
        exact hand

theorem processSolicited_tables (s : RilClientPrv) (token : Option Token) (err : Option Int) :
    (s.processSolicited token err).tokenPool = s.tokenPool ∧
      (s.processSolicited token err).history = s.history := by
  unfold processSolicited
  split
  · exact ⟨rfl, rfl⟩
  · split
    · exact ⟨rfl, rfl⟩
    · exact ⟨rfl, rfl⟩

theorem dropHandler_tables (s : RilClientPrv) (reqId : Option Nat) :
    (s.dropHandler reqId).tokenPool = s.tokenPool ∧
      (s.dropHandler reqId).history = s.history := by
  unfold dropHandler
  split
  · exact ⟨rfl, rfl⟩
  · split
    · exact ⟨rfl, rfl⟩
    · exact ⟨rfl, rfl⟩

theorem finish_tokenPool (s : RilClientPrv) (answer : Answer) :
    (s.finish answer).tokenPool = freeToken s.tokenPool answer.token := by
  change freeToken (s.dropHandler answer.reqId).tokenPool answer.token = _
  rw [(s.dropHandler_tables answer.reqId).1]

theorem finish_history (s : RilClientPrv) (answer : Answer) :
    (s.finish answer).history = clearReqHistory answer.token s.history := by
  change clearReqHistory answer.token (s.dropHandler answer.reqId).history = _
  rw [(s.dropHandler_tables answer.reqId).2]

theorem finish_inv {s : RilClientPrv} (h : s.Inv) {answer : Answer} (hbit : IsBit answer.token) :
    (s.finish answer).Inv := by
  constructor
  · unfold Consistent
    rw [finish_tokenPool, finish_history]
    exact InStep.giveBack hbit (fun t _ => h.consistent.bits t) h.consistent.once
  · exact nofun

theorem finish_changesOnly (s : RilClientPrv) {answer : Answer} (hbit : IsBit answer.token) :
    s.ChangesOnly (s.finish answer) answer.token where
  pool t hother := by
    rw [finish_tokenPool, inPool_free_isBit hbit]
    exact and_iff_left hother
  history k e he hne := by
    rw [finish_history]
    exact clearReqHistory_at he hne

/-- A token with several bits takes the bits of other requests with it. -/
theorem isBit_of_finish {s : RilClientPrv} (h : s.Inv) {answer : Answer}
    (hsome : s.answering = some answer)
    (honly : s.ChangesOnly (s.finish answer) answer.token) : IsBit answer.token := by
  obtain ⟨hne, hbits⟩ := h.answering answer hsome
  obtain ⟨i, hi, hset⟩ := exists_getLsbD_of_ne_zero hne
  by_contra hnot
  have hother : tokenBit i ≠ answer.token := fun heq => hnot ⟨i, hi, heq.symm⟩
  have hkept := (honly.pool _ hother).mpr (hbits i hi hset)
  rw [finish_tokenPool, inPool_free hi, hset] at hkept
  exact absurd hkept.2 (by decide)

/-! ## 4. Whole runs -/

theorem step_inv {s t : RilClientPrv} {op : Op} (h : s.Inv) (hsingle : s.SingleBit op)
    (hstep : s.step op = some t) : t.Inv := by
  cases op with
  | sendOemRequestHookRaw id header body =>
    obtain rfl := Option.some.inj hstep
    exact sendOemRequestHookRaw_inv h id header body
  | register id handler =>
    obtain rfl := Option.some.inj hstep
    exact h.of_eq rfl rfl rfl
  | setDelHandler =>
    obtain rfl := Option.some.inj hstep
    exact h.of_eq rfl rfl rfl
  | connection up =>
    obtain rfl := Option.some.inj hstep
    exact h.of_eq rfl rfl rfl
  | processSolicited token err =>
    simp only [step] at hstep
    split at hstep
    · obtain rfl := Option.some.inj hstep
      exact processSolicited_inv h token err
    · cases hstep
  | finish =>
    obtain ⟨answer, hsome, rfl⟩ := Option.map_eq_some_iff.mp hstep
    exact finish_inv h (hsingle rfl answer hsome)

theorem step_proper {s t : RilClientPrv} {op : Op} (hsingle : s.SingleBit op)
    (hstep : s.step op = some t) : s.Proper t op := by
  cases op with
  | sendOemRequestHookRaw id header body =>
    intro hzero
    obtain ⟨i, hi, hclear, htaken⟩ := allocateToken_spec s.tokenPool hzero
    rw [htaken]
    refine ⟨⟨i, hi, rfl⟩, ?_⟩
    rintro ⟨j, hj, hij, hset⟩
    rw [← tokenBit_inj hi hj hij, hclear] at hset
    cases hset
  | processSolicited token err =>
    simp only [step] at hstep
    split at hstep
    · obtain rfl := Option.some.inj hstep
      exact s.processSolicited_tables token err
    · cases hstep
  | finish =>
    obtain ⟨answer, hsome, rfl⟩ := Option.map_eq_some_iff.mp hstep
    intro answer' hsome'
    obtain rfl := Option.some.inj (hsome.symm.trans hsome')
    exact finish_changesOnly s (hsingle rfl answer hsome)
  | register id handler => trivial
  | setDelHandler => trivial
  | connection up => trivial

/-- While every answer that is processed carries a single bit, pool and history are in step; and
from there an operation keeps them so, and changes what it may, exactly when it processes no answer
with more than one bit. -/
theorem consistent_iff_singleBit (ops : List Op) (s : RilClientPrv)
    (run : Lib.ExecWhere SingleBit (Lib.guarded step) {} ops s) :
    s.Consistent ∧ ∀ op t, s.step op = some t →
      (t.Consistent ∧ s.Proper t op ↔ s.SingleBit op) := by
  have hinv : s.Inv :=
    run.invariant (fun _ _ _ hi hok hstep => step_inv hi hok hstep) inv_start
  refine ⟨hinv.consistent, fun op t hstep => ⟨fun hboth => ?_, fun hsingle => ?_⟩⟩
  · rintro rfl answer hsome
    have honly := hboth.2 answer hsome
    obtain ⟨answer', hsome', rfl⟩ := Option.map_eq_some_iff.mp hstep
    obtain rfl := Option.some.inj (hsome.symm.trans hsome')
    exact isBit_of_finish hinv hsome honly
  · exact ⟨(step_inv hinv hsingle hstep).consistent, step_proper hsingle hstep⟩

instance (s : RilClientPrv) (op : Op) : Decidable (s.SingleBit op) :=
  decidable_of_iff (op = .finish → ∀ answer ∈ s.answering, isSingleBit answer.token = true)
    (forall_congr' fun _ => forall_congr' fun _ => forall_congr' fun _ => isSingleBit_iff)

/-- Two requests, a write that fails, an answer with a token nobody has, and an answer. -/
def answeredOps : List Op :=
  [.register 101 (some 7), .register 106 (some 8), .sendOemRequestHookRaw 101 0 0,
    .sendOemRequestHookRaw 106 0 0, .sendOemRequestHookRaw 103 0 (-32), .connection true,
    .processSolicited (some 12) (some 0), .processSolicited (some 1) (some 0), .finish]

theorem consistent_iff_singleBit_answered :
    ∃ s, answeredOps.foldlM step {} = some s ∧ s.tokenPool = 2 ∧ s.Consistent ∧
      ∀ op t, s.step op = some t → (t.Consistent ∧ s.Proper t op ↔ s.SingleBit op) :=
  ⟨_, rfl, by decide, consistent_iff_singleBit answeredOps _ (.of_foldlM rfl)⟩

/-- An answer with the tokens of two requests in one. -/
def mergedTokenOps : List Op :=
  [.register 101 (some 7), .register 106 (some 8), .sendOemRequestHookRaw 101 0 0,
    .sendOemRequestHookRaw 106 0 0, .processSolicited (some 3) (some 0), .finish]

theorem answer_frees_two_tokens :
    ¬∀ (ops : List Op) (s : RilClientPrv), Lib.Exec (Lib.guarded step) {} ops s →
      s.Consistent := by
  intro hall
  obtain ⟨s, hs, hpool, hmem⟩ : ∃ s, mergedTokenOps.foldlM step {} = some s ∧ s.tokenPool = 0 ∧
      (⟨1, 101, 0⟩ : ReqHistory) ∈ s.history := ⟨_, rfl, by decide, by decide⟩
  have hcons := hall mergedTokenOps s (.of_foldlM hs)
  have hout : Outstanding s.history 1 := ⟨by decide, _, hmem, rfl⟩
  obtain ⟨i, _, _, hset⟩ := (hcons.bits 1).mpr hout
  rw [hpool] at hset
  exact absurd (hset.symm.trans BitVec.getLsbD_zero) (by decide)

end RilClientPrv

end Universal7870.SecRil
