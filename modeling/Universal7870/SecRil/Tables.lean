import Mathlib.Data.List.Basic

/-!
# Tables of the RIL client

The token pool, the request history and the handler table of `secril-client.cpp`, with the
functions that read and change them.  A token is one bit of the 32-bit pool.
-/

namespace Universal7870.SecRil

abbrev Token := BitVec 32

def reqPoolSize : Nat := 32

def tokenPoolSize : Nat := 32

/-! ## 1. Tokens -/

def tokenBit (i : Nat) : Token := 1#32 <<< i

/-- The token that is taken, 0 if there is none, and the pool behind it. -/
def allocateToken (pool : Token) : Token × Token :=
  if pool = BitVec.allOnes 32 then (0, pool)
  else
    match (List.range 32).find? fun i => pool &&& tokenBit i = 0 with
    | some i => (tokenBit i, pool ||| tokenBit i)
    | none => (0, pool)

def freeToken (pool token : Token) : Token := pool &&& ~~~token

def isValidToken (pool token : Token) : Bool := token ≠ 0 ∧ pool &&& token = token

def IsBit (token : Token) : Prop := ∃ i < 32, token = tokenBit i

theorem tokenBit_and_not : ∀ i < 32, ∀ j < 32, tokenBit i ≠ tokenBit j →
    ~~~tokenBit i &&& tokenBit j = tokenBit j := by
  decide +kernel

theorem tokenBit_ne_zero : ∀ i < 32, tokenBit i ≠ 0 := by
  decide

theorem IsBit.ne_zero {token : Token} (h : IsBit token) : token ≠ 0 := by
  obtain ⟨i, hi, rfl⟩ := h
  exact tokenBit_ne_zero i hi

theorem allocateToken_fst (pool : Token) :
    (allocateToken pool).1 = 0 ∨ IsBit (allocateToken pool).1 := by
  unfold allocateToken
  split
  · exact Or.inl rfl
  · split
    · rename_i i hi
      exact Or.inr ⟨i, List.mem_range.mp (List.mem_of_find?_eq_some hi), rfl⟩
    · exact Or.inl rfl

theorem isValidToken_iff {pool token : Token} :
    isValidToken pool token = true ↔ token ≠ 0 ∧ pool &&& token = token := by
  unfold isValidToken
  rw [decide_eq_true_iff]

/-- The token that is handed out is in the pool from then on. -/
theorem allocateToken_valid {pool : Token} (h : (allocateToken pool).1 ≠ 0) :
    isValidToken (allocateToken pool).2 (allocateToken pool).1 = true := by
  rw [isValidToken_iff]
  refine ⟨h, ?_⟩
  unfold allocateToken at h ⊢
  split at h
  · exact absurd rfl h
  · rename_i hfull
    rw [if_neg hfull]
    split
    · ext i
      simp only [BitVec.getElem_and, BitVec.getElem_or]
      grind
    · rename_i hnone
      simp only [hnone] at h
      exact absurd rfl h

theorem allocateToken_keeps {pool token : Token} (h : isValidToken pool token = true) :
    isValidToken (allocateToken pool).2 token = true := by
  rw [isValidToken_iff] at h ⊢
  refine ⟨h.1, ?_⟩
  unfold allocateToken
  split
  · exact h.2
  · split
    · rename_i i hi
      have hor : (pool ||| tokenBit i) &&& token = (pool &&& token) ||| (tokenBit i &&& token) := by
        ext k
        simp only [BitVec.getElem_and, BitVec.getElem_or]
        grind
      rw [hor, h.2]
      ext k
      simp only [BitVec.getElem_and, BitVec.getElem_or]
      grind
    · exact h.2

/-- Giving a token back leaves the other tokens in the pool. -/
theorem freeToken_keeps {pool token other : Token} (ht : IsBit token) (ho : IsBit other)
    (hne : token ≠ other) (h : isValidToken pool other = true) :
    isValidToken (freeToken pool token) other = true := by
  obtain ⟨i, hi, rfl⟩ := ht
  obtain ⟨j, hj, rfl⟩ := ho
  rw [isValidToken_iff] at h ⊢
  refine ⟨h.1, ?_⟩
  unfold freeToken
  rw [BitVec.and_assoc, tokenBit_and_not i hi j hj hne, h.2]

/-! ## 2. The request history -/

/-- A request the client has recorded.  `seq`, the number of the request in the order of the
requests, is not in the source: it tells two requests with one id apart. -/
structure ReqHistory where
  token : Token := 0
  id : Nat := 0
  seq : Nat := 0
  deriving DecidableEq, Repr

/-- `RecordReqHistory`: the first free entry is taken; `none` if there is none. -/
def recordReqHistory (entry : ReqHistory) : List ReqHistory → Option (List ReqHistory)
  | [] => none
  | e :: es => if e.token = 0 then some (entry :: es) else (recordReqHistory entry es).map (e :: ·)

/-- `ClearReqHistory`: the first entry with the token is zeroed. -/
def clearReqHistory (token : Token) : List ReqHistory → List ReqHistory
  | [] => []
  | e :: es => if e.token = token then {} :: es else e :: clearReqHistory token es

/-- No two entries in use have one token. -/
def TokensDistinct (history : List ReqHistory) : Prop :=
  history.Pairwise fun a b => a.token = b.token → a.token = 0

theorem mem_of_mem_record {entry e : ReqHistory} {h h' : List ReqHistory}
    (hrec : recordReqHistory entry h = some h') (he : e ∈ h') : e = entry ∨ e ∈ h := by
  induction h generalizing h' with
  | nil => cases hrec
  | cons x xs ih =>
    unfold recordReqHistory at hrec
    split at hrec
    · obtain rfl := Option.some.inj hrec
      rcases List.mem_cons.mp he with heq | hmem
      · exact Or.inl heq
      · exact Or.inr (List.mem_cons_of_mem _ hmem)
    · obtain ⟨ys, hys, rfl⟩ := Option.map_eq_some_iff.mp hrec
      rcases List.mem_cons.mp he with heq | hmem
      · exact Or.inr (heq ▸ List.mem_cons_self ..)
      · exact (ih hys hmem).imp_right (List.mem_cons_of_mem _)

theorem recordReqHistory_distinct {entry : ReqHistory} {h h' : List ReqHistory}
    (hrec : recordReqHistory entry h = some h') (hd : TokensDistinct h)
    (hnew : ∀ e ∈ h, e.token ≠ entry.token) : TokensDistinct h' := by
  unfold TokensDistinct at hd ⊢
  induction h generalizing h' with
  | nil => cases hrec
  | cons x xs ih =>
    rw [List.pairwise_cons] at hd
    unfold recordReqHistory at hrec
    split at hrec
    · obtain rfl := Option.some.inj hrec
      rw [List.pairwise_cons]
      refine ⟨fun e he heq => ?_, hd.2⟩
      exact absurd heq.symm (hnew e (List.mem_cons_of_mem _ he))
    · obtain ⟨ys, hys, rfl⟩ := Option.map_eq_some_iff.mp hrec
      rw [List.pairwise_cons]
      refine ⟨fun e he heq => ?_, ih hys hd.2 fun e he => hnew e (List.mem_cons_of_mem _ he)⟩
      rcases mem_of_mem_record hys he with rfl | hmem
      · exact absurd heq (hnew x (List.mem_cons_self ..))
      · exact hd.1 e hmem heq

theorem mem_of_mem_clear {token : Token} {e : ReqHistory} {h : List ReqHistory}
    (he : e ∈ clearReqHistory token h) : e = {} ∨ e ∈ h := by
  induction h with
  | nil => exact Or.inr he
  | cons x xs ih =>
    unfold clearReqHistory at he
    split at he
    · rcases List.mem_cons.mp he with heq | hmem
      · exact Or.inl heq
      · exact Or.inr (List.mem_cons_of_mem _ hmem)
    · rcases List.mem_cons.mp he with heq | hmem
      · exact Or.inr (heq ▸ List.mem_cons_self ..)
      · exact (ih hmem).imp_right (List.mem_cons_of_mem _)

theorem clearReqHistory_distinct {token : Token} {h : List ReqHistory} (hd : TokensDistinct h) :
    TokensDistinct (clearReqHistory token h) := by
  unfold TokensDistinct at hd ⊢
  induction h with
  | nil => exact List.Pairwise.nil
  | cons x xs ih =>
    rw [List.pairwise_cons] at hd
    unfold clearReqHistory
    split
    · rw [List.pairwise_cons]
      exact ⟨fun _ _ _ => rfl, hd.2⟩
    · rw [List.pairwise_cons]
      refine ⟨fun e he heq => ?_, ih hd.2⟩
      rcases mem_of_mem_clear he with rfl | hmem
      · exact heq
      · exact hd.1 e hmem heq

/-- Where no two entries share a token, clearing a token clears all of it. -/
theorem clearReqHistory_gone {token : Token} (ht : token ≠ 0) {h : List ReqHistory}
    (hd : TokensDistinct h) : ∀ e ∈ clearReqHistory token h, e.token ≠ token := by
  unfold TokensDistinct at hd
  induction h with
  | nil => exact fun e he => absurd he List.not_mem_nil
  | cons x xs ih =>
    rw [List.pairwise_cons] at hd
    intro e he
    unfold clearReqHistory at he
    split at he
    · rename_i hx
      rcases List.mem_cons.mp he with rfl | hmem
      · exact ht.symm
      · intro heq
        exact ht (hx ▸ hd.1 e hmem (hx.trans heq.symm))
    · rename_i hx
      rcases List.mem_cons.mp he with rfl | hmem
      · exact hx
      · exact ih hd.2 e hmem

/-! ## 3. The handler table -/

/-- A completion handler, as a pointer that is not NULL. -/
abbrev Handler := Nat

structure ReqRespHandler where
  id : Nat := 0
  handler : Option Handler := none
  deriving DecidableEq, Repr

/-- `RegisterRequestCompleteHandler`, where `none` unregisters.  The last slot with the id is used,
else the first free one; `none` is returned if there is neither. -/
def registerRequestCompleteHandler (handlers : List ReqRespHandler) (id : Nat)
    (handler : Option Handler) : Option (List ReqRespHandler) :=
  let slots := List.range handlers.length
  let matchSlot := slots.reverse.find? fun i => (handlers.getD i {}).id = id
  let firstEmptySlot := slots.find? fun i => (handlers.getD i {}).id = 0
  match handler with
  | none =>
    match matchSlot with
    | some i => some (handlers.set i {})
    | none => some handlers
  | some f =>
    match matchSlot, firstEmptySlot with
    | some i, _ => some (handlers.set i { handlers.getD i {} with handler := some f })
    | none, some i => some (handlers.set i { id := id, handler := some f })
    | none, none => none

/-- `FindReqHandler`: the first slot whose id is that of an entry with the token, with the entry.
The pointer in the slot is what the caller gets. -/
def findReqSlot (history : List ReqHistory) (handlers : List ReqRespHandler) (token : Token) :
    Option (ReqHistory × ReqRespHandler) :=
  history.findSome? fun e =>
    if e.token = token then (handlers.find? fun h => h.id = e.id).map fun h => (e, h) else none

theorem findReqSlot_spec {history : List ReqHistory} {handlers : List ReqRespHandler}
    {token : Token} {e : ReqHistory} {h : ReqRespHandler}
    (hfind : findReqSlot history handlers token = some (e, h)) :
    e ∈ history ∧ e.token = token ∧ h ∈ handlers ∧ h.id = e.id := by
  obtain ⟨e', he', hslot⟩ := List.exists_of_findSome?_eq_some hfind
  split at hslot
  · rename_i htoken
    obtain ⟨h', hh', hpair⟩ := Option.map_eq_some_iff.mp hslot
    obtain ⟨rfl, rfl⟩ := Prod.mk.inj hpair
    have hid := List.find?_some hh'
    exact ⟨he', htoken, List.mem_of_find?_eq_some hh', of_decide_eq_true hid⟩
  · cases hslot

end Universal7870.SecRil
