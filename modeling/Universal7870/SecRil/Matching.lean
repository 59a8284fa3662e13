import Mathlib.Data.List.Perm.Subperm
import Universal7870.SecRil.Client

/-!
# Matching answers to requests

An answer finds its request through the token alone.  A request without a handler gives its token
back as soon as it is sent, while its answer is still to come, so the token can be taken by a later
request before the answer arrives.  In runs where that does not happen every answer is passed to the
handler of the request it answers, and once at most.
-/

namespace Universal7870.SecRil

/-! ## 1. Who holds a token -/

def Sender.current : Sender → Option Request
  | .allocated r | .recorded r | .written r | .freeing r | .clearing r
  | .failFreeing r _ | .failClearing r _ => some r
  | _ => none

/-- The sender's request while the sender itself still answers for its history entry. -/
def Sender.owner : Sender → Option Request
  | .written _ => none
  | sender => sender.current

/-- The sender's request until it is sent. -/
def Sender.unsent : Sender → Option Request
  | .allocated r | .recorded r => some r
  | _ => none

def Sender.clearingToken : Sender → Option Token
  | .clearing r | .failClearing r _ => some r.token
  | _ => none

def Reader.current : Reader → Option Request
  | .received r _ | .lookingUp r | .calling r _ _ | .called r _ | .freeing r | .clearing r => some r
  | .idle => none

/-- The reader's request until its handler is called. -/
def Reader.undelivered : Reader → Option Request
  | .received r _ | .lookingUp r | .calling r _ _ => some r
  | _ => none

def Reader.clearingToken : Reader → Option Token
  | .clearing r => some r.token
  | _ => none

namespace State

/-- The requests the daemon has yet to answer, and the one whose answer is being processed. -/
def outstanding (s : State) : List Request := s.reader.current.toList ++ s.awaited

def Live (s : State) (r : Request) : Prop := r ∈ s.outstanding ∨ s.sender.current = some r

def Owner (s : State) (r : Request) : Prop := r ∈ s.outstanding ∨ s.sender.owner = some r

def BeingCleared (s : State) (t : Token) : Prop :=
  s.sender.clearingToken = some t ∨ s.reader.clearingToken = some t

/-- Every request that may still be delivered, or was. -/
def seqs (s : State) : List Nat :=
  s.reader.undelivered.toList.map Request.seq ++ (s.awaited.map Request.seq ++
    (s.sender.unsent.toList.map Request.seq ++ s.deliveries.map fun d => d.answered.seq))

def SeqsOk (s : State) : Prop := s.seqs.Nodup ∧ ∀ n ∈ s.seqs, n < s.nextSeq

/-- The token the next request takes, if one takes it now, is not that of a request whose answer is
still to come or still being processed. -/
def KeepsTokensApart (s : State) (a : Action) : Prop :=
  a = .allocate → ∀ r ∈ s.outstanding, r.token ≠ (allocateToken s.tokenPool).1

/-- Every answer that was passed on came to the entry of the request it answers, through the slot of
that request's id. -/
def Matched (s : State) : Prop :=
  ∀ d ∈ s.deliveries, d.entry = d.answered.entry ∧ d.slot.id = d.answered.id

/-- No request's completion was delivered twice. -/
def DeliveredOnce (s : State) : Prop := (s.deliveries.map fun d => d.answered.seq).Nodup

end State

/-! ## 2. The history under its owners -/

/-- The tokens of the live requests are bits of the pool's width, and tell the requests apart. -/
structure TokensApart (live : Request → Prop) : Prop where
  bit : ∀ r, live r → IsBit r.token
  eq : ∀ r r', live r → live r' → r.token = r'.token → r = r'

theorem TokensApart.mono {live live' : Request → Prop} (h : TokensApart live)
    (hsub : ∀ r, live' r → live r) : TokensApart live' :=
  ⟨fun r hr => h.bit r (hsub r hr), fun r r' hr hr' => h.eq r r' (hsub r hr) (hsub r' hr')⟩

/-- Every entry in use is that of a request which has an owner, and its token is in the pool or on
its way out. -/
structure HistoryOk (history : List ReqHistory) (pool : Token) (owner : Request → Prop)
    (cleared : Token → Prop) : Prop where
  distinct : TokensDistinct history
  owned : ∀ e ∈ history, e.token ≠ 0 → ∃ r, owner r ∧ e = r.entry
  pooled : ∀ e ∈ history, e.token ≠ 0 → isValidToken pool e.token = true ∨ cleared e.token

namespace HistoryOk

variable {history history' : List ReqHistory} {pool pool' : Token} {owner owner' : Request → Prop}
  {cleared cleared' : Token → Prop}

theorem mono (h : HistoryOk history pool owner cleared) (hown : ∀ r, owner r → owner' r)
    (hclr : ∀ t, cleared t → cleared' t) : HistoryOk history pool owner' cleared' := by
  refine ⟨h.distinct, fun e he ht => ?_, fun e he ht => (h.pooled e he ht).imp_right (hclr _)⟩
  obtain ⟨r, hr, heq⟩ := h.owned e he ht
  exact ⟨r, hown r hr, heq⟩

theorem grow (h : HistoryOk history pool owner cleared)
    (hpool : ∀ t, isValidToken pool t = true → isValidToken pool' t = true) :
    HistoryOk history pool' owner cleared :=
  ⟨h.distinct, h.owned, fun e he ht => (h.pooled e he ht).imp_left (hpool _)⟩

theorem record (h : HistoryOk history pool owner cleared) {r : Request} (hr : owner r)
    (hrec : recordReqHistory r.entry history = some history')
    (hnew : ∀ e ∈ history, e.token ≠ r.token) (hvalid : isValidToken pool r.token = true) :
    HistoryOk history' pool owner cleared := by
  refine ⟨recordReqHistory_distinct hrec h.distinct hnew, fun e he ht => ?_, fun e he ht => ?_⟩
  · rcases mem_of_mem_record hrec he with rfl | hmem
    · exact ⟨r, hr, rfl⟩
    · exact h.owned e hmem ht
  · rcases mem_of_mem_record hrec he with rfl | hmem
    · exact Or.inl hvalid
    · exact h.pooled e hmem ht

theorem free (h : HistoryOk history pool owner cleared) {t : Token} (hbit : IsBit t)
    (hbits : ∀ r, owner r → IsBit r.token) (hclr : ∀ c, cleared c → cleared' c) (ht : cleared' t) :
    HistoryOk history (freeToken pool t) owner cleared' := by
  refine ⟨h.distinct, h.owned, fun e he hne => ?_⟩
  by_cases heq : t = e.token
  · exact Or.inr (heq ▸ ht)
  · obtain ⟨r, hr, hentry⟩ := h.owned e he hne
    have hbit' : IsBit e.token := by
      rw [hentry]
      exact hbits r hr
    exact (h.pooled e he hne).imp (freeToken_keeps hbit hbit' heq) (hclr _)

theorem clear (h : HistoryOk history pool owner cleared) {t : Token} (ht : t ≠ 0)
    (hown : ∀ r, owner r → owner' r ∨ r.token = t) (hclr : ∀ c, cleared c → cleared' c ∨ c = t) :
    HistoryOk (clearReqHistory t history) pool owner' cleared' := by
  have hgone := clearReqHistory_gone ht h.distinct
  have hold : ∀ e ∈ clearReqHistory t history, e.token ≠ 0 → e ∈ history := by
    intro e he hne
    rcases mem_of_mem_clear he with rfl | hmem
    · exact absurd rfl hne
    · exact hmem
  refine ⟨clearReqHistory_distinct h.distinct, fun e he hne => ?_, fun e he hne => ?_⟩
  · obtain ⟨r, hr, heq⟩ := h.owned e (hold e he hne) hne
    rcases hown r hr with hr' | htoken
    · exact ⟨r, hr', heq⟩
    · exact absurd (heq ▸ htoken) (hgone e he)
  · rcases h.pooled e (hold e he hne) hne with hvalid | hc
    · exact Or.inl hvalid
    · exact Or.inr ((hclr _ hc).resolve_right (hgone e he))

end HistoryOk

/-! ## 3. The invariant -/

structure State.Inv (s : State) : Prop where
  apart : TokensApart s.Live
  hist : HistoryOk s.history s.tokenPool s.Owner s.BeingCleared
  unrecorded : ∀ r, s.sender = .allocated r → r ∉ s.outstanding ∧
    (∀ e ∈ s.history, e.token ≠ r.token) ∧ isValidToken s.tokenPool r.token = true
  found : ∀ r entry slot, s.reader = .calling r entry slot →
    entry = r.entry ∧ slot.id = r.id
  matched : s.Matched
  once : s.SeqsOk

theorem start_inv : ({} : State).Inv := by
  have hempty : ∀ e ∈ ({} : State).history, e.token = 0 := by
    intro e he
    rw [(List.mem_replicate.mp he).2]
  refine ⟨⟨?_, ?_⟩, ⟨?_, ?_, ?_⟩, ?_, ?_, ?_, List.nodup_nil, ?_⟩
  · rintro r (h | h) <;> cases h
  · rintro r r' (h | h) <;> cases h
  · exact List.pairwise_replicate.mpr (Or.inr fun _ => rfl)
  · exact fun e he hne => absurd (hempty e he) hne
  · exact fun e he hne => absurd (hempty e he) hne
  · exact fun _ h => nomatch h
  · exact fun _ _ _ h => nomatch h
  · exact fun _ h => nomatch h
  · exact fun _ h => nomatch h

theorem State.SeqsOk.subperm {s t : State} (h : s.SeqsOk) (hsub : t.seqs.Subperm s.seqs)
    (hnext : s.nextSeq ≤ t.nextSeq) : t.SeqsOk := by
  obtain ⟨l, hperm, hsublist⟩ := hsub
  exact ⟨hperm.nodup (h.1.sublist hsublist),
    fun n hn => Nat.lt_of_lt_of_le (h.2 n (hsublist.subset (hperm.mem_iff.mpr hn))) hnext⟩

/-! ## 4. Steps that only move a thread

Such a step may drop live requests but no owner, and no pending clear. -/

theorem State.Inv.setSender {s : State} (h : s.Inv) (x : Sender)
    (hcur : ∀ r, x.current = some r → s.sender.current = some r)
    (hown : ∀ r, s.sender.owner = some r → x.owner = some r)
    (hclr : ∀ c, s.sender.clearingToken = some c → x.clearingToken = some c)
    (halloc : ∀ r, x ≠ .allocated r) (hunsent : x.unsent = s.sender.unsent ∨ x.unsent = none) :
    ({ s with sender := x } : State).Inv := by
  refine ⟨h.apart.mono fun r hr => hr.imp_right (hcur r),
    h.hist.mono (fun r hr => hr.imp_right (hown r)) (fun c hc => hc.imp_left (hclr c)),
    fun r hr => absurd hr (halloc r), h.found, h.matched, h.once.subperm ?_ (Nat.le_refl _)⟩
  unfold State.seqs
  rcases hunsent with hsame | hnone
  · rw [hsame]
  · dsimp only
    rw [hnone]
    refine List.Sublist.subperm ?_
    refine (List.Sublist.refl _).append ((List.Sublist.refl _).append ?_)
    exact List.sublist_append_right _ _

theorem State.Inv.setReader {s : State} (h : s.Inv) (x : Reader)
    (hcur : x.current = s.reader.current)
    (hclr : ∀ c, s.reader.clearingToken = some c → x.clearingToken = some c)
    (hcall : ∀ r entry slot, x = .calling r entry slot → entry = r.entry ∧ slot.id = r.id)
    (hund : x.undelivered = s.reader.undelivered ∨ x.undelivered = none) :
    ({ s with reader := x } : State).Inv := by
  have hout : ({ s with reader := x } : State).outstanding = s.outstanding := by
    unfold State.outstanding
    rw [hcur]
  refine ⟨h.apart.mono fun r hr => hr.imp_left (hout ▸ ·),
    h.hist.mono (fun r hr => hr.imp_left (hout ▸ ·)) (fun c hc => hc.imp_right (hclr c)),
    (fun r hr => hout ▸ h.unrecorded r hr), hcall, h.matched, h.once.subperm ?_ (Nat.le_refl _)⟩
  unfold State.seqs
  rcases hund with hsame | hnone
  · rw [hsame]
  · dsimp only
    rw [hnone]
    exact (List.sublist_append_right _ _).subperm

/-- The handler table, the flag and the socket play no part in the invariant. -/
theorem State.Inv.setHandlers {s : State} (h : s.Inv) (handlers : List ReqRespHandler)
    (delHandler connected : Bool) :
    ({ s with reqHandlers := handlers, delHandler := delHandler, connected := connected }
      : State).Inv :=
  ⟨h.apart, h.hist, h.unrecorded, h.found, h.matched, h.once⟩

/-! ## 5. The sender's steps -/

theorem send_inv {s t : State} {id : Nat} (h : s.Inv) (hstep : s.send id = some t) : t.Inv := by
  unfold State.send at hstep
  split at hstep
  · rename_i hidle
    obtain rfl := Option.some.inj hstep
    exact h.setSender (.started id) (fun _ h => nomatch h) (by rw [hidle]; exact fun _ h => nomatch h)
      (by rw [hidle]; exact fun _ h => nomatch h) (fun _ h => nomatch h) (Or.inr rfl)
  · cases hstep

/-- The one step that needs the condition: the token that is taken is nobody's. -/
theorem allocate_inv {s t : State} (h : s.Inv) (hapart : s.KeepsTokensApart .allocate)
    (hstep : s.allocate = some t) : t.Inv := by
  unfold State.allocate at hstep
  split at hstep
  · rename_i id hsender
    have hback : ({ s with sender := .idle } : State).Inv :=
      h.setSender .idle (fun _ h => nomatch h) (by rw [hsender]; exact fun _ h => nomatch h)
        (by rw [hsender]; exact fun _ h => nomatch h) (fun _ h => nomatch h) (Or.inr rfl)
    split at hstep
    · obtain rfl := Option.some.inj hstep
      exact hback
    · dsimp only at hstep
      split at hstep
      · obtain rfl := Option.some.inj hstep
        exact hback
      · rename_i hzero
        obtain rfl := Option.some.inj hstep
        have hbit : IsBit (allocateToken s.tokenPool).1 :=
          (allocateToken_fst s.tokenPool).resolve_left hzero
        have hfresh := hapart rfl
        have hlive : ∀ r ∈ s.outstanding, s.Live r := fun r hr => Or.inl hr
        have hunused : ∀ e ∈ s.history, e.token ≠ (allocateToken s.tokenPool).1 := by
          intro e he heq
          obtain ⟨r, hr, hentry⟩ := h.hist.owned e he (heq ▸ hzero)
          have hout : r ∈ s.outstanding := by
            rcases hr with hr | hr
            · exact hr
            · rw [hsender] at hr
              cases hr
          exact hfresh r hout (by rw [← heq, hentry]; rfl)
        refine ⟨⟨?_, ?_⟩, ?_, ?_, h.found, h.matched, ?_⟩
        · rintro r (hr | hr)
          · exact h.apart.bit r (hlive r hr)
          · obtain rfl := Option.some.inj hr
            exact hbit
        · rintro r r' (hr | hr) (hr' | hr') heq
          · exact h.apart.eq r r' (hlive r hr) (hlive r' hr') heq
          · obtain rfl := Option.some.inj hr'
            exact absurd heq (hfresh r hr)
          · obtain rfl := Option.some.inj hr
            exact absurd heq.symm (hfresh r' hr')
          · exact Option.some.inj (hr.symm.trans hr')
        · refine (h.hist.grow fun t ht => allocateToken_keeps ht).mono ?_ ?_
          · rintro r (hr | hr)
            · exact Or.inl hr
            · rw [hsender] at hr
              cases hr
          · rintro c (hc | hc)
            · rw [hsender] at hc
              cases hc
            · exact Or.inr hc
        · intro r hr
          obtain rfl := Sender.allocated.inj hr
          exact ⟨fun hr => hfresh _ hr rfl, hunused, allocateToken_valid hzero⟩
        · have hperm : (s.nextSeq :: s.seqs).Perm (({ s with
              tokenPool := (allocateToken s.tokenPool).2
              sender := .allocated ⟨s.nextSeq, id, (allocateToken s.tokenPool).1⟩
              nextSeq := s.nextSeq + 1 } : State).seqs) := by
            unfold State.seqs
            rw [hsender]
            simp only [Sender.unsent, Option.toList_none, Option.toList_some, List.map_nil,
              List.map_cons, List.nil_append, List.cons_append, ← List.append_assoc]
            exact List.perm_middle.symm
          refine ⟨hperm.nodup ?_, fun n hn => ?_⟩
          · exact List.nodup_cons.mpr ⟨fun hn => absurd (h.once.2 _ hn) (Nat.lt_irrefl _), h.once.1⟩
          · rcases List.mem_cons.mp (hperm.mem_iff.mpr hn) with rfl | hmem
            · exact Nat.lt_succ_self _
            · exact Nat.lt_succ_of_lt (h.once.2 n hmem)
  · cases hstep

theorem record_inv {s t : State} (h : s.Inv) (hstep : s.record = some t) : t.Inv := by
  unfold State.record at hstep
  split at hstep
  · rename_i r hsender
    split at hstep
    · rename_i history hrec
      obtain rfl := Option.some.inj hstep
      obtain ⟨-, hnew, hvalid⟩ := h.unrecorded r hsender
      have hown : s.Owner r := Or.inr (by rw [hsender]; rfl)
      have hhist := h.hist.record hown hrec hnew hvalid
      have hmid : ({ s with sender := .recorded r } : State).Inv :=
        h.setSender (.recorded r) (by rw [hsender]; exact fun _ h => h)
          (by rw [hsender]; exact fun _ h => h) (by rw [hsender]; exact fun _ h => nomatch h)
          (fun _ h => nomatch h) (Or.inl (by rw [hsender]; rfl))
      refine ⟨hmid.apart, hhist.mono ?_ ?_, (fun _ hr => nomatch hr), h.found, h.matched, hmid.once⟩
      · exact fun r' hr => hr.imp_right (by rw [hsender]; exact fun h => h)
      · exact fun c hc => hc.imp_left (by rw [hsender]; exact fun h => nomatch h)
    · obtain rfl := Option.some.inj hstep
      exact h.setSender (.failFreeing r 0) (by rw [hsender]; exact fun _ h => h)
        (by rw [hsender]; exact fun _ h => h) (by rw [hsender]; exact fun _ h => nomatch h)
        (fun _ h => nomatch h) (Or.inr rfl)
  · cases hstep

theorem write_inv {s t : State} {ret : Int} (h : s.Inv) (hstep : s.write ret = some t) :
    t.Inv := by
  unfold State.write at hstep
  split at hstep
  · rename_i r hsender
    split at hstep
    · obtain rfl := Option.some.inj hstep
      exact h.setSender (.failFreeing r ret) (by rw [hsender]; exact fun _ h => h)
        (by rw [hsender]; exact fun _ h => h) (by rw [hsender]; exact fun _ h => nomatch h)
        (fun _ h => nomatch h) (Or.inr rfl)
    · -- the sender's request becomes one whose answer is awaited
      obtain rfl := Option.some.inj hstep
      have hmem : ∀ r', r' ∈ s.reader.current.toList ++ r :: s.awaited ↔
          r' = r ∨ r' ∈ s.outstanding := by
        intro r'
        unfold State.outstanding
        simp only [List.mem_append, List.mem_cons]
        exact or_left_comm
      refine ⟨h.apart.mono ?_, h.hist.mono ?_ ?_, (fun _ hr => nomatch hr), h.found, h.matched,
        h.once.subperm ?_ (Nat.le_refl _)⟩
      · rintro r' (hr | hr)
        · rcases (hmem r').mp hr with rfl | hout
          · exact Or.inr (by rw [hsender]; rfl)
          · exact Or.inl hout
        · exact Or.inr (by rw [hsender]; exact hr)
      · rintro r' (hr | hr)
        · exact Or.inl ((hmem r').mpr (Or.inr hr))
        · rw [hsender] at hr
          exact Or.inl ((hmem r').mpr (Or.inl (Option.some.inj hr).symm))
      · exact fun c hc => hc.imp_left (by rw [hsender]; exact fun h => nomatch h)
      · unfold State.seqs
        rw [hsender]
        exact ((List.perm_middle.symm).append_left _).subperm
  · cases hstep

theorem findHandler_inv {s t : State} (h : s.Inv) (hstep : s.findHandler = some t) : t.Inv := by
  unfold State.findHandler at hstep
  split at hstep
  · rename_i r hsender
    split at hstep
    · obtain rfl := Option.some.inj hstep
      exact h.setSender .idle (fun _ h => nomatch h) (by rw [hsender]; exact fun _ h => nomatch h)
        (by rw [hsender]; exact fun _ h => nomatch h) (fun _ h => nomatch h) (Or.inr rfl)
    · obtain rfl := Option.some.inj hstep
      exact h.setSender (.freeing r) (by rw [hsender]; exact fun _ h => h)
        (by rw [hsender]; exact fun _ h => nomatch h) (by rw [hsender]; exact fun _ h => nomatch h)
        (fun _ h => nomatch h) (Or.inr rfl)
  · cases hstep

theorem State.Owner.live {s : State} {r : Request} (h : s.Owner r) : s.Live r := by
  refine h.imp_right fun hown => ?_
  unfold Sender.owner at hown
  split at hown
  · cases hown
  · exact hown

theorem State.Inv.isBit_owner {s : State} (h : s.Inv) (r : Request) (hr : s.Owner r) :
    IsBit r.token :=
  h.apart.bit r hr.live

theorem senderFree_inv {s t : State} (h : s.Inv) (hstep : s.senderFree = some t) : t.Inv := by
  unfold State.senderFree at hstep
  split at hstep
  · rename_i r hsender
    obtain rfl := Option.some.inj hstep
    have hbit := h.isBit_owner r (Or.inr (by rw [hsender]; rfl))
    have hmid := h.setSender (.clearing r) (by rw [hsender]; exact fun _ h => h)
      (by rw [hsender]; exact fun _ h => h) (by rw [hsender]; exact fun _ h => nomatch h)
      (fun _ h => nomatch h) (Or.inr rfl)
    refine ⟨hmid.apart, ?_, (fun _ hr => nomatch hr), h.found, h.matched, hmid.once⟩
    exact hmid.hist.free hbit (hmid.isBit_owner) (fun _ hc => hc) (Or.inl rfl)
  · rename_i r ret hsender
    obtain rfl := Option.some.inj hstep
    have hbit := h.isBit_owner r (Or.inr (by rw [hsender]; rfl))
    have hmid := h.setSender (.failClearing r ret) (by rw [hsender]; exact fun _ h => h)
      (by rw [hsender]; exact fun _ h => h) (by rw [hsender]; exact fun _ h => nomatch h)
      (fun _ h => nomatch h) (Or.inr rfl)
    refine ⟨hmid.apart, ?_, (fun _ hr => nomatch hr), h.found, h.matched, hmid.once⟩
    exact hmid.hist.free hbit (hmid.isBit_owner) (fun _ hc => hc) (Or.inl rfl)
  · cases hstep

/-- Once its entry is cleared the sender's request has no owner any more, and no entry. -/
theorem clear_sender {s : State} (h : s.Inv) {r : Request} {x : Sender}
    (howner : s.sender.owner = some r) (hclearing : s.sender.clearingToken = some r.token)
    (hx : x.current = none) (hunsent : x.unsent = none) (halloc : ∀ r, x ≠ .allocated r) :
    ({ s with history := clearReqHistory r.token s.history, sender := x } : State).Inv := by
  have hbit := h.isBit_owner r (Or.inr howner)
  have hseqs : (({ s with sender := x } : State).seqs).Subperm s.seqs := by
    unfold State.seqs
    dsimp only
    rw [hunsent]
    refine List.Sublist.subperm ?_
    refine (List.Sublist.refl _).append ((List.Sublist.refl _).append ?_)
    exact List.sublist_append_right _ _
  refine ⟨h.apart.mono ?_, h.hist.clear hbit.ne_zero ?_ ?_, fun r' hr => absurd hr (halloc r'),
    h.found, h.matched, h.once.subperm hseqs (Nat.le_refl _)⟩
  · rintro r' (hr | hr)
    · exact Or.inl hr
    · rw [hx] at hr
      cases hr
  · rintro r' (hr | hr)
    · exact Or.inl (Or.inl hr)
    · rw [howner] at hr
      exact Or.inr (congrArg Request.token (Option.some.inj hr).symm)
  · rintro c (hc | hc)
    · rw [hclearing] at hc
      exact Or.inr (Option.some.inj hc).symm
    · exact Or.inl (Or.inr hc)

theorem senderClear_inv {s t : State} (h : s.Inv) (hstep : s.senderClear = some t) : t.Inv := by
  unfold State.senderClear at hstep
  split at hstep
  · rename_i r hsender
    obtain rfl := Option.some.inj hstep
    exact clear_sender h (by rw [hsender]; rfl) (by rw [hsender]; rfl) rfl rfl
      (fun _ hr => nomatch hr)
  · rename_i r ret hsender
    obtain rfl := Option.some.inj hstep
    exact clear_sender h (by rw [hsender]; rfl) (by rw [hsender]; rfl) rfl rfl
      (fun _ hr => nomatch hr)
  · cases hstep

theorem senderClose_inv {s t : State} (h : s.Inv) (hstep : s.senderClose = some t) : t.Inv := by
  unfold State.senderClose at hstep
  split at hstep
  · rename_i ret hsender
    obtain rfl := Option.some.inj hstep
    have hmid := h.setSender .idle (fun _ h => nomatch h) (by rw [hsender]; exact fun _ h => nomatch h)
      (by rw [hsender]; exact fun _ h => nomatch h) (fun _ h => nomatch h) (Or.inr rfl)
    exact hmid.setHandlers s.reqHandlers s.delHandler _
  · cases hstep

/-! ## 6. The reader's steps -/

theorem receive_inv {s t : State} {r : Request} {err : Option Int} (h : s.Inv)
    (hstep : s.receive r err = some t) : t.Inv := by
  unfold State.receive at hstep
  split at hstep
  · rename_i hguard
    obtain ⟨hreader, hmem⟩ := hguard
    obtain rfl := Option.some.inj hstep
    have hperm := List.perm_cons_erase hmem
    have hout : ∀ r', r' ∈ s.outstanding ↔ r' ∈ r :: s.awaited.erase r := by
      intro r'
      unfold State.outstanding
      rw [hreader]
      exact hperm.mem_iff
    refine ⟨h.apart.mono fun r' hr => hr.imp_left (hout r').mpr,
      h.hist.mono (fun r' hr => hr.imp_left (hout r').mp) ?_,
      (fun r' hr => (h.unrecorded r' hr).imp_left fun hno hin => hno ((hout r').mpr hin)),
      (fun _ _ _ hr => nomatch hr), h.matched, h.once.subperm ?_ (Nat.le_refl _)⟩
    · exact fun c hc => hc.imp_right (by rw [hreader]; exact fun h => nomatch h)
    · unfold State.seqs
      rw [hreader]
      exact ((hperm.map Request.seq).symm.append_right _).subperm
  · cases hstep

theorem Sender.owner_of_clearing {x : Sender} {c : Token} (h : x.clearingToken = some c) :
    ∃ r, x.owner = some r ∧ x.current = some r ∧ r.token = c := by
  unfold Sender.clearingToken at h
  split at h
  · rename_i r
    exact ⟨r, rfl, rfl, Option.some.inj h⟩
  · rename_i r ret
    exact ⟨r, rfl, rfl, Option.some.inj h⟩
  · cases h

/-- An answer whose token is not in the pool is dropped.  If its request still has an entry, then
the sender is about to clear it. -/
theorem drop_answer {s : State} (h : s.Inv) {r : Request} {err : Option Int}
    (hreader : s.reader = .received r err) (hinvalid : ¬isValidToken s.tokenPool r.token = true) :
    ({ s with reader := .idle } : State).Inv := by
  have hlive : s.Live r := Or.inl (by unfold State.outstanding; rw [hreader]; exact List.mem_cons_self ..)
  have hout : ∀ r', r' ∈ s.outstanding ↔ r' = r ∨ r' ∈ s.awaited := by
    intro r'
    unfold State.outstanding
    rw [hreader]
    exact List.mem_cons
  have hnoclear : s.reader.clearingToken = none := by
    rw [hreader]
    rfl
  refine ⟨h.apart.mono fun r' hr => hr.imp_left fun hr => (hout r').mpr (Or.inr hr),
    ⟨h.hist.distinct, fun e he ht => ?_, fun e he ht => ?_⟩,
    (fun r' hr => (h.unrecorded r' hr).imp_left fun hno hin => hno ((hout r').mpr (Or.inr hin))),
    (fun _ _ _ hr => nomatch hr), h.matched, h.once.subperm ?_ (Nat.le_refl _)⟩
  · obtain ⟨r', hr', hentry⟩ := h.hist.owned e he ht
    rcases hr' with hr' | hr'
    · rcases (hout r').mp hr' with rfl | hawaited
      · have htoken : e.token = r'.token := by
          rw [hentry]
          rfl
        rcases h.hist.pooled e he ht with hvalid | hc | hc
        · exact absurd (htoken ▸ hvalid) hinvalid
        · obtain ⟨r'', hown, hcur, htoken'⟩ := Sender.owner_of_clearing hc
          have hsame := h.apart.eq r'' r' (Or.inr hcur) hlive (htoken'.trans htoken)
          exact ⟨r', Or.inr (hsame ▸ hown), hentry⟩
        · rw [hnoclear] at hc
          cases hc
      · exact ⟨r', Or.inl hawaited, hentry⟩
    · exact ⟨r', Or.inr hr', hentry⟩
  · rcases h.hist.pooled e he ht with hvalid | hc | hc
    · exact Or.inl hvalid
    · exact Or.inr (Or.inl hc)
    · rw [hnoclear] at hc
      cases hc
  · unfold State.seqs
    exact (List.sublist_append_right _ _).subperm

theorem checkToken_inv {s t : State} (h : s.Inv) (hstep : s.checkToken = some t) : t.Inv := by
  unfold State.checkToken at hstep
  split at hstep
  · rename_i r err hreader
    split at hstep
    · rename_i hinvalid
      obtain rfl := Option.some.inj hstep
      exact drop_answer h hreader hinvalid
    · split at hstep
      · obtain rfl := Option.some.inj hstep
        exact h.setReader (.lookingUp r) (by rw [hreader]; rfl)
          (by rw [hreader]; exact fun _ h => nomatch h) (fun _ _ _ h => nomatch h)
          (Or.inl (by rw [hreader]; rfl))
      · obtain rfl := Option.some.inj hstep
        exact h.setReader (.freeing r) (by rw [hreader]; rfl)
          (by rw [hreader]; exact fun _ h => nomatch h) (fun _ _ _ h => nomatch h) (Or.inr rfl)
  · cases hstep

theorem lookup_inv {s t : State} (h : s.Inv) (hstep : s.lookup = some t) : t.Inv := by
  unfold State.lookup at hstep
  split at hstep
  · rename_i r hreader
    have hfreeing : ({ s with reader := .freeing r } : State).Inv :=
      h.setReader (.freeing r) (by rw [hreader]; rfl)
        (by rw [hreader]; exact fun _ h => nomatch h) (fun _ _ _ h => nomatch h) (Or.inr rfl)
    split at hstep
    · rename_i entry slot hfind
      split at hstep
      · obtain rfl := Option.some.inj hstep
        have hlive : s.Live r :=
          Or.inl (by unfold State.outstanding; rw [hreader]; exact List.mem_cons_self ..)
        obtain ⟨hmem, htoken, -, hid⟩ := findReqSlot_spec hfind
        have hne : entry.token ≠ 0 := htoken ▸ (h.apart.bit r hlive).ne_zero
        obtain ⟨r', hown, hentry⟩ := h.hist.owned entry hmem hne
        have hsame : r' = r := by
          refine h.apart.eq r' r hown.live hlive ?_
          rw [← htoken, hentry]
          rfl
        subst hsame
        refine h.setReader (.calling r' entry slot) (by rw [hreader]; rfl)
          (by rw [hreader]; exact fun _ h => nomatch h) ?_ (Or.inl (by rw [hreader]; rfl))
        intro r e h' heq
        obtain ⟨rfl, rfl, rfl⟩ := Reader.calling.inj heq
        exact ⟨hentry, hid.trans (by rw [hentry]; rfl)⟩
      · obtain rfl := Option.some.inj hstep
        exact hfreeing
    · obtain rfl := Option.some.inj hstep
      exact hfreeing
  · cases hstep

theorem callHandler_inv {s t : State} (h : s.Inv) (hstep : s.callHandler = some t) : t.Inv := by
  unfold State.callHandler at hstep
  split at hstep
  · rename_i r entry slot hreader
    obtain rfl := Option.some.inj hstep
    have hmid := h.setReader (.called r slot.id) (by rw [hreader]; rfl)
      (by rw [hreader]; exact fun _ h => nomatch h) (fun _ _ _ h => nomatch h) (Or.inr rfl)
    refine ⟨hmid.apart, hmid.hist, hmid.unrecorded, (fun _ _ _ hr => nomatch hr), ?_,
      h.once.subperm ?_ (Nat.le_refl _)⟩
    · intro d hd
      rcases List.mem_cons.mp hd with rfl | hmem
      · exact h.found r entry slot hreader
      · exact h.matched d hmem
    · unfold State.seqs
      rw [hreader]
      simp only [Reader.undelivered, Option.toList_none, Option.toList_some, List.map_nil,
        List.map_cons, List.nil_append, List.cons_append]
      rw [← List.append_assoc, ← List.append_assoc]
      exact List.perm_middle.subperm
  · cases hstep

theorem afterHandler_inv {s t : State} (h : s.Inv) (hstep : s.afterHandler = some t) : t.Inv := by
  unfold State.afterHandler at hstep
  split at hstep
  · rename_i r reqId hreader
    have hmid := h.setReader (.freeing r) (by rw [hreader]; rfl)
      (by rw [hreader]; exact fun _ h => nomatch h) (fun _ _ _ h => nomatch h) (Or.inr rfl)
    split at hstep
    · obtain rfl := Option.some.inj hstep
      exact hmid.setHandlers _ false s.connected
    · obtain rfl := Option.some.inj hstep
      exact hmid
  · cases hstep

theorem readerFree_inv {s t : State} (h : s.Inv) (hstep : s.readerFree = some t) : t.Inv := by
  unfold State.readerFree at hstep
  split at hstep
  · rename_i r hreader
    obtain rfl := Option.some.inj hstep
    have hout : r ∈ s.outstanding := by
      unfold State.outstanding
      rw [hreader]
      exact List.mem_cons_self ..
    have hbit := h.isBit_owner r (Or.inl hout)
    have hmid := h.setReader (.clearing r) (by rw [hreader]; rfl)
      (by rw [hreader]; exact fun _ h => nomatch h) (fun _ _ _ h => nomatch h) (Or.inr rfl)
    refine ⟨hmid.apart, ?_, ?_, (fun _ _ _ hr => nomatch hr), h.matched, hmid.once⟩
    · exact hmid.hist.free hbit (hmid.isBit_owner) (fun _ hc => hc) (Or.inr rfl)
    · -- the request just allocated keeps its token: it is not the one being answered
      intro r' hr'
      obtain ⟨hno, hnew, hvalid⟩ := hmid.unrecorded r' hr'
      have hlive' : s.Live r' := Or.inr (by rw [show s.sender = _ from hr']; rfl)
      refine ⟨hno, hnew, freeToken_keeps hbit (h.apart.bit r' hlive') (fun heq => ?_) hvalid⟩
      have hsame := h.apart.eq r r' (Or.inl hout) hlive' heq
      exact (h.unrecorded r' hr').1 (hsame ▸ hout)
  · cases hstep

theorem readerClear_inv {s t : State} (h : s.Inv) (hstep : s.readerClear = some t) : t.Inv := by
  unfold State.readerClear at hstep
  split at hstep
  · rename_i r hreader
    obtain rfl := Option.some.inj hstep
    have hout : ∀ r', r' ∈ s.outstanding ↔ r' = r ∨ r' ∈ s.awaited := by
      intro r'
      unfold State.outstanding
      rw [hreader]
      exact List.mem_cons
    have hbit := h.isBit_owner r (Or.inl ((hout r).mpr (Or.inl rfl)))
    refine ⟨h.apart.mono fun r' hr => hr.imp_left fun hr => (hout r').mpr (Or.inr hr),
      h.hist.clear hbit.ne_zero ?_ ?_, ?_, (fun _ _ _ hr => nomatch hr), h.matched,
      h.once.subperm ?_ (Nat.le_refl _)⟩
    · rintro r' (hr | hr)
      · rcases (hout r').mp hr with rfl | hawaited
        · exact Or.inr rfl
        · exact Or.inl (Or.inl hawaited)
      · exact Or.inl (Or.inr hr)
    · rintro c (hc | hc)
      · exact Or.inl (Or.inl hc)
      · rw [hreader] at hc
        exact Or.inr (Option.some.inj hc).symm
    · intro r' hr'
      obtain ⟨hno, hnew, hvalid⟩ := h.unrecorded r' hr'
      refine ⟨fun hin => hno ((hout r').mpr (Or.inr hin)), fun e he => ?_, hvalid⟩
      rcases mem_of_mem_clear he with rfl | hmem
      · have hlive' : s.Live r' := Or.inr (by rw [show s.sender = _ from hr']; rfl)
        exact (h.apart.bit r' hlive').ne_zero.symm
      · exact hnew e hmem
    · unfold State.seqs
      exact (List.sublist_append_right _ _).subperm
  · cases hstep

/-! ## 7. Whole runs -/

theorem step_inv {s t : State} {a : Action} (h : s.Inv) (hapart : s.KeepsTokensApart a)
    (hstep : s.step a = some t) : t.Inv := by
  cases a with
  | send id => exact send_inv h hstep
  | allocate => exact allocate_inv h hapart hstep
  | record => exact record_inv h hstep
  | write ret => exact write_inv h hstep
  | findHandler => exact findHandler_inv h hstep
  | senderFree => exact senderFree_inv h hstep
  | senderClear => exact senderClear_inv h hstep
  | senderClose => exact senderClose_inv h hstep
  | receive r err => exact receive_inv h hstep
  | checkToken => exact checkToken_inv h hstep
  | lookup => exact lookup_inv h hstep
  | callHandler => exact callHandler_inv h hstep
  | afterHandler => exact afterHandler_inv h hstep
  | readerFree => exact readerFree_inv h hstep
  | readerClear => exact readerClear_inv h hstep
  | register id handler =>
    obtain rfl := Option.some.inj hstep
    exact h.setHandlers _ s.delHandler s.connected
  | setDelHandler =>
    obtain rfl := Option.some.inj hstep
    exact h.setHandlers s.reqHandlers true s.connected

theorem State.Inv.deliveredOnce {s : State} (h : s.Inv) : s.DeliveredOnce := by
  have hnodup := h.once.1
  unfold State.seqs at hnodup
  rw [List.nodup_append, List.nodup_append, List.nodup_append] at hnodup
  exact hnodup.2.1.2.1.2.1

/-- In every run in which no request takes the token of a request whose answer is still to come or
still being processed, an answer is only passed to the handler of the request it answers, found
through that request's own entry, and no request is completed twice. -/
theorem matched_of_keepsTokensApart (actions : List Action) (s : State)
    (run : Lib.ExecWhere State.KeepsTokensApart (Lib.guarded State.step) {} actions s) :
    s.Matched ∧ s.DeliveredOnce := by
  have hinv : s.Inv :=
    run.invariant (fun _ _ _ hi hok hstep => step_inv hi hok hstep) start_inv
  exact ⟨hinv.matched, hinv.deliveredOnce⟩

instance (s : State) (a : Action) : Decidable (s.KeepsTokensApart a) :=
  inferInstanceAs (Decidable (_ → _))

instance (s : State) : Decidable s.Matched :=
  inferInstanceAs (Decidable (∀ d ∈ s.deliveries, _))

/-- A request with a handler, answered before the next one is sent. -/
def answeredRun : List Action :=
  [.register 106 (some 7), .send 106, .allocate, .record, .write 0, .findHandler,
    .receive ⟨0, 106, 1⟩ (some 0), .checkToken, .lookup, .callHandler, .afterHandler, .readerFree,
    .readerClear, .send 106, .allocate]

theorem matched_answeredRun :
    ∃ s, answeredRun.foldlM State.step {} = some s ∧ s.deliveries ≠ [] ∧ s.Matched ∧
      s.DeliveredOnce :=
  ⟨_, rfl, by decide, matched_of_keepsTokensApart answeredRun _ (.of_foldlM rfl)⟩

/-- A request without a handler whose answer is late: the token it gave back is taken by a request
with a handler, which then gets the answer. -/
def reusedTokenRun : List Action :=
  [.send 101, .allocate, .record, .write 0, .findHandler, .senderFree, .senderClear,
    .register 106 (some 7), .send 106, .allocate, .record, .write 0, .findHandler,
    .receive ⟨0, 101, 1⟩ (some 0), .checkToken, .lookup, .callHandler]

theorem answer_passed_to_other_request :
    ¬∀ (actions : List Action) (s : State), Lib.Exec (Lib.guarded State.step) {} actions s →
      s.Matched ∧ s.DeliveredOnce := by
  intro hall
  have hmatched := (hall reusedTokenRun _ (.of_foldlM rfl)).1
  exact absurd hmatched (by decide)

end Universal7870.SecRil
