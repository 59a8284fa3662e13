import Universal7870.SecRil.HandlerTables

/-!
# Messages from the daemon

`processRxBuffer` takes a record apart and passes its payload to a handler.  `Parcel` is not part of
the sources: its reads are a parameter, of which only the documented failures are known.  A pointer
into the record is an offset.
-/

namespace Universal7870.SecRil

/-! ## 1. The code -/

/-- `Parcel::readInt32` and `Parcel::readInplace` at a position of a record; an error and NULL are
`none`. -/
structure ParcelReads where
  readInt32 : List UInt8 → Nat → Option Int32
  readInplace : List UInt8 → Nat → Int32 → Option Nat

/-- A read fails exactly when the record has too few bytes, or the length is negative. -/
structure ParcelReads.Documented (reads : ParcelReads) : Prop where
  readInt32_none : ∀ record pos, reads.readInt32 record pos = none ↔ record.length < pos + 4
  readInplace_none : ∀ record pos len, reads.readInplace record pos len = none ↔
    len.toInt < 0 ∨ record.length < pos + len.toInt.toNat
  readInplace_some : ∀ record pos len off, reads.readInplace record pos len = some off → off = pos

def responseSolicited : Int32 := 0

def responseUnsolicited : Int32 := 1

def errInval : Nat := 3

def errIo : Nat := 5

/-- A call of a handler, with its `const void *data` and its `size_t datalen`. -/
structure Invocation where
  handler : Handler
  data : Option Nat
  datalen : Nat
  deriving DecidableEq, Repr

/-- A number as the `size_t` a handler is passed. -/
def sizeT (len : Int32) : Nat := (len.toInt % 2 ^ 64).toNat

/-- The members of the client that a message is processed with; `errCb` says whether there is an
error callback. -/
structure RxClient where
  prv : RilClientPrv := {}
  unsolHandlers : List UnsolHandler := List.replicate reqPoolSize {}
  errCb : Bool := false

/-- What processing a record does: its result, the handler it calls, the errors it reports, and the
client while the handler runs. -/
structure RxOutcome where
  ret : Nat
  invoked : Option Invocation
  errors : List Int
  client : RxClient

section

variable (reads : ParcelReads) (record : List UInt8)

/-- `data` and `len` from the length field at `pos` on. -/
def readPayload (pos : Nat) : Option Nat × Int32 :=
  match reads.readInt32 record pos with
  | none => (none, 0)
  | some len => (if len ≠ 0 then reads.readInplace record (pos + 4) len else none, len)

def invocation (pos : Nat) (handler : Handler) : Invocation where
  handler := handler
  data := (readPayload reads record pos).1
  datalen := sizeT (readPayload reads record pos).2

def processUnsolicited (c : RxClient) (pos : Nat) : RxOutcome :=
  match reads.readInt32 record pos with
  | none => ⟨errIo, none, [], c⟩
  | some respId =>
    ⟨errSuccess, (findUnsolHandler c.unsolHandlers respId.toBitVec.toNat).map
      (invocation reads record (pos + 4)), [], c⟩

/-- `processSolicited` up to the handler; what comes behind it is `RilClientPrv.finish`. -/
def processSolicited (c : RxClient) (pos : Nat) : RxOutcome :=
  match reads.readInt32 record pos with
  | none => ⟨errIo, none, [], c⟩
  | some token =>
    if ¬isValidToken c.prv.tokenPool token.toBitVec then ⟨errInval, none, [], c⟩
    else
      match reads.readInt32 record (pos + 4) with
      | none => ⟨errIo, none, [], { c with prv := c.prv.processSolicited (some token.toBitVec) none }⟩
      | some err =>
        let c' := { c with
          prv := c.prv.processSolicited (some token.toBitVec) (some err.toInt) }
        if err ≠ 0 then ⟨errSuccess, none, if c.errCb then [err.toInt] else [], c'⟩
        else
          ⟨errSuccess, (findReqHandler c.prv.history c.prv.reqHandlers token.toBitVec).map
            (invocation reads record (pos + 8)), [], c'⟩

def processRxBuffer (c : RxClient) : RxOutcome :=
  match reads.readInt32 record 0 with
  | none => ⟨errIo, none, [], c⟩
  | some responseType =>
    if responseType = responseUnsolicited then processUnsolicited reads record c 4
    else if responseType = responseSolicited then
      let r := processSolicited reads record c 4
      if r.ret ≠ errSuccess ∧ c.errCb then { r with errors := r.errors ++ [(r.ret : Int)] } else r
    else ⟨errInval, none, [], c⟩

end

/-- The bytes of its data that `callBackSecureSimLock` reads. -/
def secureSimLockReads (datalen : Nat) : Nat := if 0 < datalen then 0x1D6 else 0

/-! ## 2. Payloads -/

/-- The data covers `datalen` bytes inside the record, or there is none. -/
def Invocation.Covered (i : Invocation) (record : List UInt8) : Prop :=
  (i.data = none ∧ i.datalen = 0) ∨ ∃ off, i.data = some off ∧ off + i.datalen ≤ record.length

/-- The call is covered, and so is what the library's own handler reads, if `simLock` is it. -/
def Invocation.InBounds (simLock : Handler) (record : List UInt8) (i : Invocation) : Prop :=
  i.Covered record ∧ (i.handler = simLock → secureSimLockReads i.datalen ≤ i.datalen)

/-- The length field at `pos` is missing or zero, or as many bytes follow it; for the library's own
handler it has to be as long as a SIM lock report. -/
def PayloadFits (reads : ParcelReads) (simLock : Handler) (record : List UInt8) (pos : Nat)
    (handler : Handler) : Prop :=
  ∀ len ∈ reads.readInt32 record pos, len ≠ 0 →
    0 < len.toInt ∧ pos + 4 + len.toInt.toNat ≤ record.length ∧
      (handler = simLock → 0x1D6 ≤ len.toInt)

/-- Where the message is for a handler, its payload fits. -/
def RecordFits (reads : ParcelReads) (simLock : Handler) (record : List UInt8) (c : RxClient) :
    Prop :=
  (∀ respId ∈ reads.readInt32 record 4, reads.readInt32 record 0 = some responseUnsolicited →
    ∀ f ∈ findUnsolHandler c.unsolHandlers respId.toBitVec.toNat,
      PayloadFits reads simLock record 8 f) ∧
  (∀ token ∈ reads.readInt32 record 4, reads.readInt32 record 0 = some responseSolicited →
    isValidToken c.prv.tokenPool token.toBitVec = true → reads.readInt32 record 8 = some 0 →
    ∀ f ∈ findReqHandler c.prv.history c.prv.reqHandlers token.toBitVec,
      PayloadFits reads simLock record 12 f)

section

variable {reads : ParcelReads} {simLock : Handler} {record : List UInt8}

theorem sizeT_of_nonneg {len : Int32} (h : 0 ≤ len.toInt) : sizeT len = len.toInt.toNat := by
  have hlt : len.toInt < 2 ^ 31 := Int32.toInt_lt len
  unfold sizeT
  omega

theorem sizeT_pos {len : Int32} (h : len ≠ 0) : 0 < sizeT len := by
  have hlt : len.toInt < 2 ^ 31 := Int32.toInt_lt len
  have hge : -2 ^ 31 ≤ len.toInt := Int32.le_toInt len
  have hne : len.toInt ≠ 0 := fun heq => h (Int32.toInt_inj.mp heq)
  unfold sizeT
  omega

theorem inBounds_iff (hreads : reads.Documented) (pos : Nat) (handler : Handler) :
    (invocation reads record pos handler).InBounds simLock record ↔
      PayloadFits reads simLock record pos handler := by
  unfold Invocation.InBounds Invocation.Covered PayloadFits invocation readPayload
  dsimp only
  cases hlen : reads.readInt32 record pos with
  | none =>
    refine ⟨fun _ len hmem => (nomatch hmem), fun _ => ⟨.inl ⟨rfl, rfl⟩, fun _ => ?_⟩⟩
    exact Nat.le_refl 0
  | some len =>
    dsimp only
    by_cases hzero : len = 0
    · subst hzero
      refine ⟨fun _ len' hmem hne => ?_, fun _ => ⟨.inl ⟨rfl, rfl⟩, fun _ => Nat.le_refl 0⟩⟩
      exact absurd (Option.some.inj hmem).symm hne
    · have hpos := sizeT_pos hzero
      rw [if_pos hzero]
      unfold secureSimLockReads
      rw [if_pos hpos]
      constructor
      · rintro ⟨⟨_, hnull⟩ | ⟨off, hoff, hcover⟩, hown⟩ len' hmem _
        · omega
        · obtain rfl := Option.some.inj hmem
          have hsome : reads.readInplace record (pos + 4) len ≠ none := by
            rw [hoff]
            exact Option.some_ne_none off
          rw [Ne, hreads.readInplace_none, not_or, Int.not_lt, Nat.not_lt] at hsome
          rw [sizeT_of_nonneg hsome.1] at hown hpos
          refine ⟨by omega, hsome.2, fun heq => ?_⟩
          have hle := hown heq
          omega
      · intro hfits
        obtain ⟨hlenPos, hinside, hown⟩ := hfits len rfl hzero
        rw [sizeT_of_nonneg hlenPos.le]
        cases hread : reads.readInplace record (pos + 4) len with
        | none =>
          rw [hreads.readInplace_none] at hread
          omega
        | some off =>
          obtain rfl := hreads.readInplace_some _ _ _ _ hread
          refine ⟨.inr ⟨_, rfl, hinside⟩, fun heq => ?_⟩
          have hle := hown heq
          omega

/-- A handler is called within the record exactly when the payload fits. -/
theorem inBounds_map_iff (hreads : reads.Documented) (pos : Nat) (handler : Option Handler) :
    (∀ i ∈ handler.map (invocation reads record pos), i.InBounds simLock record) ↔
      ∀ f ∈ handler, PayloadFits reads simLock record pos f := by
  cases handler with
  | none => exact ⟨fun _ _ h => (nomatch h), fun _ _ h => (nomatch h)⟩
  | some f =>
    constructor
    · intro h f' hf'
      obtain rfl := Option.some.inj hf'
      exact (inBounds_iff hreads pos f).mp (h _ rfl)
    · intro h i hi
      obtain rfl := Option.some.inj hi
      exact (inBounds_iff hreads pos f).mpr (h f rfl)

theorem invoked_processUnsolicited (c : RxClient) :
    (processUnsolicited reads record c 4).invoked =
      (reads.readInt32 record 4).bind fun respId =>
        (findUnsolHandler c.unsolHandlers respId.toBitVec.toNat).map (invocation reads record 8) := by
  unfold processUnsolicited
  cases reads.readInt32 record 4 <;> rfl

theorem invoked_processSolicited (c : RxClient) :
    (processSolicited reads record c 4).invoked =
      (reads.readInt32 record 4).bind fun token =>
        if isValidToken c.prv.tokenPool token.toBitVec = true ∧ reads.readInt32 record 8 = some 0 then
          (findReqHandler c.prv.history c.prv.reqHandlers token.toBitVec).map
            (invocation reads record 12)
        else none := by
  unfold processSolicited
  cases reads.readInt32 record 4 with
  | none => rfl
  | some token =>
    dsimp only [Option.bind_some]
    by_cases hvalid : isValidToken c.prv.tokenPool token.toBitVec = true
    · rw [if_neg (not_not.mpr hvalid)]
      cases herr : reads.readInt32 record 8 with
      | none => exact (if_neg fun h => nomatch h.2).symm
      | some err =>
        dsimp only
        by_cases hzero : err = 0
        · rw [if_neg (not_not.mpr hzero), if_pos ⟨hvalid, congrArg some hzero⟩]
        · rw [if_pos hzero]
          exact (if_neg fun h => hzero (Option.some.inj h.2)).symm
    · rw [if_pos hvalid, if_neg fun h => hvalid h.1]

theorem responseUnsolicited_ne : responseUnsolicited ≠ responseSolicited := by decide

/-- What the record makes the client call. -/
theorem invoked_processRxBuffer (c : RxClient) :
    (processRxBuffer reads record c).invoked =
      if reads.readInt32 record 0 = some responseUnsolicited then
        (processUnsolicited reads record c 4).invoked
      else if reads.readInt32 record 0 = some responseSolicited then
        (processSolicited reads record c 4).invoked
      else none := by
  unfold processRxBuffer
  cases reads.readInt32 record 0 with
  | none => rfl
  | some responseType =>
    dsimp only
    by_cases hunsol : responseType = responseUnsolicited
    · rw [if_pos hunsol, if_pos (congrArg some hunsol)]
    · rw [if_neg hunsol, if_neg fun h => hunsol (Option.some.inj h)]
      by_cases hsol : responseType = responseSolicited
      · rw [if_pos hsol, if_pos (congrArg some hsol)]
        split <;> rfl
      · rw [if_neg hsol, if_neg fun h => hsol (Option.some.inj h)]

end

/-- Whatever a record holds, its handler is called with data inside it exactly when the payload
fits. -/
theorem inBounds_iff_recordFits (reads : ParcelReads) (hreads : reads.Documented)
    (simLock : Handler) (record : List UInt8) (c : RxClient) :
    (∀ i ∈ (processRxBuffer reads record c).invoked, i.InBounds simLock record) ↔
      RecordFits reads simLock record c := by
  unfold RecordFits
  rw [invoked_processRxBuffer]
  by_cases hunsol : reads.readInt32 record 0 = some responseUnsolicited
  · have hsol : reads.readInt32 record 0 ≠ some responseSolicited := fun h =>
      responseUnsolicited_ne (Option.some.inj (hunsol.symm.trans h))
    rw [if_pos hunsol, invoked_processUnsolicited]
    cases hid : reads.readInt32 record 4 with
    | none => exact ⟨fun _ => ⟨fun _ h => (nomatch h), fun _ h => (nomatch h)⟩, fun _ _ h => (nomatch h)⟩
    | some respId =>
      rw [Option.bind_some, inBounds_map_iff hreads]
      constructor
      · intro h
        refine ⟨fun respId' hmem _ => ?_, fun _ _ hbad => absurd hbad hsol⟩
        obtain rfl := Option.some.inj hmem
        exact h
      · exact fun h => h.1 respId rfl hunsol
  · rw [if_neg hunsol]
    by_cases hsol : reads.readInt32 record 0 = some responseSolicited
    · rw [if_pos hsol, invoked_processSolicited]
      cases htoken : reads.readInt32 record 4 with
      | none =>
        exact ⟨fun _ => ⟨fun _ h => (nomatch h), fun _ h => (nomatch h)⟩, fun _ _ h => (nomatch h)⟩
      | some token =>
        rw [Option.bind_some]
        by_cases hok : isValidToken c.prv.tokenPool token.toBitVec = true ∧
            reads.readInt32 record 8 = some 0
        · rw [if_pos hok, inBounds_map_iff hreads]
          constructor
          · intro h
            refine ⟨fun _ _ hbad => absurd hbad hunsol, fun token' hmem _ _ _ => ?_⟩
            obtain rfl := Option.some.inj hmem
            exact h
          · exact fun h => h.2 token rfl hsol hok.1 hok.2
        · rw [if_neg hok]
          refine ⟨fun _ => ⟨fun _ _ hbad => absurd hbad hunsol, fun token' hmem _ hvalid herr => ?_⟩,
            fun _ _ h => (nomatch h)⟩
          obtain rfl := Option.some.inj hmem
          exact absurd ⟨hvalid, herr⟩ hok
    · rw [if_neg hsol]
      exact ⟨fun _ => ⟨fun _ _ hbad => absurd hbad hunsol, fun _ _ hbad => absurd hbad hsol⟩,
        fun _ _ h => (nomatch h)⟩

/-- `Parcel` on a little-endian machine. -/
def parcelReads : ParcelReads where
  readInt32 record pos :=
    match record.drop pos with
    | b0 :: b1 :: b2 :: b3 :: _ =>
      some (Int32.ofNat (b0.toNat + b1.toNat * 2 ^ 8 + b2.toNat * 2 ^ 16 + b3.toNat * 2 ^ 24))
    | _ => none
  readInplace record pos len :=
    if len.toInt < 0 ∨ record.length < pos + len.toInt.toNat then none else some pos

theorem parcelReads_documented : parcelReads.Documented where
  readInt32_none record pos := by
    have hlen : (record.drop pos).length = record.length - pos := List.length_drop
    unfold parcelReads
    dsimp only
    split
    · rename_i heq
      rw [heq] at hlen
      simp only [List.length_cons] at hlen
      refine ⟨fun h => (nomatch h), fun h => ?_⟩
      omega
    · rename_i hshort
      refine ⟨fun _ => ?_, fun _ => rfl⟩
      by_contra hlong
      match hdrop : record.drop pos with
      | [] | [_] | [_, _] | [_, _, _] =>
        rw [hdrop] at hlen
        simp only [List.length_cons, List.length_nil] at hlen
        omega
      | b0 :: b1 :: b2 :: b3 :: rest => exact hshort b0 b1 b2 b3 rest hdrop
  readInplace_none record pos len := by
    unfold parcelReads
    dsimp only
    split
    · rename_i h
      exact ⟨fun _ => h, fun _ => rfl⟩
    · rename_i h
      exact ⟨fun hnone => (nomatch hnone), fun hbad => absurd hbad h⟩
  readInplace_some record pos len off hsome := by
    unfold parcelReads at hsome
    dsimp only at hsome
    split at hsome
    · cases hsome
    · exact (Option.some.inj hsome).symm

/-- A client with a handler for the unsolicited response 5. -/
def unsolClient : RxClient where
  unsolHandlers := [{ id := 5, handler := some 7 }]

theorem inBounds_iff_recordFits_unsol :
    (∀ i ∈ (processRxBuffer parcelReads [1, 0, 0, 0, 5, 0, 0, 0, 2, 0, 0, 0, 8, 9]
      unsolClient).invoked, i.InBounds 0 [1, 0, 0, 0, 5, 0, 0, 0, 2, 0, 0, 0, 8, 9]) ↔
      RecordFits parcelReads 0 [1, 0, 0, 0, 5, 0, 0, 0, 2, 0, 0, 0, 8, 9] unsolClient :=
  inBounds_iff_recordFits parcelReads parcelReads_documented 0
    [1, 0, 0, 0, 5, 0, 0, 0, 2, 0, 0, 0, 8, 9] unsolClient

/-- A message that ends behind a length of 8. -/
theorem truncated_message_passed_on : ¬∀ (reads : ParcelReads), reads.Documented →
    ∀ (simLock : Handler) (record : List UInt8) (c : RxClient),
      ∀ i ∈ (processRxBuffer reads record c).invoked, i.InBounds simLock record := by
  intro hall
  have hcall : (processRxBuffer parcelReads [1, 0, 0, 0, 5, 0, 0, 0, 8, 0, 0, 0]
      unsolClient).invoked = some ⟨7, none, 8⟩ := by decide
  obtain ⟨⟨_, hzero⟩ | ⟨off, hsome, _⟩, _⟩ := hall parcelReads parcelReads_documented 0 _ _ _ hcall
  · exact absurd hzero (by decide)
  · cases hsome

end Universal7870.SecRil
