import Universal7870.Lib.Run
import Mathlib.Tactic.Common

/-!
# The worker that makes the thumbnail

`PrepareCompression` creates a thread for a thumbnail that has to be generated, and
`FinishCompression` joins it, for a compression that does not block in a call of its own.
-/

namespace Universal7870.Jpeg

open Lib

/-! ## 1. The code -/

/-- What `ProcessExif` does: it refuses the sizes, or the buffer once the writer is prepared, or it
writes the segments.  `thumb` says whether the writer now has a place for a thumbnail. -/
inductive ExifResult
  | refused
  | tooSmall (thumb : Bool)
  | written (thumb : Bool)
  deriving DecidableEq, Repr

/-- How the calls of `encode` end.  `compress` is the length that the compressor returns, `none` for
a failure; a compressor that does not block returns no length. -/
structure EncodeCalls where
  arguments : Bool
  processExif : ExifResult
  setOutBuf : Bool
  inBufType : Nat
  ensureFormatIsApplied : Bool
  pthreadCreate : Bool
  allocThumbJpegBuffer : Bool
  compress : Option Nat
  deriving DecidableEq, Repr

/-- The members of the encoder for the worker.  A thread is named after the call of `encode` that
creates it.  The members from `calls` on are history: the calls of `encode`, the threads that are
not joined, the calls whose compression is in flight, whether a thread was joined that is not there
to be joined, and whether one was created while another was not joined. -/
structure ThumbWorker where
  hwfcEnabled : Bool
  noCreateThumbimage : Bool
  noBtbcomp : Bool
  b2bCapable : Bool
  thumbBufferType : Nat
  thumbStreamBase : Bool
  threadWorker : Nat
  calls : Nat
  unjoined : List Nat
  inFlight : List Nat
  joinedTwice : Bool
  createdOver : Bool
  deriving DecidableEq, Repr

inductive WorkerOp
  | encode (i : EncodeCalls)
  /-- `WaitForCompression`, and whether the compressor returns a stream. -/
  | waitForCompression (stream : Bool)
  /-- `setInBuf2` of a type of buffers, and whether it succeeds. -/
  | setInBuf2 (type : Nat) (ok : Bool)
  | enableHwfc
  | disableHwfc
  deriving DecidableEq, Repr

namespace ThumbWorker

def isThumbGenerationNeeded (s : ThumbWorker) : Bool := !s.noCreateThumbimage

def isBtbCompressionSupported (s : ThumbWorker) : Bool := s.b2bCapable && !s.noBtbcomp

/-- `SetJpegBuffer2` of the compressor. -/
def setJpegBuffer2 (s : ThumbWorker) : Bool := s.b2bCapable

/-- `pthread_create`. -/
def create (s : ThumbWorker) : ThumbWorker :=
  { s with
    threadWorker := s.calls
    unjoined := s.unjoined ++ [s.calls]
    createdOver := s.createdOver || !s.unjoined.isEmpty }

/-- `pthread_join`. -/
def join (s : ThumbWorker) : ThumbWorker :=
  { s with
    unjoined := s.unjoined.erase s.threadWorker
    joinedTwice := s.joinedTwice || !s.unjoined.contains s.threadWorker }

def prepareCompression (s : ThumbWorker) (thumbnail : Bool) (i : EncodeCalls) :
    Bool × ThumbWorker :=
  if thumbnail = false then (true, s)
  else
    let buffer2 := !(!s.noBtbcomp && s.isBtbCompressionSupported) || s.setJpegBuffer2
    if s.isThumbGenerationNeeded then
      if i.pthreadCreate = false then (false, s) else (buffer2, s.create)
    else if i.allocThumbJpegBuffer = false then (false, s)
    else (buffer2, s)

/-- `FinishCompression`, as far as it waits for the worker. -/
def finishCompression (s : ThumbWorker) : ThumbWorker :=
  if s.thumbStreamBase ∧ s.isThumbGenerationNeeded then s.join else s

/-- Buffers of the thumbnail are given for back-to-back compression, of another type than those of
the main image. -/
def typesDiffer (s : ThumbWorker) (thumbenc : Bool) (inBufType : Nat) : Bool :=
  thumbenc && !s.isThumbGenerationNeeded && s.isBtbCompressionSupported &&
    s.thumbBufferType != inBufType

/-- A thumbnail whose buffers could not be configured is generated after all. -/
def generateUnconfigured (s : ThumbWorker) (thumbenc : Bool) : ThumbWorker :=
  if thumbenc && !s.isThumbGenerationNeeded && s.thumbBufferType == 0 then
    { s with noCreateThumbimage := false }
  else s

/-- The end of `encode`, from `PrepareCompression` on. -/
def compress (s : ThumbWorker) (thumbenc : Bool) (i : EncodeCalls) : ThumbWorker :=
  let r := s.prepareCompression thumbenc i
  if r.1 = false then r.2
  else
    match i.compress with
    | none => r.2
    | some mainlen =>
      if s.hwfcEnabled then { r.2 with inFlight := r.2.inFlight ++ [s.calls] }
      -- a stream without length is taken for a compression that does not block
      else if mainlen = 0 then r.2
      else r.2.finishCompression

/-- `encode`, but for the count of its calls. -/
def encodeBody (s : ThumbWorker) (i : EncodeCalls) : ThumbWorker :=
  if i.arguments = false then s
  else
    match i.processExif with
    | .refused => s
    | .tooSmall thumb => { s with thumbStreamBase := thumb }
    | .written thumb =>
      let s := { s with thumbStreamBase := thumb }
      if i.setOutBuf = false then s
      else if s.typesDiffer thumb i.inBufType then s
      else
        let s := s.generateUnconfigured thumb
        if i.ensureFormatIsApplied = false then s else s.compress thumb i

def encode (s : ThumbWorker) (i : EncodeCalls) : ThumbWorker :=
  { s.encodeBody i with calls := s.calls + 1 }

/-- `WaitForCompression`; the compressor returns from the compression that came first. -/
def waitForCompression (s : ThumbWorker) (stream : Bool) : ThumbWorker :=
  if s.hwfcEnabled = false then s
  else
    let s := { s with inFlight := s.inFlight.tail }
    if stream then s.finishCompression else s

def setInBuf2 (s : ThumbWorker) (type : Nat) (ok : Bool) : ThumbWorker :=
  let s := { s with noCreateThumbimage := true }
  if ok then { s with thumbBufferType := type } else s

def step (s : ThumbWorker) : WorkerOp → ThumbWorker
  | .encode i => s.encode i
  | .waitForCompression stream => s.waitForCompression stream
  | .setInBuf2 type ok => s.setInBuf2 type ok
  | .enableHwfc => { s with hwfcEnabled := true }
  | .disableHwfc => { s with hwfcEnabled := false }

/-- An encoder as it is constructed. -/
def constructed (b2bCapable btbComp : Bool) : ThumbWorker where
  hwfcEnabled := false
  noCreateThumbimage := false
  noBtbcomp := !btbComp
  b2bCapable := b2bCapable
  thumbBufferType := 0
  thumbStreamBase := false
  threadWorker := 0
  calls := 0
  unjoined := []
  inFlight := []
  joinedTwice := false
  createdOver := false

/-! ## 2. What is asked of the worker -/

/-- No thread was joined twice, none was created over another, and a thread that is not joined
belongs to a compression in flight. -/
structure Joined (s : ThumbWorker) : Prop where
  once : s.joinedTwice = false
  alone : s.createdOver = false
  pending : ∀ t ∈ s.unjoined, t ∈ s.inFlight

/-- `encode` comes to create a worker. -/
def Creates (s : ThumbWorker) (i : EncodeCalls) : Prop :=
  i.arguments = true ∧ i.processExif = .written true ∧ i.setOutBuf = true ∧
    s.typesDiffer true i.inBufType = false ∧
    (s.isThumbGenerationNeeded = true ∨ s.thumbBufferType = 0) ∧
    i.ensureFormatIsApplied = true ∧ i.pthreadCreate = true

/-- The compression succeeds, with a stream if the call blocks. -/
def Compresses (s : ThumbWorker) (i : EncodeCalls) : Prop :=
  ∃ mainlen, i.compress = some mainlen ∧ (s.hwfcEnabled = true ∨ mainlen ≠ 0)

/-- The end of the compression comes to join a worker. -/
def Joins (s : ThumbWorker) (stream : Bool) : Prop :=
  stream = true ∧ s.thumbStreamBase = true ∧ s.isThumbGenerationNeeded = true

end ThumbWorker

/-- A worker is created only when no other is there, for a compression that succeeds.  The wait for
a compression joins a worker that is there, or leaves only workers of later compressions. -/
def WorkerOp.Orderly (s : ThumbWorker) : WorkerOp → Prop
  | .encode i => s.Creates i → s.unjoined = [] ∧ s.Compresses i
  | .waitForCompression stream => s.hwfcEnabled = true →
      (s.Joins stream → s.unjoined ≠ []) ∧
      (¬s.Joins stream → ∀ t ∈ s.unjoined, t ∈ s.inFlight.tail)
  | _ => True

namespace ThumbWorker

/-- What holds besides between calls: at most the thread that was created last is not joined, and
threads and compressions are of calls before. -/
structure Sound (s : ThumbWorker) : Prop where
  joined : s.Joined
  latest : s.unjoined = [] ∨ s.unjoined = [s.threadWorker]
  past : ∀ t ∈ s.unjoined ++ s.inFlight, t < s.calls

variable {s : ThumbWorker}

/-! ## 3. Calls that leave the workers alone -/

/-- No worker is created or joined. -/
structure Quiet (s t : ThumbWorker) : Prop where
  threadWorker : t.threadWorker = s.threadWorker
  unjoined : t.unjoined = s.unjoined
  joinedTwice : t.joinedTwice = s.joinedTwice
  createdOver : t.createdOver = s.createdOver
  inFlight : t.inFlight = s.inFlight ∨ t.inFlight = s.inFlight ++ [s.calls]

theorem Quiet.refl (s : ThumbWorker) : Quiet s s := ⟨rfl, rfl, rfl, rfl, .inl rfl⟩

theorem Sound.quiet {t : ThumbWorker} (h : s.Sound) (hquiet : Quiet s t)
    (hcalls : t.calls = s.calls + 1) : t.Sound := by
  have hsub : ∀ i ∈ s.inFlight, i ∈ t.inFlight := by
    intro i hi
    rcases hquiet.inFlight with hsame | hmore
    · rw [hsame]
      exact hi
    · rw [hmore]
      exact List.mem_append_left _ hi
  refine ⟨⟨?_, ?_, ?_⟩, ?_, ?_⟩
  · rw [hquiet.joinedTwice]
    exact h.joined.once
  · rw [hquiet.createdOver]
    exact h.joined.alone
  · rw [hquiet.unjoined]
    exact fun i hi => hsub i (h.joined.pending i hi)
  · rw [hquiet.unjoined, hquiet.threadWorker]
    exact h.latest
  · rw [hquiet.unjoined, hcalls]
    intro i hi
    rcases List.mem_append.mp hi with hthread | hflight
    · exact Nat.lt_succ_of_lt (h.past i (List.mem_append_left _ hthread))
    · rcases hquiet.inFlight with hsame | hmore
      · rw [hsame] at hflight
        exact Nat.lt_succ_of_lt (h.past i (List.mem_append_right _ hflight))
      · rw [hmore] at hflight
        rcases List.mem_append.mp hflight with hold | hnew
        · exact Nat.lt_succ_of_lt (h.past i (List.mem_append_right _ hold))
        · rw [List.mem_singleton.mp hnew]
          exact Nat.lt_succ_self _

/-- The configuration of the second buffer only fails without the capability, for which it is not
asked. -/
theorem buffer2_succeeds (s : ThumbWorker) :
    (!(!s.noBtbcomp && s.isBtbCompressionSupported) || s.setJpegBuffer2) = true := by
  unfold isBtbCompressionSupported setJpegBuffer2
  cases s.b2bCapable <;> cases s.noBtbcomp <;> rfl

theorem prepareCompression_quiet {i : EncodeCalls} {thumbenc : Bool}
    (h : ¬(thumbenc = true ∧ s.isThumbGenerationNeeded = true ∧ i.pthreadCreate = true)) :
    (s.prepareCompression thumbenc i).2 = s ∧
      ((s.prepareCompression thumbenc i).1 = true →
        ¬(thumbenc = true ∧ s.isThumbGenerationNeeded = true)) := by
  unfold prepareCompression
  cases thumbenc with
  | false => exact ⟨rfl, fun _ hboth => nomatch hboth.1⟩
  | true =>
    cases hneeded : s.isThumbGenerationNeeded with
    | true =>
      cases hcreate : i.pthreadCreate with
      | true => exact absurd ⟨rfl, hneeded, hcreate⟩ h
      | false => exact ⟨rfl, nofun⟩
    | false =>
      refine ⟨?_, fun _ hboth => nomatch hboth.2⟩
      dsimp only
      rw [if_neg (by simp), if_neg (by simp)]
      split <;> rfl

theorem prepareCompression_create {i : EncodeCalls} (hneeded : s.isThumbGenerationNeeded = true)
    (hcreate : i.pthreadCreate = true) : s.prepareCompression true i = (true, s.create) := by
  unfold prepareCompression
  dsimp only
  rw [if_neg (by simp), if_pos hneeded, if_neg (by simp [hcreate]), s.buffer2_succeeds]

/-- Without a worker to create the compression joins none. -/
theorem compress_quiet {i : EncodeCalls} {thumbenc : Bool} (hbase : s.thumbStreamBase = thumbenc)
    (h : ¬(thumbenc = true ∧ s.isThumbGenerationNeeded = true ∧ i.pthreadCreate = true)) :
    Quiet s (s.compress thumbenc i) := by
  obtain ⟨hsame, hprepared⟩ := prepareCompression_quiet h
  unfold compress
  dsimp only
  generalize s.prepareCompression thumbenc i = r at *
  obtain ⟨ok, t⟩ := r
  dsimp only at hsame hprepared ⊢
  subst hsame
  split
  · exact Quiet.refl t
  · rename_i hok
    cases i.compress with
    | none => exact Quiet.refl t
    | some mainlen =>
      dsimp only
      split
      · exact ⟨rfl, rfl, rfl, rfl, .inr rfl⟩
      · split
        · exact Quiet.refl t
        · unfold finishCompression
          rw [hbase, if_neg (hprepared (by simpa using hok))]
          exact Quiet.refl t

/-- What was configured in front of `PrepareCompression`. -/
structure SameWorkers (s t : ThumbWorker) : Prop where
  threadWorker : t.threadWorker = s.threadWorker
  unjoined : t.unjoined = s.unjoined
  joinedTwice : t.joinedTwice = s.joinedTwice
  createdOver : t.createdOver = s.createdOver
  inFlight : t.inFlight = s.inFlight
  calls : t.calls = s.calls
  hwfcEnabled : t.hwfcEnabled = s.hwfcEnabled

theorem SameWorkers.quiet {t u : ThumbWorker} (h : SameWorkers s t) (hquiet : Quiet t u) :
    Quiet s u := by
  refine ⟨hquiet.threadWorker.trans h.threadWorker, hquiet.unjoined.trans h.unjoined,
    hquiet.joinedTwice.trans h.joinedTwice, hquiet.createdOver.trans h.createdOver, ?_⟩
  rw [← h.inFlight, ← h.calls]
  exact hquiet.inFlight

/-- The encoder once it has to do with a thumbnail or not. -/
def configured (s : ThumbWorker) (thumb : Bool) : ThumbWorker :=
  generateUnconfigured { s with thumbStreamBase := thumb } thumb

theorem sameWorkers_configured (s : ThumbWorker) (thumb : Bool) :
    SameWorkers s (s.configured thumb) ∧ (s.configured thumb).thumbStreamBase = thumb := by
  unfold configured generateUnconfigured
  split <;> exact ⟨⟨rfl, rfl, rfl, rfl, rfl, rfl, rfl⟩, rfl⟩

theorem configured_needed_iff (s : ThumbWorker) :
    (s.configured true).isThumbGenerationNeeded = true ↔
      s.isThumbGenerationNeeded = true ∨ s.thumbBufferType = 0 := by
  unfold configured generateUnconfigured isThumbGenerationNeeded
  dsimp only
  cases s.noCreateThumbimage with
  | false => simp
  | true =>
    by_cases htype : s.thumbBufferType = 0
    · simp [htype]
    · simp [htype]

theorem encodeBody_quiet {i : EncodeCalls} (h : ¬s.Creates i) : Quiet s (s.encodeBody i) := by
  unfold encodeBody
  split
  · exact Quiet.refl s
  · rename_i harguments
    cases hexif : i.processExif with
    | refused => exact Quiet.refl s
    | tooSmall thumb => exact ⟨rfl, rfl, rfl, rfl, .inl rfl⟩
    | written thumb =>
      dsimp only
      split
      · exact ⟨rfl, rfl, rfl, rfl, .inl rfl⟩
      · rename_i hbuf
        split
        · exact ⟨rfl, rfl, rfl, rfl, .inl rfl⟩
        · rename_i htypes
          obtain ⟨hsame, hbase⟩ := s.sameWorkers_configured thumb
          change Quiet s (if _ then s.configured thumb else (s.configured thumb).compress thumb i)
          split
          · exact hsame.quiet (Quiet.refl _)
          · rename_i hformat
            refine hsame.quiet (compress_quiet hbase fun hall => h ?_)
            obtain ⟨rfl, hneeded, hcreate⟩ := hall
            have hsameTypes : s.typesDiffer true i.inBufType = false := (Bool.not_eq_true _).mp htypes
            exact ⟨by simpa using harguments, hexif, by simpa using hbuf, hsameTypes,
              s.configured_needed_iff.mp hneeded, by simpa using hformat, hcreate⟩

theorem encodeBody_create {i : EncodeCalls} (h : s.Creates i) :
    s.encodeBody i = (s.configured true).compress true i := by
  obtain ⟨harguments, hexif, hbuf, htypes, _, hformat, _⟩ := h
  unfold encodeBody
  rw [if_neg (by simp [harguments]), hexif]
  dsimp only
  rw [if_neg (by simp [hbuf]), if_neg, if_neg (by simp [hformat])]
  · rfl
  · rw [Bool.not_eq_true]
    exact htypes

/-! ## 4. Calls that create a worker -/

/-- The encoder after `pthread_create` and the compressor's call. -/
theorem compress_create {i : EncodeCalls} (hneeded : s.isThumbGenerationNeeded = true)
    (hcreate : i.pthreadCreate = true) (hbase : s.thumbStreamBase = true) :
    s.compress true i =
      match i.compress with
      | none => s.create
      | some mainlen =>
        if s.hwfcEnabled then { s.create with inFlight := s.inFlight ++ [s.calls] }
        else if mainlen = 0 then s.create
        else s.create.join := by
  unfold compress
  rw [prepareCompression_create hneeded hcreate]
  dsimp only
  rw [if_neg (by simp)]
  cases i.compress with
  | none => rfl
  | some mainlen =>
    dsimp only
    congr 2
    unfold finishCompression
    exact if_pos ⟨hbase, hneeded⟩

/-- The worker that was created is there to be joined. -/
theorem join_create (hnone : s.unjoined = []) :
    s.create.join.unjoined = [] ∧ s.create.join.joinedTwice = s.joinedTwice := by
  unfold join create
  dsimp only
  rw [hnone]
  simp

theorem Sound.encode (h : s.Sound) {i : EncodeCalls}
    (hop : s.Creates i → s.unjoined = [] ∧ s.Compresses i) : (s.encode i).Sound := by
  by_cases hcreates : s.Creates i
  · obtain ⟨hnone, mainlen, hcompress, hlen⟩ := hop hcreates
    obtain ⟨hsame, hbase⟩ := s.sameWorkers_configured true
    have hneeded := s.configured_needed_iff.mpr hcreates.2.2.2.2.1
    unfold ThumbWorker.encode
    rw [encodeBody_create hcreates, compress_create hneeded hcreates.2.2.2.2.2.2 hbase, hcompress]
    dsimp only
    generalize s.configured true = t at *
    have hnone' : t.unjoined = [] := hsame.unjoined.trans hnone
    have hover : t.create.createdOver = false := by
      unfold create
      dsimp only
      rw [hnone', hsame.createdOver, h.joined.alone]
      rfl
    have hpast : ∀ c ∈ t.inFlight, c < s.calls := by
      rw [hsame.inFlight]
      exact fun c hc => h.past c (List.mem_append_right _ hc)
    by_cases hhwfc : t.hwfcEnabled = true
    · rw [if_pos hhwfc]
      refine ⟨⟨hsame.joinedTwice.trans h.joined.once, hover, fun c hc => ?_⟩, .inr ?_,
        fun c hc => ?_⟩
      · change c ∈ t.unjoined ++ [t.calls] at hc
        rw [hnone', List.nil_append] at hc
        exact List.mem_append_right _ hc
      · show t.unjoined ++ [t.calls] = [t.calls]
        rw [hnone', List.nil_append]
      · change c ∈ (t.unjoined ++ [t.calls]) ++ (t.inFlight ++ [t.calls]) at hc
        show c < s.calls + 1
        rw [hnone', hsame.calls] at hc
        simp only [List.nil_append, List.mem_append, List.mem_singleton] at hc
        rcases hc with hthis | hold | hthis
        · omega
        · have hlt := hpast c hold
          omega
        · omega
    · rw [if_neg hhwfc, if_neg]
      · obtain ⟨hunjoined, htwice⟩ := join_create hnone'
        refine ⟨⟨htwice.trans (hsame.joinedTwice.trans h.joined.once), hover, ?_⟩, .inl hunjoined,
          ?_⟩
        · show ∀ c ∈ t.create.join.unjoined, _
          rw [hunjoined]
          exact nofun
        · show ∀ c ∈ t.create.join.unjoined ++ t.inFlight, c < s.calls + 1
          rw [hunjoined, List.nil_append]
          exact fun c hc => Nat.lt_succ_of_lt (hpast c hc)
      · rcases hlen with hhwfc' | hpos
        · exact absurd (hsame.hwfcEnabled.trans hhwfc') hhwfc
        · exact hpos
  · have hquiet := encodeBody_quiet hcreates
    refine h.quiet ⟨hquiet.threadWorker, hquiet.unjoined, hquiet.joinedTwice, hquiet.createdOver,
      hquiet.inFlight⟩ rfl

/-- A worker that is created is joined in time only if there was none, and if the compression
succeeds. -/
theorem Sound.of_encode (h : s.Sound) {i : EncodeCalls} (hjoined : (s.encode i).Joined)
    (hcreates : s.Creates i) : s.unjoined = [] ∧ s.Compresses i := by
  obtain ⟨hsame, hbase⟩ := s.sameWorkers_configured true
  have hneeded := s.configured_needed_iff.mpr hcreates.2.2.2.2.1
  unfold ThumbWorker.encode at hjoined
  rw [encodeBody_create hcreates, compress_create hneeded hcreates.2.2.2.2.2.2 hbase] at hjoined
  generalize s.configured true = t at *
  have hnone : t.create.createdOver = false → s.unjoined = [] := by
    intro hover
    unfold create at hover
    rw [hsame.unjoined] at hover
    simpa using (Bool.or_eq_false_iff.mp hover).2
  -- the worker that was just created does not belong to a compression before
  have hpending : ¬∀ c ∈ t.create.unjoined, c ∈ t.create.inFlight := by
    intro hall
    have hflight : t.calls ∈ t.inFlight :=
      hall t.calls (List.mem_append_right _ (List.mem_singleton.mpr rfl))
    rw [hsame.calls, hsame.inFlight] at hflight
    exact absurd (h.past s.calls (List.mem_append_right _ hflight)) (Nat.lt_irrefl _)
  unfold Compresses
  cases hcompress : i.compress with
  | none =>
    rw [hcompress] at hjoined
    exact absurd hjoined.pending hpending
  | some mainlen =>
    rw [hcompress] at hjoined
    dsimp only at hjoined
    by_cases hhwfc : t.hwfcEnabled = true
    · rw [if_pos hhwfc] at hjoined
      exact ⟨hnone hjoined.alone, mainlen, rfl, .inl (hsame.hwfcEnabled ▸ hhwfc)⟩
    · rw [if_neg hhwfc] at hjoined
      by_cases hlen : mainlen = 0
      · rw [if_pos hlen] at hjoined
        exact absurd hjoined.pending hpending
      · rw [if_neg hlen] at hjoined
        exact ⟨hnone hjoined.alone, mainlen, rfl, .inr hlen⟩

/-! ## 5. Waiting -/

/-- A wait leaves the workers in order exactly when it is orderly. -/
theorem Sound.wait_iff (h : s.Sound) (stream : Bool) :
    (s.waitForCompression stream).Joined ↔
      WorkerOp.Orderly s (.waitForCompression stream) := by
  unfold ThumbWorker.waitForCompression WorkerOp.Orderly
  by_cases hhwfc : s.hwfcEnabled = false
  · rw [if_pos hhwfc]
    exact iff_of_true h.joined fun hon => nomatch hhwfc.symm.trans hon
  · rw [if_neg hhwfc]
    have hon : s.hwfcEnabled = true := by simpa using hhwfc
    dsimp only
    rw [forall_prop_of_true hon]
    by_cases hjoins : s.Joins stream
    · obtain ⟨hstream, hbase, hneeded⟩ := hjoins
      rw [if_pos hstream]
      unfold finishCompression
      rw [if_pos ⟨hbase, hneeded⟩]
      have hjoins : s.Joins stream := ⟨hstream, hbase, hneeded⟩
      constructor
      · intro hjoined
        refine ⟨fun _ hnone => ?_, fun hnot => absurd hjoins hnot⟩
        have honce := hjoined.once
        unfold join at honce
        dsimp only at honce
        rw [hnone] at honce
        simp at honce
      · intro hthere
        rcases h.latest with hnone | hlatest
        · exact absurd hnone (hthere.1 hjoins)
        · unfold join
          dsimp only
          rw [hlatest]
          exact ⟨by simp [h.joined.once], h.joined.alone, by simp⟩
    · have hsame : (if stream = true then
          finishCompression { s with inFlight := s.inFlight.tail }
          else { s with inFlight := s.inFlight.tail }) = { s with inFlight := s.inFlight.tail } := by
        split
        · rename_i hstream
          unfold finishCompression
          exact if_neg fun hboth => hjoins ⟨hstream, hboth.1, hboth.2⟩
        · rfl
      rw [hsame]
      constructor
      · exact fun hjoined => ⟨fun hyes => absurd hyes hjoins, fun _ => hjoined.pending⟩
      · exact fun hlater => ⟨h.joined.once, h.joined.alone, hlater.2 hjoins⟩

theorem Sound.wait (h : s.Sound) {stream : Bool}
    (hjoined : (s.waitForCompression stream).Joined) : (s.waitForCompression stream).Sound := by
  refine ⟨hjoined, ?_, ?_⟩
  · unfold waitForCompression
    split
    · exact h.latest
    · dsimp only
      split
      · unfold finishCompression
        split
        · left
          unfold join
          dsimp only
          rcases h.latest with hnone | hlatest
          · rw [hnone]
            rfl
          · rw [hlatest]
            simp
        · exact h.latest
      · exact h.latest
  · have htail : ∀ c ∈ s.unjoined ++ s.inFlight.tail, c < s.calls := by
      intro c hc
      rcases List.mem_append.mp hc with hthread | hflight
      · exact h.past c (List.mem_append_left _ hthread)
      · exact h.past c (List.mem_append_right _ (List.mem_of_mem_tail hflight))
    unfold waitForCompression
    split
    · exact h.past
    · dsimp only
      split
      · unfold finishCompression
        split
        · unfold join
          intro c hc
          rcases List.mem_append.mp hc with hthread | hflight
          · exact htail c (List.mem_append_left _ (List.mem_of_mem_erase hthread))
          · exact htail c (List.mem_append_right _ hflight)
        · exact htail
      · exact htail

/-! ## 6. Runs -/

/-- An operation leaves the workers in order exactly when it is orderly. -/
theorem Sound.step_iff (h : s.Sound) (op : WorkerOp) : (s.step op).Joined ↔ op.Orderly s := by
  cases op with
  | encode i => exact ⟨fun hjoined hcreates => h.of_encode hjoined hcreates,
      fun hop => (h.encode hop).joined⟩
  | waitForCompression stream => exact h.wait_iff stream
  | setInBuf2 type ok =>
    refine iff_of_true ?_ trivial
    show (s.setInBuf2 type ok).Joined
    unfold setInBuf2
    split <;> exact ⟨h.joined.once, h.joined.alone, h.joined.pending⟩
  | enableHwfc => exact iff_of_true ⟨h.joined.once, h.joined.alone, h.joined.pending⟩ trivial
  | disableHwfc => exact iff_of_true ⟨h.joined.once, h.joined.alone, h.joined.pending⟩ trivial

theorem Sound.step (h : s.Sound) {op : WorkerOp} (hop : op.Orderly s) : (s.step op).Sound := by
  have hjoined := (h.step_iff op).mpr hop
  cases op with
  | encode i => exact h.encode hop
  | waitForCompression stream => exact h.wait hjoined
  | setInBuf2 type ok =>
    cases ok with
    | true => exact ⟨hjoined, h.latest, h.past⟩
    | false => exact ⟨hjoined, h.latest, h.past⟩
  | enableHwfc => exact ⟨hjoined, h.latest, h.past⟩
  | disableHwfc => exact ⟨hjoined, h.latest, h.past⟩

theorem sound_constructed (b2bCapable btbComp : Bool) : (constructed b2bCapable btbComp).Sound :=
  ⟨⟨rfl, rfl, nofun⟩, .inl rfl, nofun⟩

/-- In a run of orderly operations every worker is joined once, before the call returns that ends
its compression; the first operation that is not orderly ends this. -/
theorem joined_of_orderly {b2bCapable btbComp : Bool} {ops : List WorkerOp} {s : ThumbWorker}
    (run : ExecWhere (fun s op => op.Orderly s) (functional step) (constructed b2bCapable btbComp)
      ops s) :
    s.Joined ∧ ∀ op, (s.step op).Joined ↔ op.Orderly s := by
  have hs : s.Sound := by
    apply run.invariant (I := Sound)
    · rintro s op t hs hop rfl
      exact hs.step hop
    · exact sound_constructed b2bCapable btbComp
  exact ⟨hs.joined, hs.step_iff⟩

/-- A call of `encode` for a thumbnail, all of whose calls succeed but for the compressor's. -/
def encodeThumb (compress : Option Nat) : WorkerOp :=
  .encode ⟨true, .written true, true, 1, true, true, true, compress⟩

theorem joined_of_orderly_hwfc :
    ([.enableHwfc, encodeThumb (some 0), .waitForCompression true].foldl step
      (constructed true true)).Joined := by
  refine (@joined_of_orderly true true [.enableHwfc, encodeThumb (some 0), .waitForCompression true]
    _ (ExecWhere.folded fun n op hop => ?_)).1
  match n with
  | 0 =>
    obtain rfl := Option.some.inj hop
    exact trivial
  | 1 =>
    obtain rfl := Option.some.inj hop
    exact fun _ => ⟨rfl, 0, rfl, .inl rfl⟩
  | 2 =>
    obtain rfl := Option.some.inj hop
    exact fun _ => ⟨fun _ => nofun, fun hnot => absurd ⟨rfl, rfl, rfl⟩ hnot⟩
  | n + 3 => cases hop

/-- The compressor fails after the worker was created: `encode` returns without joining it. -/
theorem not_joined_failure :
    ¬ ∀ (b2bCapable btbComp : Bool) (ops : List WorkerOp) (s : ThumbWorker),
      Exec (functional step) (constructed b2bCapable btbComp) ops s → s.Joined := by
  intro h
  have hjoined := h true true _ _ (Exec.folded step _ [encodeThumb none])
  exact absurd (hjoined.pending 0 (by decide)) (by decide)

end ThumbWorker

end Universal7870.Jpeg
