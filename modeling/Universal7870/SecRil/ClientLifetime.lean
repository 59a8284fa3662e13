import Universal7870.SecRil.Connection
import Universal7870.Lib.Run

/-!
# The life of a RIL client

`CloseClient_RILD` frees the members that the reader thread works with.  It joins the thread unless
there is no socket, and the thread that loses the socket has not come to its end by then.
-/

namespace Universal7870.SecRil

open Lib

namespace Connection

/-- The members are freed behind the last step of every reader thread. -/
structure Outlived (c : Connection) : Prop where
  terminated : c.client = .closed → c.readers = []
  untouched : c.touchedFreed = false

end Connection

/-- A connection is made while no reader thread runs; `CloseClient_RILD` that finds no socket, and so
joins no thread, finds none running. -/
def ConnectionOp.LeavesNoReader (c : Connection) : ConnectionOp → Prop
  | .connect _ => c.readers = []
  | .disconnect true => c.sock = -1 → c.readers = []
  | _ => True

instance (c : Connection) (op : ConnectionOp) : Decidable (op.LeavesNoReader c) :=
  match op with
  | .connect _ => inferInstanceAs (Decidable (_ = _))
  | .disconnect true => inferInstanceAs (Decidable (_ → _))
  | .disconnect false | .send _ | .resetConnect | .join | .free | .readerTest _ | .readerSelect _ _
  | .readerRead _ _ | .readerCommand _ | .readerDrop _ | .readerFree _ | .readerReport _ =>
    isTrue trivial

namespace Connection

/-! ## 1. What the steps do to the threads -/

/-- `c'` has the threads of `c`. -/
structure SameThreads (c c' : Connection) : Prop where
  readers : c'.readers = c.readers
  tidReader : c'.tidReader = c.tidReader
  client : c'.client = c.client
  touchedFreed : c'.touchedFreed = c.touchedFreed

variable {c c' c'' : Connection} {tid : Nat}

theorem SameThreads.rfl' : SameThreads c c := ⟨rfl, rfl, rfl, rfl⟩

theorem SameThreads.trans (h : SameThreads c c') (h' : SameThreads c' c'') : SameThreads c c'' :=
  ⟨h'.1.trans h.1, h'.2.trans h.2, h'.3.trans h.3, h'.4.trans h.4⟩

theorem sameThreads_access (c : Connection) (fd : Int) : SameThreads c (c.access fd) := by
  unfold access
  split
  · exact ⟨rfl, rfl, rfl, rfl⟩
  · exact .rfl'

theorem sameThreads_close (c : Connection) (fd : Int) : SameThreads c (c.close fd) := by
  unfold close
  split
  · exact ⟨rfl, rfl, rfl, rfl⟩
  · exact .rfl'

theorem sameThreads_closePipe (c : Connection) : SameThreads c c.closePipe :=
  (sameThreads_close _ _).trans (sameThreads_close _ _)

theorem sameThreads_abortSend (c : Connection) (ret : Int) : SameThreads c (c.abortSend ret) := by
  have h := sameThreads_close c c.sock
  unfold abortSend
  split
  · exact ⟨h.1, h.2, h.3, h.4⟩
  · exact .rfl'

theorem sameThreads_blockingWrite (c : Connection) (ret : Int) :
    SameThreads c (c.blockingWrite ret) := by
  unfold blockingWrite
  split
  · exact (sameThreads_access _ _).trans (sameThreads_close _ _)
  · exact sameThreads_access _ _

theorem sameThreads_send (c : Connection) (o : SendOutcome) : SameThreads c (c.send o) := by
  unfold send
  split
  · exact .rfl'
  · cases o with
    | noToken => exact .rfl'
    | noRecord => exact sameThreads_abortSend c 0
    | written header body =>
      have hheader := sameThreads_blockingWrite c header
      have hbody := hheader.trans (sameThreads_blockingWrite (c.blockingWrite header) body)
      dsimp only
      split
      · exact hheader.trans (sameThreads_abortSend _ _)
      · split
        · exact hbody.trans (sameThreads_abortSend _ _)
        · exact hbody

/-- The threads of a client without a reader, once it is connected or not. -/
structure AtMostOneMore (c c' : Connection) : Prop where
  readers : c'.readers = c.readers ∨
    c'.readers = c.readers ++ [⟨c'.tidReader, .testing⟩]
  client : c'.client = c.client
  touchedFreed : c'.touchedFreed = c.touchedFreed

theorem SameThreads.atMostOneMore (h : SameThreads c c') : AtMostOneMore c c' :=
  ⟨.inl h.readers, h.client, h.touchedFreed⟩

theorem SameThreads.then (h : SameThreads c c') (h' : AtMostOneMore c' c'') : AtMostOneMore c c'' :=
  ⟨h.readers ▸ h'.readers, h'.client.trans h.client, h'.touchedFreed.trans h.touchedFreed⟩

theorem atMostOneMore_startReader (c : Connection) (created : Bool) :
    AtMostOneMore c (c.startReader created) := by
  unfold startReader
  split
  · exact ⟨.inr rfl, rfl, rfl⟩
  · have h := (sameThreads_close c c.sock).trans (sameThreads_closePipe _)
    exact ⟨.inl h.readers, h.client, h.touchedFreed⟩

theorem atMostOneMore_openPipe (c : Connection) (o : ConnectOutcome) :
    AtMostOneMore c (c.openPipe o) := by
  unfold openPipe
  cases o.pipe with
  | none => exact (sameThreads_close c c.sock).atMostOneMore
  | some p =>
    have h : SameThreads c ({ (c.gain p.1).gain p.2 with pipefd := p, piped := false } : Connection) :=
      ⟨rfl, rfl, rfl, rfl⟩
    have haccess := h.trans (sameThreads_access _ p.1)
    dsimp only
    split
    · exact haccess.then (atMostOneMore_startReader _ _)
    · exact (haccess.trans ((sameThreads_close _ _).trans (sameThreads_closePipe _))).atMostOneMore

theorem atMostOneMore_connect (c : Connection) (o : ConnectOutcome) :
    AtMostOneMore c (c.connect o) := by
  unfold connect
  cases o.socket with
  | none => exact ⟨.inl rfl, rfl, rfl⟩
  | some fd =>
    have h : SameThreads c ({ c.gain fd with sock := fd, bConnect := true } : Connection) :=
      ⟨rfl, rfl, rfl, rfl⟩
    have haccess := h.trans (sameThreads_access _ fd)
    dsimp only
    split
    · refine SameThreads.then ?_ (atMostOneMore_openPipe _ o)
      exact ⟨haccess.1, haccess.2, haccess.3, haccess.4⟩
    · exact (haccess.trans (sameThreads_close _ _)).atMostOneMore

/-! ## 2. The invariant -/

/-- All reader threads are the one that the client would join, and none is left when it is about to
free the members. -/
structure OneReader (c : Connection) : Prop where
  joinable : ∀ r ∈ c.readers, r.tid = c.tidReader
  freeing : c.client = .freeing ∨ c.client = .closed → c.readers = []
  untouched : c.touchedFreed = false

theorem OneReader.same (h : c.OneReader) (hsame : SameThreads c c') : c'.OneReader where
  joinable := by
    rw [hsame.readers, hsame.tidReader]
    exact h.joinable
  freeing := by
    rw [hsame.readers, hsame.client]
    exact h.freeing
  untouched := hsame.touchedFreed.trans h.untouched

/-- A reader thread that is still running has not outlived the members. -/
theorem OneReader.touch (h : c.OneReader) {pc : ReaderPc} (hpc : c.pcOf tid = some pc) :
    c.touch = c := by
  unfold Connection.touch
  rw [if_neg]
  intro hclosed
  unfold pcOf at hpc
  rw [h.freeing (.inr hclosed)] at hpc
  cases hpc

theorem OneReader.setPc (h : c.OneReader) (pc : ReaderPc) : (c.setPc tid pc).OneReader where
  joinable r hr := by
    obtain ⟨r', hr', rfl⟩ := List.mem_map.mp hr
    have htid := h.joinable r' hr'
    split
    · rename_i heq
      exact heq.symm.trans htid
    · exact htid
  freeing hclient := by
    change c.readers.map _ = []
    rw [h.freeing hclient]
    rfl
  untouched := h.untouched

theorem OneReader.terminate (h : c.OneReader) : (c.terminate tid).OneReader where
  joinable r hr := h.joinable r (List.mem_filter.mp hr).1
  freeing hclient := by
    change c.readers.filter _ = []
    rw [h.freeing hclient]
    rfl
  untouched := h.untouched

theorem OneReader.connect (h : c.OneReader) (hnone : c.readers = []) (hidle : c.client = .idle)
    (o : ConnectOutcome) : (c.connect o).OneReader := by
  have hmore := atMostOneMore_connect c o
  have hreaders := hmore.readers
  rw [hnone, List.nil_append] at hreaders
  refine ⟨fun r hr => ?_, fun hclient => ?_, hmore.touchedFreed.trans h.untouched⟩
  · rcases hreaders with hsame | hone
    · rw [hsame] at hr
      cases hr
    · rw [hone] at hr
      exact congrArg ReaderThread.tid (List.mem_singleton.mp hr)
  · rw [hmore.client, hidle] at hclient
    rcases hclient with hbad | hbad <;> cases hbad

theorem OneReader.disconnect (h : c.OneReader) {closing : Bool}
    (hop : (ConnectionOp.disconnect closing).LeavesNoReader c) :
    (c.disconnect closing).OneReader := by
  have haccess := h.same (sameThreads_access c c.pipefd.2)
  unfold Connection.disconnect
  split
  · rename_i hsock
    cases closing with
    | true => exact ⟨h.joinable, fun _ => hop hsock, h.untouched⟩
    | false => exact ⟨h.joinable, fun hbad => hbad.elim nofun nofun, h.untouched⟩
  · split
    · exact ⟨haccess.joinable, fun hbad => hbad.elim nofun nofun, haccess.untouched⟩
    · exact ⟨h.joinable, fun hbad => hbad.elim nofun nofun, h.untouched⟩

/-- A step of a reader thread leaves the client alone. -/
theorem OneReader.readerTest (h : c.OneReader) : (c.readerTest tid).OneReader := by
  unfold Connection.readerTest
  split
  · exact (h.same ((sameThreads_access _ _).trans (sameThreads_access _ _))).setPc _
  · exact h.terminate

theorem OneReader.readerSelect (h : c.OneReader) (outcome : SelectOutcome) :
    (c.readerSelect tid outcome).OneReader := by
  unfold Connection.readerSelect
  cases outcome with
  | failed => exact h.setPc _
  | ready sock pipe =>
    dsimp only
    split
    · exact h.setPc _
    · split <;> exact h.setPc _

theorem OneReader.readerRead (h : c.OneReader) (pipeReady : Bool) (outcome : StreamOutcome) :
    (c.readerRead tid pipeReady outcome).OneReader := by
  have hread : c.readStream.OneReader := by
    unfold readStream
    split
    · exact h
    · exact h.same (sameThreads_access _ _)
  unfold Connection.readerRead
  cases outcome with
  | record => exact hread
  | again => exact hread.setPc _
  | ended => exact hread.setPc _

theorem OneReader.readerCommand (h : c.OneReader) : (c.readerCommand tid).OneReader := by
  have haccess := h.same (sameThreads_access c c.pipefd.1)
  have hclose := haccess.same
    ((sameThreads_close _ (c.access c.pipefd.1).sock).trans (sameThreads_closePipe _))
  unfold Connection.readerCommand
  dsimp only
  split
  · refine OneReader.setPc ?_ _
    exact ⟨hclose.joinable, hclose.freeing, hclose.untouched⟩
  · exact haccess.setPc _

theorem OneReader.readerDrop (h : c.OneReader) (failed : Bool) :
    (c.readerDrop tid failed).OneReader := by
  have hclose := h.same (sameThreads_close c c.sock)
  unfold Connection.readerDrop
  split
  · refine OneReader.setPc ?_ _
    exact ⟨hclose.joinable, hclose.freeing, hclose.untouched⟩
  · exact h.setPc _

theorem OneReader.readerReport (h : c.OneReader) (failed : Bool) :
    (c.readerReport tid failed).OneReader := by
  unfold Connection.readerReport
  split
  · exact h.terminate
  · exact h.setPc _

/-! ## 3. Runs -/

theorem OneReader.step (h : c.OneReader) {op : ConnectionOp} (hop : op.LeavesNoReader c)
    (hstep : c.step op = some c') : c'.OneReader := by
  unfold Connection.step at hstep
  cases op with
  | connect o =>
    dsimp only at hstep
    split at hstep
    · rename_i hok
      obtain rfl := Option.some.inj hstep
      exact h.connect hop hok.1 o
    · cases hstep
  | send o =>
    dsimp only at hstep
    split at hstep
    · obtain rfl := Option.some.inj hstep
      exact h.same (sameThreads_send c o)
    · cases hstep
  | disconnect closing =>
    dsimp only at hstep
    split at hstep
    · obtain rfl := Option.some.inj hstep
      exact h.disconnect hop
    · cases hstep
  | resetConnect =>
    dsimp only at hstep
    split at hstep
    · obtain rfl := Option.some.inj hstep
      exact ⟨h.joinable, fun hbad => hbad.elim nofun nofun, h.untouched⟩
    · cases hstep
  | join =>
    dsimp only at hstep
    split at hstep
    · split at hstep
      · cases hstep
      · rename_i hany
        obtain rfl := Option.some.inj hstep
        -- no thread is left, since each would be the one that was joined
        refine ⟨h.joinable, fun _ => List.eq_nil_iff_forall_not_mem.mpr fun r hr => ?_, h.untouched⟩
        exact hany (List.any_eq_true.mpr ⟨r, hr, decide_eq_true (h.joinable r hr)⟩)
    · cases hstep
  | free =>
    dsimp only at hstep
    split at hstep
    · rename_i hfreeing
      obtain rfl := Option.some.inj hstep
      exact ⟨h.joinable, fun _ => h.freeing (.inl hfreeing), h.untouched⟩
    · cases hstep
  | readerTest tid =>
    dsimp only at hstep
    split at hstep
    · rename_i hpc
      obtain rfl := Option.some.inj hstep
      rw [h.touch hpc]
      exact h.readerTest
    · cases hstep
  | readerSelect tid outcome =>
    dsimp only at hstep
    split at hstep
    · rename_i hpc
      obtain rfl := Option.some.inj hstep
      rw [h.touch hpc.1]
      exact h.readerSelect outcome
    · cases hstep
  | readerRead tid outcome =>
    dsimp only at hstep
    split at hstep
    · rename_i pipeReady hpc
      obtain rfl := Option.some.inj hstep
      rw [h.touch hpc]
      exact h.readerRead pipeReady outcome
    · cases hstep
  | readerCommand tid =>
    dsimp only at hstep
    split at hstep
    · rename_i hpc
      obtain rfl := Option.some.inj hstep
      rw [h.touch hpc]
      exact h.readerCommand
    · cases hstep
  | readerDrop tid =>
    dsimp only at hstep
    split at hstep
    · rename_i failed hpc
      obtain rfl := Option.some.inj hstep
      rw [h.touch hpc]
      exact h.readerDrop failed
    · cases hstep
  | readerFree tid =>
    dsimp only at hstep
    split at hstep
    · rename_i failed hpc
      obtain rfl := Option.some.inj hstep
      rw [h.touch hpc]
      exact h.setPc _
    · cases hstep
  | readerReport tid =>
    dsimp only at hstep
    split at hstep
    · rename_i failed hpc
      obtain rfl := Option.some.inj hstep
      rw [h.touch hpc]
      exact h.readerReport failed
    · cases hstep

/-- Where no reader thread is left behind, the members outlive it. -/
theorem outlived_of_leavesNoReader (errCb : Bool) (ops : List ConnectionOp) (c : Connection)
    (run : ExecWhere ConnectionOp.LeavesNoReader (guarded step) { errCb := errCb } ops c) :
    c.Outlived := by
  have hone : c.OneReader :=
    run.invariant (fun _ _ _ h hop hstep => h.step hop hstep)
      ⟨fun _ hr => (nomatch hr), fun _ => rfl, rfl⟩
  exact ⟨fun hclosed => hone.freeing (.inr hclosed), hone.untouched⟩

/-- The stream ends, and the client is closed behind the last step of the reader. -/
def endedOps : List ConnectionOp :=
  [.connect ⟨some 3, true, some (4, 5), true, true⟩, .readerTest 1,
    .readerSelect 1 (.ready true false), .readerRead 1 .ended, .readerDrop 1, .readerFree 1,
    .readerReport 1, .disconnect true, .free]

theorem outlived_of_leavesNoReader_endedOps :
    ∃ c, endedOps.foldlM step { errCb := true } = some c ∧ c.client = .closed ∧ c.Outlived :=
  ⟨_, rfl, rfl, outlived_of_leavesNoReader true endedOps _ (ExecWhere.of_foldlM (by decide))⟩

/-- The client is closed while the reader, behind the end of the stream, still has to free its
stream and to look for the error callback. -/
theorem reader_touches_freed :
    ¬∀ (errCb : Bool) (ops : List ConnectionOp) (c : Connection),
      Exec (guarded step) { errCb := errCb } ops c → c.Outlived := by
  intro hall
  have hrun : Exec (guarded step) { errCb := true }
      [.connect ⟨some 3, true, some (4, 5), true, true⟩, .readerTest 1,
        .readerSelect 1 (.ready true false), .readerRead 1 .ended, .readerDrop 1, .disconnect true,
        .free, .readerFree 1] _ := Exec.of_foldlM rfl
  exact absurd (hall true _ _ hrun).untouched (by decide)

end Connection

end Universal7870.SecRil
