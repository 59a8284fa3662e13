import Mathlib.Data.List.Nodup
import Universal7870.SecRil.Connection
import Universal7870.Lib.Run

/-!
# The descriptors of the RIL client

As long as nothing fails, the socket and the pipe live from `Connect_RILD` to the command that the
reader takes out of the pipe.
-/

namespace Universal7870.SecRil

open Lib

/-! ## 1. What is claimed of a state -/

namespace Connection

/-- Descriptors are used and closed while they are open, and all are closed when the client is; with
no operation in progress `b_connect` says whether the socket is open and the reader runs. -/
structure Resources (c : Connection) : Prop where
  ledger : c.fds.Sound
  closed : c.client = .closed → c.fds.opened = [] ∧ c.fds.gained.Perm c.fds.released
  connected : c.client = .idle → (∀ r ∈ c.readers, r.pc = .selecting) →
    (c.bConnect = true ↔ (∃ fd ∈ c.fds.opened, c.sock = (fd : Int)) ∧
      ∃ r ∈ c.readers, r.tid = c.tidReader)

end Connection

/-- A connection is made only by a client that has none, with a socket that is not 0, and fails at
its socket or at its thread only; nothing fails to be written; the reader meets no failure and no
end of the stream, and does not leave its loop while the socket is open. -/
def ConnectionOp.Fine (c : Connection) : ConnectionOp → Prop
  | .connect o => c.bConnect = false ∧ (o.socket = none ∨
      o.socket ≠ some 0 ∧ o.fcntlSock = true ∧ o.pipe ≠ none ∧ o.fcntlPipe = true)
  | .send (.written header body) => 0 ≤ c.sock → 0 ≤ header ∧ 0 ≤ body
  | .readerTest _ => c.bConnect = false → c.sock = -1
  | .readerSelect _ outcome => outcome ≠ .failed
  | .readerRead _ outcome => outcome ≠ .ended
  | _ => True

instance (c : Connection) (op : ConnectionOp) : Decidable (op.Fine c) :=
  match op with
  | .connect _ => inferInstanceAs (Decidable (_ ∧ _))
  | .send (.written _ _) => inferInstanceAs (Decidable (_ → _))
  | .readerTest _ => inferInstanceAs (Decidable (_ → _))
  | .readerSelect _ _ | .readerRead _ _ => inferInstanceAs (Decidable (_ ≠ _))
  | .send .noToken | .send .noRecord | .disconnect _ | .resetConnect | .join | .free
  | .readerCommand _ | .readerDrop _ | .readerFree _ | .readerReport _ => isTrue trivial

namespace Connection

/-! ## 2. The invariant -/

/-- The client and the reader `tid` share a socket and a pipe. -/
structure Live (c : Connection) (fd p₀ p₁ tid : Nat) (pc : ReaderPc) : Prop where
  sock : c.sock = (fd : Int)
  pos : 0 < fd
  pipefd : c.pipefd = (p₀, p₁)
  owns : c.fds.Owns [fd, p₀, p₁]
  recordStream : c.recordStream = some fd
  readers : c.readers = [⟨tid, pc⟩]
  tidReader : c.tidReader = tid
  inLoop : pc = .testing ∨ pc = .selecting ∨ (∃ b, pc = .reading b) ∨ pc = .commanded
  phase : (c.client = .idle ∧ c.bConnect = true ∧ c.piped = false ∧ pc ≠ .reading true ∧
      pc ≠ .commanded) ∨
    ∃ closing, c.piped = true ∧
      (c.client = .stopping closing ∧ c.bConnect = true ∨
        c.client = .joining closing ∧ c.bConnect = false)

/-- There is no socket, and no reader that has more to do than to see that. -/
structure Gone (c : Connection) : Prop where
  sock : c.sock = -1
  owns : c.fds.Owns []
  bConnect : c.bConnect = false
  readers : c.readers = [] ∨ ∃ tid closing, c.readers = [⟨tid, .testing⟩] ∧ c.tidReader = tid ∧
    (c.client = .stopping closing ∨ c.client = .joining closing)

def Inv (c : Connection) : Prop := c.Gone ∨ ∃ fd p₀ p₁ tid pc, c.Live fd p₀ p₁ tid pc

section

variable {c : Connection} {fd p₀ p₁ tid : Nat} {pc : ReaderPc}

theorem inv_start (errCb : Bool) : Inv { errCb := errCb } :=
  .inl ⟨rfl, Handles.owns_empty, rfl, .inl rfl⟩

theorem Inv.resources (h : c.Inv) : c.Resources := by
  obtain hgone | ⟨fd, p₀, p₁, tid, pc, hlive⟩ := h
  · have hopened := hgone.owns.opened_nil
    refine ⟨hgone.owns.sound, fun _ => ⟨hopened, hgone.owns.sound.perm_released hopened⟩,
      fun _ _ => ?_⟩
    rw [hgone.bConnect, hopened]
    refine ⟨fun hbad => absurd hbad Bool.false_ne_true, ?_⟩
    rintro ⟨⟨_, hmem, _⟩, _⟩
    exact absurd hmem List.not_mem_nil
  · refine ⟨hlive.owns.sound, fun hclosed => ?_, fun hidle _ => ?_⟩
    · rcases hlive.phase with ⟨hidle, _⟩ | ⟨closing, _, ⟨hstop, _⟩ | ⟨hjoin, _⟩⟩
      · rw [hidle] at hclosed
        cases hclosed
      · rw [hstop] at hclosed
        cases hclosed
      · rw [hjoin] at hclosed
        cases hclosed
    · have hconnect : c.bConnect = true := by
        rcases hlive.phase with ⟨_, hconnect, _⟩ | ⟨closing, _, ⟨hstop, _⟩ | ⟨hjoin, _⟩⟩
        · exact hconnect
        · rw [hstop] at hidle
          cases hidle
        · rw [hjoin] at hidle
          cases hidle
      refine ⟨fun _ => ⟨⟨fd, ?_, hlive.sock⟩, ⟨⟨tid, pc⟩, ?_, hlive.tidReader.symm⟩⟩, fun _ => hconnect⟩
      · exact hlive.owns.mem List.mem_cons_self
      · rw [hlive.readers]
        exact List.mem_singleton.mpr rfl

/-! ## 3. Steps of a client without a connection -/

theorem access_of_mem {n : Nat} (h : n ∈ c.fds.opened) : c.access n = c := by
  unfold access
  rw [if_pos (Int.natCast_nonneg n), Int.toNat_natCast, Handles.access, if_pos h]

/-- The socket and the pipe are closed. -/
theorem owns_closeAll (hsock : c.sock = (fd : Int)) (hpipe : c.pipefd = (p₀, p₁))
    (howns : c.fds.Owns [fd, p₀, p₁]) : ((c.close c.sock).closePipe).fds.Owns [] := by
  have hfds : ((c.close c.sock).closePipe).fds =
      ((c.fds.release fd).release p₀).release p₁ := by
    unfold closePipe close
    rw [hsock, if_pos (Int.natCast_nonneg fd)]
    dsimp only
    rw [hpipe, if_pos (Int.natCast_nonneg p₀), if_pos (Int.natCast_nonneg p₁)]
    rfl
  rw [hfds]
  exact howns.release.release.release

theorem readers_closeAll (c : Connection) : ((c.close c.sock).closePipe).readers = c.readers := by
  unfold closePipe close
  split <;> split <;> split <;> rfl

theorem zeroed_inv (hsock : c.sock = (fd : Int)) (hpipe : c.pipefd = (p₀, p₁))
    (howns : c.fds.Owns [fd, p₀, p₁]) (hnone : c.readers = []) :
    ((c.close c.sock).closePipe).zeroed.Inv :=
  .inl ⟨rfl, owns_closeAll hsock hpipe howns, rfl, .inl ((readers_closeAll c).trans hnone)⟩

theorem Gone.connect (h : c.Gone) (hidle : c.client = .idle) {o : ConnectOutcome}
    (hok : o.socket = none ∨
      o.socket ≠ some 0 ∧ o.fcntlSock = true ∧ o.pipe ≠ none ∧ o.fcntlPipe = true) :
    (c.connect o).Inv := by
  have hnone : c.readers = [] := by
    rcases h.readers with hnone | ⟨_, _, _, _, hstop | hjoin⟩
    · exact hnone
    · rw [hstop] at hidle
      cases hidle
    · rw [hjoin] at hidle
      cases hidle
  unfold Connection.connect
  rcases Option.eq_none_or_eq_some o.socket with hsocket | ⟨fd, hsocket⟩
  · rw [hsocket]
    exact .inl ⟨rfl, h.owns, h.bConnect, .inl hnone⟩
  · rw [hsocket] at hok
    obtain ⟨hne, hfcntl, hpipe, hfcntlPipe⟩ := hok.resolve_left nofun
    have hpos : 0 < fd := Nat.pos_of_ne_zero fun hzero => hne (congrArg some hzero)
    obtain ⟨⟨p₀, p₁⟩, hp⟩ := Option.ne_none_iff_exists'.mp hpipe
    have howns : (((c.fds.gain fd).gain p₀).gain p₁).Owns [fd, p₀, p₁] :=
      (((h.owns.gain fd).gain p₀).gain p₁).perm (List.reverse_perm [fd, p₀, p₁])
    rw [hsocket]
    dsimp only
    rw [access_of_mem List.mem_cons_self, if_pos hfcntl]
    unfold openPipe
    rw [hp]
    dsimp only
    rw [access_of_mem (howns.mem (List.mem_cons_of_mem fd List.mem_cons_self)), if_pos hfcntlPipe]
    unfold startReader
    by_cases hthread : o.thread = true
    · rw [if_pos hthread]
      refine .inr ⟨fd, p₀, p₁, c.nextTid, .testing, rfl, hpos, rfl, howns, rfl, ?_, rfl, .inl rfl,
        .inl ⟨hidle, rfl, rfl, nofun, nofun⟩⟩
      change c.readers ++ [_] = _
      rw [hnone]
      rfl
    · rw [if_neg hthread]
      exact zeroed_inv rfl rfl howns hnone

/-! ## 4. Steps of a reader -/

theorem pcOf_nil (hreaders : c.readers = []) : c.pcOf tid = none := by
  unfold pcOf
  rw [hreaders]
  rfl

theorem pcOf_singleton {t : Nat} {pc' : ReaderPc} (hreaders : c.readers = [⟨t, pc⟩])
    (hpc : c.pcOf tid = some pc') : t = tid ∧ pc = pc' := by
  unfold pcOf at hpc
  rw [hreaders, List.find?_singleton] at hpc
  by_cases ht : t = tid
  · rw [if_pos (decide_eq_true ht)] at hpc
    exact ⟨ht, Option.some.inj hpc⟩
  · rw [if_neg (by simpa using ht)] at hpc
    cases hpc

theorem readers_setPc {pc' : ReaderPc} (hreaders : c.readers = [⟨tid, pc⟩]) :
    (c.setPc tid pc').readers = [⟨tid, pc'⟩] := by
  unfold setPc
  dsimp only
  rw [hreaders, List.map_singleton, if_pos rfl]

theorem touch_eq (h : c.client ≠ .closed) : c.touch = c := if_neg h

theorem Live.client_ne (h : c.Live fd p₀ p₁ tid pc) : c.client ≠ .closed ∧ c.client ≠ .freeing := by
  rcases h.phase with ⟨hidle, _⟩ | ⟨closing, _, ⟨hstop, _⟩ | ⟨hjoin, _⟩⟩
  · rw [hidle]
    exact ⟨nofun, nofun⟩
  · rw [hstop]
    exact ⟨nofun, nofun⟩
  · rw [hjoin]
    exact ⟨nofun, nofun⟩

theorem Live.mem_opened (h : c.Live fd p₀ p₁ tid pc) :
    fd ∈ c.fds.opened ∧ p₀ ∈ c.fds.opened ∧ p₁ ∈ c.fds.opened :=
  ⟨h.owns.mem List.mem_cons_self, h.owns.mem (List.mem_cons_of_mem _ List.mem_cons_self),
    h.owns.mem (List.mem_cons_of_mem _ (List.mem_cons_of_mem _ List.mem_cons_self))⟩

/-- The reader moves on in its loop. -/
theorem Live.setPc (h : c.Live fd p₀ p₁ tid pc) {pc' : ReaderPc}
    (hloop : pc' = .testing ∨ pc' = .selecting ∨ (∃ b, pc' = .reading b) ∨ pc' = .commanded)
    (hidle : c.piped = false → pc' ≠ .reading true ∧ pc' ≠ .commanded) :
    (c.setPc tid pc').Live fd p₀ p₁ tid pc' where
  sock := h.sock
  pos := h.pos
  pipefd := h.pipefd
  owns := h.owns
  recordStream := h.recordStream
  readers := readers_setPc h.readers
  tidReader := h.tidReader
  inLoop := hloop
  phase := by
    rcases h.phase with ⟨hclient, hconnect, hpiped, _⟩ | hleaving
    · exact .inl ⟨hclient, hconnect, hpiped, hidle hpiped⟩
    · exact .inr hleaving

theorem Live.not_piped (h : c.Live fd p₀ p₁ tid pc) (hpc : pc = .reading true ∨ pc = .commanded) :
    c.piped = true := by
  rcases h.phase with ⟨_, _, _, hreading, hcommanded⟩ | ⟨_, hpiped, _⟩
  · rcases hpc with rfl | rfl
    · exact absurd rfl hreading
    · exact absurd rfl hcommanded
  · exact hpiped

theorem Live.inv (h : c.Live fd p₀ p₁ tid pc) : c.Inv := .inr ⟨fd, p₀, p₁, tid, pc, h⟩

/-- The reader takes the command out of the pipe. -/
theorem Live.readerCommand (h : c.Live fd p₀ p₁ tid pc) (hpc : pc = .commanded) :
    (c.readerCommand tid).Inv := by
  have hpiped := h.not_piped (.inr hpc)
  have hp₀ := h.mem_opened.2.1
  unfold Connection.readerCommand
  rw [h.pipefd, access_of_mem hp₀]
  dsimp only
  rw [if_pos hpiped]
  refine .inl ⟨rfl, owns_closeAll h.sock h.pipefd h.owns, rfl, .inr ?_⟩
  have hreaders : ((c.close c.sock).closePipe).readers = [⟨tid, pc⟩] :=
    (readers_closeAll c).trans h.readers
  have hclient : ((c.close c.sock).closePipe).client = c.client := by
    unfold closePipe close
    split <;> split <;> split <;> rfl
  have htid : ((c.close c.sock).closePipe).tidReader = c.tidReader := by
    unfold closePipe close
    split <;> split <;> split <;> rfl
  rcases h.phase with ⟨_, _, hnot, _⟩ | ⟨closing, _, hleaving⟩
  · rw [hpiped] at hnot
    cases hnot
  · refine ⟨tid, closing, readers_setPc hreaders, htid.trans h.tidReader, ?_⟩
    rcases hleaving with ⟨hstop, _⟩ | ⟨hjoin, _⟩
    · exact .inl (hclient.trans hstop)
    · exact .inr (hclient.trans hjoin)

theorem Gone.idle (h : c.Gone) (hclient : ∀ closing, c.client ≠ .stopping closing ∧
    c.client ≠ .joining closing) : c.readers = [] := by
  rcases h.readers with hnone | ⟨_, closing, _, _, hstop | hjoin⟩
  · exact hnone
  · exact absurd hstop (hclient closing).1
  · exact absurd hjoin (hclient closing).2

/-- Without a socket a reader can only leave its loop. -/
theorem Gone.pcOf (h : c.Gone) {pc' : ReaderPc} (hpc : c.pcOf tid = some pc') :
    pc' = .testing ∧ c.readers = [⟨tid, .testing⟩] ∧ c.client ≠ .closed := by
  rcases h.readers with hnone | ⟨t, closing, hreaders, _, hclient⟩
  · rw [pcOf_nil hnone] at hpc
    cases hpc
  · obtain ⟨rfl, rfl⟩ := pcOf_singleton hreaders hpc
    refine ⟨rfl, hreaders, ?_⟩
    rcases hclient with hstop | hjoin
    · rw [hstop]
      nofun
    · rw [hjoin]
      nofun

end

/-! ## 5. Runs -/

variable {c c' : Connection}

theorem Gone.step (h : c.Gone) {op : ConnectionOp} (hop : op.Fine c)
    (hstep : c.step op = some c') : c'.Inv := by
  unfold Connection.step at hstep
  cases op with
  | connect o =>
    dsimp only at hstep
    split at hstep
    · rename_i hok
      obtain rfl := Option.some.inj hstep
      exact h.connect hok.1 hop.2
    · cases hstep
  | send o =>
    dsimp only at hstep
    split at hstep
    · obtain rfl := Option.some.inj hstep
      unfold Connection.send
      rw [h.sock, if_pos (by decide)]
      exact .inl h
    · cases hstep
  | disconnect closing =>
    dsimp only at hstep
    split at hstep
    · rename_i hidle
      obtain rfl := Option.some.inj hstep
      unfold Connection.disconnect
      rw [if_pos h.sock]
      refine .inl ⟨h.sock, h.owns, h.bConnect, .inl (h.idle fun closing => ?_)⟩
      rw [hidle]
      exact ⟨nofun, nofun⟩
    · cases hstep
  | resetConnect =>
    dsimp only at hstep
    split at hstep
    · rename_i closing hclient
      obtain rfl := Option.some.inj hstep
      refine .inl ⟨h.sock, h.owns, rfl, ?_⟩
      rcases h.readers with hnone | ⟨tid, _, hreaders, htid, _⟩
      · exact .inl hnone
      · exact .inr ⟨tid, closing, hreaders, htid, .inr rfl⟩
    · cases hstep
  | join =>
    dsimp only at hstep
    split at hstep
    · rename_i closing hclient
      split at hstep
      · cases hstep
      · rename_i hany
        obtain rfl := Option.some.inj hstep
        refine .inl ⟨h.sock, h.owns, h.bConnect, .inl ?_⟩
        rcases h.readers with hnone | ⟨tid, _, hreaders, htid, _⟩
        · exact hnone
        · refine absurd ?_ hany
          rw [hreaders, htid, List.any_cons, decide_eq_true rfl, Bool.true_or]
    · cases hstep
  | free =>
    dsimp only at hstep
    split at hstep
    · rename_i hfreeing
      obtain rfl := Option.some.inj hstep
      refine .inl ⟨h.sock, h.owns, h.bConnect, .inl (h.idle fun closing => ?_)⟩
      rw [hfreeing]
      exact ⟨nofun, nofun⟩
    · cases hstep
  | readerTest tid =>
    dsimp only at hstep
    split at hstep
    · rename_i hpc
      obtain ⟨_, hreaders, hclient⟩ := h.pcOf hpc
      obtain rfl := Option.some.inj hstep
      rw [touch_eq hclient]
      unfold Connection.readerTest
      rw [h.bConnect, if_neg Bool.false_ne_true]
      refine .inl ⟨h.sock, h.owns, h.bConnect, .inl ?_⟩
      unfold terminate
      dsimp only
      rw [hreaders]
      exact List.filter_cons_of_neg (by simp)
    · cases hstep
  | readerSelect tid outcome =>
    dsimp only at hstep
    split at hstep
    · rename_i hpc
      cases (h.pcOf hpc.1).1
    · cases hstep
  | readerRead tid outcome =>
    dsimp only at hstep
    split at hstep
    · rename_i hpc
      cases (h.pcOf hpc).1
    · cases hstep
  | readerCommand tid =>
    dsimp only at hstep
    split at hstep
    · rename_i hpc
      cases (h.pcOf hpc).1
    · cases hstep
  | readerDrop tid =>
    dsimp only at hstep
    split at hstep
    · rename_i hpc
      cases (h.pcOf hpc).1
    · cases hstep
  | readerFree tid =>
    dsimp only at hstep
    split at hstep
    · rename_i hpc
      cases (h.pcOf hpc).1
    · cases hstep
  | readerReport tid =>
    dsimp only at hstep
    split at hstep
    · rename_i hpc
      cases (h.pcOf hpc).1
    · cases hstep

/-- The pc of the only reader. -/
theorem Live.pcOf {fd p₀ p₁ tid t : Nat} {pc pc' : ReaderPc} (h : c.Live fd p₀ p₁ t pc)
    (hpc : c.pcOf tid = some pc') : t = tid ∧ pc = pc' := pcOf_singleton h.readers hpc

theorem Live.send {fd p₀ p₁ tid : Nat} {pc : ReaderPc}
    (h : c.Live fd p₀ p₁ tid pc) {o : SendOutcome}
    (hok : (ConnectionOp.send o).Fine c) :
    (c.send o).Inv := by
  have hinv := h.inv
  have hsock : ¬c.sock < 0 := by
    rw [h.sock]
    omega
  unfold Connection.send
  rw [if_neg hsock]
  cases o with
  | noToken => exact hinv
  | noRecord =>
    dsimp only
    unfold abortSend
    rw [if_neg (by decide)]
    exact hinv
  | written header body =>
    obtain ⟨hheader, hbody⟩ := hok (Int.not_lt.mp hsock)
    have hwrite : ∀ ret, 0 ≤ ret → c.blockingWrite ret = c := by
      intro ret hret
      unfold blockingWrite
      rw [if_neg (Int.not_lt.mpr hret), h.sock, access_of_mem h.mem_opened.1]
    dsimp only
    rw [if_neg (Int.not_lt.mpr hheader), if_neg (Int.not_lt.mpr hbody), hwrite header hheader,
      hwrite body hbody]
    exact hinv

theorem Live.step {fd p₀ p₁ t : Nat} {pc : ReaderPc}
    (h : c.Live fd p₀ p₁ t pc) {op : ConnectionOp} (hop : op.Fine c)
    (hstep : c.step op = some c') : c'.Inv := by
  have hsockPos : 0 < c.sock := by
    rw [h.sock]
    exact_mod_cast h.pos
  unfold Connection.step at hstep
  cases op with
  | connect o =>
    dsimp only at hstep
    split at hstep
    · rename_i hok
      rcases h.phase with ⟨_, hconnect, _⟩ | ⟨_, _, ⟨hstop, _⟩ | ⟨hjoin, _⟩⟩
      · rw [hop.1] at hconnect
        cases hconnect
      · cases hok.1.symm.trans hstop
      · cases hok.1.symm.trans hjoin
    · cases hstep
  | send o =>
    dsimp only at hstep
    split at hstep
    · obtain rfl := Option.some.inj hstep
      exact h.send hop
    · cases hstep
  | disconnect closing =>
    dsimp only at hstep
    split at hstep
    · rename_i hidle
      obtain rfl := Option.some.inj hstep
      unfold Connection.disconnect
      rw [if_neg (by omega), if_pos hsockPos, h.pipefd, access_of_mem h.mem_opened.2.2]
      rcases h.phase with ⟨_, hconnect, _⟩ | ⟨_, _, ⟨hstop, _⟩ | ⟨hjoin, _⟩⟩
      · exact Live.inv (c := { c with piped := true, client := .stopping closing })
          ⟨h.sock, h.pos, h.pipefd, h.owns, h.recordStream, h.readers, h.tidReader,
            h.inLoop, .inr ⟨closing, rfl, .inl ⟨rfl, hconnect⟩⟩⟩
      · cases hidle.symm.trans hstop
      · cases hidle.symm.trans hjoin
    · cases hstep
  | resetConnect =>
    dsimp only at hstep
    split at hstep
    · rename_i closing hclient
      obtain rfl := Option.some.inj hstep
      rcases h.phase with ⟨hidle, _⟩ | ⟨_, hpiped, _⟩
      · cases hidle.symm.trans hclient
      · exact Live.inv (c := { c with bConnect := false, client := .joining closing })
          ⟨h.sock, h.pos, h.pipefd, h.owns, h.recordStream, h.readers, h.tidReader,
            h.inLoop, .inr ⟨closing, hpiped, .inr ⟨rfl, rfl⟩⟩⟩
    · cases hstep
  | join =>
    dsimp only at hstep
    split at hstep
    · split at hstep
      · cases hstep
      · rename_i hany
        refine absurd ?_ hany
        rw [h.readers, h.tidReader, List.any_cons, decide_eq_true rfl, Bool.true_or]
    · cases hstep
  | free =>
    dsimp only at hstep
    split at hstep
    · rename_i hfreeing
      exact absurd hfreeing h.client_ne.2
    · cases hstep
  | readerTest tid =>
    dsimp only at hstep
    split at hstep
    · rename_i hpc
      obtain ⟨rfl, _⟩ := h.pcOf hpc
      obtain rfl := Option.some.inj hstep
      rw [touch_eq h.client_ne.1]
      unfold Connection.readerTest
      by_cases hconnect : c.bConnect = true
      · rw [if_pos hconnect, h.sock, access_of_mem h.mem_opened.1, h.pipefd,
          access_of_mem h.mem_opened.2.1]
        exact (h.setPc (.inr (.inl rfl)) fun _ => ⟨nofun, nofun⟩).inv
      · have hsock := hop (by simpa using hconnect)
        omega
    · cases hstep
  | readerSelect tid outcome =>
    dsimp only at hstep
    split at hstep
    · rename_i hpc
      obtain ⟨rfl, _⟩ := h.pcOf hpc.1
      obtain rfl := Option.some.inj hstep
      rw [touch_eq h.client_ne.1]
      cases outcome with
      | failed => exact absurd rfl hop
      | ready sock pipe =>
        have hpipe : pipe = c.piped := hpc.2 sock pipe rfl
        unfold Connection.readerSelect
        dsimp only
        split
        · refine (h.setPc (.inr (.inr (.inl ⟨pipe, rfl⟩))) fun hnot => ?_).inv
          rw [hpipe, hnot]
          exact ⟨nofun, nofun⟩
        · split
          · rename_i hready
            refine (h.setPc (.inr (.inr (.inr rfl))) fun hnot => ?_).inv
            rw [hpipe, hnot] at hready
            cases hready
          · exact (h.setPc (.inl rfl) fun _ => ⟨nofun, nofun⟩).inv
    · cases hstep
  | readerRead tid outcome =>
    dsimp only at hstep
    split at hstep
    · rename_i pipeReady hpc
      obtain ⟨rfl, hreading⟩ := h.pcOf hpc
      obtain rfl := Option.some.inj hstep
      rw [touch_eq h.client_ne.1]
      have hread : c.readStream = c := by
        unfold readStream
        rw [h.recordStream]
        exact access_of_mem h.mem_opened.1
      unfold Connection.readerRead
      cases outcome with
      | record =>
        dsimp only
        rw [hread]
        exact h.inv
      | again =>
        dsimp only
        rw [hread]
        cases pipeReady with
        | true =>
          refine (h.setPc (.inr (.inr (.inr rfl))) fun hnot => ?_).inv
          rw [h.not_piped (.inl hreading)] at hnot
          cases hnot
        | false => exact (h.setPc (.inl rfl) fun _ => ⟨nofun, nofun⟩).inv
      | ended => exact absurd rfl hop
    · cases hstep
  | readerCommand tid =>
    dsimp only at hstep
    split at hstep
    · rename_i hpc
      obtain ⟨rfl, hcommanded⟩ := h.pcOf hpc
      obtain rfl := Option.some.inj hstep
      rw [touch_eq h.client_ne.1]
      exact h.readerCommand hcommanded
    · cases hstep
  | readerDrop tid =>
    dsimp only at hstep
    split at hstep
    · rename_i failed hpc
      obtain ⟨_, rfl⟩ := h.pcOf hpc
      exact absurd h.inLoop (by simp)
    · cases hstep
  | readerFree tid =>
    dsimp only at hstep
    split at hstep
    · rename_i failed hpc
      obtain ⟨_, rfl⟩ := h.pcOf hpc
      exact absurd h.inLoop (by simp)
    · cases hstep
  | readerReport tid =>
    dsimp only at hstep
    split at hstep
    · rename_i failed hpc
      obtain ⟨_, rfl⟩ := h.pcOf hpc
      exact absurd h.inLoop (by simp)
    · cases hstep

/-- In a run of fine steps all descriptors are used and closed as they should be. -/
theorem resources_of_fine (errCb : Bool) (ops : List ConnectionOp) (c : Connection)
    (run : ExecWhere ConnectionOp.Fine (guarded step) { errCb := errCb } ops c) : c.Resources := by
  apply Inv.resources
  apply run.invariant (I := Inv)
  · rintro c op c' (hgone | ⟨fd, p₀, p₁, tid, pc, hlive⟩) hop hstep
    · exact hgone.step hop hstep
    · exact hlive.step hop hstep
  · exact inv_start errCb

/-- The calls of `Connect_RILD` all succeed. -/
def connected : ConnectOutcome where
  socket := some 3
  fcntlSock := true
  pipe := some (4, 5)
  fcntlPipe := true
  thread := true

/-- A connection, a request, a record, and the end. -/
def plainOps : List ConnectionOp :=
  [.connect connected, .readerTest 1, .send (.written 0 0), .readerSelect 1 (.ready true false),
    .readerRead 1 .record, .readerRead 1 .again, .readerTest 1, .disconnect true, .resetConnect,
    .readerSelect 1 (.ready false true), .readerCommand 1, .readerTest 1, .join, .free]

theorem resources_of_fine_plainOps :
    ∃ c, plainOps.foldlM step {} = some c ∧ c.client = .closed ∧ c.Resources :=
  ⟨_, rfl, rfl, resources_of_fine false plainOps _ (ExecWhere.of_foldlM (by decide))⟩

/-- A write that fails with `EPIPE`: the socket is closed twice. -/
theorem socket_closed_twice :
    ¬∀ (errCb : Bool) (ops : List ConnectionOp) (c : Connection),
      Exec (guarded step) { errCb := errCb } ops c → c.Resources := by
  intro hall
  have hrun : Exec (guarded step) {} [.connect connected, .send (.written (-32) 0)] _ :=
    Exec.of_foldlM rfl
  exact absurd (hall false _ _ hrun).ledger.fault (by decide)

end Connection

end Universal7870.SecRil
