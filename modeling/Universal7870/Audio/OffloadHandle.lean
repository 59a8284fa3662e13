import Universal7870.Audio.OffloadThread

/-!
# The handle of the offload thread

While the thread is in the driver, `offload_thread_blocked` is set and keeps the handle from being
closed, and `adev->lock` keeps a stream in standby, whose handle is not closed yet, from being
started again.
-/

namespace Universal7870.Audio

open Lib

/-! ## 1. What the actions need -/

/-- The actions of the thread. -/
def StreamAct.isThread : StreamAct → Bool
  | .threadLoop | .drive _ | .clearBlocked | .clearCmdList | .exitThread => true
  | _ => false

/-- After this action the handle is closed, or the stream active. -/
def StreamAct.settles : StreamAct → Bool
  | .setActive _ | .closeCompress | .clearCompr => true
  | _ => false

namespace OffloadStream

/-- The handle is closed, or the stream made active, before `adev->lock` is given back. -/
def Settles : Code → Prop
  | [] => False
  | .act a :: code => a.settles = true ∨ Settles code
  | .acquire _ :: code => Settles code
  | .release m :: code => m ≠ .adevLock ∧ Settles code

/-- The mutexes that a call may leave locked. -/
def left : Set Mutex := {.lockInputs, .outLock}

/-- The mutexes an action is taken with, and what is left to do after it. -/
def pre (a : StreamAct) (H : Set Mutex) (code : Code) : Prop :=
  match a with
  | .testStandby _ | .outWriteOffload _ | .writeCompress _ => .outLock ∈ H ∧ H ⊆ left
  | .retestStandby _ => .lockInputs ∈ H ∧ .outLock ∈ H ∧ H ⊆ left
  | .startOutputStream _ | .setActive _ =>
    .lockInputs ∈ H ∧ .outLock ∈ H ∧ .adevLock ∈ H ∧ H ⊆ insert .adevLock left
  | .enableOutputPath _ => .outLock ∈ H ∧ .adevLock ∈ H ∧ H ⊆ insert .adevLock left
  | .setStandby => .outLock ∈ H ∧ .adevLock ∈ H ∧ Settles code
  | .closeCompress | .clearCompr => .outLock ∈ H ∧ .adevLock ∈ H
  | .outStandby | .stopCompressedOutput | .awaitUnblocked | .outFlush => .outLock ∈ H
  | .outSetRouting _ _ => .outLock ∈ H ∧ .adevLock ∈ H
  | .outPause | .outResume => .adevLock ∉ H
  | .threadLoop => .outLock ∈ H ∧ H ⊆ left
  | .drive _ => .act .clearBlocked ∈ code
  | .clearBlocked => .outLock ∈ H ∧ code = [.act .threadLoop]
  | _ => True

def discipline : Discipline StreamParty Mutex StreamAct where
  pre _ := pre
  last
    | .testStandby _ | .retestStandby _ | .startOutputStream _ | .setActive _ | .outWriteOffload _
    | .enableOutputPath _ | .writeCompress _ | .threadLoop => true
    | _ => false
  left := left

variable {t : StreamParty} {H : Set Mutex} {rest : Code}

theorem obeys_lockOutputStream
    (h : .outLock ∉ H → discipline.Obeys t (insert .outLock H) rest) :
    discipline.Obeys t H (lockOutputStream ++ rest) :=
  Discipline.Obeys.acquire_behind (by decide) h

theorem obeys_underOutput {a : StreamAct} (hlast : discipline.last a = false)
    (hpre : .outLock ∉ H → pre a (insert .outLock H) (.release .outLock :: rest))
    (h : discipline.Obeys t H rest) : discipline.Obeys t H (underOutput a ++ rest) := by
  unfold underOutput
  rw [List.append_assoc]
  apply obeys_lockOutputStream
  intro hm
  exact (Discipline.obeys_act hlast).mpr ⟨hpre hm, h.release_acquired hm⟩

theorem obeys_standbyCode (h : discipline.Obeys t H rest) :
    discipline.Obeys t H (standbyCode ++ rest) := by
  unfold standbyCode
  rw [List.append_assoc]
  apply obeys_lockOutputStream
  intro hm
  exact (Discipline.obeys_act rfl).mpr ⟨Set.mem_insert _ H, h.release_acquired hm⟩

theorem obeys_doOutStandby (hout : .outLock ∈ H) (hadev : .adevLock ∈ H)
    (h : discipline.Obeys t H rest) : discipline.Obeys t H (doOutStandby ++ rest) := by
  have hstop : discipline.Obeys t H (.act .stopOutputStream :: rest) :=
    (Discipline.obeys_act rfl).mpr ⟨trivial, h⟩
  have hclose : discipline.Obeys t H (.act .closeCompress :: .act .stopOutputStream :: rest) :=
    (Discipline.obeys_act rfl).mpr ⟨⟨hout, hadev⟩, hstop⟩
  refine (Discipline.obeys_act rfl).mpr ⟨⟨hout, hadev, .inr (.inl rfl)⟩, ?_⟩
  exact (Discipline.obeys_act rfl).mpr ⟨hout, hclose⟩

theorem obeys_startFails (hinputs : .lockInputs ∈ H) (hout : .outLock ∈ H) (hadev : .adevLock ∈ H)
    (hleft : H ⊆ insert .adevLock left) : discipline.Obeys t H startFails := by
  refine ⟨hadev, ⟨hinputs, by decide⟩, ⟨⟨hout, by decide⟩, by decide⟩, ?_⟩
  have hend : ((H \ {.adevLock}) \ {.lockInputs}) \ {.outLock} ⊆ left :=
    Set.sdiff_subset.trans (Set.sdiff_subset.trans (Set.sdiff_singleton_subset_iff.mpr hleft))
  have hcode : discipline.Obeys t (((H \ {.adevLock}) \ {.lockInputs}) \ {.outLock}) [] := hend
  exact obeys_standbyCode hcode

theorem obeys_code (h : H ⊆ left) (call : Call) : discipline.Obeys t H (code call) := by
  have hnil : discipline.Obeys t H [] := h
  have hout (H : Set Mutex) : Mutex.outLock ∈ insert Mutex.outLock H := Set.mem_insert _ H
  have hadev : Mutex.adevLock ∉ insert Mutex.outLock H := by
    intro hm
    rcases Set.mem_insert_iff.mp hm with heq | hm
    · cases heq
    · rcases h hm with heq | heq <;> cases heq
  cases call with
  | outWrite w =>
    apply obeys_lockOutputStream
    intro _
    refine (Discipline.obeys_last rfl).mpr ⟨⟨hout H, ?_⟩, rfl⟩
    exact Set.insert_subset (.inr rfl) h
  | outPause => exact obeys_underOutput rfl (fun _ => hadev) hnil
  | outResume => exact obeys_underOutput rfl (fun _ => hadev) hnil
  | outDrain earlyNotify => exact obeys_underOutput rfl (fun _ => trivial) hnil
  | outFlush => exact obeys_underOutput rfl (fun _ => hout H) hnil
  | outStandby => exact obeys_standbyCode hnil
  | outSetParameters routing metadata =>
    have hmetadata : discipline.Obeys t H (if metadata then [.act .parseCompressMetadata] else []) := by
      split
      · exact (Discipline.obeys_act rfl).mpr ⟨trivial, hnil⟩
      · exact hnil
    cases routing with
    | none => exact hmetadata
    | some r =>
      intro hinputs
      apply obeys_lockOutputStream
      intro hout' hadev
      have hroute : pre (.outSetRouting r.1 r.2)
          (insert .adevLock (insert .outLock (insert .lockInputs H))) [] :=
        ⟨.inr (hout _), Set.mem_insert _ _⟩
      refine (Discipline.obeys_act rfl).mpr ⟨hroute, ?_⟩
      exact ((hmetadata.release_acquired hinputs).release_acquired hout').release_acquired hadev
  | adevCloseOutputStream =>
    unfold code
    rw [List.append_assoc]
    apply obeys_standbyCode
    refine obeys_underOutput rfl (fun _ => trivial) ?_
    exact (Discipline.obeys_act rfl).mpr ⟨trivial, hnil⟩

/-- What an action puts before the rest of the code obeys where the action did. -/
theorem obeys_more {a : StreamAct} {s s' : OffloadStream} {more : Code}
    (h : discipline.Obeys t H (.act a :: rest)) (hact : act a s = some (s', more)) :
    discipline.Obeys t H (more ++ rest) := by
  have hlast (w : discipline.last a = true) : pre a H rest ∧ rest = [] :=
    (Discipline.obeys_last w).mp h
  have hnext (w : discipline.last a = false) : pre a H rest ∧ discipline.Obeys t H rest :=
    (Discipline.obeys_act w).mp h
  cases a with
  | testStandby w =>
    obtain ⟨⟨hout, hleft⟩, rfl⟩ := hlast rfl
    obtain ⟨_, rfl⟩ := Prod.mk.inj (Option.some.inj hact)
    split
    · refine ⟨hout, fun _ => ?_⟩
      apply obeys_lockOutputStream
      intro _
      refine (Discipline.obeys_last rfl).mpr ⟨⟨.inr (.inl rfl), .inl rfl, ?_⟩, rfl⟩
      refine Set.insert_subset (.inr rfl) (Set.insert_subset (.inl rfl) ?_)
      exact Set.sdiff_subset.trans hleft
    · exact (Discipline.obeys_last rfl).mpr ⟨⟨hout, hleft⟩, rfl⟩
  | retestStandby w =>
    obtain ⟨⟨hinputs, hout, hleft⟩, rfl⟩ := hlast rfl
    obtain ⟨_, rfl⟩ := Prod.mk.inj (Option.some.inj hact)
    split
    · intro _
      refine (Discipline.obeys_last rfl).mpr ⟨⟨.inr hinputs, .inr hout, .inl rfl, ?_⟩, rfl⟩
      exact Set.insert_subset_insert hleft
    · refine ⟨hinputs, (Discipline.obeys_last rfl).mpr ⟨⟨⟨hout, by decide⟩, ?_⟩, rfl⟩⟩
      exact Set.sdiff_subset.trans hleft
  | startOutputStream w =>
    obtain ⟨⟨hinputs, hout, hadev, hleft⟩, rfl⟩ := hlast rfl
    have hfails := obeys_startFails (t := t) hinputs hout hadev hleft
    rw [List.append_nil]
    simp only [act] at hact
    split at hact
    · obtain ⟨_, rfl⟩ := Prod.mk.inj (Option.some.inj hact)
      exact hfails
    split at hact
    · cases hact
    obtain ⟨_, rfl⟩ := Prod.mk.inj (Option.some.inj hact)
    split
    · exact (Discipline.obeys_last rfl).mpr ⟨⟨hinputs, hout, hadev, hleft⟩, rfl⟩
    · refine (Discipline.obeys_act rfl).mpr ⟨⟨hout, hadev⟩, ?_⟩
      exact (Discipline.obeys_act rfl).mpr ⟨trivial, hfails⟩
  | setActive w =>
    obtain ⟨⟨hinputs, hout, hadev, hleft⟩, rfl⟩ := hlast rfl
    obtain ⟨_, rfl⟩ := Prod.mk.inj (Option.some.inj hact)
    have hrest : H \ {.adevLock} ⊆ left := Set.sdiff_singleton_subset_iff.mpr hleft
    rw [List.append_nil]
    refine ⟨hadev, ?_⟩
    show discipline.Obeys t (H \ {.adevLock})
      ((if w.forcesInput then [] else [.release .lockInputs]) ++ [.act (.outWriteOffload w)])
    split
    · exact (Discipline.obeys_last rfl).mpr ⟨⟨⟨hout, by decide⟩, hrest⟩, rfl⟩
    · refine ⟨⟨hinputs, by decide⟩, (Discipline.obeys_last rfl).mpr ⟨⟨?_, ?_⟩, rfl⟩⟩
      · exact ⟨⟨hout, by decide⟩, by decide⟩
      · exact Set.sdiff_subset.trans hrest
  | outWriteOffload w =>
    obtain ⟨⟨hout, hleft⟩, rfl⟩ := hlast rfl
    obtain ⟨_, rfl⟩ := Prod.mk.inj (Option.some.inj hact)
    split
    · intro _
      refine (Discipline.obeys_last rfl).mpr ⟨⟨.inr hout, .inl rfl, ?_⟩, rfl⟩
      exact Set.insert_subset_insert hleft
    · exact (Discipline.obeys_last rfl).mpr ⟨⟨hout, hleft⟩, rfl⟩
  | enableOutputPath w =>
    obtain ⟨⟨hout, hadev, hleft⟩, rfl⟩ := hlast rfl
    obtain ⟨_, rfl⟩ := Prod.mk.inj (Option.some.inj hact)
    have hrest : H \ {.adevLock} ⊆ left := Set.sdiff_singleton_subset_iff.mpr hleft
    rw [List.append_nil]
    refine ⟨hadev, ?_⟩
    show discipline.Obeys t (H \ {.adevLock})
      (if w.pathEnabled then [.act (.writeCompress w)] else [])
    split
    · exact (Discipline.obeys_last rfl).mpr ⟨⟨⟨hout, by decide⟩, hrest⟩, rfl⟩
    · exact hrest
  | writeCompress w =>
    obtain ⟨⟨hout, hleft⟩, rfl⟩ := hlast rfl
    obtain ⟨_, rfl⟩ := Prod.mk.inj (Option.some.inj hact)
    exact ⟨hout, Set.sdiff_subset.trans hleft⟩
  | outStandby =>
    obtain ⟨hout, hrest⟩ := hnext rfl
    obtain ⟨_, rfl⟩ := Prod.mk.inj (Option.some.inj hact)
    split
    · exact hrest
    · intro hadev
      exact obeys_doOutStandby (.inr hout) (.inl rfl) (hrest.release_acquired hadev)
  | stopCompressedOutput =>
    obtain ⟨hout, hrest⟩ := hnext rfl
    obtain ⟨_, rfl⟩ := Prod.mk.inj (Option.some.inj hact)
    split
    · exact hrest
    · exact (Discipline.obeys_act rfl).mpr ⟨hout, hrest⟩
  | awaitUnblocked =>
    obtain ⟨hout, hrest⟩ := hnext rfl
    obtain ⟨_, rfl⟩ := Prod.mk.inj (Option.some.inj hact)
    split
    · exact Discipline.Obeys.reacquire hout ((Discipline.obeys_act rfl).mpr ⟨hout, hrest⟩)
    · exact hrest
  | closeCompress =>
    obtain ⟨hpre, hrest⟩ := hnext rfl
    simp only [act] at hact
    split at hact
    · obtain ⟨_, rfl⟩ := Prod.mk.inj (Option.some.inj hact)
      exact hrest
    · obtain ⟨_, rfl⟩ := Prod.mk.inj (Option.some.inj hact)
      exact (Discipline.obeys_act rfl).mpr ⟨hpre, hrest⟩
  | outPause =>
    obtain ⟨_, hrest⟩ := hnext rfl
    simp only [act] at hact
    split at hact
    · obtain ⟨_, rfl⟩ := Prod.mk.inj (Option.some.inj hact)
      exact fun hadev => hrest.release_acquired hadev
    · obtain ⟨_, rfl⟩ := Prod.mk.inj (Option.some.inj hact)
      exact hrest
  | outResume =>
    obtain ⟨_, hrest⟩ := hnext rfl
    obtain ⟨_, rfl⟩ := Prod.mk.inj (Option.some.inj hact)
    split
    · intro hadev
      exact Discipline.Obeys.release_acquired hadev ((Discipline.obeys_act rfl).mpr ⟨trivial, hrest⟩)
    · exact hrest
  | outFlush =>
    obtain ⟨hout, hrest⟩ := hnext rfl
    obtain ⟨_, rfl⟩ := Prod.mk.inj (Option.some.inj hact)
    split
    · refine (Discipline.obeys_act rfl).mpr ⟨hout, ?_⟩
      exact (Discipline.obeys_act rfl).mpr ⟨trivial, hrest⟩
    · exact hrest
  | outSetRouting named doStandby =>
    obtain ⟨⟨hout, hadev⟩, hrest⟩ := hnext rfl
    obtain ⟨_, rfl⟩ := Prod.mk.inj (Option.some.inj hact)
    split
    · exact obeys_doOutStandby hout hadev hrest
    · exact hrest
  | joinThread =>
    obtain ⟨_, hrest⟩ := hnext rfl
    simp only [act] at hact
    split at hact
    · obtain ⟨_, rfl⟩ := Prod.mk.inj (Option.some.inj hact)
      exact hrest
    · cases hact
  | threadLoop =>
    obtain ⟨⟨hout, hleft⟩, rfl⟩ := hlast rfl
    have hagain : discipline.Obeys t H [.act .threadLoop] :=
      (Discipline.obeys_last rfl).mpr ⟨⟨hout, hleft⟩, rfl⟩
    rw [List.append_nil]
    simp only [act] at hact
    split at hact
    · obtain ⟨_, rfl⟩ := Prod.mk.inj (Option.some.inj hact)
      exact Discipline.Obeys.reacquire hout hagain
    · obtain ⟨_, rfl⟩ := Prod.mk.inj (Option.some.inj hact)
      refine (Discipline.obeys_act rfl).mpr ⟨trivial, hout, ?_⟩
      exact (Discipline.obeys_act rfl).mpr ⟨trivial, Set.sdiff_subset.trans hleft⟩
    rename_i cmd _ _
    split at hact
    · obtain ⟨_, rfl⟩ := Prod.mk.inj (Option.some.inj hact)
      exact hagain
    obtain ⟨_, rfl⟩ := Prod.mk.inj (Option.some.inj hact)
    have hclear : discipline.Obeys t (H \ {.outLock})
        (lockOutputStream ++ [.act .clearBlocked, .act .threadLoop]) := by
      apply obeys_lockOutputStream
      intro _
      refine (Discipline.obeys_act rfl).mpr ⟨⟨.inl rfl, rfl⟩, (Discipline.obeys_last rfl).mpr ?_⟩
      refine ⟨⟨.inl rfl, ?_⟩, rfl⟩
      exact Set.insert_subset (.inr rfl) (Set.sdiff_subset.trans hleft)
    refine ⟨hout, ?_⟩
    show discipline.Obeys t (H \ {.outLock})
      (cmd.driverCalls.map (Instr.act <| .drive ·) ++ lockOutputStream ++
        [.act .clearBlocked, .act .threadLoop])
    rw [List.append_assoc]
    generalize cmd.driverCalls = calls
    induction calls with
    | nil => exact hclear
    | cons call calls ih =>
      refine (Discipline.obeys_act rfl).mpr ⟨?_, ih⟩
      exact List.mem_append_right _ (List.mem_append_right _ List.mem_cons_self)
  | setStandby | clearCompr | stopOutputStream | resumeCompress | sendOffloadCmd _ | setFlushed
  | parseCompressMetadata | drive _ | clearBlocked | clearCmdList | exitThread =>
    obtain ⟨_, hrest⟩ := hnext rfl
    obtain ⟨_, rfl⟩ := Prod.mk.inj (Option.some.inj hact)
    exact hrest

theorem obeys_lawful : program.Lawful discipline.Obeys := by
  refine discipline.lawful ?_ ?_
  · intro t H call s s' code hleft henter
    cases t with
    | offloadThread => cases henter
    | client n =>
      simp only [program, enter] at henter
      split at henter
      · cases henter
      · obtain ⟨_, rfl⟩ := Prod.mk.inj (Option.some.inj henter)
        exact obeys_code hleft call
  · exact fun h hact => obeys_more h hact

/-! ## 2. What code looks like -/

def closes : Instr Mutex StreamAct → Bool
  | .act .closeCompress | .act .clearCompr => true
  | _ => false

/-- A handle is about to be closed. -/
def closeAhead : Code → Bool
  | [] => false
  | i :: _ => closes i

/-- An action of the thread, or one of the others, that does not start the stream. -/
def kindFits (thread : Bool) : Instr Mutex StreamAct → Bool
  | .act (.startOutputStream _) => false
  | .act a => a.isThread == thread
  | _ => true

/-- After this instruction `offload_thread_blocked` is known not to be set. -/
def looks : Instr Mutex StreamAct → Bool
  | .act .stopCompressedOutput | .act .awaitUnblocked => true
  | _ => false

/-- The actions are those of the thread, or of the others, and a handle is closed only after a look
at `offload_thread_blocked`. -/
def plain (thread : Bool) : Code → Bool
  | [] => true
  | i :: code => kindFits thread i && (looks i || !closeAhead code) && plain thread code

def StartsNext (code : Code) : Prop :=
  ∃ w, code = [.acquire .adevLock, .act (.startOutputStream w)] ∨ code = [.act (.startOutputStream w)]

/-- The code of a thread; the start of the stream stands alone. -/
def Shape (t : StreamParty) (code : Code) : Prop :=
  plain (t = .offloadThread) code = true ∨ t ≠ .offloadThread ∧ StartsNext code

variable {k : Bool} {i : Instr Mutex StreamAct} {a : StreamAct} {s s' : OffloadStream} {more : Code}

theorem plain_cons : plain k (i :: rest) = true ↔
    kindFits k i = true ∧ (looks i = true ∨ closeAhead rest = false) ∧ plain k rest = true := by
  show (kindFits k i && (looks i || !closeAhead rest) && plain k rest) = true ↔ _
  rw [Bool.and_eq_true, Bool.and_eq_true, Bool.or_eq_true, Bool.not_eq_true', and_assoc]

theorem closeAhead_append (hahead : closeAhead rest = false) (hmore : closeAhead more = false) :
    closeAhead (more ++ rest) = false := by
  cases more with
  | nil => exact hahead
  | cons i more => exact hmore

theorem plain_append (hmore : plain k more = true) (hrest : plain k rest = true)
    (hahead : closeAhead rest = false) : plain k (more ++ rest) = true := by
  induction more with
  | nil => exact hrest
  | cons i more ih =>
    obtain ⟨hkind, hlooks, hmore⟩ := plain_cons.mp hmore
    refine plain_cons.mpr ⟨hkind, ?_, ih hmore⟩
    exact hlooks.imp_right (closeAhead_append hahead)

/-- What an action puts before the rest of the code fits the action's thread. -/
theorem plain_more (hact : act a s = some (s', more)) :
    plain a.isThread more = true ∨ ∃ w, a = .retestStandby w ∧ StartsNext more := by
  cases a with
  | retestStandby w =>
    obtain ⟨_, rfl⟩ := Prod.mk.inj (Option.some.inj hact)
    split
    · exact .inr ⟨w, rfl, w, .inl rfl⟩
    · exact .inl rfl
  | startOutputStream w =>
    left
    simp only [act] at hact
    split at hact
    · obtain ⟨_, rfl⟩ := Prod.mk.inj (Option.some.inj hact)
      rfl
    split at hact
    · cases hact
    · obtain ⟨_, rfl⟩ := Prod.mk.inj (Option.some.inj hact)
      split <;> rfl
  | closeCompress | outPause | joinThread =>
    left
    simp only [act] at hact
    split at hact <;> cases hact <;> rfl
  | threadLoop =>
    left
    simp only [act] at hact
    split at hact
    · cases hact
      rfl
    · cases hact
      rfl
    · rename_i cmd _ _
      split at hact
      · cases hact
        rfl
      · cases hact
        cases cmd <;> rfl
  | testStandby _ | setActive _ | outWriteOffload _ | enableOutputPath _ | outStandby
  | stopCompressedOutput | awaitUnblocked | outResume | outFlush | outSetRouting _ _ =>
    left
    obtain ⟨_, rfl⟩ := Prod.mk.inj (Option.some.inj hact)
    split <;> rfl
  | writeCompress _ | setStandby | clearCompr | stopOutputStream | resumeCompress | sendOffloadCmd _
  | setFlushed | parseCompressMetadata | drive _ | clearBlocked | clearCmdList | exitThread =>
    left
    obtain ⟨_, rfl⟩ := Prod.mk.inj (Option.some.inj hact)
    rfl

/-- What a look at `offload_thread_blocked` puts before the rest. -/
theorem plain_looks (hlooks : looks (.act a) = true) (hact : act a s = some (s', more))
    (hrest : plain false rest = true) : plain false (more ++ rest) = true := by
  cases a with
  | stopCompressedOutput =>
    obtain ⟨_, rfl⟩ := Prod.mk.inj (Option.some.inj hact)
    split
    · exact hrest
    · exact plain_cons.mpr ⟨rfl, .inl rfl, hrest⟩
  | awaitUnblocked =>
    obtain ⟨_, rfl⟩ := Prod.mk.inj (Option.some.inj hact)
    split
    · refine plain_cons.mpr ⟨rfl, .inr rfl, plain_cons.mpr ⟨rfl, .inr rfl, ?_⟩⟩
      exact plain_cons.mpr ⟨rfl, .inl rfl, hrest⟩
    · exact hrest
  | _ => cases hlooks

theorem shape_code (n : Nat) (call : Call) : Shape (.client n) (code call) := by
  left
  cases call with
  | outSetParameters routing metadata => cases routing <;> cases metadata <;> rfl
  | _ => rfl

theorem shape_tail (hi : ∀ a, i ≠ .act a) (h : Shape t (i :: rest)) : Shape t rest := by
  rcases h with hplain | ⟨ht, w, hw | hw⟩
  · exact .inl (plain_cons.mp hplain).2.2
  · obtain ⟨_, rfl⟩ := List.cons.inj hw
    exact .inr ⟨ht, w, .inr rfl⟩
  · exact absurd (List.cons.inj hw).1 (hi _)

/-- An action whose code has the shape is one of its thread. -/
theorem isThread_of_shape (h : Shape t (.act a :: rest)) :
    a.isThread = decide (t = .offloadThread) := by
  rcases h with hplain | ⟨ht, w, hw | hw⟩
  · have hkind := (plain_cons.mp hplain).1
    cases a <;> first | exact eq_of_beq hkind | cases hkind
  · cases hw
  · cases hw
    exact (decide_eq_false ht).symm

theorem shape_more (hobeys : discipline.Obeys t H (.act a :: rest)) (h : Shape t (.act a :: rest))
    (hact : act a s = some (s', more)) : Shape t (more ++ rest) := by
  have hkind := isThread_of_shape h
  rcases h with hplain | ⟨ht, w, hw | hw⟩
  · obtain ⟨_, hlooks, hrest⟩ := plain_cons.mp hplain
    rcases plain_more hact with hmore | ⟨w, rfl, hstarts⟩
    · by_cases hlook : looks (.act a) = true
      · have hfalse : a.isThread = false := by cases a <;> first | rfl | cases hlook
        rw [hfalse] at hkind
        rw [← hkind] at hrest
        left
        rw [← hkind]
        exact plain_looks hlook hact hrest
      · rw [hkind] at hmore
        exact .inl (plain_append hmore hrest (hlooks.resolve_left hlook))
    · obtain ⟨_, rfl⟩ := (Discipline.obeys_last rfl).mp hobeys
      rw [List.append_nil]
      exact .inr ⟨of_decide_eq_false hkind.symm, hstarts⟩
  · cases hw
  · cases hw
    rcases plain_more hact with hmore | ⟨w', hw', _⟩
    · rw [hkind] at hmore
      rw [List.append_nil]
      exact .inl hmore
    · cases hw'

/-- The code of a thread finds what it needs, and has the shape. -/
structure Lawful (t : StreamParty) (H : Set Mutex) (code : Code) : Prop where
  obeys : discipline.Obeys t H code
  shape : Shape t code

theorem lawful : program.Lawful Lawful where
  enter h henter := by
    refine ⟨obeys_lawful.enter h.obeys henter, ?_⟩
    rename_i t H call s s' code
    cases t with
    | offloadThread => cases henter
    | client n =>
      simp only [program, enter] at henter
      split at henter
      · cases henter
      · obtain ⟨_, rfl⟩ := Prod.mk.inj (Option.some.inj henter)
        exact shape_code n call
  acquire h hm := ⟨obeys_lawful.acquire h.obeys hm, shape_tail (fun _ hi => by cases hi) h.shape⟩
  release h :=
    have hrelease := obeys_lawful.release h.obeys
    ⟨hrelease.1, hrelease.2, shape_tail (fun _ hi => by cases hi) h.shape⟩
  act h hact := ⟨obeys_lawful.act h.obeys hact, shape_more h.obeys h.shape hact⟩

/-! ## 3. The invariant -/

/-- A driver call on the handle the thread had when it released the lock, which is open. -/
def callSound (call : ThreadCall) : Prop :=
  ∃ h, call.handle = some h ∧ call.entered = some h ∧ call.isOpen = true

abbrev State := Processes StreamParty Mutex StreamAct OffloadStream

variable {c c' : State}

/-- While the thread is in the driver the handle is the one it entered with, and open.  A stream in
standby has a handle only while the holder of `adev->lock` is about to close it, or to make the
stream active. -/
structure Kept (c : State) : Prop where
  lawful : ∀ t, Lawful t (c.held t) (c.code t)
  blocked : c.shared.blocked = true ↔ .act .clearBlocked ∈ c.code .offloadThread
  handle : c.shared.blocked = true →
    ∃ h, c.shared.compr = some h ∧ c.shared.entered = some h ∧ h ∈ c.shared.driver.opened
  settled : c.shared.standby = true →
    c.shared.compr = none ∨ ∃ t, .adevLock ∈ c.held t ∧ Settles (c.code t)
  opened : ∀ h, c.shared.compr = some h →
    h ∈ c.shared.driver.opened ∨ ∃ t rest, c.code t = .act .clearCompr :: rest
  starting : ∀ t, StartsNext (c.code t) → c.shared.standby = true
  closing : ∀ t, closeAhead (c.code t) = true → c.shared.blocked = false
  calls : ∀ call ∈ c.shared.calls, callSound call

theorem not_mem_of_plain (h : plain k rest = true) (w : StreamWrite) :
    .act (.startOutputStream w) ∉ rest := by
  induction rest with
  | nil => exact List.not_mem_nil
  | cons i rest ih =>
    obtain ⟨hkind, _, hrest⟩ := plain_cons.mp h
    rw [List.mem_cons, not_or]
    refine ⟨?_, ih hrest⟩
    rintro rfl
    cases hkind

theorem isThread_of_mem (h : plain k rest = true) {b : StreamAct} (hb : .act b ∈ rest) :
    b.isThread = k := by
  induction rest with
  | nil => cases hb
  | cons i rest ih =>
    obtain ⟨hkind, _, hrest⟩ := plain_cons.mp h
    rcases List.mem_cons.mp hb with rfl | hb
    · cases b <;> first | exact eq_of_beq hkind | cases hkind
    · exact ih hrest hb

theorem StartsNext.mem (h : StartsNext rest) : ∃ w, .act (.startOutputStream w) ∈ rest := by
  obtain ⟨w, rfl | rfl⟩ := h
  · exact ⟨w, List.mem_cons_of_mem _ List.mem_cons_self⟩
  · exact ⟨w, List.mem_cons_self⟩

theorem not_startsNext_of_plain (h : plain k rest = true) : ¬StartsNext rest := by
  intro hstarts
  obtain ⟨w, hw⟩ := hstarts.mem
  exact not_mem_of_plain h w hw

/-- Where the start of the stream is next, it was before. -/
theorem startsNext_of_tail (h : Shape t (i :: rest)) (hstarts : StartsNext rest) :
    t ≠ .offloadThread ∧ StartsNext (i :: rest) := by
  rcases h with hplain | hstarts'
  · exact absurd hstarts (not_startsNext_of_plain (plain_cons.mp hplain).2.2)
  · exact hstarts'

theorem closeAhead_tail (h : Shape t (i :: rest)) (hahead : closeAhead rest = true) :
    looks i = true := by
  rcases h with hplain | ⟨_, w, hw | hw⟩
  · refine (plain_cons.mp hplain).2.1.resolve_right fun hfalse => ?_
    rw [hahead] at hfalse
    cases hfalse
  · obtain ⟨_, rfl⟩ := List.cons.inj hw
    cases hahead
  · obtain ⟨_, rfl⟩ := List.cons.inj hw
    cases hahead

/-- The start of the stream comes only from a look at `out->standby`. -/
theorem startsNext_more (hobeys : discipline.Obeys t H (.act a :: rest))
    (h : Shape t (.act a :: rest)) (hact : act a s = some (s', more))
    (hstarts : StartsNext (more ++ rest)) : ∃ w, a = .retestStandby w ∧ s.standby = true := by
  have hrest : ∃ k, plain k rest = true := by
    rcases h with hplain | ⟨_, w, hw | hw⟩
    · exact ⟨_, (plain_cons.mp hplain).2.2⟩
    · cases hw
    · cases hw
      exact ⟨true, rfl⟩
  rcases plain_more hact with hmore | ⟨w, rfl, _⟩
  · obtain ⟨w, hw⟩ := hstarts.mem
    obtain ⟨k, hrest⟩ := hrest
    rcases List.mem_append.mp hw with hw | hw
    · exact absurd hw (not_mem_of_plain hmore w)
    · exact absurd hw (not_mem_of_plain hrest w)
  · refine ⟨w, rfl, ?_⟩
    obtain ⟨_, rfl⟩ := (Discipline.obeys_last rfl).mp hobeys
    obtain ⟨rfl, rfl⟩ := Prod.mk.inj (Option.some.inj hact)
    rw [List.append_nil] at hstarts
    split at hstarts
    · assumption
    · obtain ⟨w', hw | hw⟩ := hstarts <;> cases hw

/-- A thread that starts the stream next holds `out->lock`. -/
theorem StartsNext.holds (hobeys : discipline.Obeys t H rest) (h : StartsNext rest)
    (hadev : rest.head? = some (.acquire .adevLock) → .adevLock ∉ H) : .outLock ∈ H := by
  obtain ⟨w, rfl | rfl⟩ := h
  · have hpre := ((Discipline.obeys_last rfl).mp (hobeys (hadev rfl))).1
    exact hpre.2.1.resolve_left nofun
  · exact ((Discipline.obeys_last rfl).mp hobeys).1.2.1

/-- A thread that is about to close the handle holds `out->lock`. -/
theorem closeAhead_holds (hobeys : discipline.Obeys t H rest) (h : closeAhead rest = true) :
    .outLock ∈ H := by
  cases rest with
  | nil => cases h
  | cons i rest =>
    cases i with
    | act a =>
      cases a with
      | closeCompress => exact ((Discipline.obeys_act rfl).mp hobeys).1.1
      | clearCompr => exact ((Discipline.obeys_act rfl).mp hobeys).1.1
      | _ => cases h
    | acquire m => cases h
    | release m => cases h

/-- The state of a step that leaves the handle alone. -/
theorem Kept.of_same {t : StreamParty} (hk : Kept c)
    (hlawful : ∀ t, Lawful t (c'.held t) (c'.code t))
    (hsame : c'.shared.toOffloadHandle = c.shared.toOffloadHandle)
    (hcalls : ∀ call ∈ c'.shared.calls, callSound call)
    (hheld : ∀ t', t' ≠ t → c'.held t' = c.held t') (hcode : ∀ t', t' ≠ t → c'.code t' = c.code t')
    (hclear : t = .offloadThread →
      (.act .clearBlocked ∈ c'.code t ↔ .act .clearBlocked ∈ c.code t))
    (hsettles : .adevLock ∈ c.held t → Settles (c.code t) →
      .adevLock ∈ c'.held t ∧ Settles (c'.code t))
    (hstale : ∀ rest, c.code t ≠ .act .clearCompr :: rest)
    (hstarts : StartsNext (c'.code t) → c.shared.standby = true)
    (hcloses : closeAhead (c'.code t) = true → c.shared.blocked = false) : Kept c' := by
  have hstandby : c'.shared.standby = c.shared.standby := congrArg OffloadHandle.standby hsame
  have hcompr : c'.shared.compr = c.shared.compr := congrArg OffloadHandle.compr hsame
  have hblocked : c'.shared.blocked = c.shared.blocked := congrArg OffloadHandle.blocked hsame
  have hentered : c'.shared.entered = c.shared.entered := congrArg OffloadHandle.entered hsame
  have hdriver : c'.shared.driver = c.shared.driver := congrArg OffloadHandle.driver hsame
  refine ⟨hlawful, ?_, ?_, ?_, ?_, ?_, ?_, hcalls⟩
  · rw [hblocked, hk.blocked]
    by_cases ht : .offloadThread = t
    · rw [ht]
      exact (hclear ht.symm).symm
    · rw [hcode _ ht]
  · rw [hblocked, hcompr, hentered, hdriver]
    exact hk.handle
  · rw [hstandby, hcompr]
    intro hs
    refine (hk.settled hs).imp_right ?_
    rintro ⟨t', hadev, hsettle⟩
    by_cases ht : t' = t
    · subst ht
      exact ⟨t', hsettles hadev hsettle⟩
    · refine ⟨t', ?_, ?_⟩
      · rw [hheld t' ht]
        exact hadev
      · rw [hcode t' ht]
        exact hsettle
  · rw [hcompr, hdriver]
    intro h hh
    refine (hk.opened h hh).imp_right ?_
    rintro ⟨t', rest, hrest⟩
    refine ⟨t', rest, ?_⟩
    rw [hcode t' fun ht => hstale rest (ht ▸ hrest)]
    exact hrest
  · intro t' hstarts'
    rw [hstandby]
    by_cases ht : t' = t
    · subst ht
      exact hstarts hstarts'
    · rw [hcode t' ht] at hstarts'
      exact hk.starting t' hstarts'
  · intro t' hahead
    rw [hblocked]
    by_cases ht : t' = t
    · subst ht
      exact hcloses hahead
    · rw [hcode t' ht] at hahead
      exact hk.closing t' hahead

/-! ## 4. Calls and mutexes -/

variable {t : StreamParty} {m : Mutex} {call : Call}

theorem closeAhead_code (call : Call) : closeAhead (code call) = false := by
  cases call with
  | outSetParameters routing metadata => cases routing <;> cases metadata <;> rfl
  | _ => rfl

theorem kept_enter (hk : Kept c) (hidle : c.code t = [])
    (henter : enter t call c.shared = some (s, more))
    (hlawful : ∀ t', Lawful t' ((c.put t s more).held t') ((c.put t s more).code t')) :
    Kept (c.put t s more) := by
  cases t with
  | offloadThread => cases henter
  | client n =>
    simp only [enter] at henter
    split at henter
    · cases henter
    obtain ⟨rfl, rfl⟩ := Prod.mk.inj (Option.some.inj henter)
    refine hk.of_same (t := .client n) hlawful rfl hk.calls (fun _ _ => rfl)
      (fun t' ht => Processes.code_put_of_ne ht) nofun ?_ ?_ ?_ ?_
    · intro _ hsettles
      rw [hidle] at hsettles
      exact hsettles.elim
    · intro rest hrest
      rw [hidle] at hrest
      cases hrest
    · intro hstarts
      rw [Processes.code_put_self] at hstarts
      rcases shape_code n call with hplain | ⟨_, w, hw | hw⟩
      · exact absurd hstarts (not_startsNext_of_plain hplain)
      · cases call with
        | outSetParameters routing metadata =>
          cases routing <;> cases metadata <;> cases hw
        | _ => cases hw
      · cases call with
        | outSetParameters routing metadata =>
          cases routing <;> cases metadata <;> cases hw
        | _ => cases hw
    · intro hahead
      rw [Processes.code_put_self, closeAhead_code] at hahead
      cases hahead

theorem kept_acquire (hk : Kept c) (hcode : c.code t = .acquire m :: rest)
    (hfree : c.owner m = none)
    (hlawful : ∀ t', Lawful t' (((c.give m (some t)).put t c.shared rest).held t')
      (((c.give m (some t)).put t c.shared rest).code t')) :
    Kept ((c.give m (some t)).put t c.shared rest) := by
  have hshape : Shape t (.acquire m :: rest) := hcode ▸ (hk.lawful t).shape
  refine hk.of_same (t := t) hlawful rfl hk.calls ?_ ?_ ?_ ?_ ?_ ?_ ?_
  · exact fun t' ht => Processes.held_give_of_ne ht (Processes.not_held_of_free hfree)
  · exact fun t' ht => Processes.code_put_of_ne ht
  · intro _
    rw [Processes.code_put_self, hcode, List.mem_cons, or_iff_right nofun]
  · intro hadev hsettles
    rw [Processes.held_put, Processes.held_give_self, Processes.code_put_self]
    rw [hcode] at hsettles
    exact ⟨Set.mem_insert_of_mem m hadev, hsettles⟩
  · intro rest' hrest
    rw [hcode] at hrest
    cases hrest
  · rw [Processes.code_put_self]
    intro hstarts
    exact hk.starting t (hcode ▸ (startsNext_of_tail hshape hstarts).2)
  · rw [Processes.code_put_self]
    intro hahead
    cases closeAhead_tail hshape hahead

theorem kept_release (hk : Kept c) (hcode : c.code t = .release m :: rest)
    (hlawful : ∀ t', Lawful t' (((c.give m none).put t c.shared rest).held t')
      (((c.give m none).put t c.shared rest).code t')) :
    Kept ((c.give m none).put t c.shared rest) := by
  have hown : Lawful t (c.held t) (.release m :: rest) := hcode ▸ hk.lawful t
  refine hk.of_same (t := t) hlawful rfl hk.calls ?_ ?_ ?_ ?_ ?_ ?_ ?_
  · intro t' ht
    refine Processes.held_give_none_of_notMem fun hm => ht ?_
    exact Processes.held_unique hm (lawful.release hown).1
  · exact fun t' ht => Processes.code_put_of_ne ht
  · intro _
    rw [Processes.code_put_self, hcode, List.mem_cons, or_iff_right nofun]
  · intro hadev hsettles
    rw [Processes.held_put, Processes.held_give_none, Processes.code_put_self]
    rw [hcode] at hsettles
    exact ⟨⟨hadev, fun hsame => hsettles.1 hsame.symm⟩, hsettles.2⟩
  · intro rest' hrest
    rw [hcode] at hrest
    cases hrest
  · rw [Processes.code_put_self]
    intro hstarts
    obtain ⟨w, hw | hw⟩ := (startsNext_of_tail hown.shape hstarts).2 <;> cases hw
  · rw [Processes.code_put_self]
    intro hahead
    cases closeAhead_tail hown.shape hahead

/-! ## 5. Actions that leave the handle alone -/

/-- The actions that decide on the handle. -/
def decides : StreamAct → Bool
  | .startOutputStream _ | .setActive _ | .setStandby | .closeCompress | .clearCompr | .threadLoop
  | .clearBlocked => true
  | _ => false

theorem handle_of_act (ha : decides a = false) (hact : act a s = some (s', more)) :
    s'.toOffloadHandle = s.toOffloadHandle := by
  cases a with
  | startOutputStream w => cases ha
  | setActive w => cases ha
  | setStandby => cases ha
  | closeCompress => cases ha
  | clearCompr => cases ha
  | threadLoop => cases ha
  | clearBlocked => cases ha
  | outPause =>
    simp only [act] at hact
    split at hact <;> cases hact <;> rfl
  | joinThread =>
    simp only [act] at hact
    split at hact <;> cases hact
    rfl
  | _ =>
    obtain ⟨rfl, _⟩ := Prod.mk.inj (Option.some.inj hact)
    rfl

theorem settles_more (ha : decides a = false) (hobeys : discipline.Obeys t H (.act a :: rest))
    (hact : act a s = some (s', more)) (hadev : .adevLock ∈ H) (h : Settles (.act a :: rest)) :
    Settles (more ++ rest) := by
  have hrest : Settles rest := by
    refine h.resolve_left fun hsettles => ?_
    cases a <;> first | cases ha; done | cases hsettles
  have hlast (hlast : discipline.last a = true) : False := by
    obtain ⟨_, rfl⟩ := (Discipline.obeys_last hlast).mp hobeys
    exact hrest
  cases a with
  | testStandby w => exact (hlast rfl).elim
  | retestStandby w => exact (hlast rfl).elim
  | outWriteOffload w => exact (hlast rfl).elim
  | enableOutputPath w => exact (hlast rfl).elim
  | writeCompress w => exact (hlast rfl).elim
  | startOutputStream w => cases ha
  | setActive w => cases ha
  | setStandby => cases ha
  | closeCompress => cases ha
  | clearCompr => cases ha
  | threadLoop => cases ha
  | clearBlocked => cases ha
  | outPause => exact absurd hadev ((Discipline.obeys_act rfl).mp hobeys).1
  | outResume => exact absurd hadev ((Discipline.obeys_act rfl).mp hobeys).1
  | outStandby =>
    obtain ⟨_, rfl⟩ := Prod.mk.inj (Option.some.inj hact)
    split
    · exact hrest
    · exact .inr (.inr (.inl rfl))
  | outSetRouting named doStandby =>
    obtain ⟨_, rfl⟩ := Prod.mk.inj (Option.some.inj hact)
    split
    · exact .inr (.inr (.inl rfl))
    · exact hrest
  | stopCompressedOutput =>
    obtain ⟨_, rfl⟩ := Prod.mk.inj (Option.some.inj hact)
    split
    · exact hrest
    · exact .inr hrest
  | awaitUnblocked =>
    obtain ⟨_, rfl⟩ := Prod.mk.inj (Option.some.inj hact)
    split
    · exact ⟨by decide, .inr hrest⟩
    · exact hrest
  | outFlush =>
    obtain ⟨_, rfl⟩ := Prod.mk.inj (Option.some.inj hact)
    split
    · exact .inr (.inr hrest)
    · exact hrest
  | joinThread =>
    simp only [act] at hact
    split at hact <;> cases hact
    exact hrest
  | _ =>
    obtain ⟨_, rfl⟩ := Prod.mk.inj (Option.some.inj hact)
    exact hrest

/-- The handle is closed next only after a look that finds the flag cleared, or no handle. -/
theorem closeAhead_more (ha : decides a = false) (hshape : Shape t (.act a :: rest))
    (hact : act a s = some (s', more)) (h : closeAhead (more ++ rest) = true) :
    s.compr = none ∨ s.blocked = false := by
  have hmore : closeAhead more = false := by
    cases a with
    | startOutputStream w => cases ha
    | setActive w => cases ha
    | setStandby => cases ha
    | closeCompress => cases ha
    | clearCompr => cases ha
    | threadLoop => cases ha
    | clearBlocked => cases ha
    | outPause =>
      simp only [act] at hact
      split at hact <;> cases hact <;> rfl
    | joinThread =>
      simp only [act] at hact
      split at hact <;> cases hact
      rfl
    | enableOutputPath w => cases hact; rfl
    | testStandby _ | retestStandby _ | outWriteOffload _ | outStandby | stopCompressedOutput
    | awaitUnblocked | outResume | outFlush | outSetRouting _ _ =>
      obtain ⟨_, rfl⟩ := Prod.mk.inj (Option.some.inj hact)
      split <;> rfl
    | _ =>
      obtain ⟨_, rfl⟩ := Prod.mk.inj (Option.some.inj hact)
      rfl
  have hlooks : looks (.act a) = true := by
    refine closeAhead_tail hshape (Bool.not_eq_false _ ▸ fun hfalse => ?_)
    rw [closeAhead_append hfalse hmore] at h
    cases h
  cases a with
  | stopCompressedOutput =>
    obtain ⟨_, rfl⟩ := Prod.mk.inj (Option.some.inj hact)
    split at h
    · exact .inl ‹_›
    · cases h
  | awaitUnblocked =>
    obtain ⟨_, rfl⟩ := Prod.mk.inj (Option.some.inj hact)
    split at h
    · cases h
    · rename_i hclear
      exact .inr (Bool.not_eq_true _ ▸ hclear)
  | _ => cases hlooks

theorem clearBlocked_more (ha : decides a = false) (hact : act a s = some (s', more)) :
    .act .clearBlocked ∉ more := by
  intro hmem
  rcases plain_more hact with hmore | ⟨w, _, w', rfl | rfl⟩
  · -- of the actions of the thread only its loop is followed by it
    have hthread : a.isThread = true := (isThread_of_mem hmore hmem).symm
    cases a with
    | threadLoop => cases ha
    | clearBlocked => cases ha
    | drive _ | clearCmdList | exitThread =>
      obtain ⟨_, rfl⟩ := Prod.mk.inj (Option.some.inj hact)
      cases hmem
    | _ => cases hthread
  · rcases List.mem_cons.mp hmem with hbad | hbad
    · cases hbad
    · cases List.mem_singleton.mp hbad
  · cases List.mem_singleton.mp hmem

/-- The mutexes and the code of the others are the same after an action. -/
theorem lawful_put (hk : Kept c) (hcode : c.code t = .act a :: rest)
    (hact : act a c.shared = some (s', more)) (t' : StreamParty) :
    Lawful t' ((c.put t s' (more ++ rest)).held t') ((c.put t s' (more ++ rest)).code t') := by
  by_cases ht : t' = t
  · subst ht
    rw [Processes.held_put, Processes.code_put_self]
    exact lawful.act (hcode ▸ hk.lawful t') hact
  · rw [Processes.held_put, Processes.code_put_of_ne ht]
    exact hk.lawful t'

/-- A driver call is made on the handle the thread entered with. -/
theorem calls_act (hk : Kept c) (hcode : c.code t = .act a :: rest)
    (hact : act a c.shared = some (s', more)) : ∀ call ∈ s'.calls, callSound call := by
  have hown : Lawful t (c.held t) (.act a :: rest) := hcode ▸ hk.lawful t
  have hsame (hcalls : s'.calls = c.shared.calls) : ∀ call ∈ s'.calls, callSound call := by
    rw [hcalls]
    exact hk.calls
  cases a with
  | drive call =>
    obtain ⟨rfl, _⟩ := Prod.mk.inj (Option.some.inj hact)
    intro e he
    rcases List.mem_append.mp he with he | he
    · exact hk.calls e he
    · obtain rfl := List.mem_singleton.mp he
      have ht : t = .offloadThread := of_decide_eq_true (isThread_of_shape hown.shape).symm
      have hclear : Instr.act StreamAct.clearBlocked ∈ c.code .offloadThread := by
        rw [← ht, hcode]
        exact List.mem_cons_of_mem _ ((Discipline.obeys_act rfl).mp hown.obeys).1
      obtain ⟨h, hcompr, hentered, hopen⟩ := hk.handle (hk.blocked.mpr hclear)
      refine ⟨h, hcompr, hentered, ?_⟩
      show c.shared.compr.any (· ∈ c.shared.driver.opened) = true
      rw [hcompr]
      exact decide_eq_true hopen
  | startOutputStream w =>
    simp only [act] at hact
    split at hact
    · cases hact
      exact hk.calls
    split at hact <;> cases hact
    exact hk.calls
  | closeCompress | outPause | joinThread =>
    simp only [act] at hact
    split at hact <;> cases hact <;> exact hk.calls
  | threadLoop =>
    simp only [act] at hact
    split at hact
    · cases hact
      exact hk.calls
    · cases hact
      exact hk.calls
    · split at hact <;> cases hact <;> exact hk.calls
  | _ =>
    obtain ⟨rfl, _⟩ := Prod.mk.inj (Option.some.inj hact)
    exact hk.calls

theorem kept_act (hk : Kept c) (hcode : c.code t = .act a :: rest)
    (hact : act a c.shared = some (s', more)) (ha : decides a = false) :
    Kept (c.put t s' (more ++ rest)) := by
  have hown : Lawful t (c.held t) (.act a :: rest) := hcode ▸ hk.lawful t
  refine hk.of_same (t := t) (lawful_put hk hcode hact) (handle_of_act ha hact)
    (calls_act hk hcode hact) (fun _ _ => rfl) (fun t' ht => Processes.code_put_of_ne ht) ?_ ?_ ?_ ?_ ?_
  · intro _
    rw [Processes.code_put_self, hcode, List.mem_append,
      or_iff_right (clearBlocked_more ha hact), List.mem_cons, or_iff_right]
    intro hbad
    cases hbad
    cases ha
  · intro hadev hsettles
    rw [Processes.code_put_self]
    exact ⟨hadev, settles_more ha hown.obeys hact hadev (hcode ▸ hsettles)⟩
  · intro rest' hrest
    rw [hcode] at hrest
    cases hrest
    cases ha
  · rw [Processes.code_put_self]
    intro hstarts
    obtain ⟨_, _, hstandby⟩ := startsNext_more hown.obeys hown.shape hact hstarts
    exact hstandby
  · rw [Processes.code_put_self]
    intro hahead
    rcases closeAhead_more ha hown.shape hact hahead with hnone | hclear
    · refine Bool.eq_false_iff.mpr fun hblocked => ?_
      obtain ⟨h, hcompr, _⟩ := hk.handle hblocked
      rw [hnone] at hcompr
      cases hcompr
    · exact hclear

/-! ## 6. Actions that decide on the handle -/

/-- A handle there is, in a stream in standby, is not for a thread that holds `adev->lock` and is
not about to close it. -/
theorem Kept.compr_none (hk : Kept c) (hadev : .adevLock ∈ c.held t) (hstandby : c.shared.standby = true)
    (hsettles : ¬Settles (c.code t)) : c.shared.compr = none := by
  refine (hk.settled hstandby).resolve_right ?_
  rintro ⟨t', hadev', hsettles'⟩
  obtain rfl := Processes.held_unique hadev hadev'
  exact hsettles hsettles'

theorem Kept.blocked_false (hk : Kept c) (hnone : c.shared.compr = none) : c.shared.blocked = false := by
  refine Bool.eq_false_iff.mpr fun hblocked => ?_
  obtain ⟨h, hcompr, _⟩ := hk.handle hblocked
  rw [hnone] at hcompr
  cases hcompr

/-- The flag and the code of the thread, after an action of another one. -/
theorem blocked_put (hk : Kept c) (ht : t ≠ .offloadThread) :
    c.shared.blocked = true ↔ .act .clearBlocked ∈ (c.put t s' more).code .offloadThread := by
  rw [Processes.code_put_of_ne ht.symm]
  exact hk.blocked

/-- The others, after an action of `t`. -/
theorem starting_put {t' : StreamParty} (hk : Kept c) (ht : t' ≠ t)
    (h : StartsNext ((c.put t s' more).code t')) : c.shared.standby = true := by
  rw [Processes.code_put_of_ne ht] at h
  exact hk.starting t' h

theorem closing_put {t' : StreamParty} (hk : Kept c) (ht : t' ≠ t)
    (h : closeAhead ((c.put t s' more).code t') = true) : c.shared.blocked = false := by
  rw [Processes.code_put_of_ne ht] at h
  exact hk.closing t' h

/-- The thread that closes the handle is another one than `t`. -/
theorem opened_put {h : Nat} (hk : Kept c) (hcompr : c.shared.compr = some h)
    (hcode : ∀ rest, c.code t ≠ .act .clearCompr :: rest) :
    h ∈ c.shared.driver.opened ∨ ∃ t' rest, (c.put t s' more).code t' = .act .clearCompr :: rest := by
  refine (hk.opened h hcompr).imp_right ?_
  rintro ⟨t', rest, hrest⟩
  have ht : t' ≠ t := fun ht => hcode rest (ht ▸ hrest)
  exact ⟨t', rest, (Processes.code_put_of_ne ht).trans hrest⟩

theorem not_offloadThread (hk : Kept c) (hcode : c.code t = .act a :: rest)
    (ha : a.isThread = false) : t ≠ .offloadThread := by
  have hkind := isThread_of_shape (hcode ▸ (hk.lawful t).shape)
  rw [ha] at hkind
  exact of_decide_eq_false hkind.symm

theorem kept_setActive {w : StreamWrite} (hk : Kept c) (hcode : c.code t = .act (.setActive w) :: rest)
    (hact : act (.setActive w) c.shared = some (s', more)) : Kept (c.put t s' (more ++ rest)) := by
  have hown : Lawful t (c.held t) (.act (.setActive w) :: rest) := hcode ▸ hk.lawful t
  have ht := not_offloadThread hk hcode rfl
  have hlawful := lawful_put hk hcode hact
  obtain ⟨⟨_, hout, hadev, _⟩, rfl⟩ := (Discipline.obeys_last rfl).mp hown.obeys
  have hcalls := calls_act hk hcode hact
  have hstarts : ¬StartsNext (more ++ []) := fun hstarts => by
    obtain ⟨_, hw, _⟩ := startsNext_more hown.obeys hown.shape hact hstarts
    cases hw
  obtain ⟨rfl, rfl⟩ := Prod.mk.inj (Option.some.inj hact)
  refine ⟨hlawful, blocked_put hk ht, hk.handle, nofun, ?_, ?_, ?_, hcalls⟩
  · intro h hcompr
    refine opened_put hk hcompr fun rest hrest => ?_
    rw [hcode] at hrest
    cases hrest
  · intro t' hstarts'
    by_cases ht' : t' = t
    · subst ht'
      rw [Processes.code_put_self] at hstarts'
      exact absurd hstarts' hstarts
    · -- another thread cannot hold `out->lock` as well
      rw [Processes.code_put_of_ne ht'] at hstarts'
      have hout' := hstarts'.holds (hk.lawful t').obeys
        fun _ hadev' => ht' (Processes.held_unique hadev' hadev)
      exact absurd (Processes.held_unique hout' hout) ht'
  · intro t' hahead
    by_cases ht' : t' = t
    · subst ht'
      rw [Processes.code_put_self] at hahead
      cases hahead
    · exact closing_put (c := c) hk ht' hahead

theorem kept_setStandby (hk : Kept c) (hcode : c.code t = .act .setStandby :: rest)
    (hact : act .setStandby c.shared = some (s', more)) : Kept (c.put t s' (more ++ rest)) := by
  have hown : Lawful t (c.held t) (.act .setStandby :: rest) := hcode ▸ hk.lawful t
  have ht := not_offloadThread hk hcode rfl
  have hlawful := lawful_put hk hcode hact
  obtain ⟨⟨_, hadev, hsettles⟩, _⟩ := (Discipline.obeys_act rfl).mp hown.obeys
  have hcalls := calls_act hk hcode hact
  obtain ⟨rfl, rfl⟩ := Prod.mk.inj (Option.some.inj hact)
  refine ⟨hlawful, blocked_put hk ht, hk.handle, ?_, ?_, fun _ _ => rfl, ?_, hcalls⟩
  · intro _
    refine .inr ⟨t, hadev, ?_⟩
    rw [Processes.code_put_self]
    exact hsettles
  · intro h hcompr
    refine opened_put hk hcompr fun rest hrest => ?_
    rw [hcode] at hrest
    cases hrest
  · intro t' hahead
    by_cases ht' : t' = t
    · subst ht'
      rw [Processes.code_put_self] at hahead
      cases closeAhead_tail hown.shape hahead
    · exact closing_put (c := c) hk ht' hahead

theorem kept_closeCompress (hk : Kept c) (hcode : c.code t = .act .closeCompress :: rest)
    (hact : act .closeCompress c.shared = some (s', more)) : Kept (c.put t s' (more ++ rest)) := by
  have hown : Lawful t (c.held t) (.act .closeCompress :: rest) := hcode ▸ hk.lawful t
  have ht := not_offloadThread hk hcode rfl
  have hlawful := lawful_put hk hcode hact
  obtain ⟨⟨_, hadev⟩, _⟩ := (Discipline.obeys_act rfl).mp hown.obeys
  have hcalls := calls_act hk hcode hact
  have hstarts : ¬StartsNext (more ++ rest) := fun hstarts => by
    obtain ⟨_, hw, _⟩ := startsNext_more hown.obeys hown.shape hact hstarts
    cases hw
  have hclear : c.shared.blocked = false := by
    apply hk.closing t
    rw [hcode]
    rfl
  have hstarting (t' : StreamParty) (h : StartsNext ((c.put t s' (more ++ rest)).code t')) :
      c.shared.standby = true := by
    by_cases ht' : t' = t
    · subst ht'
      rw [Processes.code_put_self] at h
      exact absurd h hstarts
    · exact starting_put (c := c) hk ht' h
  simp only [act] at hact
  split at hact
  · rename_i hnone
    obtain ⟨rfl, rfl⟩ := Prod.mk.inj (Option.some.inj hact)
    refine ⟨hlawful, blocked_put hk ht, hk.handle, fun _ => .inl hnone, ?_, hstarting,
      fun _ _ => hclear, hcalls⟩
    intro h hcompr
    cases hnone.symm.trans hcompr
  · rename_i h hcompr
    obtain ⟨rfl, rfl⟩ := Prod.mk.inj (Option.some.inj hact)
    have hself : (c.put t { c.shared with driver := c.shared.driver.release h }
        ([.act .clearCompr] ++ rest)).code t = .act .clearCompr :: rest :=
      Processes.code_put_self
    refine ⟨hlawful, blocked_put hk ht, ?_, ?_, fun _ _ => .inr ⟨t, rest, hself⟩, hstarting,
      fun _ _ => hclear, hcalls⟩
    · intro hblocked
      cases hclear.symm.trans hblocked
    · intro _
      refine .inr ⟨t, hadev, ?_⟩
      rw [hself]
      exact .inl rfl

theorem kept_clearCompr (hk : Kept c) (hcode : c.code t = .act .clearCompr :: rest)
    (hact : act .clearCompr c.shared = some (s', more)) : Kept (c.put t s' (more ++ rest)) := by
  have hown : Lawful t (c.held t) (.act .clearCompr :: rest) := hcode ▸ hk.lawful t
  have ht := not_offloadThread hk hcode rfl
  have hlawful := lawful_put hk hcode hact
  have hcalls := calls_act hk hcode hact
  have hclear : c.shared.blocked = false := by
    apply hk.closing t
    rw [hcode]
    rfl
  have hstarts : ¬StartsNext (more ++ rest) := fun hstarts => by
    obtain ⟨_, hw, _⟩ := startsNext_more hown.obeys hown.shape hact hstarts
    cases hw
  obtain ⟨rfl, rfl⟩ := Prod.mk.inj (Option.some.inj hact)
  refine ⟨hlawful, blocked_put hk ht, ?_, fun _ => .inl rfl, nofun, ?_, fun _ _ => hclear, hcalls⟩
  · intro hblocked
    cases hclear.symm.trans hblocked
  · intro t' h
    by_cases ht' : t' = t
    · subst ht'
      rw [Processes.code_put_self] at h
      exact absurd h hstarts
    · exact starting_put (c := c) hk ht' h

theorem kept_startOutputStream {w : StreamWrite} (hk : Kept c)
    (hcode : c.code t = .act (.startOutputStream w) :: rest)
    (hact : act (.startOutputStream w) c.shared = some (s', more)) :
    Kept (c.put t s' (more ++ rest)) := by
  have hown : Lawful t (c.held t) (.act (.startOutputStream w) :: rest) := hcode ▸ hk.lawful t
  have ht := not_offloadThread hk hcode rfl
  have hlawful := lawful_put hk hcode hact
  have hcalls := calls_act hk hcode hact
  obtain ⟨⟨_, _, hadev, _⟩, rfl⟩ := (Discipline.obeys_last rfl).mp hown.obeys
  have hnot : ¬Settles (c.code t) := by
    rw [hcode]
    rintro (hbad | hbad) <;> cases hbad
  have hstandby : c.shared.standby = true := hk.starting t (hcode ▸ ⟨w, .inr rfl⟩)
  have hnone : c.shared.compr = none := hk.compr_none hadev hstandby hnot
  have hclear : c.shared.blocked = false := hk.blocked_false hnone
  simp only [act] at hact
  split at hact
  · obtain ⟨rfl, rfl⟩ := Prod.mk.inj (Option.some.inj hact)
    refine ⟨hlawful, blocked_put hk ht, hk.handle, fun _ => .inl hnone, ?_, fun _ _ => hstandby,
      fun _ _ => hclear, hcalls⟩
    intro h hcompr
    cases hnone.symm.trans hcompr
  split at hact
  · cases hact
  obtain ⟨rfl, rfl⟩ := Prod.mk.inj (Option.some.inj hact)
  refine ⟨hlawful, blocked_put hk ht, ?_, ?_, ?_, fun _ _ => hstandby, fun _ _ => hclear, hcalls⟩
  · intro hblocked
    cases hclear.symm.trans hblocked
  · intro _
    refine .inr ⟨t, hadev, ?_⟩
    rw [Processes.code_put_self]
    split <;> exact .inl rfl
  · intro h hcompr
    obtain rfl := Option.some.inj hcompr
    exact .inl List.mem_cons_self

theorem kept_clearBlocked (hk : Kept c) (hcode : c.code t = .act .clearBlocked :: rest)
    (hact : act .clearBlocked c.shared = some (s', more)) : Kept (c.put t s' (more ++ rest)) := by
  have hown : Lawful t (c.held t) (.act .clearBlocked :: rest) := hcode ▸ hk.lawful t
  have ht : t = .offloadThread := of_decide_eq_true (isThread_of_shape hown.shape).symm
  have hlawful := lawful_put hk hcode hact
  have hcalls := calls_act hk hcode hact
  obtain ⟨⟨_, rfl⟩, _⟩ := (Discipline.obeys_act rfl).mp hown.obeys
  obtain ⟨rfl, rfl⟩ := Prod.mk.inj (Option.some.inj hact)
  subst ht
  have hnot : ¬Settles (c.code .offloadThread) := by
    rw [hcode]
    rintro (hbad | hbad | hbad) <;> cases hbad
  refine ⟨hlawful, ?_, nofun, ?_, ?_, ?_, fun _ _ => rfl, hcalls⟩
  · rw [Processes.code_put_self]
    refine iff_of_false nofun fun hbad => ?_
    cases List.mem_singleton.mp hbad
  · intro hstandby
    refine (hk.settled hstandby).imp_right ?_
    rintro ⟨t', hadev, hsettles⟩
    have ht' : t' ≠ .offloadThread := fun hsame => hnot (hsame ▸ hsettles)
    refine ⟨t', hadev, ?_⟩
    rw [Processes.code_put_of_ne ht']
    exact hsettles
  · intro h hcompr
    refine opened_put hk hcompr fun rest hrest => ?_
    rw [hcode] at hrest
    cases hrest
  · intro t' h
    by_cases ht' : t' = .offloadThread
    · subst ht'
      rw [Processes.code_put_self] at h
      exact absurd h (not_startsNext_of_plain (k := true) rfl)
    · exact starting_put (c := c) hk ht' h

/-- The thread sets the flag, for a handle that is open, or goes on without one. -/
theorem kept_threadLoop (hk : Kept c) (hcode : c.code t = .act .threadLoop :: rest)
    (hact : act .threadLoop c.shared = some (s', more)) : Kept (c.put t s' (more ++ rest)) := by
  have hown : Lawful t (c.held t) (.act .threadLoop :: rest) := hcode ▸ hk.lawful t
  have ht : t = .offloadThread := of_decide_eq_true (isThread_of_shape hown.shape).symm
  have hlawful := lawful_put hk hcode hact
  have hcalls := calls_act hk hcode hact
  obtain ⟨⟨hout, _⟩, rfl⟩ := (Discipline.obeys_last rfl).mp hown.obeys
  subst ht
  have hnot : ¬Settles (c.code .offloadThread) := by
    rw [hcode]
    rintro (hbad | hbad) <;> cases hbad
  have hstale (rest : Code) : c.code .offloadThread ≠ .act .clearCompr :: rest := by
    rw [hcode]
    intro hrest
    cases hrest
  have hidle : .act .clearBlocked ∉ c.code .offloadThread := by
    rw [hcode]
    intro hbad
    cases List.mem_singleton.mp hbad
  have hsame (s : OffloadStream) (more : Code) (hs : s.toOffloadHandle = c.shared.toOffloadHandle)
      (hcalls : ∀ call ∈ s.calls, callSound call)
      (hmore : .act .clearBlocked ∉ more ∧ plain true more = true ∧ closeAhead more = false)
      (hlawful : ∀ t', Lawful t' ((c.put .offloadThread s more).held t')
        ((c.put .offloadThread s more).code t')) : Kept (c.put .offloadThread s more) := by
    refine hk.of_same (t := .offloadThread) hlawful hs hcalls (fun _ _ => rfl)
      (fun t' ht => Processes.code_put_of_ne ht) ?_ (fun _ h => absurd h hnot) hstale ?_ ?_
    · intro _
      rw [Processes.code_put_self]
      exact iff_of_false hmore.1 hidle
    · rw [Processes.code_put_self]
      exact fun h => absurd h (not_startsNext_of_plain hmore.2.1)
    · rw [Processes.code_put_self, hmore.2.2]
      exact nofun
  simp only [act] at hact
  split at hact
  · obtain ⟨rfl, rfl⟩ := Prod.mk.inj (Option.some.inj hact)
    exact hsame _ _ rfl hcalls ⟨by simp, rfl, rfl⟩ hlawful
  · obtain ⟨rfl, rfl⟩ := Prod.mk.inj (Option.some.inj hact)
    exact hsame _ _ rfl hcalls ⟨by simp, rfl, rfl⟩ hlawful
  rename_i cmd cmds _
  split at hact
  · obtain ⟨rfl, rfl⟩ := Prod.mk.inj (Option.some.inj hact)
    exact hsame _ _ rfl hcalls ⟨by simp, rfl, rfl⟩ hlawful
  rename_i hsome
  obtain ⟨rfl, rfl⟩ := Prod.mk.inj (Option.some.inj hact)
  obtain ⟨h, hcompr⟩ := Option.ne_none_iff_exists'.mp hsome
  have hcompr : c.shared.compr = some h := hcompr
  refine ⟨hlawful, ?_, ?_, ?_, ?_, ?_, ?_, hcalls⟩
  · rw [Processes.code_put_self]
    refine iff_of_true rfl ?_
    simp
  · intro _
    refine ⟨h, hcompr, hcompr, (hk.opened h hcompr).resolve_right ?_⟩
    -- a thread that has closed it and not cleared it would hold `out->lock`
    rintro ⟨t', rest, hrest⟩
    have hout' : .outLock ∈ c.held t' := closeAhead_holds (hk.lawful t').obeys (by rw [hrest]; rfl)
    obtain rfl := Processes.held_unique hout hout'
    exact hstale rest hrest
  · intro hstandby
    refine (hk.settled hstandby).imp_right ?_
    rintro ⟨t', hadev, hsettles⟩
    have ht' : t' ≠ .offloadThread := fun hsame => hnot (hsame ▸ hsettles)
    refine ⟨t', hadev, ?_⟩
    rw [Processes.code_put_of_ne ht']
    exact hsettles
  · exact fun h hcompr => opened_put hk hcompr hstale
  · intro t' hstarts
    by_cases ht' : t' = .offloadThread
    · subst ht'
      rw [Processes.code_put_self] at hstarts
      refine absurd hstarts (not_startsNext_of_plain (k := true) ?_)
      cases cmd <;> rfl
    · exact starting_put (c := c) hk ht' hstarts
  · intro t' hahead
    by_cases ht' : t' = .offloadThread
    · subst ht'
      rw [Processes.code_put_self] at hahead
      cases hahead
    · -- so would a thread that is about to close it
      rw [Processes.code_put_of_ne ht'] at hahead
      have hout' := closeAhead_holds (hk.lawful t').obeys hahead
      exact absurd (Processes.held_unique hout' hout) ht'

/-! ## 7. Steps -/

theorem kept_step {turn : Turn StreamParty Call} (hk : Kept c)
    (hstep : program.step c turn = some c') : Kept c' := by
  have hlawful := lawful.step hk.lawful hstep
  cases Program.step_cases hstep with
  | entered hidle henter => exact kept_enter hk hidle henter hlawful
  | acquired hcode hfree => exact kept_acquire hk hcode hfree hlawful
  | released hcode => exact kept_release hk hcode hlawful
  | @acted t a s more rest hcode hact =>
    cases a with
    | startOutputStream w => exact kept_startOutputStream hk hcode hact
    | setActive w => exact kept_setActive hk hcode hact
    | setStandby => exact kept_setStandby hk hcode hact
    | closeCompress => exact kept_closeCompress hk hcode hact
    | clearCompr => exact kept_clearCompr hk hcode hact
    | threadLoop => exact kept_threadLoop hk hcode hact
    | clearBlocked => exact kept_clearBlocked hk hcode hact
    | _ => exact kept_act hk hcode hact rfl

/-- From the step in which the thread sets `offload_thread_blocked` to the one in which it clears
it, the flag is set and the handle it entered with is the stream's own and open; each driver call
the thread made was on such a handle. -/
structure HandleSafe (c : State) : Prop where
  inDriver : .act .clearBlocked ∈ c.code .offloadThread → c.shared.blocked = true ∧
    ∃ h, c.shared.entered = some h ∧ c.shared.compr = some h ∧ h ∈ c.shared.driver.opened
  calls : ∀ call ∈ c.shared.calls,
    ∃ h, call.handle = some h ∧ call.entered = some h ∧ call.isOpen = true

theorem Kept.handleSafe (hk : Kept c) : HandleSafe c := by
  refine ⟨fun hclear => ?_, hk.calls⟩
  have hblocked := hk.blocked.mpr hclear
  obtain ⟨h, hcompr, hentered, hopen⟩ := hk.handle hblocked
  exact ⟨hblocked, h, hentered, hcompr, hopen⟩

end OffloadStream

end Universal7870.Audio
