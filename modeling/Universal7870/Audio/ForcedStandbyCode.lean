import Universal7870.Audio.ForcedStandby
import Universal7870.Audio.ActiveInput

/-!
# The code between a choice and a standby

Whatever sets `adev->active_input` holds `lock_inputs`, and a call that has chosen an input gives
`lock_inputs` back only after that input's standby.
-/

namespace Universal7870.Audio

open Lib

namespace SharedDevice

variable {T : Type} {t : T} {H : Set HalMutex} {rest more : Code} {a : HalAct}
  {s s' : SharedDevice T} {i : InId} {o : OutId}

/-! ## 1. What the actions need -/

/-- The input an action puts to standby, or will. -/
def chosen : HalAct → Option InId
  | .outWriteData _ _ input | .pcmWrite _ _ input => input
  | .assertActive i => some i
  | _ => none

/-- The input whose stream an action starts, or may. -/
def starts : HalAct → Option InId
  | .testIn i _ | .retestIn i _ | .startInputStream i _ => some i
  | _ => none

/-- The actions after which the active input may be another one. -/
def writesActive : HalAct → Bool
  | .doInStandby _ | .startInputStream _ _ | .inSetParameters _ _ _ | .addAudioEffect _ _ _
  | .removeAudioEffect _ _ => true
  | _ => false

def hasChosen : Code → Bool
  | [] => false
  | .act a :: code => (chosen a).isSome || hasChosen code
  | _ :: code => hasChosen code

/-- The instructions that a thread may not take between its choice and the standby. -/
def breaks : Instr HalMutex HalAct → Bool
  | .release .lockInputs => true
  | .act a => writesActive a || match a with
    | .inStandbyL _ | .freeInput _ _ => true
    | _ => false
  | _ => false

def clean : Code → Bool
  | [] => true
  | x :: code => (!breaks x || !hasChosen code) && clean code

/-- The mutexes an action is taken with, and the code it is taken before. -/
def pre (a : HalAct) (H : Set HalMutex) (code : Code) : Prop :=
  match a with
  | .testOut o _ | .outWriteOffload o _ | .writeCompress o _ => .outLock o ∈ H
  | .retestOut o _ => .outLock o ∈ H ∧ .lockInputs ∈ H
  | .startOutputStream o _ | .outSetRouting o _ _ =>
    .outLock o ∈ H ∧ .lockInputs ∈ H ∧ .adevLock ∈ H
  | .outWriteData o _ input | .pcmWrite o _ input =>
    .outLock o ∈ H ∧ (input.isSome = true → .lockInputs ∈ H)
  | .enableOutputPath o _ => .outLock o ∈ H ∧ .adevLock ∈ H
  | .testIn i _ | .readFrames i _ => .inLock i ∈ H
  | .retestIn i _ => .inLock i ∈ H ∧ .lockInputs ∈ H
  | .startInputStream i _ => .inLock i ∈ H ∧ .lockInputs ∈ H ∧ .adevLock ∈ H
  | .assertActive _ | .doInStandby _ | .inStandbyL _ | .inSetParameters _ _ _
  | .addAudioEffect _ _ _ | .removeAudioEffect _ _ => .lockInputs ∈ H
  | .freeInput _ _ => .lockInputs ∈ H ∧ code = [.release .lockInputs]
  | .leave _ => code = []
  | .outStandby _ | .doOutStandby _ | .syncEcho _ | .setActive _ => True

def discipline : Discipline T HalMutex HalAct where
  pre _ := pre
  last
    | .testOut _ _ | .retestOut _ _ | .startOutputStream _ _ | .outWriteData _ _ _ | .pcmWrite _ _ _
    | .outWriteOffload _ _ | .enableOutputPath _ _ | .writeCompress _ _ | .outSetRouting _ _ _
    | .testIn _ _ | .retestIn _ _ | .startInputStream _ _ | .readFrames _ _ => true
    | _ => false
  left := Set.univ

theorem obeys_nil : discipline.Obeys t H [] := Set.subset_univ H

theorem obeys_lockInputStream (h : .inLock i ∉ H → discipline.Obeys t (insert (.inLock i) H) rest) :
    discipline.Obeys t H (lockInputStream i ++ rest) :=
  Discipline.Obeys.acquire_behind nofun h

theorem obeys_lockOutputStream
    (h : .outLock o ∉ H → discipline.Obeys t (insert (.outLock o) H) rest) :
    discipline.Obeys t H (lockOutputStream o ++ rest) :=
  Discipline.Obeys.acquire_behind nofun h

theorem obeys_standbyOut (h : discipline.Obeys t H rest) :
    discipline.Obeys t H (standbyOut o ++ rest) := by
  unfold standbyOut
  rw [List.append_assoc]
  apply obeys_lockOutputStream
  intro hm
  exact (Discipline.obeys_act rfl).mpr ⟨trivial, h.release_acquired hm⟩

theorem obeys_standbyInL (hinputs : .lockInputs ∈ H) (h : discipline.Obeys t H rest) :
    discipline.Obeys t H (standbyInL i ++ rest) := by
  unfold standbyInL
  rw [List.append_assoc]
  apply obeys_lockInputStream
  intro hm
  exact (Discipline.obeys_act rfl).mpr ⟨.inr hinputs, h.release_acquired hm⟩

theorem obeys_standbyIn (h : discipline.Obeys t H rest) :
    discipline.Obeys t H (standbyIn i ++ rest) := by
  unfold standbyIn
  rw [List.append_assoc, List.append_assoc]
  intro hinputs
  exact obeys_standbyInL (.inl rfl) (h.release_acquired hinputs)

theorem obeys_forceStandby (hinputs : .lockInputs ∈ H) (h : discipline.Obeys t H rest) :
    discipline.Obeys t H (forceStandby i ++ rest) := by
  unfold forceStandby
  rw [List.append_assoc]
  apply obeys_lockInputStream
  intro hin hadev
  have hinputs' : .lockInputs ∈ insert .adevLock (insert (.inLock i) H) := .inr (.inr hinputs)
  have hdone := (h.release_acquired hin).release_acquired hadev
  exact (Discipline.obeys_act rfl).mpr ⟨hinputs', (Discipline.obeys_act rfl).mpr ⟨hinputs', hdone⟩⟩

/-- The mutex of an output stream is given back, and the rest is as without it. -/
theorem obeys_outWriteExit {input : Option InId} {fails : Bool} (hout : .outLock o ∈ H)
    (hinputs : input.isSome = true → .lockInputs ∈ H) :
    discipline.Obeys t H (outWriteExit o input fails) := by
  have hend : discipline.Obeys t (H \ {.outLock o}) (forceChosen input) := by
    cases input with
    | none => exact obeys_nil
    | some i =>
      have hheld : HalMutex.lockInputs ∈ H \ {.outLock o} := ⟨hinputs rfl, nofun⟩
      exact obeys_forceStandby hheld ⟨hheld, obeys_nil⟩
  unfold outWriteExit
  rw [List.append_assoc]
  refine ⟨hout, ?_⟩
  change discipline.Obeys t (H \ {.outLock o}) ((if fails then standbyOut o else []) ++ _)
  split
  · exact obeys_standbyOut hend
  · exact hend

theorem obeys_readExit {successful : Bool} (hin : .inLock i ∈ H) :
    discipline.Obeys t H (readExit i successful) := by
  have hend : discipline.Obeys t (H \ {.inLock i}) [.act (.leave i)] :=
    (Discipline.obeys_act rfl).mpr ⟨rfl, obeys_nil⟩
  unfold readExit
  rw [List.append_assoc]
  refine ⟨hin, ?_⟩
  change discipline.Obeys t (H \ {.inLock i}) ((if successful then [] else standbyIn i) ++ _)
  split
  · exact hend
  · exact obeys_standbyIn hend

theorem obeys_underInput (hlast : (discipline (T := T)).last a = false)
    (hpre : pre a (insert .adevLock (insert (.inLock i) (insert .lockInputs H)))
      [.release .adevLock, .release (.inLock i), .release .lockInputs, .act (.leave i)]) :
    discipline.Obeys t H (underInput i a) := by
  have hend : discipline.Obeys t H [.act (.leave i)] :=
    (Discipline.obeys_act rfl).mpr ⟨rfl, obeys_nil⟩
  intro hinputs
  apply obeys_lockInputStream
  intro hin hadev
  refine (Discipline.obeys_act hlast).mpr ⟨hpre, ?_⟩
  exact ((hend.release_acquired hinputs).release_acquired hin).release_acquired hadev

theorem obeys_closeCode {freed : StreamIn} : discipline.Obeys t H (closeCode i freed) := by
  unfold closeCode
  rw [List.append_assoc]
  intro hinputs
  apply obeys_standbyInL (.inl rfl)
  refine (Discipline.obeys_act rfl).mpr ⟨⟨.inl rfl, rfl⟩, ?_⟩
  exact obeys_nil.release_acquired hinputs

theorem obeys_inputCode {call : Call} {code : Code} (hcode : inputCode call = some (i, code)) :
    discipline.Obeys t H code := by
  have hheld (i : InId) : HalMutex.lockInputs ∈
      insert HalMutex.adevLock (insert (HalMutex.inLock i) (insert HalMutex.lockInputs H)) :=
    .inr (.inr (.inl rfl))
  cases call with
  | inRead j r =>
    obtain ⟨rfl, rfl⟩ := Prod.mk.inj (Option.some.inj hcode)
    apply obeys_lockInputStream
    intro _
    exact (Discipline.obeys_last rfl).mpr ⟨.inl rfl, rfl⟩
  | inStandby j =>
    obtain ⟨rfl, rfl⟩ := Prod.mk.inj (Option.some.inj hcode)
    exact obeys_standbyIn ((Discipline.obeys_act rfl).mpr ⟨rfl, obeys_nil⟩)
  | inSetParameters j source routing =>
    obtain ⟨rfl, rfl⟩ := Prod.mk.inj (Option.some.inj hcode)
    exact obeys_underInput rfl (hheld j)
  | addAudioEffect j aec auxChanged =>
    obtain ⟨rfl, rfl⟩ := Prod.mk.inj (Option.some.inj hcode)
    exact obeys_underInput rfl (hheld j)
  | removeAudioEffect j aec =>
    obtain ⟨rfl, rfl⟩ := Prod.mk.inj (Option.some.inj hcode)
    exact obeys_underInput rfl (hheld j)
  | _ => cases hcode

variable [DecidableEq T]

/-- What an action puts before the rest of the code obeys where the action did. -/
theorem obeys_more (h : discipline.Obeys t H (.act a :: rest)) (hact : act t a s = some (s', more)) :
    discipline.Obeys t H (more ++ rest) := by
  have hlast (w : (discipline (T := T)).last a = true) : pre a H rest ∧ rest = [] :=
    (Discipline.obeys_last w).mp h
  have hnext (w : (discipline (T := T)).last a = false) : pre a H rest ∧ discipline.Obeys t H rest :=
    (Discipline.obeys_act w).mp h
  -- an action that is the last one knows all of the code that it puts there; the others keep the
  -- rest, and put at most a standby before it
  cases a with
  | testOut o w =>
    obtain ⟨hout, rfl⟩ := hlast rfl
    obtain ⟨_, rfl⟩ := Prod.mk.inj (Option.some.inj hact)
    split
    · refine ⟨hout, fun _ => ?_⟩
      apply obeys_lockOutputStream
      intro _
      exact (Discipline.obeys_last rfl).mpr ⟨⟨.inl rfl, .inr (.inl rfl)⟩, rfl⟩
    · exact (Discipline.obeys_last rfl).mpr ⟨⟨hout, by simp⟩, rfl⟩
  | retestOut o w =>
    obtain ⟨⟨hout, hinputs⟩, rfl⟩ := hlast rfl
    obtain ⟨_, rfl⟩ := Prod.mk.inj (Option.some.inj hact)
    split
    · intro _
      exact (Discipline.obeys_last rfl).mpr ⟨⟨.inr hout, .inr hinputs, .inl rfl⟩, rfl⟩
    · refine ⟨hinputs, (Discipline.obeys_last rfl).mpr ⟨⟨⟨hout, by simp⟩, by simp⟩, rfl⟩⟩
  | startOutputStream o w =>
    obtain ⟨⟨hout, hinputs, hadev⟩, rfl⟩ := hlast rfl
    obtain ⟨⟨ok, h'⟩, _, hpair⟩ := Option.map_eq_some_iff.mp hact
    rw [List.append_nil]
    dsimp only at hpair
    split at hpair
    · obtain ⟨_, rfl⟩ := Prod.mk.inj hpair
      -- `lock_inputs` is given back unless an input was chosen
      refine ⟨hadev, ?_⟩
      split
      · rename_i hnone
        refine ⟨⟨hinputs, by simp⟩, (Discipline.obeys_last rfl).mpr
          ⟨⟨⟨⟨hout, by simp⟩, by simp⟩, ?_⟩, rfl⟩⟩
        rw [hnone]
        simp
      · exact (Discipline.obeys_last rfl).mpr ⟨⟨⟨hout, by simp⟩, fun _ => ⟨hinputs, by simp⟩⟩, rfl⟩
    · obtain ⟨_, rfl⟩ := Prod.mk.inj hpair
      -- the stream does not start: `exit` without an input
      refine ⟨hadev, ⟨hinputs, by simp⟩, ?_⟩
      exact obeys_outWriteExit ⟨⟨hout, by simp⟩, by simp⟩ (by simp)
  | outWriteData o w input =>
    obtain ⟨⟨hout, hinputs⟩, rfl⟩ := hlast rfl
    obtain ⟨_, rfl⟩ := Prod.mk.inj (Option.some.inj hact)
    have hpcm : discipline.Obeys t H [.act (.pcmWrite o w input)] :=
      (Discipline.obeys_last rfl).mpr ⟨⟨hout, hinputs⟩, rfl⟩
    rw [List.append_nil]
    split
    · exact (Discipline.obeys_last rfl).mpr ⟨hout, rfl⟩
    · split
      · intro hadev
        exact (Discipline.obeys_act rfl).mpr ⟨trivial, hpcm.release_acquired hadev⟩
      · exact hpcm
  | pcmWrite o w input =>
    obtain ⟨⟨hout, hinputs⟩, rfl⟩ := hlast rfl
    obtain ⟨_, rfl⟩ := Prod.mk.inj (Option.some.inj hact)
    rw [List.append_nil]
    exact obeys_outWriteExit hout hinputs
  | outWriteOffload o w =>
    obtain ⟨hout, rfl⟩ := hlast rfl
    obtain ⟨_, rfl⟩ := Prod.mk.inj (Option.some.inj hact)
    split
    · exact fun _ => (Discipline.obeys_last rfl).mpr ⟨⟨.inr hout, .inl rfl⟩, rfl⟩
    · exact (Discipline.obeys_last rfl).mpr ⟨hout, rfl⟩
  | enableOutputPath o w =>
    obtain ⟨⟨hout, hadev⟩, rfl⟩ := hlast rfl
    obtain ⟨⟨ok, h'⟩, _, hpair⟩ := Option.map_eq_some_iff.mp hact
    obtain ⟨_, rfl⟩ := Prod.mk.inj hpair
    rw [List.append_nil]
    refine ⟨hadev, ?_⟩
    change discipline.Obeys t (H \ {.adevLock}) (if ok then [.act (.writeCompress o w)] else [])
    split
    · exact (Discipline.obeys_last rfl).mpr ⟨⟨hout, by simp⟩, rfl⟩
    · exact obeys_nil
  | writeCompress o w =>
    obtain ⟨hout, rfl⟩ := hlast rfl
    obtain ⟨h', _, hpair⟩ := Option.map_eq_some_iff.mp hact
    obtain ⟨_, rfl⟩ := Prod.mk.inj hpair
    exact ⟨hout, obeys_nil⟩
  | outStandby o =>
    obtain ⟨_, hrest⟩ := hnext rfl
    obtain ⟨_, rfl⟩ := Prod.mk.inj (Option.some.inj hact)
    split
    · exact hrest
    · intro hadev
      exact (Discipline.obeys_act rfl).mpr ⟨trivial, hrest.release_acquired hadev⟩
  | outSetRouting o val allocated =>
    obtain ⟨⟨hout, hinputs, hadev⟩, rfl⟩ := hlast rfl
    obtain ⟨h', _, hpair⟩ := Option.map_eq_some_iff.mp hact
    obtain ⟨_, rfl⟩ := Prod.mk.inj hpair
    have hheld : HalMutex.lockInputs ∈ (H \ {.adevLock}) \ {.outLock o} := ⟨⟨hinputs, by simp⟩, by simp⟩
    have hend : discipline.Obeys t ((H \ {.adevLock}) \ {.outLock o}) [.release .lockInputs] :=
      ⟨hheld, obeys_nil⟩
    rw [List.append_nil, List.append_assoc]
    -- `lock_inputs` outlives `adev->lock` and the mutex of the output
    refine ⟨hadev, ⟨hout, by simp⟩, ?_⟩
    change discipline.Obeys t ((H \ {.adevLock}) \ {.outLock o}) (_ ++ [.release .lockInputs])
    split
    · exact obeys_forceStandby hheld hend
    · exact hend
  | assertActive i =>
    obtain ⟨_, hrest⟩ := hnext rfl
    simp only [act] at hact
    split at hact
    · obtain ⟨_, rfl⟩ := Prod.mk.inj (Option.some.inj hact)
      exact hrest
    · cases hact
  | testIn i r =>
    obtain ⟨hin, rfl⟩ := hlast rfl
    obtain ⟨_, rfl⟩ := Prod.mk.inj (Option.some.inj hact)
    split
    · refine ⟨hin, fun _ => ?_⟩
      apply obeys_lockInputStream
      intro _
      exact (Discipline.obeys_last rfl).mpr ⟨⟨.inl rfl, .inr (.inl rfl)⟩, rfl⟩
    · exact (Discipline.obeys_last rfl).mpr ⟨hin, rfl⟩
  | retestIn i r =>
    obtain ⟨⟨hin, hinputs⟩, rfl⟩ := hlast rfl
    obtain ⟨_, rfl⟩ := Prod.mk.inj (Option.some.inj hact)
    split
    · exact fun _ => (Discipline.obeys_last rfl).mpr ⟨⟨.inr hin, .inr hinputs, .inl rfl⟩, rfl⟩
    · exact ⟨hinputs, (Discipline.obeys_last rfl).mpr ⟨⟨hin, by simp⟩, rfl⟩⟩
  | startInputStream i r =>
    obtain ⟨⟨hin, hinputs, hadev⟩, rfl⟩ := hlast rfl
    obtain ⟨⟨status, h'⟩, _, hpair⟩ := Option.map_eq_some_iff.mp hact
    obtain ⟨_, rfl⟩ := Prod.mk.inj hpair
    have hin' : HalMutex.inLock i ∈ (H \ {.adevLock}) \ {.lockInputs} := ⟨⟨hin, by simp⟩, by simp⟩
    rw [List.append_nil]
    refine ⟨hadev, ⟨hinputs, by simp⟩, ?_⟩
    change discipline.Obeys t ((H \ {.adevLock}) \ {.lockInputs})
      (if status = 0 then [.act (.setActive i), .act (.readFrames i r)] else readExit i false)
    split
    · refine (Discipline.obeys_act rfl).mpr ⟨trivial, (Discipline.obeys_last rfl).mpr ⟨hin', rfl⟩⟩
    · exact obeys_readExit hin'
  | readFrames i r =>
    obtain ⟨hin, rfl⟩ := hlast rfl
    rw [List.append_nil]
    simp only [act] at hact
    split at hact <;> obtain ⟨_, rfl⟩ := Prod.mk.inj (Option.some.inj hact) <;>
      exact obeys_readExit hin
  | inStandbyL i =>
    obtain ⟨hinputs, hrest⟩ := hnext rfl
    obtain ⟨_, rfl⟩ := Prod.mk.inj (Option.some.inj hact)
    split
    · exact hrest
    · intro hadev
      exact (Discipline.obeys_act rfl).mpr ⟨.inr hinputs, hrest.release_acquired hadev⟩
  | inSetParameters _ _ _ | addAudioEffect _ _ _ | removeAudioEffect _ _ =>
    obtain ⟨_, hrest⟩ := hnext rfl
    obtain ⟨h', _, hpair⟩ := Option.map_eq_some_iff.mp hact
    obtain ⟨_, rfl⟩ := Prod.mk.inj hpair
    exact hrest
  | syncEcho _ | doOutStandby _ | doInStandby _ | setActive _ | freeInput _ _ | leave _ =>
    obtain ⟨_, hrest⟩ := hnext rfl
    obtain ⟨_, rfl⟩ := Prod.mk.inj (Option.some.inj hact)
    exact hrest

/-! ## 2. The code after a choice -/

omit [DecidableEq T]

theorem hasChosen_append {code : Code} :
    hasChosen (code ++ rest) = (hasChosen code || hasChosen rest) := by
  induction code with
  | nil => rfl
  | cons x code ih =>
    cases x with
    | act a =>
      show ((chosen a).isSome || hasChosen (code ++ rest)) = _
      rw [ih, ← Bool.or_assoc]
      rfl
    | acquire m => exact ih
    | release m => exact ih

theorem hasChosen_of_mem {code : Code} (ha : .act a ∈ code) (hi : chosen a = some i) :
    hasChosen code = true := by
  induction code with
  | nil => cases ha
  | cons x code ih =>
    rcases List.mem_cons.mp ha with rfl | hmem
    · show ((chosen a).isSome || hasChosen code) = true
      rw [hi]
      rfl
    · cases x with
      | act b =>
        show ((chosen b).isSome || hasChosen code) = true
        rw [ih hmem, Bool.or_true]
      | acquire m => exact ih hmem
      | release m => exact ih hmem

theorem clean_cons {x : Instr HalMutex HalAct} : clean (x :: rest) = true ↔
    (breaks x = true → hasChosen rest = false) ∧ clean rest = true := by
  show ((!breaks x || !hasChosen rest) && clean rest) = true ↔ _
  rw [Bool.and_eq_true, Bool.or_eq_true, Bool.not_eq_true', Bool.not_eq_true']
  cases breaks x
  · exact and_congr_left fun _ => iff_of_true (.inl rfl) nofun
  · exact and_congr_left fun _ => ⟨fun h _ => h.resolve_left nofun, fun h => .inr (h rfl)⟩

/-- Code is put before other code that has nothing chosen, or takes nothing that breaks a choice. -/
theorem clean_append {code : Code} (hcode : clean code = true) (hrest : clean rest = true)
    (h : hasChosen rest = false ∨ ∀ x ∈ code, breaks x = false) : clean (code ++ rest) = true := by
  -- on the code in front: what breaks a choice there is not followed by one
  induction code with
  | nil => exact hrest
  | cons x code ih =>
    obtain ⟨hbreaks, hclean⟩ := clean_cons.mp hcode
    refine clean_cons.mpr ⟨fun hx => ?_, ih hclean (h.imp_right fun hall y hy =>
      hall y (List.mem_cons_of_mem x hy))⟩
    show hasChosen (code ++ rest) = false
    rw [hasChosen_append, hbreaks hx, Bool.false_or]
    refine h.resolve_right fun hall => ?_
    cases (hall x List.mem_cons_self).symm.trans hx

theorem clean_outWriteExit {input : Option InId} {fails : Bool} :
    clean (outWriteExit o input fails) = true := by
  cases input <;> cases fails <;> rfl

theorem clean_readExit {successful : Bool} : clean (readExit i successful) = true := by
  cases successful <;> rfl

theorem clean_more [DecidableEq T] (hobeys : discipline.Obeys t H (.act a :: rest))
    (h : clean (.act a :: rest) = true) (hact : act t a s = some (s', more)) :
    clean (more ++ rest) = true := by
  obtain ⟨hbreaks, hrest⟩ := clean_cons.mp h
  have hlast (w : (discipline (T := T)).last a = true) (hmore : clean more = true) :
      clean (more ++ rest) = true := by
    obtain ⟨_, rfl⟩ := (Discipline.obeys_last w).mp hobeys
    rw [List.append_nil]
    exact hmore
  -- the code of a last action is all there is; before other code only standbys are put
  cases a with
  | testOut o w =>
    refine hlast rfl ?_
    obtain ⟨_, rfl⟩ := Prod.mk.inj (Option.some.inj hact)
    split <;> rfl
  | retestOut o w =>
    refine hlast rfl ?_
    obtain ⟨_, rfl⟩ := Prod.mk.inj (Option.some.inj hact)
    split <;> rfl
  | startOutputStream o w =>
    refine hlast rfl ?_
    obtain ⟨⟨ok, h'⟩, _, hpair⟩ := Option.map_eq_some_iff.mp hact
    dsimp only at hpair
    split at hpair
    · obtain ⟨_, rfl⟩ := Prod.mk.inj hpair
      split
      · rename_i hnone
        rw [hnone]
        rfl
      · rfl
    · obtain ⟨_, rfl⟩ := Prod.mk.inj hpair
      rfl
  | outWriteData o w input =>
    refine hlast rfl ?_
    obtain ⟨_, rfl⟩ := Prod.mk.inj (Option.some.inj hact)
    split
    · rfl
    · split <;> rfl
  | pcmWrite o w input =>
    refine hlast rfl ?_
    obtain ⟨_, rfl⟩ := Prod.mk.inj (Option.some.inj hact)
    exact clean_outWriteExit
  | outWriteOffload o w =>
    refine hlast rfl ?_
    obtain ⟨_, rfl⟩ := Prod.mk.inj (Option.some.inj hact)
    split <;> rfl
  | enableOutputPath o w =>
    refine hlast rfl ?_
    obtain ⟨⟨ok, h'⟩, _, hpair⟩ := Option.map_eq_some_iff.mp hact
    obtain ⟨_, rfl⟩ := Prod.mk.inj hpair
    cases ok <;> rfl
  | writeCompress o w =>
    refine hlast rfl ?_
    obtain ⟨h', _, hpair⟩ := Option.map_eq_some_iff.mp hact
    obtain ⟨_, rfl⟩ := Prod.mk.inj hpair
    rfl
  | outSetRouting o val allocated =>
    refine hlast rfl ?_
    obtain ⟨h', _, hpair⟩ := Option.map_eq_some_iff.mp hact
    obtain ⟨_, rfl⟩ := Prod.mk.inj hpair
    split <;> rfl
  | testIn i r =>
    refine hlast rfl ?_
    obtain ⟨_, rfl⟩ := Prod.mk.inj (Option.some.inj hact)
    split <;> rfl
  | retestIn i r =>
    refine hlast rfl ?_
    obtain ⟨_, rfl⟩ := Prod.mk.inj (Option.some.inj hact)
    split <;> rfl
  | startInputStream i r =>
    refine hlast rfl ?_
    obtain ⟨⟨status, h'⟩, _, hpair⟩ := Option.map_eq_some_iff.mp hact
    obtain ⟨_, rfl⟩ := Prod.mk.inj hpair
    split <;> rfl
  | readFrames i r =>
    refine hlast rfl ?_
    simp only [act] at hact
    split at hact <;> obtain ⟨_, rfl⟩ := Prod.mk.inj (Option.some.inj hact) <;>
      exact clean_readExit
  | outStandby o =>
    obtain ⟨_, rfl⟩ := Prod.mk.inj (Option.some.inj hact)
    split
    · exact hrest
    -- the standby of the output is between the choice and the input's, and breaks nothing
    · refine clean_append rfl hrest (.inr fun x hx => ?_)
      rcases List.mem_cons.mp hx with rfl | hx
      · rfl
      rcases List.mem_cons.mp hx with rfl | hx
      · rfl
      · rw [List.mem_singleton.mp hx]
        rfl
  | inStandbyL i =>
    obtain ⟨_, rfl⟩ := Prod.mk.inj (Option.some.inj hact)
    split
    · exact hrest
    -- the standby of an input is never put before a chosen one
    · exact clean_append rfl hrest (.inl (hbreaks rfl))
  | assertActive i =>
    simp only [act] at hact
    split at hact <;> cases hact
    exact hrest
  | inSetParameters _ _ _ | addAudioEffect _ _ _ | removeAudioEffect _ _ =>
    obtain ⟨h', _, hpair⟩ := Option.map_eq_some_iff.mp hact
    obtain ⟨_, rfl⟩ := Prod.mk.inj hpair
    exact hrest
  | syncEcho _ | doOutStandby _ | doInStandby _ | setActive _ | freeInput _ _ | leave _ =>
    obtain ⟨_, rfl⟩ := Prod.mk.inj (Option.some.inj hact)
    exact hrest

/-- The actions that choose an input. -/
def chooses : HalAct → Bool
  | .startOutputStream _ _ | .outSetRouting _ _ _ => true
  | _ => false

/-- An action that neither frees a stream, nor may start one, nor has chosen one. -/
def tame : HalAct → Bool
  | .outWriteData _ _ input | .pcmWrite _ _ input => input.isNone
  | .assertActive _ | .testIn _ _ | .retestIn _ _ | .startInputStream _ _ | .freeInput _ _ => false
  | _ => true

/-- What may come after an action: no stream is freed, and those that are started or chosen are the
action's own or the active one. -/
structure Follows (a : HalAct) (s' : SharedDevice T) (b : HalAct) : Prop where
  free : ∀ i freed, b ≠ .freeInput i freed
  starts : ∀ i, starts b = some i → starts a = some i
  chosen : ∀ i, chosen b = some i →
    chosen a = some i ∨ chooses a = true ∧ s'.dev.hal.activeInput = some i

theorem starts_of_tame {b : HalAct} (h : tame b = true) : starts b = none := by
  cases b with
  | testIn i r => cases h
  | retestIn i r => cases h
  | startInputStream i r => cases h
  | _ => rfl

theorem chosen_of_tame {b : HalAct} (h : tame b = true) : chosen b = none := by
  cases b with
  | outWriteData o w input => exact Option.isNone_iff_eq_none.mp h
  | pcmWrite o w input => exact Option.isNone_iff_eq_none.mp h
  | assertActive i => cases h
  | _ => rfl

theorem follows_of_tame {b : HalAct} (h : tame b = true) : Follows a s' b := by
  refine ⟨?_, ?_, ?_⟩
  · rintro i freed rfl
    cases h
  · intro i hi
    cases (starts_of_tame h).symm.trans hi
  · intro i hi
    cases (chosen_of_tame h).symm.trans hi

/-- All actions of the code are. -/
def Tame (code : Code) : Prop := ∀ b, .act b ∈ code → tame b = true

theorem tame_append {code : Code} (h : Tame code) (h' : Tame rest) : Tame (code ++ rest) := by
  intro b hb
  rcases List.mem_append.mp hb with hb | hb
  · exact h b hb
  · exact h' b hb

theorem tame_nil : Tame [] := by
  intro b hb
  cases hb

theorem tame_acquire {m : HalMutex} (h : Tame rest) : Tame (.acquire m :: rest) := by
  intro b hb
  rcases List.mem_cons.mp hb with hb | hb
  · cases hb
  · exact h b hb

theorem tame_release {m : HalMutex} (h : Tame rest) : Tame (.release m :: rest) := by
  intro b hb
  rcases List.mem_cons.mp hb with hb | hb
  · cases hb
  · exact h b hb

theorem tame_act (ha : tame a = true) (h : Tame rest) : Tame (.act a :: rest) := by
  intro b hb
  rcases List.mem_cons.mp hb with hb | hb
  · cases hb
    exact ha
  · exact h b hb

theorem tame_lockInputStream : Tame (lockInputStream i) :=
  tame_acquire (tame_acquire (tame_release tame_nil))

theorem tame_lockOutputStream : Tame (lockOutputStream o) :=
  tame_acquire (tame_acquire (tame_release tame_nil))

theorem tame_standbyOut : Tame (standbyOut o) :=
  tame_append tame_lockOutputStream (tame_act rfl (tame_release tame_nil))

theorem tame_standbyInL : Tame (standbyInL i) :=
  tame_append tame_lockInputStream (tame_act rfl (tame_release tame_nil))

theorem tame_standbyIn : Tame (standbyIn i) :=
  tame_acquire (tame_append tame_standbyInL (tame_release tame_nil))

theorem tame_readExit {successful : Bool} : Tame (readExit i successful) := by
  refine tame_release (tame_append ?_ (tame_act rfl tame_nil))
  cases successful
  · exact tame_standbyIn
  · exact tame_nil

/-- The input an output call puts to standby is the one it has chosen. -/
theorem follows_forceStandby (hchosen : chosen a = some i ∨
    chooses a = true ∧ s'.dev.hal.activeInput = some i) {b : HalAct}
    (hb : .act b ∈ forceStandby i) : Follows a s' b := by
  rcases List.mem_append.mp hb with hb | hb
  · exact follows_of_tame (tame_lockInputStream b hb)
  rcases List.mem_cons.mp hb with hb | hb
  · cases hb
  rcases List.mem_cons.mp hb with hb | hb
  · cases hb
    refine ⟨fun _ _ h => (by cases h), fun _ h => (by cases h), fun j hj => ?_⟩
    obtain rfl := Option.some.inj hj
    exact hchosen
  · exact follows_of_tame (tame_act rfl (tame_release (tame_release tame_nil)) b hb)

theorem follows_outWriteExit {input : Option InId} {fails : Bool}
    (hchosen : ∀ i, input = some i → chosen a = some i) {b : HalAct}
    (hb : .act b ∈ outWriteExit o input fails) : Follows a s' b := by
  rcases List.mem_append.mp hb with hb | hb
  · refine follows_of_tame (tame_append (tame_release tame_nil) ?_ b hb)
    cases fails
    · exact tame_nil
    · exact tame_standbyOut
  · cases input with
    | none => cases hb
    | some i =>
      rcases List.mem_append.mp hb with hb | hb
      · exact follows_forceStandby (.inl (hchosen i rfl)) hb
      · exact follows_of_tame (tame_release tame_nil b hb)

/-- An action with the input that is chosen follows the action that had it, or chose it. -/
theorem follows_chosen {b : HalAct} {input : Option InId} (hfree : ∀ i freed, b ≠ .freeInput i freed)
    (hstarts : starts b = none) (hb : chosen b = input) (hinput : ∀ i, input = some i →
      chosen a = some i ∨ chooses a = true ∧ s'.dev.hal.activeInput = some i) : Follows a s' b := by
  refine ⟨hfree, fun i hi => ?_, fun i hi => hinput i (hb.symm.trans hi)⟩
  cases hstarts.symm.trans hi

theorem chooseInput_some {h : Hal} (hi : chooseInput h = some i) : h.activeInput = some i :=
  (Option.filter_eq_some_iff.mp hi).1

theorem follows_more [DecidableEq T] (hact : act t a s = some (s', more)) {b : HalAct}
    (hb : .act b ∈ more) : Follows a s' b := by
  cases a with
  | testOut o w =>
    obtain ⟨_, rfl⟩ := Prod.mk.inj (Option.some.inj hact)
    refine follows_of_tame ?_
    split at hb
    · exact tame_release (tame_acquire (tame_append tame_lockOutputStream (tame_act rfl tame_nil))) b hb
    · exact tame_act rfl tame_nil b hb
  | retestOut o w =>
    obtain ⟨_, rfl⟩ := Prod.mk.inj (Option.some.inj hact)
    refine follows_of_tame ?_
    split at hb
    · exact tame_acquire (tame_act rfl tame_nil) b hb
    · exact tame_release (tame_act rfl tame_nil) b hb
  | startOutputStream o w =>
    obtain ⟨⟨ok, h'⟩, _, hpair⟩ := Option.map_eq_some_iff.mp hact
    dsimp only at hpair
    split at hpair
    · obtain ⟨rfl, rfl⟩ := Prod.mk.inj hpair
      rcases List.mem_append.mp hb with hb | hb
      · refine follows_of_tame (tame_append (tame_release tame_nil) ?_ b hb)
        split
        · exact tame_release tame_nil
        · exact tame_nil
      · cases List.mem_singleton.mp hb
        -- the choice is the active input
        exact follows_chosen (fun _ _ h => by cases h) rfl rfl fun i hi => .inr ⟨rfl, chooseInput_some hi⟩
    · obtain ⟨rfl, rfl⟩ := Prod.mk.inj hpair
      rcases List.mem_append.mp hb with hb | hb
      · exact follows_of_tame (tame_release (tame_release tame_nil) b hb)
      · exact follows_outWriteExit (fun _ hi => by cases hi) hb
  | outWriteData o w input =>
    obtain ⟨_, rfl⟩ := Prod.mk.inj (Option.some.inj hact)
    split at hb
    · exact follows_of_tame (tame_act rfl tame_nil b hb)
    · rcases List.mem_append.mp hb with hb | hb
      · refine follows_of_tame ?_
        split at hb
        · exact tame_acquire (tame_act rfl (tame_release tame_nil)) b hb
        · cases hb
      · cases List.mem_singleton.mp hb
        exact follows_chosen (fun _ _ h => by cases h) rfl rfl fun i hi => .inl hi
  | pcmWrite o w input =>
    obtain ⟨_, rfl⟩ := Prod.mk.inj (Option.some.inj hact)
    exact follows_outWriteExit (fun i hi => hi) hb
  | outWriteOffload o w =>
    obtain ⟨_, rfl⟩ := Prod.mk.inj (Option.some.inj hact)
    refine follows_of_tame ?_
    split at hb
    · exact tame_acquire (tame_act rfl tame_nil) b hb
    · exact tame_act rfl tame_nil b hb
  | enableOutputPath o w =>
    obtain ⟨⟨ok, h'⟩, _, hpair⟩ := Option.map_eq_some_iff.mp hact
    obtain ⟨_, rfl⟩ := Prod.mk.inj hpair
    refine follows_of_tame (tame_release ?_ b hb)
    change Tame (if ok then [.act (.writeCompress o w)] else [])
    split
    · exact tame_act rfl tame_nil
    · exact tame_nil
  | writeCompress o w =>
    obtain ⟨h', _, hpair⟩ := Option.map_eq_some_iff.mp hact
    obtain ⟨_, rfl⟩ := Prod.mk.inj hpair
    exact follows_of_tame (tame_release tame_nil b hb)
  | outStandby o =>
    obtain ⟨_, rfl⟩ := Prod.mk.inj (Option.some.inj hact)
    refine follows_of_tame ?_
    split at hb
    · cases hb
    · exact tame_acquire (tame_act rfl (tame_release tame_nil)) b hb
  | outSetRouting o val allocated =>
    obtain ⟨h', hset, hpair⟩ := Option.map_eq_some_iff.mp hact
    obtain ⟨rfl, rfl⟩ := Prod.mk.inj hpair
    rcases List.mem_append.mp hb with hb | hb
    · rcases List.mem_append.mp hb with hb | hb
      · exact follows_of_tame (tame_release (tame_release tame_nil) b hb)
      · split at hb
        · rename_i i hinput
          -- the input is chosen before the routing, which leaves it active
          refine follows_forceStandby (.inr ⟨rfl, ?_⟩) hb
          split at hinput
          · exact (Hal.outSetRouting_activeInput hset).trans (chooseInput_some hinput)
          · cases hinput
        · cases hb
    · exact follows_of_tame (tame_release tame_nil b hb)
  | assertActive i =>
    simp only [act] at hact
    split at hact <;> cases hact
    cases hb
  | testIn i r =>
    obtain ⟨_, rfl⟩ := Prod.mk.inj (Option.some.inj hact)
    split at hb
    · rcases List.mem_append.mp hb with hb | hb
      · exact follows_of_tame (tame_release (tame_acquire tame_lockInputStream) b hb)
      · cases List.mem_singleton.mp hb
        exact ⟨fun _ _ h => (by cases h), fun _ hi => hi, fun _ h => (by cases h)⟩
    · exact follows_of_tame (tame_act rfl tame_nil b hb)
  | retestIn i r =>
    obtain ⟨_, rfl⟩ := Prod.mk.inj (Option.some.inj hact)
    split at hb
    · rcases List.mem_cons.mp hb with hb | hb
      · cases hb
      · cases List.mem_singleton.mp hb
        exact ⟨fun _ _ h => (by cases h), fun _ hi => hi, fun _ h => (by cases h)⟩
    · exact follows_of_tame (tame_release (tame_act rfl tame_nil) b hb)
  | startInputStream i r =>
    obtain ⟨⟨status, h'⟩, _, hpair⟩ := Option.map_eq_some_iff.mp hact
    obtain ⟨_, rfl⟩ := Prod.mk.inj hpair
    refine follows_of_tame (tame_append (tame_release (tame_release tame_nil)) ?_ b hb)
    split
    · exact tame_act rfl (tame_act rfl tame_nil)
    · exact tame_readExit
  | readFrames i r =>
    simp only [act] at hact
    split at hact <;> obtain ⟨_, rfl⟩ := Prod.mk.inj (Option.some.inj hact) <;>
      exact follows_of_tame (tame_readExit b hb)
  | inStandbyL i =>
    obtain ⟨_, rfl⟩ := Prod.mk.inj (Option.some.inj hact)
    refine follows_of_tame ?_
    split at hb
    · cases hb
    · exact tame_acquire (tame_act rfl (tame_release tame_nil)) b hb
  | inSetParameters _ _ _ | addAudioEffect _ _ _ | removeAudioEffect _ _ =>
    obtain ⟨h', _, hpair⟩ := Option.map_eq_some_iff.mp hact
    obtain ⟨_, rfl⟩ := Prod.mk.inj hpair
    cases hb
  | syncEcho _ | doOutStandby _ | doInStandby _ | setActive _ | freeInput _ _ | leave _ =>
    obtain ⟨_, rfl⟩ := Prod.mk.inj (Option.some.inj hact)
    cases hb

/-! ## 3. What the actions do to the device -/

theorem act_activeInput [DecidableEq T] (ha : writesActive a = false)
    (hact : act t a s = some (s', more)) : s'.dev.hal.activeInput = s.dev.hal.activeInput := by
  cases a with
  | doInStandby i => cases ha
  | startInputStream i r => cases ha
  | inSetParameters i source routing => cases ha
  | addAudioEffect i aec auxChanged => cases ha
  | removeAudioEffect i aec => cases ha
  | startOutputStream o w =>
    obtain ⟨⟨ok, h'⟩, hstart, hpair⟩ := Option.map_eq_some_iff.mp hact
    have hkept := Hal.startOutputStream_activeInput hstart
    dsimp only at hpair
    split at hpair <;> obtain ⟨rfl, _⟩ := Prod.mk.inj hpair <;> exact hkept
  | enableOutputPath o w =>
    obtain ⟨⟨ok, h'⟩, hen, hpair⟩ := Option.map_eq_some_iff.mp hact
    obtain ⟨rfl, _⟩ := Prod.mk.inj hpair
    exact Hal.enableOutputPath_activeInput hen
  | writeCompress o w =>
    obtain ⟨h', hwrite, hpair⟩ := Option.map_eq_some_iff.mp hact
    obtain ⟨rfl, _⟩ := Prod.mk.inj hpair
    exact Hal.writeCompress_activeInput hwrite
  | outSetRouting o val allocated =>
    obtain ⟨h', hset, hpair⟩ := Option.map_eq_some_iff.mp hact
    obtain ⟨rfl, _⟩ := Prod.mk.inj hpair
    exact Hal.outSetRouting_activeInput hset
  | syncEcho o =>
    obtain ⟨rfl, _⟩ := Prod.mk.inj (Option.some.inj hact)
    exact Hal.releaseEchoReference_activeInput _ _
  | pcmWrite o w input =>
    obtain ⟨rfl, _⟩ := Prod.mk.inj (Option.some.inj hact)
    exact Hal.foldl_writeEcho_activeInput _ _ o
  | doOutStandby o =>
    obtain ⟨rfl, _⟩ := Prod.mk.inj (Option.some.inj hact)
    exact Hal.doOutStandby_activeInput _ o
  | assertActive i =>
    simp only [act] at hact
    split at hact <;> cases hact
    rfl
  | readFrames i r =>
    simp only [act] at hact
    split at hact <;> obtain ⟨rfl, _⟩ := Prod.mk.inj (Option.some.inj hact)
    · rfl
    · exact Hal.useEchoReference_activeInput _ _
  | testOut _ _ | retestOut _ _ | outWriteData _ _ _ | outWriteOffload _ _ | outStandby _
  | testIn _ _ | retestIn _ _ | setActive _ | inStandbyL _ | freeInput _ _ | leave _ =>
    obtain ⟨rfl, _⟩ := Prod.mk.inj (Option.some.inj hact)
    rfl

/-- The active input afterwards is the same one, none, or the one that is started. -/
theorem act_activeInput_cases [DecidableEq T] (hact : act t a s = some (s', more)) :
    s'.dev.hal.activeInput = s.dev.hal.activeInput ∨ s'.dev.hal.activeInput = none ∨
      ∃ i r, a = .startInputStream i r ∧ s'.dev.hal.activeInput = some i := by
  have hdrops {h : Hal} (hd : s.dev.hal.Drops h) (hs : s'.dev.hal = h) :
      s'.dev.hal.activeInput = s.dev.hal.activeInput ∨ s'.dev.hal.activeInput = none ∨
        ∃ i r, a = .startInputStream i r ∧ s'.dev.hal.activeInput = some i := by
    rw [hs]
    exact hd.activeInput.imp_right .inl
  by_cases ha : writesActive a = false
  · exact .inl (act_activeInput ha hact)
  cases a with
  | doInStandby i =>
    obtain ⟨rfl, _⟩ := Prod.mk.inj (Option.some.inj hact)
    exact hdrops (Hal.drops_doInStandby _ i) rfl
  | startInputStream i r =>
    obtain ⟨⟨status, h'⟩, hstart, hpair⟩ := Option.map_eq_some_iff.mp hact
    obtain ⟨rfl, _⟩ := Prod.mk.inj hpair
    rcases Hal.startInputStream_activeInput hstart with hsome | hnone
    · exact .inr (.inr ⟨i, r, rfl, hsome⟩)
    · exact .inr (.inl hnone)
  | inSetParameters i source routing =>
    obtain ⟨h', hset, hpair⟩ := Option.map_eq_some_iff.mp hact
    obtain ⟨rfl, _⟩ := Prod.mk.inj hpair
    exact hdrops (Hal.drops_inSetParameters hset) rfl
  | addAudioEffect i aec auxChanged =>
    obtain ⟨h', hadd, hpair⟩ := Option.map_eq_some_iff.mp hact
    obtain ⟨rfl, _⟩ := Prod.mk.inj hpair
    exact hdrops (Hal.drops_addAudioEffect hadd) rfl
  | removeAudioEffect i aec =>
    obtain ⟨h', hremove, hpair⟩ := Option.map_eq_some_iff.mp hact
    obtain ⟨rfl, _⟩ := Prod.mk.inj hpair
    exact hdrops (Hal.drops_removeAudioEffect hremove) rfl
  | _ => exact absurd rfl ha

/-- Only a call's return and a stream's end change what the framework and the allocator know. -/
theorem act_streams [DecidableEq T] (hfree : ∀ i freed, a ≠ .freeInput i freed)
    (hleave : ∀ i, a ≠ .leave i) (hact : act t a s = some (s', more)) :
    s'.dev.inOpen = s.dev.inOpen ∧ s'.known = s.known ∧ s'.callers = s.callers := by
  cases a with
  | freeInput i freed => exact absurd rfl (hfree i freed)
  | leave i => exact absurd rfl (hleave i)
  | startOutputStream o w =>
    obtain ⟨⟨ok, h'⟩, _, hpair⟩ := Option.map_eq_some_iff.mp hact
    dsimp only at hpair
    split at hpair <;> obtain ⟨rfl, _⟩ := Prod.mk.inj hpair <;> exact ⟨rfl, rfl, rfl⟩
  | enableOutputPath _ _ | writeCompress _ _ | outSetRouting _ _ _ | startInputStream _ _
  | inSetParameters _ _ _ | addAudioEffect _ _ _ | removeAudioEffect _ _ =>
    obtain ⟨_, _, hpair⟩ := Option.map_eq_some_iff.mp hact
    obtain ⟨rfl, _⟩ := Prod.mk.inj hpair
    exact ⟨rfl, rfl, rfl⟩
  | assertActive i =>
    simp only [act] at hact
    split at hact <;> cases hact
    exact ⟨rfl, rfl, rfl⟩
  | readFrames i r =>
    simp only [act] at hact
    split at hact <;> obtain ⟨rfl, _⟩ := Prod.mk.inj (Option.some.inj hact) <;>
      exact ⟨rfl, rfl, rfl⟩
  | _ =>
    obtain ⟨rfl, _⟩ := Prod.mk.inj (Option.some.inj hact)
    exact ⟨rfl, rfl, rfl⟩

end SharedDevice

end Universal7870.Audio
