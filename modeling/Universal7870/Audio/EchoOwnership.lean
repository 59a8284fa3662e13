import Universal7870.Audio.EchoReference

/-!
# The echo reference over runs

Every operation of the HAL keeps the ownership invariant, but for two that take the device's object
away from it.  `EchoSafe` is what these need.
-/

namespace Universal7870.Audio

open Lib

namespace Hal

/-! ## 1. Views of the operations -/

theorem SameStreams.echoView {h h' : Hal} (hs : h.SameStreams h') : h'.echoView = h.echoView := by
  apply EchoView.ext
  · exact hs.echo
  · exact hs.primaryOutput
  · funext o
    obtain ⟨_, hdevs⟩ := hs.out o
    show (h'.outs o).echoOut = (h.outs o).echoOut
    rw [hdevs]
    rfl
  · funext i
    obtain ⟨_, hdevs⟩ := hs.input i
    show (h'.ins i).echoReference = (h.ins i).echoReference
    rw [hdevs]

theorem echoView_modifyOut (h : Hal) (o : OutId) (f : StreamOut → StreamOut) :
    (h.modifyOut o f).echoView = h.echoView.setOut o (f (h.outs o)).echoOut := by
  apply EchoView.ext
  · rfl
  · rfl
  · funext o'
    show (Function.update h.outs o (f (h.outs o)) o').echoOut =
      Function.update h.echoView.out o (f (h.outs o)).echoOut o'
    by_cases ho : o' = o
    · subst ho
      rw [Function.update_self, Function.update_self]
    · rw [Function.update_of_ne ho, Function.update_of_ne ho]
      rfl
  · rfl

theorem echoView_modifyIn (h : Hal) (i : InId) (f : StreamIn → StreamIn) :
    (h.modifyIn i f).echoView = h.echoView.setInput i (f (h.ins i)).echoReference := by
  apply EchoView.ext
  · rfl
  · rfl
  · rfl
  · funext i'
    show (Function.update h.ins i (f (h.ins i)) i').echoReference =
      Function.update h.echoView.input i (f (h.ins i)).echoReference i'
    by_cases hi : i' = i
    · subst hi
      rw [Function.update_self, Function.update_self]
    · rw [Function.update_of_ne hi, Function.update_of_ne hi]
      rfl

/-- The change of the stream is not in the view. -/
theorem echoView_modifyOut_of_eq {h : Hal} {o : OutId} {f : StreamOut → StreamOut}
    (hf : (f (h.outs o)).echoOut = (h.outs o).echoOut) : (h.modifyOut o f).echoView = h.echoView := by
  rw [echoView_modifyOut, hf]
  show { h.echoView with out := Function.update h.echoView.out o (h.echoView.out o) } = _
  rw [Function.update_eq_self]

theorem echoView_modifyIn_of_eq {h : Hal} {i : InId} {f : StreamIn → StreamIn}
    (hf : (f (h.ins i)).echoReference = (h.ins i).echoReference) :
    (h.modifyIn i f).echoView = h.echoView := by
  rw [echoView_modifyIn, hf]
  show { h.echoView with input := Function.update h.echoView.input i (h.echoView.input i) } = _
  rw [Function.update_eq_self]

theorem echoView_stopOutputStream (h : Hal) (o : OutId) :
    (h.stopOutputStream o).echoView = h.echoView := by
  have hstop : (h.stopOutputOffloadStream o).2.echoView = h.echoView := by
    unfold stopOutputOffloadStream
    split
    · exact echoView_modifyOut_of_eq rfl
    · rfl
  unfold stopOutputStream
  dsimp only
  split
  · rw [(sameStreams_disableOutputPath _ o).echoView, hstop]
  · exact hstop

theorem echoView_callCompress (h : Hal) (o : OutId) (call : CompressCall) (succeeds : Bool) :
    (h.callCompress o call succeeds).echoView = h.echoView := by
  unfold callCompress
  split
  · exact echoView_modifyOut_of_eq rfl
  · rfl

theorem echoView_stopCompressedOutput (h : Hal) (o : OutId) (succeeds : Bool) :
    (h.stopCompressedOutput o succeeds).echoView = h.echoView := by
  unfold stopCompressedOutput
  rw [echoView_callCompress, echoView_modifyOut_of_eq rfl]

/-! ## 2. Outputs -/

theorem owned_useEchoReference {h : Hal} {reference : Option EchoRef} (hown : h.echoView.Owned)
    (hlive : ∀ e, reference = some e → Live h.echo.log e) :
    (h.useEchoReference reference).echoView.Owned := by
  unfold useEchoReference
  split
  · exact hown.use (hlive _ rfl)
  · exact hown

@[simp] theorem modifyOut_self (h : Hal) (o : OutId) (f : StreamOut → StreamOut) :
    (h.modifyOut o f).outs o = f (h.outs o) := by
  show Function.update h.outs o (f (h.outs o)) o = f (h.outs o)
  rw [Function.update_self]

theorem echoView_dropOutEcho_current {h : Hal} {o : OutId} {e : EchoRef}
    (he : (h.outs o).echoReference = some e)
    (hgen : (h.outs o).echoReferenceGeneration = h.echo.generation) :
    (h.dropOutEcho o).echoView = (h.echoView.logged (.used e)).setOut o
      { (h.outs o).echoOut with reference := none } := by
  have hlogged : ¬((h.logEcho (.used e)).outs o).echoReferenceGeneration ≠
      (h.logEcho (.used e)).echo.generation := not_not.mpr hgen
  unfold dropOutEcho
  simp only [he]
  rw [if_neg hlogged, echoView_modifyOut]
  rfl

theorem echoView_dropOutEcho_stale {h : Hal} {o : OutId} {e : EchoRef}
    (he : (h.outs o).echoReference = some e)
    (hgen : (h.outs o).echoReferenceGeneration ≠ h.echo.generation) :
    (h.dropOutEcho o).echoView =
      ((h.echoView.logged (.used e)).logged (.released e)).setOut o
        { (h.outs o).echoOut with reference := none, generation := h.echo.generation } := by
  have hlogged : ((h.logEcho (.used e)).outs o).echoReferenceGeneration ≠
      (h.logEcho (.used e)).echo.generation := hgen
  unfold dropOutEcho
  simp only [he]
  rw [if_pos hlogged, echoView_modifyOut, echoView_modifyOut, EchoView.setOut_setOut, modifyOut_self]
  rfl

/-- `do_out_standby_l` lets go of the object after it put the output to standby. -/
theorem owned_dropOutEcho {h h' : Hal} {o : OutId} (hown : h.echoView.Owned)
    (hview : h'.echoView = h.echoView.setOut o (h.echoView.out o).inStandby) :
    (h'.dropOutEcho o).echoView.Owned := by
  have hecho : h'.echo = h.echo := congrArg EchoView.device hview
  have hout : (h'.outs o).echoOut = (h.echoView.out o).inStandby := by
    show h'.echoView.out o = _
    rw [hview, EchoView.setOut_out_self]
  have href : (h'.outs o).echoReference = (h.echoView.out o).reference :=
    congrArg EchoOut.reference hout
  have hgen : (h'.outs o).echoReferenceGeneration = (h.echoView.out o).generation :=
    congrArg EchoOut.generation hout
  cases hcase : (h.echoView.out o).reference with
  | none =>
    have hnone : (h'.outs o).echoReference = none := href.trans hcase
    unfold dropOutEcho
    simp only [hnone]
    rw [hview]
    apply EchoView.Owned.letGo (x := (h.echoView.out o).inStandby) hown hcase rfl
    · intro e he
      rw [hcase] at he
      cases he
    · exact fun _ => nofun
  | some e =>
    have he : (h'.outs o).echoReference = some e := href.trans hcase
    have hused : (h.echoView.logged (.used e)).Owned := hown.use (hown.outLive o e hcase)
    by_cases hsame : (h'.outs o).echoReferenceGeneration = h'.echo.generation
    · have hdev : h.echoView.device.reference = some e := by
        rw [hgen, hecho] at hsame
        exact (hown.outCurrent o e hcase).mp hsame
      rw [echoView_dropOutEcho_current he hsame, hview, hout]
      show (((h.echoView.logged (.used e)).setOut o _).setOut o _).Owned
      rw [EchoView.setOut_setOut]
      apply hused.letGo
      · rfl
      · rfl
      · intro e' he'
        obtain rfl : e = e' := Option.some.inj (hcase.symm.trans he')
        exact hdev
      · exact fun _ => nofun
    · have hstale : h.echoView.device.reference ≠ some e := by
        intro hdev
        apply hsame
        rw [hgen, hecho]
        exact (hown.outCurrent o e hcase).mpr hdev
      rw [echoView_dropOutEcho_stale he hsame, hview, hout]
      show ((((h.echoView.logged (.used e)).logged (.released e)).setOut o _).setOut o _).Owned
      rw [EchoView.setOut_setOut]
      apply hused.letGo_released hcase hstale
      · rfl
      · rfl
      · exact fun _ => nofun

theorem owned_doOutStandby {h : Hal} (hown : h.echoView.Owned) (o : OutId) :
    (h.doOutStandby o).echoView.Owned := by
  unfold doOutStandby
  dsimp only
  rw [echoView_stopOutputStream]
  have hasleep : (h.modifyOut o ({ · with standby := true })).echoView =
      h.echoView.setOut o (h.echoView.out o).inStandby := echoView_modifyOut h o _
  split
  · apply owned_dropOutEcho hown
    rw [← hasleep]
    exact echoView_modifyOut_of_eq rfl
  · rename_i hoff
    rw [modifyOut_self, not_not] at hoff
    rw [echoView_modifyOut_of_eq rfl, echoView_stopCompressedOutput, hasleep]
    have hnone := hown.offload o hoff
    apply EchoView.Owned.letGo (x := (h.echoView.out o).inStandby) hown hnone rfl
    · intro e he
      rw [hnone] at he
      cases he
    · intro _ heq
      cases heq

theorem owned_releaseEchoReference {h : Hal} {o : OutId} (hown : h.echoView.Owned)
    (hgen : h.echo.generation ≠ (h.outs o).echoReferenceGeneration) :
    ((h.releaseEchoReference (h.outs o).echoReference).echoView.setOut o
      { (h.outs o).echoOut with reference := none }).Owned := by
  unfold releaseEchoReference
  split
  · rename_i e he
    have hstale : h.echoView.device.reference ≠ some e := fun hdev =>
      hgen ((hown.outCurrent o e he).mpr hdev).symm
    apply hown.letGo_released he hstale
    · rfl
    · rfl
    · exact fun _ _ hsame => hgen hsame.symm
  · rename_i hnone
    have hnone' : (h.echoView.out o).reference = none := hnone
    apply hown.letGo
    · rfl
    · rfl
    · intro e he
      rw [hnone'] at he
      cases he
    · exact fun _ _ hsame => hgen hsame.symm

theorem owned_outSyncEcho {h h' : Hal} {o : OutId} (hown : h.echoView.Owned)
    (hstep : h.outSyncEcho o = some h') : h'.echoView.Owned := by
  unfold outSyncEcho at hstep
  split at hstep
  · cases hstep
  rename_i hpcm
  rw [not_or, Bool.not_eq_true] at hpcm
  split at hstep
  · obtain rfl := Option.some.inj hstep
    exact hown
  rename_i hgen
  obtain rfl := Option.some.inj hstep
  have hlet := owned_releaseEchoReference hown hgen
  -- the release writes the log only
  have hsame : (h.releaseEchoReference (h.outs o).echoReference).outs o = h.outs o := by
    unfold releaseEchoReference
    split <;> rfl
  have hpick := hlet.pickUp (o := o) (x := ⟨(h.outs o).usecase, false, _, _⟩)
    (by rw [EchoView.setOut_out_self]) (by rw [EchoView.setOut_out_self]; exact hpcm.2)
    (by rw [EchoView.setOut_out_self]; rfl)
  rw [EchoView.setOut_setOut] at hpick
  unfold pickUpEcho
  rw [echoView_modifyOut, hsame]
  rw [← hpcm.1] at hpick
  exact hpick

theorem echoView_closeAndStop (h : Hal) (o : OutId) :
    ((h.outClosePcmDevices o).stopOutputStream o).echoView = h.echoView := by
  rw [echoView_stopOutputStream]
  exact echoView_modifyOut_of_eq rfl

/-- An output that could not be opened is as before, one that was opened leaves standby. -/
theorem owned_openOutput {h : Hal} {o : OutId} (hown : h.echoView.Owned) (ready : Bool)
    (hasleep : (h.outs o).standby = true) :
    (h.openOutput o ready).1 = false ∧ (h.openOutput o ready).2.echoView = h.echoView ∨
      (h.openOutput o ready).1 = true ∧
        ((h.openOutput o ready).2.modifyOut o ({ · with standby := false })).echoView.Owned := by
  have hnone : (h.echoView.out o).reference = none := hown.standby o hasleep
  have hcompr (compr : Option Compress) :
      (h.modifyOut o ({ · with compr := compr })).echoView = h.echoView :=
    echoView_modifyOut_of_eq rfl
  unfold openOutput
  split
  · rename_i hpcm
    dsimp only
    split
    · exact .inl ⟨rfl, (echoView_closeAndStop _ o).trans (hcompr none)⟩
    · refine .inr ⟨rfl, ?_⟩
      have hopen : ((h.modifyOut o ({ · with compr := none })).outOpenPcmDevices o).echoView =
          h.echoView := (echoView_modifyOut_of_eq rfl).trans (hcompr none)
      unfold pickUpEcho
      rw [echoView_modifyOut, echoView_modifyOut, EchoView.setOut_setOut, hopen]
      apply hown.pickUp hnone hpcm
      simp only [outOpenPcmDevices, modifyOut_self]
      rfl
  · rename_i hoff
    rw [not_not] at hoff
    split
    · exact .inl ⟨rfl, (echoView_stopOutputStream _ o).trans (hcompr none)⟩
    · refine .inr ⟨rfl, ?_⟩
      dsimp only
      rw [echoView_modifyOut, hcompr, modifyOut_self]
      apply hown.letGo
      · exact hnone
      · rfl
      · intro e he
        rw [hnone] at he
        cases he
      · intro hplay
        cases hoff.symm.trans hplay

theorem owned_outStart {h h' : Hal} {o : OutId} {alloc : PathAlloc} {ready : Bool}
    (hown : h.echoView.Owned) (hstep : h.outStart o alloc ready = some h') :
    h'.echoView.Owned := by
  unfold outStart at hstep
  split at hstep
  · rename_i hasleep
    obtain ⟨⟨started, h₁⟩, hstart, hstep⟩ := Option.map_eq_some_iff.mp hstep
    obtain ⟨⟨enabled, h₀⟩, hen, hopen⟩ := Option.map_eq_some_iff.mp hstart
    have hsame := sameStreams_enableOutputPath hen
    have hown₀ : h₀.echoView.Owned := by rwa [hsame.echoView]
    have hasleep₀ : (h₀.outs o).standby = true := by
      obtain ⟨_, hdevs⟩ := hsame.out o
      rw [hdevs]
      exact hasleep
    dsimp only at hstep hopen
    subst hstep
    split at hopen
    · have hopened := owned_openOutput hown₀ ready hasleep₀
      rw [hopen] at hopened
      rcases hopened with ⟨hfail, hview⟩ | ⟨hok, hwoken⟩
      · dsimp only at hfail hview
        rw [hfail, if_neg Bool.false_ne_true, hview]
        exact hown₀
      · dsimp only at hok hwoken
        rw [hok, if_pos rfl]
        exact hwoken
    · obtain ⟨rfl, rfl⟩ := Prod.mk.inj hopen
      exact hown₀
  · cases hstep

theorem owned_writeEcho {h : Hal} (hown : h.echoView.Owned) (o : OutId) (d : PcmDevice) :
    (h.writeEcho o d).echoView.Owned := by
  unfold writeEcho
  split
  · exact owned_useEchoReference hown fun e he => hown.outLive o e he
  · exact hown

theorem owned_writeEchos {h : Hal} (hown : h.echoView.Owned) (o : OutId) (devs : List PcmDevice) :
    (devs.foldl (·.writeEcho o ·) h).echoView.Owned := by
  induction devs generalizing h with
  | nil => exact hown
  | cons d devs ih => exact ih (owned_writeEcho hown o d)

theorem owned_outWritePcm {h h' : Hal} {o : OutId} (hown : h.echoView.Owned)
    (hstep : h.outWritePcm o = some h') : h'.echoView.Owned := by
  unfold outWritePcm at hstep
  split at hstep
  · cases hstep
  · obtain rfl := Option.some.inj hstep
    exact owned_writeEchos hown o _

theorem owned_rerouteOut {h h' : Hal} {o : OutId} {val : AudioDevices} (hown : h.echoView.Owned)
    (hroute : h.rerouteOut o val = some h') : h'.echoView.Owned := by
  unfold rerouteOut at hroute
  split at hroute
  · obtain rfl := Option.some.inj hroute
    exact hown
  split at hroute
  · obtain rfl := Option.some.inj hroute
    exact owned_doOutStandby hown o
  · dsimp only at hroute
    rw [(sameStreams_selectDevices hroute).echoView]
    split
    · exact hown
    · exact hown

theorem owned_outSetRouting {h h' : Hal} {o : OutId} {val : AudioDevices} {allocated : Bool}
    (hown : h.echoView.Owned) (hstep : h.outSetRouting o val allocated = some h') :
    h'.echoView.Owned := by
  have hdevices : (h.modifyOut o ({ · with devices := val })).echoView.Owned := by
    rwa [echoView_modifyOut_of_eq rfl]
  unfold outSetRouting at hstep
  split at hstep
  · obtain rfl := Option.some.inj hstep
    exact hown
  obtain ⟨h₁, hroute, hcall⟩ := Option.bind_eq_some_iff.mp hstep
  rw [(sameStreams_followCall hcall).echoView, (sameStreams_switchBtSco _ _).echoView]
  split at hroute
  · obtain rfl := Option.some.inj hroute
    exact hdevices
  · exact owned_rerouteOut hdevices hroute

/-! ## 3. Offload -/

theorem echoView_writeCompress {h h' : Hal} {o : OutId} {w : OffloadWrite}
    (hwrite : h.writeCompress o w = some h') : h'.echoView = h.echoView := by
  have hfeed : (h.feedCompress o w.writesPart).echoView = h.echoView := by
    unfold feedCompress
    dsimp only
    split
    · exact (echoView_modifyOut_of_eq rfl).trans (echoView_modifyOut_of_eq rfl)
    · exact echoView_modifyOut_of_eq rfl
  unfold writeCompress at hwrite
  split at hwrite
  · cases hwrite
  · obtain rfl := Option.some.inj hwrite
    unfold startCompress
    split
    · rw [echoView_modifyOut_of_eq rfl, echoView_callCompress, hfeed]
    · exact hfeed

theorem echoView_outWriteOffload {h h' : Hal} {o : OutId} {w : OffloadWrite}
    (hstep : h.outWriteOffload o w = some h') : h'.echoView = h.echoView := by
  unfold outWriteOffload at hstep
  split at hstep
  · cases hstep
  split at hstep
  · obtain ⟨⟨ok, h₁⟩, hen, hwrite⟩ := Option.bind_eq_some_iff.mp hstep
    have hview := (sameStreams_enableOutputPath hen).echoView
    dsimp only at hwrite
    split at hwrite
    · rw [echoView_writeCompress hwrite, hview]
    · obtain rfl := Option.some.inj hwrite
      exact hview
  · exact echoView_writeCompress hstep

theorem echoView_outPause {h h' : Hal} {o : OutId} {succeeds : Bool}
    (hstep : h.outPause o succeeds = some h') : h'.echoView = h.echoView := by
  unfold outPause at hstep
  split at hstep
  · cases hstep
  split at hstep
  · obtain rfl := Option.some.inj hstep
    rw [(sameStreams_disableOutputPath _ o).echoView, echoView_modifyOut_of_eq rfl,
      echoView_callCompress]
  · obtain rfl := Option.some.inj hstep
    rfl

theorem echoView_outResume {h h' : Hal} {o : OutId} {alloc : PathAlloc} {succeeds : Bool}
    (hstep : h.outResume o alloc succeeds = some h') : h'.echoView = h.echoView := by
  unfold outResume at hstep
  split at hstep
  · cases hstep
  split at hstep
  · obtain ⟨⟨ok, h₁⟩, hen, rfl⟩ := Option.map_eq_some_iff.mp hstep
    rw [echoView_modifyOut_of_eq rfl, echoView_callCompress,
      (sameStreams_enableOutputPath hen).echoView]
  · obtain rfl := Option.some.inj hstep
    rfl

theorem echoView_outDrain {h h' : Hal} {o : OutId} {earlyNotify : Bool}
    (hstep : h.outDrain o earlyNotify = some h') : h'.echoView = h.echoView := by
  unfold outDrain at hstep
  split at hstep
  · cases hstep
  · obtain rfl := Option.some.inj hstep
    exact echoView_modifyOut_of_eq rfl

theorem echoView_outFlush {h h' : Hal} {o : OutId} {succeeds : Bool}
    (hstep : h.outFlush o succeeds = some h') : h'.echoView = h.echoView := by
  unfold outFlush at hstep
  split at hstep
  · cases hstep
  split at hstep
  · obtain rfl := Option.some.inj hstep
    rw [echoView_modifyOut_of_eq rfl, echoView_stopCompressedOutput]
  · obtain rfl := Option.some.inj hstep
    rfl

theorem echoView_offloadThread {h h' : Hal} {o : OutId} (hstep : h.offloadThread o = some h') :
    h'.echoView = h.echoView := by
  unfold offloadThread at hstep
  split at hstep
  · cases hstep
  · obtain rfl := Option.some.inj hstep
    exact echoView_modifyOut_of_eq rfl

/-! ## 4. Taking the object from the device -/

end Hal

/-- The device may give its object away: every output that shares it is the one that
`put_echo_reference` leaves it to, and no output has the new generation already. -/
structure EchoView.Givable (v : EchoView) (generation : BitVec 32) : Prop where
  shared : ∀ o e, v.device.reference = some e → (v.out o).reference = some e → v.Primary o
  outdated : v.Outdated generation

/-- The generation after `put_echo_reference` of what the device has. -/
def EchoView.clearedGeneration (v : EchoView) : BitVec 32 :=
  if v.device.reference = none then v.device.generation else v.device.generation + 1

def EchoView.nextGeneration (v : EchoView) (created : Bool) : BitVec 32 :=
  if created then v.clearedGeneration + 1 else v.clearedGeneration

/-- The device may give its object away and take a new one: no input has it, every output that
shares it is the one that `put_echo_reference` leaves it to, and that output does not have the new
generation already. -/
structure EchoView.Replaceable (v : EchoView) (created : Bool) : Prop where
  inputs : v.device.reference ≠ none → ∀ i, v.input i = none
  shared : ∀ o e, v.device.reference = some e → (v.out o).reference = some e → v.Primary o
  outdated : ∀ o, v.Primary o → (v.out o).standby = false →
    (v.out o).reference ≠ none ∨ created = true → (v.out o).generation ≠ v.nextGeneration created

namespace Hal

theorem primaryKeepsEcho_iff (h : Hal) : h.primaryKeepsEcho = true ↔ h.echoView.Keeps := by
  unfold primaryKeepsEcho EchoView.Keeps EchoView.Primary
  cases hprimary : h.primaryOutput with
  | none => simp [echoView, hprimary]
  | some o =>
    simp only [Option.map_some, decide_eq_true_eq, Bool.not_eq_true]
    constructor
    · intro hkeeps
      exact ⟨o, ⟨hprimary, hkeeps.1⟩, hkeeps.2.2, hkeeps.2.1⟩
    · rintro ⟨o', ⟨hp, husecase⟩, hawake, hgen⟩
      obtain rfl : o = o' := Option.some.inj (hprimary.symm.trans hp)
      exact ⟨husecase, hgen, hawake⟩

theorem primaryPlays_iff (h : Hal) :
    h.primaryPlays = true ↔ ∃ o, h.echoView.Primary o ∧ (h.echoView.out o).standby = false := by
  unfold primaryPlays Settings.primaryActive EchoView.Primary
  cases hprimary : h.primaryOutput with
  | none => simp [echoView, hprimary]
  | some o =>
    have hself : h.echoView.primaryOutput = some o := hprimary
    rw [Option.map_some]
    cases hs : (h.outs o).standby with
    | true =>
      rw [Option.filter_some, if_neg (by rw [hs]; decide)]
      constructor
      · nofun
      · rintro ⟨o', ⟨hp, _⟩, hawake⟩
        obtain rfl : o = o' := Option.some.inj (hself.symm.trans hp)
        exact nomatch hs.symm.trans hawake
    | false =>
      rw [Option.filter_some, if_pos (by rw [hs]; decide)]
      constructor
      · intro hplays
        exact ⟨o, ⟨hself, of_decide_eq_true hplays⟩, hs⟩
      · rintro ⟨o', ⟨hp, husecase⟩, _⟩
        obtain rfl : o = o' := Option.some.inj (hself.symm.trans hp)
        exact decide_eq_true husecase

theorem echoView_putEchoReference {h : Hal} {e : EchoRef} (he : h.echo.reference = some e) :
    (h.putEchoReference (some e)).echoView =
      h.echoView.put e (h.echo.generation + 1) h.primaryKeepsEcho := by
  have hheld : h.echo.reference ≠ none ∧ some e = h.echo.reference :=
    ⟨by rw [he]; exact Option.some_ne_none e, he.symm⟩
  unfold putEchoReference
  rw [if_pos hheld]
  unfold EchoView.put
  dsimp only
  split
  · rfl
  · rfl

/-! ## 5. Inputs -/

@[simp] theorem modifyIn_self (h : Hal) (i : InId) (f : StreamIn → StreamIn) :
    (h.modifyIn i f).ins i = f (h.ins i) := by
  show Function.update h.ins i (f (h.ins i)) i = f (h.ins i)
  rw [Function.update_self]

/-- What the standby of an input needs. -/
def GivesUp (h : Hal) (i : InId) : Prop :=
  (h.ins i).standby = false → (h.ins i).echoReference ≠ none →
    h.echoView.Givable (h.echo.generation + 1)

theorem GivesUp.of_view {h h' : Hal} {i : InId} (hgives : h.GivesUp i)
    (hview : h'.echoView = h.echoView) (hstandby : (h'.ins i).standby = (h.ins i).standby) :
    h'.GivesUp i := by
  have hecho : h'.echo = h.echo := congrArg EchoView.device hview
  have href : (h'.ins i).echoReference = (h.ins i).echoReference :=
    congrFun (congrArg EchoView.input hview) i
  unfold GivesUp
  rw [hview, hstandby, hecho, href]
  exact hgives

theorem echoView_dropInEcho {h : Hal} {i : InId} {e : EchoRef}
    (he : (h.ins i).echoReference = some e) (hdev : h.echo.reference = some e) :
    (h.dropInEcho i).echoView =
      ((h.echoView.logged (.used e)).setInput i none).put e (h.echo.generation + 1)
        h.primaryKeepsEcho := by
  have hdev' : (h.logEcho (.used e)).echo.reference = some e := hdev
  unfold dropInEcho
  simp only [he]
  rw [echoView_modifyIn, echoView_putEchoReference hdev']
  show ((h.echoView.logged (.used e)).put e _ h.primaryKeepsEcho).setInput i none = _
  cases h.primaryKeepsEcho with
  | true => rfl
  | false => rfl

theorem owned_dropInEcho {h : Hal} {i : InId} (hown : h.echoView.Owned)
    (hgives : (h.ins i).echoReference ≠ none → h.echoView.Givable (h.echo.generation + 1)) :
    (h.dropInEcho i).echoView.Owned := by
  cases he : (h.ins i).echoReference with
  | none =>
    unfold dropInEcho
    simp only [he]
    exact hown
  | some e =>
    have hgive := hgives (by rw [he]; exact Option.some_ne_none e)
    have hdev : h.echo.reference = some e := hown.inputCurrent i e he
    rw [echoView_dropInEcho he hdev]
    have hused := hown.use (hown.deviceLive e hdev)
    apply (hused.forgetInput i).put hdev
    · exact primaryKeepsEcho_iff h
    · -- another input would hold the device's object, too
      intro j
      by_cases hj : j = i
      · subst hj
        rw [EchoView.setInput_input_self]
      · rw [EchoView.setInput_input_of_ne hj]
        by_contra hsome
        obtain ⟨e', he'⟩ := Option.ne_none_iff_exists'.mp hsome
        have hdev' := hown.inputCurrent j e' he'
        obtain rfl : e = e' := Option.some.inj (hdev.symm.trans hdev')
        exact hj (hown.inputUnique j i e he' he)
    · exact fun o ho => hgive.shared o e hdev ho
    · exact hgive.outdated

theorem owned_doInStandby {h : Hal} {i : InId} (hown : h.echoView.Owned) (hgives : h.GivesUp i) :
    (h.doInStandby i).echoView.Owned := by
  unfold doInStandby
  split
  · exact hown
  · rename_i hawake
    have hclose : (h.inClosePcmDevices i).echoView = h.echoView := echoView_modifyIn_of_eq rfl
    have hclosed : (h.inClosePcmDevices i).echoView.Owned := by rwa [hclose]
    have hgives' : (h.inClosePcmDevices i).GivesUp i := hgives.of_view hclose (by
      unfold inClosePcmDevices
      rw [modifyIn_self])
    have hawake' : ((h.inClosePcmDevices i).ins i).standby = false := by
      unfold inClosePcmDevices
      rw [modifyIn_self]
      exact Bool.not_eq_true _ ▸ hawake
    dsimp only
    rw [echoView_modifyIn_of_eq rfl, (sameStreams_stopInputStream _ i).echoView]
    exact owned_dropInEcho hclosed (hgives' hawake')

theorem echoView_putOwnReference (h : Hal) :
    (h.putEchoReference h.echo.reference).echoView =
      h.echoView.discard h.echoView.clearedGeneration h.primaryKeepsEcho := by
  cases he : h.echo.reference with
  | some e =>
    have hdev : h.echoView.device.reference = some e := he
    rw [echoView_putEchoReference he]
    unfold EchoView.discard EchoView.clearedGeneration
    rw [hdev]
    rfl
  | none =>
    have hdev : h.echoView.device.reference = none := he
    have hput : h.putEchoReference none = h := by
      unfold putEchoReference
      rw [if_neg (fun hheld => hheld.1 he)]
    rw [hput]
    unfold EchoView.discard EchoView.clearedGeneration EchoView.cleared
    rw [hdev, if_pos rfl]
    simp only [← hdev]

theorem putEchoReference_primaryPlays (h : Hal) (reference : Option EchoRef) :
    (h.putEchoReference reference).primaryPlays = h.primaryPlays := by
  unfold putEchoReference releaseEchoReference
  split
  · dsimp only
    split
    · rfl
    · split <;> rfl
  · rfl

theorem owned_getEchoReference {h : Hal} {created : Bool} (hown : h.echoView.Owned)
    (hreplace : h.echoView.Replaceable created) :
    (h.getEchoReference created).echoView.Owned := by
  have hprimary : ∀ o, (h.echoView.out o).reference ≠ none →
      h.echoView.Primary o ∧ (h.echoView.out o).standby = false := by
    intro o hsome
    obtain ⟨e, he⟩ := Option.ne_none_iff_exists'.mp hsome
    constructor
    · by_cases hdev : h.echoView.device.reference = some e
      · exact hreplace.shared o e hdev he
      · exact hown.outStale o e he hdev
    · by_contra hasleep
      exact hsome (hown.standby o ((Bool.not_eq_false _).mp hasleep))
  have hdiscard {generation : BitVec 32} (hgen : h.echoView.Outdated generation) :=
    hown.discard (primaryKeepsEcho_iff h) hreplace.inputs hreplace.shared hgen
  unfold getEchoReference
  dsimp only
  rw [putEchoReference_primaryPlays]
  split
  · rename_i hcreate
    have hnext : h.echoView.nextGeneration created = h.echoView.clearedGeneration + 1 :=
      if_pos hcreate.2
    have hdisc : (h.echoView.discard (h.echoView.clearedGeneration + 1) h.primaryKeepsEcho).Owned :=
      hdiscard fun o hsome => by
        have hawake := hprimary o hsome
        rw [← hnext]
        exact hreplace.outdated o hawake.1 hawake.2 (.inl hsome)
    have hgen := EchoView.discard_generation h.echoView (h.echoView.clearedGeneration + 1)
      h.primaryKeepsEcho
    have hproduced := hdisc.create (EchoView.discard_reference _ _ _) (by
      intro o hp hawake
      rw [EchoView.discard_primary] at hp
      rw [EchoView.discard_out] at hawake ⊢
      rw [hgen, ← hnext]
      exact hreplace.outdated o hp hawake (.inr hcreate.2))
    rw [hgen, ← EchoView.discard_produced _ h.echoView.clearedGeneration,
      ← echoView_putOwnReference] at hproduced
    have hput : (h.putEchoReference h.echo.reference).echo.generation =
        h.echoView.clearedGeneration := by
      show (h.putEchoReference h.echo.reference).echoView.device.generation = _
      rw [echoView_putOwnReference, EchoView.discard_generation]
    rw [← hput] at hproduced
    exact hproduced
  · rename_i hcreate
    rw [echoView_putOwnReference]
    apply hdiscard
    intro o hsome
    obtain ⟨hp, hawake⟩ := hprimary o hsome
    have hnot : created = false := by
      by_contra htrue
      exact hcreate ⟨(primaryPlays_iff h).mpr ⟨o, hp, hawake⟩, (Bool.not_eq_false _).mp htrue⟩
    have hgen := hreplace.outdated o hp hawake (.inl hsome)
    rwa [hnot] at hgen

theorem getEchoReference_ins (h : Hal) (created : Bool) :
    (h.getEchoReference created).ins = h.ins := by
  have hput : (h.putEchoReference h.echo.reference).ins = h.ins := by
    unfold putEchoReference releaseEchoReference
    split
    · dsimp only
      split
      · rfl
      · split <;> rfl
    · rfl
  unfold getEchoReference
  dsimp only
  split
  · exact hput
  · exact hput

/-- The stream asks for the device's echo reference. -/
def AsksForEcho (h : Hal) (i : InId) : Prop :=
  (h.ins i).enableAec = true ∧ (h.ins i).echoReference = none

theorem owned_takeInEcho {h : Hal} {i : InId} {created : Bool} (hown : h.echoView.Owned)
    (hreplace : h.AsksForEcho i → h.echoView.Replaceable created) :
    (h.takeInEcho i created).echoView.Owned := by
  unfold takeInEcho
  split
  · rename_i hasks
    have hrep := hreplace hasks
    have hget := owned_getEchoReference hown hrep
    dsimp only
    rw [echoView_modifyIn]
    apply hget.share i
    intro j
    show ((h.getEchoReference created).ins j).echoReference = none
    rw [getEchoReference_ins]
    by_contra hsome
    obtain ⟨e, he⟩ := Option.ne_none_iff_exists'.mp hsome
    have hdev := hown.inputCurrent j e he
    exact hsome (hrep.inputs (by rw [hdev]; exact Option.some_ne_none e) j)
  · exact hown

theorem owned_openInput {h : Hal} (hown : h.echoView.Owned) (i : InId) (resampler : Int)
    (ready : Bool) : (h.openInput i resampler ready).2.echoView.Owned := by
  unfold openInput
  split
  · have hview : (h.stopInputStream i).echoView.Owned := by
      rwa [(sameStreams_stopInputStream h i).echoView]
    exact hview
  · rwa [echoView_modifyIn_of_eq rfl]

/-- `start_input_stream` comes to where the stream takes its echo reference. -/
def InputStart.Lists (start : InputStart) (h : Hal) (i : InId) : Prop :=
  getPcmDevice (h.ins i).usecaseType (h.ins i).devices ≠ none ∧ start.usecase = true ∧
    start.pcmDevice = true

theorem owned_startInputStream {h h' : Hal} {i : InId} {start : InputStart} {status : Int}
    (hown : h.echoView.Owned)
    (hreplace : start.Lists h i → h.AsksForEcho i → h.echoView.Replaceable start.echoReference)
    (hstart : h.startInputStream i start = some (status, h')) : h'.echoView.Owned := by
  have hactive : ∀ active, { h with activeInput := active }.echoView.Owned := fun _ => hown
  unfold startInputStream at hstart
  dsimp only at hstart
  split at hstart
  · obtain ⟨_, rfl⟩ := Prod.mk.inj (Option.some.inj hstart)
    exact hactive none
  rename_i profile hprofile
  split at hstart
  · obtain ⟨_, rfl⟩ := Prod.mk.inj (Option.some.inj hstart)
    exact hactive none
  rename_i halloc
  rw [not_or, not_not, not_not] at halloc
  obtain ⟨h₁, hlist, hopen⟩ := Option.map_eq_some_iff.mp hstart
  have hsame := sameStreams_listInputStream hlist
  have hown₁ : h₁.echoView.Owned := by
    rw [hsame.echoView]
    exact hactive (some i)
  have hconfig : (h₁.setInputConfig i profile).echoView = h₁.echoView :=
    echoView_modifyIn_of_eq rfl
  have htake : ((h₁.setInputConfig i profile).takeInEcho i start.echoReference).echoView.Owned := by
    apply owned_takeInEcho (by rwa [hconfig])
    intro hasks
    rw [hconfig, hsame.echoView]
    apply hreplace
    · exact ⟨by rw [hprofile]; exact Option.some_ne_none profile, halloc.1, halloc.2⟩
    · obtain ⟨_, hdevs⟩ := hsame.input i
      unfold AsksForEcho setInputConfig at hasks
      rwa [modifyIn_self, hdevs] at hasks
  have hopened := owned_openInput htake i (h₁.resamplerStatus i profile start) start.ready
  rwa [hopen] at hopened

theorem owned_inStart {h h' : Hal} {i : InId} {start : InputStart} (hown : h.echoView.Owned)
    (hreplace : start.Lists h i → h.AsksForEcho i → h.echoView.Replaceable start.echoReference)
    (hstep : h.inStart i start = some h') : h'.echoView.Owned := by
  unfold inStart at hstep
  split at hstep
  · obtain ⟨⟨status, h₁⟩, hstart, rfl⟩ := Option.map_eq_some_iff.mp hstep
    have hown₁ := owned_startInputStream hown hreplace hstart
    dsimp only
    split
    · rwa [echoView_modifyIn_of_eq rfl]
    · exact hown₁
  · cases hstep

theorem owned_inRead {h h' : Hal} {i : InId} (hown : h.echoView.Owned)
    (hstep : h.inRead i = some h') : h'.echoView.Owned := by
  unfold inRead at hstep
  split at hstep
  · cases hstep
  · obtain rfl := Option.some.inj hstep
    exact owned_useEchoReference hown fun e he => hown.deviceLive e (hown.inputCurrent i e he)

/-- A routing request puts the stream to standby when it is active. -/
def RoutesAway (h : Hal) (i : InId) (val : AudioDevices) : Prop :=
  (h.ins i).devices ≠ val ∧ val ≠ AudioDevices.none ∧ h.leavesInputDevice i val = true

theorem owned_inSetRouting {h h' : Hal} {i : InId} {val : AudioDevices} (hown : h.echoView.Owned)
    (hgives : h.RoutesAway i val → h.GivesUp i) (hroute : h.inSetRouting i val = some h') :
    h'.echoView.Owned := by
  unfold inSetRouting at hroute
  split at hroute
  · obtain rfl := Option.some.inj hroute
    exact hown
  rename_i hnew
  rw [not_or] at hnew
  have hview : (h.modifyIn i ({ · with devices := val })).echoView = h.echoView :=
    echoView_modifyIn_of_eq rfl
  dsimp only at hroute
  split at hroute
  · obtain rfl := Option.some.inj hroute
    rwa [hview]
  split at hroute
  · rename_i hleaves
    obtain rfl := Option.some.inj hroute
    have haway : h.leavesInputDevice i val = true := by
      unfold leavesInputDevice at hleaves ⊢
      rwa [modifyIn_self] at hleaves
    apply owned_doInStandby
    · rwa [hview]
    · apply (hgives ⟨hnew.1, hnew.2, haway⟩).of_view hview
      rw [modifyIn_self]
  · rw [(sameStreams_selectDevices hroute).echoView]
    rwa [hview]

theorem owned_inSetParameters {h h' : Hal} {i : InId} {source : Option AudioSource}
    {routing : Option AudioDevices} (hown : h.echoView.Owned)
    (hgives : ∀ val, routing = some val → h.RoutesAway i val → h.GivesUp i)
    (hstep : h.inSetParameters i source routing = some h') : h'.echoView.Owned := by
  unfold inSetParameters at hstep
  dsimp only at hstep
  generalize (source.filter (· ≠ .default)).getD (h.ins i).source = source' at hstep
  have hview : (h.modifyIn i ({ · with source := source' })).echoView = h.echoView :=
    echoView_modifyIn_of_eq rfl
  split at hstep
  · obtain rfl := Option.some.inj hstep
    rwa [hview]
  · rename_i val
    apply owned_inSetRouting _ _ hstep
    · rwa [hview]
    · intro haway
      have haway' : h.RoutesAway i val := by
        unfold RoutesAway leavesInputDevice at haway ⊢
        rwa [modifyIn_self] at haway
      apply (hgives val rfl haway').of_view hview
      rw [modifyIn_self]

theorem owned_setAec {h h' : Hal} {i : InId} {enable : Bool} (hown : h.echoView.Owned)
    (hgives : h.GivesUp i) (hset : h.setAec i enable = some h') : h'.echoView.Owned := by
  have hview : (h.modifyIn i ({ · with enableAec := enable })).echoView = h.echoView :=
    echoView_modifyIn_of_eq rfl
  unfold setAec at hset
  dsimp only at hset
  split at hset
  · obtain rfl := Option.some.inj hset
    rwa [hview]
  · obtain ⟨h₁, hsel, rfl⟩ := Option.map_eq_some_iff.mp hset
    have hsame := sameStreams_selectDevices hsel
    have hview₁ : h₁.echoView = h.echoView := hsame.echoView.trans hview
    apply owned_doInStandby
    · rwa [hview₁]
    · apply hgives.of_view hview₁
      obtain ⟨_, hdevs⟩ := hsame.input i
      rw [hdevs, modifyIn_self]

theorem owned_setAuxChannelsChanged {h : Hal} {i : InId} (hown : h.echoView.Owned)
    (changed : Bool) : (h.setAuxChannelsChanged i changed).echoView.Owned ∧
      (h.GivesUp i → (h.setAuxChannelsChanged i changed).GivesUp i) := by
  have hview : (h.setAuxChannelsChanged i changed).echoView = h.echoView :=
    echoView_modifyIn_of_eq rfl
  refine ⟨by rwa [hview], fun hgives => hgives.of_view hview ?_⟩
  unfold setAuxChannelsChanged
  rw [modifyIn_self]

theorem owned_addAudioEffect {h h' : Hal} {i : InId} {aec auxChanged : Bool}
    (hown : h.echoView.Owned) (hgives : aec = true ∨ auxChanged = true → h.GivesUp i)
    (hstep : h.addAudioEffect i aec auxChanged = some h') : h'.echoView.Owned := by
  obtain ⟨hchanged, hstill⟩ := owned_setAuxChannelsChanged hown (i := i) true
  unfold addAudioEffect at hstep
  dsimp only at hstep
  cases auxChanged with
  | true =>
    have hstop := owned_doInStandby hchanged (hstill (hgives (.inr rfl)))
    simp only [if_true] at hstep
    split at hstep
    · apply owned_setAec hstop _ hstep
      -- the stream is in standby already
      intro hawake
      rw [doInStandby_standby] at hawake
      cases hawake
    · obtain rfl := Option.some.inj hstep
      exact hstop
  | false =>
    simp only [Bool.false_eq_true, if_false] at hstep
    split at hstep
    · rename_i haec
      exact owned_setAec hchanged (hstill (hgives (.inl haec))) hstep
    · obtain rfl := Option.some.inj hstep
      exact hchanged

theorem owned_removeAudioEffect {h h' : Hal} {i : InId} {aec : Bool} (hown : h.echoView.Owned)
    (hgives : aec = true → h.GivesUp i) (hstep : h.removeAudioEffect i aec = some h') :
    h'.echoView.Owned := by
  obtain ⟨hchanged, hstill⟩ := owned_setAuxChannelsChanged hown (i := i) false
  unfold removeAudioEffect at hstep
  dsimp only at hstep
  split at hstep
  · rename_i haec
    exact owned_setAec hchanged (hstill (hgives haec)) hstep
  · obtain rfl := Option.some.inj hstep
    exact hchanged

/-! ## 6. Runs -/

/-- What an operation needs that may take the device's object away. -/
def EchoSafe (h : Hal) : Op → Prop
  | .inStart i start =>
    start.Lists h i → h.AsksForEcho i → h.echoView.Replaceable start.echoReference
  | .inStandby i => h.GivesUp i
  | .inSetParameters i _ routing => ∀ val, routing = some val → h.RoutesAway i val → h.GivesUp i
  | .addAudioEffect i aec auxChanged => aec = true ∨ auxChanged = true → h.GivesUp i
  | .removeAudioEffect i aec => aec = true → h.GivesUp i
  | _ => True

theorem owned_setMode {h : Hal} (hown : h.echoView.Owned) (mode : AudioMode) :
    (h.setMode mode).echoView.Owned := by
  have hmode : { h with mode := mode }.echoView.Owned := hown
  unfold setMode
  dsimp only
  split
  · exact hown
  split
  · rwa [(sameStreams_stopVoiceCall _).echoView]
  · exact hmode

theorem owned_step {h h' : Hal} {op : Op} (hown : h.echoView.Owned) (hsafe : h.EchoSafe op)
    (hstep : h.step op = some h') : h'.echoView.Owned := by
  cases op with
  | outStart o alloc ready => exact owned_outStart hown hstep
  | outSyncEcho o => exact owned_outSyncEcho hown hstep
  | outWritePcm o => exact owned_outWritePcm hown hstep
  | outWriteOffload o w => rwa [echoView_outWriteOffload hstep]
  | outStandby o =>
    obtain rfl := Option.some.inj hstep
    unfold outStandby
    split
    · exact hown
    · exact owned_doOutStandby hown o
  | outSetRouting o val allocated => exact owned_outSetRouting hown hstep
  | outPause o succeeds => rwa [echoView_outPause hstep]
  | outResume o alloc succeeds => rwa [echoView_outResume hstep]
  | outDrain o earlyNotify => rwa [echoView_outDrain hstep]
  | outFlush o succeeds => rwa [echoView_outFlush hstep]
  | offloadThread o => rwa [echoView_offloadThread hstep]
  | inStart i start => exact owned_inStart hown hsafe hstep
  | inRead i => exact owned_inRead hown hstep
  | inStandby i =>
    obtain rfl := Option.some.inj hstep
    exact owned_doInStandby hown hsafe
  | inSetParameters i source routing => exact owned_inSetParameters hown hsafe hstep
  | addAudioEffect i aec auxChanged => exact owned_addAudioEffect hown hsafe hstep
  | removeAudioEffect i aec => exact owned_removeAudioEffect hown hsafe hstep
  | setMode mode =>
    obtain rfl := Option.some.inj hstep
    exact owned_setMode hown mode
  | setBluetoothWb on =>
    obtain rfl := Option.some.inj hstep
    exact hown
  | wbAmrCallback wbAmrType allocated => rwa [(sameStreams_wbAmrCallback hstep).echoView]

theorem Start.owned {h : Hal} (hstart : Start h) : h.echoView.Owned := by
  have hdevice : h.echoView.device = ⟨none, 0, 0, []⟩ := hstart.echo
  have hout (o : OutId) (e : EchoRef) : (h.echoView.out o).reference ≠ some e := by
    have hnone : (h.outs o).echoReference = none := (hstart.outs o).2.2.2.2.1
    show (h.outs o).echoReference ≠ some e
    rw [hnone]
    nofun
  have hin (i : InId) (e : EchoRef) : h.echoView.input i ≠ some e := by
    show (h.ins i).echoReference ≠ some e
    rw [(hstart.ins i).2.2.1]
    nofun
  constructor
  · constructor
    · exact fun o _ => (hstart.outs o).2.2.2.2.1
    · exact fun o _ => (hstart.outs o).2.2.2.2.1
    · exact fun i e he => absurd he (hin i e)
    · exact fun i _ e he => absurd he (hin i e)
    · exact fun o e he => absurd he (hout o e)
    · exact fun o e he => absurd he (hout o e)
    · intro o e _ _ _ he
      rw [hdevice] at he
      cases he
  · rw [hdevice]
    trivial
  · rw [hdevice]
    nofun
  · rw [hdevice]
    nofun
  · exact fun o e he => absurd he (hout o e)
  · rw [hdevice]
    nofun

/-- In every run whose steps may each take the device's object away where they do, every object is
released at most once, is neither used nor held after that, and is not lost before. -/
theorem echoView_sound {h₀ h : Hal} {ops : List Op} (hstart : Start h₀)
    (run : ExecWhere EchoSafe (guarded step) h₀ ops h) : h.echoView.Sound := by
  have hown : h.echoView.Owned :=
    run.invariant (I := fun h => h.echoView.Owned) (fun _ _ _ => owned_step) hstart.owned
  exact hown.sound

/-- A recording with echo cancellation next to playback on the primary output. -/
def recordingRun : List Op :=
  [.addAudioEffect 0 true false, .outStart 0 ⟨true, true⟩ true, .inStart 0 ⟨true, true, 0, true, true⟩,
    .outSyncEcho 0, .outWritePcm 0, .inRead 0, .inStandby 0, .outStandby 0]

def recorded (n : Nat) : Hal :=
  ((recordingRun.take n).foldlM step (opened false)).getD (opened false)

theorem recorded_replaceable : (recorded 2).echoView.Replaceable true where
  inputs hsome := absurd rfl hsome
  shared _ _ he := nomatch he
  outdated o hp := by
    obtain rfl : 0 = o := Option.some.inj hp.1
    decide +kernel

/-- The other streams of the run were not opened. -/
theorem recorded_reference : ∀ n, ((recorded 6).outs (n + 1)).echoReference = none
  | 0 => rfl
  | 1 => rfl
  | _ + 2 => rfl

theorem recorded_givable : (recorded 6).echoView.Givable ((recorded 6).echo.generation + 1) where
  shared o e _ he := by
    cases o with
    | zero => exact ⟨rfl, rfl⟩
    | succ n => exact nomatch (recorded_reference n).symm.trans he
  outdated o hsome := by
    cases o with
    | zero => decide +kernel
    | succ n => exact absurd (recorded_reference n) hsome

theorem echoView_sound_recorded : (recorded 8).echoView.Sound := by
  have run : ExecWhere EchoSafe (guarded step) (opened false) recordingRun (recorded 8) := by
    apply ExecWhere.computed (by decide +kernel)
    intro n op h hop hrun
    have hh : h = recorded n := by
      unfold recorded
      rw [hrun]
      rfl
    subst hh
    match n with
    | 0 =>
      obtain rfl := Option.some.inj hop
      exact fun _ hawake => nomatch hawake
    | 2 =>
      obtain rfl := Option.some.inj hop
      exact fun _ _ => recorded_replaceable
    | 6 =>
      obtain rfl := Option.some.inj hop
      exact fun _ _ => recorded_givable
    | 1 | 3 | 4 | 5 | 7 =>
      obtain rfl := Option.some.inj hop
      trivial
    | _ + 8 => cases hop
  exact echoView_sound (opened_start false) run

/-- The deep-buffer output starts to play while the object exists. -/
def sharedRun : List Op :=
  [.addAudioEffect 0 true false, .outStart 0 ⟨true, true⟩ true, .inStart 0 ⟨true, true, 0, true, true⟩,
    .outStart 1 ⟨true, true⟩ true, .inStandby 0, .outStandby 1]

/-- The input releases the object, then the deep-buffer output uses and releases it again. -/
theorem echo_released_twice :
    ¬∀ (h₀ h : Hal) (ops : List Op), Reaches h₀ ops h → h.echoView.Sound := by
  intro hall
  have hreach : Reaches (opened false) sharedRun
      ((sharedRun.foldlM step (opened false)).getD (opened false)) :=
    ⟨opened_start false, Exec.computed (by decide +kernel)⟩
  have htwice := (hall _ _ _ hreach).releasedOnce 0
  revert htwice
  decide +kernel

end Hal

end Universal7870.Audio
