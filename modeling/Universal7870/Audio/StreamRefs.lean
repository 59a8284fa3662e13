import Universal7870.Audio.OpenStreams
import Universal7870.Audio.RefCounts

/-!
# The references to streams

A stream is referred to by the usecases that are listed for it, as the primary output and as the
active input.  An operation lists one usecase of its own stream at most, and one of the call; apart
from that it only gives references up.
-/

namespace Universal7870.Audio

open Lib

namespace Hal

/-- No usecase is listed, and no reference made that was not there. -/
structure Drops (h h' : Hal) : Prop where
  log : Quietly h.routing.log h'.routing.log
  kinds : h'.routing.kinds.Sublist h.routing.kinds
  primaryOutput : h'.primaryOutput = h.primaryOutput
  activeInput : h'.activeInput = h.activeInput ∨ h'.activeInput = none

variable {h h' h'' : Hal} {o : OutId} {i : InId}

theorem Drops.trans (hd : h.Drops h') (hd' : h'.Drops h'') : h.Drops h'' where
  log := hd.log.trans hd'.log
  kinds := hd'.kinds.trans hd.kinds
  primaryOutput := hd'.primaryOutput.trans hd.primaryOutput
  activeInput := by
    rcases hd'.activeInput with hsame | hnone
    · rw [hsame]
      exact hd.activeInput
    · exact .inr hnone

/-- The usecases and the references are left alone. -/
theorem Drops.of_eq (hrouting : h'.routing = h.routing) (hprimary : h'.primaryOutput = h.primaryOutput)
    (hactive : h'.activeInput = h.activeInput) : h.Drops h' where
  log := by
    rw [hrouting]
    exact .refl _
  kinds := by rw [hrouting]
  primaryOutput := hprimary
  activeInput := .inl hactive

theorem Drops.refl (h : Hal) : h.Drops h := .of_eq rfl rfl rfl

theorem drops_modifyOut (h : Hal) (o : OutId) (f : StreamOut → StreamOut) :
    h.Drops (h.modifyOut o f) := .of_eq rfl rfl rfl

theorem drops_modifyIn (h : Hal) (i : InId) (f : StreamIn → StreamIn) :
    h.Drops (h.modifyIn i f) := .of_eq rfl rfl rfl

theorem drops_selectDevices {id : UsecaseId} (hsel : h.selectDevices id = some h') :
    h.Drops h' := by
  obtain ⟨r, hr, rfl⟩ := Option.map_eq_some_iff.mp hsel
  refine ⟨h.selectDevicesAt_log hr, ?_, rfl, .inl rfl⟩
  show r.kinds.Sublist h.routing.kinds
  rw [h.toSettings.kinds_selectDevicesAt hr]

/-- A usecase is switched off and delisted. -/
theorem drops_remove (h : Hal) (u : AudioUsecase) (d : SndDevice) (uc : Nat) :
    h.Drops { h with routing := (h.routing.disableSndDevice u d).removeUsecase uc } where
  log := h.routing.disableSndDevice_log u d
  kinds := by
    show (((h.routing.disableSndDevice u d).usecaseList.eraseIdx uc).map _).Sublist _
    rw [Routing.disableSndDevice_usecaseList]
    exact (List.eraseIdx_sublist _ _).map _
  primaryOutput := rfl
  activeInput := .inl rfl

theorem drops_leaveSpeaker (h : Hal) (o : OutId) (uc : Nat) : h.Drops (h.leaveSpeaker o uc) := by
  unfold leaveSpeaker
  split
  · refine ⟨?_, ?_, rfl, .inl rfl⟩
    · show Quietly h.routing.log (h.routing.leaveSpeaker uc).log
      unfold Routing.leaveSpeaker
      split
      · exact .refl _
      split
      · exact Routing.disableSndDevice_log (h.routing.modifyUsecase uc _) _ _
      · exact .refl _
    · show (h.routing.leaveSpeaker uc).kinds.Sublist h.routing.kinds
      rw [h.routing.kinds_leaveSpeaker uc]
  · exact .refl h

/-! ## 1. The echo reference -/

theorem drops_releaseEchoReference (h : Hal) (e : Option EchoRef) :
    h.Drops (h.releaseEchoReference e) := by
  cases e <;> exact .of_eq rfl rfl rfl

theorem drops_useEchoReference (h : Hal) (e : Option EchoRef) : h.Drops (h.useEchoReference e) := by
  cases e <;> exact .of_eq rfl rfl rfl

theorem drops_putEchoReference (h : Hal) (e : Option EchoRef) : h.Drops (h.putEchoReference e) := by
  unfold putEchoReference
  split
  · dsimp only
    have hput : h.Drops { h with
        echo.reference := none
        echo.generation := h.echo.generation + 1 } := .of_eq rfl rfl rfl
    split
    · exact hput
    · exact hput.trans (drops_releaseEchoReference _ e)
  · exact .refl h

theorem drops_getEchoReference (h : Hal) (created : Bool) : h.Drops (h.getEchoReference created) := by
  unfold getEchoReference
  dsimp only
  split
  · exact (drops_putEchoReference h _).trans (.of_eq rfl rfl rfl)
  · exact drops_putEchoReference h _

theorem drops_dropOutEcho (h : Hal) (o : OutId) : h.Drops (h.dropOutEcho o) := by
  unfold dropOutEcho
  split
  · exact .refl h
  · dsimp only
    split <;> exact .of_eq rfl rfl rfl

theorem drops_dropInEcho (h : Hal) (i : InId) : h.Drops (h.dropInEcho i) := by
  unfold dropInEcho
  split
  · exact .refl h
  · have hused : h.Drops (h.logEcho (.used ‹_›)) := .of_eq rfl rfl rfl
    exact (hused.trans (drops_putEchoReference _ _)).trans (drops_modifyIn _ i _)

theorem drops_takeInEcho (h : Hal) (i : InId) (created : Bool) : h.Drops (h.takeInEcho i created) := by
  unfold takeInEcho
  split
  · exact (drops_getEchoReference h created).trans (drops_modifyIn _ i _)
  · exact .refl h

/-! ## 2. Output streams -/

theorem drops_disableOutputPath (h : Hal) (o : OutId) : h.Drops (h.disableOutputPath o) := by
  unfold disableOutputPath
  split
  · exact .refl h
  rename_i uc huc
  split
  · exact .refl h
  rename_i u hu
  have hremoved := drops_remove h u u.outSndDevice uc
  dsimp only
  split
  · exact hremoved.trans (.of_eq rfl rfl rfl)
  · exact hremoved

theorem drops_stopOutputStream (h : Hal) (o : OutId) : h.Drops (h.stopOutputStream o) := by
  have hoffload : h.Drops (h.stopOutputOffloadStream o).2 := by
    unfold stopOutputOffloadStream
    split
    · exact drops_modifyOut h o ({ · with offloadState := .idle })
    · exact .refl h
  unfold stopOutputStream
  dsimp only
  split
  · exact hoffload.trans (drops_disableOutputPath _ o)
  · exact hoffload

theorem drops_openOutput (h : Hal) (o : OutId) (ready : Bool) : h.Drops (h.openOutput o ready).2 := by
  have hstop (h' : Hal) (hd : h.Drops h') : h.Drops (h'.stopOutputStream o) :=
    hd.trans (drops_stopOutputStream h' o)
  unfold openOutput
  split
  · dsimp only
    split
    · exact hstop _ (.of_eq rfl rfl rfl)
    · exact .of_eq rfl rfl rfl
  · split
    · exact hstop _ (.of_eq rfl rfl rfl)
    · exact .of_eq rfl rfl rfl

theorem drops_callCompress (h : Hal) (o : OutId) (call : CompressCall) (succeeds : Bool) :
    h.Drops (h.callCompress o call succeeds) := by
  unfold callCompress
  split
  · exact drops_modifyOut h o _
  · exact .refl h

theorem drops_doOutStandby (h : Hal) (o : OutId) : h.Drops (h.doOutStandby o) := by
  have hstop (h' : Hal) (hd : h.Drops h') : h.Drops (h'.stopOutputStream o) :=
    hd.trans (drops_stopOutputStream h' o)
  unfold doOutStandby
  dsimp only
  split
  · have hclosed : h.Drops ((h.modifyOut o ({ · with standby := true })).outClosePcmDevices o) :=
      .of_eq rfl rfl rfl
    exact hstop _ (hclosed.trans (drops_dropOutEcho _ o))
  · unfold stopCompressedOutput
    have hmetadata : h.Drops ((h.modifyOut o ({ · with standby := true })).modifyOut o
        ({ · with sendNewMetadata := true })) := .of_eq rfl rfl rfl
    exact hstop _ ((hmetadata.trans (drops_callCompress _ o _ _)).trans (drops_modifyOut _ o _))

theorem drops_outStandby (h : Hal) (o : OutId) : h.Drops (h.outStandby o) := by
  unfold outStandby
  split
  · exact .refl h
  · exact drops_doOutStandby h o

theorem drops_foldl_writeEcho (devs : List PcmDevice) (h : Hal) (o : OutId) :
    h.Drops (devs.foldl (·.writeEcho o ·) h) := by
  induction devs generalizing h with
  | nil => exact .refl h
  | cons d devs ih =>
    have hfirst : h.Drops (h.writeEcho o d) := by
      unfold writeEcho
      split
      · exact drops_useEchoReference h _
      · exact .refl h
    exact hfirst.trans (ih _)

theorem drops_writeCompress {w : OffloadWrite} (hwrite : h.writeCompress o w = some h') :
    h.Drops h' := by
  unfold writeCompress at hwrite
  split at hwrite
  · cases hwrite
  obtain rfl := Option.some.inj hwrite
  have hfeed : h.Drops (h.feedCompress o w.writesPart) := by
    unfold feedCompress
    dsimp only
    split <;> exact .of_eq rfl rfl rfl
  refine hfeed.trans ?_
  unfold startCompress
  split
  · exact (drops_callCompress _ o _ _).trans (drops_modifyOut _ o _)
  · exact .refl _

theorem drops_outPause {succeeds : Bool} (hpause : h.outPause o succeeds = some h') : h.Drops h' := by
  unfold outPause at hpause
  split at hpause
  · cases hpause
  split at hpause
  · obtain rfl := Option.some.inj hpause
    exact ((drops_callCompress h o _ _).trans (drops_modifyOut _ o _)).trans
      (drops_disableOutputPath _ o)
  · obtain rfl := Option.some.inj hpause
    exact .refl h

theorem drops_outFlush {succeeds : Bool} (hflush : h.outFlush o succeeds = some h') : h.Drops h' := by
  unfold outFlush at hflush
  split at hflush
  · cases hflush
  split at hflush
  · obtain rfl := Option.some.inj hflush
    have hmetadata : h.Drops (h.modifyOut o ({ · with sendNewMetadata := true })) :=
      drops_modifyOut h o _
    exact (hmetadata.trans (drops_callCompress _ o _ _)).trans (drops_modifyOut _ o _)
  · obtain rfl := Option.some.inj hflush
    exact .refl h

theorem drops_outSyncEcho (hsync : h.outSyncEcho o = some h') : h.Drops h' := by
  unfold outSyncEcho at hsync
  split at hsync
  · cases hsync
  split at hsync
  · obtain rfl := Option.some.inj hsync
    exact .refl h
  · obtain rfl := Option.some.inj hsync
    exact (drops_releaseEchoReference h _).trans (.of_eq rfl rfl rfl)

/-! ## 3. Input streams -/

theorem drops_stopInputStream (h : Hal) (i : InId) : h.Drops (h.stopInputStream i) := by
  have hidle : h.Drops { h with activeInput := none } :=
    ⟨.refl _, List.Sublist.refl _, rfl, .inr rfl⟩
  unfold stopInputStream
  dsimp only
  split
  · exact hidle
  rename_i uc huc
  split
  · exact hidle
  · rename_i u hu
    exact (hidle.trans (drops_remove _ u u.inSndDevice uc)).trans (.of_eq rfl rfl rfl)

theorem drops_doInStandby (h : Hal) (i : InId) : h.Drops (h.doInStandby i) := by
  unfold doInStandby
  split
  · exact .refl h
  · have hclose : h.Drops (h.inClosePcmDevices i) := .of_eq rfl rfl rfl
    exact ((hclose.trans (drops_dropInEcho _ i)).trans (drops_stopInputStream _ i)).trans
      (drops_modifyIn _ i _)

theorem drops_openInput (h : Hal) (i : InId) (resampler : Int) (ready : Bool) :
    h.Drops (h.openInput i resampler ready).2 := by
  unfold openInput
  split
  · have hstop := drops_stopInputStream h i
    exact ⟨hstop.log, hstop.kinds, hstop.primaryOutput, .inr rfl⟩
  · exact .of_eq rfl rfl rfl

theorem drops_inSetRouting {val : AudioDevices} (hset : h.inSetRouting i val = some h') :
    h.Drops h' := by
  unfold inSetRouting at hset
  split at hset
  · obtain rfl := Option.some.inj hset
    exact .refl h
  dsimp only at hset
  have hdev := drops_modifyIn h i ({ · with devices := val })
  split at hset
  · obtain rfl := Option.some.inj hset
    exact hdev
  split at hset
  · obtain rfl := Option.some.inj hset
    exact hdev.trans (drops_doInStandby _ i)
  · exact hdev.trans (drops_selectDevices hset)

theorem drops_inSetParameters {source : Option AudioSource} {routing : Option AudioDevices}
    (hset : h.inSetParameters i source routing = some h') : h.Drops h' := by
  unfold inSetParameters at hset
  dsimp only at hset
  split at hset
  · obtain rfl := Option.some.inj hset
    exact drops_modifyIn h i _
  · exact (drops_modifyIn h i _).trans (drops_inSetRouting hset)

theorem drops_setAec {enable : Bool} (hset : h.setAec i enable = some h') : h.Drops h' := by
  unfold setAec at hset
  dsimp only at hset
  have haec := drops_modifyIn h i ({ · with enableAec := enable })
  split at hset
  · obtain rfl := Option.some.inj hset
    exact haec
  · obtain ⟨h₁, hselect, rfl⟩ := Option.map_eq_some_iff.mp hset
    exact (haec.trans (drops_selectDevices hselect)).trans (drops_doInStandby h₁ i)

theorem drops_addAudioEffect {aec auxChanged : Bool}
    (hadd : h.addAudioEffect i aec auxChanged = some h') : h.Drops h' := by
  have hchanged : h.Drops (h.setAuxChannelsChanged i true) := drops_modifyIn h i _
  have haux : h.Drops (if auxChanged then (h.setAuxChannelsChanged i true).doInStandby i
      else h.setAuxChannelsChanged i true) := by
    split
    · exact hchanged.trans (drops_doInStandby _ i)
    · exact hchanged
  unfold addAudioEffect at hadd
  dsimp only at hadd
  split at hadd
  · exact haux.trans (drops_setAec hadd)
  · obtain rfl := Option.some.inj hadd
    exact haux

theorem drops_removeAudioEffect {aec : Bool} (hremove : h.removeAudioEffect i aec = some h') :
    h.Drops h' := by
  have hchanged : h.Drops (h.setAuxChannelsChanged i false) := drops_modifyIn h i _
  unfold removeAudioEffect at hremove
  dsimp only at hremove
  split at hremove
  · exact hchanged.trans (drops_setAec hremove)
  · obtain rfl := Option.some.inj hremove
    exact hchanged

/-! ## 4. Calls and routing requests -/

theorem drops_stopVoiceCall (h : Hal) : h.Drops h.stopVoiceCall := by
  have hsession : h.Drops { h with inCall := false }.stopVoiceSession :=
    ⟨.refl _, List.Sublist.refl _, rfl, .inl rfl⟩
  unfold stopVoiceCall
  dsimp only
  split
  · exact hsession
  rename_i uc huc
  split
  · exact hsession
  · rename_i u hu
    have hout : h.Drops ({ h with inCall := false }.stopVoiceSession.disableSndDevice u
        u.outSndDevice) := by
      refine hsession.trans ⟨Routing.disableSndDevice_log _ u _, ?_, rfl, .inl rfl⟩
      show (List.map _ (Routing.disableSndDevice _ u _).usecaseList).Sublist _
      rw [Routing.disableSndDevice_usecaseList]
      exact List.Sublist.refl _
    exact hout.trans (drops_remove _ u u.inSndDevice uc)

theorem drops_switchBtSco (h : Hal) (devices : AudioDevices) : h.Drops (h.switchBtSco devices) := by
  have hsession (h : Hal) : h.Drops h.stopVoiceSession :=
    ⟨.refl _, List.Sublist.refl _, rfl, .inl rfl⟩
  unfold switchBtSco
  dsimp only
  split
  · exact .of_eq rfl rfl rfl
  split
  · have hsco : h.Drops { h with btScoActive := false } := .of_eq rfl rfl rfl
    split
    · exact hsco.trans (hsession _)
    · exact hsco
  · exact .refl h

theorem drops_rerouteOut {val : AudioDevices} (hroute : h.rerouteOut o val = some h') :
    h.Drops h' := by
  unfold rerouteOut at hroute
  split at hroute
  · obtain rfl := Option.some.inj hroute
    exact .refl h
  split at hroute
  · obtain rfl := Option.some.inj hroute
    exact drops_doOutStandby h o
  · rename_i uc _ _
    exact (drops_leaveSpeaker h o uc).trans (drops_selectDevices hroute)

theorem drops_setMode (h : Hal) (mode : AudioMode) : h.Drops (h.setMode mode) := by
  unfold setMode
  split
  · exact .refl h
  · have hmode : h.Drops { h with mode := mode } := .of_eq rfl rfl rfl
    dsimp only
    split
    · exact hmode.trans (drops_stopVoiceCall _)
    · exact hmode

/-! ## 5. What an operation lists -/

/-- A usecase was listed, and its stream made the active input or not. -/
structure Adds (h : Hal) (u : AudioUsecase) (h' : Hal) : Prop where
  routing : h'.routing = h.routing.addUsecase u
  primaryOutput : h'.primaryOutput = h.primaryOutput
  activeInput : h'.activeInput = h.activeInput ∨
    ∃ i, u.stream = .input i ∧ h'.activeInput = some i

/-- The PCM devices `enable_output_path_l` allocates. -/
def outputProfiles (h : Hal) (o : OutId) (alloc : PathAlloc) : List PcmDeviceProfile :=
  if alloc.pcmDevices then selectPcmProfiles .pcmPlayback (h.outs o).devices else []

/-- The usecase `start_input_stream` lists, where nothing fails before that. -/
def startsUsecase (h : Hal) (i : InId) (start : InputStart) : Option AudioUsecase :=
  match getPcmDevice (h.ins i).usecaseType (h.ins i).devices with
  | none => none
  | some profile =>
    if start.usecase ∧ start.pcmDevice then some (h.inputUsecase i profile) else none

/-- The usecase an operation lists for its own stream. -/
def lists (h : Hal) : Op → Option AudioUsecase
  | .outStart o alloc _ =>
    if (h.outs o).standby ∧ alloc.usecase then some (h.outputUsecase o (h.outputProfiles o alloc))
    else none
  | .outWriteOffload o w =>
    if ¬(h.outs o).standby ∧ (h.outs o).offloadState = .pausedFlushed ∧ w.alloc.usecase then
      some (h.outputUsecase o (h.outputProfiles o w.alloc))
    else none
  | .outResume o alloc _ =>
    if (h.outs o).compr ≠ none ∧ (h.outs o).offloadState = .paused ∧ alloc.usecase then
      some (h.outputUsecase o (h.outputProfiles o alloc))
    else none
  | .inStart i start => if (h.ins i).standby then h.startsUsecase i start else none
  | _ => none

/-- The call is listed for the primary output, and none was before. -/
def ListsCall (h h' : Hal) : Prop :=
  ∃ h₁ o, h.Drops h₁ ∧ (h.Listed → h₁.Listed) ∧ h₁.inCall = false ∧ h₁.primaryOutput = some o ∧
    (h₁.listCall o).Drops h'

theorem listOutput_adds (h : Hal) (o : OutId) (alloc : PathAlloc) :
    h.Adds (h.outputUsecase o (h.outputProfiles o alloc)) (h.listOutput o alloc) where
  routing := by
    unfold listOutput outputUsecase modifyOut outputProfiles
    simp only [Function.update_self]
  primaryOutput := rfl
  activeInput := .inl rfl

theorem listInput_adds (h : Hal) (i : InId) (profile : PcmDeviceProfile) :
    h.Adds (h.inputUsecase i profile) ({ h with activeInput := some i }.listInput i profile) where
  routing := by
    unfold listInput inputUsecase modifyIn
    simp only [Function.update_self]
  primaryOutput := rfl
  activeInput := .inr ⟨i, rfl, rfl⟩

theorem enableOutputPath_adds {alloc : PathAlloc} {ok : Bool}
    (hen : h.enableOutputPath o alloc = some (ok, h')) :
    alloc.usecase = true ∧ ok = true ∧
        (∃ h₁, h.Adds (h.outputUsecase o (h.outputProfiles o alloc)) h₁ ∧ h₁.Drops h') ∨
      alloc.usecase = false ∧ ok = false ∧ h' = h := by
  unfold enableOutputPath at hen
  split at hen
  · rename_i halloc
    obtain ⟨rfl, rfl⟩ := Prod.mk.inj (Option.some.inj hen)
    exact .inr ⟨Bool.not_eq_true _ ▸ halloc, rfl, rfl⟩
  · rename_i halloc
    obtain ⟨h₁, hselect, hpair⟩ := Option.map_eq_some_iff.mp hen
    obtain ⟨rfl, rfl⟩ := Prod.mk.inj hpair
    exact .inl ⟨not_not.mp halloc, rfl, _, listOutput_adds h o alloc, drops_selectDevices hselect⟩

/-- What an operation did that may have listed `u`. -/
def Listing (h : Hal) (u : Option AudioUsecase) (h' : Hal) : Prop :=
  match u with
  | some u => ∃ h₁, h.Adds u h₁ ∧ h₁.Drops h'
  | none => h.Drops h' ∨ h.ListsCall h'

theorem Listing.of_drops (hd : h.Drops h') : h.Listing none h' := .inl hd

theorem outStart_listing {alloc : PathAlloc} {ready : Bool}
    (hstart : h.outStart o alloc ready = some h') :
    h.Listing (h.lists (.outStart o alloc ready)) h' := by
  unfold outStart at hstart
  split at hstart
  · rename_i hstandby
    obtain ⟨⟨ok, h₁⟩, hout, rfl⟩ := Option.map_eq_some_iff.mp hstart
    obtain ⟨⟨ok₂, h₂⟩, hen, hopen⟩ := Option.map_eq_some_iff.mp hout
    have hlast : h₁.Drops (if ok = true then h₁.modifyOut o ({ · with standby := false }) else h₁) := by
      split
      · exact drops_modifyOut h₁ o _
      · exact .refl h₁
    dsimp only [lists]
    rcases enableOutputPath_adds hen with ⟨halloc, rfl, h₃, hadds, hdrops⟩ | ⟨halloc, rfl, rfl⟩
    · rw [if_pos ⟨hstandby, halloc⟩]
      have hopened := drops_openOutput h₂ o ready
      rw [show h₂.openOutput o ready = (ok, h₁) from hopen] at hopened
      exact ⟨h₃, hadds, (hdrops.trans hopened).trans hlast⟩
    · rw [if_neg fun hboth => absurd (halloc ▸ hboth.2) Bool.false_ne_true]
      obtain ⟨rfl, rfl⟩ := Prod.mk.inj (show (false, h₂) = (ok, h₁) from hopen)
      exact .of_drops hlast
  · cases hstart

theorem outWriteOffload_listing {w : OffloadWrite} (hwrite : h.outWriteOffload o w = some h') :
    h.Listing (h.lists (.outWriteOffload o w)) h' := by
  unfold outWriteOffload at hwrite
  split at hwrite
  · cases hwrite
  rename_i hactive
  have hawake : ¬(h.outs o).standby = true := fun hbad => hactive (.inl hbad)
  dsimp only [lists]
  split at hwrite
  · rename_i hstate
    obtain ⟨⟨ok, h₁⟩, hen, hrest⟩ := Option.bind_eq_some_iff.mp hwrite
    rcases enableOutputPath_adds hen with ⟨halloc, rfl, h₂, hadds, hdrops⟩ | ⟨halloc, rfl, rfl⟩
    · rw [if_pos ⟨hawake, hstate, halloc⟩]
      exact ⟨h₂, hadds, hdrops.trans (drops_writeCompress hrest)⟩
    · rw [if_neg fun hall => absurd (halloc ▸ hall.2.2) Bool.false_ne_true]
      have hsame : some h₁ = some h' := hrest
      obtain rfl := Option.some.inj hsame
      exact .of_drops (.refl _)
  · rename_i hstate
    rw [if_neg fun hall => hstate hall.2.1]
    exact .of_drops (drops_writeCompress hwrite)

theorem outResume_listing {alloc : PathAlloc} {succeeds : Bool}
    (hresume : h.outResume o alloc succeeds = some h') :
    h.Listing (h.lists (.outResume o alloc succeeds)) h' := by
  unfold outResume at hresume
  split at hresume
  · cases hresume
  dsimp only [lists]
  split at hresume
  · rename_i hpaused
    obtain ⟨⟨ok, h₁⟩, hen, rfl⟩ := Option.map_eq_some_iff.mp hresume
    have hlast : h₁.Drops ((h₁.callCompress o .resume succeeds).modifyOut o
        ({ · with offloadState := .playing })) :=
      (drops_callCompress h₁ o _ _).trans (drops_modifyOut _ o _)
    rcases enableOutputPath_adds hen with ⟨halloc, rfl, h₂, hadds, hdrops⟩ | ⟨halloc, rfl, rfl⟩
    · rw [if_pos ⟨hpaused.1, hpaused.2, halloc⟩]
      exact ⟨h₂, hadds, hdrops.trans hlast⟩
    · rw [if_neg fun hall => absurd (halloc ▸ hall.2.2) Bool.false_ne_true]
      exact .of_drops hlast
  · rename_i hother
    rw [if_neg fun hall => hother ⟨hall.1, hall.2.1⟩]
    obtain rfl := Option.some.inj hresume
    exact .of_drops (.refl h)

theorem inStart_listing {start : InputStart} (hstart : h.inStart i start = some h') :
    h.Listing (h.lists (.inStart i start)) h' := by
  unfold inStart at hstart
  split at hstart
  · rename_i hstandby
    obtain ⟨⟨status, h₁⟩, hin, rfl⟩ := Option.map_eq_some_iff.mp hstart
    have hlast : h₁.Drops (if status = 0 then h₁.modifyIn i ({ · with standby := false }) else h₁) := by
      split
      · exact drops_modifyIn h₁ i _
      · exact .refl h₁
    have hfailed : h.Drops { h with activeInput := none } :=
      ⟨.refl _, List.Sublist.refl _, rfl, .inr rfl⟩
    dsimp only [lists, startsUsecase]
    rw [if_pos hstandby]
    unfold startInputStream at hin
    dsimp only at hin
    cases hprofile : getPcmDevice (h.ins i).usecaseType (h.ins i).devices with
    | none =>
      rw [hprofile] at hin
      obtain ⟨_, rfl⟩ := Prod.mk.inj (Option.some.inj hin)
      exact .of_drops (hfailed.trans hlast)
    | some profile =>
      rw [hprofile] at hin
      dsimp only at hin ⊢
      split at hin
      · rename_i hfails
        rw [if_neg fun hboth => hfails.elim (fun h => h hboth.1) (fun h => h hboth.2)]
        obtain ⟨_, rfl⟩ := Prod.mk.inj (Option.some.inj hin)
        exact .of_drops (hfailed.trans hlast)
      · rename_i halloc
        obtain ⟨husecase, hpcm⟩ := not_or.mp halloc
        rw [if_pos ⟨not_not.mp husecase, not_not.mp hpcm⟩]
        obtain ⟨h₂, hlist, hopen⟩ := Option.map_eq_some_iff.mp hin
        have hopened := drops_openInput
          ((h₂.setInputConfig i profile).takeInEcho i start.echoReference) i
          (h₂.resamplerStatus i profile start) start.ready
        rw [hopen] at hopened
        have hselect : ({ h with activeInput := some i }.listInput i profile).Drops h₂ :=
          drops_selectDevices hlist
        have hconfig : h₂.Drops (h₂.setInputConfig i profile) := drops_modifyIn h₂ i _
        exact ⟨_, listInput_adds h i profile,
          (((hselect.trans hconfig).trans (drops_takeInEcho _ i _)).trans hopened).trans hlast⟩
  · cases hstart

theorem startVoiceCall_listing (h₀ : Hal) (hd : h₀.Drops h) (hl : h₀.Listed → h.Listed)
    (hcall : h.inCall = false) {allocated : Bool} (hstart : h.startVoiceCall allocated = some h') :
    h₀.Drops h' ∨ h₀.ListsCall h' := by
  unfold startVoiceCall at hstart
  split at hstart
  · obtain rfl := Option.some.inj hstart
    exact .inl hd
  split at hstart
  · cases hstart
  · rename_i o hprimary
    exact .inr ⟨h, o, hd, hl, hcall, hprimary, drops_selectDevices hstart⟩

theorem restartVoiceCall_listing (h₀ : Hal) (hd : h₀.Drops h) (hl : h₀.Listed → h.Listed)
    {allocated : Bool} (hstart : h.stopVoiceCall.startVoiceCall allocated = some h') :
    h₀.Drops h' ∨ h₀.ListsCall h' :=
  startVoiceCall_listing h₀ (hd.trans (drops_stopVoiceCall h))
    (fun hlisted => stopVoiceCall_listed (hl hlisted)) h.stopVoiceCall_inCall hstart

theorem outSetRouting_listing {val : AudioDevices} {allocated : Bool}
    (hset : h.outSetRouting o val allocated = some h') : h.Drops h' ∨ h.ListsCall h' := by
  unfold outSetRouting at hset
  split at hset
  · obtain rfl := Option.some.inj hset
    exact .inl (.refl h)
  obtain ⟨h₁, hroute, hfollow⟩ := Option.bind_eq_some_iff.mp hset
  have hdev := drops_modifyOut h o ({ · with devices := val })
  have hdevl : h.Listed → (h.modifyOut o ({ · with devices := val })).Listed :=
    fun hl => hl.of_kinds rfl rfl
  have hrouted : h.Drops h₁ ∧ (h.Listed → h₁.Listed) := by
    split at hroute
    · obtain rfl := Option.some.inj hroute
      exact ⟨hdev, hdevl⟩
    · refine ⟨hdev.trans (drops_rerouteOut hroute), fun hl => ?_⟩
      exact listed_on.rerouteOut trivial (fun _ _ => trivial) hroute (hdevl hl)
  have hsco := hrouted.1.trans (drops_switchBtSco h₁ (h₁.outs o).devices)
  have hscol : h.Listed → (h₁.switchBtSco (h₁.outs o).devices).Listed :=
    fun hl => listed_on.switchBtSco h₁ _ (hrouted.2 hl)
  unfold followCall at hfollow
  split at hfollow
  · split at hfollow
    · exact restartVoiceCall_listing h hsco hscol hfollow
    · rename_i hcall
      exact startVoiceCall_listing h hsco hscol (Bool.not_eq_true _ ▸ hcall) hfollow
  · obtain rfl := Option.some.inj hfollow
    exact .inl hsco

theorem wbAmrCallback_listing {wbAmrType : Int} {allocated : Bool}
    (hcallback : h.wbAmrCallback wbAmrType allocated = some h') : h.Drops h' ∨ h.ListsCall h' := by
  unfold wbAmrCallback at hcallback
  split at hcallback
  · obtain rfl := Option.some.inj hcallback
    exact .inl (.refl h)
  have htype : h.Drops { h with routing.session.wbAmrType := wbAmrType } :=
    ⟨.refl _, List.Sublist.refl _, rfl, .inl rfl⟩
  dsimp only at hcallback
  split at hcallback
  · exact restartVoiceCall_listing h htype (fun hl => hl.of_kinds rfl rfl) hcallback
  · obtain rfl := Option.some.inj hcallback
    exact .inl htype

/-- An operation gives references up, before and after it lists what it lists. -/
theorem step_listing {op : Op} (hstep : h.step op = some h') : h.Listing (h.lists op) h' := by
  cases op with
  | outStart o alloc ready => exact outStart_listing hstep
  | outWriteOffload o w => exact outWriteOffload_listing hstep
  | outResume o alloc succeeds => exact outResume_listing hstep
  | inStart i start => exact inStart_listing hstep
  | outSetRouting o val allocated => exact outSetRouting_listing hstep
  | wbAmrCallback wbAmrType allocated => exact wbAmrCallback_listing hstep
  | outSyncEcho o => exact .of_drops (drops_outSyncEcho hstep)
  | outPause o succeeds => exact .of_drops (drops_outPause hstep)
  | outFlush o succeeds => exact .of_drops (drops_outFlush hstep)
  | inSetParameters i source routing => exact .of_drops (drops_inSetParameters hstep)
  | addAudioEffect i aec auxChanged => exact .of_drops (drops_addAudioEffect hstep)
  | removeAudioEffect i aec => exact .of_drops (drops_removeAudioEffect hstep)
  | outStandby o =>
    obtain rfl := Option.some.inj hstep
    exact .of_drops (drops_outStandby h o)
  | inStandby i =>
    obtain rfl := Option.some.inj hstep
    exact .of_drops (drops_doInStandby h i)
  | setMode mode =>
    obtain rfl := Option.some.inj hstep
    exact .of_drops (drops_setMode h mode)
  | setBluetoothWb on =>
    obtain rfl := Option.some.inj hstep
    exact .of_drops (.of_eq rfl rfl rfl)
  | outWritePcm o =>
    have hwrite : h.outWritePcm o = some h' := hstep
    unfold outWritePcm at hwrite
    split at hwrite
    · cases hwrite
    · obtain rfl := Option.some.inj hwrite
      exact .of_drops (drops_foldl_writeEcho _ h o)
  | outDrain o earlyNotify =>
    have hdrain : h.outDrain o earlyNotify = some h' := hstep
    unfold outDrain at hdrain
    split at hdrain
    · cases hdrain
    · obtain rfl := Option.some.inj hdrain
      exact .of_drops (drops_modifyOut h o _)
  | offloadThread o =>
    have hthread : h.offloadThread o = some h' := hstep
    unfold offloadThread at hthread
    split at hthread
    · cases hthread
    · obtain rfl := Option.some.inj hthread
      exact .of_drops (drops_modifyOut h o _)
  | inRead i =>
    have hread : h.inRead i = some h' := hstep
    unfold inRead at hread
    split at hread
    · cases hread
    · obtain rfl := Option.some.inj hread
      exact .of_drops (drops_useEchoReference h _)

end Hal

end Universal7870.Audio
