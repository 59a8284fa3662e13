import Universal7870.Audio.StreamRefs

/-!
# Who sets the active input

Nothing that is done for an output stream changes `adev->active_input`; what is done for an input
keeps or clears it, or makes that input the active one.
-/

namespace Universal7870.Audio

namespace Hal

variable {h h' : Hal} {o : OutId} {i : InId}

theorem selectDevices_activeInput {id : UsecaseId} (hsel : h.selectDevices id = some h') :
    h'.activeInput = h.activeInput := by
  obtain ⟨r, _, rfl⟩ := Option.map_eq_some_iff.mp hsel
  rfl

theorem enableOutputPath_activeInput {alloc : PathAlloc} {ok : Bool}
    (hen : h.enableOutputPath o alloc = some (ok, h')) : h'.activeInput = h.activeInput := by
  unfold enableOutputPath at hen
  split at hen
  · obtain ⟨_, rfl⟩ := Prod.mk.inj (Option.some.inj hen)
    rfl
  · obtain ⟨h₁, hselect, hpair⟩ := Option.map_eq_some_iff.mp hen
    obtain ⟨_, rfl⟩ := Prod.mk.inj hpair
    exact (selectDevices_activeInput hselect).trans rfl

theorem disableOutputPath_activeInput (h : Hal) (o : OutId) :
    (h.disableOutputPath o).activeInput = h.activeInput := by
  unfold disableOutputPath
  split
  · rfl
  split
  · rfl
  dsimp only
  split <;> rfl

theorem stopOutputStream_activeInput (h : Hal) (o : OutId) :
    (h.stopOutputStream o).activeInput = h.activeInput := by
  have hoffload : (h.stopOutputOffloadStream o).2.activeInput = h.activeInput := by
    unfold stopOutputOffloadStream
    split <;> rfl
  unfold stopOutputStream
  dsimp only
  split
  · exact (disableOutputPath_activeInput _ o).trans hoffload
  · exact hoffload

theorem openOutput_activeInput (h : Hal) (o : OutId) (ready : Bool) :
    (h.openOutput o ready).2.activeInput = h.activeInput := by
  unfold openOutput
  split
  · dsimp only
    split
    · exact stopOutputStream_activeInput _ o
    · rfl
  · split
    · exact stopOutputStream_activeInput _ o
    · rfl

theorem startOutputStream_activeInput {alloc : PathAlloc} {ready ok : Bool}
    (hstart : h.startOutputStream o alloc ready = some (ok, h')) :
    h'.activeInput = h.activeInput := by
  obtain ⟨⟨ok₁, h₁⟩, hen, hopen⟩ := Option.map_eq_some_iff.mp hstart
  have hpath := enableOutputPath_activeInput hen
  dsimp only at hopen
  split at hopen
  · have hopened := openOutput_activeInput h₁ o ready
    rw [hopen] at hopened
    exact hopened.trans hpath
  · obtain ⟨_, rfl⟩ := Prod.mk.inj hopen
    exact hpath

theorem callCompress_activeInput (h : Hal) (o : OutId) (call : CompressCall) (succeeds : Bool) :
    (h.callCompress o call succeeds).activeInput = h.activeInput := by
  unfold callCompress
  split <;> rfl

theorem dropOutEcho_activeInput (h : Hal) (o : OutId) :
    (h.dropOutEcho o).activeInput = h.activeInput := by
  unfold dropOutEcho
  split
  · rfl
  · dsimp only
    split <;> rfl

theorem doOutStandby_activeInput (h : Hal) (o : OutId) :
    (h.doOutStandby o).activeInput = h.activeInput := by
  unfold doOutStandby
  dsimp only
  split
  · exact (stopOutputStream_activeInput _ o).trans (dropOutEcho_activeInput _ o)
  · exact (stopOutputStream_activeInput _ o).trans (callCompress_activeInput _ o _ _)

theorem writeCompress_activeInput {w : OffloadWrite} (hwrite : h.writeCompress o w = some h') :
    h'.activeInput = h.activeInput := by
  unfold writeCompress at hwrite
  split at hwrite
  · cases hwrite
  obtain rfl := Option.some.inj hwrite
  have hfeed : (h.feedCompress o w.writesPart).activeInput = h.activeInput := by
    unfold feedCompress
    dsimp only
    split <;> rfl
  unfold startCompress
  split
  · exact (callCompress_activeInput _ o _ _).trans hfeed
  · exact hfeed

theorem releaseEchoReference_activeInput (h : Hal) (e : Option EchoRef) :
    (h.releaseEchoReference e).activeInput = h.activeInput := by
  cases e <;> rfl

theorem useEchoReference_activeInput (h : Hal) (e : Option EchoRef) :
    (h.useEchoReference e).activeInput = h.activeInput := by
  cases e <;> rfl

theorem foldl_writeEcho_activeInput (devs : List PcmDevice) (h : Hal) (o : OutId) :
    (devs.foldl (·.writeEcho o ·) h).activeInput = h.activeInput := by
  induction devs generalizing h with
  | nil => rfl
  | cons d devs ih =>
    have hfirst : (h.writeEcho o d).activeInput = h.activeInput := by
      unfold writeEcho
      split
      · exact useEchoReference_activeInput h _
      · rfl
    exact (ih _).trans hfirst

theorem stopVoiceCall_activeInput (h : Hal) : h.stopVoiceCall.activeInput = h.activeInput := by
  unfold stopVoiceCall
  dsimp only
  split
  · rfl
  split <;> rfl

theorem startVoiceCall_activeInput {allocated : Bool} (hstart : h.startVoiceCall allocated = some h') :
    h'.activeInput = h.activeInput := by
  unfold startVoiceCall at hstart
  split at hstart
  · obtain rfl := Option.some.inj hstart
    rfl
  split at hstart
  · cases hstart
  · exact (selectDevices_activeInput hstart).trans rfl

theorem switchBtSco_activeInput (h : Hal) (devices : AudioDevices) :
    (h.switchBtSco devices).activeInput = h.activeInput := by
  unfold switchBtSco
  dsimp only
  split
  · rfl
  split
  · split <;> rfl
  · rfl

theorem rerouteOut_activeInput {val : AudioDevices} (hroute : h.rerouteOut o val = some h') :
    h'.activeInput = h.activeInput := by
  unfold rerouteOut at hroute
  split at hroute
  · obtain rfl := Option.some.inj hroute
    rfl
  split at hroute
  · obtain rfl := Option.some.inj hroute
    exact doOutStandby_activeInput h o
  · refine (selectDevices_activeInput hroute).trans ?_
    split <;> rfl

theorem followCall_activeInput {allocated : Bool} (hfollow : h.followCall o allocated = some h') :
    h'.activeInput = h.activeInput := by
  unfold followCall at hfollow
  split at hfollow
  · split at hfollow
    · exact (startVoiceCall_activeInput hfollow).trans (stopVoiceCall_activeInput h)
    · exact startVoiceCall_activeInput hfollow
  · obtain rfl := Option.some.inj hfollow
    rfl

theorem outSetRouting_activeInput {val : AudioDevices} {allocated : Bool}
    (hset : h.outSetRouting o val allocated = some h') : h'.activeInput = h.activeInput := by
  unfold outSetRouting at hset
  split at hset
  · obtain rfl := Option.some.inj hset
    rfl
  obtain ⟨h₁, hroute, hfollow⟩ := Option.bind_eq_some_iff.mp hset
  have hrouted : h₁.activeInput = h.activeInput := by
    split at hroute
    · obtain rfl := Option.some.inj hroute
      rfl
    · exact (rerouteOut_activeInput hroute).trans rfl
  exact ((followCall_activeInput hfollow).trans (switchBtSco_activeInput h₁ _)).trans hrouted

/-- `start_input_stream` makes its stream the active one, or leaves none. -/
theorem startInputStream_activeInput {start : InputStart} {status : Int}
    (hstart : h.startInputStream i start = some (status, h')) :
    h'.activeInput = some i ∨ h'.activeInput = none := by
  unfold startInputStream at hstart
  dsimp only at hstart
  split at hstart
  · obtain ⟨_, rfl⟩ := Prod.mk.inj (Option.some.inj hstart)
    exact .inr rfl
  rename_i profile _
  split at hstart
  · obtain ⟨_, rfl⟩ := Prod.mk.inj (Option.some.inj hstart)
    exact .inr rfl
  obtain ⟨h₁, hlist, hopen⟩ := Option.map_eq_some_iff.mp hstart
  have hlisted : h₁.activeInput = some i := (selectDevices_activeInput hlist).trans rfl
  have hconfig : h₁.Drops (h₁.setInputConfig i profile) := drops_modifyIn h₁ i _
  have hopened := drops_openInput ((h₁.setInputConfig i profile).takeInEcho i start.echoReference) i
    (h₁.resamplerStatus i profile start) start.ready
  rw [hopen] at hopened
  have hdrops : h₁.Drops h' := (hconfig.trans (drops_takeInEcho _ i _)).trans hopened
  rcases hdrops.activeInput with hsame | hnone
  · exact .inl (hsame.trans hlisted)
  · exact .inr hnone

end Hal

end Universal7870.Audio
