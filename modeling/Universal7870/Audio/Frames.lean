import Universal7870.Audio.Hal

/-!
# What routing leaves alone

Enabling and disabling paths, calls and the PCM devices change the routing state and the streams'
lists of PCM devices.  The other fields of the streams, and the echo reference, stay as they are.
-/

namespace Universal7870.Audio.Hal

/-- Every stream is the same but for its PCM devices, and so are the fields of the device that
routing does not write. -/
structure SameStreams (h h' : Hal) : Prop where
  out : ∀ o, ∃ devs, h'.outs o = { h.outs o with pcmDevList := devs }
  input : ∀ i, ∃ devs, h'.ins i = { h.ins i with pcmDevList := devs }
  mode : h'.mode = h.mode
  primaryOutput : h'.primaryOutput = h.primaryOutput
  offloadFx : h'.offloadFx = h.offloadFx
  echo : h'.echo = h.echo

theorem SameStreams.refl (h : Hal) : h.SameStreams h :=
  ⟨fun _ => ⟨_, rfl⟩, fun _ => ⟨_, rfl⟩, rfl, rfl, rfl, rfl⟩

theorem SameStreams.trans {h h' h'' : Hal} (hs : h.SameStreams h') (hs' : h'.SameStreams h'') :
    h.SameStreams h'' := by
  refine ⟨fun o => ?_, fun i => ?_, hs'.mode.trans hs.mode,
    hs'.primaryOutput.trans hs.primaryOutput, hs'.offloadFx.trans hs.offloadFx,
    hs'.echo.trans hs.echo⟩
  · obtain ⟨devs, hdevs⟩ := hs.out o
    obtain ⟨devs', hdevs'⟩ := hs'.out o
    exact ⟨devs', by rw [hdevs', hdevs]⟩
  · obtain ⟨devs, hdevs⟩ := hs.input i
    obtain ⟨devs', hdevs'⟩ := hs'.input i
    exact ⟨devs', by rw [hdevs', hdevs]⟩

/-- Only fields that no stream has were written. -/
theorem SameStreams.of_eq {h h' : Hal} (houts : h'.outs = h.outs) (hins : h'.ins = h.ins)
    (hmode : h'.mode = h.mode) (hprimary : h'.primaryOutput = h.primaryOutput)
    (hfx : h'.offloadFx = h.offloadFx) (hecho : h'.echo = h.echo) : h.SameStreams h' :=
  ⟨fun _ => ⟨_, by rw [houts]⟩, fun _ => ⟨_, by rw [hins]⟩, hmode, hprimary, hfx, hecho⟩

theorem sameStreams_routing (h : Hal) (r : Routing) : h.SameStreams { h with routing := r } :=
  .of_eq rfl rfl rfl rfl rfl rfl

theorem sameStreams_outPcm (h : Hal) (o : OutId) (f : StreamOut → List PcmDevice) :
    h.SameStreams (h.modifyOut o fun out => { out with pcmDevList := f out }) := by
  refine ⟨fun o' => ?_, fun _ => ⟨_, rfl⟩, rfl, rfl, rfl, rfl⟩
  by_cases ho : o' = o
  · subst ho
    exact ⟨f (h.outs o'), Function.update_self o' _ _⟩
  · exact ⟨_, Function.update_of_ne ho _ _⟩

theorem sameStreams_inPcm (h : Hal) (i : InId) (f : StreamIn → List PcmDevice) :
    h.SameStreams (h.modifyIn i fun s => { s with pcmDevList := f s }) := by
  refine ⟨fun _ => ⟨_, rfl⟩, fun i' => ?_, rfl, rfl, rfl, rfl⟩
  by_cases hi : i' = i
  · subst hi
    exact ⟨f (h.ins i'), Function.update_self i' _ _⟩
  · exact ⟨_, Function.update_of_ne hi _ _⟩

/-! ## 1. Routing and paths -/

theorem sameStreams_selectDevices {h h' : Hal} {id : UsecaseId}
    (hsel : h.selectDevices id = some h') : h.SameStreams h' := by
  obtain ⟨r, _, rfl⟩ := Option.map_eq_some_iff.mp hsel
  exact sameStreams_routing h r

theorem sameStreams_enableOutputPath {h h' : Hal} {o : OutId} {alloc : PathAlloc} {ok : Bool}
    (hen : h.enableOutputPath o alloc = some (ok, h')) : h.SameStreams h' := by
  unfold enableOutputPath at hen
  split at hen
  · obtain ⟨_, rfl⟩ := Prod.mk.inj (Option.some.inj hen)
    exact .refl h
  · obtain ⟨h₁, hsel, hen⟩ := Option.map_eq_some_iff.mp hen
    obtain ⟨_, rfl⟩ := Prod.mk.inj hen
    have hpcm := sameStreams_outPcm h o
    exact ((hpcm _).trans (sameStreams_routing _ _)).trans (sameStreams_selectDevices hsel)

theorem sameStreams_disableOutputPath (h : Hal) (o : OutId) :
    h.SameStreams (h.disableOutputPath o) := by
  unfold disableOutputPath
  split
  · exact .refl h
  split
  · exact .refl h
  dsimp only
  split
  · exact ((sameStreams_routing h _).trans (sameStreams_outPcm _ _ _)).trans
      (sameStreams_routing _ _)
  · exact (sameStreams_routing h _).trans (sameStreams_routing _ _)

theorem sameStreams_stopInputStream (h : Hal) (i : InId) : h.SameStreams (h.stopInputStream i) := by
  have hactive : h.SameStreams { h with activeInput := none } := .of_eq rfl rfl rfl rfl rfl rfl
  unfold stopInputStream
  dsimp only
  split
  · exact hactive
  split
  · exact hactive
  · exact ((hactive.trans (sameStreams_routing _ _)).trans (sameStreams_routing _ _)).trans
      (sameStreams_inPcm _ i _)

theorem sameStreams_listInputStream {h h' : Hal} {i : InId} {profile : PcmDeviceProfile}
    (hlist : h.listInputStream i profile = some h') : h.SameStreams h' := by
  have hpcm := sameStreams_inPcm h i
  exact ((hpcm _).trans (sameStreams_routing _ _)).trans (sameStreams_selectDevices hlist)

/-! ## 2. Calls -/

theorem sameStreams_stopVoiceCall (h : Hal) : h.SameStreams h.stopVoiceCall := by
  have hsession : h.SameStreams { h with inCall := false }.stopVoiceSession :=
    .of_eq rfl rfl rfl rfl rfl rfl
  unfold stopVoiceCall
  dsimp only
  split
  · exact hsession
  split
  · exact hsession
  · exact ((hsession.trans (sameStreams_routing _ _)).trans (sameStreams_routing _ _)).trans
      (sameStreams_routing _ _)

theorem sameStreams_startVoiceCall {h h' : Hal} {allocated : Bool}
    (hstart : h.startVoiceCall allocated = some h') : h.SameStreams h' := by
  unfold startVoiceCall at hstart
  split at hstart
  · obtain rfl := Option.some.inj hstart
    exact .refl h
  split at hstart
  · cases hstart
  · have hcall : h.SameStreams { h with inCall := true } := .of_eq rfl rfl rfl rfl rfl rfl
    exact (hcall.trans (sameStreams_routing _ _)).trans (sameStreams_selectDevices hstart)

theorem sameStreams_switchBtSco (h : Hal) (devices : AudioDevices) :
    h.SameStreams (h.switchBtSco devices) := by
  unfold switchBtSco
  dsimp only
  split
  · exact .of_eq rfl rfl rfl rfl rfl rfl
  split
  · split <;> exact .of_eq rfl rfl rfl rfl rfl rfl
  · exact .refl h

theorem sameStreams_followCall {h h' : Hal} {o : OutId} {allocated : Bool}
    (hcall : h.followCall o allocated = some h') : h.SameStreams h' := by
  unfold followCall at hcall
  split at hcall
  · split at hcall
    · exact (sameStreams_stopVoiceCall h).trans (sameStreams_startVoiceCall hcall)
    · exact sameStreams_startVoiceCall hcall
  · obtain rfl := Option.some.inj hcall
    exact .refl h

theorem sameStreams_wbAmrCallback {h h' : Hal} {wbAmrType : Int} {allocated : Bool}
    (hcall : h.wbAmrCallback wbAmrType allocated = some h') : h.SameStreams h' := by
  unfold wbAmrCallback at hcall
  split at hcall
  · obtain rfl := Option.some.inj hcall
    exact .refl h
  have htype : h.SameStreams { h with routing.session.wbAmrType := wbAmrType } :=
    sameStreams_routing h _
  dsimp only at hcall
  split at hcall
  · exact (htype.trans (sameStreams_stopVoiceCall _)).trans (sameStreams_startVoiceCall hcall)
  · obtain rfl := Option.some.inj hcall
    exact htype

end Universal7870.Audio.Hal
