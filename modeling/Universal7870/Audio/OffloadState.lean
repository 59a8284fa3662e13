import Universal7870.Audio.CommonDevice

/-!
# The state of an offload stream

`offload_state` against the stream's standby, its compress handle and the route of the offload
usecase, over all runs of the HAL.
-/

namespace Universal7870.Audio

open Lib

/-! ## 1. Selecting devices -/

/-- No output stream, read as an input stream, names the offload usecase. -/
def Settings.ReadsNoOffload (v : Settings) : Prop :=
  ∀ out, (v.asInput out).usecase ≠ .audioPlaybackOffload

/-- There is a sound device for a playback on these devices. -/
def Settings.FindsDevice (v : Settings) (r : Routing) (devices : AudioDevices) : Prop :=
  (v.callDevices r).1 ≠ .none ∨ v.outputSndDevice r devices ≠ .none

namespace Routing

variable {v : Settings} {r r' : Routing} {id : UsecaseId}

/-- The recording that is selected first is not the offload usecase. -/
theorem selectsFirst_ne (hreads : v.ReadsNoOffload) (r : Routing) (stream : StreamRef)
    (hfirst : v.selectsFirst r stream = some id) : id ≠ .audioPlaybackOffload := by
  unfold Settings.selectsFirst at hfirst
  split at hfirst
  · obtain ⟨input, hinput, rfl⟩ := Option.map_eq_some_iff.mp hfirst
    obtain ⟨hactive, -⟩ := Option.filter_eq_some_iff.mp hinput
    unfold Settings.activeInputOf at hactive
    obtain ⟨u, -, rfl⟩ := Option.map_eq_some_iff.mp hactive
    cases u.stream with
    | output o => exact hreads _
    | input i =>
      show (v.ins i).usecase ≠ _
      rw [(v.ins i).usecase_eq]
      exact nofun
  · cases hfirst

theorem OffloadRouted.setDevices (h : r.OffloadRouted) (uc : Nat) (devices : AudioDevices) :
    (r.setDevices uc devices).OffloadRouted :=
  h.modifyUsecase uc fun _ _ hdev => hdev

/-- A selection for another usecase leaves the offload usecase routed. -/
theorem OffloadRouted.selectDevicesAt (hreads : v.ReadsNoOffload) {depth : Nat}
    (h : r.OffloadRouted) (hid : id ≠ .audioPlaybackOffload)
    (hsel : v.selectDevicesAt depth r id = some r') : r'.OffloadRouted := by
  induction depth generalizing r r' id with
  | zero => cases hsel
  | succ depth ih =>
    unfold Settings.selectDevicesAt at hsel
    split at hsel
    · obtain rfl := Option.some.inj hsel
      exact h
    rename_i uc huc
    split at hsel
    · obtain rfl := Option.some.inj hsel
      exact h
    rename_i u hu
    have huid := getUsecaseFromId_id huc hu
    have hswitch (r₁ : Routing) (out input : SndDevice) (h₁ : r₁.OffloadRouted)
        (hkinds : r₁.kinds = r.kinds) : (r₁.switchDevices uc out input).OffloadRouted := by
      refine h₁.switchDevices uc fun w hw hoffload => absurd ?_ hid
      have hkind := kind_at hkinds hu hw
      rw [← huid, ← hoffload]
      exact (congrArg Prod.fst hkind).symm
    have hset (devices : AudioDevices) := h.setDevices uc devices
    have hkinds (devices : AudioDevices) := r.kinds_setDevices uc devices
    dsimp only at hsel
    split at hsel
    · obtain rfl := Option.some.inj hsel
      exact hswitch _ _ _ (hset _) (hkinds _)
    · split at hsel
      · obtain rfl := Option.some.inj hsel
        exact hswitch _ _ _ (hset _) (hkinds _)
      · split at hsel
        · rename_i input hinput
          obtain ⟨r₁, hr₁, hsel⟩ := Option.bind_eq_some_iff.mp hsel
          obtain rfl := Option.some.inj hsel
          have hne := selectsFirst_ne hreads _ _ hinput
          exact hswitch _ _ _ (ih (hset _) hne hr₁)
            ((v.kinds_selectDevicesAt hr₁).trans (hkinds _))
        · obtain rfl := Option.some.inj hsel
          exact hswitch _ _ _ (hset _) (hkinds _)
    · obtain rfl := Option.some.inj hsel
      exact hswitch _ _ _ (hset _) (hkinds _)
    · obtain rfl := Option.some.inj hsel
      exact hswitch _ _ _ h rfl

/-- The selection for a listed offload usecase routes it where there is a device for its stream. -/
theorem offloadRouted_selectDevices {o : OutId} (hproper : r.Proper o) {w : AudioUsecase}
    (hw : w ∈ r.usecaseList) (hwid : w.id = .audioPlaybackOffload)
    (hdev : v.FindsDevice r (v.outs o).devices)
    (hsel : v.selectDevices r .audioPlaybackOffload = some r') : r'.OffloadRouted := by
  have hfound : (r.getUsecaseFromId .audioPlaybackOffload).isSome := by
    unfold getUsecaseFromId
    rw [List.findIdx?_isSome]
    exact List.any_eq_true.mpr ⟨w, hw, decide_eq_true hwid⟩
  obtain ⟨uc, huc⟩ := Option.isSome_iff_exists.mp hfound
  have hlt := (List.findIdx?_eq_some_iff_getElem.mp huc).1
  have hu := List.getElem?_eq_getElem hlt
  generalize r.usecaseList[uc] = u at hu
  have huid := getUsecaseFromId_id huc hu
  obtain ⟨htype, hstream⟩ := (hproper u (List.mem_of_getElem? hu)).1 huid
  have hswitch (r₁ : Routing) (out : SndDevice) (hout : out ≠ .none) (hkinds : r₁.kinds = r.kinds) :
      (r₁.switchDevices uc out .none).OffloadRouted := by
    have hlen : uc < r₁.usecaseList.length := by
      have hsame : r₁.usecaseList.length = r.usecaseList.length := by
        simpa [kinds] using congrArg List.length hkinds
      rwa [hsame]
    have hx := List.getElem?_eq_getElem hlen
    have hkind := congrArg Prod.fst (kind_at hkinds hu hx)
    exact offloadRouted_switchDevices hx (hkind.trans huid) hout
  have hkinds := r.kinds_setDevices uc (v.outputDevicesAt u.stream)
  have hdevices : v.outputDevicesAt u.stream = (v.outs o).devices := by rw [hstream]; rfl
  unfold Settings.selectDevices Settings.selectDevicesAt at hsel
  rw [huc] at hsel
  dsimp only at hsel
  rw [hu] at hsel
  dsimp only at hsel
  rw [htype] at hsel
  dsimp only at hsel
  by_cases hcall : (v.callDevices r).1 = .none
  · have hout : v.outputSndDevice r (v.outputDevicesAt u.stream) ≠ .none :=
      hdevices ▸ hdev.resolve_left (not_not.mpr hcall)
    rw [if_neg (not_not.mpr hcall)] at hsel
    split at hsel
    · obtain ⟨r₁, hr₁, hsel⟩ := Option.bind_eq_some_iff.mp hsel
      obtain rfl := Option.some.inj hsel
      exact hswitch _ _ hout ((v.kinds_selectDevicesAt hr₁).trans hkinds)
    · obtain rfl := Option.some.inj hsel
      exact hswitch _ _ hout hkinds
  · rw [if_pos hcall] at hsel
    obtain rfl := Option.some.inj hsel
    exact hswitch _ _ hcall hkinds

theorem OffloadRouted.removed (h : r.OffloadRouted) {uc : Nat} {u : AudioUsecase}
    (hu : r.usecaseList[uc]? = some u) (hne : u.id ≠ .audioPlaybackOffload)
    (hlist : r'.usecaseList = r.usecaseList.eraseIdx uc) : r'.OffloadRouted := by
  obtain ⟨w, hw, hdev⟩ := h
  obtain ⟨i, hi⟩ := List.mem_iff_getElem?.mp hw
  refine ⟨w, ?_, hdev⟩
  rw [hlist]
  refine List.mem_eraseIdx_iff_getElem?.mpr ⟨i, fun hsame => hne ?_, hi⟩
  subst hsame
  rw [← Option.some.inj (hi.symm.trans hu)]
  exact hdev.1

theorem OffloadRouted.added (h : r.OffloadRouted) {u : AudioUsecase}
    (hlist : r'.usecaseList = r.usecaseList ++ [u]) : r'.OffloadRouted := by
  obtain ⟨w, hw, hdev⟩ := h
  refine ⟨w, ?_, hdev⟩
  rw [hlist]
  exact List.mem_append_left _ hw

end Routing

/-! ## 2. What operations leave alone -/

namespace Hal

/-- `o` is the only offload stream, and the offload usecase is its usecase. -/
structure Serves (o : OutId) (h : Hal) : Prop where
  only : ∀ o', (h.outs o').isOffload ↔ o' = o
  reads : h.toSettings.ReadsNoOffload
  proper : h.routing.Proper o

variable {o : OutId} {h h' h'' : Hal}

theorem Serves.of_usecases (hs : h.Serves o)
    (husecase : ∀ o', (h'.outs o').usecase = (h.outs o').usecase)
    (hview : h'.asInput = h.asInput) (hproper : h'.routing.Proper o) : h'.Serves o where
  only o' := by
    unfold StreamOut.isOffload
    rw [husecase]
    exact hs.only o'
  reads := by
    unfold Settings.ReadsNoOffload
    rw [hview]
    exact hs.reads
  proper := hproper

theorem Serves.usecase (hs : h.Serves o) : (h.outs o).usecase = .audioPlaybackOffload :=
  (hs.only o).mpr rfl

theorem Serves.usecase_ne (hs : h.Serves o) {o' : OutId} (hne : o' ≠ o) :
    (h.outs o').usecase ≠ .audioPlaybackOffload :=
  fun husecase => hne ((hs.only o').mp husecase)

theorem Serves.owns_ne (hs : h.Serves o) {id : UsecaseId} (howns : h.Owns (· ≠ o) id) :
    id ≠ .audioPlaybackOffload := by
  rcases howns with rfl | ⟨o', hne, rfl⟩
  · exact nofun
  · exact hs.usecase_ne hne

theorem Serves.select (hs : h.Serves o) {id : UsecaseId} (hsel : h.selectDevices id = some h') :
    h'.Serves o := by
  have hkinds := (kinds_selectDevices hsel).1
  obtain ⟨r, hr, rfl⟩ := Option.map_eq_some_iff.mp hsel
  exact hs.of_usecases (fun _ => rfl) rfl (hs.proper.of_kinds hkinds)

theorem proper_addUsecase {r : Routing} (hr : r.Proper o) {u : AudioUsecase} (hu : u.Proper o) :
    (r.addUsecase u).Proper o := by
  intro w hw
  rcases List.mem_append.mp hw with hold | hnew
  · exact hr w hold
  · rw [List.mem_singleton.mp hnew]
    exact hu

theorem Serves.proper_of_new (hs : h.Serves o) {S : OutId → Prop} {u : AudioUsecase} (hnew : u.New)
    (hlists : h.Lists S u) : u.Proper o := by
  refine ⟨fun hid => ⟨hnew.consistent.type_of_output (by rw [hid]; rfl), ?_⟩,
    hnew.consistent.type_of_capture, fun hid => absurd hid hnew.not_call⟩
  rcases hlists with hcapture | ⟨o', -, husecase, hstream⟩
  · rw [hid] at hcapture
    cases hcapture
  · rw [hstream, (hs.only o').mp (husecase.trans hid)]

theorem proper_of_subset {r r' : Routing} (hr : r.Proper o)
    (hsub : ∀ u ∈ r'.usecaseList, u ∈ r.usecaseList) : r'.Proper o :=
  fun u hu => hr u (hsub u hu)

theorem Serves.listCall (hs : h.Serves o) (o' : OutId) : (h.listCall o').Serves o :=
  hs.of_usecases (fun _ => rfl) rfl
    (proper_addUsecase hs.proper ⟨nofun, nofun, fun _ => rfl⟩)

theorem stopVoiceCall_streams (h : Hal) :
    h.stopVoiceCall.outs = h.outs ∧ h.stopVoiceCall.asInput = h.asInput := by
  unfold stopVoiceCall
  dsimp only
  split
  · exact ⟨rfl, rfl⟩
  split
  · exact ⟨rfl, rfl⟩
  · exact ⟨rfl, rfl⟩

theorem leaveSpeaker_streams (h : Hal) (o' : OutId) (uc : Nat) :
    (h.leaveSpeaker o' uc).outs = h.outs ∧ (h.leaveSpeaker o' uc).asInput = h.asInput := by
  unfold leaveSpeaker
  split
  · exact ⟨rfl, rfl⟩
  · exact ⟨rfl, rfl⟩

theorem Serves.stopVoiceCall (hs : h.Serves o) : h.stopVoiceCall.Serves o :=
  hs.of_usecases (fun _ => by rw [h.stopVoiceCall_streams.1]) h.stopVoiceCall_streams.2
    (proper_of_subset hs.proper h.stopVoiceCall_subset)

theorem Serves.leaveSpeaker (hs : h.Serves o) (o' : OutId) (uc : Nat) :
    (h.leaveSpeaker o' uc).Serves o :=
  hs.of_usecases (fun _ => by rw [(h.leaveSpeaker_streams o' uc).1])
    (h.leaveSpeaker_streams o' uc).2 (hs.proper.of_kinds (h.kinds_leaveSpeaker o' uc))

/-- Whatever is done, the offload usecase is that of the stream. -/
theorem serves_closed (S : OutId → Prop) :
    ClosedOn S (fun _ _ => True) fun h h' => h.Serves o → h'.Serves o where
  refl _ hs := hs
  trans hk hk' hs := hk' (hk hs)
  frame hf hs := hs.of_usecases hf.usecase hf.asInput (hf.routing ▸ hs.proper)
  session _ _ hs := hs.of_usecases (fun _ => rfl) rfl hs.proper
  select _ hsel hs := hs.select hsel
  add _ _ hnew hlists hs :=
    hs.of_usecases (fun _ => rfl) rfl (proper_addUsecase hs.proper (hs.proper_of_new hnew hlists))
  remove h uc u d _ _ _ hs := by
    refine hs.of_usecases (fun _ => rfl) rfl (proper_of_subset hs.proper fun w hw => ?_)
    change w ∈ ((h.routing.disableSndDevice u d).usecaseList).eraseIdx uc at hw
    rw [Routing.disableSndDevice_usecaseList] at hw
    exact List.mem_of_mem_eraseIdx hw
  stopCall _ hs := hs.stopVoiceCall
  startCall _ _ hsel hs := (hs.listCall _).select hsel
  reroute _ _ _ hsel hs := (hs.leaveSpeaker _ _).select hsel

/-- The stream is the same but for its PCM devices, and its usecase stays routed. -/
structure Kept (o : OutId) (h h' : Hal) : Prop where
  out : ∃ devs, h'.outs o = { h.outs o with pcmDevList := devs }
  routed : h.routing.OffloadRouted → h'.routing.OffloadRouted

theorem Kept.of_eq (houts : h'.outs = h.outs)
    (hrouted : h.routing.OffloadRouted → h'.routing.OffloadRouted) : h.Kept o h' :=
  ⟨⟨_, by rw [houts]⟩, hrouted⟩

theorem Kept.trans (hk : h.Kept o h') (hk' : h'.Kept o h'') : h.Kept o h'' where
  out := by
    obtain ⟨devs, hdevs⟩ := hk.out
    obtain ⟨devs', hdevs'⟩ := hk'.out
    exact ⟨devs', by rw [hdevs', hdevs]⟩
  routed hr := hk'.routed (hk.routed hr)

theorem Kept.select (hs : h.Serves o) {id : UsecaseId} (hid : id ≠ .audioPlaybackOffload)
    (hsel : h.selectDevices id = some h') : h.Kept o h' := by
  obtain ⟨r, hr, rfl⟩ := Option.map_eq_some_iff.mp hsel
  exact .of_eq rfl fun hrouted => hrouted.selectDevicesAt hs.reads hid hr

theorem kept_stopVoiceCall (h : Hal) : h.Kept o h.stopVoiceCall := by
  refine .of_eq h.stopVoiceCall_streams.1 ?_
  unfold stopVoiceCall
  dsimp only
  split
  · exact fun hrouted => hrouted
  rename_i uc huc
  split
  · exact fun hrouted => hrouted
  rename_i u hu
  have hid := Routing.getUsecaseFromId_id huc hu
  refine fun hrouted => hrouted.removed hu (by rw [hid]; exact nofun) ?_
  show (Routing.disableSndDevice _ _ _).usecaseList.eraseIdx uc = _
  rw [Routing.disableSndDevice_usecaseList]
  show (Routing.disableSndDevice _ _ _).usecaseList.eraseIdx uc = _
  rw [Routing.disableSndDevice_usecaseList]
  rfl

/-- Steps of anything but the stream keep it and its route. -/
theorem kept_closed (o : OutId) :
    ClosedOn (· ≠ o) (fun _ id => id ≠ .audioPlaybackOffload) fun h h' =>
      h.Serves o → h'.Serves o ∧ h.Kept o h' where
  refl _ hs := ⟨hs, .of_eq rfl fun hrouted => hrouted⟩
  trans hk hk' hs := ⟨(hk' (hk hs).1).1, (hk hs).2.trans (hk' (hk hs).1).2⟩
  frame hf hs := ⟨(serves_closed (· ≠ o)).frame hf hs, hf.out o (not_not.mpr rfl),
    fun hrouted => hf.routing ▸ hrouted⟩
  session h session hs :=
    ⟨(serves_closed (· ≠ o)).session h session hs, .of_eq rfl fun hrouted => hrouted⟩
  select hid hsel hs := ⟨hs.select hsel, .select hs hid hsel⟩
  add h _ hnew hlists hs :=
    ⟨(serves_closed (· ≠ o)).add h hnew hlists hs, .of_eq rfl fun hrouted => hrouted.added rfl⟩
  remove h uc u d hu huses howns hs := by
    refine ⟨(serves_closed (· ≠ o)).remove h hu huses howns hs,
      .of_eq rfl fun hrouted => hrouted.removed hu (hs.owns_ne howns) ?_⟩
    show ((h.routing.disableSndDevice u d).usecaseList).eraseIdx uc = _
    rw [Routing.disableSndDevice_usecaseList]
  stopCall h hs := ⟨hs.stopVoiceCall, kept_stopVoiceCall h⟩
  startCall {h h' o'} _ hid hsel hs := by
    have hlisted : h.Kept o (h.listCall o') := .of_eq rfl fun hrouted => hrouted.added rfl
    exact ⟨(hs.listCall o').select hsel, hlisted.trans (.select (hs.listCall o') hid hsel)⟩
  reroute {h h' o' uc} hne huc hid hsel hs := by
    have hpcm : ¬(h.outs o').isOffload := fun hoffload => hne ((hs.only o').mp hoffload)
    unfold Hal.leaveSpeaker at hsel
    rw [if_neg hpcm] at hsel
    exact ⟨hs.select hsel, .select hs hid hsel⟩

theorem selecting_enableOutputPath_ne {S : Hal → UsecaseId → Prop} {o' : OutId} {alloc : PathAlloc}
    (hsel : ∀ h', S h' (h.outs o').usecase) :
    Selecting S (h.enableOutputPathSelections o' alloc) := by
  intro s hs
  unfold enableOutputPathSelections at hs
  split at hs
  · cases hs
  · rw [List.mem_singleton.mp hs]
    exact hsel _

/-- No operation but those on the stream selects devices for its usecase. -/
theorem selecting_others (halone : h.Serves o) {op : Op} (hop : ∀ o' ∈ op.output, o' ≠ o) :
    Selecting (fun _ id => id ≠ .audioPlaybackOffload) (h.selections op) := by
  have henable (o' : OutId) (hne : o' ≠ o) (alloc : PathAlloc) :
      Selecting (fun _ id => id ≠ .audioPlaybackOffload) (h.enableOutputPathSelections o' alloc) :=
    selecting_enableOutputPath_ne fun _ => halone.usecase_ne hne
  cases op with
  | outStart o' alloc ready =>
    show Selecting _ (h.outStartSelections o' alloc)
    unfold outStartSelections
    split
    · exact henable o' (hop o' rfl) alloc
    · exact List.forall_mem_nil _
  | outWriteOffload o' w =>
    show Selecting _ (h.outWriteOffloadSelections o' w.alloc)
    unfold outWriteOffloadSelections
    split
    · exact List.forall_mem_nil _
    split
    · exact henable o' (hop o' rfl) w.alloc
    · exact List.forall_mem_nil _
  | outResume o' alloc succeeds =>
    show Selecting _ (h.outResumeSelections o' alloc)
    unfold outResumeSelections
    split
    · exact List.forall_mem_nil _
    split
    · exact henable o' (hop o' rfl) alloc
    · exact List.forall_mem_nil _
  | outSetRouting o' val allocated =>
    show Selecting _ (h.outSetRoutingSelections o' val allocated)
    unfold outSetRoutingSelections
    split
    · exact List.forall_mem_nil _
    intro s hs
    rcases List.mem_append.mp hs with hs | hs
    · have hout : (h.modifyOut o' ({ · with devices := val })).outs o' =
          { h.outs o' with devices := val } := Function.update_self ..
      unfold reroute at hs
      split at hs
      · cases hs
      dsimp only at hs
      unfold rerouteOutSelections at hs
      split at hs
      · cases hs
      split at hs
      · cases hs
      · rw [List.mem_singleton.mp hs, hout]
        exact halone.usecase_ne (hop o' rfl)
    · obtain ⟨h₁, _, hs⟩ := List.mem_flatMap.mp hs
      rw [voiceCall_of_followCall s hs]
      intro heq
      cases heq
  | outSyncEcho _ | outWritePcm _ | outStandby _ | outPause _ _ | outDrain _ _ | outFlush _ _
  | offloadThread _ => exact List.forall_mem_nil _
  | inStart _ _ | inSetParameters _ _ _ | addAudioEffect _ _ _ | removeAudioEffect _ _
  | wbAmrCallback _ _ | inRead _ | inStandby _ | setMode _ | setBluetoothWb _ =>
    intro s hs
    rcases recording_or_call rfl s hs with hid | hid
    · rw [hid]
      intro heq
      cases heq
    · rw [hid]
      intro heq
      cases heq

theorem kept_others (hs : h.Serves o) {op : Op} (hop : ∀ o' ∈ op.output, o' ≠ o)
    (hstep : h.step op = some h') : h.Kept o h' :=
  ((kept_closed o).step hop (selecting_others hs hop) hstep hs).2

/-! ## 3. The operations of the stream -/

/-- `modifyOut` at its own stream. -/
theorem outs_modifyOut (h : Hal) (o : OutId) (f : StreamOut → StreamOut) :
    (h.modifyOut o f).outs o = f (h.outs o) := Function.update_self ..

/-- How standby, `offload_state` and the handle belong together between two operations. -/
def Agrees (out : StreamOut) (routed : Prop) : Prop :=
  match out.standby, out.offloadState with
  | true, .idle | true, .pausedFlushed => True
  | true, .playing | true, .paused => False
  | false, .idle | false, .pausedFlushed => out.compr = some ⟨false, false⟩
  | false, .playing => out.compr = some ⟨true, false⟩ ∧ routed
  | false, .paused => out.compr = some ⟨true, true⟩

theorem agrees_pcm {out : StreamOut} {routed routed' : Prop} (h : Agrees out routed)
    (hrouted : routed → out.offloadState = .playing → routed') (devs : List PcmDevice) :
    Agrees { out with pcmDevList := devs } routed' := by
  cases hstandby : out.standby <;> cases hstate : out.offloadState <;>
    simp_all [Agrees]

theorem Kept.agrees (hk : h.Kept o h') (ha : Agrees (h.outs o) h.routing.OffloadRouted) :
    Agrees (h'.outs o) h'.routing.OffloadRouted := by
  obtain ⟨devs, hdevs⟩ := hk.out
  rw [hdevs]
  exact agrees_pcm ha (fun hrouted _ => hk.routed hrouted) devs

theorem not_playing_of_standby {out : StreamOut} {routed : Prop} (h : Agrees out routed)
    (hstandby : out.standby = true) : out.offloadState ≠ .playing ∧ out.offloadState ≠ .paused := by
  unfold Agrees at h
  rw [hstandby] at h
  cases hstate : out.offloadState with
  | idle => exact ⟨nofun, nofun⟩
  | pausedFlushed => exact ⟨nofun, nofun⟩
  | playing =>
    rw [hstate] at h
    exact h.elim
  | paused =>
    rw [hstate] at h
    exact h.elim

/-- The handle of a stream that is active and has not been started. -/
theorem compr_of_not_playing {out : StreamOut} {routed : Prop} (h : Agrees out routed)
    (hawake : out.standby = false)
    (hstate : out.offloadState = .idle ∨ out.offloadState = .pausedFlushed) :
    out.compr = some ⟨false, false⟩ := by
  unfold Agrees at h
  rw [hawake] at h
  rcases hstate with hstate | hstate
  · rw [hstate] at h
    exact h
  · rw [hstate] at h
    exact h

theorem compr_of_playing {out : StreamOut} {routed : Prop} (h : Agrees out routed)
    (hstate : out.offloadState = .playing) :
    out.standby = false ∧ out.compr = some ⟨true, false⟩ ∧ routed := by
  unfold Agrees at h
  rw [hstate] at h
  cases hstandby : out.standby with
  | true =>
    rw [hstandby] at h
    exact h.elim
  | false =>
    rw [hstandby] at h
    exact ⟨rfl, h⟩

theorem compr_of_paused {out : StreamOut} {routed : Prop} (h : Agrees out routed)
    (hstate : out.offloadState = .paused) :
    out.standby = false ∧ out.compr = some ⟨true, true⟩ := by
  unfold Agrees at h
  rw [hstate] at h
  cases hstandby : out.standby with
  | true =>
    rw [hstandby] at h
    exact h.elim
  | false =>
    rw [hstandby] at h
    exact ⟨rfl, h⟩

theorem agrees_asleep {out : StreamOut} (routed : Prop) (hstandby : out.standby = true)
    (hstate : out.offloadState ≠ .playing ∧ out.offloadState ≠ .paused) : Agrees out routed := by
  unfold Agrees
  rw [hstandby]
  cases hcase : out.offloadState with
  | idle => trivial
  | pausedFlushed => trivial
  | playing => exact absurd hcase hstate.1
  | paused => exact absurd hcase hstate.2

theorem enableOutputPath_ok {alloc : PathAlloc} {ok : Bool}
    (hen : h.enableOutputPath o alloc = some (ok, h')) :
    ok = alloc.usecase ∧ (ok = false → h' = h) := by
  unfold enableOutputPath at hen
  split at hen
  · rename_i halloc
    obtain ⟨rfl, rfl⟩ := Prod.mk.inj (Option.some.inj hen)
    exact ⟨(Bool.not_eq_true _ ▸ halloc).symm, fun _ => rfl⟩
  · rename_i halloc
    obtain ⟨h₁, -, hpair⟩ := Option.map_eq_some_iff.mp hen
    obtain ⟨rfl, -⟩ := Prod.mk.inj hpair
    exact ⟨(not_not.mp halloc).symm, fun heq => by cases heq⟩

/-- What is listed for the stream, before devices are selected. -/
theorem listOutput_spec (hs : h.Serves o) (alloc : PathAlloc) :
    (h.listOutput o alloc).Serves o ∧
      (∃ devs, (h.listOutput o alloc).outs o = { h.outs o with pcmDevList := devs }) ∧
      ∃ u : AudioUsecase, u.New ∧ u.id = .audioPlaybackOffload ∧
        (h.listOutput o alloc).routing = h.routing.addUsecase u := by
  unfold listOutput
  generalize (if alloc.pcmDevices then selectPcmProfiles .pcmPlayback (h.outs o).devices else []) =
    profiles
  have hout : (h.modifyOut o ({ · with pcmDevList := profiles.map fun p => ⟨p, false⟩ })).outs o =
      { h.outs o with pcmDevList := profiles.map fun p => ⟨p, false⟩ } := outs_modifyOut h o _
  have hframe : h.Frame (fun _ => True)
      (h.modifyOut o ({ · with pcmDevList := profiles.map fun p => ⟨p, false⟩ })) :=
    .pcm h o fun _ => profiles.map fun p => ⟨p, false⟩
  have hpcm := (serves_closed _).frame hframe hs
  dsimp only
  generalize h.modifyOut o ({ · with pcmDevList := profiles.map fun p => ⟨p, false⟩ }) = g
    at hout hframe hpcm ⊢
  refine ⟨(serves_closed fun _ => True).add g (outputUsecase_new g o profiles)
    (.inr ⟨o, trivial, rfl, rfl⟩) hpcm, ⟨_, hout⟩, _, outputUsecase_new g o profiles,
    hpcm.usecase, ?_⟩
  show g.routing.addUsecase _ = h.routing.addUsecase _
  rw [hframe.routing]

/-- The path of the stream leads to a sound device if there is one for its devices. -/
theorem routed_enableOutputPath (hs : h.Serves o) {alloc : PathAlloc}
    (hdev : h.toSettings.FindsDevice h.routing (h.outs o).devices)
    (hen : h.enableOutputPath o alloc = some (true, h')) : h'.routing.OffloadRouted := by
  unfold enableOutputPath at hen
  split at hen
  · cases (Prod.mk.inj (Option.some.inj hen)).1
  obtain ⟨h₁, hsel, hpair⟩ := Option.map_eq_some_iff.mp hen
  obtain ⟨-, rfl⟩ := Prod.mk.inj hpair
  change (h.listOutput o alloc).selectDevices ((h.listOutput o alloc).outs o).usecase = some h₁
    at hsel
  obtain ⟨hserves, ⟨devs, hout⟩, u, hnew, hid, hrouting⟩ := listOutput_spec hs alloc
  rw [hserves.usecase] at hsel
  obtain ⟨r, hr, rfl⟩ := Option.map_eq_some_iff.mp hsel
  have hcall : (h.listOutput o alloc).inCall = h.inCall := rfl
  apply Routing.offloadRouted_selectDevices hserves.proper (w := u) _ hid _ hr
  · rw [hrouting]
    exact List.mem_append_right _ (List.mem_singleton.mpr rfl)
  · rw [hout, hrouting]
    unfold Settings.FindsDevice
    rw [callDevices_add _ _ hcall _ hnew]
    exact hdev

theorem out_enableOutputPath {alloc : PathAlloc} {ok : Bool}
    (hen : h.enableOutputPath o alloc = some (ok, h')) :
    ∃ devs, h'.outs o = { h.outs o with pcmDevList := devs } :=
  (sameStreams_enableOutputPath hen).out o

theorem out_stopOutputStream (h : Hal) (o : OutId) :
    ∃ devs, (h.stopOutputStream o).outs o = { h.outs o with
      pcmDevList := devs
      offloadState := if h.offloadFx then .idle else (h.outs o).offloadState } := by
  have hstop : ∃ devs, (h.stopOutputOffloadStream o).2.outs o = { h.outs o with
      pcmDevList := devs
      offloadState := if h.offloadFx then .idle else (h.outs o).offloadState } := by
    unfold stopOutputOffloadStream
    split
    · exact ⟨_, outs_modifyOut h o _⟩
    · exact ⟨_, rfl⟩
  obtain ⟨devs, hdevs⟩ := hstop
  unfold stopOutputStream
  dsimp only
  split
  · obtain ⟨devs', hdevs'⟩ := (sameStreams_disableOutputPath (h.stopOutputOffloadStream o).2 o).out o
    exact ⟨devs', by rw [hdevs', hdevs]⟩
  · exact ⟨devs, hdevs⟩

/-- The state is one a stream in standby may have, or it is left for the effects library. -/
def StandsBy (h : Hal) (o : OutId) : Prop :=
  h.offloadFx = true ∨ (h.outs o).offloadState ≠ .playing ∧ (h.outs o).offloadState ≠ .paused

theorem StandsBy.stopped (hstands : h.StandsBy o) {g : Hal} (hfx : g.offloadFx = h.offloadFx)
    (hstate : (g.outs o).offloadState = (h.outs o).offloadState) :
    ((g.stopOutputStream o).outs o).offloadState ≠ .playing ∧
      ((g.stopOutputStream o).outs o).offloadState ≠ .paused := by
  obtain ⟨devs, hdevs⟩ := out_stopOutputStream g o
  rw [hdevs]
  show (if g.offloadFx then OffloadState.idle else (g.outs o).offloadState) ≠ _ ∧
    (if g.offloadFx then OffloadState.idle else (g.outs o).offloadState) ≠ _
  rcases hstands with hlib | hnot
  · rw [hfx, if_pos hlib]
    exact ⟨nofun, nofun⟩
  · rw [hstate]
    split
    · exact ⟨nofun, nofun⟩
    · exact hnot

theorem agrees_doOutStandby (hs : h.Serves o) (hstands : h.StandsBy o) :
    Agrees ((h.doOutStandby o).outs o) (h.doOutStandby o).routing.OffloadRouted := by
  have hoffload : ((h.modifyOut o ({ · with standby := true })).outs o).isOffload := by
    rw [outs_modifyOut]
    exact hs.usecase
  unfold doOutStandby
  dsimp only
  rw [if_neg (not_not.mpr hoffload)]
  generalize hg : ((h.modifyOut o ({ · with standby := true })).stopCompressedOutput o true).modifyOut
    o ({ · with compr := none }) = g
  have hout : (g.outs o).standby = true ∧ (g.outs o).offloadState = (h.outs o).offloadState := by
    rw [← hg]
    unfold stopCompressedOutput callCompress
    rw [if_pos rfl, outs_modifyOut, outs_modifyOut, outs_modifyOut, outs_modifyOut]
    exact ⟨rfl, rfl⟩
  have hfx : g.offloadFx = h.offloadFx := by
    rw [← hg]
    rfl
  apply agrees_asleep
  · obtain ⟨devs, hdevs⟩ := out_stopOutputStream g o
    rw [hdevs]
    exact hout.1
  · exact hstands.stopped hfx hout.2

theorem agrees_outStart (hs : h.Serves o) (ha : Agrees (h.outs o) h.routing.OffloadRouted)
    {alloc : PathAlloc} {ready : Bool} (hstart : h.outStart o alloc ready = some h') :
    Agrees (h'.outs o) h'.routing.OffloadRouted := by
  unfold outStart at hstart
  split at hstart
  case isFalse => cases hstart
  rename_i hstandby
  have hstate := not_playing_of_standby ha hstandby
  obtain ⟨⟨ok, h₁⟩, hopened, rfl⟩ := Option.map_eq_some_iff.mp hstart
  obtain ⟨⟨enabled, h₀⟩, hen, hopen⟩ := Option.map_eq_some_iff.mp hopened
  obtain ⟨devs, hdevs⟩ := out_enableOutputPath hen
  dsimp only at hopen ⊢
  cases enabled with
  | false =>
    rw [if_neg Bool.false_ne_true] at hopen
    obtain ⟨rfl, rfl⟩ := Prod.mk.inj hopen
    rw [if_neg Bool.false_ne_true, (enableOutputPath_ok hen).2 rfl]
    exact ha
  | true =>
    rw [if_pos rfl] at hopen
    have hoffload : (h₀.outs o).isOffload := by
      rw [hdevs]
      exact hs.usecase
    unfold openOutput at hopen
    rw [if_neg (not_not.mpr hoffload)] at hopen
    cases ready with
    | false =>
      -- the path is given up again, the stream stays in standby
      rw [if_pos Bool.false_ne_true] at hopen
      obtain ⟨rfl, rfl⟩ := Prod.mk.inj hopen
      rw [if_neg Bool.false_ne_true]
      have hout : (h₀.modifyOut o ({ · with compr := none })).outs o =
          { h.outs o with pcmDevList := devs, compr := none } := by rw [outs_modifyOut, hdevs]
      apply agrees_asleep
      · obtain ⟨devs', hdevs'⟩ := out_stopOutputStream (h₀.modifyOut o ({ · with compr := none })) o
        rw [hdevs', hout]
        exact hstandby
      · have hstands : (h₀.modifyOut o ({ · with compr := none })).StandsBy o := by
          refine .inr ?_
          rw [hout]
          exact hstate
        exact hstands.stopped rfl rfl
    | true =>
      rw [if_neg (not_not.mpr rfl)] at hopen
      obtain ⟨rfl, rfl⟩ := Prod.mk.inj hopen
      rw [if_pos rfl, outs_modifyOut, outs_modifyOut, hdevs]
      unfold Agrees
      dsimp only
      cases hcase : (h.outs o).offloadState with
      | idle => rfl
      | pausedFlushed => rfl
      | playing => exact absurd hcase hstate.1
      | paused => exact absurd hcase hstate.2

/-- What a write leaves: the stream plays. -/
structure Plays (o : OutId) (h : Hal) : Prop where
  standby : (h.outs o).standby = false
  state : (h.outs o).offloadState = .playing
  compr : (h.outs o).compr = some ⟨true, false⟩
  routed : h.routing.OffloadRouted

theorem Plays.agrees (hp : h.Plays o) : Agrees (h.outs o) h.routing.OffloadRouted := by
  unfold Agrees
  rw [hp.standby, hp.state]
  exact ⟨hp.compr, hp.routed⟩

/-- A routed stream that plays, or that is to be started, plays after the data was written. -/
theorem plays_writeCompress {w : OffloadWrite} (hawake : (h.outs o).standby = false)
    (hrouted : h.routing.OffloadRouted)
    (hcompr : (h.outs o).offloadState = .playing ∧ (h.outs o).compr = some ⟨true, false⟩ ∨
      (h.outs o).offloadState ≠ .playing ∧ (h.outs o).compr = some ⟨false, false⟩ ∧ w.starts = true)
    (hwrite : h.writeCompress o w = some h') : h'.Plays o := by
  unfold writeCompress at hwrite
  split at hwrite
  · cases hwrite
  obtain rfl := Option.some.inj hwrite
  have hfeed : ∃ cmds, (h.feedCompress o w.writesPart).outs o = { h.outs o with
      sendNewMetadata := false
      offloadCmdList := cmds } := by
    unfold feedCompress sendOffloadCmd
    dsimp only
    split
    · exact ⟨_, (outs_modifyOut _ o _).trans (by rw [outs_modifyOut])⟩
    · exact ⟨_, outs_modifyOut h o _⟩
  have hrouting : (h.feedCompress o w.writesPart).routing = h.routing := by
    unfold feedCompress
    dsimp only
    split
    · rfl
    · rfl
  obtain ⟨cmds, hfeed⟩ := hfeed
  generalize h.feedCompress o w.writesPart = g at hfeed hrouting ⊢
  unfold startCompress
  rcases hcompr with ⟨hplaying, hcompr⟩ | ⟨hnot, hcompr, hstarts⟩
  · rw [if_neg (by rw [hfeed]; exact not_not.mpr hplaying)]
    exact ⟨by rw [hfeed]; exact hawake, by rw [hfeed]; exact hplaying,
      by rw [hfeed]; exact hcompr, by rwa [hrouting]⟩
  · rw [if_pos (by rw [hfeed]; exact hnot), hstarts]
    have hout : ((g.callCompress o .start true).modifyOut o ({ · with offloadState := .playing })).outs
        o = { g.outs o with
          compr := (g.outs o).compr.map (CompressCall.start).apply
          offloadState := .playing } := by
      unfold callCompress
      rw [if_pos rfl, outs_modifyOut, outs_modifyOut]
    refine ⟨?_, ?_, ?_, ?_⟩
    · rw [hout, hfeed]
      exact hawake
    · rw [hout]
    · rw [hout, hfeed]
      show (h.outs o).compr.map _ = _
      rw [hcompr]
      rfl
    · show g.routing.OffloadRouted
      rwa [hrouting]

/-- What a write needs: the stream has not been paused, a stream that is to be started is routed,
or is going to be, and the driver starts it. -/
def WritesWell (h : Hal) (o : OutId) (w : OffloadWrite) : Prop :=
  match (h.outs o).offloadState with
  | .playing => True
  | .idle => w.starts = true ∧ h.routing.OffloadRouted
  | .pausedFlushed => w.alloc.usecase = true →
      w.starts = true ∧ h.toSettings.FindsDevice h.routing (h.outs o).devices
  | .paused => False

/-- A write is refused its path, or the stream plays. -/
theorem plays_outWriteOffload (hs : h.Serves o)
    (ha : Agrees (h.outs o) h.routing.OffloadRouted) {w : OffloadWrite} (hw : h.WritesWell o w)
    (hwrite : h.outWriteOffload o w = some h') :
    h'.Plays o ∨ h' = h ∧ (h.outs o).offloadState = .pausedFlushed ∧ w.alloc.usecase = false := by
  unfold outWriteOffload at hwrite
  split at hwrite
  · cases hwrite
  rename_i hactive
  have hawake : (h.outs o).standby = false :=
    Bool.not_eq_true _ ▸ fun hstandby => hactive (.inl hstandby)
  unfold WritesWell at hw
  split at hwrite
  · rename_i hstate
    rw [hstate] at hw
    obtain ⟨⟨ok, h₁⟩, hen, hwrite⟩ := Option.bind_eq_some_iff.mp hwrite
    have hok := enableOutputPath_ok hen
    dsimp only at hwrite
    cases ok with
    | false =>
      rw [if_neg Bool.false_ne_true] at hwrite
      obtain rfl := Option.some.inj hwrite
      exact .inr ⟨hok.2 rfl, hstate, hok.1.symm⟩
    | true =>
      rw [if_pos rfl] at hwrite
      obtain ⟨hstarts, hdev⟩ := hw hok.1.symm
      obtain ⟨devs, hdevs⟩ := out_enableOutputPath hen
      refine .inl (plays_writeCompress ?_ (routed_enableOutputPath hs hdev hen) (.inr ?_) hwrite)
      · rw [hdevs]
        exact hawake
      · rw [hdevs]
        refine ⟨?_, compr_of_not_playing ha hawake (.inr hstate), hstarts⟩
        show (h.outs o).offloadState ≠ _
        rw [hstate]
        exact nofun
  · rename_i hflushed
    left
    cases hstate : (h.outs o).offloadState with
    | playing =>
      obtain ⟨-, hcompr, hrouted⟩ := compr_of_playing ha hstate
      exact plays_writeCompress hawake hrouted (.inl ⟨hstate, hcompr⟩) hwrite
    | idle =>
      rw [hstate] at hw
      refine plays_writeCompress hawake hw.2
        (.inr ⟨?_, compr_of_not_playing ha hawake (.inl hstate), hw.1⟩) hwrite
      rw [hstate]
      exact nofun
    | pausedFlushed => exact absurd hstate hflushed
    | paused =>
      rw [hstate] at hw
      exact hw.elim

theorem agrees_outPause (ha : Agrees (h.outs o) h.routing.OffloadRouted) {succeeds : Bool}
    (hok : (h.outs o).offloadState = .playing → succeeds = true)
    (hpause : h.outPause o succeeds = some h') :
    Agrees (h'.outs o) h'.routing.OffloadRouted := by
  unfold outPause at hpause
  split at hpause
  · cases hpause
  split at hpause
  · rename_i hplaying
    obtain ⟨hawake, hcompr, -⟩ := compr_of_playing ha hplaying.2
    obtain rfl := Option.some.inj hpause
    obtain ⟨devs, hdevs⟩ := (sameStreams_disableOutputPath ((h.callCompress o .pause succeeds).modifyOut
      o ({ · with offloadState := .paused })) o).out o
    have hpaused : (((h.callCompress o .pause succeeds).modifyOut o
        ({ · with offloadState := .paused })).outs o) = { h.outs o with
          compr := some ⟨true, true⟩
          offloadState := .paused } := by
      unfold callCompress
      rw [hok hplaying.2, if_pos rfl, outs_modifyOut, outs_modifyOut, hcompr]
      rfl
    rw [hdevs, hpaused]
    unfold Agrees
    dsimp only
    rw [hawake]
  · obtain rfl := Option.some.inj hpause
    exact ha

theorem agrees_outResume (hs : h.Serves o) (ha : Agrees (h.outs o) h.routing.OffloadRouted)
    {alloc : PathAlloc} {succeeds : Bool}
    (hok : (h.outs o).offloadState = .paused → alloc.usecase = true ∧ succeeds = true ∧
      h.toSettings.FindsDevice h.routing (h.outs o).devices)
    (hresume : h.outResume o alloc succeeds = some h') :
    Agrees (h'.outs o) h'.routing.OffloadRouted := by
  unfold outResume at hresume
  split at hresume
  · cases hresume
  split at hresume
  · rename_i hpaused
    obtain ⟨hawake, hcompr⟩ := compr_of_paused ha hpaused.2
    obtain ⟨halloc, rfl, hdev⟩ := hok hpaused.2
    obtain ⟨⟨ok, h₁⟩, hen, rfl⟩ := Option.map_eq_some_iff.mp hresume
    obtain rfl : ok = true := (enableOutputPath_ok hen).1.trans halloc
    obtain ⟨devs, hdevs⟩ := out_enableOutputPath hen
    have hrouted := routed_enableOutputPath hs hdev hen
    apply Plays.agrees
    have hout : ((h₁.callCompress o .resume true).modifyOut o ({ · with offloadState := .playing })).outs
        o = { h.outs o with
          pcmDevList := devs
          compr := some ⟨true, false⟩
          offloadState := .playing } := by
      unfold callCompress
      rw [if_pos rfl, outs_modifyOut, outs_modifyOut, hdevs]
      dsimp only
      rw [hcompr]
      rfl
    exact ⟨by rw [hout]; exact hawake, by rw [hout], by rw [hout], hrouted⟩
  · obtain rfl := Option.some.inj hresume
    exact ha

theorem agrees_outFlush (ha : Agrees (h.outs o) h.routing.OffloadRouted) {succeeds : Bool}
    (hok : (h.outs o).offloadState = .paused → succeeds = true)
    (hflush : h.outFlush o succeeds = some h') :
    Agrees (h'.outs o) h'.routing.OffloadRouted := by
  unfold outFlush at hflush
  split at hflush
  · cases hflush
  split at hflush
  · rename_i hpaused
    obtain ⟨hawake, hcompr⟩ := compr_of_paused ha hpaused
    obtain rfl := Option.some.inj hflush
    unfold stopCompressedOutput callCompress
    rw [hok hpaused, if_pos rfl, outs_modifyOut, outs_modifyOut, outs_modifyOut]
    unfold Agrees
    dsimp only
    rw [hawake, hcompr]
    rfl
  · obtain rfl := Option.some.inj hflush
    exact ha

/-- A command for the offload thread is left, or taken. -/
theorem agrees_cmds (ha : Agrees (h.outs o) h.routing.OffloadRouted)
    (f : List OffloadCmd → List OffloadCmd) :
    Agrees ((h.modifyOut o fun out => { out with offloadCmdList := f out.offloadCmdList }).outs o)
      h.routing.OffloadRouted := by
  rw [outs_modifyOut]
  exact ha

/-- What a routing request needs of a stream that is active and listed: if it has to be put to
standby it may be, and if it plays there is a sound device for the new devices. -/
def ReroutesWell (h : Hal) (o : OutId) (val : AudioDevices) : Prop :=
  (h.routing.getUsecaseFromId .audioPlaybackOffload).isSome = true →
    if leavesPcmDevices (h.outs o).pcmDevList val then h.StandsBy o
    else (h.outs o).offloadState = .playing → h.toSettings.FindsDevice h.routing val

/-- The path is switched from the combined device, then the devices are selected again. -/
theorem agrees_reselect (hs : h.Serves o) (ha : Agrees (h.outs o) h.routing.OffloadRouted) {uc : Nat}
    (huc : h.routing.getUsecaseFromId (h.outs o).usecase = some uc)
    (hdev : (h.outs o).offloadState = .playing →
      h.toSettings.FindsDevice h.routing (h.outs o).devices)
    (hsel : (h.leaveSpeaker o uc).selectDevices .audioPlaybackOffload = some h') :
    Agrees (h'.outs o) h'.routing.OffloadRouted := by
  have hleft := hs.leaveSpeaker o uc
  obtain ⟨devs, hdevs⟩ := (sameStreams_selectDevices hsel).out o
  rw [hdevs, (h.leaveSpeaker_streams o uc).1]
  refine agrees_pcm ha (fun _ hplaying => ?_) devs
  obtain ⟨r, hr, rfl⟩ := Option.map_eq_some_iff.mp hsel
  have hfound : (h.leaveSpeaker o uc).routing.getUsecaseFromId .audioPlaybackOffload = some uc := by
    rw [getUsecaseFromId_of_kinds (h.kinds_leaveSpeaker o uc), ← hs.usecase]
    exact huc
  have hlt := (List.findIdx?_eq_some_iff_getElem.mp hfound).1
  have hu := List.getElem?_eq_getElem hlt
  apply Routing.offloadRouted_selectDevices hleft.proper (List.getElem_mem hlt)
    (Routing.getUsecaseFromId_id hfound hu) _ hr
  have hsession : (h.leaveSpeaker o uc).routing.session = h.routing.session := by
    unfold leaveSpeaker
    split
    · exact leaveSpeaker_session h.routing uc
    · rfl
  unfold Settings.FindsDevice Settings.outputSndDevice
  rw [callDevices_leaveSpeaker h o huc, (h.leaveSpeaker_streams o uc).1, leaveSpeaker_same, hsession]
  exact hdev hplaying

theorem agrees_rerouteOut (hs : h.Serves o) (ha : Agrees (h.outs o) h.routing.OffloadRouted)
    (hok : h.ReroutesWell o (h.outs o).devices)
    (hroute : h.rerouteOut o (h.outs o).devices = some h') :
    Agrees (h'.outs o) h'.routing.OffloadRouted := by
  unfold rerouteOut at hroute
  split at hroute
  · obtain rfl := Option.some.inj hroute
    exact ha
  rename_i uc huc
  have hwell := hok (by rw [← hs.usecase, huc]; rfl)
  split at hroute
  · rename_i hleaves
    rw [if_pos hleaves] at hwell
    obtain rfl := Option.some.inj hroute
    exact agrees_doOutStandby hs hwell
  · rename_i hstays
    rw [if_neg hstays] at hwell
    apply agrees_reselect hs ha huc hwell
    have hsame : ((h.leaveSpeaker o uc).outs o).usecase = .audioPlaybackOffload := by
      rw [(h.leaveSpeaker_streams o uc).1]
      exact hs.usecase
    rw [← hsame]
    exact hroute

theorem agrees_outSetRouting (hs : h.Serves o) (ha : Agrees (h.outs o) h.routing.OffloadRouted)
    {val : AudioDevices} {allocated : Bool}
    (hok : val ≠ AudioDevices.none → (h.outs o).standby = false → h.ReroutesWell o val)
    (hset : h.outSetRouting o val allocated = some h') :
    Agrees (h'.outs o) h'.routing.OffloadRouted := by
  unfold outSetRouting at hset
  split at hset
  · obtain rfl := Option.some.inj hset
    exact ha
  rename_i hval
  obtain ⟨h₁, hroute, hfollow⟩ := Option.bind_eq_some_iff.mp hset
  have hout : (h.modifyOut o ({ · with devices := val })).outs o = { h.outs o with devices := val } :=
    outs_modifyOut h o _
  have hframe : h.Frame (fun _ => True) (h.modifyOut o ({ · with devices := val })) :=
    .modifyOut h trivial rfl
  have hs' := (serves_closed _).frame hframe hs
  have ha' : Agrees ((h.modifyOut o ({ · with devices := val })).outs o)
      (h.modifyOut o ({ · with devices := val })).routing.OffloadRouted := by
    rw [hout]
    exact ha
  have hok' : ((h.modifyOut o ({ · with devices := val })).outs o).standby = false →
      (h.modifyOut o ({ · with devices := val })).ReroutesWell o val := by
    rw [hout]
    intro hawake
    have hwell := hok hval hawake
    unfold ReroutesWell StandsBy at hwell ⊢
    rw [hout]
    exact hwell
  have hdevices : ((h.modifyOut o ({ · with devices := val })).outs o).devices = val := by rw [hout]
  generalize h.modifyOut o ({ · with devices := val }) = g at hs' ha' hok' hroute hdevices
  have hrerouted : Agrees (h₁.outs o) h₁.routing.OffloadRouted ∧ h₁.Serves o := by
    split at hroute
    · obtain rfl := Option.some.inj hroute
      exact ⟨ha', hs'⟩
    · rename_i hawake
      subst hdevices
      exact ⟨agrees_rerouteOut hs' ha' (hok' (Bool.not_eq_true _ ▸ hawake)) hroute,
        (serves_closed fun _ => True).rerouteOut trivial (fun _ _ => trivial) hroute hs'⟩
  -- the call follows, which the stream does not see
  obtain ⟨hserves, hkept⟩ := (kept_closed o).switchBtSco h₁ (h₁.outs o).devices hrerouted.2
  have hcall : Selecting (fun _ id => id ≠ .audioPlaybackOffload)
      ((h₁.switchBtSco (h₁.outs o).devices).followCallSelections o allocated) := by
    intro s hs
    rw [voiceCall_of_followCall s hs]
    intro heq
    cases heq
  have hfollowed := ((kept_closed o).followCall hcall hfollow hserves).2
  exact (hkept.trans hfollowed).agrees hrerouted.1

/-! ## 4. Runs -/

/-- What the operations on the offload stream `o` need. -/
def KeepsOffload (o : OutId) (h : Hal) : Op → Prop
  | .outStandby o' => o' = o → (h.outs o).standby = false → h.StandsBy o
  | .outSetRouting o' val _ => o' = o → val ≠ AudioDevices.none → (h.outs o).standby = false →
      h.ReroutesWell o val
  | .outWriteOffload o' w => o' = o → h.WritesWell o w
  | .outPause o' succeeds => o' = o → (h.outs o).offloadState = .playing → succeeds = true
  | .outResume o' alloc succeeds => o' = o → (h.outs o).offloadState = .paused →
      alloc.usecase = true ∧ succeeds = true ∧
        h.toSettings.FindsDevice h.routing (h.outs o).devices
  | .outFlush o' succeeds => o' = o → (h.outs o).offloadState = .paused → succeeds = true
  | _ => True

/-- The invariant. -/
structure OffloadSound (o : OutId) (h : Hal) : Prop where
  serves : h.Serves o
  agrees : Agrees (h.outs o) h.routing.OffloadRouted

theorem agrees_step (hs : h.OffloadSound o) {op : Op} (hok : h.KeepsOffload o op)
    (hstep : h.step op = some h') : Agrees (h'.outs o) h'.routing.OffloadRouted := by
  by_cases hop : ∀ o' ∈ op.output, o' ≠ o
  · exact (kept_others hs.serves hop hstep).agrees hs.agrees
  simp only [not_forall, not_not] at hop
  obtain ⟨o', ho', hsame⟩ := hop
  rw [hsame] at ho'
  have hoffload : (h.outs o).isOffload := hs.serves.usecase
  cases op with
  | outStart o₁ alloc ready =>
    obtain rfl := Option.some.inj ho'
    exact agrees_outStart hs.serves hs.agrees hstep
  | outWriteOffload o₁ w =>
    obtain rfl := Option.some.inj ho'
    rcases plays_outWriteOffload hs.serves hs.agrees (hok rfl) hstep with hplays | ⟨rfl, -⟩
    · exact hplays.agrees
    · exact hs.agrees
  | outStandby o₁ =>
    obtain rfl := Option.some.inj ho'
    obtain rfl := Option.some.inj hstep
    unfold outStandby
    split
    · exact hs.agrees
    · rename_i hawake
      exact agrees_doOutStandby hs.serves (hok rfl (Bool.not_eq_true _ ▸ hawake))
  | outSetRouting o₁ val allocated =>
    obtain rfl := Option.some.inj ho'
    exact agrees_outSetRouting hs.serves hs.agrees (hok rfl) hstep
  | outPause o₁ succeeds =>
    obtain rfl := Option.some.inj ho'
    exact agrees_outPause hs.agrees (hok rfl) hstep
  | outResume o₁ alloc succeeds =>
    obtain rfl := Option.some.inj ho'
    exact agrees_outResume hs.serves hs.agrees (hok rfl) hstep
  | outFlush o₁ succeeds =>
    obtain rfl := Option.some.inj ho'
    exact agrees_outFlush hs.agrees (hok rfl) hstep
  | outDrain o₁ earlyNotify =>
    obtain rfl := Option.some.inj ho'
    change h.outDrain o₁ earlyNotify = some h' at hstep
    unfold outDrain sendOffloadCmd at hstep
    rw [if_neg (not_not.mpr hoffload)] at hstep
    obtain rfl := Option.some.inj hstep
    exact agrees_cmds hs.agrees (· ++ [_])
  | offloadThread o₁ =>
    obtain rfl := Option.some.inj ho'
    change h.offloadThread o₁ = some h' at hstep
    unfold offloadThread at hstep
    split at hstep
    · cases hstep
    · obtain rfl := Option.some.inj hstep
      exact agrees_cmds hs.agrees fun _ => _
  | outSyncEcho o₁ =>
    -- an offload stream has no part in the echo reference
    obtain rfl := Option.some.inj ho'
    change h.outSyncEcho o₁ = some h' at hstep
    unfold outSyncEcho at hstep
    rw [if_pos (.inr hoffload)] at hstep
    cases hstep
  | outWritePcm o₁ =>
    obtain rfl := Option.some.inj ho'
    change h.outWritePcm o₁ = some h' at hstep
    unfold outWritePcm at hstep
    rw [if_pos (.inr hoffload)] at hstep
    cases hstep
  | inStart _ _ | inRead _ | inStandby _ | inSetParameters _ _ _ | addAudioEffect _ _ _
  | removeAudioEffect _ _ | setMode _ | setBluetoothWb _ | wbAmrCallback _ _ => cases ho'

theorem OffloadSound.step (hs : h.OffloadSound o) {op : Op} (hok : h.KeepsOffload o op)
    (hstep : h.step op = some h') : h'.OffloadSound o :=
  ⟨(serves_closed fun _ => True).step (fun _ _ => trivial) (fun _ _ => trivial) hstep hs.serves,
    agrees_step hs hok hstep⟩

/-- The state is PLAYING exactly while the stream plays, and PAUSED only while its handle is
paused. -/
structure OffloadRight (o : OutId) (h : Hal) : Prop where
  playing : (h.outs o).offloadState = .playing ↔ (h.outs o).standby = false ∧
    (h.outs o).compr = some ⟨true, false⟩ ∧ h.routing.OffloadRouted
  paused : (h.outs o).offloadState = .paused → ∃ c, (h.outs o).compr = some c ∧ c.paused = true

theorem OffloadSound.right (hs : h.OffloadSound o) : h.OffloadRight o where
  playing := by
    refine ⟨fun hstate => compr_of_playing hs.agrees hstate, fun ⟨hawake, hcompr, _⟩ => ?_⟩
    cases hstate : (h.outs o).offloadState with
    | playing => rfl
    | idle =>
      rw [compr_of_not_playing hs.agrees hawake (.inl hstate)] at hcompr
      cases hcompr
    | pausedFlushed =>
      rw [compr_of_not_playing hs.agrees hawake (.inr hstate)] at hcompr
      cases hcompr
    | paused =>
      rw [(compr_of_paused hs.agrees hstate).2] at hcompr
      cases hcompr
  paused hstate := ⟨_, (compr_of_paused hs.agrees hstate).2, rfl⟩

theorem Start.offloadSound {h : Hal} (hstart : Start h) (honly : ∀ o', (h.outs o').isOffload ↔ o' = o)
    (hreads : h.toSettings.ReadsNoOffload) : h.OffloadSound o where
  serves := by
    refine ⟨honly, hreads, fun u hu => ?_⟩
    rw [hstart.usecaseList] at hu
    cases hu
  agrees := by
    obtain ⟨hstandby, -, -, hstate, -⟩ := hstart.outs o
    apply agrees_asleep _ hstandby
    rw [hstate]
    exact ⟨nofun, nofun⟩

/-- `offload_state` is right in every state that operations which meet the condition reach, and a
write that is not refused its path leaves the handle started. -/
theorem offloadRight_of_keepsOffload {h₀ h : Hal} {ops : List Op} {o : OutId} (hstart : Start h₀)
    (honly : ∀ o', (h₀.outs o').isOffload ↔ o' = o) (hreads : h₀.toSettings.ReadsNoOffload)
    (hrun : ExecWhere (KeepsOffload o) (guarded Hal.step) h₀ ops h) :
    h.OffloadRight o ∧ ∀ w h', h.WritesWell o w → h.outWriteOffload o w = some h' →
      ((h.outs o).offloadState = .pausedFlushed → w.alloc.usecase = true) →
        (h'.outs o).offloadState = .playing ∧ (h'.outs o).compr = some ⟨true, false⟩ := by
  have hsound : h.OffloadSound o :=
    hrun.invariant (fun _ _ _ hs hok hstep => hs.step hok hstep)
      (hstart.offloadSound honly hreads)
  refine ⟨hsound.right, fun w h' hw hwrite halloc => ?_⟩
  rcases plays_outWriteOffload hsound.serves hsound.agrees hw hwrite with hplays | ⟨-, hstate, hno⟩
  · exact ⟨hplays.state, hplays.compr⟩
  · rw [halloc hstate] at hno
    cases hno

/-- Stream 2 plays, is paused and resumed, goes to standby and plays again. -/
def replayRun : List Op :=
  [.outStart 2 ⟨true, true⟩ true, .outWriteOffload 2 ⟨⟨true, true⟩, false, true⟩, .outPause 2 true,
    .outResume 2 ⟨true, true⟩ true, .outStandby 2, .outStart 2 ⟨true, true⟩ true,
    .outWriteOffload 2 ⟨⟨true, true⟩, false, true⟩]

def replayed : Hal := (replayRun.foldlM step (opened true)).getD (opened true)

instance (u : AudioUsecase) : Decidable u.OnDevice := inferInstanceAs (Decidable (_ ∧ _))

instance (r : Routing) : Decidable r.OffloadRouted :=
  inferInstanceAs (Decidable (∃ u ∈ r.usecaseList, u.OnDevice))

instance (v : Settings) (r : Routing) (devices : AudioDevices) :
    Decidable (v.FindsDevice r devices) := inferInstanceAs (Decidable (_ ∨ _))

theorem opened_only (offloadFx : Bool) (o' : OutId) :
    ((opened offloadFx).outs o').isOffload ↔ o' = 2 := by
  show (if o' = 0 then _ else if o' = 2 then _ else _ : StreamOut).usecase = _ ↔ _
  by_cases hzero : o' = 0
  · rw [if_pos hzero, hzero]
    exact iff_of_false nofun nofun
  · rw [if_neg hzero]
    by_cases htwo : o' = 2
    · rw [if_pos htwo]
      exact iff_of_true rfl htwo
    · rw [if_neg htwo]
      exact iff_of_false nofun htwo

theorem replayed_keepsOffload :
    ExecWhere (KeepsOffload 2) (guarded step) (opened true) replayRun replayed := by
  have hwrites (t : Hal) (hstate : (t.outs 2).offloadState = .idle)
      (hrouted : t.routing.OffloadRouted) :
      t.KeepsOffload 2 (.outWriteOffload 2 ⟨⟨true, true⟩, false, true⟩) := by
    intro _
    unfold WritesWell
    rw [hstate]
    exact ⟨rfl, hrouted⟩
  apply ExecWhere.computed (by decide +kernel)
  intro n op t hop ht
  obtain rfl : t = ((replayRun.take n).foldlM step (opened true)).getD (opened true) := by
    rw [ht]
    rfl
  clear ht
  rcases n with _ | _ | _ | _ | _ | _ | _ | n
  · obtain rfl := Option.some.inj hop
    trivial
  · obtain rfl := Option.some.inj hop
    exact hwrites _ (by decide +kernel) (by decide +kernel)
  · obtain rfl := Option.some.inj hop
    exact fun _ _ => rfl
  · obtain rfl := Option.some.inj hop
    exact fun _ _ => ⟨rfl, rfl, by decide +kernel⟩
  · obtain rfl := Option.some.inj hop
    exact fun _ _ => .inl (by decide +kernel)
  · obtain rfl := Option.some.inj hop
    trivial
  · obtain rfl := Option.some.inj hop
    exact hwrites _ (by decide +kernel) (by decide +kernel)
  · cases hop

theorem offloadRight_replayed :
    replayed.OffloadRight 2 ∧ (replayed.outs 2).offloadState = .playing :=
  ⟨(offloadRight_of_keepsOffload (opened_start true) (opened_only true) (fun _ => nofun)
    replayed_keepsOffload).1, by decide +kernel⟩

/-- Without the effects library a stream that plays keeps the state in standby. -/
def playThenStandby : List Op :=
  [.outStart 2 ⟨true, true⟩ true, .outWriteOffload 2 ⟨⟨true, true⟩, false, true⟩, .outStandby 2]

theorem playing_in_standby : ¬∀ (h₀ h : Hal) (ops : List Op) (o : OutId), Reaches h₀ ops h →
    (∀ o', (h₀.outs o').isOffload ↔ o' = o) → h.OffloadRight o := by
  intro hall
  have hright := hall _ _ playThenStandby 2
    ⟨opened_start false, Exec.computed (by decide +kernel)⟩ (opened_only false)
  have hplaying := hright.playing.mp (by decide +kernel)
  exact absurd hplaying.1 (by decide +kernel)

end Hal

end Universal7870.Audio
