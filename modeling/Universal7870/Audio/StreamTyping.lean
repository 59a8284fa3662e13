import Universal7870.Audio.Frames
import Universal7870.Audio.ListedUsecases

/-!
# The untyped stream of a usecase

A usecase's `stream` is cast to `stream_out` or to `stream_in`, by its type or by where it is used.
`active_input` is the stream of the first usecase that is a recording or a call, and a call stores
the primary output there.
-/

namespace Universal7870.Audio

open Lib

/-! ## 1. The accesses -/

/-- An access to a usecase's `stream` through one of the two casts. -/
inductive StreamAccess
  | asInput (stream : StreamRef)
  | asOutput (stream : StreamRef)
  deriving DecidableEq, Repr

/-- The cast is that of the object that was stored. -/
def StreamAccess.WellTyped : StreamAccess → Prop
  | .asInput (.input _) => True
  | .asOutput (.output _) => True
  | _ => False

/-- `active_input->...`, if there is an active input. -/
def Routing.activeAccess (r : Routing) : List StreamAccess :=
  ((r.getUsecaseFromType [.pcmCapture, .voiceCall]).map fun u => .asInput u.stream).toList

/-- The active input is in fact a call. -/
def Routing.FirstIsCall (r : Routing) : Prop :=
  (r.getUsecaseFromType [.pcmCapture, .voiceCall]).map (·.type) = some .voiceCall

instance (r : Routing) : Decidable r.FirstIsCall := inferInstanceAs (Decidable (_ = _))

/-- What `select_devices` reads of the usecase it is for. -/
def AudioUsecase.ownAccess (u : AudioUsecase) : List StreamAccess :=
  match u.type with
  | .voiceCall | .pcmPlayback => [.asOutput u.stream]
  | .pcmCapture => [.asInput u.stream]
  | .pcmCaptureLowLatency => []

namespace Settings

/-- `select_devices` reads the active input, itself or in `get_input_snd_device`: always for a call;
for a playback of the primary output and for a recording, unless they take the call's device. -/
def ReadsActiveInput (v : Settings) (r : Routing) (u : AudioUsecase) : Prop :=
  match u.type with
  | .voiceCall => True
  | .pcmPlayback =>
    (v.callDevices r).1 = .none ∧ v.primaryOutput.map StreamRef.output = some u.stream
  | .pcmCapture => (v.callDevices r).2 = .none
  | .pcmCaptureLowLatency => False

instance (v : Settings) (r : Routing) (u : AudioUsecase) : Decidable (v.ReadsActiveInput r u) :=
  match h : u.type with
  | .voiceCall => decidable_of_iff True (by unfold ReadsActiveInput; rw [h])
  | .pcmPlayback =>
    decidable_of_iff
      ((v.callDevices r).1 = .none ∧ v.primaryOutput.map StreamRef.output = some u.stream)
      (by unfold ReadsActiveInput; rw [h])
  | .pcmCapture =>
    decidable_of_iff ((v.callDevices r).2 = .none) (by unfold ReadsActiveInput; rw [h])
  | .pcmCaptureLowLatency => decidable_of_iff False (by unfold ReadsActiveInput; rw [h])

/-- The usecase a playback is followed by, as in `select_devices`. -/
def followedBy (v : Settings) (r : Routing) (u : AudioUsecase) : Option UsecaseId :=
  if u.type = .pcmPlayback then v.selectsFirst r u.stream else none

/-- The accesses of `select_devices`.  The mask of its usecase, which it sets before it calls itself,
is not read in the call. -/
def selectAccesses (v : Settings) : Nat → Routing → UsecaseId → List StreamAccess
  | 0, _, _ => []
  | depth + 1, r, id =>
    match r.usecaseList.find? (·.id = id) with
    | none => []
    | some u =>
      u.ownAccess ++
        if v.ReadsActiveInput r u then
          r.activeAccess ++ (v.followedBy r u).toList.flatMap (v.selectAccesses depth r)
        else []

/-- If the active input is read, it is not a call. -/
def SelectionTyped (v : Settings) (r : Routing) (id : UsecaseId) : Prop :=
  ∀ u, r.usecaseList.find? (·.id = id) = some u → v.ReadsActiveInput r u → ¬r.FirstIsCall

end Settings

namespace Hal

def selectionAccesses (s : Selection) : List StreamAccess :=
  s.1.toSettings.selectAccesses 2 s.1.routing s.2

/-- `uc_release_pcm_devices`. -/
def releaseAccesses (h : Hal) (o : OutId) : List StreamAccess :=
  ((h.routing.usecaseList.find? (·.id = (h.outs o).usecase)).map fun u =>
    .asOutput u.stream).toList

/-- `stop_output_stream`. -/
def stopAccesses (h : Hal) (o : OutId) : List StreamAccess :=
  if (h.stopOutputOffloadStream o).1 then h.releaseAccesses o else []

/-- `uc_select_pcm_devices` of the usecase that is listed. -/
def enableAccesses (o : OutId) (alloc : PathAlloc) : List StreamAccess :=
  if ¬alloc.usecase then [] else [.asOutput (.output o)]

/-- `start_output_stream`, which stops the stream again when its device is not ready. -/
def startAccesses (h : Hal) (o : OutId) (alloc : PathAlloc) (ready : Bool) : List StreamAccess :=
  enableAccesses o alloc ++
    match h.enableOutputPath o alloc with
    | some (true, h) => if (h.openOutput o ready).1 then [] else h.stopAccesses o
    | _ => []

/-- The accesses of an operation outside of `select_devices`. -/
def pathAccesses (h : Hal) : Op → List StreamAccess
  | .outStart o alloc ready => if (h.outs o).standby then h.startAccesses o alloc ready else []
  | .outWriteOffload o w =>
    if (h.outs o).standby ∨ ¬(h.outs o).isOffload then []
    else if (h.outs o).offloadState = .pausedFlushed then enableAccesses o w.alloc
    else []
  | .outStandby o => if (h.outs o).standby then [] else h.stopAccesses o
  | .outSetRouting o val _ =>
    if val = AudioDevices.none ∨ (h.outs o).standby then []
    else if (h.routing.getUsecaseFromId (h.outs o).usecase).isSome ∧
        leavesPcmDevices (h.outs o).pcmDevList val then h.stopAccesses o
    else []
  | .outPause o _ =>
    if ¬(h.outs o).isOffload then []
    else if (h.outs o).compr ≠ none ∧ (h.outs o).offloadState = .playing then h.releaseAccesses o
    else []
  | .outResume o alloc _ =>
    if ¬(h.outs o).isOffload then []
    else if (h.outs o).compr ≠ none ∧ (h.outs o).offloadState = .paused then enableAccesses o alloc
    else []
  | _ => []

/-- All accesses of an operation to the `stream` of a usecase. -/
def accesses (h : Hal) (op : Op) : List StreamAccess :=
  (h.selections op).flatMap selectionAccesses ++ h.pathAccesses op

end Hal

/-! ## 2. One selection -/

theorem Routing.activeAccess_typed {r : Routing} (hr : ∀ u ∈ r.usecaseList, u.Consistent) :
    (∀ a ∈ r.activeAccess, a.WellTyped) ↔ ¬r.FirstIsCall := by
  unfold activeAccess FirstIsCall getUsecaseFromType
  cases hfirst : r.usecaseList.find? fun u => u.type ∈ [.pcmCapture, .voiceCall] with
  | none => exact ⟨fun _ => nofun, fun _ _ ha => nomatch ha⟩
  | some u =>
    have htype := List.find?_some hfirst
    have hcons := hr u (List.mem_of_find?_eq_some hfirst)
    simp only [Option.map_some, Option.toList_some, List.mem_singleton, forall_eq,
      Option.some.injEq]
    constructor
    · intro htyped hcall
      obtain ⟨o, hstream⟩ := hcons.output (by rw [hcall]; exact nofun)
      rw [hstream] at htyped
      exact htyped
    · intro hnot
      have hcapture : u.type = .pcmCapture := by simpa [hnot] using htype
      obtain ⟨i, hstream⟩ := hcons.input hcapture
      rw [hstream]
      trivial

theorem AudioUsecase.Consistent.ownAccess_typed {u : AudioUsecase} (h : u.Consistent) :
    ∀ a ∈ u.ownAccess, a.WellTyped := by
  intro a ha
  unfold ownAccess at ha
  split at ha
  · rename_i htype
    obtain ⟨o, hstream⟩ := h.output (by rw [htype]; exact nofun)
    rw [List.mem_singleton.mp ha, hstream]
    trivial
  · rename_i htype
    obtain ⟨o, hstream⟩ := h.output (by rw [htype]; exact nofun)
    rw [List.mem_singleton.mp ha, hstream]
    trivial
  · rename_i htype
    obtain ⟨i, hstream⟩ := h.input htype
    rw [List.mem_singleton.mp ha, hstream]
    trivial
  · cases ha

namespace Settings

variable {v : Settings} {r : Routing}

/-- Where the active input is no call, every selection is well typed, and so are those in it. -/
theorem selectAccesses_typed (hr : ∀ u ∈ r.usecaseList, u.Consistent) (hfirst : ¬r.FirstIsCall)
    (depth : Nat) (id : UsecaseId) : ∀ a ∈ v.selectAccesses depth r id, a.WellTyped := by
  induction depth generalizing id with
  | zero => exact fun _ ha => nomatch ha
  | succ depth ih =>
    intro a ha
    unfold selectAccesses at ha
    split at ha
    · cases ha
    · rename_i u hu
      rcases List.mem_append.mp ha with ha | ha
      · exact (hr u (List.mem_of_find?_eq_some hu)).ownAccess_typed a ha
      · split at ha
        · rcases List.mem_append.mp ha with ha | ha
          · exact (Routing.activeAccess_typed hr).mpr hfirst a ha
          · obtain ⟨input, _, ha⟩ := List.mem_flatMap.mp ha
            exact ih input a ha
        · cases ha

theorem selectAccesses_typed_iff (hr : ∀ u ∈ r.usecaseList, u.Consistent) (depth : Nat)
    (id : UsecaseId) :
    (∀ a ∈ v.selectAccesses (depth + 1) r id, a.WellTyped) ↔ v.SelectionTyped r id := by
  constructor
  · intro htyped u hu hreads
    apply (Routing.activeAccess_typed hr).mp
    intro a ha
    apply htyped a
    unfold selectAccesses
    rw [hu]
    dsimp only
    rw [if_pos hreads]
    exact List.mem_append_right _ (List.mem_append_left _ ha)
  · intro hsel
    cases hu : r.usecaseList.find? (·.id = id) with
    | none =>
      unfold selectAccesses
      rw [hu]
      exact fun _ ha => nomatch ha
    | some u =>
      by_cases hreads : v.ReadsActiveInput r u
      · exact selectAccesses_typed hr (hsel u hu hreads) _ id
      · unfold selectAccesses
        rw [hu]
        dsimp only
        rw [if_neg hreads, List.append_nil]
        exact (hr u (List.mem_of_find?_eq_some hu)).ownAccess_typed

end Settings

/-! ## 3. One operation -/

namespace Hal

/-- The stream of the usecase that is found for an output: that of an earlier one with its id, or
its own. -/
def servedStream (h : Hal) (o : OutId) : StreamRef :=
  ((h.routing.usecaseList.find? (·.id = (h.outs o).usecase)).map (·.stream)).getD (.output o)

/-- Selecting devices for a playback does not read a call as an input. -/
def PlaybackTyped (h : Hal) (o : OutId) : Prop :=
  (h.toSettings.callDevices h.routing).1 = .none →
    h.primaryOutput.map StreamRef.output = some (h.servedStream o) → ¬h.routing.FirstIsCall

/-- Selecting devices for a recording does not read a call as an input. -/
def RecordingTyped (h : Hal) : Prop :=
  (h.toSettings.callDevices h.routing).2 = .none → ¬h.routing.FirstIsCall

/-- A recording is listed, and would come before a call that is started. -/
def Recording (h : Hal) : Prop := ∃ u ∈ h.routing.usecaseList, u.type = .pcmCapture

/-- A recording is found for an input. -/
def RecordingListed (h : Hal) : Prop := ∃ u ∈ h.routing.usecaseList, u.id = .audioCapture

/-- What an operation needs for all its accesses to be well typed. -/
def ReadsTyped (h : Hal) : Op → Prop
  | .outStart o alloc _ => (h.outs o).standby = true → alloc.usecase = true → h.PlaybackTyped o
  | .outWriteOffload o w =>
    (h.outs o).standby = false → (h.outs o).isOffload → (h.outs o).offloadState = .pausedFlushed →
      w.alloc.usecase = true → h.PlaybackTyped o
  | .outResume o alloc _ =>
    (h.outs o).isOffload → (h.outs o).compr ≠ none → (h.outs o).offloadState = .paused →
      alloc.usecase = true → h.PlaybackTyped o
  | .outSetRouting o val allocated =>
    val ≠ AudioDevices.none →
      ((h.outs o).standby = false →
        (∃ u ∈ h.routing.usecaseList, u.id = (h.outs o).usecase) →
        leavesPcmDevices (h.outs o).pcmDevList val = false → h.PlaybackTyped o) ∧
      (h.mode = .inCall → h.primaryOutput = some o → allocated = true → h.Recording)
  | .inStart i start =>
    (h.ins i).standby = true → (getPcmDevice (h.ins i).usecaseType (h.ins i).devices).isSome →
      start.usecase = true → start.pcmDevice = true → h.RecordingTyped
  | .inSetParameters i _ routing =>
    ∀ val ∈ routing, (h.ins i).devices ≠ val → val ≠ AudioDevices.none →
      (h.ins i).standby = false → h.leavesInputDevice i val = false → h.RecordingListed →
      h.RecordingTyped
  | .addAudioEffect i aec auxChanged =>
    aec = true → (h.ins i).standby = false → auxChanged = false → h.RecordingListed →
      h.RecordingTyped
  | .removeAudioEffect i aec =>
    aec = true → (h.ins i).standby = false → h.RecordingListed → h.RecordingTyped
  | .wbAmrCallback wbAmrType allocated =>
    h.routing.session.wbAmrType ≠ wbAmrType → h.inCall = true → allocated = true →
      h.primaryOutput.isSome → h.Recording
  | _ => True

/-- The selection is made in a state that is in order. -/
def Selection.Typed (s : Selection) : Prop := s.1.toSettings.SelectionTyped s.1.routing s.2

theorem selectionAccesses_typed_iff {s : Selection} (hl : s.1.Listed) :
    (∀ a ∈ selectionAccesses s, a.WellTyped) ↔ Selection.Typed s :=
  Settings.selectAccesses_typed_iff hl.consistent 1 s.2

theorem Listed.releaseAccesses_typed {h : Hal} (hl : h.Listed) (o : OutId) :
    ∀ a ∈ h.releaseAccesses o, a.WellTyped := by
  intro a ha
  unfold releaseAccesses at ha
  cases hu : h.routing.usecaseList.find? (·.id = (h.outs o).usecase) with
  | none =>
    rw [hu] at ha
    cases ha
  | some u =>
    rw [hu] at ha
    have hid : u.id = (h.outs o).usecase := by simpa using List.find?_some hu
    have hcons := hl.consistent u (List.mem_of_find?_eq_some hu)
    have htype := hcons.type_of_output (hid ▸ (h.outs o).usecase_isOutput)
    obtain ⟨o', hstream⟩ := hcons.output (by rw [htype]; exact nofun)
    rw [List.mem_singleton.mp ha]
    show (StreamAccess.asOutput u.stream).WellTyped
    rw [hstream]
    trivial

theorem Listed.stopAccesses_typed {h : Hal} (hl : h.Listed) (o : OutId) :
    ∀ a ∈ h.stopAccesses o, a.WellTyped := by
  unfold stopAccesses
  split
  · exact hl.releaseAccesses_typed o
  · exact fun _ ha => nomatch ha

theorem enableAccesses_typed (o : OutId) (alloc : PathAlloc) :
    ∀ a ∈ enableAccesses o alloc, a.WellTyped := by
  intro a ha
  unfold enableAccesses at ha
  split at ha
  · cases ha
  · rw [List.mem_singleton.mp ha]
    trivial

theorem Listed.startAccesses_typed {h : Hal} (hl : h.Listed) (o : OutId) (alloc : PathAlloc)
    (ready : Bool) : ∀ a ∈ h.startAccesses o alloc ready, a.WellTyped := by
  intro a ha
  rcases List.mem_append.mp ha with ha | ha
  · exact enableAccesses_typed o alloc a ha
  · split at ha
    · rename_i h₁ hen
      have hl₁ : h₁.Listed := listed_on.enableOutputPath trivial (fun _ _ => trivial) hen hl
      split at ha
      · cases ha
      · exact hl₁.stopAccesses_typed o a ha
    · cases ha

/-- Outside of `select_devices` every access is to an output. -/
theorem Listed.pathAccesses_typed {h : Hal} (hl : h.Listed) (op : Op) :
    ∀ a ∈ h.pathAccesses op, a.WellTyped := by
  unfold pathAccesses
  split
  · split
    · exact hl.startAccesses_typed _ _ _
    · exact fun _ ha => nomatch ha
  · split
    · exact fun _ ha => nomatch ha
    · split
      · exact enableAccesses_typed _ _
      · exact fun _ ha => nomatch ha
  · split
    · exact fun _ ha => nomatch ha
    · exact hl.stopAccesses_typed _
  · split
    · exact fun _ ha => nomatch ha
    · split
      · exact hl.stopAccesses_typed _
      · exact fun _ ha => nomatch ha
  · split
    · exact fun _ ha => nomatch ha
    · split
      · exact hl.releaseAccesses_typed _
      · exact fun _ ha => nomatch ha
  · split
    · exact fun _ ha => nomatch ha
    · split
      · exact enableAccesses_typed _ _
      · exact fun _ ha => nomatch ha
  · exact fun _ ha => nomatch ha

/-! ## 4. The states of the selections -/

theorem find?_append_of_ne {l : List AudioUsecase} {u : AudioUsecase} {id : UsecaseId}
    (hne : u.id ≠ id) : (l ++ [u]).find? (·.id = id) = l.find? (·.id = id) := by
  rw [List.find?_append]
  have hnone : [u].find? (·.id = id) = none := List.find?_singleton.trans (if_neg (by simpa using hne))
  rw [hnone, Option.or_none]

/-- A new usecase that is no call is not read in place of what was listed before. -/
theorem firstIsCall_add (r : Routing) {u : AudioUsecase} (hnew : u.New) :
    (r.addUsecase u).FirstIsCall ↔ r.FirstIsCall := by
  unfold Routing.FirstIsCall Routing.getUsecaseFromType
  show (((r.usecaseList ++ [u]).find? _).map _ = _) ↔ _
  rw [List.find?_append]
  cases r.usecaseList.find? fun u => u.type ∈ [.pcmCapture, .voiceCall] with
  | some w => rfl
  | none =>
    have hother : u.type ≠ .voiceCall := by
      rcases hnew.kind with ⟨_, htype, _⟩ | ⟨_, htype, _⟩
      · rw [htype]
        exact nofun
      · rw [htype]
        exact nofun
    rw [Option.none_or, List.find?_singleton]
    split
    · simp [hother]
    · rfl

theorem callDevices_add (v w : Settings) (hcall : w.inCall = v.inCall) (r : Routing)
    {u : AudioUsecase} (hnew : u.New) : w.callDevices (r.addUsecase u) = v.callDevices r := by
  unfold Settings.callDevices
  rw [hcall, show (r.addUsecase u).usecaseList = r.usecaseList ++ [u] from rfl,
    find?_append_of_ne hnew.not_call]

theorem Routing.addUsecase_listed {h : Hal} (hl : h.Listed) {u : AudioUsecase} (hnew : u.New)
    {h' : Hal} (hrouting : h'.routing = h.routing.addUsecase u) (hcall : h'.inCall = h.inCall) :
    h'.Listed :=
  (hl.add hnew).of_kinds (by rw [hrouting]) hcall

theorem Listed.listOutput {h : Hal} (hl : h.Listed) (o : OutId) (alloc : PathAlloc) :
    (h.listOutput o alloc).Listed :=
  Routing.addUsecase_listed hl (outputUsecase_new _ o _) rfl rfl

theorem Listed.listInput {h : Hal} (hl : h.Listed) (i : InId) (profile : PcmDeviceProfile) :
    (h.listInput i profile).Listed :=
  Routing.addUsecase_listed hl (inputUsecase_new _ i profile) rfl rfl

/-- A playback that is found for an output. -/
theorem selectionTyped_playback {v : Settings} {r : Routing} (hr : ∀ u ∈ r.usecaseList, u.Consistent)
    {id : UsecaseId} (hid : id.isOutput = true) :
    v.SelectionTyped r id ↔ ∀ u, r.usecaseList.find? (·.id = id) = some u →
      (v.callDevices r).1 = .none → v.primaryOutput.map StreamRef.output = some u.stream →
      ¬r.FirstIsCall := by
  unfold Settings.SelectionTyped
  refine forall_congr' fun u => forall_congr' fun hu => ?_
  have huid : u.id = id := by simpa using List.find?_some hu
  have htype := (hr u (List.mem_of_find?_eq_some hu)).type_of_output (huid ▸ hid)
  unfold Settings.ReadsActiveInput
  rw [htype]
  exact and_imp

theorem selectionTyped_recording {v : Settings} {r : Routing}
    (hr : ∀ u ∈ r.usecaseList, u.Consistent) :
    v.SelectionTyped r .audioCapture ↔ ((∃ u ∈ r.usecaseList, u.id = .audioCapture) →
      (v.callDevices r).2 = .none → ¬r.FirstIsCall) := by
  unfold Settings.SelectionTyped
  have hreads : ∀ u, r.usecaseList.find? (·.id = .audioCapture) = some u →
      (v.ReadsActiveInput r u ↔ (v.callDevices r).2 = .none) := by
    intro u hu
    have huid : u.id = .audioCapture := by simpa using List.find?_some hu
    have htype := (hr u (List.mem_of_find?_eq_some hu)).type_of_capture huid
    unfold Settings.ReadsActiveInput
    rw [htype]
  constructor
  · rintro htyped ⟨u, hu, hid⟩ hcall
    cases hfind : r.usecaseList.find? (·.id = .audioCapture) with
    | none => exact absurd hid (by simpa using List.find?_eq_none.mp hfind u hu)
    | some w => exact htyped w hfind ((hreads w hfind).mpr hcall)
  · intro htyped u hu hread
    have huid : u.id = .audioCapture := by simpa using List.find?_some hu
    exact htyped ⟨u, List.mem_of_find?_eq_some hu, huid⟩ ((hreads u hu).mp hread)

/-- What is found by what a usecase is for is found after any selection. -/
theorem find?_kind (r : Routing) (p : UsecaseId × UsecaseType × StreamRef → Bool) :
    (r.usecaseList.find? fun u => p u.kind).map AudioUsecase.kind = r.kinds.find? p := by
  unfold Routing.kinds
  rw [List.find?_map]
  rfl

theorem firstIsCall_of_kinds {r r' : Routing} (hkinds : r'.kinds = r.kinds) :
    r'.FirstIsCall ↔ r.FirstIsCall := by
  have hkind : ∀ r : Routing, (r.getUsecaseFromType [.pcmCapture, .voiceCall]).map (·.type) =
      (r.kinds.find? fun k => k.2.1 ∈ [.pcmCapture, .voiceCall]).map (·.2.1) := by
    intro r
    rw [← find?_kind, Option.map_map]
    rfl
  unfold Routing.FirstIsCall
  rw [hkind, hkind, hkinds]

theorem findStream_of_kinds {r r' : Routing} (hkinds : r'.kinds = r.kinds) (id : UsecaseId) :
    (r'.usecaseList.find? (·.id = id)).map (·.stream) =
      (r.usecaseList.find? (·.id = id)).map (·.stream) := by
  have hkind : ∀ r : Routing, (r.usecaseList.find? (·.id = id)).map (·.stream) =
      (r.kinds.find? fun k => k.1 = id).map (·.2.2) := by
    intro r
    rw [← find?_kind, Option.map_map]
    rfl
  rw [hkind, hkind, hkinds]

theorem find?_modify_of_not {α : Type*} {p : α → Bool} {f : α → α} {l : List α} {i : Nat} {a : α}
    (h : l[i]? = some a) (ha : p a = false) (hf : p (f a) = false) :
    (l.modify i f).find? p = l.find? p := by
  induction l generalizing i with
  | nil => rw [List.modify_nil]
  | cons b l ih =>
    cases i with
    | zero =>
      obtain rfl : b = a := by simpa using h
      rw [List.modify_zero_cons, List.find?_cons, List.find?_cons, ha, hf]
    | succ i =>
      rw [List.modify_succ_cons, List.find?_cons, List.find?_cons, ih (by simpa using h)]

/-- The usecase of an output is not the call's. -/
theorem callDevices_leaveSpeaker (h : Hal) (o : OutId) {uc : Nat}
    (huc : h.routing.getUsecaseFromId (h.outs o).usecase = some uc) :
    (h.leaveSpeaker o uc).toSettings.callDevices (h.leaveSpeaker o uc).routing =
      h.toSettings.callDevices h.routing := by
  have hfind : (h.routing.leaveSpeaker uc).usecaseList.find? (·.id = .voiceCall) =
      h.routing.usecaseList.find? (·.id = .voiceCall) := by
    unfold Routing.leaveSpeaker
    split
    · rfl
    rename_i u hu
    have hid : u.id ≠ .voiceCall := by
      have hout := (h.outs o).usecase_isOutput
      rw [← Routing.getUsecaseFromId_id huc hu] at hout
      intro hcall
      rw [hcall] at hout
      cases hout
    split
    · rw [Routing.disableSndDevice_usecaseList]
      apply find?_modify_of_not hu
      · simpa using hid
      · simpa [AudioUsecase.setSndDevice_id] using hid
    · rfl
  unfold Hal.leaveSpeaker
  split
  · unfold Settings.callDevices
    dsimp only
    rw [hfind]
  · rfl

/-- The states of the selections are in order, and `P` says when they are typed. -/
structure TypedWhen (selections : List Selection) (P : Prop) : Prop where
  listed : ∀ s ∈ selections, s.1.Listed
  typed_iff : (∀ s ∈ selections, Selection.Typed s) ↔ P

theorem TypedWhen.nil {P : Prop} (hP : P) : TypedWhen [] P :=
  ⟨(List.forall_mem_nil _), ⟨fun _ => hP, fun _ _ hs => nomatch hs⟩⟩

theorem TypedWhen.single {s : Selection} {P : Prop} (hl : s.1.Listed)
    (htyped : Selection.Typed s ↔ P) : TypedWhen [s] P := by
  constructor
  · intro t ht
    rw [List.mem_singleton.mp ht]
    exact hl
  · rw [List.forall_mem_singleton]
    exact htyped

theorem TypedWhen.append {l l' : List Selection} {P P' : Prop} (h : TypedWhen l P)
    (h' : TypedWhen l' P') : TypedWhen (l ++ l') (P ∧ P') := by
  constructor
  · intro s hs
    rcases List.mem_append.mp hs with hs | hs
    · exact h.listed s hs
    · exact h'.listed s hs
  · rw [List.forall_mem_append, h.typed_iff, h'.typed_iff]

theorem TypedWhen.congr {l : List Selection} {P P' : Prop} (h : TypedWhen l P) (hP : P ↔ P') :
    TypedWhen l P' :=
  ⟨h.listed, h.typed_iff.trans hP⟩

/-- Delisting a usecase that is no recording. -/
theorem recording_eraseIdx {h h' : Hal} {uc : Nat} {u : AudioUsecase}
    (hu : h.routing.usecaseList[uc]? = some u) (htype : u.type ≠ .pcmCapture)
    (hlist : h'.routing.usecaseList = h.routing.usecaseList.eraseIdx uc) :
    h'.Recording ↔ h.Recording := by
  have hcount : ∀ h : Hal, h.Recording ↔
      0 < h.routing.usecaseList.countP (·.type = .pcmCapture) := by
    intro h
    rw [List.countP_pos_iff]
    simp [Recording]
  have herase := countP_eraseIdx (p := fun u => u.type = .pcmCapture) hu
  rw [if_neg (by simpa using htype), Nat.add_zero] at herase
  rw [hcount, hcount, hlist, herase]

theorem servedStream_listOutput (h : Hal) (o : OutId) (alloc : PathAlloc) :
    ((h.listOutput o alloc).routing.usecaseList.find? (·.id = (h.outs o).usecase)).map (·.stream) =
      some (h.servedStream o) := by
  show ((h.routing.usecaseList ++ [_]).find? _).map _ = _
  rw [List.find?_append]
  unfold servedStream
  cases h.routing.usecaseList.find? (·.id = (h.outs o).usecase) with
  | some u => rfl
  | none =>
    rw [Option.none_or, List.find?_singleton, if_pos]
    · rfl
    · simp [outputUsecase, modifyOut]

theorem typedWhen_enableOutputPath {h : Hal} (hl : h.Listed) (o : OutId) (alloc : PathAlloc) :
    TypedWhen (h.enableOutputPathSelections o alloc) (alloc.usecase = true → h.PlaybackTyped o) := by
  unfold enableOutputPathSelections
  split
  · rename_i halloc
    exact .nil fun hset => absurd hset halloc
  · rename_i halloc
    have hlisted := hl.listOutput o alloc
    apply TypedWhen.single hlisted
    obtain ⟨w, hnew, hrouting⟩ : ∃ w : AudioUsecase, w.New ∧
        (h.listOutput o alloc).routing = h.routing.addUsecase w := ⟨_, outputUsecase_new .., rfl⟩
    have hcall := callDevices_add h.toSettings (h.listOutput o alloc).toSettings rfl h.routing hnew
    have hserved := servedStream_listOutput h o alloc
    unfold Selection.Typed
    rw [selectionTyped_playback hlisted.consistent (h.outs o).usecase_isOutput]
    rw [hrouting] at hserved ⊢
    rw [hcall, firstIsCall_add _ hnew]
    obtain ⟨u, hu, hstream⟩ := Option.map_eq_some_iff.mp hserved
    unfold PlaybackTyped
    rw [hu, ← hstream]
    simp only [Option.some.injEq, forall_eq', Classical.not_not.mp halloc, forall_true_left]
    rfl

theorem firstIsCall_listCall {h : Hal} (hl : h.Listed) (hcall : h.inCall = false) (o : OutId) :
    (h.listCall o).routing.FirstIsCall ↔ ¬h.Recording := by
  have hnone : ∀ u ∈ h.routing.usecaseList, u.type ≠ .voiceCall := by
    intro u hu htype
    have hzero := hl.calls
    rw [hcall] at hzero
    have hid := (hl.consistent u hu).id_of_call htype
    exact absurd (decide_eq_true hid) (List.countP_eq_zero.mp hzero u hu)
  unfold Routing.FirstIsCall Routing.getUsecaseFromType Recording
  show ((h.routing.usecaseList ++ [_]).find? _).map _ = _ ↔ _
  rw [List.find?_append]
  cases hfind : h.routing.usecaseList.find? fun u => u.type ∈ [.pcmCapture, .voiceCall] with
  | some u =>
    have hmem := List.mem_of_find?_eq_some hfind
    have htype := List.find?_some hfind
    have hcapture : u.type = .pcmCapture := by simpa [hnone u hmem] using htype
    constructor
    · intro hvoice
      exact absurd (Option.some.inj hvoice) (hnone u hmem)
    · exact fun hnot => absurd ⟨u, hmem, hcapture⟩ hnot
  | none =>
    constructor
    · rintro _ ⟨u, hu, htype⟩
      have hother := List.find?_eq_none.mp hfind u hu
      simp [htype] at hother
    · exact fun _ => rfl

theorem typedWhen_startVoiceCall {h : Hal} (hl : h.Listed) (hcall : h.inCall = false)
    (allocated : Bool) :
    TypedWhen (h.startVoiceCallSelections allocated)
      (allocated = true → h.primaryOutput.isSome → h.Recording) := by
  unfold startVoiceCallSelections
  split
  · rename_i halloc
    exact .nil fun hset => absurd hset halloc
  rename_i halloc
  split
  · rename_i hprimary
    rw [hprimary]
    exact .nil nofun
  · rename_i o hprimary
    rw [hprimary]
    have hlisted := hl.listCall hcall o
    apply TypedWhen.single hlisted
    have hreads : Selection.Typed (h.listCall o, .voiceCall) ↔
        ¬(h.listCall o).routing.FirstIsCall := by
      -- the call is found, and reads the active input
      have hfound : ((h.listCall o).routing.usecaseList.find? (·.id = .voiceCall)).isSome :=
        List.find?_isSome.mpr ⟨_, List.mem_append_right _ (List.mem_singleton.mpr rfl), rfl⟩
      obtain ⟨u, hu⟩ := Option.isSome_iff_exists.mp hfound
      have htype : u.type = .voiceCall := by
        have hid : u.id = .voiceCall := by simpa using List.find?_some hu
        exact (hlisted.consistent u (List.mem_of_find?_eq_some hu)).type_of_call hid
      constructor
      · intro htyped
        apply htyped u hu
        unfold Settings.ReadsActiveInput
        rw [htype]
        trivial
      · exact fun hfirst _ _ _ => hfirst
    rw [hreads, firstIsCall_listCall hl hcall, Classical.not_not]
    simp [Classical.not_not.mp halloc]

/-- Stopping the call leaves the recordings. -/
theorem recording_stopVoiceCall {h : Hal} (hl : h.Listed) :
    h.stopVoiceCall.Recording ↔ h.Recording := by
  have hdis : ∀ (k : Hal) (u : AudioUsecase) (d : SndDevice),
      (k.disableSndDevice u d).routing.usecaseList = k.routing.usecaseList :=
    fun k u d => Routing.disableSndDevice_usecaseList k.routing u d
  unfold stopVoiceCall
  dsimp only
  split
  · exact Iff.rfl
  rename_i uc huc
  split
  · exact Iff.rfl
  rename_i u hu
  have htype := (hl.consistent u (List.mem_of_getElem? hu)).type_of_call
    (Routing.getUsecaseFromId_id huc hu)
  apply recording_eraseIdx hu
  · rw [htype]
    exact nofun
  · show List.eraseIdx _ uc = _
    rw [hdis, hdis]

theorem recording_disableOutputPath {h : Hal} (hl : h.Listed) (o : OutId) :
    (h.disableOutputPath o).Recording ↔ h.Recording := by
  unfold disableOutputPath
  split
  · exact Iff.rfl
  rename_i uc huc
  split
  · exact Iff.rfl
  rename_i u hu
  have hid := Routing.getUsecaseFromId_id huc hu
  have htype := (hl.consistent u (List.mem_of_getElem? hu)).type_of_output
    (hid ▸ (h.outs o).usecase_isOutput)
  have hne : u.type ≠ .pcmCapture := by
    rw [htype]
    exact nofun
  have hdis := Routing.disableSndDevice_usecaseList h.routing u u.outSndDevice
  dsimp only
  split
  · exact recording_eraseIdx hu hne (congrArg (·.eraseIdx uc) hdis)
  · exact recording_eraseIdx hu hne (congrArg (·.eraseIdx uc) hdis)

theorem recording_stopOutputStream {h : Hal} (hl : h.Listed) (o : OutId) :
    (h.stopOutputStream o).Recording ↔ h.Recording := by
  unfold stopOutputStream
  dsimp only
  split
  · have hsame : (h.stopOutputOffloadStream o).2.routing = h.routing ∧
        (h.stopOutputOffloadStream o).2.inCall = h.inCall := by
      unfold stopOutputOffloadStream
      split
      · exact ⟨rfl, rfl⟩
      · exact ⟨rfl, rfl⟩
    rw [recording_disableOutputPath (hl.of_kinds (by rw [hsame.1]) hsame.2)]
    unfold Recording
    rw [hsame.1]
  · unfold stopOutputOffloadStream
    split
    · exact Iff.rfl
    · exact Iff.rfl

theorem recording_doOutStandby {h : Hal} (hl : h.Listed) (o : OutId) :
    (h.doOutStandby o).Recording ↔ h.Recording := by
  have hstop : ∀ h' : Hal, h'.routing = h.routing ∧ h'.inCall = h.inCall →
      ((h'.stopOutputStream o).Recording ↔ h.Recording) := by
    intro h' hsame
    rw [recording_stopOutputStream (hl.of_kinds (by rw [hsame.1]) hsame.2)]
    unfold Recording
    rw [hsame.1]
  unfold doOutStandby
  dsimp only
  split
  · have hdrop (h : Hal) : h.Frame (fun _ => True) (h.dropOutEcho o) := .dropOutEcho h trivial
    exact hstop _ ⟨(hdrop _).routing, (hdrop _).inCall⟩
  · exact hstop _ ⟨rfl, rfl⟩

theorem recording_of_kinds {h h' : Hal} (hkinds : h'.routing.kinds = h.routing.kinds) :
    h'.Recording ↔ h.Recording := by
  have hkind : ∀ h : Hal, h.Recording ↔ ∃ k ∈ h.routing.kinds, k.2.1 = .pcmCapture := by
    intro h
    simp [Recording, Routing.kinds, AudioUsecase.kind]
  rw [hkind, hkind, hkinds]

theorem kinds_leaveSpeaker (h : Hal) (o : OutId) (uc : Nat) :
    (h.leaveSpeaker o uc).routing.kinds = h.routing.kinds := by
  unfold leaveSpeaker
  split
  · exact h.routing.kinds_leaveSpeaker uc
  · rfl

theorem recording_rerouteOut {h h' : Hal} (hl : h.Listed) {o : OutId} {val : AudioDevices}
    (hroute : h.rerouteOut o val = some h') : h'.Recording ↔ h.Recording := by
  unfold rerouteOut at hroute
  split at hroute
  · obtain rfl := Option.some.inj hroute
    exact Iff.rfl
  rename_i uc huc
  split at hroute
  · obtain rfl := Option.some.inj hroute
    exact recording_doOutStandby hl o
  · have hsel := (kinds_selectDevices hroute).1
    exact recording_of_kinds (hsel.trans (h.kinds_leaveSpeaker o uc))

theorem leaveSpeaker_same (h : Hal) (o : OutId) (uc : Nat) :
    (h.leaveSpeaker o uc).toSettings = h.toSettings := by
  unfold leaveSpeaker
  split
  · rfl
  · rfl

theorem typedWhen_rerouteOut {h : Hal} (hl : h.Listed) (o : OutId) (val : AudioDevices) :
    TypedWhen (h.rerouteOutSelections o val)
      ((∃ u ∈ h.routing.usecaseList, u.id = (h.outs o).usecase) →
        leavesPcmDevices (h.outs o).pcmDevList val = false → h.PlaybackTyped o) := by
  unfold rerouteOutSelections
  split
  · rename_i hnone
    apply TypedWhen.nil
    rintro ⟨u, hu, hid⟩
    exact absurd hid (by simpa using List.findIdx?_eq_none_iff.mp hnone u hu)
  rename_i uc huc
  split
  · rename_i hleaves
    apply TypedWhen.nil
    intro _ hstays
    rw [hleaves] at hstays
    cases hstays
  · rename_i hstays
    have hlisted := leaveSpeaker_listed hl o uc
    apply TypedWhen.single hlisted
    have hkinds := h.kinds_leaveSpeaker o uc
    obtain ⟨hlt, hid, _⟩ := List.findIdx?_eq_some_iff_getElem.mp huc
    have hmem : ∃ u ∈ h.routing.usecaseList, u.id = (h.outs o).usecase :=
      ⟨_, List.getElem_mem hlt, by simpa using hid⟩
    unfold Selection.Typed
    rw [selectionTyped_playback hlisted.consistent (h.outs o).usecase_isOutput,
      callDevices_leaveSpeaker h o huc, firstIsCall_of_kinds hkinds, leaveSpeaker_same]
    have hstream := findStream_of_kinds hkinds (h.outs o).usecase
    have hfound : (h.routing.usecaseList.find? (·.id = (h.outs o).usecase)).isSome := by
      obtain ⟨u, hu, huid⟩ := hmem
      exact List.find?_isSome.mpr ⟨u, hu, decide_eq_true huid⟩
    obtain ⟨w, hw⟩ := Option.isSome_iff_exists.mp hfound
    rw [hw] at hstream
    obtain ⟨u, hu, husame⟩ := Option.map_eq_some_iff.mp hstream
    unfold PlaybackTyped servedStream
    rw [hu, hw]
    simp only [Option.some.injEq, forall_eq', husame, Option.map_some, Option.getD_some, hmem,
      Bool.not_eq_true _ ▸ hstays, forall_true_left]

theorem typedWhen_followCall {h : Hal} (hl : h.Listed) (o : OutId) (allocated : Bool) :
    TypedWhen (h.followCallSelections o allocated)
      (h.mode = .inCall → h.primaryOutput = some o → allocated = true → h.Recording) := by
  unfold followCallSelections
  split
  · rename_i hmode
    split
    · have hsame := sameStreams_stopVoiceCall h
      apply (typedWhen_startVoiceCall (stopVoiceCall_listed hl) h.stopVoiceCall_inCall
        allocated).congr
      rw [recording_stopVoiceCall hl, hsame.primaryOutput, hmode.2]
      simp [hmode.1]
    · rename_i hcall
      apply (typedWhen_startVoiceCall hl (Bool.not_eq_true _ ▸ hcall) allocated).congr
      rw [hmode.2]
      simp [hmode.1]
  · rename_i hother
    exact .nil fun hmode hprimary => absurd ⟨hmode, hprimary⟩ hother

theorem find?_of_getUsecaseFromId {r : Routing} {id : UsecaseId} {uc : Nat} {u : AudioUsecase}
    (hid : r.getUsecaseFromId id = some uc) (hu : r.usecaseList[uc]? = some u) :
    r.usecaseList.find? (·.id = id) = some u := by
  obtain ⟨hlt, hp, hbefore⟩ := List.findIdx?_eq_some_iff_getElem.mp hid
  rw [List.getElem?_eq_getElem hlt] at hu
  obtain rfl := Option.some.inj hu
  rw [List.find?_eq_some_iff_getElem]
  exact ⟨hp, uc, hlt, rfl, fun j hj => by simpa using hbefore j hj⟩

/-- Selecting devices for a recording does not go on to another usecase. -/
theorem selectDevicesAt_recording {v : Settings} {r : Routing}
    (hr : ∀ u ∈ r.usecaseList, u.Consistent) (depth : Nat) :
    (v.selectDevicesAt (depth + 1) r .audioCapture).isSome := by
  unfold Settings.selectDevicesAt
  split
  · rfl
  rename_i uc huc
  split
  · rfl
  rename_i u hu
  have hid := Routing.getUsecaseFromId_id huc hu
  have htype := (hr u (List.mem_of_getElem? hu)).type_of_capture hid
  dsimp only
  rw [htype]
  rfl

theorem selectsFirst_recording {v : Settings} {r : Routing} {stream : StreamRef} {id : UsecaseId}
    (hr : ∀ u ∈ r.usecaseList, u.Consistent) (hfirst : ¬r.FirstIsCall)
    (hsel : v.selectsFirst r stream = some id) : id = .audioCapture := by
  unfold Settings.selectsFirst at hsel
  split at hsel
  · obtain ⟨input, hinput, rfl⟩ := Option.map_eq_some_iff.mp hsel
    obtain ⟨hactive, _⟩ := Option.filter_eq_some_iff.mp hinput
    obtain ⟨u, hu, rfl⟩ := Option.map_eq_some_iff.mp hactive
    have htype := List.find?_some hu
    have hnot : u.type ≠ .voiceCall := by
      intro hcall
      apply hfirst
      unfold Routing.FirstIsCall
      rw [hu, Option.map_some, hcall]
    have hcapture : u.type = .pcmCapture := by simpa [hnot] using htype
    obtain ⟨i, hstream⟩ := (hr u (List.mem_of_find?_eq_some hu)).input hcapture
    rw [hstream]
    exact (v.ins i).usecase_eq
  · cases hsel

/-- A selection that reads no call as an input returns. -/
theorem selectDevices_isSome {v : Settings} {r : Routing} {id : UsecaseId}
    (hr : ∀ u ∈ r.usecaseList, u.Consistent) (htyped : v.SelectionTyped r id) :
    (v.selectDevices r id).isSome := by
  unfold Settings.selectDevices Settings.selectDevicesAt
  split
  · rfl
  rename_i uc huc
  split
  · rfl
  rename_i u hu
  have hset : ∀ devices, ∀ w ∈ (r.setDevices uc devices).usecaseList, w.Consistent := by
    intro devices w hw
    rcases exists_of_mem_modify hw with hw | ⟨c, hc, rfl⟩
    · exact hr w hw
    · exact hr c (List.mem_of_getElem? hc)
  dsimp only
  split
  · rfl
  · rename_i htype
    split
    · rfl
    · rename_i hcall
      split
      · rename_i input hinput
        have hprimary : v.primaryOutput.map StreamRef.output = some u.stream := by
          unfold Settings.selectsFirst at hinput
          split at hinput
          · assumption
          · cases hinput
        have hreads : v.ReadsActiveInput r u := by
          unfold Settings.ReadsActiveInput
          rw [htype]
          exact ⟨Classical.not_not.mp hcall, hprimary⟩
        have hfirst : ¬(r.setDevices uc (v.outputDevicesAt u.stream)).FirstIsCall := by
          rw [firstIsCall_of_kinds (r.kinds_setDevices uc _)]
          exact htyped u (find?_of_getUsecaseFromId huc hu) hreads
        obtain rfl := selectsFirst_recording (hset _) hfirst hinput
        obtain ⟨r₁, hr₁⟩ := Option.isSome_iff_exists.mp
          (selectDevicesAt_recording (v := v) (hset (v.outputDevicesAt u.stream)) 0)
        rw [hr₁]
        rfl
      · rfl
  · rfl
  · rfl

/-- The mask of a stream is not looked at. -/
theorem playbackTyped_modifyOut (h : Hal) (o : OutId) (val : AudioDevices) :
    (h.modifyOut o ({ · with devices := val })).PlaybackTyped o ↔ h.PlaybackTyped o := by
  have hserved : (h.modifyOut o ({ · with devices := val })).servedStream o = h.servedStream o := by
    unfold servedStream modifyOut
    simp only [Function.update_self]
  unfold PlaybackTyped
  rw [hserved]
  rfl

theorem switchBtSco_list (h : Hal) (devices : AudioDevices) :
    (h.switchBtSco devices).routing.usecaseList = h.routing.usecaseList := by
  unfold switchBtSco
  dsimp only
  split
  · rfl
  split
  · split
    · rfl
    · rfl
  · rfl

/-- The mode and the primary output are those of another state. -/
def SameCall (h h' : Hal) : Prop := h'.mode = h.mode ∧ h'.primaryOutput = h.primaryOutput

theorem sameCall_doOutStandby (h : Hal) (o : OutId) : h.SameCall (h.doOutStandby o) := by
  have hstop : ∀ h' : Hal, h.SameCall h' → h.SameCall (h'.stopOutputStream o) := by
    intro h' hsame
    have hoffload : h.SameCall (h'.stopOutputOffloadStream o).2 := by
      unfold stopOutputOffloadStream
      split
      · exact hsame
      · exact hsame
    unfold stopOutputStream
    dsimp only
    split
    · have hs := sameStreams_disableOutputPath (h'.stopOutputOffloadStream o).2 o
      exact ⟨hs.mode.trans hoffload.1, hs.primaryOutput.trans hoffload.2⟩
    · exact hoffload
  have hecho : ∀ h' : Hal, h.SameCall h' → h.SameCall (h'.dropOutEcho o) := by
    intro h' hsame
    unfold dropOutEcho
    split
    · exact hsame
    · dsimp only
      split
      · exact hsame
      · exact hsame
  unfold doOutStandby
  dsimp only
  split
  · exact hstop _ (hecho _ ⟨rfl, rfl⟩)
  · exact hstop _ ⟨rfl, rfl⟩

/-- What the rest of `out_set_parameters` needs of the state that routing leaves. -/
structure Rerouted (h h' : Hal) : Prop where
  listed : h'.Listed
  recording : h'.Recording ↔ h.Recording
  same : h.SameCall h'

theorem rerouteOut_rerouted {h h' : Hal} (hl : h.Listed) {o : OutId} {val : AudioDevices}
    (hroute : h.rerouteOut o val = some h') : h.Rerouted h' := by
  refine ⟨listed_on.rerouteOut trivial (fun _ _ => trivial) hroute hl,
    recording_rerouteOut hl hroute, ?_⟩
  unfold rerouteOut at hroute
  split at hroute
  · obtain rfl := Option.some.inj hroute
    exact ⟨rfl, rfl⟩
  rename_i uc _
  split at hroute
  · obtain rfl := Option.some.inj hroute
    exact sameCall_doOutStandby h o
  · have hs := sameStreams_selectDevices hroute
    have hleft := h.leaveSpeaker_same o uc
    refine ⟨hs.mode.trans ?_, hs.primaryOutput.trans ?_⟩
    · exact congrArg (·.mode) hleft
    · exact congrArg (·.primaryOutput) hleft

/-- Where no call is read as an input, routing an active stream returns. -/
theorem rerouteOut_isSome {h : Hal} (hl : h.Listed) {o : OutId} {val : AudioDevices}
    (htyped : ∀ s ∈ h.rerouteOutSelections o val, Selection.Typed s) :
    (h.rerouteOut o val).isSome := by
  unfold rerouteOutSelections at htyped
  unfold rerouteOut
  split
  · rfl
  rename_i uc huc
  rw [huc] at htyped
  dsimp only at htyped
  split
  · rfl
  · rename_i hstays
    rw [if_neg hstays] at htyped
    have hsel := selectDevices_isSome (leaveSpeaker_listed hl o uc).consistent
      (htyped _ (List.mem_singleton.mpr rfl))
    have hsame : ((h.leaveSpeaker o uc).outs o).usecase = (h.outs o).usecase := by
      rw [leaveSpeaker_same]
    show (((h.leaveSpeaker o uc).selectDevices ((h.leaveSpeaker o uc).outs o).usecase)).isSome
    rw [hsame]
    unfold Hal.selectDevices
    rw [Option.isSome_map]
    exact hsel

theorem typedWhen_reroute {h : Hal} (hl : h.Listed) (o : OutId) (val : AudioDevices) :
    TypedWhen (h.reroute o val).1 ((h.outs o).standby = false →
      (∃ u ∈ h.routing.usecaseList, u.id = (h.outs o).usecase) →
        leavesPcmDevices (h.outs o).pcmDevList val = false → h.PlaybackTyped o) := by
  unfold reroute
  split
  · rename_i hstandby
    apply TypedWhen.nil
    intro hactive
    rw [hstandby] at hactive
    cases hactive
  · rename_i hactive
    apply (typedWhen_rerouteOut hl o val).congr
    simp only [Bool.not_eq_true _ ▸ hactive, forall_true_left]

/-- Either no call is read as an input, and the state is fit for what follows, or one is. -/
theorem reroute_rerouted {h : Hal} (hl : h.Listed) (o : OutId) (val : AudioDevices) :
    (∃ h₁, (h.reroute o val).2 = some h₁ ∧ h.Rerouted h₁) ∨
      (h.reroute o val).2 = none ∧ ¬∀ s ∈ (h.reroute o val).1, Selection.Typed s := by
  unfold reroute
  split
  · exact .inl ⟨h, rfl, hl, Iff.rfl, rfl, rfl⟩
  · cases hroute : h.rerouteOut o val with
    | some h₁ => exact .inl ⟨h₁, rfl, rerouteOut_rerouted hl hroute⟩
    | none =>
      refine .inr ⟨rfl, fun htyped => ?_⟩
      have hsome := rerouteOut_isSome hl htyped
      rw [hroute] at hsome
      cases hsome

theorem typedWhen_outSetRouting {h : Hal} (hl : h.Listed) (o : OutId) (val : AudioDevices)
    (allocated : Bool) : TypedWhen (h.outSetRoutingSelections o val allocated)
      (h.ReadsTyped (.outSetRouting o val allocated)) := by
  unfold outSetRoutingSelections
  split
  · rename_i hval
    exact .nil fun hne => absurd hval hne
  rename_i hval
  have hlm : (h.modifyOut o ({ · with devices := val })).Listed := hl.of_kinds rfl rfl
  have hout : (h.modifyOut o ({ · with devices := val })).outs o =
      { h.outs o with devices := val } := Function.update_self ..
  have hfirst := typedWhen_reroute hlm o val
  rw [hout, playbackTyped_modifyOut] at hfirst
  dsimp only at hfirst ⊢
  rcases reroute_rerouted hlm o val with ⟨h₁, hroute, hre⟩ | ⟨hnone, hnot⟩
  · rw [hroute, Option.toList_some, List.flatMap_singleton]
    have hsame := sameStreams_switchBtSco h₁ (h₁.outs o).devices
    have hlisted := listed_on.switchBtSco h₁ (h₁.outs o).devices hre.listed
    have hsecond := typedWhen_followCall hlisted o allocated
    have hrec := hre.recording
    unfold Recording at hrec hsecond
    rw [hsame.mode, hsame.primaryOutput, hre.same.1, hre.same.2, switchBtSco_list, hrec] at hsecond
    exact (hfirst.append hsecond).congr ⟨fun hP _ => hP, fun hP => hP hval⟩
  · rw [hnone, Option.toList_none, List.flatMap_nil, List.append_nil]
    apply hfirst.congr
    rw [← hfirst.typed_iff]
    constructor
    · exact fun htyped => absurd htyped hnot
    · intro hP
      exact hfirst.typed_iff.mpr (hP hval).1

/-! ## 5. Recordings -/

theorem typedWhen_recording {h : Hal} (hl : h.Listed) {id : UsecaseId} (hid : id = .audioCapture) :
    TypedWhen [(h, id)] (h.RecordingListed → h.RecordingTyped) := by
  subst hid
  exact .single hl (selectionTyped_recording hl.consistent)

theorem typedWhen_startInputStream {h : Hal} (hl : h.Listed) (i : InId) (start : InputStart) :
    TypedWhen (h.startInputStreamSelections i start)
      ((getPcmDevice (h.ins i).usecaseType (h.ins i).devices).isSome → start.usecase = true →
        start.pcmDevice = true → h.RecordingTyped) := by
  unfold startInputStreamSelections
  dsimp only
  split
  · rename_i hnone
    rw [hnone]
    exact .nil nofun
  rename_i profile hprofile
  rw [hprofile]
  split
  · rename_i hfails
    apply TypedWhen.nil
    rintro _ husecase hpcm
    rcases hfails with hno | hno
    · exact absurd husecase hno
    · exact absurd hpcm hno
  · rename_i halloc
    have hlm : { h with activeInput := some i }.Listed := hl.of_kinds rfl rfl
    have hlisted := hlm.listInput i profile
    apply (typedWhen_recording hlisted (h.ins i).usecase_eq).congr
    obtain ⟨w, hnew, hcapture, hrouting⟩ : ∃ w : AudioUsecase, w.New ∧ w.id = .audioCapture ∧
        ({ h with activeInput := some i }.listInput i profile).routing =
          h.routing.addUsecase w :=
      ⟨_, inputUsecase_new .., by simp [inputUsecase, modifyIn, (h.ins i).usecase_eq], rfl⟩
    have hcall := callDevices_add h.toSettings
      ({ h with activeInput := some i }.listInput i profile).toSettings rfl h.routing hnew
    have hfound : ({ h with activeInput := some i }.listInput i profile).RecordingListed := by
      refine ⟨w, ?_, hcapture⟩
      rw [hrouting]
      exact List.mem_append_right _ (List.mem_singleton.mpr rfl)
    unfold RecordingTyped
    rw [hrouting, hcall, firstIsCall_add _ hnew]
    have hboth : start.usecase = true ∧ start.pcmDevice = true := by
      simpa [not_or] using halloc
    simp [hfound, hboth]

theorem typedWhen_inSetRouting {h : Hal} (hl : h.Listed) (i : InId) (val : AudioDevices) :
    TypedWhen (h.inSetRoutingSelections i val)
      ((h.ins i).devices ≠ val → val ≠ AudioDevices.none → (h.ins i).standby = false →
        h.leavesInputDevice i val = false → h.RecordingListed → h.RecordingTyped) := by
  have hin : (h.modifyIn i ({ · with devices := val })).ins i = { h.ins i with devices := val } :=
    Function.update_self ..
  have hleaves : (h.modifyIn i ({ · with devices := val })).leavesInputDevice i val =
      h.leavesInputDevice i val := by
    unfold leavesInputDevice
    rw [hin]
    rfl
  unfold inSetRoutingSelections
  split
  · rename_i hsame
    apply TypedWhen.nil
    intro hne hval
    rcases hsame with hsame | hsame
    · exact absurd hsame hne
    · exact absurd hsame hval
  rename_i hval
  dsimp only
  rw [hleaves]
  split
  · rename_i hstandby
    apply TypedWhen.nil
    intro _ _ hactive
    rw [hin] at hstandby
    rw [show (h.ins i).standby = true from hstandby] at hactive
    cases hactive
  rename_i hactive
  split
  · rename_i hleave
    apply TypedWhen.nil
    intro _ _ _ hstays
    rw [hleave] at hstays
    cases hstays
  · rename_i hstays
    have hlm : (h.modifyIn i ({ · with devices := val })).Listed := hl.of_kinds rfl rfl
    apply (typedWhen_recording hlm (by rw [hin]; exact (h.ins i).usecase_eq)).congr
    rw [hin] at hactive
    have hactive' : (h.ins i).standby = false := Bool.not_eq_true _ ▸ hactive
    obtain ⟨hne, hnone⟩ := not_or.mp hval
    simp only [ne_eq, hne, hnone, hactive', Bool.not_eq_true _ ▸ hstays, not_false_iff,
      forall_true_left]
    rfl

theorem typedWhen_setAec {h : Hal} (hl : h.Listed) (i : InId) (enable : Bool) :
    TypedWhen (h.setAecSelections i enable)
      ((h.ins i).standby = false → h.RecordingListed → h.RecordingTyped) := by
  have hin : (h.modifyIn i ({ · with enableAec := enable })).ins i =
      { h.ins i with enableAec := enable } := Function.update_self ..
  unfold setAecSelections
  dsimp only
  split
  · rename_i hstandby
    apply TypedWhen.nil
    intro hactive
    rw [hin] at hstandby
    rw [show (h.ins i).standby = true from hstandby] at hactive
    cases hactive
  · rename_i hactive
    have hlm : (h.modifyIn i ({ · with enableAec := enable })).Listed := hl.of_kinds rfl rfl
    apply (typedWhen_recording hlm (by rw [hin]; exact (h.ins i).usecase_eq)).congr
    rw [hin] at hactive
    have hactive' : (h.ins i).standby = false := Bool.not_eq_true _ ▸ hactive
    simp only [hactive', forall_true_left]
    rfl

/-! ## 6. Every operation -/

theorem ins_setAuxChannelsChanged (h : Hal) (i : InId) (changed : Bool) :
    (h.setAuxChannelsChanged i changed).ins i = { h.ins i with auxChannelsChanged := changed } :=
  Function.update_self ..

theorem typedWhen_addAudioEffect {h : Hal} (hl : h.Listed) (i : InId) (aec auxChanged : Bool) :
    TypedWhen (h.addAudioEffectSelections i aec auxChanged)
      (h.ReadsTyped (.addAudioEffect i aec auxChanged)) := by
  unfold addAudioEffectSelections ReadsTyped
  dsimp only
  split
  case isFalse hno => exact .nil fun haec => absurd haec hno
  rename_i haec
  have hlc : (h.setAuxChannelsChanged i true).Listed := hl.of_kinds rfl rfl
  split
  · rename_i haux
    have hlm : ((h.setAuxChannelsChanged i true).doInStandby i).Listed :=
      listed_on.doInStandby _ i hlc
    apply (typedWhen_setAec hlm i true).congr
    rw [doInStandby_standby, haux]
    exact ⟨fun _ _ _ => nofun, fun _ => nofun⟩
  · rename_i haux
    apply (typedWhen_setAec hlc i true).congr
    rw [ins_setAuxChannelsChanged]
    simp only [haec, Bool.not_eq_true _ ▸ haux, forall_true_left]
    rfl

theorem typedWhen_wbAmrCallback {h : Hal} (hl : h.Listed) (wbAmrType : Int) (allocated : Bool) :
    TypedWhen (h.wbAmrCallbackSelections wbAmrType allocated)
      (h.ReadsTyped (.wbAmrCallback wbAmrType allocated)) := by
  unfold wbAmrCallbackSelections ReadsTyped
  split
  · rename_i hsame
    exact .nil fun hne => absurd hsame hne
  rename_i hchanged
  dsimp only
  split
  · rename_i hcall
    have hlm : { h with routing.session.wbAmrType := wbAmrType }.Listed := hl.of_kinds rfl rfl
    have hsame := sameStreams_stopVoiceCall { h with routing.session.wbAmrType := wbAmrType }
    apply (typedWhen_startVoiceCall (stopVoiceCall_listed hlm) (stopVoiceCall_inCall _)
      allocated).congr
    rw [recording_stopVoiceCall hlm, hsame.primaryOutput]
    simp only [ne_eq, hchanged, show h.inCall = true from hcall, not_false_iff, forall_true_left]
    rfl
  · rename_i hcall
    exact .nil fun _ hin => absurd hin hcall

theorem typedWhen_selections {h : Hal} (hl : h.Listed) (op : Op) :
    TypedWhen (h.selections op) (h.ReadsTyped op) := by
  cases op with
  | outStart o alloc ready =>
    show TypedWhen (h.outStartSelections o alloc) _
    unfold outStartSelections ReadsTyped
    split
    · rename_i hstandby
      apply (typedWhen_enableOutputPath hl o alloc).congr
      simp only [hstandby, forall_true_left]
    · rename_i hactive
      exact .nil fun hstandby => absurd hstandby hactive
  | outWriteOffload o w =>
    show TypedWhen (h.outWriteOffloadSelections o w.alloc) _
    unfold outWriteOffloadSelections ReadsTyped
    split
    · rename_i hother
      apply TypedWhen.nil
      intro hactive hoffload
      rcases hother with hstandby | hnot
      · rw [hstandby] at hactive
        cases hactive
      · exact absurd hoffload hnot
    rename_i hboth
    obtain ⟨hactive, hoffload⟩ := not_or.mp hboth
    split
    · rename_i hstate
      apply (typedWhen_enableOutputPath hl o w.alloc).congr
      simp only [Bool.not_eq_true _ ▸ hactive, Classical.not_not.mp hoffload, hstate,
        forall_true_left]
    · rename_i hstate
      exact .nil fun _ _ hflushed => absurd hflushed hstate
  | outResume o alloc succeeds =>
    show TypedWhen (h.outResumeSelections o alloc) _
    unfold outResumeSelections ReadsTyped
    split
    · rename_i hnot
      exact .nil fun hoffload => absurd hoffload hnot
    rename_i hoffload
    split
    · rename_i hpaused
      apply (typedWhen_enableOutputPath hl o alloc).congr
      simp only [Classical.not_not.mp hoffload, hpaused.1, hpaused.2, ne_eq, not_false_iff,
        forall_true_left]
    · rename_i hother
      exact .nil fun _ hcompr hpaused => absurd ⟨hcompr, hpaused⟩ hother
  | outSetRouting o val allocated => exact typedWhen_outSetRouting hl o val allocated
  | inStart i start =>
    show TypedWhen (h.inStartSelections i start) _
    unfold inStartSelections ReadsTyped
    split
    · rename_i hstandby
      apply (typedWhen_startInputStream hl i start).congr
      simp only [hstandby, forall_true_left]
    · rename_i hactive
      exact .nil fun hstandby => absurd hstandby hactive
  | inSetParameters i source routing =>
    show TypedWhen (h.inSetParametersSelections i source routing) _
    unfold inSetParametersSelections ReadsTyped
    dsimp only
    cases routing with
    | none => exact .nil fun _ hval => nomatch hval
    | some val =>
      generalize ((source.filter (· ≠ .default)).getD (h.ins i).source) = source
      have hin : (h.modifyIn i ({ · with source := source })).ins i =
          { h.ins i with source := source } := Function.update_self ..
      have hlm : (h.modifyIn i ({ · with source := source })).Listed := hl.of_kinds rfl rfl
      apply (typedWhen_inSetRouting hlm i val).congr
      unfold leavesInputDevice
      rw [hin]
      simp only [Option.mem_some, forall_eq']
      rfl
  | addAudioEffect i aec auxChanged => exact typedWhen_addAudioEffect hl i aec auxChanged
  | removeAudioEffect i aec =>
    show TypedWhen (h.removeAudioEffectSelections i aec) _
    unfold removeAudioEffectSelections ReadsTyped
    dsimp only
    have hlc : (h.setAuxChannelsChanged i false).Listed := hl.of_kinds rfl rfl
    split
    · rename_i haec
      apply (typedWhen_setAec hlc i false).congr
      rw [ins_setAuxChannelsChanged]
      simp only [haec, forall_true_left]
      rfl
    · rename_i hno
      exact .nil fun haec => absurd haec hno
  | wbAmrCallback wbAmrType allocated => exact typedWhen_wbAmrCallback hl wbAmrType allocated
  | outSyncEcho _ => exact .nil trivial
  | outWritePcm _ => exact .nil trivial
  | outStandby _ => exact .nil trivial
  | outPause _ _ => exact .nil trivial
  | outDrain _ _ => exact .nil trivial
  | outFlush _ _ => exact .nil trivial
  | offloadThread _ => exact .nil trivial
  | inRead _ => exact .nil trivial
  | inStandby _ => exact .nil trivial
  | setMode _ => exact .nil trivial
  | setBluetoothWb _ => exact .nil trivial

/-- In every state the HAL can reach, an operation accesses every usecase's stream as what was
stored there exactly when it reads no call as the active input. -/
theorem accesses_typed_iff_readsTyped {h₀ h : Hal} {ops : List Op} (hrun : Reaches h₀ ops h)
    (op : Op) : (∀ a ∈ h.accesses op, a.WellTyped) ↔ h.ReadsTyped op := by
  have hl : h.Listed := hrun.listed
  have hwhen := typedWhen_selections hl op
  rw [← hwhen.typed_iff]
  unfold accesses
  rw [List.forall_mem_append]
  constructor
  · intro hall s hs
    apply (selectionAccesses_typed_iff (hwhen.listed s hs)).mp
    exact fun a ha => hall.1 a (List.mem_flatMap.mpr ⟨s, hs, ha⟩)
  · intro htyped
    refine ⟨fun a ha => ?_, hl.pathAccesses_typed op⟩
    obtain ⟨s, hs, ha⟩ := List.mem_flatMap.mp ha
    exact (selectionAccesses_typed_iff (hwhen.listed s hs)).mpr (htyped s hs) a ha

/-- A playback and a recording run, and a call is made. -/
def recordedCall : List Op :=
  [.outStart 0 ⟨true, true⟩ true, .inStart 0 ⟨true, true, 0, true, true⟩, .setMode .inCall]

def recordedCallState : Hal := (recordedCall.foldlM step (opened false)).getD (opened false)

theorem accesses_typed_recordedCall :
    List.Forall (·.WellTyped)
      (recordedCallState.accesses (.outSetRouting 0 AudioDevices.outEarpiece true)) := by
  have hrun : Exec (guarded step) (opened false) recordedCall recordedCallState :=
    Exec.computed (by decide +kernel)
  apply List.forall_iff_forall_mem.mpr
  apply (accesses_typed_iff_readsTyped ⟨opened_start false, hrun⟩ _).mpr
  intro _
  refine ⟨fun _ _ _ hcall hprimary => ?_, fun _ _ _ => ?_⟩
  · decide +kernel
  · exact ⟨recordedCallState.routing.usecaseList.get ⟨1, by decide +kernel⟩, by decide +kernel,
      by decide +kernel⟩

/-- A call without a recording. -/
def plainCall : List Op := [.setMode .inCall]

def plainCallState : Hal := (plainCall.foldlM step (opened false)).getD (opened false)

theorem call_read_as_input : ¬∀ (h₀ h : Hal) (ops : List Op), Reaches h₀ ops h →
    ∀ op, ∀ a ∈ h.accesses op, a.WellTyped := by
  intro hall
  have hrun : Exec (guarded step) (opened false) plainCall plainCallState :=
    Exec.computed (by decide +kernel)
  have hmem : StreamAccess.asInput (.output 0) ∈
      plainCallState.accesses (.outSetRouting 0 AudioDevices.outEarpiece true) := by
    decide +kernel
  exact hall _ _ _ ⟨opened_start false, hrun⟩ _ _ hmem

end Hal

end Universal7870.Audio
