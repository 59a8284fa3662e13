import Universal7870.Camera.Camera3Wrapper
import Universal7870.Camera.Metadata

/-!
# What the vendor is asked for

The settings of a capture request are a packet of metadata that belongs to the client.  The wrapper
passes a clone of it on, in which it has rewritten what concerns the flash.
-/

namespace Universal7870.Camera

/-! ## 1. The settings in a packet -/

def flashModeOff : UInt8 := 0
def aeModeOff : UInt8 := 0
def aeModeOn : UInt8 := 1
def aeModeOnAutoFlash : UInt8 := 2
def aeModeOnAlwaysFlash : UInt8 := 3
def aeModeOnAutoFlashRedeye : UInt8 := 4
def aePrecaptureTriggerIdle : UInt8 := 0
def aePrecaptureTriggerStart : UInt8 := 1

def FlashMode.ofByte (value : UInt8) : FlashMode :=
  match value.toNat with
  | 0 => .off
  | 1 => .single
  | 2 => .torch
  | n => .other n

def AeMode.ofByte (value : UInt8) : AeMode :=
  match value.toNat with
  | 0 => .off
  | 1 => .on
  | 2 => .onAutoFlash
  | 3 => .onAlwaysFlash
  | 4 => .onAutoFlashRedeye
  | n => .other n

def AePrecaptureTrigger.ofByte (value : UInt8) : AePrecaptureTrigger :=
  match value.toNat with
  | 0 => .idle
  | 1 => .start
  | n => .other n

def CaptureIntent.ofByte (value : UInt8) : CaptureIntent :=
  match value.toNat with
  | 1 => .preview
  | 2 => .stillCapture
  | n => .other n

/-- The settings that the entries are. -/
def readSettings (es : List MetadataEntry) : CaptureSettings where
  flashMode := (firstValue es .flashMode).map .ofByte
  aeMode := (firstValue es .controlAeMode).map .ofByte
  aePrecaptureTrigger := (firstValue es .controlAePrecaptureTrigger).map .ofByte
  captureIntent := (firstValue es .controlCaptureIntent).map .ofByte

/-! ## 2. Rewriting a clone -/

def isAeFlash (value : UInt8) : Bool :=
  value = aeModeOnAutoFlash || value = aeModeOnAlwaysFlash || value = aeModeOnAutoFlashRedeye

namespace MetadataLibrary

variable {M : Type*} (lib : MetadataLibrary M)

def lookUp (m : M) (tag : MetadataTag) : Option UInt8 := (lib.find m tag).map fun r => r.2.headD 0

/-- The value of an entry is updated where it is not wanted. -/
def replaceWhere (m : M) (tag : MetadataTag) (unwanted : UInt8 → Bool) (value : UInt8) : M :=
  match lib.find m tag with
  | none => m
  | some (i, data) => if unwanted (data.headD 0) then lib.update m i [value] else m

/-- What `camera3_process_capture_request` does with the clone: the settings it finds in it, and the
packet that is passed on. -/
def sanitize (m : M) : CaptureSettings × M :=
  let flashMode := lib.lookUp m .flashMode
  let m := lib.replaceWhere m .flashMode (fun value => value ≠ flashModeOff) flashModeOff
  let aeMode := lib.lookUp m .controlAeMode
  let m := lib.replaceWhere m .controlAeMode isAeFlash aeModeOn
  let trigger := lib.lookUp m .controlAePrecaptureTrigger
  let m := lib.replaceWhere m .controlAePrecaptureTrigger
    (fun value => value = aePrecaptureTriggerStart) aePrecaptureTriggerIdle
  let captureIntent := lib.lookUp m .controlCaptureIntent
  ({ flashMode := flashMode.map .ofByte
     aeMode := aeMode.map .ofByte
     aePrecaptureTrigger := trigger.map .ofByte
     captureIntent := captureIntent.map .ofByte }, m)

end MetadataLibrary

/-! ## 3. Requests and their memory -/

/-- `camera3_capture_request_t`, with the addresses it holds. -/
structure Camera3CaptureRequest where
  frameNumber : UInt32
  settings : Option Nat
  inputBuffer : Option Nat
  numOutputBuffers : UInt32
  outputBuffers : Nat
  deriving DecidableEq, Repr

/-- `processed` is a call of the vendor, with the packet its request leads to. -/
inductive CaptureEvent (M : Type*)
  | cloned (src dst : Nat)
  | processed (request : Camera3CaptureRequest) (settings : Option M)
  | freed (settings : Nat)

/-- The request of the client, the packets there are, and what has happened to them. -/
structure CaptureMemory (M : Type*) where
  request : Camera3CaptureRequest
  heap : Nat → Option M
  log : List (CaptureEvent M) := []

namespace CaptureMemory

variable {M : Type*}

/-- `clone_camera_metadata` of the settings, if there are any, where `allocated` is what memory it
gets: the address of the clone and what it holds. -/
def cloneSettings (lib : MetadataLibrary M) (mem : CaptureMemory M) (allocated : Option Nat) :
    Option (Nat × M × CaptureMemory M) :=
  match mem.request.settings, allocated with
  | some src, some dst =>
    (mem.heap src).map fun m =>
      (dst, lib.clone m, { mem with
        heap := Function.update mem.heap dst (some (lib.clone m))
        log := mem.log ++ [.cloned src dst] })
  | _, _ => none

def store (mem : CaptureMemory M) (settings : Nat) (m : M) : CaptureMemory M :=
  { mem with heap := Function.update mem.heap settings (some m) }

/-- `free_camera_metadata`. -/
def free (mem : CaptureMemory M) (settings : Nat) : CaptureMemory M :=
  { mem with
    heap := Function.update mem.heap settings none
    log := mem.log ++ [.freed settings] }

/-- The call of the vendor. -/
def passOn (lib : MetadataLibrary M) (mem : CaptureMemory M) (c : FrontCamera)
    (request : Camera3CaptureRequest) : FrontCamera × CaptureMemory M :=
  let settings := request.settings.bind mem.heap
  ({ c with forwarded := c.forwarded ++ [settings.map fun m => readSettings (lib.entries m)] },
    { mem with log := mem.log ++ [.processed request settings] })

/-- `camera3_process_capture_request`, up to the vendor's result. -/
def processCaptureRequest (lib : MetadataLibrary M) (mem : CaptureMemory M) (c : FrontCamera)
    (d : Camera3Device) (allocated : Option Nat) : FrontCamera × CaptureMemory M :=
  if d.id = 1 ∧ c.led.hasFrontFlash then
    match mem.cloneSettings lib allocated with
    | none => mem.passOn lib c mem.request
    | some (clonedSettings, m, mem) =>
      let (s, m) := lib.sanitize m
      let mem := mem.store clonedSettings m
      let d := { d with frontFlashRequested := s.requestsFlash d.frontFlashRequested }
      let c := c.manageTorch d (s.flashMode.getD .off) (s.captureIntent.getD .preview)
      let (c, mem) := mem.passOn lib c { mem.request with settings := some clonedSettings }
      (c, mem.free clonedSettings)
  else mem.passOn lib c mem.request

end CaptureMemory

/-! ## 4. The entries that are rewritten -/

/-- The entry without flash. -/
def MetadataEntry.sanitized (e : MetadataEntry) : MetadataEntry :=
  match e.tag with
  | .flashMode => ⟨.flashMode, [flashModeOff]⟩
  | .controlAeMode => if isAeFlash (e.data.headD 0) then ⟨.controlAeMode, [aeModeOn]⟩ else e
  | .controlAePrecaptureTrigger =>
    if e.data.headD 0 = aePrecaptureTriggerStart then
      ⟨.controlAePrecaptureTrigger, [aePrecaptureTriggerIdle]⟩
    else e
  | _ => e

def MetadataTag.IsSanitized (tag : MetadataTag) : Prop :=
  tag = .flashMode ∨ tag = .controlAeMode ∨ tag = .controlAePrecaptureTrigger

instance (tag : MetadataTag) : Decidable tag.IsSanitized := inferInstanceAs (Decidable (_ ∨ _ ∨ _))

/-- A set of entries, of which those that may be rewritten have one value. -/
structure SingleValued (es : List MetadataEntry) : Prop where
  nodup : (es.map MetadataEntry.tag).Nodup
  single : ∀ e ∈ es, e.tag.IsSanitized → e.data.length = 1

def MetadataEntry.replaceWhere (tag : MetadataTag) (unwanted : UInt8 → Bool) (value : UInt8)
    (e : MetadataEntry) : MetadataEntry :=
  if e.tag = tag ∧ unwanted (e.data.headD 0) = true then ⟨tag, [value]⟩ else e

section

variable {tag : MetadataTag} {unwanted : UInt8 → Bool} {value : UInt8} {es : List MetadataEntry}

theorem tag_replaceWhere (e : MetadataEntry) : (e.replaceWhere tag unwanted value).tag = e.tag := by
  unfold MetadataEntry.replaceWhere
  split
  · rename_i h
    exact h.1.symm
  · rfl

theorem replaceWhere_of_ne {e : MetadataEntry} (h : e.tag ≠ tag) :
    e.replaceWhere tag unwanted value = e := if_neg fun hboth => h hboth.1

theorem replaceWhere_self (data : List UInt8) :
    MetadataEntry.replaceWhere tag unwanted value ⟨tag, data⟩ =
      ⟨tag, if unwanted (data.headD 0) = true then [value] else data⟩ := by
  unfold MetadataEntry.replaceWhere
  rw [apply_ite (MetadataEntry.mk tag)]
  exact if_congr (and_iff_right rfl) rfl rfl

theorem data_replaceWhere {e : MetadataEntry} (h : e.data.length = 1) :
    (e.replaceWhere tag unwanted value).data.length = 1 := by
  unfold MetadataEntry.replaceWhere
  split
  · rfl
  · exact h

theorem tags_replaceWhere (es : List MetadataEntry) :
    (es.map (MetadataEntry.replaceWhere tag unwanted value)).map MetadataEntry.tag =
      es.map MetadataEntry.tag := by
  rw [List.map_map]
  exact List.map_congr_left fun e _ => tag_replaceWhere e

theorem SingleValued.replaceWhere (h : SingleValued es) (tag : MetadataTag)
    (unwanted : UInt8 → Bool) (value : UInt8) :
    SingleValued (es.map (MetadataEntry.replaceWhere tag unwanted value)) where
  nodup := by
    rw [tags_replaceWhere]
    exact h.nodup
  single := by
    intro e' he' htag
    obtain ⟨e, he, rfl⟩ := List.mem_map.mp he'
    rw [tag_replaceWhere] at htag
    exact data_replaceWhere (h.single e he htag)

/-- What is found of another tag stays. -/
theorem firstValue_replaceWhere {tag' : MetadataTag} (hne : tag' ≠ tag) (es : List MetadataEntry) :
    firstValue (es.map (MetadataEntry.replaceWhere tag unwanted value)) tag' = firstValue es tag' := by
  rw [firstValue_map (g := id) tag_replaceWhere fun e htag => by
    rw [replaceWhere_of_ne fun heq => hne (htag.symm.trans heq)]
    rfl]
  exact congrFun Option.map_id _

/-- The three rewritings of an entry with one value. -/
theorem sanitized_eq {e : MetadataEntry} (h : e.tag.IsSanitized → e.data.length = 1) :
    ((e.replaceWhere .flashMode (fun value => value ≠ flashModeOff) flashModeOff).replaceWhere
        .controlAeMode isAeFlash aeModeOn).replaceWhere .controlAePrecaptureTrigger
      (fun value => value = aePrecaptureTriggerStart) aePrecaptureTriggerIdle = e.sanitized := by
  obtain ⟨tag, data⟩ := e
  cases tag with
  | flashMode =>
    obtain ⟨value, rfl⟩ := List.length_eq_one_iff.mp (h (.inl rfl))
    simp only [replaceWhere_self, replaceWhere_of_ne, ne_eq, reduceCtorEq, not_false_eq_true]
    change (⟨_, if decide (value ≠ flashModeOff) = true then _ else [value]⟩ : MetadataEntry) = ⟨_, _⟩
    split
    · rfl
    · rename_i hoff
      rw [not_not.mp (mt decide_eq_true hoff)]
  | controlAeMode =>
    simp only [replaceWhere_self, replaceWhere_of_ne, ne_eq, reduceCtorEq, not_false_eq_true]
    exact apply_ite (MetadataEntry.mk .controlAeMode) _ _ _
  | controlAePrecaptureTrigger =>
    simp only [replaceWhere_self, replaceWhere_of_ne, ne_eq, reduceCtorEq, not_false_eq_true,
      decide_eq_true_eq]
    exact apply_ite (MetadataEntry.mk .controlAePrecaptureTrigger) _ _ _
  | _ =>
    simp only [replaceWhere_of_ne, ne_eq, reduceCtorEq, not_false_eq_true]
    rfl

end

/-! ## 5. What the library makes of it -/

namespace MetadataLibrary

variable {M : Type*} {lib : MetadataLibrary M}

theorem lookUp_eq (h : lib.Documented) {m : M} (hsingle : SingleValued (lib.entries m))
    (tag : MetadataTag) : lib.lookUp m tag = firstValue (lib.entries m) tag := by
  unfold lookUp
  cases hfind : lib.find m tag with
  | none => exact (firstValue_of_absent (h.find_none m tag hfind)).symm
  | some r =>
    obtain ⟨i, data⟩ := r
    exact (firstValue_of_getElem? hsingle.nodup (h.find_some m tag i data hfind)).symm

theorem entries_replaceWhere (h : lib.Documented) {m : M} (hsingle : SingleValued (lib.entries m))
    {tag : MetadataTag} (htag : tag.IsSanitized) (unwanted : UInt8 → Bool) (value : UInt8) :
    lib.entries (lib.replaceWhere m tag unwanted value) =
      (lib.entries m).map (MetadataEntry.replaceWhere tag unwanted value) := by
  unfold replaceWhere
  cases hfind : lib.find m tag with
  | none =>
    have habsent := h.find_none m tag hfind
    refine ((List.map_congr_left fun e he => ?_).trans (List.map_id _)).symm
    exact if_neg fun hboth => habsent e he hboth.1
  | some r =>
    obtain ⟨i, data⟩ := r
    have hentry := h.find_some m tag i data hfind
    have hvalue : ∀ e ∈ lib.entries m, e.tag = tag → e = ⟨tag, data⟩ := fun e he heq =>
      List.inj_on_of_nodup_map hsingle.nodup he (List.mem_of_getElem? hentry) heq
    dsimp only
    by_cases hunwanted : unwanted (data.headD 0) = true
    · rw [if_pos hunwanted]
      have hroom : dataCount ((lib.entries m).set i ⟨tag, [value]⟩) ≤ lib.dataCapacity m := by
        have hcount := dataCount_set hentry ⟨tag, [value]⟩
        have hone := hsingle.single _ (List.mem_of_getElem? hentry) htag
        have hfits := h.fits m
        change data.length = 1 at hone
        change _ + entryDataSize data.length = _ + entryDataSize 1 at hcount
        rw [hone] at hcount
        omega
      rw [(h.update m i tag data [value] hentry hroom).1, set_eq_setData hsingle.nodup hentry]
      refine List.map_congr_left fun e he => ?_
      unfold MetadataEntry.replaceWhere
      by_cases heq : e.tag = tag
      · rw [if_pos heq, hvalue e he heq, if_pos ⟨rfl, hunwanted⟩]
      · rw [if_neg heq, if_neg fun hboth => heq hboth.1]
    · rw [if_neg hunwanted]
      refine ((List.map_congr_left fun e he => ?_).trans (List.map_id _)).symm
      refine if_neg fun hboth => hunwanted ?_
      rw [← hboth.2, hvalue e he hboth.1]

/-- The wrapper finds the settings of the client, and leaves a packet without flash. -/
theorem sanitize_spec (h : lib.Documented) {m : M} (hsingle : SingleValued (lib.entries m)) :
    (lib.sanitize m).1 = readSettings (lib.entries m) ∧
      lib.entries (lib.sanitize m).2 = (lib.entries m).map MetadataEntry.sanitized := by
  have hflash := entries_replaceWhere h hsingle (.inl rfl) (fun value => value ≠ flashModeOff) flashModeOff
  have hsingle₁ := hsingle.replaceWhere .flashMode (fun value => value ≠ flashModeOff) flashModeOff
  rw [← hflash] at hsingle₁
  have hae := entries_replaceWhere h hsingle₁ (.inr (.inl rfl)) isAeFlash aeModeOn
  have hsingle₂ := hsingle₁.replaceWhere .controlAeMode isAeFlash aeModeOn
  rw [← hae] at hsingle₂
  have htrigger := entries_replaceWhere h hsingle₂ (.inr (.inr rfl))
    (fun value => value = aePrecaptureTriggerStart) aePrecaptureTriggerIdle
  have hsingle₃ := hsingle₂.replaceWhere .controlAePrecaptureTrigger
    (fun value => value = aePrecaptureTriggerStart) aePrecaptureTriggerIdle
  rw [← htrigger] at hsingle₃
  constructor
  · have hkeep₁ (t : MetadataTag) (ht : t ≠ .flashMode) := lookUp_eq h hsingle₁ t
    have hkeep₂ (t : MetadataTag) (ht : t ≠ .flashMode ∧ t ≠ .controlAeMode) := lookUp_eq h hsingle₂ t
    have hkeep₃ (t : MetadataTag) (ht : t ≠ .flashMode ∧ t ≠ .controlAeMode ∧
        t ≠ .controlAePrecaptureTrigger) := lookUp_eq h hsingle₃ t
    simp +contextual only [hflash, hae, htrigger, firstValue_replaceWhere, ne_eq, not_false_eq_true]
      at hkeep₁ hkeep₂ hkeep₃
    unfold sanitize readSettings
    dsimp only
    rw [lookUp_eq h hsingle, hkeep₁ .controlAeMode nofun,
      hkeep₂ .controlAePrecaptureTrigger ⟨nofun, nofun⟩,
      hkeep₃ .controlCaptureIntent ⟨nofun, nofun, nofun⟩]
  · unfold sanitize
    dsimp only
    rw [htrigger, hae, hflash, List.map_map, List.map_map]
    exact List.map_congr_left fun e he => sanitized_eq (hsingle.single e he)

end MetadataLibrary

/-! ## 6. What is passed on -/

section

theorem tag_sanitized (e : MetadataEntry) : e.sanitized.tag = e.tag := by
  obtain ⟨tag, data⟩ := e
  unfold MetadataEntry.sanitized
  cases tag with
  | controlAeMode | controlAePrecaptureTrigger =>
    dsimp only
    split <;> rfl
  | _ => rfl

theorem aeMode_ofByte_sanitized (value : UInt8) :
    AeMode.ofByte (if isAeFlash value = true then aeModeOn else value) =
      match AeMode.ofByte value with
      | .onAutoFlash | .onAlwaysFlash | .onAutoFlashRedeye => .on
      | mode => mode := by
  by_cases hflash : isAeFlash value = true
  · rw [if_pos hflash]
    unfold isAeFlash at hflash
    simp only [Bool.or_eq_true, decide_eq_true_eq] at hflash
    rcases hflash with (rfl | rfl) | rfl <;> rfl
  · rw [if_neg hflash]
    unfold AeMode.ofByte
    match hn : value.toNat with
    | 2 | 3 | 4 =>
      obtain rfl := UInt8.toNat_inj.mp (hn.trans (UInt8.toNat_ofNat_of_lt' (by decide)).symm)
      exact absurd rfl hflash
    | 0 | 1 | _ + 5 => rfl

theorem aePrecaptureTrigger_ofByte_sanitized (value : UInt8) :
    AePrecaptureTrigger.ofByte
        (if value = aePrecaptureTriggerStart then aePrecaptureTriggerIdle else value) =
      match AePrecaptureTrigger.ofByte value with
      | .start => .idle
      | trigger => trigger := by
  by_cases hstart : value = aePrecaptureTriggerStart
  · rw [if_pos hstart, hstart]
    rfl
  · rw [if_neg hstart]
    unfold AePrecaptureTrigger.ofByte
    match hn : value.toNat with
    | 1 =>
      obtain rfl := UInt8.toNat_inj.mp (hn.trans (UInt8.toNat_ofNat_of_lt' (by decide)).symm)
      exact absurd rfl hstart
    | 0 | _ + 2 => rfl

/-- The settings that are passed on read as those without flash. -/
theorem readSettings_sanitized (es : List MetadataEntry) :
    readSettings (es.map MetadataEntry.sanitized) = (readSettings es).sanitized := by
  have hflash : firstValue (es.map MetadataEntry.sanitized) .flashMode =
      (firstValue es .flashMode).map fun _ => flashModeOff := by
    refine firstValue_map tag_sanitized ?_ es
    rintro ⟨_, data⟩ rfl
    rfl
  have hae : firstValue (es.map MetadataEntry.sanitized) .controlAeMode =
      (firstValue es .controlAeMode).map fun value =>
        if isAeFlash value = true then aeModeOn else value := by
    refine firstValue_map tag_sanitized ?_ es
    rintro ⟨_, data⟩ rfl
    unfold MetadataEntry.sanitized
    dsimp only
    split <;> rfl
  have htrigger : firstValue (es.map MetadataEntry.sanitized) .controlAePrecaptureTrigger =
      (firstValue es .controlAePrecaptureTrigger).map fun value =>
        if value = aePrecaptureTriggerStart then aePrecaptureTriggerIdle else value := by
    refine firstValue_map tag_sanitized ?_ es
    rintro ⟨_, data⟩ rfl
    unfold MetadataEntry.sanitized
    dsimp only
    split <;> rfl
  have hintent : firstValue (es.map MetadataEntry.sanitized) .controlCaptureIntent =
      (firstValue es .controlCaptureIntent).map id := by
    refine firstValue_map tag_sanitized ?_ es
    rintro ⟨_, data⟩ rfl
    rfl
  unfold readSettings CaptureSettings.sanitized
  rw [hflash, hae, htrigger, hintent]
  simp only [Option.map_map, Option.map_id]
  congr 1
  · exact Option.map_congr fun value _ => aeMode_ofByte_sanitized value
  · exact Option.map_congr fun value _ => aePrecaptureTrigger_ofByte_sanitized value

end

namespace CaptureMemory

variable {M : Type*} {lib : MetadataLibrary M} {mem : CaptureMemory M} {c : FrontCamera}
  {d : Camera3Device} {allocated : Option Nat}

/-- Each packet of settings is there, and has one entry for a tag; a clone is somewhere else. -/
structure Sane (lib : MetadataLibrary M) (mem : CaptureMemory M) (allocated : Option Nat) : Prop where
  settings : ∀ p, mem.request.settings = some p →
    ∃ m, mem.heap p = some m ∧ SingleValued (lib.entries m)
  fresh : ∀ q, allocated = some q → mem.heap q = none

/-- The request of the client and all packets are as before.  Where it is `wanted`, a request with
settings that can be cloned is passed on with the clone without flash, which is freed behind the
call; any other request is passed on as it is. -/
structure ForwardsRight (lib : MetadataLibrary M) (wanted : Prop) (mem mem' : CaptureMemory M)
    (allocated : Option Nat) : Prop where
  request : mem'.request = mem.request
  heap : mem'.heap = mem.heap
  rewritten : wanted → ∀ p q m, mem.request.settings = some p → allocated = some q →
    mem.heap p = some m → ∃ m', lib.entries m' = (lib.entries m).map MetadataEntry.sanitized ∧
      mem'.log = mem.log ++
        [.cloned p q, .processed { mem.request with settings := some q } (some m'), .freed q]
  unchanged : ¬wanted ∨ mem.request.settings = none ∨ allocated = none →
    mem'.log = mem.log ++ [.processed mem.request (mem.request.settings.bind mem.heap)]

theorem forwardsRight_passOn {wanted : Prop}
    (h : wanted → mem.request.settings = none ∨ allocated = none) :
    ForwardsRight lib wanted mem (mem.passOn lib c mem.request).2 allocated where
  request := rfl
  heap := rfl
  rewritten hwanted p q m hp hq _ := by
    rcases h hwanted with hnone | hnone
    · cases hnone.symm.trans hp
    · cases hnone.symm.trans hq
  unchanged _ := rfl

theorem cloneSettings_none
    (h : mem.request.settings = none ∨ allocated = none) : mem.cloneSettings lib allocated = none := by
  unfold cloneSettings
  rcases h with hnone | hnone
  · rw [hnone]
  · rw [hnone]
    cases mem.request.settings <;> rfl

theorem cloneSettings_some {p : Nat} {m : M} (hp : mem.request.settings = some p)
    (hm : mem.heap p = some m) (q : Nat) :
    mem.cloneSettings lib (some q) = some (q, lib.clone m, { mem with
      heap := Function.update mem.heap q (some (lib.clone m))
      log := mem.log ++ [.cloned p q] }) := by
  unfold cloneSettings
  rw [hp]
  dsimp only
  rw [hm]
  rfl

/-- A request on the front camera of a phone with a front flash is passed on without flash, and
every other one as it is. -/
theorem processCaptureRequest_forwardsRight (h : lib.Documented) (hmem : mem.Sane lib allocated)
    (c : FrontCamera) (d : Camera3Device) :
    ForwardsRight lib (d.id = 1 ∧ c.led.hasFrontFlash = true) mem
      (mem.processCaptureRequest lib c d allocated).2 allocated := by
  unfold processCaptureRequest
  by_cases hfront : d.id = 1 ∧ c.led.hasFrontFlash = true
  · rw [if_pos hfront]
    by_cases hnone : mem.request.settings = none ∨ allocated = none
    · rw [cloneSettings_none hnone]
      exact forwardsRight_passOn fun _ => hnone
    · obtain ⟨p, hp⟩ := Option.ne_none_iff_exists'.mp fun hno => hnone (.inl hno)
      obtain ⟨q, rfl⟩ := Option.ne_none_iff_exists'.mp fun hno => hnone (.inr hno)
      obtain ⟨m, hm, hsingle⟩ := hmem.settings p hp
      rw [← h.clone m] at hsingle
      obtain ⟨-, hentries⟩ := MetadataLibrary.sanitize_spec h hsingle
      rw [h.clone m] at hentries
      rw [cloneSettings_some hp hm q]
      refine ⟨rfl, ?_, fun _ p' q' m' hp' hq' hm' => ⟨(lib.sanitize (lib.clone m)).2, ?_, ?_⟩, ?_⟩
      · change Function.update (Function.update (Function.update _ _ _) _ _) _ _ = _
        rw [Function.update_idem, Function.update_idem]
        exact Function.update_eq_self_iff.mpr (hmem.fresh q rfl).symm
      · obtain rfl := Option.some.inj (hp.symm.trans hp')
        obtain rfl := Option.some.inj (hm.symm.trans hm')
        exact hentries
      · obtain rfl := Option.some.inj (hp.symm.trans hp')
        obtain rfl := Option.some.inj hq'
        change mem.log ++ [.cloned p q] ++ [.processed { mem.request with settings := some q }
          (Function.update (Function.update mem.heap q _) q (some _) q)] ++ [.freed q] = _
        rw [Function.update_self, List.append_assoc, List.append_assoc]
        rfl
      · rintro (hno | hno | hno)
        · exact absurd hfront hno
        · cases hno.symm.trans hp
        · cases hno
  · rw [if_neg hfront]
    exact forwardsRight_passOn fun hwanted => absurd hwanted hfront

/-- A packet with torch, flash and an entry of another kind. -/
def torchPacket : Packet where
  entries := [⟨.flashMode, [2]⟩, ⟨.controlAeMode, [aeModeOnAlwaysFlash]⟩,
    ⟨.other 7, [1, 2, 3, 4, 5, 6, 7, 8]⟩]
  entryCapacity := 3
  dataCapacity := 8
  fits := by decide

def torchMemory : CaptureMemory Packet where
  request := ⟨5, some 1, none, 1, 64⟩
  heap p := if p = 1 then some torchPacket else none

theorem torchMemory_sane : torchMemory.Sane Packet.library (some 2) where
  settings p hp := by
    obtain rfl := Option.some.inj hp
    exact ⟨torchPacket, rfl, by decide, by decide⟩
  fresh q hq := by
    obtain rfl := Option.some.inj hq
    rfl

theorem torchMemory_forwardsRight :
    ForwardsRight Packet.library ((1 : Int) = 1 ∧ FrontCamera.flashPhone.led.hasFrontFlash = true)
      torchMemory
      (torchMemory.processCaptureRequest Packet.library .flashPhone { id := 1 } (some 2)).2 (some 2) :=
  processCaptureRequest_forwardsRight Packet.documented torchMemory_sane .flashPhone { id := 1 }

/-- A phone without a front flash. -/
def plainPhone : FrontCamera := { led := { frontTorchFlash := .missing, frontFlash := .missing } }

theorem plainPhone_forwards_torch :
    ¬ForwardsRight Packet.library ((1 : Int) = 1) torchMemory
      (torchMemory.processCaptureRequest Packet.library plainPhone { id := 1 } (some 2)).2 (some 2) := by
  intro h
  obtain ⟨m', -, hlog⟩ := h.rewritten rfl 1 2 torchPacket rfl rfl rfl
  have hlength := congrArg List.length hlog
  cases hlength

/-- The LED and the flags are those of the settings that the client's packet reads as. -/
theorem processCaptureRequest_camera (h : lib.Documented) (hmem : mem.Sane lib allocated)
    (c : FrontCamera) (d : Camera3Device) :
    (mem.processCaptureRequest lib c d allocated).1 = c.processCaptureRequest d
      { settings := (mem.request.settings.bind mem.heap).map fun m => readSettings (lib.entries m)
        cloned := allocated.isSome } := by
  unfold processCaptureRequest FrontCamera.processCaptureRequest
  by_cases hfront : d.id = 1 ∧ c.led.hasFrontFlash = true
  · rw [if_pos hfront, if_pos hfront]
    cases hp : mem.request.settings with
    | none =>
      rw [cloneSettings_none (.inl hp)]
      unfold passOn
      rw [hp]
      rfl
    | some p =>
      obtain ⟨m, hm, hsingle⟩ := hmem.settings p hp
      rw [Option.bind_some, hm]
      cases allocated with
      | none =>
        rw [cloneSettings_none (.inr rfl)]
        unfold passOn
        rw [hp, Option.bind_some, hm]
        rfl
      | some q =>
        rw [← h.clone m] at hsingle
        obtain ⟨hsettings, hentries⟩ := MetadataLibrary.sanitize_spec h hsingle
        rw [h.clone m] at hsettings hentries
        rw [cloneSettings_some hp hm q]
        have hforwarded : readSettings (lib.entries (lib.sanitize (lib.clone m)).2) =
            (readSettings (lib.entries m)).sanitized := by
          rw [hentries, readSettings_sanitized]
        unfold passOn store
        dsimp only
        rw [Option.bind_some, Function.update_self, Option.map_some, hforwarded, hsettings]
        rfl
  · rw [if_neg hfront, if_neg hfront]
    rfl

end CaptureMemory

end Universal7870.Camera
