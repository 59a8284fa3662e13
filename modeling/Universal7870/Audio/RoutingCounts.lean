import Mathlib.Data.List.Basic
import Mathlib.Data.List.Infix
import Universal7870.Audio.Routing

/-!
# Routing keeps the reference counts

`Tallied r l` says that the reference counts of `r` are the numbers of directions in `l` that are
routed to each device.  While `select_devices` switches a usecase, `l` is the usecase list with
that usecase's devices as they are enabled right now, not as its fields still say.
-/

namespace Universal7870.Audio

/-! ## 1. Counting -/

section Lists

variable {α : Type*} {p : α → Bool} {f : α → α} {a : α}

theorem countP_modify {l : List α} {i : Nat} (h : l[i]? = some a) :
    (l.modify i f).countP p + (if p a then 1 else 0) = l.countP p + (if p (f a) then 1 else 0) := by
  induction l generalizing i with
  | nil => simp at h
  | cons b l ih =>
    cases i with
    | zero =>
      obtain rfl : b = a := by simpa using h
      simp only [List.modify_zero_cons, List.countP_cons]
      omega
    | succ i =>
      have hi := ih (i := i) (by simpa using h)
      simp only [List.modify_succ_cons, List.countP_cons]
      omega

theorem countP_eraseIdx {l : List α} {i : Nat} (h : l[i]? = some a) :
    (l.eraseIdx i).countP p + (if p a then 1 else 0) = l.countP p := by
  induction l generalizing i with
  | nil => simp at h
  | cons b l ih =>
    cases i with
    | zero =>
      obtain rfl : b = a := by simpa using h
      rw [List.eraseIdx_cons_zero, List.countP_cons]
    | succ i =>
      have hi := ih (i := i) (by simpa using h)
      simp only [List.eraseIdx_cons_succ, List.countP_cons]
      omega

/-- Two entries with one key are one entry. -/
theorem eq_of_getElem?_of_nodup {β : Type*} {l : List α} {key : α → β} (hl : (l.map key).Nodup)
    {i j : Nat} {b : α} (hi : l[i]? = some a) (hj : l[j]? = some b) (hkey : key a = key b) :
    i = j := by
  have hlt : i < (l.map key).length := by
    have := (List.getElem?_eq_some_iff.mp hi).1
    simpa using this
  apply (List.getElem?_inj hlt hl).mp
  rw [List.getElem?_map, List.getElem?_map, hi, hj, Option.map_some, Option.map_some, hkey]

theorem map_modify_of_key {β : Type*} {k : α → β} (hf : ∀ a, k (f a) = k a) (l : List α)
    (i : Nat) : (l.modify i f).map k = l.map k := by
  induction l generalizing i with
  | nil => rw [List.modify_nil]
  | cons b l ih =>
    cases i with
    | zero => rw [List.modify_zero_cons, List.map_cons, List.map_cons, hf]
    | succ i => rw [List.modify_succ_cons, List.map_cons, List.map_cons, ih]

theorem exists_of_mem_modify {l : List α} {i : Nat} {b : α} (h : b ∈ l.modify i f) :
    b ∈ l ∨ ∃ c, l[i]? = some c ∧ b = f c := by
  obtain ⟨j, hj⟩ := List.mem_iff_getElem?.mp h
  by_cases hij : i = j
  · subst hij
    rw [List.getElem?_modify_eq] at hj
    obtain ⟨c, hc, rfl⟩ := Option.map_eq_some_iff.mp hj
    exact .inr ⟨c, hc, rfl⟩
  · rw [List.getElem?_modify_ne f l hij] at hj
    exact .inl (List.mem_of_getElem? hj)

end Lists

/-- A direction routed to `s` holds `d` enabled: the combined device stands for its two parts. -/
def SndDevice.drives (s d : SndDevice) : Bool :=
  match s with
  | .none => false
  | .outSpeakerAndHeadphones => d = .outSpeaker ∨ d = .outHeadphones
  | s => s = d

def SndDevice.weight (s d : SndDevice) : Nat := if s.drives d then 1 else 0

def AudioUsecase.weight (u : AudioUsecase) (d : SndDevice) : Nat :=
  u.outSndDevice.weight d + u.inSndDevice.weight d

/-- The number of (usecase, direction) pairs routed to `d`. -/
def routedTo (l : List AudioUsecase) (d : SndDevice) : Nat :=
  l.countP (·.outSndDevice.drives d) + l.countP (·.inSndDevice.drives d)

@[simp] theorem weight_none (d : SndDevice) : SndDevice.none.weight d = 0 := rfl

theorem weight_toNone (s : SndDevice) : s.weight .none = 0 := by
  cases s <;> rfl

theorem routedTo_modify {l : List AudioUsecase} {i : Nat} {u : AudioUsecase} (h : l[i]? = some u)
    (f : AudioUsecase → AudioUsecase) (d : SndDevice) :
    routedTo (l.modify i f) d + u.weight d = routedTo l d + (f u).weight d := by
  have hout := countP_modify (p := fun u => u.outSndDevice.drives d) (f := f) h
  have hin := countP_modify (p := fun u => u.inSndDevice.drives d) (f := f) h
  simp only [routedTo, AudioUsecase.weight, SndDevice.weight]
  omega

theorem routedTo_eraseIdx {l : List AudioUsecase} {i : Nat} {u : AudioUsecase}
    (h : l[i]? = some u) (d : SndDevice) :
    routedTo (l.eraseIdx i) d + u.weight d = routedTo l d := by
  have hout := countP_eraseIdx (p := fun u => u.outSndDevice.drives d) h
  have hin := countP_eraseIdx (p := fun u => u.inSndDevice.drives d) h
  simp only [routedTo, AudioUsecase.weight, SndDevice.weight]
  omega

theorem routedTo_append (l : List AudioUsecase) (u : AudioUsecase) (d : SndDevice) :
    routedTo (l ++ [u]) d = routedTo l d + u.weight d := by
  simp only [routedTo, AudioUsecase.weight, SndDevice.weight, List.countP_append,
    List.countP_singleton]
  omega

/-! ## 2. Enabling and disabling -/

namespace Routing

@[simp] theorem enableSndDevice_usecaseList (r : Routing) (u : AudioUsecase) (d : SndDevice) :
    (r.enableSndDevice u d).usecaseList = r.usecaseList := by
  unfold enableSndDevice
  split <;> rfl

theorem disableSingle_usecaseList (r : Routing) (u : AudioUsecase) (d : SndDevice) :
    (r.disableSingle u d).usecaseList = r.usecaseList := by
  unfold disableSingle
  split <;> rfl

@[simp] theorem disableSndDevice_usecaseList (r : Routing) (u : AudioUsecase) (d : SndDevice) :
    (r.disableSndDevice u d).usecaseList = r.usecaseList := by
  unfold disableSndDevice
  split <;> simp only [disableSingle_usecaseList]

/-- The reference count errors of `r'` are those of `r`. -/
def SameErrors (r r' : Routing) : Prop :=
  ∀ d, .refCntAlreadyZero d ∈ r'.log → .refCntAlreadyZero d ∈ r.log

theorem foldl_enable_log (d x : SndDevice) (cards : List Nat) (log : List RouteEvent)
    (h : .refCntAlreadyZero x ∈ cards.foldl
      (fun log card => .pathApplied card d :: .amplifierEnabled d true :: log) log) :
    .refCntAlreadyZero x ∈ log := by
  induction cards generalizing log with
  | nil => exact h
  | cons card cards ih => simpa using ih _ h

theorem enableSingle_sameErrors (r : Routing) (u : AudioUsecase) (d : SndDevice) :
    r.SameErrors (r.enableSingle u d) := by
  intro x hx
  simp only [enableSingle] at hx
  split at hx
  · exact hx
  · exact foldl_enable_log d x _ _ hx

theorem mem_resetOnCard {out : Option SndDevice} {d x : SndDevice} {log : List RouteEvent}
    {card : Nat} (h : .refCntAlreadyZero x ∈ resetOnCard out d log card) :
    .refCntAlreadyZero x ∈ log := by
  unfold resetOnCard at h
  cases out with
  | none => simpa using h
  | some out =>
    simp only [List.mem_cons, reduceCtorEq, false_or] at h
    split at h <;> simpa using h

theorem foldl_resetOnCard_log (out : Option SndDevice) (d x : SndDevice) (cards : List Nat)
    (log : List RouteEvent) (h : .refCntAlreadyZero x ∈ cards.foldl (resetOnCard out d) log) :
    .refCntAlreadyZero x ∈ log := by
  induction cards generalizing log with
  | nil => exact h
  | cons card cards ih => exact mem_resetOnCard (ih _ h)

theorem disableSingle_sameErrors {r : Routing} (u : AudioUsecase) {d : SndDevice}
    (hpos : 0 < r.sndDevRefCnt d) : r.SameErrors (r.disableSingle u d) := by
  intro x hx
  simp only [disableSingle] at hx
  rw [if_neg (by omega)] at hx
  dsimp only at hx
  split at hx
  · exact foldl_resetOnCard_log _ d x _ _ hx
  · exact hx

theorem enableSndDevice_refCnt (r : Routing) (u : AudioUsecase) {d : SndDevice} (hd : d ≠ .none)
    (x : SndDevice) : (r.enableSndDevice u d).sndDevRefCnt x = r.sndDevRefCnt x + d.weight x := by
  unfold enableSndDevice
  split
  · rename_i hcombo
    subst hcombo
    simp only [enableSingle, SndDevice.weight, SndDevice.drives, Function.update_apply]
    cases x <;> simp
  · rename_i hcombo
    have hdrives : d.drives x = decide (d = x) := by
      cases d <;> first | rfl | contradiction
    simp only [enableSingle, SndDevice.weight, hdrives, Function.update_apply, decide_eq_true_eq,
      eq_comm (a := d)]
    split <;> simp_all

theorem enableSndDevice_sameErrors (r : Routing) (u : AudioUsecase) (d : SndDevice) :
    r.SameErrors (r.enableSndDevice u d) := by
  unfold enableSndDevice
  split
  · intro x hx
    exact enableSingle_sameErrors _ _ _ _ (enableSingle_sameErrors _ _ _ _ hx)
  · exact enableSingle_sameErrors r u d

theorem disableSingle_refCnt {r : Routing} (u : AudioUsecase) {d : SndDevice}
    (hpos : 0 < r.sndDevRefCnt d) (x : SndDevice) :
    (r.disableSingle u d).sndDevRefCnt x = r.sndDevRefCnt x - if x = d then 1 else 0 := by
  simp only [disableSingle]
  rw [if_neg (by omega)]
  by_cases hx : x = d
  · subst hx
    simp
  · simp [hx]

/-- Disabling a device whose parts are all enabled. -/
theorem disableSndDevice_spec {r : Routing} (u : AudioUsecase) {d : SndDevice} (hd : d ≠ .none)
    (hpos : ∀ x, (d.weight x : Int) ≤ r.sndDevRefCnt x) :
    r.SameErrors (r.disableSndDevice u d) ∧
      ∀ x, (r.disableSndDevice u d).sndDevRefCnt x = r.sndDevRefCnt x - d.weight x := by
  unfold disableSndDevice
  split
  · rename_i hcombo
    subst hcombo
    have hspeaker : 0 < r.sndDevRefCnt .outSpeaker := hpos .outSpeaker
    have hfirst := disableSingle_refCnt u hspeaker
    have hheadphones : 0 < (r.disableSingle u .outSpeaker).sndDevRefCnt .outHeadphones := by
      have h1 : (1 : Int) ≤ r.sndDevRefCnt .outHeadphones := hpos .outHeadphones
      rw [hfirst, if_neg (by decide)]
      omega
    refine ⟨fun x hx => ?_, fun x => ?_⟩
    · exact disableSingle_sameErrors u hspeaker x (disableSingle_sameErrors u hheadphones x hx)
    · rw [disableSingle_refCnt u hheadphones, hfirst]
      cases x <;> simp [SndDevice.weight, SndDevice.drives]
  · rename_i hcombo
    have hdrives : ∀ x, d.drives x = decide (d = x) := fun x => by
      cases d <;> first | rfl | contradiction
    have hd1 : 0 < r.sndDevRefCnt d := by
      have := hpos d
      simp only [SndDevice.weight, hdrives, decide_true, if_true] at this
      omega
    refine ⟨disableSingle_sameErrors u hd1, fun x => ?_⟩
    rw [disableSingle_refCnt u hd1]
    simp only [SndDevice.weight, hdrives, decide_eq_true_eq, eq_comm (a := d)]
    split <;> simp

/-- Disabling no device is the error that nothing depends on. -/
theorem disableSndDevice_none {r : Routing} (u : AudioUsecase)
    (hzero : r.sndDevRefCnt .none = 0) :
    r.disableSndDevice u .none = { r with log := .refCntAlreadyZero .none :: r.log } := by
  simp only [disableSndDevice, disableSingle]
  rw [if_neg (by decide), if_pos (by omega)]

/-! ## 3. The tally -/

/-- The reference counts are those of the directions in `l`, and no count was found at 0 except
that of no device. -/
structure Tallied (r : Routing) (l : List AudioUsecase) : Prop where
  refCnt : ∀ d, r.sndDevRefCnt d = routedTo l d
  errors : ∀ d, .refCntAlreadyZero d ∈ r.log → d = .none

theorem Tallied.congr {r r' : Routing} {l : List AudioUsecase} (h : r.Tallied l)
    (hcnt : r'.sndDevRefCnt = r.sndDevRefCnt) (hlog : r'.log = r.log) : r'.Tallied l := by
  constructor
  · rw [hcnt]
    exact h.refCnt
  · rw [hlog]
    exact h.errors

theorem routedTo_toNone (l : List AudioUsecase) : routedTo l .none = 0 := by
  induction l with
  | nil => rfl
  | cons u l ih =>
    have hu : u.weight .none = 0 := by
      rw [AudioUsecase.weight, weight_toNone, weight_toNone]
    have happ := routedTo_append l u .none
    simp only [routedTo, List.countP_append, List.countP_cons] at ih happ ⊢
    simp only [List.countP_nil] at happ
    omega

/-- Disabling a direction takes it out of the tally, also when it has no device. -/
theorem Tallied.disable {r : Routing} {l : List AudioUsecase} (h : r.Tallied l) (v : AudioUsecase)
    {i : Nat} {u : AudioUsecase} (hi : l[i]? = some u) {f : AudioUsecase → AudioUsecase}
    {d : SndDevice} (hf : ∀ x, (f u).weight x + d.weight x = u.weight x) :
    (r.disableSndDevice v d).Tallied (l.modify i f) := by
  have hmod : ∀ x, routedTo (l.modify i f) x + d.weight x = routedTo l x := fun x => by
    have h1 := routedTo_modify hi f x
    have h2 := hf x
    omega
  by_cases hd : d = .none
  · subst hd
    have hzero : r.sndDevRefCnt .none = 0 := by
      rw [h.refCnt, routedTo_toNone]
      rfl
    rw [disableSndDevice_none v hzero]
    refine ⟨fun x => ?_, fun x hx => ?_⟩
    · rw [h.refCnt, ← hmod x]
      rfl
    · rcases List.mem_cons.mp hx with hx | hx
      · injection hx
      · exact h.errors x hx
  · have hpos : ∀ x, (d.weight x : Int) ≤ r.sndDevRefCnt x := fun x => by
      have := hmod x
      rw [h.refCnt]
      omega
    have hspec := disableSndDevice_spec v hd hpos
    refine ⟨fun x => ?_, fun x hx => h.errors x (hspec.1 x hx)⟩
    have := hmod x
    rw [hspec.2, h.refCnt]
    omega

/-- Enabling a device puts the direction into the tally. -/
theorem Tallied.enable {r : Routing} {l : List AudioUsecase} (h : r.Tallied l) (v : AudioUsecase)
    {i : Nat} {u : AudioUsecase} (hi : l[i]? = some u) {f : AudioUsecase → AudioUsecase}
    {d : SndDevice} (hd : d ≠ .none) (hf : ∀ x, (f u).weight x = u.weight x + d.weight x) :
    (r.enableSndDevice v d).Tallied (l.modify i f) := by
  refine ⟨fun x => ?_, fun x hx => h.errors x (enableSndDevice_sameErrors r v d x hx)⟩
  have h1 := routedTo_modify hi f x
  have h2 := hf x
  rw [enableSndDevice_refCnt r v hd, h.refCnt]
  omega

end Routing

/-! ## 4. Switching -/

/-- A usecase routed to the two devices. -/
def AudioUsecase.assign (out input : SndDevice) (u : AudioUsecase) : AudioUsecase :=
  { u with outSndDevice := out, inSndDevice := input }

theorem AudioUsecase.setSndDevice_id (type : UsecaseType) (d : SndDevice) (u : AudioUsecase) :
    (u.setSndDevice type d).id = u.id ∧ (u.setSndDevice type d).type = u.type := by
  unfold setSndDevice
  split <;> exact ⟨rfl, rfl⟩

theorem AudioUsecase.setSndDevice_setSndDevice (type : UsecaseType) (d d' : SndDevice)
    (u : AudioUsecase) : (u.setSndDevice type d).setSndDevice type d' = u.setSndDevice type d' := by
  unfold setSndDevice
  split <;> rfl

theorem AudioUsecase.weight_setSndDevice (type : UsecaseType) (d x : SndDevice)
    (u : AudioUsecase) :
    (u.setSndDevice type d).weight x + (u.sndDevice type).weight x = u.weight x + d.weight x := by
  unfold setSndDevice sndDevice weight
  split <;> simp only <;> omega

namespace Routing

/-- The flags of `check_and_route_usecases` stand for usecases of the type other than `uc`. -/
def FlagsApart (ids : List UsecaseId) (type : UsecaseType) (uc : Nat) (l : List AudioUsecase) :
    Prop :=
  ∀ i u, l[i]? = some u → u.id ∈ ids → u.type = type ∧ i ≠ uc

theorem flagsApart_switchedIds {r : Routing} (hids : (r.usecaseList.map (·.id)).Nodup) (uc : Nat)
    (type : UsecaseType) (d : SndDevice) :
    FlagsApart (r.switchedIds uc type d) type uc r.usecaseList := by
  intro i u hi hmem
  obtain ⟨⟨w, j⟩, hj, hid⟩ := List.mem_map.mp hmem
  rw [List.mem_filter, List.mem_zipIdx_iff_getElem?] at hj
  have hw : r.usecaseList[j]? = some w := hj.1
  have hcond : w.type = type ∧ j ≠ uc ∧ w.sndDevice type ≠ d := by simpa using hj.2
  have hij : i = j := eq_of_getElem?_of_nodup hids hi hw hid.symm
  subst hij
  obtain rfl : u = w := Option.some.inj (hi.symm.trans hw)
  exact ⟨hcond.1, hcond.2.1⟩

theorem FlagsApart.modify {ids : List UsecaseId} {type : UsecaseType} {uc : Nat}
    {l : List AudioUsecase} (h : FlagsApart ids type uc l) (i : Nat)
    {f : AudioUsecase → AudioUsecase} (hf : ∀ u, (f u).id = u.id ∧ (f u).type = u.type) :
    FlagsApart ids type uc (l.modify i f) := by
  intro j u hj hmem
  rw [List.getElem?_modify] at hj
  obtain ⟨w, hw, rfl⟩ := Option.map_eq_some_iff.mp hj
  have hkey : (if i = j then f w else w).id = w.id ∧ (if i = j then f w else w).type = w.type := by
    split
    · exact hf w
    · exact ⟨rfl, rfl⟩
  rw [hkey.1] at hmem
  rw [hkey.2]
  exact h j w hw hmem

/-- The tally of a routing in which the usecase at `uc` is being switched. -/
def TalliedAt (r : Routing) (uc : Nat) (g : AudioUsecase → AudioUsecase) : Prop :=
  r.Tallied (r.usecaseList.modify uc g)

theorem switchAt_usecaseList (ids : List UsecaseId) (type : UsecaseType) (d : SndDevice)
    (r : Routing) (i : Nat) :
    (switchAt ids type d r i).usecaseList = r.usecaseList ∨
      (switchAt ids type d r i).usecaseList = r.usecaseList.modify i (·.setSndDevice type d) ∧
        ∃ u, r.usecaseList[i]? = some u ∧ u.id ∈ ids := by
  unfold switchAt
  split
  · exact .inl rfl
  · rename_i u hu
    split
    · rename_i hmem
      refine .inr ⟨?_, u, hu, hmem⟩
      simp only [modifyUsecase, enableSndDevice_usecaseList, disableSndDevice_usecaseList]
    · exact .inl rfl

/-- One round of the loop keeps the tally. -/
theorem switchAt_tallied {ids : List UsecaseId} {type : UsecaseType} {d : SndDevice} {r : Routing}
    {uc : Nat} {g : AudioUsecase → AudioUsecase} (hd : d ≠ .none)
    (hflags : FlagsApart ids type uc r.usecaseList) (h : r.TalliedAt uc g) (i : Nat) :
    (switchAt ids type d r i).TalliedAt uc g := by
  unfold switchAt
  split
  · exact h
  · rename_i u hu
    split
    · rename_i hmem
      have hne : i ≠ uc := (hflags i u hu hmem).2
      have hat : (r.usecaseList.modify uc g)[i]? = some u := by
        rw [List.getElem?_modify_ne g _ hne.symm, hu]
      -- the direction is taken out of the tally and put back on its new device
      have hdis : (r.disableSndDevice u (u.sndDevice type)).Tallied
          ((r.usecaseList.modify uc g).modify i (·.setSndDevice type .none)) :=
        h.disable u hat fun x => by
          rw [AudioUsecase.weight_setSndDevice, weight_none, Nat.add_zero]
      have hmid : ((r.usecaseList.modify uc g).modify i (·.setSndDevice type .none))[i]? =
          some (u.setSndDevice type .none) := by
        rw [List.getElem?_modify_eq, hat]
        rfl
      have hen := hdis.enable u hmid (f := (·.setSndDevice type d)) hd fun x => by
        have hnone := AudioUsecase.weight_setSndDevice type .none x u
        have hset := AudioUsecase.weight_setSndDevice type d x u
        rw [weight_none] at hnone
        rw [AudioUsecase.setSndDevice_setSndDevice]
        omega
      rw [List.modify_modify_eq, List.modify_modify_ne _ _ _ hne.symm] at hen
      have hset : ((·.setSndDevice type d) ∘ (·.setSndDevice type .none) :
          AudioUsecase → AudioUsecase) = (·.setSndDevice type d) := by
        funext w
        exact w.setSndDevice_setSndDevice type .none d
      rw [hset] at hen
      refine Tallied.congr ?_ rfl rfl (r := (r.disableSndDevice u _).enableSndDevice u d)
      simpa only [modifyUsecase, enableSndDevice_usecaseList, disableSndDevice_usecaseList] using hen
    · exact h

end Routing

/-- The id of a usecase says its type, and which of its directions is never used. -/
def AudioUsecase.Directed (u : AudioUsecase) : Prop :=
  (u.id.isOutput = true → u.type = .pcmPlayback ∧ u.inSndDevice = .none) ∧
    (u.id = .audioCapture → u.type = .pcmCapture ∧ u.outSndDevice = .none)

theorem AudioUsecase.Directed.assign {u : AudioUsecase} (h : u.Directed) {out input : SndDevice}
    (hin : u.id.isOutput = true → input = .none) (hout : u.id = .audioCapture → out = .none) :
    (u.assign out input).Directed :=
  ⟨fun hid => ⟨(h.1 hid).1, hin hid⟩, fun hid => ⟨(h.2 hid).1, hout hid⟩⟩

theorem AudioUsecase.Directed.setSndDevice {u : AudioUsecase} (h : u.Directed) (d : SndDevice) :
    (u.setSndDevice u.type d).Directed := by
  unfold AudioUsecase.setSndDevice
  split
  · rename_i htype
    refine ⟨fun hid => h.1 hid, fun hid => ?_⟩
    have := (h.2 hid).1
    rw [this] at htype
    cases htype
  · rename_i htype
    exact ⟨fun hid => absurd (h.1 hid).1 htype, fun hid => h.2 hid⟩

namespace Routing

/-- What holds of the usecases whenever no operation is under way, and of the counts. -/
structure Good (r : Routing) : Prop where
  ids : (r.usecaseList.map (·.id)).Nodup
  directed : ∀ u ∈ r.usecaseList, u.Directed
  tallied : r.Tallied r.usecaseList

/-- The loop's invariant: `r` was `r₀` when it began. -/
structure Switching (r₀ : Routing) (uc : Nat) (g : AudioUsecase → AudioUsecase) (r : Routing) :
    Prop where
  ids : r.usecaseList.map (·.id) = r₀.usecaseList.map (·.id)
  kept : r.usecaseList[uc]? = r₀.usecaseList[uc]?
  directed : ∀ u ∈ r.usecaseList, u.Directed
  tallied : r.TalliedAt uc g

theorem switchAt_switching {ids : List UsecaseId} {type : UsecaseType} {d : SndDevice}
    {r₀ r : Routing} {uc : Nat} {g : AudioUsecase → AudioUsecase} (hd : d ≠ .none)
    (hflags : FlagsApart ids type uc r.usecaseList) (h : Switching r₀ uc g r) (i : Nat) :
    FlagsApart ids type uc (switchAt ids type d r i).usecaseList ∧
      Switching r₀ uc g (switchAt ids type d r i) := by
  have htallied := switchAt_tallied hd hflags h.tallied i
  rcases switchAt_usecaseList ids type d r i with hlist | ⟨hlist, u, hu, hmem⟩
  · rw [hlist]
    refine ⟨hflags, ?_, ?_, ?_, htallied⟩
    · rw [hlist, h.ids]
    · rw [hlist, h.kept]
    · rw [hlist]
      exact h.directed
  · have hkey : ∀ w : AudioUsecase, (w.setSndDevice type d).id = w.id ∧
        (w.setSndDevice type d).type = w.type := fun w => w.setSndDevice_id type d
    have htype := hflags i u hu hmem
    rw [hlist]
    refine ⟨hflags.modify i hkey, ?_, ?_, ?_, htallied⟩
    · rw [hlist, map_modify_of_key fun w => (hkey w).1, h.ids]
    · rw [hlist, List.getElem?_modify_ne _ _ htype.2, h.kept]
    · rw [hlist]
      intro w hw
      rcases exists_of_mem_modify hw with hw | ⟨c, hc, rfl⟩
      · exact h.directed w hw
      · obtain rfl : u = c := Option.some.inj (hu.symm.trans hc)
        have hdir := (h.directed u (List.mem_of_getElem? hu)).setSndDevice d
        rwa [htype.1] at hdir

theorem foldl_switchAt {ids : List UsecaseId} {type : UsecaseType} {d : SndDevice}
    {r₀ : Routing} {uc : Nat} {g : AudioUsecase → AudioUsecase} (hd : d ≠ .none) (places : List Nat)
    {r : Routing} (hflags : FlagsApart ids type uc r.usecaseList) (h : Switching r₀ uc g r) :
    Switching r₀ uc g (places.foldl (switchAt ids type d) r) := by
  induction places generalizing r with
  | nil => exact h
  | cons i places ih =>
    have hi := switchAt_switching hd hflags h i
    exact ih hi.1 hi.2

theorem checkAndRouteUsecases_switching {r₀ r : Routing} {uc : Nat}
    {g : AudioUsecase → AudioUsecase} (type : UsecaseType) {d : SndDevice} (hd : d ≠ .none)
    (hids : (r₀.usecaseList.map (·.id)).Nodup) (h : Switching r₀ uc g r) :
    Switching r₀ uc g (r.checkAndRouteUsecases uc type d) := by
  apply foldl_switchAt hd _ _ h
  apply flagsApart_switchedIds
  rw [h.ids]
  exact hids

theorem modify_eq_self_of_getElem? {α : Type*} {l : List α} {i : Nat} {a : α} {f : α → α}
    (h : l[i]? = some a) (hf : f a = a) : l.modify i f = l := by
  apply List.ext_getElem?
  intro j
  rw [List.getElem?_modify]
  by_cases hij : i = j
  · subst hij
    rw [h]
    show some (if i = i then f a else a) = some a
    rw [if_pos rfl, hf]
  · simp [hij]

theorem modify_assign_modify (l : List AudioUsecase) (uc : Nat) (a b a' b' : SndDevice) :
    (l.modify uc (.assign a b)).modify uc (.assign a' b') = l.modify uc (.assign a' b') :=
  List.modify_modify_eq _ _ _ _

section Assigned

variable {r₀ r : Routing} {uc : Nat} {u : AudioUsecase} {a b d : SndDevice}

theorem getElem?_modify_assign (hu : r.usecaseList[uc]? = some u) :
    (r.usecaseList.modify uc (.assign a b))[uc]? = some (u.assign a b) := by
  rw [List.getElem?_modify_eq, hu]
  rfl

/-- A call that changes nothing but the counts. -/
theorem Switching.of_tallied {r' : Routing} {g g' : AudioUsecase → AudioUsecase}
    (h : Switching r₀ uc g r) (hlist : r'.usecaseList = r.usecaseList)
    (htallied : r'.Tallied (r.usecaseList.modify uc g')) : Switching r₀ uc g' r' := by
  refine ⟨?_, ?_, ?_, ?_⟩
  · rw [hlist, h.ids]
  · rw [hlist, h.kept]
  · rw [hlist]
    exact h.directed
  · rw [TalliedAt, hlist]
    exact htallied

/-- Disabling one of the two devices of the usecase being switched. -/
theorem Switching.disable {a' b' : SndDevice} (h : Switching r₀ uc (.assign a b) r)
    (hu : r₀.usecaseList[uc]? = some u)
    (hw : ∀ x, a'.weight x + b'.weight x + d.weight x = a.weight x + b.weight x) :
    Switching r₀ uc (.assign a' b') (r.disableSndDevice u d) := by
  apply h.of_tallied (disableSndDevice_usecaseList r u d)
  have hat := getElem?_modify_assign (a := a) (b := b) (h.kept.trans hu)
  rw [← modify_assign_modify _ uc a b a' b']
  exact h.tallied.disable u hat hw

theorem Switching.enable {a' b' : SndDevice} (h : Switching r₀ uc (.assign a b) r)
    (hu : r₀.usecaseList[uc]? = some u) (hd : d ≠ .none)
    (hw : ∀ x, a'.weight x + b'.weight x = a.weight x + b.weight x + d.weight x) :
    Switching r₀ uc (.assign a' b') (r.enableSndDevice u d) := by
  apply h.of_tallied (enableSndDevice_usecaseList r u d)
  have hat := getElem?_modify_assign (a := a) (b := b) (h.kept.trans hu)
  rw [← modify_assign_modify _ uc a b a' b']
  exact h.tallied.enable u hat hd hw

end Assigned

/-- Before anything is switched, the usecase is on the devices its fields say. -/
theorem Good.switching {r : Routing} (h : r.Good) {uc : Nat} {u : AudioUsecase}
    (hu : r.usecaseList[uc]? = some u) :
    Switching r uc (.assign u.outSndDevice u.inSndDevice) r := by
  refine ⟨rfl, rfl, h.directed, ?_⟩
  rw [TalliedAt, modify_eq_self_of_getElem? hu rfl]
  exact h.tallied

/-- Afterwards, its fields say the devices that are enabled for it. -/
theorem Switching.good {r₀ r : Routing} {uc : Nat} {u : AudioUsecase} {out input : SndDevice}
    (h : Switching r₀ uc (.assign out input) r) (hids : (r₀.usecaseList.map (·.id)).Nodup)
    (hu : r₀.usecaseList[uc]? = some u) (hdir : (u.assign out input).Directed) :
    (r.modifyUsecase uc (.assign out input)).Good := by
  refine ⟨?_, ?_, h.tallied.congr rfl rfl⟩
  · have hkeep := map_modify_of_key (f := .assign out input) (k := AudioUsecase.id)
      (fun _ => rfl) r.usecaseList uc
    exact hkeep.trans h.ids ▸ hids
  · intro w hw
    rcases exists_of_mem_modify hw with hw | ⟨c, hc, rfl⟩
    · exact h.directed w hw
    · obtain rfl : u = c := Option.some.inj (hu.symm.trans (h.kept.symm.trans hc))
      exact hdir

/-- The usecases of `r` under their ids, in order. -/
def SameIds (r r' : Routing) : Prop :=
  r'.usecaseList.map (·.id) = r.usecaseList.map (·.id)

/-- Switching a usecase keeps the counts, and those of every usecase it takes along. -/
theorem switchDevices_good {r : Routing} (h : r.Good) (uc : Nat) {out input : SndDevice}
    (hin : ∀ u, r.usecaseList[uc]? = some u → u.id.isOutput = true → input = .none)
    (hout : ∀ u, r.usecaseList[uc]? = some u → u.id = .audioCapture → out = .none) :
    (r.switchDevices uc out input).Good ∧ r.SameIds (r.switchDevices uc out input) := by
  unfold switchDevices
  split
  · exact ⟨h, rfl⟩
  rename_i u hu
  split
  · exact ⟨h, rfl⟩
  have hdir := (h.directed u (List.mem_of_getElem? hu)).assign (hin u hu) (hout u hu)
  dsimp only
  -- off the output it has
  have hoff : Switching r uc (.assign .none u.inSndDevice)
      (if u.outSndDevice ≠ .none then r.disableSndDevice u u.outSndDevice else r) := by
    split
    · exact (h.switching hu).disable hu fun x => by rw [weight_none]; omega
    · rename_i hnone
      rw [← not_not.mp hnone]
      exact h.switching hu
  generalize (if u.outSndDevice ≠ .none then r.disableSndDevice u u.outSndDevice else r) = r₁
    at hoff ⊢
  -- off the input it has
  have hfree : Switching r uc (.assign .none .none)
      (if u.inSndDevice ≠ .none then r₁.disableSndDevice u u.inSndDevice else r₁) := by
    split
    · exact hoff.disable hu fun x => by rw [weight_none, Nat.add_zero]
    · rename_i hnone
      rwa [not_not.mp hnone] at hoff
  generalize (if u.inSndDevice ≠ .none then r₁.disableSndDevice u u.inSndDevice else r₁) = r₂
    at hfree ⊢
  -- onto the new output, after the other playbacks
  have hout : Switching r uc (.assign out .none)
      (if out ≠ .none then (r₂.checkAndRouteUsecases uc .pcmPlayback out).enableSndDevice u out
        else r₂) := by
    split
    · rename_i hne
      have hroute := checkAndRouteUsecases_switching .pcmPlayback hne h.ids hfree
      exact hroute.enable hu hne fun x => by rw [weight_none]; omega
    · rename_i hnone
      rwa [not_not.mp hnone]
  generalize (if out ≠ .none then (r₂.checkAndRouteUsecases uc .pcmPlayback out).enableSndDevice u out
    else r₂) = r₃ at hout ⊢
  -- onto the new input, after the other captures
  have hin : Switching r uc (.assign out input)
      (if input ≠ .none then (r₃.checkAndRouteUsecases uc .pcmCapture input).enableSndDevice u input
        else r₃) := by
    split
    · rename_i hne
      have hroute := checkAndRouteUsecases_switching .pcmCapture hne h.ids hout
      exact hroute.enable hu hne fun x => by rw [weight_none]; omega
    · rename_i hnone
      rwa [not_not.mp hnone]
  have hkeep := map_modify_of_key (f := .assign out input) (k := AudioUsecase.id) (fun _ => rfl)
  exact ⟨hin.good h.ids hu hdir, (hkeep _ uc).trans hin.ids⟩

theorem sameIds_setDevices (r : Routing) (uc : Nat) (devices : AudioDevices) :
    r.SameIds (r.setDevices uc devices) :=
  map_modify_of_key (f := fun u : AudioUsecase => { u with devices := devices }) (k := (·.id))
    (fun _ => rfl) _ _

theorem SameIds.trans {r r' r'' : Routing} (h : r.SameIds r') (h' : r'.SameIds r'') :
    r.SameIds r'' :=
  Eq.trans h' h

/-- A place keeps its id. -/
theorem SameIds.at {r r' : Routing} (h : r.SameIds r') {uc : Nat} {u w : AudioUsecase}
    (hu : r.usecaseList[uc]? = some u) (hw : r'.usecaseList[uc]? = some w) : w.id = u.id := by
  have hat : (r'.usecaseList.map (·.id))[uc]? = (r.usecaseList.map (·.id))[uc]? := by rw [h]
  rw [List.getElem?_map, List.getElem?_map, hu, hw] at hat
  exact Option.some.inj hat

/-- Changes that routing does not count: the usecases' masks and the session. -/
theorem Good.setDevices {r : Routing} (h : r.Good) (uc : Nat) (devices : AudioDevices) :
    (r.setDevices uc devices).Good := by
  refine ⟨?_, ?_, fun d => ?_, h.tallied.errors⟩
  · rw [sameIds_setDevices r uc devices]
    exact h.ids
  · intro w hw
    rcases exists_of_mem_modify hw with hw | ⟨c, hc, rfl⟩
    · exact h.directed w hw
    · exact h.directed c (List.mem_of_getElem? hc)
  · show r.sndDevRefCnt d =
      (routedTo (r.usecaseList.modify uc fun u => { u with devices := devices }) d : Int)
    rw [h.tallied.refCnt]
    by_cases hu : ∃ u, r.usecaseList[uc]? = some u
    · obtain ⟨u, hu⟩ := hu
      have hmod := routedTo_modify hu (fun u => { u with devices := devices }) d
      have hw : AudioUsecase.weight { u with devices := devices } d = u.weight d := rfl
      omega
    · have hlen : r.usecaseList.length ≤ uc := by
        by_contra hlt
        exact hu ⟨_, List.getElem?_eq_getElem (by omega)⟩
      rw [List.modify_eq_self hlen]

theorem Good.setSession {r : Routing} (h : r.Good) (session : VoiceSession) :
    Good { r with session := session } :=
  ⟨h.ids, h.directed, h.tallied.congr rfl rfl⟩

theorem Good.prepareSession {r : Routing} (h : r.Good) (devices : AudioDevices) :
    (r.prepareSession devices).Good :=
  h.setSession _

end Routing

/-! ## 5. Selecting devices -/

namespace Settings

open Routing

/-- Every call of `select_devices` that returns keeps the counts. -/
theorem selectDevicesAt_good (v : Settings) {depth : Nat} {r r' : Routing} {id : UsecaseId}
    (h : r.Good) (hsel : v.selectDevicesAt depth r id = some r') : r'.Good ∧ r.SameIds r' := by
  induction depth generalizing r r' id with
  | zero => cases hsel
  | succ depth ih =>
    unfold selectDevicesAt at hsel
    split at hsel
    · obtain rfl := Option.some.inj hsel
      exact ⟨h, rfl⟩
    rename_i uc _
    split at hsel
    · obtain rfl := Option.some.inj hsel
      exact ⟨h, rfl⟩
    rename_i u hu
    have hdir := h.directed u (List.mem_of_getElem? hu)
    -- the id of the usecase, which its type goes with, is the same whatever happens before
    have hswitch : ∀ {r₁ : Routing} {out input : SndDevice}, r₁.Good → r.SameIds r₁ →
        (u.id.isOutput = true → input = .none) → (u.id = .audioCapture → out = .none) →
        (r₁.switchDevices uc out input).Good ∧ r.SameIds (r₁.switchDevices uc out input) := by
      intro r₁ out input hgood hsame hin hout
      have hsw := switchDevices_good hgood uc
        (fun w hw => hsame.at hu hw ▸ hin) (fun w hw => hsame.at hu hw ▸ hout)
      exact ⟨hsw.1, hsame.trans hsw.2⟩
    have hset := fun devices => h.setDevices uc devices
    have hsame := fun devices => sameIds_setDevices r uc devices
    dsimp only at hsel
    split at hsel
    case h_1 htype =>
      obtain rfl := Option.some.inj hsel
      apply hswitch ((hset _).prepareSession _) (hsame _)
      · intro hid
        rw [(hdir.1 hid).1] at htype
        cases htype
      · intro hid
        rw [(hdir.2 hid).1] at htype
        cases htype
    case h_2 htype =>
      have hcapture : u.id ≠ .audioCapture := fun hid => by
        rw [(hdir.2 hid).1] at htype
        cases htype
      split at hsel
      · obtain rfl := Option.some.inj hsel
        exact hswitch (hset _) (hsame _) (fun _ => rfl) fun hid => absurd hid hcapture
      · split at hsel
        · obtain ⟨r₁, hr₁, hsel⟩ := Option.bind_eq_some_iff.mp hsel
          obtain rfl := Option.some.inj hsel
          have hinner := ih (hset _) hr₁
          exact hswitch hinner.1 ((hsame _).trans hinner.2) (fun _ => rfl)
            fun hid => absurd hid hcapture
        · obtain rfl := Option.some.inj hsel
          exact hswitch (hset _) (hsame _) (fun _ => rfl) fun hid => absurd hid hcapture
    case h_3 htype =>
      obtain rfl := Option.some.inj hsel
      apply hswitch (hset _) (hsame _) _ fun _ => rfl
      intro hid
      rw [(hdir.1 hid).1] at htype
      cases htype
    case h_4 htype =>
      obtain rfl := Option.some.inj hsel
      apply hswitch h rfl
      · intro hid
        rw [(hdir.1 hid).1] at htype
        cases htype
      · intro hid
        rw [(hdir.2 hid).1] at htype
        cases htype

end Settings

end Universal7870.Audio
