import Universal7870.Lib.CString
import Universal7870.Lib.Run

/-!
# Camera parameters

`CameraParameters.cpp`: the parameters of a camera as a map that travels as one string, and the two
fixups of `Camera2Wrapper.cpp` that such strings go through.  The fixups work with a class of the
platform's camera helper, which is known by what is documented of it.
-/

namespace Universal7870.Camera

open Lib

/-- `mMap`, a keyed vector sorted by `strcmp`. -/
structure CameraParameters where
  mMap : StringMap

namespace CameraParameters

def empty : CameraParameters := ⟨∅⟩

/-- The loop of `flatten` over the entries that are left. -/
def flattenEntries : List (CString × CString) → CString
  | [] => []
  | [(k, v)] => k ++ '=' :: v
  | (k, v) :: e :: rest => k ++ '=' :: (v ++ ';' :: flattenEntries (e :: rest))

def flatten (p : CameraParameters) : CString := flattenEntries p.mMap.toList

/-- The loop of `unflatten`, with the text from `a` on.  A key is what stands in front of the next
equals sign, a value what stands behind it in front of the next semicolon. -/
def unflattenLoop (a : CString) (mMap : StringMap) : StringMap :=
  match _hkey : cutAt '=' a with
  | none => mMap
  | some (k, a') =>
    match _hvalue : cutAt ';' a' with
    -- the last entry, whose value is all of the rest
    | none => mMap.insert k a'
    | some (v, a'') => unflattenLoop a'' (mMap.insert k v)
termination_by a.length
decreasing_by
  rw [(cutAt_eq_some _hkey).1, (cutAt_eq_some _hvalue).1]
  simp only [List.length_append, List.length_cons]
  omega

/-- `unflatten`, which forgets what was in the map. -/
def unflatten (_p : CameraParameters) (params : CString) : CameraParameters :=
  ⟨unflattenLoop params ∅⟩

/-- `set` of a string.  A key or a value with one of the two marks is not taken. -/
def set (p : CameraParameters) (key value : CString) : CameraParameters :=
  if '=' ∈ key ∨ ';' ∈ key then p
  else if '=' ∈ value ∨ ';' ∈ value then p
  else ⟨p.mMap.insert key value⟩

/-- `set` of an `int`. -/
def setInt (p : CameraParameters) (key : CString) (value : Int) : CameraParameters :=
  p.set key (decimal value)

/-- `get`, null for an empty value as for a missing one. -/
def get (p : CameraParameters) (key : CString) : Option CString :=
  let v := p.mMap.getD key []
  if v.length = 0 then none else some v

def getInt (longBits : Nat) (p : CameraParameters) (key : CString) : Int :=
  match p.get key with
  | none => -1
  | some v => toInt32 (strtol longBits 0 v).1

def remove (p : CameraParameters) (key : CString) : CameraParameters := ⟨p.mMap.erase key⟩

def isEmpty (p : CameraParameters) : Bool := p.mMap.isEmpty

/-- The calls that change a map. -/
inductive Op
  | unflatten (params : CString)
  | set (key value : CString)
  | setInt (key : CString) (value : Int)
  | remove (key : CString)
  deriving DecidableEq, Repr

def step (p : CameraParameters) : Op → CameraParameters
  | .unflatten params => p.unflatten params
  | .set key value => p.set key value
  | .setInt key value => p.setInt key value
  | .remove key => p.remove key

def run (ops : List Op) (p : CameraParameters) : CameraParameters := ops.foldl step p

end CameraParameters

/-- The functions of the helper's class on objects of the type `P`.  `held` is what an object
holds. -/
structure HelperParameters (P : Type*) where
  held : P → CameraParameters
  new : P
  unflatten : P → CString → P
  set : P → CString → CString → P
  get : P → CString → Option CString
  flatten : P → CString

/-- What is documented of the class: a string of `key=value` with semicolons between them, as here,
and a parameter that is set where neither its key nor its value has one of the two marks. -/
structure HelperParameters.Documented {P : Type*} (helper : HelperParameters P) : Prop where
  unflatten : ∀ p params,
    helper.held (helper.unflatten p params) = (helper.held p).unflatten params
  set : ∀ p key value, '=' ∉ key → ';' ∉ key → '=' ∉ value → ';' ∉ value →
    helper.held (helper.set p key value) = ⟨(helper.held p).mMap.insert key value⟩
  get : ∀ p key, helper.get p key = (helper.held p).get key
  flatten : ∀ p, helper.flatten p = (helper.held p).flatten

/-- The video sizes that `camera2_fixup_getparams` reports for every camera. -/
def videoSizeValues : CString :=
  ("3840x2160,2560x1440,1920x1080,1440x1080,1088x1088,1280x720,960x720,800x450,720x480,640x480," ++
    "480x320,352x288,320x240,256x144,176x144").toList

def videoSizeValuesKey : CString := "video-size-values".toList

section

variable {P : Type*} (helper : HelperParameters P)

/-- `camera2_fixup_getparams`: what the framework is given for the vendor's parameters. -/
def camera2FixupGetparams (settings : CString) : CString :=
  helper.flatten
    (helper.set (helper.unflatten helper.new settings) videoSizeValuesKey videoSizeValues)

/-- `camera2_fixup_setparams`: what the vendor is given for the framework's parameters. -/
def camera2FixupSetparams (settings : CString) : CString :=
  helper.flatten (helper.unflatten helper.new settings)

end

namespace CameraParameters

/-! ## 1. One string there and back -/

/-- No key has an equals sign and no value a semicolon, so the flattened string can be cut. -/
def Cuts (p : CameraParameters) : Prop := ∀ (k v : CString), p.mMap[k]? = some v → '=' ∉ k ∧ ';' ∉ v

theorem unflattenLoop_none {a : CString} (h : cutAt '=' a = none) (m : StringMap) :
    unflattenLoop a m = m := by
  rw [unflattenLoop]
  split
  · rfl
  · rename_i heq
    rw [h] at heq
    cases heq

theorem unflattenLoop_some {a k a' : CString} (h : cutAt '=' a = some (k, a')) (m : StringMap) :
    unflattenLoop a m =
      match cutAt ';' a' with
      | none => m.insert k a'
      | some (v, a'') => unflattenLoop a'' (m.insert k v) := by
  rw [unflattenLoop]
  split
  · rename_i heq
    rw [h] at heq
    cases heq
  · rename_i heq
    rw [h] at heq
    cases heq
    split <;> rename_i hvalue <;> rw [hvalue]

theorem unflattenLoop_flattenEntries {l : List (CString × CString)}
    (h : ∀ e ∈ l, '=' ∉ e.1 ∧ ';' ∉ e.2) (m : StringMap) :
    unflattenLoop (flattenEntries l) m = l.foldl (fun m e => m.insert e.1 e.2) m := by
  induction l generalizing m with
  | nil => exact unflattenLoop_none rfl m
  | cons e l ih =>
    obtain ⟨k, v⟩ := e
    have he := List.forall_mem_cons.mp h
    cases l with
    | nil =>
      rw [flattenEntries, unflattenLoop_some (cutAt_append he.1.1 v), cutAt_eq_none.mpr he.1.2]
      rfl
    | cons e l =>
      rw [flattenEntries, unflattenLoop_some (cutAt_append he.1.1 _), cutAt_append he.1.2]
      exact ih he.2 _

theorem unflatten_flatten {p : CameraParameters} (h : p.Cuts) (q : CameraParameters) :
    q.unflatten p.flatten = p := by
  have hentries : ∀ e ∈ p.mMap.toList, '=' ∉ e.1 ∧ ';' ∉ e.2 := fun e he =>
    h e.1 e.2 (Std.ExtTreeMap.mem_toList_iff_getElem?_eq_some.mp he)
  unfold unflatten flatten
  rw [unflattenLoop_flattenEntries hentries, foldl_insert_toList]

/-! ## 2. What the calls keep -/

theorem cuts_insert {m : StringMap} (h : Cuts ⟨m⟩) {k v : CString} (hk : '=' ∉ k) (hv : ';' ∉ v) :
    Cuts ⟨m.insert k v⟩ := by
  intro k' v' hget
  rw [Std.ExtTreeMap.getElem?_insert] at hget
  split at hget
  · rename_i heq
    cases hget
    rw [← Std.LawfulEqCmp.eq_of_compare heq]
    exact ⟨hk, hv⟩
  · exact h k' v' hget

theorem cuts_empty : Cuts empty := by
  intro k v hget
  exact absurd hget (by simp [empty])

/-- Whatever the string, the loop takes keys without an equals sign and values without a
semicolon. -/
theorem cuts_unflattenLoop (a : CString) {m : StringMap} (h : Cuts ⟨m⟩) : Cuts ⟨unflattenLoop a m⟩ := by
  induction hn : a.length using Nat.strongRecOn generalizing a m with
  | ind n ih =>
    cases hkey : cutAt '=' a with
    | none =>
      rw [unflattenLoop_none hkey]
      exact h
    | some r =>
      obtain ⟨k, a'⟩ := r
      have hk := cutAt_eq_some hkey
      rw [unflattenLoop_some hkey]
      cases hvalue : cutAt ';' a' with
      -- the last value has no semicolon, since none was found
      | none => exact cuts_insert h hk.2 (cutAt_eq_none.mp hvalue)
      | some r =>
        obtain ⟨v, a''⟩ := r
        have hv := cutAt_eq_some hvalue
        have hlen : a''.length < n := by
          rw [← hn, hk.1, hv.1]
          simp only [List.length_append, List.length_cons]
          omega
        exact ih a''.length hlen a'' (cuts_insert h hk.2 hv.2) rfl

theorem cuts_set {p : CameraParameters} (h : p.Cuts) (key value : CString) : (p.set key value).Cuts := by
  unfold set
  split
  · exact h
  · rename_i hkey
    split
    · exact h
    · rename_i hvalue
      exact cuts_insert h (fun hk => hkey (Or.inl hk)) fun hv => hvalue (Or.inr hv)

theorem cuts_step {p : CameraParameters} (h : p.Cuts) (op : Op) : (step p op).Cuts := by
  cases op with
  | unflatten params => exact cuts_unflattenLoop params cuts_empty
  | set key value => exact cuts_set h key value
  | setInt key value => exact cuts_set h key (decimal value)
  | remove key =>
    intro k v hget
    change (p.mMap.erase key)[k]? = some v at hget
    rw [Std.ExtTreeMap.getElem?_erase] at hget
    split at hget
    · cases hget
    · exact h k v hget

theorem cuts_run (ops : List Op) {p : CameraParameters} (h : p.Cuts) : (run ops p).Cuts := by
  induction ops generalizing p with
  | nil => exact h
  | cons op ops ih => exact ih (cuts_step h op)

/-- After every run of calls, unflattening of any string included, the flattened string makes the
same parameters again in any other object, and it is the only string that `flatten` gives for
them. -/
theorem unflatten_flatten_run (ops : List Op) (q : CameraParameters) :
    q.unflatten (run ops empty).flatten = run ops empty ∧
      ∀ ops', (run ops' empty).flatten = (run ops empty).flatten ↔
        ∀ k : CString, (run ops' empty).mMap[k]? = (run ops empty).mMap[k]? := by
  refine ⟨unflatten_flatten (cuts_run ops cuts_empty) q, fun ops' => ?_⟩
  constructor
  · intro heq k
    -- both are what the one string is unflattened to
    have h := unflatten_flatten (cuts_run ops cuts_empty) q
    rw [← heq, unflatten_flatten (cuts_run ops' cuts_empty)] at h
    rw [h]
  · intro hget
    have hmap : (run ops' empty).mMap = (run ops empty).mMap := Std.ExtTreeMap.ext_getElem? hget
    unfold flatten
    rw [hmap]

/-! ## 3. The fixups of the camera2 wrapper -/

theorem cuts_unflatten (p : CameraParameters) (params : CString) : (p.unflatten params).Cuts :=
  cuts_unflattenLoop params cuts_empty

set_option maxRecDepth 4096 in
theorem videoSizeValues_marks :
    '=' ∉ videoSizeValues ∧ ';' ∉ videoSizeValues ∧ videoSizeValues.length ≠ 0 := by decide

section

variable {P : Type*} {helper : HelperParameters P}

/-- What a string of the class says is what it held when it was flattened. -/
theorem held_unflatten_flatten (hdoc : helper.Documented) (p q : P)
    (hcuts : (helper.held q).Cuts) :
    helper.held (helper.unflatten p (helper.flatten q)) = helper.held q := by
  rw [hdoc.unflatten, hdoc.flatten]
  exact unflatten_flatten hcuts _

/-- The parameters that the framework is given. -/
theorem held_fixedUp (hdoc : helper.Documented) (settings : CString) (q : P) :
    helper.held (helper.set (helper.unflatten helper.new settings) videoSizeValuesKey
      videoSizeValues) =
      ⟨(helper.held (helper.unflatten q settings)).mMap.insert videoSizeValuesKey
        videoSizeValues⟩ := by
  rw [hdoc.set _ _ _ (by decide) (by decide) videoSizeValues_marks.1 videoSizeValues_marks.2.1,
    hdoc.unflatten, hdoc.unflatten]
  rfl

/-- A string that has gone through a fixup says the same of every parameter as before, but for the
video sizes, which the framework is given; what went to the framework comes back to the vendor
unchanged. -/
theorem camera2_fixups_preserve (hdoc : helper.Documented) (settings : CString) (p q : P) :
    helper.held (helper.unflatten p (camera2FixupSetparams helper settings)) =
        helper.held (helper.unflatten q settings) ∧
      (∀ key, helper.get (helper.unflatten p (camera2FixupGetparams helper settings)) key =
        if key = videoSizeValuesKey then some videoSizeValues
        else helper.get (helper.unflatten q settings) key) ∧
      camera2FixupSetparams helper (camera2FixupGetparams helper settings) =
        camera2FixupGetparams helper settings := by
  have hsettings : ∀ r, (helper.held (helper.unflatten r settings)).Cuts := by
    intro r
    rw [hdoc.unflatten]
    exact cuts_unflatten _ settings
  have hfixed := held_fixedUp hdoc settings q
  have hcuts := cuts_insert (hsettings q) (k := videoSizeValuesKey) (by decide)
    videoSizeValues_marks.2.1
  rw [← hfixed] at hcuts
  refine ⟨?_, fun key => ?_, ?_⟩
  · unfold camera2FixupSetparams
    rw [held_unflatten_flatten hdoc p _ (hsettings helper.new), hdoc.unflatten, hdoc.unflatten]
    rfl
  · unfold camera2FixupGetparams
    rw [hdoc.get, hdoc.get, held_unflatten_flatten hdoc p _ hcuts, hfixed]
    unfold get
    by_cases hkey : key = videoSizeValuesKey
    · rw [hkey, if_pos rfl]
      simp only [Std.ExtTreeMap.getD_insert_self]
      exact if_neg videoSizeValues_marks.2.2
    -- every other key is looked up in the vendor's parameters
    · have hcmp : strcmp videoSizeValuesKey key ≠ .eq := fun heq =>
        hkey (Std.LawfulEqCmp.eq_of_compare heq).symm
      rw [if_neg hkey]
      simp only [Std.ExtTreeMap.getD_insert, if_neg hcmp]
  · unfold camera2FixupSetparams camera2FixupGetparams
    rw [hdoc.flatten (helper.unflatten _ _), held_unflatten_flatten hdoc _ _ hcuts, hdoc.flatten]

end

/-- The class of this library in the place of the helper's. -/
def helperParameters : HelperParameters CameraParameters where
  held := id
  new := empty
  unflatten := unflatten
  set := set
  get := get
  flatten := flatten

theorem helperParameters_documented : helperParameters.Documented where
  unflatten _ _ := rfl
  set p key value hkey hkey' hvalue hvalue' := by
    show p.set key value = _
    unfold set
    rw [if_neg (not_or.mpr ⟨hkey, hkey'⟩), if_neg (not_or.mpr ⟨hvalue, hvalue'⟩)]
    rfl
  get _ _ := rfl
  flatten _ := rfl

/-- Two parameters of a camera, one of them with the sizes of the vendor. -/
def vendorSettings : CString := "preview-size=640x480;video-size-values=640x480".toList

theorem camera2_fixups_preserve_vendorSettings :
    (empty.unflatten (camera2FixupGetparams helperParameters vendorSettings)).get
        videoSizeValuesKey = some videoSizeValues ∧
      camera2FixupSetparams helperParameters
          (camera2FixupGetparams helperParameters vendorSettings) =
        camera2FixupGetparams helperParameters vendorSettings := by
  obtain ⟨-, hget, hback⟩ :=
    camera2_fixups_preserve helperParameters_documented vendorSettings empty empty
  exact ⟨(hget videoSizeValuesKey).trans (if_pos rfl), hback⟩

end CameraParameters

end Universal7870.Camera
