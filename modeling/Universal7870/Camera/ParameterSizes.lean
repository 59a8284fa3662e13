import Mathlib.Algebra.Order.Ring.Int
import Universal7870.Camera.CameraParameters

/-!
# Sizes among the camera parameters

The accessors of `CameraParameters.cpp` for pairs of numbers and for lists of sizes.  `longBits` is
the width of a `long`, in which `strtol` works before the result is cut to an `int`.
-/

namespace Universal7870.Camera

open Lib

namespace CameraParameters

structure Size where
  width : Int
  height : Int
  deriving DecidableEq, Repr

/-- `parse_pair`: the two numbers and the text behind the second, none without the mark. -/
def parsePair (longBits : Nat) (str : CString) (delim : Char) : Option (Int × Int × CString) :=
  let first := strtol longBits 10 str
  match first.2 with
  | [] => none
  | c :: tail =>
    if c = delim then
      let second := strtol longBits 10 tail
      -- `(int)strtol`: what does not fit into an `int` is cut
      some (toInt32 first.1, toInt32 second.1, second.2)
    else none

theorem length_parsePair_lt {longBits : Nat} {str : CString} {delim : Char} {w h : Int} {tail : CString}
    (hpair : parsePair longBits str delim = some (w, h, tail)) : tail.length < str.length := by
  have hfirst := length_strtol_le longBits (by decide : 10 ≠ 0) str
  unfold parsePair at hpair
  simp only at hpair
  split at hpair
  · cases hpair
  · rename_i c behind heq
    rw [heq, List.length_cons] at hfirst
    split at hpair
    · cases hpair
      exact Nat.lt_of_lt_of_le
        (Nat.lt_succ_of_le (length_strtol_le longBits (by decide : 10 ≠ 0) behind)) hfirst
    · cases hpair

/-- The loop of `parseSizesList`, from the start of a size on. -/
def parseSizesLoop (longBits : Nat) (sizeStartPtr : CString) : List Size :=
  match _hpair : parsePair longBits sizeStartPtr 'x' with
  | none => []
  | some (width, height, []) => [⟨width, height⟩]
  | some (width, height, c :: tail) =>
    -- the size in front of an odd character is not kept
    if c = ',' then ⟨width, height⟩ :: parseSizesLoop longBits tail else []
termination_by sizeStartPtr.length
decreasing_by
  have hlt := length_parsePair_lt _hpair
  rw [List.length_cons] at hlt
  omega

def parseSizesList (longBits : Nat) (sizesStr : Option CString) : List Size :=
  match sizesStr with
  | none => []
  | some s => parseSizesLoop longBits s

/-! ## 1. The accessors -/

def keyPreviewSize : CString := "preview-size".toList
def keySupportedPreviewSizes : CString := "preview-size-values".toList
def keyPreferredPreviewSizeForVideo : CString := "preferred-preview-size-for-video".toList
def keyPreviewFrameRate : CString := "preview-frame-rate".toList
def keyPreviewFpsRange : CString := "preview-fps-range".toList
def keyPictureSize : CString := "picture-size".toList
def keySupportedPictureSizes : CString := "picture-size-values".toList
def keyVideoSize : CString := "video-size".toList
def keySupportedVideoSizes : CString := "video-size-values".toList

/-- The setters of a size: `sprintf` with `%dx%d`, then `set`. -/
def setSize (p : CameraParameters) (key : CString) (width height : Int) : CameraParameters :=
  p.set key (decimal width ++ 'x' :: decimal height)

/-- The getters of a pair, which leave -1 and -1 where there is none. -/
def getPair (longBits : Nat) (p : CameraParameters) (key : CString) (delim : Char) : Int × Int :=
  match p.get key with
  | none => (-1, -1)
  | some s =>
    match parsePair longBits s delim with
    | none => (-1, -1)
    | some (first, second, _) => (first, second)

def getSizes (longBits : Nat) (p : CameraParameters) (key : CString) : List Size :=
  parseSizesList longBits (p.get key)

def setPreviewSize (p : CameraParameters) (width height : Int) : CameraParameters :=
  p.setSize keyPreviewSize width height

def getPreviewSize (longBits : Nat) (p : CameraParameters) : Int × Int :=
  p.getPair longBits keyPreviewSize 'x'

def getPreferredPreviewSizeForVideo (longBits : Nat) (p : CameraParameters) : Int × Int :=
  p.getPair longBits keyPreferredPreviewSizeForVideo 'x'

def getSupportedPreviewSizes (longBits : Nat) (p : CameraParameters) : List Size :=
  p.getSizes longBits keySupportedPreviewSizes

def setVideoSize (p : CameraParameters) (width height : Int) : CameraParameters :=
  p.setSize keyVideoSize width height

def getVideoSize (longBits : Nat) (p : CameraParameters) : Int × Int :=
  p.getPair longBits keyVideoSize 'x'

def getSupportedVideoSizes (longBits : Nat) (p : CameraParameters) : List Size :=
  p.getSizes longBits keySupportedVideoSizes

def setPreviewFrameRate (p : CameraParameters) (fps : Int) : CameraParameters :=
  p.setInt keyPreviewFrameRate fps

def getPreviewFrameRate (longBits : Nat) (p : CameraParameters) : Int :=
  p.getInt longBits keyPreviewFrameRate

def getPreviewFpsRange (longBits : Nat) (p : CameraParameters) : Int × Int :=
  p.getPair longBits keyPreviewFpsRange ','

def setPictureSize (p : CameraParameters) (width height : Int) : CameraParameters :=
  p.setSize keyPictureSize width height

def getPictureSize (longBits : Nat) (p : CameraParameters) : Int × Int :=
  p.getPair longBits keyPictureSize 'x'

def getSupportedPictureSizes (longBits : Nat) (p : CameraParameters) : List Size :=
  p.getSizes longBits keySupportedPictureSizes

/-! ## 2. Numbers in a parameter -/

/-- An `int` of 32 bits. -/
def IsInt32 (n : Int) : Prop := -2 ^ 31 ≤ n ∧ n < 2 ^ 31

instance (n : Int) : Decidable (IsInt32 n) := inferInstanceAs (Decidable (_ ∧ _))

theorem strtol_int32 {longBits : Nat} (hbits : 32 ≤ longBits) {n : Int} (hn : IsInt32 n) {rest : CString}
    (hends : EndsNumber 10 rest) : strtol longBits 10 (decimal n ++ rest) = (n, rest) := by
  -- a `long` holds every `int`, so nothing is clamped
  have hpow : (2 : Int) ^ 31 ≤ 2 ^ (longBits - 1) :=
    pow_le_pow_right₀ (by decide) (by omega)
  have hlow := hn.1
  have hhigh := hn.2
  exact strtol_decimal (by omega) (by omega) hends

theorem endsNumber_cons {c : Char} (h : digitOf 10 c = none) (rest : CString) :
    EndsNumber 10 (c :: rest) := by
  unfold EndsNumber
  rw [List.head?_cons, Option.bind_some, h]
  rfl

/-- A pair printed with `%d` on both sides of the mark is parsed again, up to what ends the second
number. -/
theorem parsePair_decimal {longBits : Nat} (hbits : 32 ≤ longBits) {w h : Int} (hw : IsInt32 w)
    (hh : IsInt32 h) {delim : Char} (hdelim : digitOf 10 delim = none) (rest : CString)
    (hends : EndsNumber 10 rest) :
    parsePair longBits (decimal w ++ delim :: (decimal h ++ rest)) delim = some (w, h, rest) := by
  unfold parsePair
  rw [strtol_int32 hbits hw (endsNumber_cons hdelim _)]
  simp only
  rw [if_pos trivial, strtol_int32 hbits hh hends, toInt32_of_mem hw.1 hw.2, toInt32_of_mem hh.1 hh.2]

/-! ## 3. Sizes there and back -/

/-- A list of sizes as the drivers write it. -/
def sizesText : List Size → CString
  | [] => []
  | [s] => decimal s.width ++ 'x' :: decimal s.height
  | s :: t :: rest => decimal s.width ++ 'x' :: (decimal s.height ++ ',' :: sizesText (t :: rest))

theorem parseSizesLoop_last {longBits : Nat} {s : CString} {w h : Int}
    (hpair : parsePair longBits s 'x' = some (w, h, [])) : parseSizesLoop longBits s = [⟨w, h⟩] := by
  rw [parseSizesLoop]
  split <;> rename_i heq <;> rw [hpair] at heq <;> cases heq
  rfl

theorem parseSizesLoop_comma {longBits : Nat} {s tail : CString} {w h : Int}
    (hpair : parsePair longBits s 'x' = some (w, h, ',' :: tail)) :
    parseSizesLoop longBits s = ⟨w, h⟩ :: parseSizesLoop longBits tail := by
  rw [parseSizesLoop]
  split <;> rename_i heq <;> rw [hpair] at heq <;> cases heq
  rw [if_pos rfl]

theorem parseSizesLoop_sizesText {longBits : Nat} (hbits : 32 ≤ longBits) {sizes : List Size}
    (hne : sizes ≠ []) (hrange : ∀ s ∈ sizes, IsInt32 s.width ∧ IsInt32 s.height) :
    parseSizesLoop longBits (sizesText sizes) = sizes := by
  induction sizes with
  | nil => exact absurd rfl hne
  | cons s rest ih =>
    have hs := List.forall_mem_cons.mp hrange
    cases rest with
    | nil =>
      have hpair := parsePair_decimal hbits hs.1.1 hs.1.2 (by decide : digitOf 10 'x' = none) [] rfl
      rw [List.append_nil] at hpair
      exact parseSizesLoop_last hpair
    -- the comma ends the height, and the loop goes on behind it
    | cons t rest =>
      have hpair := parsePair_decimal hbits hs.1.1 hs.1.2 (by decide : digitOf 10 'x' = none) _
        (endsNumber_cons (c := ',') (by decide) (sizesText (t :: rest)))
      rw [sizesText, parseSizesLoop_comma hpair, ih (List.cons_ne_nil _ _) hs.2]

/-- A text that `set` takes as a key or as a value. -/
def Unmarked (s : CString) : Prop := ¬('=' ∈ s ∨ ';' ∈ s)

instance (s : CString) : Decidable (Unmarked s) := inferInstanceAs (Decidable (¬_))

theorem unmarked_decimal (n : Int) : Unmarked (decimal n) := by
  have hmark : ∀ c, c = '=' ∨ c = ';' → c ∉ decimal n := by
    intro c hc hmem
    rcases mem_decimal hmem with rfl | ⟨d, hd, rfl⟩
    · rcases hc with h | h <;> exact absurd h (by decide)
    · exact absurd hc ((by decide : ∀ d < 10, ¬(digitChar d = '=' ∨ digitChar d = ';')) d hd)
  rintro (h | h)
  · exact hmark _ (Or.inl rfl) h
  · exact hmark _ (Or.inr rfl) h

theorem unmarked_append {s t : CString} (hs : Unmarked s) (ht : Unmarked t) : Unmarked (s ++ t) := by
  unfold Unmarked at *
  rw [List.mem_append, List.mem_append]
  tauto

theorem unmarked_cons {c : Char} {s : CString} (hc : Unmarked [c]) (hs : Unmarked s) :
    Unmarked (c :: s) := unmarked_append hc hs

theorem unmarked_pair (w h : Int) : Unmarked (decimal w ++ 'x' :: decimal h) :=
  unmarked_append (unmarked_decimal w) (unmarked_cons (by decide) (unmarked_decimal h))

theorem unmarked_sizesText (sizes : List Size) : Unmarked (sizesText sizes) := by
  induction sizes with
  | nil => decide
  | cons s rest ih =>
    cases rest with
    | nil => exact unmarked_pair s.width s.height
    | cons t rest =>
      rw [sizesText]
      exact unmarked_append (unmarked_decimal _) (unmarked_cons (by decide)
        (unmarked_append (unmarked_decimal _) (unmarked_cons (by decide) ih)))

theorem get_set {p : CameraParameters} {key value : CString} (hkey : Unmarked key)
    (hvalue : Unmarked value) :
    (p.set key value).get key = if value.length = 0 then none else some value := by
  unfold set get
  rw [if_neg hkey, if_neg hvalue]
  simp only [Std.ExtTreeMap.getD_insert_self]

theorem getPair_setSize {longBits : Nat} (hbits : 32 ≤ longBits) {key : CString} (hkey : Unmarked key)
    (p : CameraParameters) {w h : Int} (hw : IsInt32 w) (hh : IsInt32 h) :
    (p.setSize key w h).getPair longBits key 'x' = (w, h) := by
  have hpair := parsePair_decimal hbits hw hh (by decide : digitOf 10 'x' = none) [] rfl
  rw [List.append_nil] at hpair
  have hlen : ¬(decimal w ++ 'x' :: decimal h).length = 0 := by
    rw [List.length_append, List.length_cons]
    omega
  unfold getPair setSize
  rw [get_set hkey (unmarked_pair w h), if_neg hlen]
  simp only [hpair]

theorem getSizes_set {longBits : Nat} (hbits : 32 ≤ longBits) {key : CString} (hkey : Unmarked key)
    (p : CameraParameters) {sizes : List Size}
    (hrange : ∀ s ∈ sizes, IsInt32 s.width ∧ IsInt32 s.height) :
    (p.set key (sizesText sizes)).getSizes longBits key = sizes := by
  unfold getSizes
  rw [get_set hkey (unmarked_sizesText sizes)]
  cases sizes with
  | nil => rfl
  | cons s rest =>
    have hlen : ¬(sizesText (s :: rest)).length = 0 := by
      -- `get` returns null for an empty text, which this is not
      have hw := List.length_pos_iff.mpr (decimal_ne_nil s.width)
      cases rest with
      | nil =>
        rw [sizesText, List.length_append]
        omega
      | cons t rest =>
        rw [sizesText, List.length_append]
        omega
    rw [if_neg hlen]
    exact parseSizesLoop_sizesText hbits (List.cons_ne_nil _ _) hrange

/-- A size that is set after any run of calls, and a list of sizes that a driver wrote, are read back
as they were, also from the parameters that travelled as a string. -/
theorem sizes_round_trip {longBits : Nat} (hbits : 32 ≤ longBits) (ops : List Op) (q : CameraParameters)
    {key : CString} (hkey : Unmarked key) {w h : Int} (hw : IsInt32 w) (hh : IsInt32 h)
    {sizes : List Size} (hrange : ∀ s ∈ sizes, IsInt32 s.width ∧ IsInt32 s.height) :
    ((run ops empty).setSize key w h).getPair longBits key 'x' = (w, h) ∧
      (q.unflatten ((run ops empty).setSize key w h).flatten).getPair longBits key 'x' = (w, h) ∧
      ((run ops empty).set key (sizesText sizes)).getSizes longBits key = sizes ∧
      (q.unflatten ((run ops empty).set key (sizesText sizes)).flatten).getSizes longBits key = sizes := by
  have hrun : (run ops empty).Cuts := cuts_run ops cuts_empty
  have hpair := getPair_setSize hbits hkey (run ops empty) hw hh
  have hsizes := getSizes_set hbits hkey (run ops empty) hrange
  have hsize : ((run ops empty).setSize key w h).Cuts := cuts_set hrun key _
  refine ⟨hpair, ?_, hsizes, ?_⟩
  · rw [unflatten_flatten hsize]
    exact hpair
  · rw [unflatten_flatten (cuts_set hrun key (sizesText sizes))]
    exact hsizes

theorem sizes_round_trip_previewSize :
    ((run [.unflatten "zoom=1".toList] empty).setSize keyPreviewSize (-1) 480).getPair 32
        keyPreviewSize 'x' = (-1, 480) ∧
      (empty.unflatten
        ((run [.unflatten "zoom=1".toList] empty).setSize keyPreviewSize (-1) 480).flatten).getPair
        32 keyPreviewSize 'x' = (-1, 480) ∧
      ((run [.unflatten "zoom=1".toList] empty).set keyPreviewSize
        (sizesText [⟨640, 480⟩, ⟨320, 240⟩])).getSizes 32 keyPreviewSize = [⟨640, 480⟩, ⟨320, 240⟩] ∧
      (empty.unflatten ((run [.unflatten "zoom=1".toList] empty).set keyPreviewSize
        (sizesText [⟨640, 480⟩, ⟨320, 240⟩])).flatten).getSizes 32 keyPreviewSize =
          [⟨640, 480⟩, ⟨320, 240⟩] :=
  sizes_round_trip (by decide) [.unflatten "zoom=1".toList] empty (by decide) (by decide) (by decide)
    (List.forall_mem_cons.mpr ⟨by decide, List.forall_mem_cons.mpr ⟨by decide, List.forall_mem_nil _⟩⟩)

end CameraParameters

end Universal7870.Camera
