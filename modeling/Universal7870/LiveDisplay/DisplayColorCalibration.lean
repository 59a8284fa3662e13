import Mathlib.Data.List.DropRight
import Universal7870.Lib.CString

/-!
# The calibration of the colors

`DisplayColorCalibration` writes the colors to a node as text, and reads them from there.  The node
shows what was written, with white space behind it.
-/

namespace Universal7870.LiveDisplay

open Lib

/-! ## 1. The code -/

/-- `android::base::Trim`. -/
def trim (s : CString) : CString := (s.dropWhile isCSpace).rdropWhile isCSpace

/-- What `setCalibration` writes. -/
def setCalibration (rgb : List Int32) : CString :=
  trim (rgb.flatMap fun color => decimal color.toInt ++ [' '])

/-- `getCalibration` from what the node shows, or from a node that cannot be read; `none` where
`std::stoi` throws. -/
def getCalibration : Option CString → Option (List Int32)
  | none => some []
  | some contents => ((trim contents).splitOn ' ').mapM readInt

/-! ## 2. Text -/

/-- A text without white space at its ends. -/
structure Visible (s : CString) : Prop where
  ne_nil : s ≠ []
  head : ∀ c ∈ s.head?, isCSpace c = false
  last : ∀ c ∈ s.getLast?, isCSpace c = false

theorem Visible.append_cons {front behind : CString} (hfront : Visible front)
    (hbehind : Visible behind) (c : Char) : Visible (front ++ c :: behind) where
  ne_nil h := List.cons_ne_nil c behind (List.append_eq_nil_iff.mp h).2
  head := by
    rw [List.head?_append_of_ne_nil _ hfront.ne_nil]
    exact hfront.head
  last := by
    rw [List.getLast?_append_of_ne_nil _ (List.cons_ne_nil c behind),
      List.getLast?_cons_of_ne_nil hbehind.ne_nil]
    exact hbehind.last

theorem Visible.of_forall {s : CString} (hne : s ≠ []) (h : ∀ c ∈ s, isCSpace c = false) :
    Visible s where
  ne_nil := hne
  head c hc := h c (List.mem_of_mem_head? hc)
  last c hc := h c (List.mem_of_getLast? hc)

/-- White space behind a visible text is trimmed. -/
theorem Visible.trim_append {s : CString} (h : Visible s) {space : CString}
    (hspace : ∀ c ∈ space, isCSpace c = true) : trim (s ++ space) = s := by
  -- nothing is trimmed in front, and behind it only the white space
  have hfront : (s ++ space).dropWhile isCSpace = s ++ space := by
    cases s with
    | nil => exact absurd rfl h.ne_nil
    | cons c s =>
      rw [List.cons_append, List.dropWhile_cons_of_neg]
      rw [h.head c rfl]
      exact Bool.false_ne_true
  unfold trim
  rw [hfront, List.rdropWhile, List.reverse_append,
    List.dropWhile_append_of_pos fun c hc => hspace c (List.mem_reverse.mp hc)]
  show s.rdropWhile isCSpace = s
  rw [List.rdropWhile_eq_self_iff]
  intro hne
  rw [h.last _ (List.getLast?_eq_some_getLast hne)]
  exact Bool.false_ne_true

/-! ## 3. Colors -/

theorem not_isCSpace_of_mem_decimal {n : Int} {c : Char} (h : c ∈ decimal n) :
    isCSpace c = false := by
  rcases mem_decimal h with rfl | ⟨d, hd, rfl⟩
  · rfl
  · exact isCSpace_digitChar d hd

theorem visible_decimal (n : Int) : Visible (decimal n) :=
  .of_forall (decimal_ne_nil n) fun _ => not_isCSpace_of_mem_decimal

/-- The colors, with a space between any two. -/
def colorText (rgb : List Int32) : CString :=
  [' '].intercalate (rgb.map fun color => decimal color.toInt)

theorem colorText_cons_cons (a b : Int32) (rgb : List Int32) :
    colorText (a :: b :: rgb) = decimal a.toInt ++ ' ' :: colorText (b :: rgb) := by
  unfold colorText
  rw [List.map_cons, List.map_cons, List.intercalate_cons_cons, List.append_assoc]
  rfl

theorem colorText_singleton (a : Int32) : colorText [a] = decimal a.toInt :=
  List.intercalate_singleton

theorem visible_colorText {rgb : List Int32} (h : rgb ≠ []) : Visible (colorText rgb) := by
  induction rgb with
  | nil => exact absurd rfl h
  | cons a rgb ih =>
    cases rgb with
    | nil =>
      rw [colorText_singleton]
      exact visible_decimal a.toInt
    | cons b rgb =>
      rw [colorText_cons_cons]
      exact (visible_decimal a.toInt).append_cons (ih (List.cons_ne_nil b rgb)) ' '

theorem flatMap_decimal {rgb : List Int32} (h : rgb ≠ []) :
    (rgb.flatMap fun color => decimal color.toInt ++ [' ']) = colorText rgb ++ [' '] := by
  induction rgb with
  | nil => exact absurd rfl h
  | cons a rgb ih =>
    cases rgb with
    | nil => rw [colorText_singleton, List.flatMap_singleton]
    | cons b rgb =>
      rw [List.flatMap_cons, ih (List.cons_ne_nil b rgb), colorText_cons_cons]
      simp only [List.append_assoc, List.cons_append, List.nil_append]

theorem setCalibration_eq {rgb : List Int32} (h : rgb ≠ []) : setCalibration rgb = colorText rgb := by
  unfold setCalibration
  rw [flatMap_decimal h]
  exact (visible_colorText h).trim_append (List.forall_mem_singleton.mpr rfl)

theorem mapM_readInt (rgb : List Int32) :
    (rgb.map fun color => decimal color.toInt).mapM readInt = some rgb := by
  induction rgb with
  | nil => rfl
  | cons a rgb ih =>
    have hread := @readInt_decimal a [] rfl
    rw [List.append_nil] at hread
    rw [List.map_cons, List.mapM_cons, hread, ih]
    rfl

/-- Colors that were set are read back, whatever they are and whatever white space the node shows
behind them; but behind an empty calibration the next look at it throws. -/
theorem getCalibration_setCalibration (rgb : List Int32) {space : CString}
    (hspace : ∀ c ∈ space, isCSpace c = true) :
    getCalibration (some (setCalibration rgb ++ space)) = if rgb = [] then none else some rgb := by
  unfold getCalibration
  dsimp only
  split
  · rename_i hnil
    -- the one part of an empty text is no number
    have htrim : trim (setCalibration rgb ++ space) = [] := by
      rw [hnil]
      unfold trim
      exact congrArg (List.rdropWhile isCSpace) (List.dropWhile_eq_nil_iff.mpr hspace)
    rw [htrim, List.splitOn_nil]
    rfl
  · rename_i hne
    rw [setCalibration_eq hne, (visible_colorText hne).trim_append hspace]
    unfold colorText
    -- the spaces are those between the colors, which contain none
    rw [List.splitOn_intercalate, mapM_readInt]
    · intro l hl hspace
      obtain ⟨color, _, rfl⟩ := List.mem_map.mp hl
      exact absurd (not_isCSpace_of_mem_decimal hspace) (by decide)
    · exact fun hnil => hne (List.map_eq_nil_iff.mp hnil)

theorem getCalibration_setCalibration_newline :
    getCalibration (some (setCalibration [255, 1, 128] ++ ['\n'])) = some [255, 1, 128] :=
  getCalibration_setCalibration [255, 1, 128] (List.forall_mem_singleton.mpr rfl)

end Universal7870.LiveDisplay
