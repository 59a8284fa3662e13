import Mathlib.Algebra.Group.Int.Defs
import Mathlib.Data.List.Infix
import Mathlib.Data.List.TakeWhile
import Mathlib.Logic.Function.Basic

/-!
# The sysfs tree the power HAL works on

Nodes are addressed by their path and hold text.  `set` and `get` are the two stream helpers of
`Power.cpp`: a value is written with a newline behind it, and read back as the first word.
-/

namespace Universal7870.PowerHal

/-- The nodes with their text, the entries of `/sys/class/input/` (the path of each with the
paths of its own entries, in directory order), and the writes issued so far. -/
structure Sysfs where
  nodes : String → Option String
  inputDir : List (String × List String) := []
  writes : List (String × String) := []

/-- White space as `std::isspace` sees it in the C locale. -/
def isSpace (c : Char) : Bool :=
  c == ' ' || ('\t' ≤ c && c ≤ '\r')

/-- What `file >> result` extracts into a `std::string`; empty where the extraction fails. -/
def extractWord (text : String) : String :=
  String.ofList ((text.toList.dropWhile isSpace).takeWhile fun c => !isSpace c)

/-- The digits of a decimal number, most significant first. -/
def digitsValue (ds : List Char) : Nat :=
  ds.foldl (fun n c => 10 * n + (c.toNat - '0'.toNat)) 0

/-- What `file >> result` extracts into an `int32_t`; `none` where the extraction fails, which
includes a number out of range. -/
def extractInt (text : String) : Option Int :=
  let s := text.toList.dropWhile isSpace
  let (negative, s) := match s with
    | '-' :: s => (true, s)
    | '+' :: s => (false, s)
    | s => (false, s)
  let digits := s.takeWhile Char.isDigit
  let value : Int := if negative then -digitsValue digits else digitsValue digits
  if digits ≠ [] ∧ -2 ^ 31 ≤ value ∧ value < 2 ^ 31 then some value else none

namespace Sysfs

def get (fs : Sysfs) (path deflt : String) : String :=
  match fs.nodes path with
  | none => deflt
  | some text => if extractWord text = "" then deflt else extractWord text

def getInt (fs : Sysfs) (path : String) (deflt : Int) : Int :=
  ((fs.nodes path).bind extractInt).getD deflt

/-- Replace the text of a node; sysfs creates no files, so a missing node stays missing. -/
def store (fs : Sysfs) (path text : String) : Sysfs :=
  if (fs.nodes path).isSome then
    { fs with nodes := Function.update fs.nodes path (some text) }
  else fs

def set (fs : Sysfs) (path value : String) : Sysfs :=
  { fs.store path (value ++ "\n") with writes := fs.writes ++ [(path, value)] }

@[simp] theorem store_inputDir (fs : Sysfs) (path text : String) :
    (fs.store path text).inputDir = fs.inputDir := by
  unfold store
  split <;> rfl

@[simp] theorem store_writes (fs : Sysfs) (path text : String) :
    (fs.store path text).writes = fs.writes := by
  unfold store
  split <;> rfl

@[simp] theorem set_writes (fs : Sysfs) (path value : String) :
    (fs.set path value).writes = fs.writes ++ [(path, value)] := rfl

theorem set_nodes (fs : Sysfs) (path value : String) :
    (fs.set path value).nodes = (fs.store path (value ++ "\n")).nodes := rfl

theorem store_nodes_of_ne (fs : Sysfs) {path p : String} (text : String) (h : p ≠ path) :
    (fs.store path text).nodes p = fs.nodes p := by
  unfold store
  split
  · exact Function.update_of_ne h _ _
  · rfl

theorem store_nodes_self (fs : Sysfs) {path : String} (text : String)
    (h : (fs.nodes path).isSome) : (fs.store path text).nodes path = some text := by
  unfold store
  rw [if_pos h]
  exact Function.update_self _ _ _

/-- No node disappears, and none appears. -/
theorem store_isSome (fs : Sysfs) (path text p : String) :
    ((fs.store path text).nodes p).isSome = (fs.nodes p).isSome := by
  by_cases hp : p = path
  · subst hp
    by_cases hs : (fs.nodes p).isSome
    · rw [store_nodes_self fs text hs, hs]
      rfl
    · unfold store
      rw [if_neg hs]
  · rw [store_nodes_of_ne fs text hp]

theorem set_nodes_of_ne (fs : Sysfs) {path p : String} (value : String) (h : p ≠ path) :
    (fs.set path value).nodes p = fs.nodes p :=
  store_nodes_of_ne fs _ h

theorem set_isSome (fs : Sysfs) (path value p : String) :
    ((fs.set path value).nodes p).isSome = (fs.nodes p).isSome :=
  store_isSome fs path _ p

theorem get_congr {fs fs' : Sysfs} {path : String} (deflt : String)
    (h : fs'.nodes path = fs.nodes path) : fs'.get path deflt = fs.get path deflt := by
  unfold get
  rw [h]

theorem isSome_of_get_ne {fs : Sysfs} {path deflt : String} (h : fs.get path deflt ≠ deflt) :
    (fs.nodes path).isSome := by
  unfold get at h
  split at h
  · exact absurd rfl h
  · rename_i text htext
    rw [htext]
    rfl

end Sysfs

/-! ## Words

A word is what an extraction can yield: it holds no white space, so it survives being written
with a newline and read back. -/

def IsWord (w : String) : Prop := ∀ c ∈ w.toList, isSpace c = false

theorem isWord_empty : IsWord "" := by
  intro c hc
  simp at hc

theorem isWord_extractWord (text : String) : IsWord (extractWord text) := by
  intro c hc
  unfold extractWord at hc
  rw [String.toList_ofList] at hc
  simpa using List.mem_takeWhile_imp hc

theorem isWord_get {fs : Sysfs} {path deflt : String} (h : IsWord deflt) :
    IsWord (fs.get path deflt) := by
  unfold Sysfs.get
  split
  · exact h
  · split
    · exact h
    · exact isWord_extractWord _

theorem extractWord_line {w : String} (hw : IsWord w) : extractWord (w ++ "\n") = w := by
  have hnl : ("\n" : String).toList = ['\n'] := rfl
  unfold extractWord
  rw [String.toList_append, hnl]
  have hdrop : (w.toList ++ ['\n']).dropWhile isSpace =
      if w.toList = [] then [] else w.toList ++ ['\n'] := by
    cases hl : w.toList with
    | nil => rfl
    | cons c cs =>
      have hc : isSpace c = false := hw c (by rw [hl]; exact List.mem_cons_self ..)
      rw [List.cons_append, List.dropWhile_cons_of_neg (by rw [hc]; decide), if_neg (by simp)]
  rw [hdrop]
  split
  · rename_i hnil
    rw [List.takeWhile_nil, ← String.toList_inj, hnil]
    rfl
  · have htake : (w.toList ++ ['\n']).takeWhile (fun c => !isSpace c) = w.toList := by
      rw [List.takeWhile_append_of_pos (fun c hc => by simp [hw c hc])]
      have hstop : List.takeWhile (fun c => !isSpace c) ['\n'] = [] := rfl
      rw [hstop, List.append_nil]
    rw [htake, String.ofList_toList]

/-- Writing a word to a node that exists and reading the node yields the word. -/
theorem Sysfs.get_set_self {fs : Sysfs} {path w deflt : String} (hs : (fs.nodes path).isSome)
    (hw : IsWord w) (hne : w ≠ "") : (fs.set path w).get path deflt = w := by
  unfold Sysfs.get
  rw [Sysfs.set_nodes, Sysfs.store_nodes_self fs _ hs]
  simp only [extractWord_line hw]
  rw [if_neg hne]

end Universal7870.PowerHal
