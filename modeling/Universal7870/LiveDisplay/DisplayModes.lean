import Universal7870.Lib.CString
import Universal7870.Lib.Run

/-!
# The display modes

`DisplayModes` keeps the default mode in a member, and in a file that it is read from when the
service starts.  A stream to a file is buffered: whether the file can be opened is looked at, and
whether its text gets there is not.
-/

namespace Universal7870.LiveDisplay

open Lib

/-! ## 1. The code -/

def kModeMap : List (Int32 × String) :=
  [(0, "Dynamic"), (1, "Standard"), (2, "Natural"), (3, "Cinema"), (4, "Adaptive"), (5, "Reading")]

/-- How the output to a file goes: whether it is opened, which empties it, and whether the text gets
there. -/
structure Output where
  opened : Bool
  stored : Bool
  deriving DecidableEq, Repr

/-- The service and its files, which may be missing. -/
structure DisplayModes where
  defaultModeId : Int32 := 0
  /-- `/sys/class/mdnie/mdnie/mode`. -/
  mode : Option CString
  /-- `.displaymodedefault`. -/
  defaultFile : Option CString
  deriving DecidableEq, Repr

namespace DisplayModes

/-- `kModeMap.find(value)`, as the id that is found. -/
def findMode (value : Int32) : Option Int32 := (kModeMap.find? (·.1 = value)).map (·.1)

def setDisplayMode (s : DisplayModes) (modeId : Int32) (makeDefault : Bool)
    (modeFile defaultFile : Output) : Bool × DisplayModes :=
  match findMode modeId with
  | none => (false, s)
  | some id =>
    if ¬modeFile.opened then (false, s)
    else
      -- a node keeps what it shows when nothing is written
      let s := if modeFile.stored then { s with mode := some (decimal id.toInt) } else s
      if makeDefault then
        if ¬defaultFile.opened then (false, s)
        else
          (true, { s with
            defaultFile := some (if defaultFile.stored then decimal id.toInt else [])
            defaultModeId := id })
      else (true, s)

/-- The constructor. -/
def start (mode defaultFile : Option CString) (modeFile : Output) : DisplayModes :=
  let s : DisplayModes := { mode := mode, defaultFile := defaultFile }
  match defaultFile.bind readInt with
  | none => s
  | some value =>
    let s := { s with defaultModeId := (findMode value).getD s.defaultModeId }
    -- an id that is not known leaves the default one, which is set all the same
    (s.setDisplayMode s.defaultModeId false modeFile ⟨false, false⟩).2

/-- A mode with its name; `none` where `kModeMap.at` throws. -/
def at? (id : Int32) : Option (Int32 × String) := kModeMap.find? (·.1 = id)

def getDefaultDisplayMode (s : DisplayModes) : Option (Int32 × String) := at? s.defaultModeId

def getCurrentDisplayMode (s : DisplayModes) : Option (Int32 × String) :=
  match s.mode.bind readInt with
  | none => at? s.defaultModeId
  | some value => at? ((findMode value).getD s.defaultModeId)

inductive Event
  | setDisplayMode (modeId : Int32) (makeDefault : Bool) (modeFile defaultFile : Output)
  | restart (modeFile : Output)
  /-- The panel shows another mode, or none. -/
  | panel (mode : Option CString)
  deriving DecidableEq, Repr

def step (s : DisplayModes) : Event → DisplayModes
  | .setDisplayMode modeId makeDefault modeFile defaultFile =>
    (s.setDisplayMode modeId makeDefault modeFile defaultFile).2
  | .restart modeFile => start s.mode s.defaultFile modeFile
  | .panel mode => { s with mode := mode }

/-! ## 2. The default mode -/

/-- The mode that the service starts with. -/
def storedDefault (defaultFile : Option CString) : Int32 :=
  ((defaultFile.bind readInt).bind findMode).getD 0

/-- The default mode survives the service. -/
def Kept (s : DisplayModes) : Prop := s.defaultModeId = storedDefault s.defaultFile

/-- The text of a default mode that was accepted gets into the file, or the mode is that of an empty
one. -/
def Event.Stored : Event → Prop
  | .setDisplayMode modeId true modeFile defaultFile =>
    modeFile.opened = true → defaultFile.opened = true → (findMode modeId).isSome = true →
      defaultFile.stored = true ∨ modeId = 0
  | _ => True

variable {s : DisplayModes}

theorem findMode_eq_some {value id : Int32} (h : findMode value = some id) : id = value := by
  obtain ⟨entry, hentry, rfl⟩ := Option.map_eq_some_iff.mp h
  have hid := List.find?_some hentry
  exact of_decide_eq_true hid

theorem findMode_zero : findMode 0 = some 0 := by decide

theorem setDisplayMode_default (modeId : Int32) (modeFile defaultFile : Output) :
    (s.setDisplayMode modeId false modeFile defaultFile).2.defaultModeId = s.defaultModeId ∧
      (s.setDisplayMode modeId false modeFile defaultFile).2.defaultFile = s.defaultFile := by
  unfold setDisplayMode
  split
  · exact ⟨rfl, rfl⟩
  · split
    · exact ⟨rfl, rfl⟩
    · dsimp only
      rw [if_neg Bool.false_ne_true]
      split <;> exact ⟨rfl, rfl⟩

theorem start_default (mode defaultFile : Option CString) (modeFile : Output) :
    (start mode defaultFile modeFile).defaultModeId = storedDefault defaultFile ∧
      (start mode defaultFile modeFile).defaultFile = defaultFile := by
  unfold start storedDefault
  dsimp only
  cases defaultFile.bind readInt with
  | none => exact ⟨rfl, rfl⟩
  | some value =>
    obtain ⟨hdefault, hfile⟩ := setDisplayMode_default
      (s := { mode := mode, defaultFile := defaultFile, defaultModeId := (findMode value).getD 0 })
      ((findMode value).getD 0) modeFile ⟨false, false⟩
    exact ⟨hdefault, hfile⟩

theorem storedDefault_decimal {id : Int32} (h : findMode id = some id) :
    storedDefault (some (decimal id.toInt)) = id := by
  have hread := @readInt_decimal id [] rfl
  rw [List.append_nil] at hread
  unfold storedDefault
  rw [Option.bind_some, hread, Option.bind_some, h]
  rfl

theorem storedDefault_empty : storedDefault (some []) = 0 := rfl

/-- A call that makes a mode the default one keeps it exactly when the text gets into the file. -/
theorem Kept.setDisplayMode_iff (h : s.Kept) (modeId : Int32) (modeFile defaultFile : Output) :
    (s.setDisplayMode modeId true modeFile defaultFile).2.Kept ↔
      (Event.setDisplayMode modeId true modeFile defaultFile).Stored := by
  unfold Event.Stored setDisplayMode
  cases hfind : findMode modeId with
  | none => exact iff_of_true h fun _ _ hsome => by rw [hfind] at hsome; cases hsome
  | some id =>
    obtain rfl := findMode_eq_some hfind
    dsimp only
    by_cases hmode : modeFile.opened = true
    · rw [if_neg (not_not.mpr hmode), if_pos rfl]
      by_cases hdefault : defaultFile.opened = true
      · rw [if_neg (not_not.mpr hdefault)]
        unfold Kept
        dsimp only
        cases defaultFile.stored with
        | true =>
          -- the id is read back from its text
          rw [if_pos rfl, storedDefault_decimal hfind]
          exact iff_of_true rfl fun _ _ _ => .inl rfl
        | false =>
          -- the file is empty, and a restart takes mode 0
          rw [if_neg Bool.false_ne_true, storedDefault_empty]
          constructor
          · exact fun hzero _ _ _ => .inr hzero
          · intro hstored
            rcases hstored hmode hdefault (by rw [hfind]; rfl) with hlost | hzero
            · cases hlost
            · exact hzero
      · rw [if_pos hdefault]
        -- the panel has changed already, the default mode has not
        refine iff_of_true ?_ fun _ hopened => absurd hopened hdefault
        split
        · exact h
        · exact h
    · rw [if_pos hmode]
      exact iff_of_true h fun hopened => absurd hopened hmode

theorem Kept.step_iff (h : s.Kept) (e : Event) : (s.step e).Kept ↔ e.Stored := by
  cases e with
  | setDisplayMode modeId makeDefault modeFile defaultFile =>
    cases makeDefault with
    | true => exact h.setDisplayMode_iff modeId modeFile defaultFile
    | false =>
      obtain ⟨hdefault, hfile⟩ := setDisplayMode_default (s := s) modeId modeFile defaultFile
      refine iff_of_true ?_ trivial
      show (s.setDisplayMode modeId false modeFile defaultFile).2.Kept
      unfold Kept
      rw [hdefault, hfile]
      exact h
  | restart modeFile =>
    obtain ⟨hdefault, hfile⟩ := start_default s.mode s.defaultFile modeFile
    refine iff_of_true ?_ trivial
    show (start s.mode s.defaultFile modeFile).Kept
    unfold Kept
    rw [hdefault, hfile]
  | panel mode => exact iff_of_true h trivial

/-! ## 3. What the service answers -/

/-- The default mode has an entry. -/
def Listed (s : DisplayModes) : Prop := findMode s.defaultModeId = some s.defaultModeId

theorem findMode_getD {value id : Int32} (h : findMode id = some id) :
    findMode ((findMode value).getD id) = some ((findMode value).getD id) := by
  cases hfind : findMode value with
  | none => exact h
  | some found =>
    obtain rfl := findMode_eq_some hfind
    exact hfind

theorem start_listed (mode defaultFile : Option CString) (modeFile : Output) :
    (start mode defaultFile modeFile).Listed := by
  unfold Listed
  rw [(start_default mode defaultFile modeFile).1]
  unfold storedDefault
  cases defaultFile.bind readInt with
  | none => exact findMode_zero
  | some value => exact findMode_getD findMode_zero

theorem step_listed (h : s.Listed) (e : Event) : (s.step e).Listed := by
  cases e with
  | setDisplayMode modeId makeDefault modeFile defaultFile =>
    cases makeDefault with
    | true =>
      show (s.setDisplayMode modeId true modeFile defaultFile).2.Listed
      unfold setDisplayMode
      cases hfind : findMode modeId with
      | none => exact h
      | some id =>
        obtain rfl := findMode_eq_some hfind
        dsimp only
        rw [if_pos rfl]
        split
        · exact h
        · split
          · split
            · exact h
            · exact h
          · exact hfind
    | false =>
      show (s.setDisplayMode modeId false modeFile defaultFile).2.Listed
      unfold Listed
      rw [(setDisplayMode_default (s := s) modeId modeFile defaultFile).1]
      exact h
  | restart modeFile => exact start_listed s.mode s.defaultFile modeFile
  | panel mode => exact h

theorem at?_of_findMode {id : Int32} (h : findMode id = some id) : ∃ name, at? id = some (id, name) := by
  obtain ⟨entry, hentry, hid⟩ := Option.map_eq_some_iff.mp h
  unfold at?
  rw [hentry, ← hid]
  exact ⟨entry.2, rfl⟩

/-- A default mode that is listed is answered, and as the current one where the panel's node does not
read as a known mode. -/
theorem Listed.answers (h : s.Listed) :
    (∃ name, s.getDefaultDisplayMode = some (s.defaultModeId, name)) ∧
    ∃ name, s.getCurrentDisplayMode =
      some (((s.mode.bind readInt).bind findMode).getD s.defaultModeId, name) := by
  refine ⟨at?_of_findMode h, ?_⟩
  unfold getCurrentDisplayMode
  cases s.mode.bind readInt with
  | none => exact at?_of_findMode h
  | some value => exact at?_of_findMode (findMode_getD h)

/-- However modes are set, whatever the panel shows and however often the service restarts: the
service answers with modes that it knows, the current one being that of the panel whenever its node
reads as one of them, and the default one otherwise; and a restart would find the default mode
again, at every time, exactly if the text of each new default mode got into the file, of which only
the opening is looked at. -/
theorem default_kept_iff (mode defaultFile : Option CString) (modeFile : Output)
    (events : List Event) :
    ((∀ n, ((events.take n).foldl step (start mode defaultFile modeFile)).Kept) ↔
      ∀ (n : Nat) (e : Event), events[n]? = some e → e.Stored) ∧
    (∃ name, (events.foldl step (start mode defaultFile modeFile)).getDefaultDisplayMode =
      some ((events.foldl step (start mode defaultFile modeFile)).defaultModeId, name)) ∧
    ∃ name, (events.foldl step (start mode defaultFile modeFile)).getCurrentDisplayMode =
      some ((((events.foldl step (start mode defaultFile modeFile)).mode.bind readInt).bind
        findMode).getD (events.foldl step (start mode defaultFile modeFile)).defaultModeId, name) := by
  have hstart : (start mode defaultFile modeFile).Kept := by
    obtain ⟨hdefault, hfile⟩ := start_default mode defaultFile modeFile
    unfold Kept
    rw [hdefault, hfile]
  have hlisted : (events.foldl step (start mode defaultFile modeFile)).Listed := by
    refine List.foldlRecOn events step (start_listed mode defaultFile modeFile) ?_
    exact fun s hs e _ => step_listed hs e
  exact ⟨forall_take_iff (fun s e hs => hs.step_iff e) hstart events, hlisted.answers⟩

end DisplayModes

end Universal7870.LiveDisplay
