import Universal7870.PowerHal.Profile

/-!
# Touch keys across screen off and on

What `setInteractive` owes the touch keys over whole runs of calls, while other components write
their node: they are off behind a screen-off, and the next screen-on gives back what there was.  The
HAL remembers in one flag that the keys were disabled by someone else, and never takes it back.
-/

namespace Universal7870.PowerHal

open Lib

/-! ## 1. What is owed to the keys -/

/-- The service as it is behind the initialisation that its first call begins with. -/
def Service.initialised (fs : Sysfs) : Service :=
  { power := ({} : Power).initializePower fs, sysfs := fs }

/-- What the touch key node reads, or -1. -/
def Service.buttonState (s : Service) : Int := s.sysfs.getInt s.power.secTouchkey (-1)

def Service.panelLit (node : String) (s : Service) : Prop := 0 < s.sysfs.getInt node (-1)

instance (node : String) (s : Service) : Decidable (s.panelLit node) :=
  inferInstanceAs (Decidable (_ < _))

/-- What a call owes the touch keys when it returns. -/
inductive Owed
  | disabled
  | enabledIff (before : Bool)
  deriving DecidableEq, Repr

/-- The service, whether the keys were enabled just before the screen-off that lasts (if one does),
and what the last call owes them. -/
structure TouchkeyRun where
  service : Service
  before : Option Bool := none
  owed : Option Owed := none

namespace TouchkeyRun

/-- A screen-off begins with the first `setInteractive(false)` that finds the panel dark, and lasts
until `setInteractive(true)`. -/
def beforeAfter (node : String) (s : TouchkeyRun) : Call → Option Bool
  | .setInteractive false =>
    if s.service.panelLit node then s.before
    else some (s.before.getD (decide (0 < s.service.buttonState)))
  | .setInteractive true => none
  | _ => s.before

def owedAfter (node : String) (s : TouchkeyRun) : Call → Option Owed
  | .setInteractive false => if s.service.panelLit node then none else some .disabled
  | .setInteractive true => s.before.map .enabledIff
  | _ => none

def step (node : String) (s : TouchkeyRun) (c : Call) : Option TouchkeyRun :=
  (s.service.step node c).map fun service =>
    { service := service, before := s.beforeAfter node c, owed := s.owedAfter node c }

def start (fs : Sysfs) : TouchkeyRun := { service := .initialised fs }

/-- The touch keys are what the last call owes. -/
def Paid (s : TouchkeyRun) : Prop :=
  match s.owed with
  | none => True
  | some .disabled => s.service.buttonState = 0
  | some (.enabledIff before) => 0 < s.service.buttonState ↔ before = true

/-- The calls that meet the HAL in a state it handles right.  With the panel dark the node can be
read, and enabled keys come with no block on record.  Behind a screen-off that found the keys
enabled there is no block on record, or someone has enabled them meanwhile; behind one that found
them disabled, no one has. -/
def FindsFlagRight (node : String) (s : TouchkeyRun) : Call → Prop
  | .setInteractive false =>
    s.service.panelLit node ∨ 0 ≤ s.service.buttonState ∧
      (0 < s.service.buttonState → s.service.power.touchkeysBlocked = false)
  | .setInteractive true =>
    (s.before = some true → s.service.power.touchkeysBlocked = true → 0 < s.service.buttonState) ∧
      (s.before = some false → ¬0 < s.service.buttonState)
  | _ => True

end TouchkeyRun

/-! ## 2. The node -/

/-- The nodes outside the input devices that the HAL writes. -/
def cpuNodes : List String :=
  cpuSysfsPaths.map scalingMaxFreq ++ [boostNode, boostpulseNode] ++
    cpuInteractivePaths.map fun path => path ++ "/io_is_busy"

def inputPrefix : String := "/sys/class/input/input"

theorem not_mem_cpuNodes {path : String} (h : contains path inputPrefix = true) :
    path ∉ cpuNodes := by
  intro hmem
  have hcpu : ∀ n ∈ cpuNodes, contains n inputPrefix = false := by decide +kernel
  rw [hcpu path hmem] at h
  cases h

theorem contains_append {a part : String} (h : contains a part = true) (b : String) :
    contains (a ++ b) part = true := by
  unfold contains at h ⊢
  rw [String.toList_append]
  have hpart := of_decide_eq_true h
  exact decide_eq_true (hpart.trans (List.prefix_append _ _).isInfix)

/-- The touch key node is none, or one of an input device. -/
def Power.KeyFromInput (p : Power) : Prop :=
  p.secTouchkey = "" ∨ contains p.secTouchkey inputPrefix = true

theorem inspectInputFile_keyFromInput {p : Power} (fs : Sysfs) {device : String} (file : String)
    (hdevice : contains device inputPrefix = true) (h : p.KeyFromInput) :
    (Power.inspectInputFile fs device p file).KeyFromInput := by
  unfold Power.inspectInputFile
  split
  · dsimp only
    split
    · exact .inr (contains_append hdevice "/enabled")
    · split
      · exact h
      · exact h
  · exact h

theorem findInputNodes_keyFromInput {p : Power} (fs : Sysfs) (h : p.KeyFromInput) :
    (p.findInputNodes fs).KeyFromInput := by
  unfold Power.findInputNodes
  refine foldl_preserves (P := Power.KeyFromInput) (fun q entry hq => ?_) _ h
  split
  · rename_i hdevice
    exact foldl_preserves (P := Power.KeyFromInput)
      (fun r file hr => inspectInputFile_keyFromInput fs file hdevice hr) _ hq
  · exact hq

theorem Sysfs.getInt_congr {fs fs' : Sysfs} {path : String} (deflt : Int)
    (h : fs'.nodes path = fs.nodes path) : fs'.getInt path deflt = fs.getInt path deflt := by
  unfold Sysfs.getInt
  rw [h]

theorem Sysfs.getInt_set_flag {fs : Sysfs} {path : String} (hs : (fs.nodes path).isSome)
    (deflt : Int) (interactive : Bool) :
    (fs.set path (flag interactive)).getInt path deflt = if interactive then 1 else 0 := by
  unfold Sysfs.getInt
  rw [Sysfs.set_nodes, Sysfs.store_nodes_self fs _ hs]
  cases interactive
  · rfl
  · rfl

/-! ## 3. What a call does to the node and the flag -/

section

variable {p : Power} {fs : Sysfs} {key : String}

theorem setIoIsBusy_nodes (hkey : key ∉ cpuNodes) (interactive : Bool) :
    (Power.setIoIsBusy fs interactive).nodes key = fs.nodes key := by
  unfold cpuNodes cpuInteractivePaths at hkey
  simp only [List.mem_append, List.map_cons, List.map_nil, List.mem_cons, not_or] at hkey
  unfold Power.setIoIsBusy cpuInteractivePaths
  rw [List.foldl_cons, List.foldl_cons, List.foldl_nil, Sysfs.set_nodes_of_ne _ _ hkey.2.2.1,
    Sysfs.set_nodes_of_ne _ _ hkey.2.1]

theorem setMaxFreqs_nodes (hkey : key ∉ cpuNodes) (freqs : List String) :
    (Power.setMaxFreqs freqs fs).nodes key = fs.nodes key := by
  refine foldl_setMaxFreq_nodes_of_ne _ fs fun c hc hsame => hkey ?_
  rw [hsame]
  exact List.mem_append_left _ (List.mem_append_left _
    (List.mem_map_of_mem (List.of_mem_zip hc).1))

theorem setProfile_spec (hkey : key ∉ cpuNodes) (profile : PowerProfile) :
    (p.setProfile fs profile).1 = p ∧ (p.setProfile fs profile).2.nodes key = fs.nodes key := by
  unfold Power.setProfile
  split
  · exact ⟨rfl, rfl⟩
  · split
    · exact ⟨rfl, setMaxFreqs_nodes hkey _⟩
    · exact ⟨rfl, setMaxFreqs_nodes hkey _⟩
    · exact ⟨rfl, setMaxFreqs_nodes hkey _⟩
    · exact ⟨rfl, rfl⟩

/-- A hint leaves the touch keys alone. -/
theorem powerHint_spec (fs : Sysfs) (hready : p.initialized = true) (hkey : key ∉ cpuNodes)
    (hint : PowerHint) (data : Int) :
    (p.powerHint fs hint data).1 = p ∧ (p.powerHint fs hint data).2.nodes key = fs.nodes key := by
  have hboost : key ≠ boostNode := by
    intro hsame
    exact hkey (hsame ▸ by decide)
  have hpulse : key ≠ boostpulseNode := by
    intro hsame
    exact hkey (hsame ▸ by decide)
  unfold Power.powerHint Power.ensureInitialized
  rw [if_pos hready]
  dsimp only
  split
  · exact ⟨rfl, rfl⟩
  · split
    · exact ⟨rfl, Sysfs.set_nodes_of_ne _ _ hpulse⟩
    · exact ⟨rfl, Sysfs.set_nodes_of_ne _ _ hpulse⟩
    · exact setProfile_spec hkey _
    · exact setProfile_spec hkey _
    · refine ⟨rfl, ?_⟩
      unfold Power.sendBoost
      rw [Sysfs.set_nodes_of_ne _ _ hboost, Sysfs.set_nodes_of_ne _ _ hboost]
    · exact ⟨rfl, rfl⟩

theorem setTouchscreen_nodes (hapart : p.secTouchscreen ≠ key) (interactive : Bool) :
    (p.setTouchscreen fs interactive).nodes key = fs.nodes key := by
  unfold Power.setTouchscreen
  split
  · rfl
  · exact Sysfs.set_nodes_of_ne _ _ hapart.symm

theorem setTouchkey_on (hkey : p.secTouchkey ≠ "") (hnode : (fs.nodes p.secTouchkey).isSome) :
    (p.setTouchkey fs true).1 = p ∧
      (p.setTouchkey fs true).2.getInt p.secTouchkey (-1) =
        if p.touchkeysBlocked then fs.getInt p.secTouchkey (-1) else 1 := by
  unfold Power.setTouchkey
  rw [if_neg hkey, if_pos rfl]
  refine ⟨rfl, ?_⟩
  cases p.touchkeysBlocked with
  | true => rfl
  | false => exact Sysfs.getInt_set_flag hnode (-1) true

/-- On the way off: a node that reads 0 sets the flag, and the flag keeps the node from being
written. -/
theorem setTouchkey_off (hkey : p.secTouchkey ≠ "") (hnode : (fs.nodes p.secTouchkey).isSome)
    (hread : 0 ≤ fs.getInt p.secTouchkey (-1)) :
    (p.setTouchkey fs false).1 = { p with
        touchkeysBlocked := p.touchkeysBlocked || decide (fs.getInt p.secTouchkey (-1) = 0) } ∧
      (p.setTouchkey fs false).2.getInt p.secTouchkey (-1) =
        if p.touchkeysBlocked then fs.getInt p.secTouchkey (-1) else 0 := by
  unfold Power.setTouchkey
  rw [if_neg hkey, if_neg Bool.false_ne_true]
  dsimp only
  rw [if_neg (by omega)]
  by_cases hzero : fs.getInt p.secTouchkey (-1) = 0
  · rw [if_pos hzero]
    dsimp only
    rw [if_pos rfl, hzero, decide_eq_true rfl, Bool.or_true, ite_self]
    exact ⟨rfl, rfl⟩
  · rw [if_neg hzero, decide_eq_false hzero, Bool.or_false]
    refine ⟨rfl, ?_⟩
    cases p.touchkeysBlocked with
    | true => rfl
    | false => exact Sysfs.getInt_set_flag hnode (-1) false

theorem setTouchkey_unreadable (hkey : p.secTouchkey ≠ "")
    (hread : fs.getInt p.secTouchkey (-1) < 0) : p.setTouchkey fs false = (p, fs) := by
  unfold Power.setTouchkey
  rw [if_neg hkey, if_neg Bool.false_ne_true]
  exact if_pos hread

end

/-! ## 4. Steps -/

theorem setTouchkey_isSome (p : Power) (fs : Sysfs) (interactive : Bool) (path : String) :
    ((p.setTouchkey fs interactive).2.nodes path).isSome = (fs.nodes path).isSome := by
  have hwrite : ∀ b : Bool, ((if b then fs else fs.set p.secTouchkey
      (PowerHal.flag interactive)).nodes path).isSome = (fs.nodes path).isSome := by
    intro b
    split
    · rfl
    · exact Sysfs.set_isSome ..
  unfold Power.setTouchkey
  split
  · rfl
  · split
    · exact hwrite _
    · dsimp only
      split
      · rfl
      · split
        · exact hwrite _
        · exact hwrite _

namespace TouchkeyRun

variable {node : String} {s t : TouchkeyRun} {c : Call}

/-- The HAL has found a touch key node, which is there and is not the touch screen's. -/
structure Ready (s : TouchkeyRun) : Prop where
  initialized : s.service.power.initialized = true
  key : s.service.power.secTouchkey ≠ ""
  exists_ : (s.service.sysfs.nodes s.service.power.secTouchkey).isSome
  apart : s.service.power.secTouchscreen ≠ s.service.power.secTouchkey
  cpu : s.service.power.secTouchkey ∉ cpuNodes

/-- A screen-off that found the keys disabled has set the flag. -/
def Flagged (s : TouchkeyRun) : Prop :=
  s.before = some false → s.service.power.touchkeysBlocked = true

structure Good (s : TouchkeyRun) : Prop where
  ready : s.Ready
  flagged : s.Flagged
  paid : s.Paid

/-- Nothing but the flag of the HAL changes, and the node stays there. -/
theorem ready_of_frame {p : Power} {fs : Sysfs} (hs : s.Ready)
    (hsame : s.service.power.SameButBlocked p)
    (hnode : (fs.nodes s.service.power.secTouchkey).isSome =
      (s.service.sysfs.nodes s.service.power.secTouchkey).isSome)
    (htpower : t.service.power = p) (htfs : t.service.sysfs = fs) : t.Ready := by
  obtain ⟨b, rfl⟩ := hsame
  have hnode' := hnode.trans hs.exists_
  rw [← htfs] at hnode'
  constructor
  · rw [htpower]
    exact hs.initialized
  · rw [htpower]
    exact hs.key
  · rw [htpower]
    exact hnode'
  · rw [htpower]
    exact hs.apart
  · rw [htpower]
    exact hs.cpu

theorem step_eq (hstep : s.step node c = some t) :
    ∃ r, s.service.handle node c = some r ∧ t.service.power = r.1 ∧ t.service.sysfs = r.2 ∧
      t.before = s.beforeAfter node c ∧ t.owed = s.owedAfter node c := by
  obtain ⟨service, hservice, rfl⟩ := Option.map_eq_some_iff.mp hstep
  obtain ⟨r, hr, rfl⟩ := Option.map_eq_some_iff.mp hservice
  exact ⟨r, hr, rfl, rfl, rfl, rfl⟩

/-- What `setInteractive` leaves in the node is what its touch key part does. -/
theorem setInteractive_eq (node : String) (hs : s.Ready) (interactive : Bool) :
    (¬(interactive = false ∧ s.service.panelLit node) →
      (s.service.power.setInteractive node s.service.sysfs interactive).1 =
        (s.service.power.setTouchkey
          (s.service.power.setTouchscreen s.service.sysfs interactive) interactive).1 ∧
      (s.service.power.setInteractive node s.service.sysfs interactive).2.nodes
        s.service.power.secTouchkey =
        (s.service.power.setTouchkey
          (s.service.power.setTouchscreen s.service.sysfs interactive) interactive).2.nodes
            s.service.power.secTouchkey) ∧
    (interactive = false ∧ s.service.panelLit node →
      (s.service.power.setInteractive node s.service.sysfs interactive).1 = s.service.power ∧
      (s.service.power.setInteractive node s.service.sysfs interactive).2.nodes
        s.service.power.secTouchkey = s.service.sysfs.nodes s.service.power.secTouchkey) := by
  have hcond : (!interactive && decide (0 < s.service.sysfs.getInt node (-1))) = true ↔
      interactive = false ∧ s.service.panelLit node := by
    rw [Bool.and_eq_true, Bool.not_eq_true', decide_eq_true_iff]
    exact Iff.rfl
  unfold Power.setInteractive Power.ensureInitialized
  rw [if_pos hs.initialized]
  dsimp only
  constructor
  · intro hdark
    rw [if_neg fun h => hdark (hcond.mp h)]
    exact ⟨rfl, setIoIsBusy_nodes hs.cpu interactive⟩
  · intro hlit
    rw [if_pos (hcond.mpr hlit)]
    exact ⟨rfl, setIoIsBusy_nodes hs.cpu interactive⟩

theorem ready_setInteractive (hs : s.Ready) (interactive : Bool) {r : Power × Sysfs}
    (hr : s.service.power.setInteractive node s.service.sysfs interactive = r)
    (hpower : t.service.power = r.1) (hfs : t.service.sysfs = r.2) : t.Ready := by
  subst hr
  obtain ⟨hdark, hlit⟩ := setInteractive_eq node hs interactive
  by_cases hcase : interactive = false ∧ s.service.panelLit node
  · obtain ⟨hp, hn⟩ := hlit hcase
    refine ready_of_frame hs ⟨s.service.power.touchkeysBlocked, hp⟩ ?_ hpower hfs
    rw [hn]
  · obtain ⟨hp, hn⟩ := hdark hcase
    have hlimit : NotLimit s.service.power.secTouchkey := fun hmem =>
      hs.cpu (List.mem_append_left _ (List.mem_append_left _ hmem))
    have hsame := (setTouchkey_frame
      (s.service.power.setTouchscreen s.service.sysfs interactive) interactive hlimit).1
    rw [← hp] at hsame
    refine ready_of_frame hs hsame ?_ hpower hfs
    rw [hn, setTouchkey_isSome, setTouchscreen_nodes hs.apart]

theorem ready_step (hs : s.Ready) (hstep : s.step node c = some t) : t.Ready := by
  obtain ⟨r, hr, hpower, hfs, -, -⟩ := step_eq hstep
  have hself : s.service.power.SameButBlocked s.service.power := ⟨_, rfl⟩
  cases c with
  | powerHint hint data =>
    obtain rfl := Option.some.inj hr
    obtain ⟨hp, hn⟩ := powerHint_spec s.service.sysfs hs.initialized hs.cpu hint data
    refine ready_of_frame hs ⟨s.service.power.touchkeysBlocked, hp⟩ ?_ hpower hfs
    rw [hn]
  | setInteractive interactive => exact ready_setInteractive hs interactive (Option.some.inj hr) hpower hfs
  | other path text =>
    unfold Service.handle at hr
    dsimp only at hr
    split at hr
    · cases hr
    · obtain rfl := Option.some.inj hr
      exact ready_of_frame hs hself (Sysfs.store_isSome ..) hpower hfs

theorem buttonState_eq {p : Power} {fs fs' : Sysfs} (hkey : p.secTouchkey = s.service.power.secTouchkey)
    (hpower : t.service.power = p) (hfs : t.service.sysfs = fs)
    (hnodes : fs.nodes s.service.power.secTouchkey = fs'.nodes s.service.power.secTouchkey) :
    t.service.buttonState = fs'.getInt s.service.power.secTouchkey (-1) := by
  unfold Service.buttonState
  rw [hpower, hfs, hkey]
  exact Sysfs.getInt_congr (-1) hnodes

theorem buttonState_touchscreen (hs : s.Ready) (interactive : Bool) :
    (s.service.power.setTouchscreen s.service.sysfs interactive).getInt
      s.service.power.secTouchkey (-1) = s.service.buttonState :=
  Sysfs.getInt_congr (-1) (setTouchscreen_nodes hs.apart interactive)

theorem touchkey_touchscreen (hs : s.Ready) (interactive : Bool) :
    ((s.service.power.setTouchscreen s.service.sysfs interactive).nodes
      s.service.power.secTouchkey).isSome := by
  rw [setTouchscreen_nodes hs.apart]
  exact hs.exists_

/-- A screen-on enables the keys, unless the flag is set. -/
theorem on_spec (hs : s.Ready) (hstep : s.step node (.setInteractive true) = some t) :
    t.service.buttonState =
      if s.service.power.touchkeysBlocked then s.service.buttonState else 1 := by
  obtain ⟨r, hr, hpower, hfs, -, -⟩ := step_eq hstep
  obtain rfl := Option.some.inj hr
  obtain ⟨hp, hn⟩ := (setInteractive_eq node hs true).1 nofun
  obtain ⟨hsame, hread⟩ := setTouchkey_on hs.key (touchkey_touchscreen hs true)
  rw [buttonState_eq (by rw [hp, hsame]) hpower hfs hn, hread, buttonState_touchscreen hs]

/-- A screen-off disables the keys, unless the flag was set before. -/
theorem off_spec (hs : s.Ready) (hdark : ¬s.service.panelLit node)
    (hread : 0 ≤ s.service.buttonState) (hstep : s.step node (.setInteractive false) = some t) :
    t.service.power.touchkeysBlocked =
        (s.service.power.touchkeysBlocked || decide (s.service.buttonState = 0)) ∧
      t.service.buttonState =
        if s.service.power.touchkeysBlocked then s.service.buttonState else 0 := by
  obtain ⟨r, hr, hpower, hfs, -, -⟩ := step_eq hstep
  obtain rfl := Option.some.inj hr
  obtain ⟨hp, hn⟩ := (setInteractive_eq node hs false).1 fun h => hdark h.2
  have hsame := buttonState_touchscreen hs false
  obtain ⟨hflag, hvalue⟩ := setTouchkey_off hs.key (touchkey_touchscreen hs false)
    (by rw [hsame]; exact hread)
  rw [hsame] at hflag hvalue
  constructor
  · rw [hpower, hp, hflag]
  · rw [buttonState_eq (by rw [hp, hflag]) hpower hfs hn, hvalue]

theorem off_unreadable (hs : s.Ready) (hdark : ¬s.service.panelLit node)
    (hread : s.service.buttonState < 0) (hstep : s.step node (.setInteractive false) = some t) :
    t.service.buttonState = s.service.buttonState := by
  obtain ⟨r, hr, hpower, hfs, -, -⟩ := step_eq hstep
  obtain rfl := Option.some.inj hr
  obtain ⟨hp, hn⟩ := (setInteractive_eq node hs false).1 fun h => hdark h.2
  have hsame := buttonState_touchscreen hs false
  have hkept := setTouchkey_unreadable hs.key (by rw [hsame]; exact hread)
  rw [hkept] at hp hn
  rw [buttonState_eq (by rw [hp]) hpower hfs hn, hsame]

theorem flag_of_other (hs : s.Ready) (hstep : s.step node c = some t)
    (hkind : c ≠ .setInteractive true)
    (hlit : c = .setInteractive false → s.service.panelLit node) :
    t.service.power.touchkeysBlocked = s.service.power.touchkeysBlocked ∧
      t.before = s.before ∧ t.owed = none := by
  obtain ⟨r, hr, hpower, hfs, hbefore, howed⟩ := step_eq hstep
  rw [hpower, hbefore, howed]
  cases c with
  | powerHint hint data =>
    obtain rfl := Option.some.inj hr
    rw [(powerHint_spec s.service.sysfs hs.initialized hs.cpu hint data).1]
    exact ⟨rfl, rfl, rfl⟩
  | setInteractive interactive =>
    cases interactive with
    | true => exact absurd rfl hkind
    | false =>
      obtain rfl := Option.some.inj hr
      rw [((setInteractive_eq node hs false).2 ⟨rfl, hlit rfl⟩).1]
      exact ⟨rfl, if_pos (hlit rfl), if_pos (hlit rfl)⟩
  | other path text =>
    unfold Service.handle at hr
    dsimp only at hr
    split at hr
    · cases hr
    · obtain rfl := Option.some.inj hr
      exact ⟨rfl, rfl, rfl⟩

/-! ## 5. What each call pays -/

theorem paid_on (hs : s.Good) (hstep : s.step node (.setInteractive true) = some t) :
    (t.Paid ↔ s.FindsFlagRight node (.setInteractive true)) ∧ (t.Paid → t.Good) := by
  obtain ⟨-, -, -, -, hbefore, howed⟩ := step_eq hstep
  have hvalue := on_spec hs.ready hstep
  have hflagged : t.Flagged := by
    unfold Flagged
    rw [hbefore]
    nofun
  have hset := hs.flagged
  refine ⟨?_, fun h => ⟨ready_step hs.ready hstep, hflagged, h⟩⟩
  unfold Paid FindsFlagRight
  rw [howed, hvalue]
  unfold owedAfter
  unfold Flagged at hset
  cases hoff : s.before with
  | none => exact iff_of_true trivial ⟨nofun, nofun⟩
  | some enabled =>
    cases enabled with
    | true =>
      cases s.service.power.touchkeysBlocked with
      | true => simp
      | false => simp
    | false =>
      rw [hset hoff]
      simp

theorem paid_off (hs : s.Good) (hdark : ¬s.service.panelLit node)
    (hstep : s.step node (.setInteractive false) = some t) :
    (t.Paid ↔ s.FindsFlagRight node (.setInteractive false)) ∧ (t.Paid → t.Good) := by
  obtain ⟨-, -, -, -, hbefore, howed⟩ := step_eq hstep
  have hbefore' : t.before = some (s.before.getD (decide (0 < s.service.buttonState))) :=
    hbefore.trans (if_neg hdark)
  have hpaid : t.Paid ↔ t.service.buttonState = 0 := by
    unfold Paid
    rw [howed.trans (if_neg hdark)]
  have hok : s.FindsFlagRight node (.setInteractive false) ↔ 0 ≤ s.service.buttonState ∧
      (0 < s.service.buttonState → s.service.power.touchkeysBlocked = false) := or_iff_right hdark
  rw [hok, hpaid]
  by_cases hread : 0 ≤ s.service.buttonState
  · obtain ⟨hflag, hvalue⟩ := off_spec hs.ready hdark hread hstep
    have hflagged : t.Flagged := by
      intro hfalse
      rw [hbefore'] at hfalse
      rw [hflag]
      cases hoff : s.before with
      | none =>
        rw [hoff, Option.getD_none] at hfalse
        have hnot := of_decide_eq_false (Option.some.inj hfalse)
        have hzero : s.service.buttonState = 0 := by omega
        rw [decide_eq_true hzero, Bool.or_true]
      | some enabled =>
        rw [hoff, Option.getD_some] at hfalse
        rw [hs.flagged (hoff.trans hfalse), Bool.true_or]
    refine ⟨?_, fun hzero => ⟨ready_step hs.ready hstep, hflagged, hpaid.mpr hzero⟩⟩
    rw [hvalue, and_iff_right hread]
    cases s.service.power.touchkeysBlocked with
    | true =>
      rw [if_pos rfl]
      exact ⟨fun hzero hpos => by omega, fun h => by
        by_contra hne
        cases h (by omega)⟩
    | false => exact iff_of_true rfl fun _ => rfl
  · have hvalue := off_unreadable hs.ready hdark (by omega) hstep
    rw [hvalue]
    exact ⟨iff_of_false (by omega) fun h => hread h.1, fun hzero => by omega⟩

/-- A call pays what it owes to the touch keys exactly if it finds the flag right. -/
theorem paid_step (hs : s.Good) (hstep : s.step node c = some t) :
    (t.Paid ↔ s.FindsFlagRight node c) ∧ (t.Paid → t.Good) := by
  by_cases hon : c = .setInteractive true
  · subst hon
    exact paid_on hs hstep
  by_cases hoff : c = .setInteractive false ∧ ¬s.service.panelLit node
  · obtain ⟨rfl, hdark⟩ := hoff
    exact paid_off hs hdark hstep
  have hlit : c = .setInteractive false → s.service.panelLit node := fun h => by
    by_contra hdark
    exact hoff ⟨h, hdark⟩
  obtain ⟨hflag, hbefore, howed⟩ := flag_of_other hs.ready hstep hon hlit
  have hflagged : t.Flagged := by
    unfold Flagged
    rw [hflag, hbefore]
    exact hs.flagged
  have hpaid : t.Paid := by
    unfold Paid
    rw [howed]
    trivial
  refine ⟨iff_of_true hpaid ?_, fun _ => ⟨ready_step hs.ready hstep, hflagged, hpaid⟩⟩
  unfold FindsFlagRight
  split
  · exact .inl (hlit rfl)
  · exact absurd rfl hon
  · trivial

/-! ## 6. Whole runs -/

theorem good_start {fs : Sysfs} (hkey : (Service.initialised fs).power.secTouchkey ≠ "")
    (hnode : (fs.nodes (Service.initialised fs).power.secTouchkey).isSome)
    (hapart : (Service.initialised fs).power.secTouchscreen ≠
      (Service.initialised fs).power.secTouchkey) : (start fs).Good := by
  have hfrom : (({} : Power).findInputNodes fs).KeyFromInput := findInputNodes_keyFromInput fs (.inl rfl)
  refine ⟨⟨rfl, hkey, hnode, hapart, ?_⟩, nofun, trivial⟩
  exact not_mem_cpuNodes (hfrom.resolve_left hkey)

/-- The first call of a service begins with the initialisation. -/
theorem handle_initialised (fs : Sysfs) (hint : PowerHint) (data : Int) (interactive : Bool) :
    (Service.start fs).handle node (.powerHint hint data) =
        (Service.initialised fs).handle node (.powerHint hint data) ∧
      (Service.start fs).handle node (.setInteractive interactive) =
        (Service.initialised fs).handle node (.setInteractive interactive) := ⟨rfl, rfl⟩

/-- On a device with touch keys: over a whole run of calls and of writes by others, each screen-off
leaves the keys disabled and each screen-on gives back what the screen-off found, exactly if every
call finds the flag of the HAL right. -/
theorem touchkeys_restored_iff (node : String) {fs : Sysfs} {calls : List Call} {t : TouchkeyRun}
    (hkey : (Service.initialised fs).power.secTouchkey ≠ "")
    (hnode : (fs.nodes (Service.initialised fs).power.secTouchkey).isSome)
    (hapart : (Service.initialised fs).power.secTouchscreen ≠
      (Service.initialised fs).power.secTouchkey)
    (run : Exec (guarded (step node)) (start fs) calls t) :
    (∀ before u, before <+: calls → Exec (guarded (step node)) (start fs) before u → u.Paid) ↔
      ExecWhere (FindsFlagRight node) (guarded (step node)) (start fs) calls t :=
  forall_prefix_iff_of (fun _ _ _ hs hstep => paid_step hs hstep) (fun _ hs => hs.paid)
    (good_start hkey hnode hapart) run

/-- A device with touch keys that are enabled, and with a dark panel. -/
def touchkeySysfs : Sysfs where
  nodes path :=
    if path = "/sys/class/input/input1/name" then some "sec_touchkey\n"
    else if path = "/sys/class/input/input1/enabled" then some "1\n"
    else none
  inputDir := [("/sys/class/input/input1", ["/sys/class/input/input1/name"])]

theorem screenOffOn_restored :
    (Service.initialised touchkeySysfs).power.secTouchkey ≠ "" ∧
      ∀ before u, before <+: [.setInteractive false, .setInteractive true] →
        Exec (guarded (step "")) (start touchkeySysfs) before u → u.Paid :=
  have hkey : (Service.initialised touchkeySysfs).power.secTouchkey ≠ "" := by decide
  ⟨hkey, (touchkeys_restored_iff "" hkey (by decide) (by decide) (Exec.computed rfl)).mpr
    (.cons ⟨.inr ⟨by decide, fun _ => rfl⟩, rfl⟩
      (.cons ⟨⟨fun _ h => absurd h (by decide), by decide⟩, rfl⟩ (.nil _)))⟩

/-- Two screen-offs in a row: the second takes the HAL's own 0 for someone else's, and the keys stay
off. -/
theorem keys_lost_after_second_off :
    ¬∀ (node : String) (fs : Sysfs) (calls : List Call) (t : TouchkeyRun),
      (Service.initialised fs).power.secTouchkey ≠ "" →
      (fs.nodes (Service.initialised fs).power.secTouchkey).isSome →
      (Service.initialised fs).power.secTouchscreen ≠
        (Service.initialised fs).power.secTouchkey →
      Exec (guarded (step node)) (start fs) calls t → t.Paid := by
  intro hall
  have hpaid := hall "" touchkeySysfs
    [.setInteractive false, .setInteractive false, .setInteractive true] _ (by decide) (by decide)
    (by decide) (Exec.computed rfl)
  exact absurd (hpaid.mpr rfl) (by decide)

end TouchkeyRun

end Universal7870.PowerHal
