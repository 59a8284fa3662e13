import Universal7870.PowerHal.Sysfs
import Universal7870.Lib.Run

/-!
# The power HAL

`Power.cpp` with the cluster paths of `samsung_power.h`.  The panel brightness node is named in
a header of another repository, so its path is a parameter.
-/

namespace Universal7870.PowerHal

def cpuSysfsPaths : List String :=
  ["/sys/devices/system/cpu/cpu0", "/sys/devices/system/cpu/cpu4"]

def cpuInteractivePaths : List String :=
  ["/sys/devices/system/cpu/cpu0/cpufreq/interactive",
    "/sys/devices/system/cpu/cpu4/cpufreq/interactive"]

def scalingMaxFreq (sysfsPath : String) : String := sysfsPath ++ "/cpufreq/scaling_max_freq"

def boostpulseNode : String := cpuInteractivePaths.head! ++ "/boostpulse"

def boostNode : String := cpuInteractivePaths.head! ++ "/boost"

/-- `other` is a value cast to the enumeration that has no enumerator. -/
inductive PowerProfile
  | powerSave
  | balanced
  | highPerformance
  | max
  | other (value : Int)
  deriving DecidableEq, Repr

def PowerProfile.ofInt : Int → PowerProfile
  | 0 => .powerSave
  | 1 => .balanced
  | 2 => .highPerformance
  | 3 => .max
  | value => .other value

inductive LineagePowerHint
  | cpuBoost
  | setProfile
  deriving DecidableEq, Repr

/-- The hints of both interfaces; `other` is any value `powerHint` has no case for. -/
inductive PowerHint
  | interaction
  | launch
  | lowPower
  | lineage (hint : LineagePowerHint)
  | other (value : Nat)
  deriving DecidableEq, Repr

structure Power where
  initialized : Bool := false
  touchkeysBlocked : Bool := false
  secTouchkey : String := ""
  secTouchscreen : String := ""
  currentProfile : PowerProfile := .powerSave
  hispeedFreqs : List String := []
  maxFreqs : List String := []

/-- `text.find(part) != std::string::npos`. -/
def contains (text part : String) : Bool := part.toList <:+: text.toList

def flag (interactive : Bool) : String := if interactive then "1" else "0"

namespace Power

/-- One file of an input device: the device whose name file reads `sec_touchkey` or
`sec_touchscreen` is remembered by its `enabled` node. -/
def inspectInputFile (fs : Sysfs) (device : String) (p : Power) (file : String) : Power :=
  if contains file "/name" then
    let content := fs.get file ""
    if content = "sec_touchkey" then { p with secTouchkey := device ++ "/enabled" }
    else if content = "sec_touchscreen" then { p with secTouchscreen := device ++ "/enabled" }
    else p
  else p

def findInputNodes (p : Power) (fs : Sysfs) : Power :=
  fs.inputDir.foldl
    (fun p entry =>
      if contains entry.1 "/sys/class/input/input" then
        entry.2.foldl (inspectInputFile fs entry.1) p
      else p) p

def initializePower (p : Power) (fs : Sysfs) : Power :=
  let p := p.findInputNodes fs
  { p with
    currentProfile := .balanced
    hispeedFreqs := p.hispeedFreqs ++
      cpuInteractivePaths.map fun path => fs.get (path ++ "/hispeed_freq") ""
    maxFreqs := p.maxFreqs ++
      cpuSysfsPaths.map fun path => fs.get (scalingMaxFreq path) ""
    initialized := true }

/-- The guard every entry point begins with. -/
def ensureInitialized (p : Power) (fs : Sysfs) : Power :=
  if p.initialized then p else p.initializePower fs

def setMaxFreq (fs : Sysfs) (cluster : String × String) : Sysfs :=
  if cluster.2 = "" then fs else fs.set (scalingMaxFreq cluster.1) cluster.2

/-- The loop of `setProfile` over the clusters, for the frequencies it is given. -/
def setMaxFreqs (freqs : List String) (fs : Sysfs) : Sysfs :=
  (cpuSysfsPaths.zip freqs).foldl setMaxFreq fs

def setProfile (p : Power) (fs : Sysfs) (profile : PowerProfile) : Power × Sysfs :=
  if p.currentProfile = profile then (p, fs)
  else
    match profile with
    | .powerSave => (p, setMaxFreqs p.hispeedFreqs fs)
    | .balanced | .highPerformance => (p, setMaxFreqs p.maxFreqs fs)
    | _ => (p, fs)

def sendBoostpulse (fs : Sysfs) : Sysfs := fs.set boostpulseNode "1"

def sendBoost (fs : Sysfs) (_durationUs : Int) : Sysfs :=
  (fs.set boostNode "1").set boostNode "0"

def powerHint (p : Power) (fs : Sysfs) (hint : PowerHint) (data : Int) : Power × Sysfs :=
  let p := p.ensureInitialized fs
  if p.currentProfile = .powerSave ∧ hint ≠ .lowPower ∧ hint ≠ .lineage .setProfile then (p, fs)
  else
    match hint with
    | .interaction | .launch => (p, sendBoostpulse fs)
    | .lowPower => p.setProfile fs (if data ≠ 0 then .powerSave else .balanced)
    | .lineage .setProfile => p.setProfile fs (PowerProfile.ofInt data)
    | .lineage .cpuBoost => (p, sendBoost fs data)
    | .other _ => (p, fs)

/-- The touch key part of `setInteractive`.  On the way off, a node that cannot be read leaves
everything as it is, and one that reads 0 is remembered as disabled by someone else. -/
def setTouchkey (p : Power) (fs : Sysfs) (interactive : Bool) : Power × Sysfs :=
  if p.secTouchkey = "" then (p, fs)
  else if interactive then
    (p, if p.touchkeysBlocked then fs else fs.set p.secTouchkey (flag interactive))
  else
    let buttonState := fs.getInt p.secTouchkey (-1)
    if buttonState < 0 then (p, fs)
    else
      let p := if buttonState = 0 then { p with touchkeysBlocked := true } else p
      (p, if p.touchkeysBlocked then fs else fs.set p.secTouchkey (flag interactive))

/-- What `setInteractive` does at its label `out`. -/
def setIoIsBusy (fs : Sysfs) (interactive : Bool) : Sysfs :=
  cpuInteractivePaths.foldl (fun fs path => fs.set (path ++ "/io_is_busy") (flag interactive)) fs

def setTouchscreen (p : Power) (fs : Sysfs) (interactive : Bool) : Sysfs :=
  if p.secTouchscreen = "" then fs else fs.set p.secTouchscreen (flag interactive)

def setInteractive (panelBrightnessNode : String) (p : Power) (fs : Sysfs) (interactive : Bool) :
    Power × Sysfs :=
  let p := p.ensureInitialized fs
  let (p, fs) :=
    -- the screen is still on: the input devices stay as they are
    if !interactive && 0 < fs.getInt panelBrightnessNode (-1) then (p, fs)
    else p.setTouchkey (p.setTouchscreen fs interactive) interactive
  (p, setIoIsBusy fs interactive)

end Power

/-! ## The service

The calls of the two HIDL interfaces come in on a single thread.  Other components write the
nodes between them, though not the frequency limits, which belong to this HAL. -/

inductive Call
  | powerHint (hint : PowerHint) (data : Int)
  | setInteractive (interactive : Bool)
  | other (path text : String)
  deriving DecidableEq, Repr

/-- The profile a call asks for.  A cast value without an enumerator asks for none. -/
def Call.requests : Call → Option PowerProfile
  | .powerHint .lowPower data => some (if data ≠ 0 then .powerSave else .balanced)
  | .powerHint (.lineage .setProfile) data =>
    match PowerProfile.ofInt data with
    | .powerSave => some .powerSave
    | .balanced => some .balanced
    | .highPerformance => some .highPerformance
    | _ => none
  | _ => none

/-- The hints whose purpose is to boost the CPU. -/
def Call.IsBoost : Call → Prop
  | .powerHint .interaction _ | .powerHint .launch _ | .powerHint (.lineage .cpuBoost) _ => True
  | _ => False

instance : DecidablePred Call.IsBoost := fun c => by
  unfold Call.IsBoost
  split <;> infer_instance

/-- A call that was made, the profile last requested before it, and the writes it issued. -/
structure CallRecord where
  requested : Option PowerProfile
  call : Call
  writes : List (String × String)

/-- The HAL and the tree it works on.  `requested` and `history` are only observations: the
profile most recently requested, and the calls made. -/
structure Service where
  power : Power
  sysfs : Sysfs
  requested : Option PowerProfile := none
  history : List CallRecord := []

/-- The service as it starts: `new Power()` zero-initialises the object. -/
def Service.start (sysfs : Sysfs) : Service := { power := {}, sysfs := sysfs }

namespace Service

def handle (panelBrightnessNode : String) (s : Service) : Call → Option (Power × Sysfs)
  | .powerHint hint data => some (s.power.powerHint s.sysfs hint data)
  | .setInteractive interactive =>
    some (s.power.setInteractive panelBrightnessNode s.sysfs interactive)
  | .other path text =>
    if path ∈ cpuSysfsPaths.map scalingMaxFreq then none
    else some (s.power, s.sysfs.store path text)

def step (panelBrightnessNode : String) (s : Service) (c : Call) : Option Service :=
  (s.handle panelBrightnessNode c).map fun r =>
    { power := r.1
      sysfs := r.2
      requested := c.requests <|> s.requested
      history := s.history ++
        [⟨s.requested, c, r.2.writes.drop s.sysfs.writes.length⟩] }

end Service

end Universal7870.PowerHal
