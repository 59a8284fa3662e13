import Universal7870.Audio.Devices
import Universal7870.Lib.Run

/-!
# The amplifier

`amplifier.c` and the power switch of `tfa.c`: the modes of the amplifier that sound devices use, a
count of uses for each mode, and one power state for all of them.  The vendor library that switches
the amplifier is known by what its `tfa_enable` returns.
-/

namespace Universal7870.Amplifier

open Audio Lib

/-! ## 1. The power switch -/

/-- `tfa_device_t`, as far as `tfa_power` works on it.  `powered` is what the library was last told
with success. -/
structure TfaDevice where
  a1 : Int := 0
  initializing : Bool := false
  clockEnabled : Bool := false
  powered : Bool := false
  deriving DecidableEq, Repr

namespace TfaDevice

def eBusy : Int := -16

/-- `tfa_clock_on`, which returns when the thread that feeds the clock writes. -/
def clockOn (tfaDev : TfaDevice) : Int × TfaDevice :=
  if tfaDev.clockEnabled then (eBusy, tfaDev)
  else (0, { tfaDev with initializing := true, clockEnabled := true })

/-- `tfa_clock_off`, which joins that thread. -/
def clockOff (tfaDev : TfaDevice) : TfaDevice :=
  if tfaDev.clockEnabled then { tfaDev with initializing := false, clockEnabled := false }
  else tfaDev

/-- `tfa_power`, where `tfa_enable` returns `rc`.  The clocks run while the library is at work. -/
def power (tfaDev : TfaDevice) (rc : Int) (on : Bool) : Int × TfaDevice :=
  let tfaDev := if on then { tfaDev with a1 := 0 } else tfaDev
  let tfaDev := if on then tfaDev.clockOn.2 else tfaDev
  let tfaDev := if rc = 0 then { tfaDev with powered := on } else tfaDev
  (rc, if tfaDev.clockEnabled then tfaDev.clockOff else tfaDev)

theorem power_rc (tfaDev : TfaDevice) (rc : Int) (on : Bool) : (tfaDev.power rc on).1 = rc := rfl

theorem powered_clockOff (tfaDev : TfaDevice) : tfaDev.clockOff.powered = tfaDev.powered := by
  unfold clockOff
  split <;> rfl

theorem powered_power (tfaDev : TfaDevice) (on : Bool) : (tfaDev.power 0 on).2.powered = on := by
  have hsettled : ∀ t : TfaDevice, (if t.clockEnabled then t.clockOff else t).powered = t.powered := by
    intro t
    split
    · exact t.powered_clockOff
    · rfl
  unfold power
  rw [hsettled, if_pos rfl]

end TfaDevice

/-! ## 2. The modes and their counts -/

/-- `tfa_mode_t`; `Audio_Mode_None` is `none`. -/
inductive TfaMode
  | musicNormal
  | voice
  deriving DecidableEq, Repr

def TfaMode.other : TfaMode → TfaMode
  | .musicNormal => .voice
  | .voice => .musicNormal

inductive AmpState
  | disabled
  | enabled
  deriving DecidableEq, Repr

/-- `amp_device_t`, with the defaults that `amp_module_open` sets. -/
structure AmpDevice where
  tfaDev : TfaDevice := {}
  currentMode : AudioMode := .normal
  refcount : TfaMode → Nat := fun _ => 0
  ampState : AmpState := .disabled

def classifySndDevice : SndDevice → Option TfaMode
  | .outSpeaker => some .musicNormal
  | .outVoiceSpeaker | .outVoiceSpeakerWb => some .voice
  | _ => none

namespace AmpDevice

/-- What a call counts for its mode. -/
def count (dev : AmpDevice) (mode : TfaMode) (enable : Bool) : AmpDevice :=
  if enable then { dev with refcount := Function.update dev.refcount mode (dev.refcount mode + 1) }
  else if 0 < dev.refcount mode then
    { dev with refcount := Function.update dev.refcount mode (dev.refcount mode - 1) }
  else dev

/-- What a call does with the power, behind its counting. -/
def switchPower (dev : AmpDevice) (rc : Int) (mode : TfaMode) (enable : Bool) : Int × AmpDevice :=
  if enable ∧ dev.ampState = .disabled ∧ dev.refcount mode = 1 then
    let r := dev.tfaDev.power rc true
    (r.1, { dev with tfaDev := r.2, ampState := if r.1 = 0 then .enabled else dev.ampState })
  else if enable = false ∧ dev.ampState = .enabled ∧ dev.refcount mode = 0 then
    let r := dev.tfaDev.power rc false
    (r.1, { dev with tfaDev := r.2, ampState := if r.1 = 0 then .disabled else dev.ampState })
  else (0, dev)

/-- `amp_enable_output_devices`, where `tfa_enable` returns `rc` if it is called. -/
def enableOutputDevices (dev : AmpDevice) (rc : Int) (devices : SndDevice) (enable : Bool) :
    Int × AmpDevice :=
  match classifySndDevice devices with
  | none => (0, dev)
  | some mode => (dev.count mode enable).switchPower rc mode enable

end AmpDevice

/-- A call of `amp_enable_output_devices`. -/
structure AmpCall where
  device : SndDevice
  enable : Bool
  deriving DecidableEq, Repr

/-- The amplifier after a call in which `tfa_power` succeeds. -/
def AmpDevice.after (dev : AmpDevice) (call : AmpCall) : AmpDevice :=
  (dev.enableOutputDevices 0 call.device call.enable).2

/-! ## 3. What a call does to the device -/

namespace AmpDevice

theorem refcount_switchPower (dev : AmpDevice) (rc : Int) (mode : TfaMode) (enable : Bool) :
    (dev.switchPower rc mode enable).2.refcount = dev.refcount := by
  unfold switchPower
  split
  · rfl
  · split <;> rfl

theorem refcount_count (dev : AmpDevice) (mode : TfaMode) (enable : Bool) :
    (dev.count mode enable).refcount mode =
      if enable then dev.refcount mode + 1 else dev.refcount mode - 1 := by
  unfold count
  split
  · exact Function.update_self ..
  · split
    · exact Function.update_self ..
    · rename_i hzero
      omega

theorem refcount_count_of_ne (dev : AmpDevice) {mode m : TfaMode} (enable : Bool) (h : m ≠ mode) :
    (dev.count mode enable).refcount m = dev.refcount m := by
  unfold count
  split
  · exact Function.update_of_ne h ..
  · split
    · exact Function.update_of_ne h ..
    · rfl

theorem ampState_count (dev : AmpDevice) (mode : TfaMode) (enable : Bool) :
    (dev.count mode enable).ampState = dev.ampState := by
  unfold count
  split
  · rfl
  · split <;> rfl

theorem refcount_after (dev : AmpDevice) (call : AmpCall) (m : TfaMode) :
    (dev.after call).refcount m =
      if classifySndDevice call.device = some m then
        if call.enable then dev.refcount m + 1 else dev.refcount m - 1
      else dev.refcount m := by
  unfold AmpDevice.after enableOutputDevices
  cases hmode : classifySndDevice call.device with
  | none => rfl
  | some mode =>
    dsimp only
    rw [refcount_switchPower]
    by_cases hsame : m = mode
    · rw [hsame, if_pos rfl, refcount_count]
    · rw [if_neg fun h => hsame (Option.some.inj h).symm, refcount_count_of_ne _ _ hsame]

theorem ampState_switchPower_enable (dev : AmpDevice) (mode : TfaMode)
    (hfirst : dev.ampState = .disabled → dev.refcount mode = 1) :
    (dev.switchPower 0 mode true).2.ampState = .enabled := by
  unfold switchPower
  cases hstate : dev.ampState with
  | disabled =>
    rw [if_pos ⟨rfl, rfl, hfirst hstate⟩]
    rfl
  | enabled =>
    rw [if_neg (fun h => by cases h.2.1), if_neg (fun h => by cases h.1)]
    exact hstate

theorem ampState_switchPower_disable (dev : AmpDevice) (mode : TfaMode) :
    (dev.switchPower 0 mode false).2.ampState = .enabled ↔
      dev.ampState = .enabled ∧ dev.refcount mode ≠ 0 := by
  unfold switchPower
  rw [if_neg (fun h => by cases h.1)]
  by_cases hoff : dev.ampState = .enabled ∧ dev.refcount mode = 0
  · rw [if_pos ⟨rfl, hoff⟩]
    exact iff_of_false nofun fun h => h.2 hoff.2
  · rw [if_neg fun h => hoff h.2]
    exact ⟨fun h => ⟨h, fun hzero => hoff ⟨h, hzero⟩⟩, fun h => h.1⟩

theorem tfaDev_count (dev : AmpDevice) (mode : TfaMode) (enable : Bool) :
    (dev.count mode enable).tfaDev = dev.tfaDev := by
  unfold count
  split
  · rfl
  · split <;> rfl

/-- The amplifier itself is switched as the state says, and not on without a use. -/
structure Sound (dev : AmpDevice) : Prop where
  powered : dev.tfaDev.powered = true ↔ dev.ampState = .enabled
  inUse : dev.ampState = .enabled → ∃ mode, 0 < dev.refcount mode

theorem powered_switchPower {dev : AmpDevice} (h : dev.tfaDev.powered = true ↔ dev.ampState = .enabled)
    (mode : TfaMode) (enable : Bool) :
    (dev.switchPower 0 mode enable).2.tfaDev.powered = true ↔
      (dev.switchPower 0 mode enable).2.ampState = .enabled := by
  unfold switchPower
  split
  · simp only [TfaDevice.powered_power, TfaDevice.power_rc, if_true]
  · split
    · simp only [TfaDevice.powered_power, TfaDevice.power_rc, if_true]
      exact iff_of_false nofun nofun
    · exact h

theorem Sound.after {dev : AmpDevice} (hs : dev.Sound) (call : AmpCall) : (dev.after call).Sound := by
  cases hmode : classifySndDevice call.device with
  | none =>
    have hkept : dev.after call = dev := by
      unfold AmpDevice.after enableOutputDevices
      rw [hmode]
    rw [hkept]
    exact hs
  | some mode =>
    have hafter : dev.after call =
        ((dev.count mode call.enable).switchPower 0 mode call.enable).2 := by
      unfold AmpDevice.after enableOutputDevices
      rw [hmode]
    rw [hafter]
    constructor
    · refine powered_switchPower ?_ mode call.enable
      rw [tfaDev_count, ampState_count]
      exact hs.powered
    · intro hpowered
      refine ⟨mode, ?_⟩
      rw [refcount_switchPower, refcount_count]
      cases henable : call.enable with
      | true =>
        rw [if_pos rfl]
        exact Nat.succ_pos _
      | false =>
        rw [henable, ampState_switchPower_disable, refcount_count] at hpowered
        exact Nat.pos_of_ne_zero hpowered.2

end AmpDevice

/-! ## 4. What is in use -/

/-- How often each mode was enabled, and how often it was disabled while in use. -/
structure Usage where
  enables : TfaMode → Nat := fun _ => 0
  disables : TfaMode → Nat := fun _ => 0

namespace Usage

def count (u : Usage) (mode : TfaMode) : Nat := u.enables mode - u.disables mode

def record (u : Usage) (call : AmpCall) : Usage :=
  match classifySndDevice call.device with
  | none => u
  | some mode =>
    if call.enable then { u with enables := Function.update u.enables mode (u.enables mode + 1) }
    else if u.disables mode < u.enables mode then
      { u with disables := Function.update u.disables mode (u.disables mode + 1) }
    else u

end Usage

/-- The amplifier, and what its calls put to use. -/
structure AmpRun where
  dev : AmpDevice := {}
  usage : Usage := {}

namespace AmpRun

def after (s : AmpRun) (call : AmpCall) : AmpRun :=
  { dev := s.dev.after call, usage := s.usage.record call }

/-- The amplifier has power iff a mode is in use, and each mode's count is that of its uses. -/
def PowerFollowsUse (s : AmpRun) : Prop :=
  (s.dev.ampState = .enabled ↔ ∃ mode, 0 < s.dev.refcount mode) ∧
    ∀ mode, s.dev.refcount mode = s.usage.count mode

/-- The call does not take the last use of a mode away while the other mode is in use. -/
def KeepsOtherMode (s : AmpRun) (call : AmpCall) : Prop :=
  ∀ mode, classifySndDevice call.device = some mode → call.enable = false →
    s.dev.refcount mode ≤ 1 → s.dev.refcount mode.other = 0

/-! ## 5. Counts -/

/-- Disables do not outnumber enables, and the count of each mode is the difference. -/
def Counted (s : AmpRun) : Prop :=
  ∀ mode, s.usage.disables mode ≤ s.usage.enables mode ∧ s.dev.refcount mode = s.usage.count mode

/-- What a call does to the uses of its mode. -/
theorem record_count {u : Usage} {call : AmpCall} {mode : TfaMode}
    (hmode : classifySndDevice call.device = some mode) (hle : u.disables mode ≤ u.enables mode) :
    (u.record call).disables mode ≤ (u.record call).enables mode ∧
      (u.record call).count mode =
        if call.enable then u.count mode + 1 else u.count mode - 1 := by
  unfold Usage.record Usage.count
  rw [hmode]
  dsimp only
  by_cases henable : call.enable = true
  · simp only [henable, if_true, Function.update_self]
    omega
  · rw [if_neg henable, if_neg henable]
    split
    · simp only [Function.update_self]
      omega
    · omega

theorem record_of_ne {u : Usage} {call : AmpCall} {m : TfaMode}
    (hother : classifySndDevice call.device ≠ some m) :
    (u.record call).enables m = u.enables m ∧ (u.record call).disables m = u.disables m := by
  unfold Usage.record
  cases hmode : classifySndDevice call.device with
  | none => exact ⟨rfl, rfl⟩
  | some mode =>
    have hne : m ≠ mode := fun hsame => hother (hsame ▸ hmode)
    dsimp only
    split
    · exact ⟨Function.update_of_ne hne .., rfl⟩
    · split
      · exact ⟨rfl, Function.update_of_ne hne ..⟩
      · exact ⟨rfl, rfl⟩

theorem Counted.after {s : AmpRun} (hs : s.Counted) (call : AmpCall) : (s.after call).Counted := by
  intro m
  obtain ⟨hle, hcount⟩ := hs m
  unfold AmpRun.after
  dsimp only
  rw [AmpDevice.refcount_after, hcount]
  by_cases hmode : classifySndDevice call.device = some m
  · obtain ⟨hle', hcount'⟩ := record_count hmode hle
    rw [if_pos hmode]
    exact ⟨hle', hcount'.symm⟩
  · obtain ⟨henables, hdisables⟩ := record_of_ne (u := s.usage) hmode
    unfold Usage.count
    rw [if_neg hmode, henables, hdisables]
    exact ⟨hle, rfl⟩

theorem counted_run (calls : List AmpCall) : (calls.foldl after {}).Counted :=
  Exec.invariant (fun s call t hs hstep => by
    obtain rfl : s.after call = t := hstep
    exact hs.after call) (Exec.folded after {} calls) fun _ => ⟨Nat.le_refl 0, rfl⟩

/-! ## 6. Power -/

theorem exists_mode_iff {P : TfaMode → Prop} (mode : TfaMode) :
    (∃ m, P m) ↔ P mode ∨ P mode.other := by
  constructor
  · rintro ⟨m, hm⟩
    cases mode <;> cases m
    · exact .inl hm
    · exact .inr hm
    · exact .inr hm
    · exact .inl hm
  · rintro (h | h)
    · exact ⟨mode, h⟩
    · exact ⟨mode.other, h⟩

theorem other_ne (mode : TfaMode) : mode.other ≠ mode := by cases mode <;> nofun

/-- A call keeps the power where it is needed exactly if it does not take the last use of its mode
away while the other mode is in use. -/
theorem powerFollowsUse_after_iff {s : AmpRun} (hcounted : s.Counted) (call : AmpCall)
    (hs : s.PowerFollowsUse) : (s.after call).PowerFollowsUse ↔ s.KeepsOtherMode call := by
  have hcounts : ∀ m, (s.after call).dev.refcount m = (s.after call).usage.count m :=
    fun m => (hcounted.after call m).2
  unfold PowerFollowsUse KeepsOtherMode
  rw [and_iff_left hcounts]
  cases hmode : classifySndDevice call.device with
  | none =>
    have hkept : (s.after call).dev = s.dev := by
      unfold AmpRun.after AmpDevice.after AmpDevice.enableOutputDevices
      rw [hmode]
    rw [hkept]
    exact iff_of_true hs.1 nofun
  | some mode =>
    have hself := AmpDevice.refcount_after s.dev call mode
    have hother := AmpDevice.refcount_after s.dev call mode.other
    rw [if_pos hmode] at hself
    rw [if_neg fun h => other_ne mode (Option.some.inj (h.symm.trans hmode))] at hother
    have hstate : (s.after call).dev.ampState =
        ((s.dev.count mode call.enable).switchPower 0 mode call.enable).2.ampState := by
      unfold AmpRun.after AmpDevice.after AmpDevice.enableOutputDevices
      rw [hmode]
    have huse := hs.1.trans (exists_mode_iff (P := fun m => 0 < s.dev.refcount m) mode)
    rw [hstate, exists_mode_iff mode]
    change (_ ↔ 0 < (s.dev.after call).refcount mode ∨ 0 < (s.dev.after call).refcount mode.other) ↔ _
    rw [hself, hother]
    cases henable : call.enable with
    | true =>
      have hon := AmpDevice.ampState_switchPower_enable (s.dev.count mode true) mode (by
        intro hdisabled
        -- without power no mode is in use
        rw [AmpDevice.ampState_count] at hdisabled
        rw [AmpDevice.refcount_count, if_pos rfl]
        have hzero : ¬(0 < s.dev.refcount mode ∨ 0 < s.dev.refcount mode.other) := fun h => by
          rw [huse.mpr h] at hdisabled
          cases hdisabled
        omega)
      refine iff_of_true (iff_of_true hon (.inl (by rw [if_pos rfl]; omega))) nofun
    | false =>
      rw [AmpDevice.ampState_switchPower_disable, AmpDevice.ampState_count,
        AmpDevice.refcount_count, huse]
      simp only [Bool.false_eq_true, if_false, Option.some.injEq, forall_eq', true_implies]
      omega

/-- After every call of a run the amplifier has power iff a mode is in use, exactly if no call of
the run takes the last use of one mode away while the other mode is in use. -/
theorem powerFollowsUse_iff (calls : List AmpCall) :
    (∀ n, ((calls.take n).foldl after {}).PowerFollowsUse) ↔
      ∀ n call, calls[n]? = some call → ((calls.take n).foldl after {}).KeepsOtherMode call := by
  have hstep : ∀ (s : AmpRun) call, s.Counted ∧ s.PowerFollowsUse →
      ((s.after call).Counted ∧ (s.after call).PowerFollowsUse ↔ s.KeepsOtherMode call) := by
    intro s call hs
    rw [and_iff_right (hs.1.after call)]
    exact powerFollowsUse_after_iff hs.1 call hs.2
  have hstart : ({} : AmpRun).Counted ∧ ({} : AmpRun).PowerFollowsUse := by
    refine ⟨counted_run [], iff_of_false nofun ?_, fun _ => rfl⟩
    rintro ⟨mode, hmode⟩
    exact absurd hmode (Nat.lt_irrefl 0)
  rw [← forall_take_iff hstep hstart calls]
  exact forall_congr' fun n => (and_iff_right (counted_run (calls.take n))).symm

/-- Music on the speaker, and a call on the speaker that ends: the music is cut. -/
theorem music_cut_by_call : ¬∀ calls : List AmpCall, (calls.foldl after {}).PowerFollowsUse := by
  intro hall
  have hpower := (hall [⟨.outSpeaker, true⟩, ⟨.outVoiceSpeaker, true⟩, ⟨.outVoiceSpeaker, false⟩]).1
  exact absurd (hpower.mpr ⟨.musicNormal, by decide⟩) (by decide)

/-- Whatever the calls, the amplifier is not left on when nothing is in use. -/
theorem inUse_of_powered (calls : List AmpCall)
    (hpowered : (calls.foldl after {}).dev.tfaDev.powered = true) :
    ∃ mode, 0 < (calls.foldl after {}).usage.count mode := by
  have hsound : (calls.foldl after {}).dev.Sound :=
    Exec.invariant (fun s call t hs hstep => by
      obtain rfl : s.after call = t := hstep
      exact hs.after call) (Exec.folded after {} calls)
      (I := fun s : AmpRun => s.dev.Sound) ⟨iff_of_false nofun nofun, nofun⟩
  obtain ⟨mode, hmode⟩ := hsound.inUse (hsound.powered.mp hpowered)
  rw [(counted_run calls mode).2] at hmode
  exact ⟨mode, hmode⟩

end AmpRun

end Universal7870.Amplifier
