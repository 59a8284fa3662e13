import Universal7870.Audio.Devices
import Universal7870.Lib.Run
import Mathlib.Tactic.Common

/-!
# The processing effects of an input stream

`add_remove_audio_effect` keeps the effects of a stream in an array, and with them the auxiliary
channels and the switch of the echo canceller.
-/

namespace Universal7870.Audio

open Lib

/-! ## 1. Channels -/

/-- `audio_channel_mask_t` with one bit for each position. -/
abbrev ChannelMask := BitVec 32

namespace ChannelMask

def inFront : ChannelMask := 0x10
def inBack : ChannelMask := 0x20
def inRight : ChannelMask := 0x8
def inStereo : ChannelMask := 0xC

/-- `audio_channel_count_from_in_mask`. -/
def count (mask : ChannelMask) : Nat := ((List.range 32).filter mask.getLsbD).length

end ChannelMask

/-- `channel_config_t`. -/
structure ChannelConfig where
  mainChannels : ChannelMask
  auxChannels : ChannelMask
  deriving DecidableEq, Repr

/-- `in_aux_cnl_configs`. -/
def inAuxCnlConfigs : List ChannelConfig :=
  [⟨ChannelMask.inFront, ChannelMask.inBack⟩, ⟨ChannelMask.inStereo, ChannelMask.inRight⟩]

/-! ## 2. The code -/

/-- `struct effect_info_s`; an effect is named by its handle, and `none` is `NULL`. -/
structure EffectInfo where
  effectItfe : Option Nat
  numChannelConfigs : Nat
  channelConfigs : Option (List ChannelConfig)
  deriving DecidableEq, Repr

def EffectInfo.cleared : EffectInfo := ⟨none, 0, none⟩

/-- `MAX_PREPROCESSORS`. -/
def maxPreprocessors : Nat := 3

/-- The members of `struct stream_in` for its effects.  A slot from `MAX_PREPROCESSORS` on lies
behind the array.  `attached` and `configureFailed` are history: the effects whose attachment has
not been undone, and whether the last attempt to configure them failed. -/
structure EffectStream where
  devices : AudioDevices
  mainChannels : ChannelMask
  standby : Bool
  enableAec : Bool
  numPreprocessors : Nat
  preprocessors : Nat → EffectInfo
  auxChannels : ChannelMask
  auxChannelsChanged : Bool
  attached : List EffectInfo
  configureFailed : Bool

namespace EffectStream

/-- One of the configurations an effect supports. -/
def supports (info : EffectInfo) (config : ChannelConfig) : Bool :=
  ((info.channelConfigs.getD []).take info.numChannelConfigs).any (· == config)

/-- `in_get_aux_channels`: the configuration with the most auxiliary channels that is for the main
channels and that all effects support. -/
def inGetAuxChannels (s : EffectStream) : ChannelMask :=
  if s.numPreprocessors = 0 then 0
  else if !s.devices.has (AudioDevices.inBuiltinMic ||| AudioDevices.inBackMic) then 0
  else
    (inAuxCnlConfigs.foldl (fun new cur =>
      if cur.mainChannels = s.mainChannels ∧
          (List.range s.numPreprocessors).all (fun i => supports (s.preprocessors i) cur) ∧
          new.auxChannels.count < cur.auxChannels.count
      then cur else new) ⟨0, 0⟩).auxChannels

/-- The first `in_reconfigure_channels` of `in_update_aux_channels` succeeds.  `configure i` says
whether the effect in slot `i` takes the configuration; if the channels stay as they are only the
effect that is added, the last one, is configured. -/
def reconfigures (s : EffectStream) (configure : Nat → Bool) : Bool :=
  if s.inGetAuxChannels ≠ s.auxChannels then (List.range s.numPreprocessors).all configure
  else s.inGetAuxChannels == 0 || configure (s.numPreprocessors - 1)

/-- `in_update_aux_channels`; channels that change put the stream in standby. -/
def inUpdateAuxChannels (s : EffectStream) (configure : Nat → Bool) : EffectStream :=
  let auxChannels := if s.reconfigures configure then s.inGetAuxChannels else 0
  let s := { s with configureFailed := !s.reconfigures configure }
  if s.auxChannels ≠ auxChannels then
    { s with auxChannelsChanged := true, auxChannels := auxChannels, standby := true }
  else s

/-- What is stored for an effect: `in_read_audio_effect_channel_configs` leaves the slot as it is
when the effect does not tell its configurations. -/
def attach (slot : EffectInfo) (effect : Nat) : Option (List ChannelConfig) → EffectInfo
  | none => { slot with effectItfe := some effect }
  | some configs => ⟨some effect, configs.length, some configs⟩

/-- The part for the echo canceller, which puts an active stream in standby. -/
def switchAec (s : EffectStream) (isAec enable : Bool) : EffectStream :=
  if isAec then { s with enableAec := enable, standby := true } else s

/-- `add_remove_audio_effect` to add an effect: its configurations, if it tells them, and which
effects can be configured. -/
def addAudioEffect (s : EffectStream) (effect : Nat) (isAec : Bool)
    (configs : Option (List ChannelConfig)) (configure : Nat → Bool) : EffectStream :=
  if s.numPreprocessors > maxPreprocessors then s
  else
    let info := attach (s.preprocessors s.numPreprocessors) effect configs
    let s := inUpdateAuxChannels { s with
      preprocessors := Function.update s.preprocessors s.numPreprocessors info
      numPreprocessors := s.numPreprocessors + 1
      attached := s.attached ++ [info] } configure
    switchAec { s with auxChannelsChanged := true } isAec true

def holds (info : EffectInfo) (effect : Nat) : Bool := info.effectItfe == some effect

/-- One turn of the loop that removes an effect: whether it was found before, and the slots. -/
def removeTurn (effect : Nat) (r : Bool × (Nat → EffectInfo)) (i : Nat) :
    Bool × (Nat → EffectInfo) :=
  if r.1 then (true, Function.update r.2 (i - 1) (r.2 i)) else (holds (r.2 i) effect, r.2)

def removeLoop (slots : Nat → EffectInfo) (n effect : Nat) : Bool × (Nat → EffectInfo) :=
  (List.range n).foldl (removeTurn effect) (false, slots)

/-- `add_remove_audio_effect` to remove an effect. -/
def removeAudioEffect (s : EffectStream) (effect : Nat) (isAec : Bool) : EffectStream :=
  if s.numPreprocessors = 0 then s
  else
    let r := removeLoop s.preprocessors s.numPreprocessors effect
    if r.1 = false then s
    else
      switchAec { s with
        preprocessors := Function.update r.2 (s.numPreprocessors - 1) EffectInfo.cleared
        numPreprocessors := s.numPreprocessors - 1
        auxChannelsChanged := false
        attached := s.attached.eraseP (holds · effect) } isAec false

end EffectStream

/-- Requests; an effect whose descriptor cannot be read is not touched. -/
inductive EffectRequest
  | add (effect : Nat) (descriptor : Bool) (configs : Option (List ChannelConfig))
      (configure : Nat → Bool)
  | remove (effect : Nat) (descriptor : Bool)

namespace EffectStream

/-- A stream as it is opened. -/
def opened (devices : AudioDevices) (mainChannels : ChannelMask) : EffectStream where
  devices := devices
  mainChannels := mainChannels
  standby := true
  enableAec := false
  numPreprocessors := 0
  preprocessors := fun _ => EffectInfo.cleared
  auxChannels := 0
  auxChannelsChanged := false
  attached := []
  configureFailed := false

/-- One request; `isAec` says which effects are echo cancellers. -/
def step (isAec : Nat → Bool) (s : EffectStream) : EffectRequest → EffectStream
  | .add effect descriptor configs configure =>
    if descriptor then s.addAudioEffect effect (isAec effect) configs configure else s
  | .remove effect descriptor =>
    if descriptor then s.removeAudioEffect effect (isAec effect) else s

/-! ## 3. The loop that removes an effect -/

/-- The slots behind the first one with the effect have moved up. -/
def moved (slots : Nat → EffectInfo) (n j : Nat) : Nat → EffectInfo :=
  fun i => if j ≤ i ∧ i + 1 < n then slots (i + 1) else slots i

theorem removeLoop_spec (slots : Nat → EffectInfo) (n effect : Nat) :
    (removeLoop slots n effect = (false, slots) ∧ ∀ i < n, holds (slots i) effect = false) ∨
    ∃ j < n, holds (slots j) effect = true ∧ (∀ i < j, holds (slots i) effect = false) ∧
      removeLoop slots n effect = (true, moved slots n j) := by
  induction n with
  | zero => exact .inl ⟨rfl, fun _ h => absurd h (Nat.not_lt_zero _)⟩
  | succ n ih =>
    have hturn : removeLoop slots (n + 1) effect =
        removeTurn effect (removeLoop slots n effect) n := by
      unfold removeLoop
      rw [List.range_succ, List.foldl_append]
      rfl
    rcases ih with ⟨hloop, hnone⟩ | ⟨j, hj, hfound, hbefore, hloop⟩
    · cases hn : holds (slots n) effect with
      | false =>
        left
        refine ⟨?_, fun i hi => ?_⟩
        · rw [hturn, hloop]
          simp [removeTurn, hn]
        · rcases Nat.lt_succ_iff_lt_or_eq.mp hi with hlt | rfl
          · exact hnone i hlt
          · exact hn
      | true =>
        right
        refine ⟨n, Nat.lt_succ_self n, hn, hnone, ?_⟩
        rw [hturn, hloop]
        have hstill : moved slots (n + 1) n = slots := by
          funext i
          unfold moved
          rw [if_neg (by omega)]
        simp [removeTurn, hn, hstill]
    · right
      refine ⟨j, Nat.lt_succ_of_lt hj, hfound, hbefore, ?_⟩
      rw [hturn, hloop]
      refine Prod.ext rfl (funext fun i => ?_)
      show Function.update (moved slots n j) (n - 1) (moved slots n j n) i = moved slots (n + 1) j i
      by_cases hi : i = n - 1
      · subst hi
        rw [Function.update_self]
        unfold moved
        rw [if_neg (by omega), if_pos (by omega), Nat.sub_add_cancel (by omega)]
      · rw [Function.update_of_ne hi]
        unfold moved
        by_cases hin : j ≤ i ∧ i + 1 < n
        · rw [if_pos hin, if_pos (by omega)]
        · rw [if_neg hin, if_neg (by omega)]

/-- The entries of the array. -/
def entries (slots : Nat → EffectInfo) (n : Nat) : List EffectInfo := (List.range n).map slots

theorem getElem?_entries (slots : Nat → EffectInfo) (n i : Nat) :
    (entries slots n)[i]? = if i < n then some (slots i) else none := by
  unfold entries
  rw [List.getElem?_map]
  split
  · rename_i hi
    rw [List.getElem?_range hi]
    rfl
  · rename_i hi
    rw [List.getElem?_eq_none (by simpa using hi)]
    rfl

theorem entries_congr {slots slots' : Nat → EffectInfo} {n : Nat}
    (h : ∀ i < n, slots i = slots' i) : entries slots n = entries slots' n :=
  List.map_congr_left fun i hi => h i (List.mem_range.mp hi)

theorem entries_succ (slots : Nat → EffectInfo) (n : Nat) :
    entries slots (n + 1) = entries slots n ++ [slots n] := by
  unfold entries
  rw [List.range_succ, List.map_append]
  rfl

/-- Moving the slots up removes the first entry with the effect. -/
theorem entries_moved {slots : Nat → EffectInfo} {n j effect : Nat} (hj : j < n)
    (hfound : holds (slots j) effect = true) (hbefore : ∀ i < j, holds (slots i) effect = false) :
    entries (moved slots n j) (n - 1) = (entries slots n).eraseP (holds · effect) := by
  have hidx : (entries slots n).findIdx? (holds · effect) = some j := by
    rw [List.findIdx?_eq_some_iff_getElem]
    refine ⟨by simpa [entries] using hj, by simpa [entries] using hfound, fun i hi => ?_⟩
    simpa [entries] using hbefore i hi
  rw [List.eraseP_eq_eraseIdx, hidx]
  apply List.ext_getElem?
  intro i
  rw [List.getElem?_eraseIdx, getElem?_entries, getElem?_entries, getElem?_entries]
  unfold moved
  by_cases hi : i < j
  · simp only [if_pos hi, if_pos (show i < n - 1 by omega), if_pos (show i < n by omega),
      if_neg (show ¬(j ≤ i ∧ i + 1 < n) by omega)]
  · by_cases hn : i < n - 1
    · simp only [if_neg hi, if_pos hn, if_pos (show i + 1 < n by omega),
        if_pos (show j ≤ i ∧ i + 1 < n by omega)]
    · simp only [if_neg hi, if_neg hn, if_neg (show ¬i + 1 < n by omega)]

/-! ## 4. What the list has to be -/

/-- An echo canceller is among the effects. -/
def HasAec (isAec : Nat → Bool) (effects : List EffectInfo) : Prop :=
  ∃ info ∈ effects, ∃ effect, info.effectItfe = some effect ∧ isAec effect = true

/-- The value that the attached effects determine, or 0 when they could not be configured. -/
def auxDetermined (s : EffectStream) : ChannelMask :=
  if s.configureFailed then 0 else s.inGetAuxChannels

structure Intact (isAec : Nat → Bool) (s : EffectStream) : Prop where
  bound : s.numPreprocessors ≤ maxPreprocessors
  entries : EffectStream.entries s.preprocessors s.numPreprocessors = s.attached
  cleared : ∀ i, s.numPreprocessors ≤ i → i < maxPreprocessors →
    s.preprocessors i = EffectInfo.cleared
  aec : s.enableAec = true ↔ HasAec isAec s.attached
  aux : s.auxChannels = s.auxDetermined

variable {isAec : Nat → Bool} {s : EffectStream}

theorem Intact.numPreprocessors (h : s.Intact isAec) : s.numPreprocessors = s.attached.length := by
  rw [← h.entries]
  simp [EffectStream.entries]

/-- The effects that remain determine the channels that are set already. -/
def AuxKept (s : EffectStream) (effect : Nat) : Prop :=
  s.configureFailed = true ∨
    inGetAuxChannels { s with
      preprocessors := Function.update (removeLoop s.preprocessors s.numPreprocessors effect).2
        (s.numPreprocessors - 1) EffectInfo.cleared
      numPreprocessors := s.numPreprocessors - 1 } = s.auxChannels

/-- No echo canceller stays behind when one is removed. -/
def LastAec (isAec : Nat → Bool) (s : EffectStream) (effect : Nat) : Prop :=
  isAec effect = true → ¬HasAec isAec (s.attached.eraseP (holds · effect))

end EffectStream

/-- A request that finds room for the effect it adds; or one that removes, if any, the last echo
canceller, and an effect that the auxiliary channels do not depend on. -/
def EffectRequest.Harmless (isAec : Nat → Bool) (s : EffectStream) : EffectRequest → Prop
  | .add _ descriptor _ _ => descriptor = true → s.numPreprocessors < maxPreprocessors
  | .remove effect descriptor => descriptor = true →
      (∃ info ∈ s.attached, EffectStream.holds info effect = true) →
      s.LastAec isAec effect ∧ s.AuxKept effect

namespace EffectStream

variable {isAec : Nat → Bool} {s : EffectStream}

theorem inUpdateAuxChannels_same (configure : Nat → Bool) :
    (s.inUpdateAuxChannels configure).preprocessors = s.preprocessors ∧
      (s.inUpdateAuxChannels configure).numPreprocessors = s.numPreprocessors ∧
      (s.inUpdateAuxChannels configure).enableAec = s.enableAec ∧
      (s.inUpdateAuxChannels configure).attached = s.attached ∧
      (s.inUpdateAuxChannels configure).devices = s.devices ∧
      (s.inUpdateAuxChannels configure).mainChannels = s.mainChannels := by
  unfold inUpdateAuxChannels
  dsimp only
  generalize (if s.reconfigures configure = true then s.inGetAuxChannels else 0) = aux
  split <;> exact ⟨rfl, rfl, rfl, rfl, rfl, rfl⟩

theorem switchAec_same (aec enable : Bool) :
    (s.switchAec aec enable).preprocessors = s.preprocessors ∧
      (s.switchAec aec enable).numPreprocessors = s.numPreprocessors ∧
      (s.switchAec aec enable).attached = s.attached ∧
      (s.switchAec aec enable).devices = s.devices ∧
      (s.switchAec aec enable).mainChannels = s.mainChannels ∧
      (s.switchAec aec enable).auxChannels = s.auxChannels ∧
      (s.switchAec aec enable).configureFailed = s.configureFailed := by
  unfold switchAec
  split <;> exact ⟨rfl, rfl, rfl, rfl, rfl, rfl, rfl⟩

theorem enableAec_switchAec (aec enable : Bool) :
    (s.switchAec aec enable).enableAec = if aec then enable else s.enableAec := by
  unfold switchAec
  split <;> rfl

theorem inGetAuxChannels_congr {t : EffectStream} (hdevices : t.devices = s.devices)
    (hmain : t.mainChannels = s.mainChannels) (hnum : t.numPreprocessors = s.numPreprocessors)
    (hslots : t.preprocessors = s.preprocessors) : t.inGetAuxChannels = s.inGetAuxChannels := by
  unfold inGetAuxChannels
  rw [hdevices, hmain, hnum, hslots]

/-- After the channels are updated they are what the effects determine. -/
theorem aux_inUpdateAuxChannels (configure : Nat → Bool) :
    (s.inUpdateAuxChannels configure).auxChannels =
      (s.inUpdateAuxChannels configure).auxDetermined := by
  obtain ⟨hslots, hnum, _, _, hdevices, hmain⟩ := s.inUpdateAuxChannels_same configure
  unfold auxDetermined
  rw [inGetAuxChannels_congr hdevices hmain hnum hslots]
  unfold inUpdateAuxChannels
  dsimp only
  cases s.reconfigures configure with
  | true =>
    by_cases hsame : s.auxChannels = s.inGetAuxChannels
    · simp [hsame]
    · simp [hsame]
  | false =>
    by_cases hsame : s.auxChannels = 0#32
    · simp [hsame]
    · simp [hsame]

theorem hasAec_append_single (effects : List EffectInfo) {info : EffectInfo} {effect : Nat}
    (hinfo : info.effectItfe = some effect) :
    HasAec isAec (effects ++ [info]) ↔ HasAec isAec effects ∨ isAec effect = true := by
  unfold HasAec
  constructor
  · rintro ⟨info', hmem, effect', hitfe, haec⟩
    rcases List.mem_append.mp hmem with hold | hnew
    · exact .inl ⟨info', hold, effect', hitfe, haec⟩
    · obtain rfl := List.mem_singleton.mp hnew
      obtain rfl := Option.some.inj (hinfo.symm.trans hitfe)
      exact .inr haec
  · rintro (⟨info', hmem, hrest⟩ | haec)
    · exact ⟨info', List.mem_append_left _ hmem, hrest⟩
    · exact ⟨info, List.mem_append_right _ (List.mem_singleton.mpr rfl), effect, hinfo, haec⟩

theorem attach_effectItfe (slot : EffectInfo) (effect : Nat)
    (configs : Option (List ChannelConfig)) :
    (attach slot effect configs).effectItfe = some effect := by
  cases configs <;> rfl

/-- Adding an effect keeps the list exactly when there is room for it. -/
theorem Intact.add_iff (h : s.Intact isAec) (effect : Nat) (configs : Option (List ChannelConfig))
    (configure : Nat → Bool) :
    (s.addAudioEffect effect (isAec effect) configs configure).Intact isAec ↔
      s.numPreprocessors < maxPreprocessors := by
  unfold addAudioEffect
  rw [if_neg (Nat.not_lt.mpr h.bound)]
  dsimp only
  generalize hinfo : attach (s.preprocessors s.numPreprocessors) effect configs = info
  have hitfe : info.effectItfe = some effect := hinfo ▸ attach_effectItfe _ _ _
  generalize hadded : ({ s with
    preprocessors := Function.update s.preprocessors s.numPreprocessors info
    numPreprocessors := s.numPreprocessors + 1
    attached := s.attached ++ [info] } : EffectStream) = added
  obtain ⟨uslots, unum, uaec, uattached, udevices, umain⟩ :=
    added.inUpdateAuxChannels_same configure
  have haux := added.aux_inUpdateAuxChannels configure
  generalize added.inUpdateAuxChannels configure = updated at *
  obtain ⟨wslots, wnum, wattached, wdevices, wmain, waux, wfailed⟩ :=
    switchAec_same (s := { updated with auxChannelsChanged := true }) (isAec effect) true
  have waec := enableAec_switchAec (s := { updated with auxChannelsChanged := true })
    (isAec effect) true
  generalize switchAec { updated with auxChannelsChanged := true } (isAec effect) true = t at *
  subst hadded
  have hnum : t.numPreprocessors = s.numPreprocessors + 1 := wnum.trans unum
  have hslots : t.preprocessors = Function.update s.preprocessors s.numPreprocessors info :=
    wslots.trans uslots
  have hattached : t.attached = s.attached ++ [info] := wattached.trans uattached
  constructor
  · intro ht
    have hbound := ht.bound
    omega
  · intro hroom
    refine ⟨by omega, ?_, fun i hi hmax => ?_, ?_, ?_⟩
    · rw [hnum, hslots, hattached, entries_succ, Function.update_self, ← h.entries]
      rw [entries_congr fun i hi => Function.update_of_ne (Nat.ne_of_lt hi) _ _]
    · rw [hslots, Function.update_of_ne (by omega)]
      exact h.cleared i (by omega) hmax
    · rw [hattached, hasAec_append_single s.attached hitfe, waec]
      cases haec : isAec effect with
      | true => simp
      | false =>
        simp only [Bool.false_eq_true, if_false, or_false]
        exact (Bool.coe_iff_coe.mpr uaec).trans h.aec
    · have hget : t.inGetAuxChannels = updated.inGetAuxChannels :=
        inGetAuxChannels_congr wdevices wmain wnum wslots
      rw [waux, auxDetermined, wfailed, hget]
      exact haux

theorem Intact.mem_attached_iff (h : s.Intact isAec) (effect : Nat) :
    (∃ info ∈ s.attached, holds info effect = true) ↔
      ∃ i < s.numPreprocessors, holds (s.preprocessors i) effect = true := by
  rw [← h.entries]
  unfold EffectStream.entries
  simp only [List.mem_map, List.mem_range]
  constructor
  · rintro ⟨_, ⟨i, hi, rfl⟩, hheld⟩
    exact ⟨i, hi, hheld⟩
  · rintro ⟨i, hi, hheld⟩
    exact ⟨_, ⟨i, hi, rfl⟩, hheld⟩

theorem HasAec.of_eraseP {effects : List EffectInfo} {effect : Nat} (haec : isAec effect = false) :
    HasAec isAec (effects.eraseP (holds · effect)) ↔ HasAec isAec effects := by
  constructor
  · rintro ⟨info, hmem, hrest⟩
    exact ⟨info, List.mem_of_mem_eraseP hmem, hrest⟩
  · rintro ⟨info, hmem, effect', hitfe, haec'⟩
    -- an echo canceller is not the effect that is removed
    have hkept : holds info effect = false := by
      unfold holds
      rw [hitfe]
      cases heq : (some effect' == some effect : Bool) with
      | false => rfl
      | true =>
        obtain rfl := Option.some.inj (eq_of_beq heq)
        exact absurd haec' (by rw [haec]; decide)
    exact ⟨info, (List.mem_eraseP_of_neg (by simp [hkept])).mpr hmem, effect', hitfe, haec'⟩

/-- Removing an effect keeps the list exactly when no echo canceller stays behind and the auxiliary
channels are still those of the effects that remain. -/
theorem Intact.remove_iff (h : s.Intact isAec) (effect : Nat) :
    (s.removeAudioEffect effect (isAec effect)).Intact isAec ↔
      ((∃ info ∈ s.attached, holds info effect = true) →
        s.LastAec isAec effect ∧ s.AuxKept effect) := by
  rw [h.mem_attached_iff]
  unfold removeAudioEffect
  by_cases hzero : s.numPreprocessors = 0
  · rw [if_pos hzero]
    exact iff_of_true h fun ⟨i, hi, _⟩ => absurd hi (by omega)
  · rw [if_neg hzero]
    dsimp only
    rcases removeLoop_spec s.preprocessors s.numPreprocessors effect with
      ⟨hloop, hnone⟩ | ⟨j, hj, hfound, hbefore, hloop⟩
    · rw [hloop, if_pos rfl]
      exact iff_of_true h fun ⟨i, hi, hheld⟩ => absurd hheld (by rw [hnone i hi]; decide)
    · rw [forall_prop_of_true ⟨j, hj, hfound⟩]
      unfold AuxKept
      rw [hloop, if_neg (by simp)]
      dsimp only
      have hentries := (entries_moved hj hfound hbefore).trans (congrArg _ h.entries)
      generalize hremoved : ({ s with
        preprocessors := Function.update (moved s.preprocessors s.numPreprocessors j)
          (s.numPreprocessors - 1) EffectInfo.cleared
        numPreprocessors := s.numPreprocessors - 1
        auxChannelsChanged := false
        attached := s.attached.eraseP (holds · effect) } : EffectStream) = removed
      obtain ⟨wslots, wnum, wattached, wdevices, wmain, waux, wfailed⟩ :=
        switchAec_same (s := removed) (isAec effect) false
      have waec := enableAec_switchAec (s := removed) (isAec effect) false
      generalize switchAec removed (isAec effect) false = t at *
      subst hremoved
      have hget : t.inGetAuxChannels = inGetAuxChannels { s with
          preprocessors := Function.update (moved s.preprocessors s.numPreprocessors j)
            (s.numPreprocessors - 1) EffectInfo.cleared
          numPreprocessors := s.numPreprocessors - 1 } :=
        inGetAuxChannels_congr wdevices wmain wnum wslots
      have hattached : t.attached = s.attached.eraseP (holds · effect) := wattached
      have haec : (t.enableAec = true ↔ HasAec isAec t.attached) ↔ s.LastAec isAec effect := by
        rw [hattached, waec]
        unfold LastAec
        cases haec : isAec effect with
        | true => simp
        | false =>
          rw [HasAec.of_eraseP haec]
          simpa using h.aec
      have haux : t.auxChannels = t.auxDetermined ↔
          s.configureFailed = true ∨ t.inGetAuxChannels = s.auxChannels := by
        unfold auxDetermined
        rw [waux, wfailed]
        show s.auxChannels = (if s.configureFailed = true then _ else _) ↔ _
        have hbefore := h.aux
        unfold auxDetermined at hbefore
        cases hfail : s.configureFailed with
        | true =>
          rw [hfail, if_pos rfl] at hbefore
          simp [hbefore]
        | false => simp [eq_comm]
      rw [← hget, ← haux, ← haec]
      constructor
      · exact fun ht => ⟨ht.aec, ht.aux⟩
      · intro hboth
        refine ⟨?_, ?_, fun i hi hmax => ?_, hboth.1, hboth.2⟩
        · rw [wnum]
          have hbound := h.bound
          show s.numPreprocessors - 1 ≤ maxPreprocessors
          omega
        · rw [wslots, wnum, hattached, ← hentries]
          exact entries_congr fun i hi => Function.update_of_ne (Nat.ne_of_lt hi) _ _
        · rw [wnum] at hi
          rw [wslots]
          change s.numPreprocessors - 1 ≤ i at hi
          show Function.update (moved _ _ _) (s.numPreprocessors - 1) _ i = _
          by_cases hlast : i = s.numPreprocessors - 1
          · rw [hlast, Function.update_self]
          · rw [Function.update_of_ne hlast]
            unfold moved
            rw [if_neg (by omega)]
            exact h.cleared i (by omega) hmax

/-! ## 5. Runs of requests -/

/-- One request keeps the list exactly when it is harmless. -/
theorem Intact.step_iff (h : s.Intact isAec) (r : EffectRequest) :
    (s.step isAec r).Intact isAec ↔ r.Harmless isAec s := by
  cases r with
  | add effect descriptor configs configure =>
    unfold EffectStream.step EffectRequest.Harmless
    cases descriptor with
    | false => exact iff_of_true h nofun
    | true =>
      show Intact isAec (s.addAudioEffect _ _ _ _) ↔ (true = true → _)
      rw [forall_prop_of_true rfl]
      exact h.add_iff effect configs configure
  | remove effect descriptor =>
    unfold EffectStream.step EffectRequest.Harmless
    cases descriptor with
    | false => exact iff_of_true h nofun
    | true =>
      show Intact isAec (s.removeAudioEffect _ _) ↔ (true = true → _)
      rw [forall_prop_of_true rfl]
      exact h.remove_iff effect

theorem intact_opened (isAec : Nat → Bool) (devices : AudioDevices) (mainChannels : ChannelMask) :
    (opened devices mainChannels).Intact isAec where
  bound := Nat.zero_le _
  entries := rfl
  cleared := fun _ _ _ => rfl
  aec := ⟨nofun, fun ⟨_, hmem, _⟩ => nomatch hmem⟩
  aux := rfl

/-- In a run of harmless requests the list is what the requests make of it; the first request that
is not harmless ends this. -/
theorem intact_of_harmless {devices : AudioDevices} {mainChannels : ChannelMask}
    {requests : List EffectRequest} {s : EffectStream}
    (run : ExecWhere (fun s r => r.Harmless isAec s) (functional (step isAec))
      (opened devices mainChannels) requests s) :
    s.Intact isAec ∧ ∀ r, (s.step isAec r).Intact isAec ↔ r.Harmless isAec s := by
  have hs : s.Intact isAec := by
    apply run.invariant (I := Intact isAec)
    · rintro s r t hs hr rfl
      exact (hs.step_iff r).mpr hr
    · exact intact_opened isAec devices mainChannels
  exact ⟨hs, hs.step_iff⟩

/-- An echo canceller and a noise suppressor are added, and the first is removed. -/
def aecRequests : List EffectRequest :=
  [.add 0 true none (fun _ => true), .add 1 true none (fun _ => true), .remove 0 true]

theorem intact_of_harmless_aec :
    (aecRequests.foldl (step (· == 0)) (opened AudioDevices.inBuiltinMic
      ChannelMask.inFront)).Intact (· == 0) := by
  refine (@intact_of_harmless (· == 0) _ _ aecRequests _ (ExecWhere.folded fun n r hr => ?_)).1
  match n with
  | 0 | 1 =>
    obtain rfl := Option.some.inj hr
    exact fun _ => by decide
  | 2 =>
    obtain rfl := Option.some.inj hr
    refine fun _ _ => ⟨fun _ => ?_, .inr (by decide)⟩
    rintro ⟨info, hmem, effect, hitfe, haec⟩
    obtain rfl := List.mem_singleton.mp hmem
    obtain rfl := Option.some.inj hitfe
    cases haec
  | n + 3 => cases hr

/-- A fourth effect is stored behind the array. -/
theorem not_intact_fourth_effect :
    ¬ ∀ (isAec : Nat → Bool) (devices : AudioDevices) (mainChannels : ChannelMask)
      (requests : List EffectRequest) (s : EffectStream),
      Exec (functional (step isAec)) (opened devices mainChannels) requests s →
      s.Intact isAec := by
  intro h
  let add (effect : Nat) : EffectRequest := .add effect true none (fun _ => true)
  have hintact := h (fun _ => false) AudioDevices.inBuiltinMic ChannelMask.inFront _ _
    (Exec.folded (step fun _ => false) _ [add 0, add 1, add 2, add 3])
  exact absurd hintact.bound (by decide)

end EffectStream

end Universal7870.Audio
