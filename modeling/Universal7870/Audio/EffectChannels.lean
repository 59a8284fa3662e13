import Universal7870.Audio.EffectList

/-!
# The channels of the effects

`in_update_aux_channels` with the commands it sends.  An effect answers each command as it likes;
what it works with is what it last accepted.
-/

namespace Universal7870.Audio

open Lib

/-! ## 1. The commands -/

/-- How a command ends: the result of the call, and the status of the reply. -/
structure CommandOutcome where
  fctStatus : Int
  cmdStatus : Int
  deriving DecidableEq, Repr

def CommandOutcome.accepted (o : CommandOutcome) : Bool := o.fctStatus = 0 ∧ o.cmdStatus = 0

/-- `GET_COMMAND_STATUS`: a status that is there stays, unless there is another one. -/
def getCommandStatus (status : Int) (o : CommandOutcome) : Int :=
  if o.fctStatus ≠ 0 then o.fctStatus else if o.cmdStatus ≠ 0 then o.cmdStatus else status

/-- How the commands of `in_configure_effect_channels` end. -/
structure ConfigureOutcome where
  getConfig : Int
  setConfig : CommandOutcome
  setFeatureConfig : CommandOutcome
  enable : CommandOutcome
  deriving DecidableEq, Repr

/-- All commands succeed. -/
def ConfigureOutcome.ok (o : ConfigureOutcome) : Bool :=
  o.getConfig = 0 ∧ o.setConfig.accepted ∧ o.setFeatureConfig.accepted ∧ o.enable.accepted

/-- What an effect last accepted; a command it refuses leaves nothing. -/
structure EffectState where
  channels : Option ChannelMask := none
  auxChannels : Option ChannelConfig := none
  enabled : Bool := false
  deriving DecidableEq, Repr

def EffectState.configured (config : ChannelConfig) : EffectState where
  channels := some (config.mainChannels ||| config.auxChannels)
  auxChannels := some config
  enabled := true

def inConfigureEffectChannels (config : ChannelConfig) (o : ConfigureOutcome) (e : EffectState) :
    Int × EffectState :=
  if o.getConfig ≠ 0 then (o.getConfig, e)
  else
    (getCommandStatus (getCommandStatus (getCommandStatus 0 o.setConfig) o.setFeatureConfig)
      o.enable,
     { channels :=
         if o.setConfig.accepted then some (config.mainChannels ||| config.auxChannels) else none
       auxChannels := if o.setFeatureConfig.accepted then some config else none
       enabled := o.enable.accepted })

/-- The stream and all effects. -/
structure EffectChannels where
  stream : EffectStream
  effects : Nat → EffectState

namespace EffectChannels

open EffectStream

/-- One turn of the loop over all slots; the last error is kept. -/
def reconfigureTurn (slots : Nat → EffectInfo) (config : ChannelConfig)
    (outcome : Nat → ConfigureOutcome) (r : Int × (Nat → EffectState)) (i : Nat) :
    Int × (Nat → EffectState) :=
  -- a slot without an interface would be skipped
  match (slots i).effectItfe with
  | none => r
  | some effect =>
    let configured := inConfigureEffectChannels config (outcome i) (r.2 effect)
    (if configured.1 ≠ 0 then configured.1 else r.1, Function.update r.2 effect configured.2)

/-- The outcomes are those of the slots. -/
def inReconfigureChannels (s : EffectStream) (effect : Nat) (config : ChannelConfig)
    (configChanged : Bool) (outcome : Nat → ConfigureOutcome) (effects : Nat → EffectState) :
    Int × (Nat → EffectState) :=
  if configChanged then
    (List.range s.numPreprocessors).foldl (reconfigureTurn s.preprocessors config outcome)
      (0, effects)
  else if config.auxChannels ≠ 0 then
    -- the channels stay, and the new effect takes them like the others
    let configured := inConfigureEffectChannels config (outcome (s.numPreprocessors - 1))
      (effects effect)
    (configured.1, Function.update effects effect configured.2)
  else (0, effects)

/-- Where a configuration fails, all effects are configured without auxiliary channels, and how that
ends is not looked at. -/
def inUpdateAuxChannels (c : EffectChannels) (effect : Nat)
    (outcome reset : Nat → ConfigureOutcome) : EffectChannels :=
  let s := c.stream
  let auxChannels := s.inGetAuxChannels
  let r := inReconfigureChannels s effect ⟨s.mainChannels, auxChannels⟩
    (auxChannels ≠ s.auxChannels) outcome c.effects
  let failed := decide (r.1 ≠ 0)
  let effects :=
    -- no auxiliary channels for any effect, also not for those that took them
    if failed then (inReconfigureChannels s effect ⟨s.mainChannels, 0⟩ true reset r.2).2 else r.2
  let auxChannels := if failed then 0 else auxChannels
  let s := { s with configureFailed := failed }
  { effects := effects
    stream :=
      if s.auxChannels ≠ auxChannels then
        { s with auxChannelsChanged := true, auxChannels := auxChannels, standby := true }
      else s }

/-- `add_remove_audio_effect` to add an effect.  A fourth one would be stored behind the array, over
`aux_channels_changed`, `aux_channels` and `dev`; there is no state for what follows. -/
def addAudioEffect (c : EffectChannels) (effect : Nat) (isAec : Bool)
    (configs : Option (List ChannelConfig)) (outcome reset : Nat → ConfigureOutcome) :
    Option EffectChannels :=
  if c.stream.numPreprocessors > maxPreprocessors then some c
  else if c.stream.numPreprocessors = maxPreprocessors then none
  else
    let s := c.stream
    let info := attach (s.preprocessors s.numPreprocessors) effect configs
    let c := inUpdateAuxChannels { c with stream := { s with
      preprocessors := Function.update s.preprocessors s.numPreprocessors info
      numPreprocessors := s.numPreprocessors + 1
      attached := s.attached ++ [info] } } effect outcome reset
    some { c with stream := switchAec { c.stream with auxChannelsChanged := true } isAec true }

end EffectChannels

/-- A request to the stream with the answers of the effects, or a change of its devices. -/
inductive EffectCall
  | add (effect : Nat) (descriptor : Bool) (configs : Option (List ChannelConfig))
      (outcome reset : Nat → ConfigureOutcome)
  | remove (effect : Nat) (descriptor : Bool)
  | route (devices : AudioDevices)

namespace EffectChannels

open EffectStream

def step (isAec : Nat → Bool) (c : EffectChannels) : EffectCall → Option EffectChannels
  | .add effect descriptor configs outcome reset =>
    if descriptor then c.addAudioEffect effect (isAec effect) configs outcome reset else some c
  | .remove effect descriptor =>
    some (if descriptor then
      { c with stream := c.stream.removeAudioEffect effect (isAec effect) } else c)
  | .route devices => some { c with stream := { c.stream with devices := devices } }

/-! ## 2. What the commands do -/

theorem getCommandStatus_eq_zero {status : Int} {o : CommandOutcome} :
    getCommandStatus status o = 0 ↔ status = 0 ∧ o.accepted = true := by
  unfold getCommandStatus CommandOutcome.accepted
  rw [decide_eq_true_iff]
  split
  · rename_i hfct
    exact iff_of_false hfct fun h => hfct h.2.1
  · rename_i hfct
    split
    · rename_i hcmd
      exact iff_of_false hcmd fun h => hcmd h.2.2
    · rename_i hcmd
      exact ⟨fun h => ⟨h, not_not.mp hfct, not_not.mp hcmd⟩, fun h => h.1⟩

/-- The status is that of all commands. -/
theorem status_inConfigure (config : ChannelConfig) (o : ConfigureOutcome) (e : EffectState) :
    (inConfigureEffectChannels config o e).1 = 0 ↔ o.ok = true := by
  unfold inConfigureEffectChannels ConfigureOutcome.ok
  rw [decide_eq_true_iff]
  split
  · rename_i hget
    exact iff_of_false hget fun h => hget h.1
  · rename_i hget
    rw [getCommandStatus_eq_zero, getCommandStatus_eq_zero, getCommandStatus_eq_zero]
    constructor
    · rintro ⟨⟨⟨_, hset⟩, hfeature⟩, henable⟩
      exact ⟨not_not.mp hget, hset, hfeature, henable⟩
    · rintro ⟨_, hset, hfeature, henable⟩
      exact ⟨⟨⟨rfl, hset⟩, hfeature⟩, henable⟩

theorem configured_of_ok (config : ChannelConfig) {o : ConfigureOutcome} (h : o.ok = true)
    (e : EffectState) : (inConfigureEffectChannels config o e).2 = .configured config := by
  unfold ConfigureOutcome.ok at h
  rw [decide_eq_true_iff] at h
  unfold inConfigureEffectChannels EffectState.configured
  rw [if_neg (not_not.mpr h.1)]
  dsimp only
  rw [if_pos h.2.1, if_pos h.2.2.1, h.2.2.2]

section

variable {slots : Nat → EffectInfo} {config : ChannelConfig} {outcome : Nat → ConfigureOutcome}

/-- The loop over `n` slots. -/
def reconfigureLoop (slots : Nat → EffectInfo) (config : ChannelConfig)
    (outcome : Nat → ConfigureOutcome) (effects : Nat → EffectState) (n : Nat) :
    Int × (Nat → EffectState) :=
  (List.range n).foldl (reconfigureTurn slots config outcome) (0, effects)

theorem reconfigureLoop_succ (effects : Nat → EffectState) (n : Nat) :
    reconfigureLoop slots config outcome effects (n + 1) =
      reconfigureTurn slots config outcome (reconfigureLoop slots config outcome effects n) n := by
  unfold reconfigureLoop
  rw [List.range_succ, List.foldl_append]
  rfl

/-- The loop succeeds exactly when all effects take the configuration, and they work with it then. -/
theorem reconfigureLoop_spec {n : Nat} (hheld : ∀ i < n, ∃ effect, (slots i).effectItfe = some effect)
    (effects : Nat → EffectState) :
    ((reconfigureLoop slots config outcome effects n).1 = 0 ↔ ∀ i < n, (outcome i).ok = true) ∧
    ((reconfigureLoop slots config outcome effects n).1 = 0 →
      ∀ i < n, ∀ effect, (slots i).effectItfe = some effect →
        (reconfigureLoop slots config outcome effects n).2 effect = .configured config) := by
  induction n with
  | zero => exact ⟨iff_of_true rfl fun i hi => absurd hi (Nat.not_lt_zero i),
      fun _ i hi => absurd hi (Nat.not_lt_zero i)⟩
  | succ n ih =>
    obtain ⟨hstatus, hstate⟩ := ih fun i hi => hheld i (Nat.lt_succ_of_lt hi)
    obtain ⟨last, hlast⟩ := hheld n (Nat.lt_succ_self n)
    rw [reconfigureLoop_succ]
    generalize reconfigureLoop slots config outcome effects n = r at *
    unfold reconfigureTurn
    rw [hlast]
    dsimp only
    have hone := status_inConfigure config (outcome n) (r.2 last)
    have hok := fun h => configured_of_ok config (o := outcome n) h (r.2 last)
    generalize inConfigureEffectChannels config (outcome n) (r.2 last) = configured at *
    -- the status is that of the turn before unless this turn fails
    by_cases hzero : configured.1 = 0
    · rw [if_neg (not_not.mpr hzero)]
      constructor
      · rw [hstatus]
        constructor
        · intro hall i hi
          rcases Nat.lt_succ_iff_lt_or_eq.mp hi with hlt | rfl
          · exact hall i hlt
          · exact hone.mp hzero
        · exact fun hall i hi => hall i (Nat.lt_succ_of_lt hi)
      · intro hr i hi effect heffect
        -- an effect in two slots is in the state that the later one gave it
        by_cases hsame : effect = last
        · subst hsame
          rw [Function.update_self]
          exact hok (hone.mp hzero)
        · rw [Function.update_of_ne hsame]
          rcases Nat.lt_succ_iff_lt_or_eq.mp hi with hlt | rfl
          · exact hstate hr i hlt effect heffect
          · exact absurd (Option.some.inj (heffect.symm.trans hlast)) hsame
    · rw [if_pos hzero]
      refine ⟨iff_of_false hzero fun hall => ?_, fun h => absurd h hzero⟩
      exact hzero (hone.mpr (hall n (Nat.lt_succ_self n)))

end

/-! ## 3. The channels of the stream -/

/-- Channels that are chosen are a configuration for the main channels that all effects support. -/
theorem inGetAuxChannels_spec {s : EffectStream} (h : s.inGetAuxChannels ≠ 0) :
    (⟨s.mainChannels, s.inGetAuxChannels⟩ : ChannelConfig) ∈ inAuxCnlConfigs ∧
      ∀ i < s.numPreprocessors, supports (s.preprocessors i) ⟨s.mainChannels, s.inGetAuxChannels⟩ := by
  unfold inGetAuxChannels at h ⊢
  split at h
  · exact absurd rfl h
  rename_i hnum
  split at h
  · exact absurd rfl h
  rename_i hdevices
  rw [if_neg hnum, if_neg hdevices]
  -- what is chosen so far is nothing, or such a configuration
  have hbest := List.foldlRecOn (motive := fun (new : ChannelConfig) => new.auxChannels = 0 ∨
      new.mainChannels = s.mainChannels ∧ new ∈ inAuxCnlConfigs ∧
        ∀ i < s.numPreprocessors, supports (s.preprocessors i) new = true)
    inAuxCnlConfigs
    (fun new cur =>
      if cur.mainChannels = s.mainChannels ∧
          (List.range s.numPreprocessors).all (fun i => supports (s.preprocessors i) cur) ∧
          new.auxChannels.count < cur.auxChannels.count
      then cur else new)
    (b := ⟨0, 0⟩) (.inl rfl) fun new hnew cur hcur => by
      split
      · rename_i hbetter
        refine .inr ⟨hbetter.1, hcur, fun i hi => ?_⟩
        exact List.all_eq_true.mp hbetter.2.1 i (List.mem_range.mpr hi)
      · exact hnew
  generalize inAuxCnlConfigs.foldl _ _ = best at *
  rcases hbest with hzero | ⟨hmain, hlisted, hall⟩
  · exact absurd hzero h
  · rw [← hmain]
    exact ⟨hlisted, hall⟩

variable {c : EffectChannels} {effect : Nat} {outcome reset : Nat → ConfigureOutcome}

/-- The first configuration fails exactly where the list of effects has it fail. -/
theorem status_inReconfigure
    (hheld : ∀ i < c.stream.numPreprocessors, ∃ e, (c.stream.preprocessors i).effectItfe = some e) :
    (inReconfigureChannels c.stream effect ⟨c.stream.mainChannels, c.stream.inGetAuxChannels⟩
      (c.stream.inGetAuxChannels ≠ c.stream.auxChannels) outcome c.effects).1 = 0 ↔
      c.stream.reconfigures (fun i => (outcome i).ok) = true := by
  unfold inReconfigureChannels reconfigures
  dsimp only
  by_cases hchanged : c.stream.inGetAuxChannels ≠ c.stream.auxChannels
  · rw [if_pos (decide_eq_true hchanged), if_pos hchanged, List.all_eq_true]
    refine (reconfigureLoop_spec hheld c.effects).1.trans ?_
    simp only [List.mem_range]
  · rw [if_neg fun h => hchanged (of_decide_eq_true h), if_neg hchanged, Bool.or_eq_true]
    split
    · rename_i haux
      rw [beq_iff_eq, or_iff_right haux]
      exact status_inConfigure _ _ _
    · rename_i haux
      exact iff_of_true rfl (.inl (beq_iff_eq.mpr (not_not.mp haux)))

/-- Seen from the stream the commands are whether each effect can be configured. -/
theorem stream_inUpdateAuxChannels
    (hheld : ∀ i < c.stream.numPreprocessors, ∃ e, (c.stream.preprocessors i).effectItfe = some e) :
    (c.inUpdateAuxChannels effect outcome reset).stream =
      c.stream.inUpdateAuxChannels fun i => (outcome i).ok := by
  have hstatus := @status_inReconfigure c effect outcome hheld
  unfold inUpdateAuxChannels EffectStream.inUpdateAuxChannels
  dsimp only
  generalize inReconfigureChannels c.stream effect
    ⟨c.stream.mainChannels, c.stream.inGetAuxChannels⟩
    (c.stream.inGetAuxChannels ≠ c.stream.auxChannels) outcome c.effects = r at *
  cases hok : c.stream.reconfigures (fun i => (outcome i).ok) with
  | true =>
    rw [hok] at hstatus
    have hfailed : decide (r.1 ≠ 0) = false := decide_eq_false (not_not.mpr (hstatus.mpr rfl))
    rw [hfailed]
    rfl
  | false =>
    rw [hok] at hstatus
    have hfailed : decide (r.1 ≠ 0) = true :=
      decide_eq_true fun h => Bool.false_ne_true (hstatus.mp h)
    rw [hfailed]
    rfl

/-! ## 4. The effects of a stream -/

/-- An effect in each slot; and with auxiliary channels, each effect supports the channels of the
stream and works with them. -/
structure Configured (c : EffectChannels) : Prop where
  held : ∀ i < c.stream.numPreprocessors, ∃ e, (c.stream.preprocessors i).effectItfe = some e
  listed : c.stream.auxChannels ≠ 0 →
    (⟨c.stream.mainChannels, c.stream.auxChannels⟩ : ChannelConfig) ∈ inAuxCnlConfigs
  supported : c.stream.auxChannels ≠ 0 → ∀ i < c.stream.numPreprocessors,
    supports (c.stream.preprocessors i) ⟨c.stream.mainChannels, c.stream.auxChannels⟩
  state : c.stream.auxChannels ≠ 0 → ∀ i < c.stream.numPreprocessors, ∀ e,
    (c.stream.preprocessors i).effectItfe = some e →
    c.effects e = .configured ⟨c.stream.mainChannels, c.stream.auxChannels⟩

theorem configureFailed_inUpdateAuxChannels (s : EffectStream) (configure : Nat → Bool) :
    (s.inUpdateAuxChannels configure).configureFailed = !s.reconfigures configure := by
  unfold EffectStream.inUpdateAuxChannels
  dsimp only
  generalize (if s.reconfigures configure = true then s.inGetAuxChannels else 0) = aux
  split <;> rfl

/-- The channels behind an update are what was chosen, all effects of which take it, or none. -/
theorem update_cases
    (hheld : ∀ i < c.stream.numPreprocessors, ∃ e, (c.stream.preprocessors i).effectItfe = some e) :
    (c.inUpdateAuxChannels effect outcome reset).stream.auxChannels = 0 ∨
      (c.inUpdateAuxChannels effect outcome reset).stream.auxChannels = c.stream.inGetAuxChannels ∧
      c.stream.reconfigures (fun i => (outcome i).ok) = true ∧
      (c.inUpdateAuxChannels effect outcome reset).effects =
        (inReconfigureChannels c.stream effect ⟨c.stream.mainChannels, c.stream.inGetAuxChannels⟩
          (c.stream.inGetAuxChannels ≠ c.stream.auxChannels) outcome c.effects).2 := by
  have hstatus := @status_inReconfigure c effect outcome hheld
  rw [stream_inUpdateAuxChannels hheld, aux_inUpdateAuxChannels]
  obtain ⟨hslots, hnum, _, _, hdevices, hmain⟩ :=
    c.stream.inUpdateAuxChannels_same fun i => (outcome i).ok
  unfold auxDetermined
  rw [inGetAuxChannels_congr hdevices hmain hnum hslots, configureFailed_inUpdateAuxChannels]
  cases hok : c.stream.reconfigures (fun i => (outcome i).ok) with
  | true =>
    refine .inr ⟨if_neg Bool.false_ne_true, rfl, ?_⟩
    rw [hok] at hstatus
    unfold inUpdateAuxChannels
    dsimp only
    have hfailed : ∀ status : Int, status = 0 → decide (status ≠ 0) = false :=
      fun status h => decide_eq_false (not_not.mpr h)
    rw [hfailed _ (hstatus.mpr rfl)]
    rfl
  | false => exact .inl (if_pos rfl)

/-- An effect was stored in the last slot: behind the update all effects work with the channels. -/
theorem update_configured {n : Nat} (hnum : c.stream.numPreprocessors = n + 1)
    (hheld : ∀ i < c.stream.numPreprocessors, ∃ e, (c.stream.preprocessors i).effectItfe = some e)
    (hlast : (c.stream.preprocessors n).effectItfe = some effect)
    (hstate : c.stream.auxChannels ≠ 0 → ∀ i < n, ∀ e,
      (c.stream.preprocessors i).effectItfe = some e →
      c.effects e = .configured ⟨c.stream.mainChannels, c.stream.auxChannels⟩) :
    (c.inUpdateAuxChannels effect outcome reset).Configured := by
  have hcases := @update_cases c effect outcome reset hheld
  have hstream := @stream_inUpdateAuxChannels c effect outcome reset hheld
  obtain ⟨hslots, hnum', _, _, _, hmain⟩ :=
    c.stream.inUpdateAuxChannels_same fun i => (outcome i).ok
  rw [← hstream] at hslots hnum' hmain
  generalize c.inUpdateAuxChannels effect outcome reset = c' at *
  -- with auxiliary channels behind it, the update has not failed
  have hchosen : c'.stream.auxChannels ≠ 0 →
      c'.stream.auxChannels = c.stream.inGetAuxChannels ∧ c.stream.inGetAuxChannels ≠ 0 ∧
      c.stream.reconfigures (fun i => (outcome i).ok) = true ∧
      c'.effects = (inReconfigureChannels c.stream effect
        ⟨c.stream.mainChannels, c.stream.inGetAuxChannels⟩
        (c.stream.inGetAuxChannels ≠ c.stream.auxChannels) outcome c.effects).2 := by
    intro haux
    obtain ⟨hget, hok, heffects⟩ := hcases.resolve_left haux
    exact ⟨hget, hget ▸ haux, hok, heffects⟩
  refine ⟨?_, fun haux => ?_, fun haux => ?_, fun haux => ?_⟩
  · rw [hslots, hnum']
    exact hheld
  · obtain ⟨hget, hne, -⟩ := hchosen haux
    rw [hmain, hget]
    exact (inGetAuxChannels_spec hne).1
  · obtain ⟨hget, hne, -⟩ := hchosen haux
    rw [hmain, hget, hslots, hnum']
    exact (inGetAuxChannels_spec hne).2
  · obtain ⟨hget, hne, hok, heffects⟩ := hchosen haux
    rw [hmain, hget, hslots, hnum', heffects]
    unfold inReconfigureChannels
    unfold reconfigures at hok
    by_cases hchanged : c.stream.inGetAuxChannels ≠ c.stream.auxChannels
    · rw [if_pos (decide_eq_true hchanged)]
      rw [if_pos hchanged, List.all_eq_true] at hok
      have hloop := @reconfigureLoop_spec c.stream.preprocessors
        ⟨c.stream.mainChannels, c.stream.inGetAuxChannels⟩ outcome _ hheld c.effects
      exact hloop.2 (hloop.1.mpr fun i hi => hok i (List.mem_range.mpr hi))
    · -- the channels stay, and only the effect that was added is configured
      rw [if_neg fun h => hchanged (of_decide_eq_true h), if_pos hne]
      rw [if_neg hchanged, Bool.or_eq_true, beq_iff_eq, or_iff_right hne] at hok
      have hsame := not_not.mp hchanged
      intro i hi e he
      dsimp only
      by_cases hlatest : e = effect
      · rw [hlatest, Function.update_self]
        exact configured_of_ok _ hok _
      · rw [Function.update_of_ne hlatest, hsame]
        -- any other slot was there before, and its effect keeps the configuration
        have hbefore : i ≠ n := by
          rintro rfl
          exact hlatest (Option.some.inj (he.symm.trans hlast))
        exact hstate (hsame ▸ hne) i (by omega) e he

/-- The stream with an effect in the next slot. -/
def stored (s : EffectStream) (info : EffectInfo) : EffectStream :=
  { s with
    preprocessors := Function.update s.preprocessors s.numPreprocessors info
    numPreprocessors := s.numPreprocessors + 1
    attached := s.attached ++ [info] }

theorem Configured.held_stored (h : c.Configured) {info : EffectInfo}
    (hinfo : info.effectItfe = some effect) : ∀ i < (stored c.stream info).numPreprocessors,
      ∃ e, ((stored c.stream info).preprocessors i).effectItfe = some e := by
  intro i hi
  change ∃ e, (Function.update c.stream.preprocessors c.stream.numPreprocessors info i).effectItfe =
    some e
  by_cases hlast : i = c.stream.numPreprocessors
  · rw [hlast, Function.update_self]
    exact ⟨effect, hinfo⟩
  · rw [Function.update_of_ne hlast]
    exact h.held i (by change i < c.stream.numPreprocessors + 1 at hi; omega)

theorem Configured.of_switchAec (h : c.Configured) (changed isAec enable : Bool) :
    ({ c with stream := switchAec { c.stream with auxChannelsChanged := changed } isAec enable } :
      EffectChannels).Configured := by
  obtain ⟨hslots, hnum, _, _, hmain, haux, _⟩ := switchAec_same
    (s := { c.stream with auxChannelsChanged := changed }) isAec enable
  constructor
  · dsimp only
    rw [hslots, hnum]
    exact h.held
  · dsimp only
    rw [hmain, haux]
    exact h.listed
  · dsimp only
    rw [hslots, hnum, hmain, haux]
    exact h.supported
  · dsimp only
    rw [hslots, hnum, hmain, haux]
    exact h.state

theorem Configured.add (h : c.Configured) {isAec : Bool} {configs : Option (List ChannelConfig)}
    {c' : EffectChannels} (hadd : c.addAudioEffect effect isAec configs outcome reset = some c') :
    c'.Configured := by
  unfold addAudioEffect at hadd
  split at hadd
  · obtain rfl := Option.some.inj hadd
    exact h
  split at hadd
  · cases hadd
  · obtain rfl := Option.some.inj hadd
    apply Configured.of_switchAec
    have hinfo := attach_effectItfe (c.stream.preprocessors c.stream.numPreprocessors) effect configs
    generalize attach (c.stream.preprocessors c.stream.numPreprocessors) effect configs = info at *
    apply update_configured (n := c.stream.numPreprocessors) rfl (h.held_stored hinfo)
    · dsimp only
      rw [Function.update_self]
      exact hinfo
    · intro haux i hi e he
      dsimp only at he
      rw [Function.update_of_ne (Nat.ne_of_lt hi)] at he
      exact h.state haux i hi e he

theorem stream_addAudioEffect (h : c.Configured) {isAec : Bool}
    {configs : Option (List ChannelConfig)} {c' : EffectChannels}
    (hadd : c.addAudioEffect effect isAec configs outcome reset = some c') :
    c'.stream = c.stream.addAudioEffect effect isAec configs fun i => (outcome i).ok := by
  unfold addAudioEffect at hadd
  unfold EffectStream.addAudioEffect
  split at hadd
  · rename_i hmany
    rw [if_pos hmany]
    exact congrArg EffectChannels.stream (Option.some.inj hadd).symm
  rename_i hmany
  split at hadd
  · cases hadd
  · rw [if_neg hmany]
    obtain rfl := Option.some.inj hadd
    dsimp only
    have hinfo := attach_effectItfe (c.stream.preprocessors c.stream.numPreprocessors) effect configs
    rw [stream_inUpdateAuxChannels (h.held_stored hinfo)]

/-- The effects that remain are those they were. -/
theorem Configured.remove (h : c.Configured) (isAec : Bool) :
    ({ c with stream := c.stream.removeAudioEffect effect isAec } : EffectChannels).Configured := by
  unfold removeAudioEffect
  split
  · exact h
  · dsimp only
    rcases removeLoop_spec c.stream.preprocessors c.stream.numPreprocessors effect with
      ⟨hloop, _⟩ | ⟨j, hj, _, _, hloop⟩
    · rw [hloop, if_pos rfl]
      exact h
    · rw [hloop, if_neg Bool.noConfusion]
      apply Configured.of_switchAec (c := { c with stream := { c.stream with
        preprocessors := Function.update (moved c.stream.preprocessors c.stream.numPreprocessors j)
          (c.stream.numPreprocessors - 1) EffectInfo.cleared
        numPreprocessors := c.stream.numPreprocessors - 1
        attached := c.stream.attached.eraseP (holds · effect) } })
      -- a slot that is left holds what one of the slots held
      have hslot : ∀ i < c.stream.numPreprocessors - 1, ∃ k < c.stream.numPreprocessors,
          Function.update (moved c.stream.preprocessors c.stream.numPreprocessors j)
            (c.stream.numPreprocessors - 1) EffectInfo.cleared i = c.stream.preprocessors k := by
        intro i hi
        rw [Function.update_of_ne (Nat.ne_of_lt hi)]
        unfold moved
        split
        · exact ⟨i + 1, by omega, rfl⟩
        · exact ⟨i, by omega, rfl⟩
      refine ⟨fun i hi => ?_, h.listed, fun haux i hi => ?_, fun haux i hi e he => ?_⟩
      · obtain ⟨k, hk, heq⟩ := hslot i hi
        dsimp only
        rw [heq]
        exact h.held k hk
      · obtain ⟨k, hk, heq⟩ := hslot i hi
        dsimp only
        rw [heq]
        exact h.supported haux k hk
      · obtain ⟨k, hk, heq⟩ := hslot i hi
        dsimp only at he
        rw [heq] at he
        exact h.state haux k hk e he

end EffectChannels

/-- The request to the list of effects. -/
def EffectCall.request : EffectCall → Option EffectRequest
  | .add effect descriptor configs outcome _ =>
    some (.add effect descriptor configs fun i => (outcome i).ok)
  | .remove effect descriptor => some (.remove effect descriptor)
  | .route _ => none

namespace EffectChannels

open EffectStream

variable {isAec : Nat → Bool} {c : EffectChannels}

theorem Configured.step (h : c.Configured) {call : EffectCall} {c' : EffectChannels}
    (hstep : c.step isAec call = some c') : c'.Configured := by
  cases call with
  | add effect descriptor configs outcome reset =>
    unfold EffectChannels.step at hstep
    dsimp only at hstep
    split at hstep
    · exact h.add hstep
    · obtain rfl := Option.some.inj hstep
      exact h
  | remove effect descriptor =>
    obtain rfl := Option.some.inj hstep
    split
    · exact h.remove _
    · exact h
  | route devices =>
    obtain rfl := Option.some.inj hstep
    exact ⟨h.held, h.listed, h.supported, h.state⟩

/-- A request does to the stream what the list of effects does, which only knows which effects take
the configuration. -/
theorem Configured.stream_step (h : c.Configured) {call : EffectCall} {request : EffectRequest}
    {c' : EffectChannels} (hrequest : call.request = some request)
    (hstep : c.step isAec call = some c') : c'.stream = c.stream.step isAec request := by
  cases call with
  | add effect descriptor configs outcome reset =>
    obtain rfl := Option.some.inj hrequest
    unfold EffectChannels.step at hstep
    unfold EffectStream.step
    dsimp only at hstep ⊢
    split at hstep
    · rename_i hdescriptor
      rw [if_pos hdescriptor]
      exact stream_addAudioEffect h hstep
    · rename_i hdescriptor
      rw [if_neg hdescriptor]
      exact congrArg EffectChannels.stream (Option.some.inj hstep).symm
  | remove effect descriptor =>
    obtain rfl := Option.some.inj hrequest
    obtain rfl := Option.some.inj hstep
    unfold EffectStream.step
    dsimp only
    split <;> rfl
  | route devices => cases hrequest

/-- A stream as it is opened, with effects that may be in use elsewhere. -/
def opened (devices : AudioDevices) (mainChannels : ChannelMask) (effects : Nat → EffectState) :
    EffectChannels where
  stream := EffectStream.opened devices mainChannels
  effects := effects

theorem configured_opened (devices : AudioDevices) (mainChannels : ChannelMask)
    (effects : Nat → EffectState) : (opened devices mainChannels effects).Configured := by
  refine ⟨fun i hi => absurd hi (Nat.not_lt_zero i), fun haux => absurd rfl haux,
    fun haux => absurd rfl haux, fun haux => absurd rfl haux⟩

/-- Whatever effects are attached, detached and re-attached, no more than the array has slots for at
a time, wherever the stream is routed, and however the effects answer: while a stream has auxiliary
channels, they are one of its two configurations, and every attached effect supports it, has taken
it and was enabled behind it.  The stream is always the one that the list of effects computes. -/
theorem effects_configured {devices : AudioDevices} {mainChannels : ChannelMask}
    {effects : Nat → EffectState} {calls : List EffectCall} {c : EffectChannels}
    (run : Exec (guarded (step isAec)) (opened devices mainChannels effects) calls c) :
    c.Configured ∧ ∀ call request c', call.request = some request →
      c.step isAec call = some c' → c'.stream = c.stream.step isAec request := by
  have hc : c.Configured := by
    apply run.invariant (I := Configured)
    · exact fun c call c' hc hstep => hc.step hstep
    · exact configured_opened devices mainChannels effects
  exact ⟨hc, fun call request c' => hc.stream_step⟩

def accepting : ConfigureOutcome := ⟨0, ⟨0, 0⟩, ⟨0, 0⟩, ⟨0, 0⟩⟩

/-- A noise suppressor and an echo canceller, both for two microphones. -/
def twoMicCalls : List EffectCall :=
  [.add 4 true (some inAuxCnlConfigs) (fun _ => accepting) (fun _ => accepting),
    .add 7 true (some inAuxCnlConfigs) (fun _ => accepting) (fun _ => accepting)]

def twoMicStarted : EffectChannels :=
  opened AudioDevices.inBuiltinMic ChannelMask.inFront fun _ => {}

/-- The stream with both effects. -/
def twoMicStream : EffectChannels :=
  (twoMicCalls.foldlM (step (· == 7)) twoMicStarted).getD twoMicStarted

theorem effects_configured_twoMicCalls :
    twoMicStream.stream.auxChannels = ChannelMask.inBack ∧
      twoMicStream.effects 4 = .configured ⟨ChannelMask.inFront, ChannelMask.inBack⟩ := by
  have hrun : Exec (guarded (step (· == 7))) twoMicStarted twoMicCalls twoMicStream :=
    Exec.computed (by decide +kernel)
  have haux : twoMicStream.stream.auxChannels = ChannelMask.inBack := by decide +kernel
  refine ⟨haux, ?_⟩
  have hstate := (effects_configured hrun).1.state (haux ▸ by decide) 0 (by decide +kernel) 4
    (by decide +kernel)
  rw [haux] at hstate
  exact hstate

end EffectChannels

end Universal7870.Audio
