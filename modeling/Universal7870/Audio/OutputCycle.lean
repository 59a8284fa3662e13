import Universal7870.Audio.RefCounts

/-!
# Cycling the playback device

When `disable_snd_device` resets the path of an input device it applies the path of a playback
device again, for the two may share mixer controls.  A reset leaves the playback usecases without
their routes where the input device is the first one of the enumeration, or where the device that
is cycled is not the one they are routed to.
-/

namespace Universal7870.Audio

open Lib

/-! ## 1. Calls of `disable_snd_device` -/

def SndDevice.IsInput (d : SndDevice) : Prop := SndDevice.inBegin.ctorIdx ≤ d.ctorIdx

instance (d : SndDevice) : Decidable d.IsInput :=
  inferInstanceAs (Decidable (SndDevice.inBegin.ctorIdx ≤ d.ctorIdx))

/-- The output devices that playback usecases are routed to. -/
def Routing.playedOn (r : Routing) : List SndDevice :=
  ((r.usecaseList.filter (·.type = .pcmPlayback)).map (·.outSndDevice)).filter (· ≠ .none)

/-- The device `disable_snd_device` cycles: that of the first playback usecase. -/
def Routing.cycledDevice (r : Routing) : Option SndDevice :=
  (r.getUsecaseFromType [.pcmPlayback]).map (·.outSndDevice)

/-- A call of `disable_snd_device`, and the state it is made in. -/
structure DisableCall where
  routing : Routing
  usecase : AudioUsecase
  device : SndDevice

namespace DisableCall

def run (c : DisableCall) : Routing := c.routing.disableSndDevice c.usecase c.device

/-- After each reset of the input device that the call made, `log` says that the paths of every
output device that is played on were applied on the card of the reset. -/
def RestoredIn (c : DisableCall) (log : List RouteEvent) : Prop :=
  c.device.IsInput → ∀ out ∈ c.routing.playedOn, ∀ after before card,
    log = after ++ .pathReset card c.device :: before → c.routing.log <:+ before →
    .pathReset card c.device :: before <:+ c.run.log →
    ∀ d ∈ out.paths, .pathApplied card d ∈ after

/-- The call is made by the last user of an input device. -/
def ResetsInput (c : DisableCall) : Prop :=
  c.device.IsInput ∧ c.routing.sndDevRefCnt c.device = 1 ∧ c.usecase.mixerList ≠ []

/-- Where the call resets an input device it is not the first one, and all that is played is played
on the device that is cycled, which has a path of its own. -/
def KeepsOutput (c : DisableCall) : Prop :=
  c.ResetsInput → ∀ out ∈ c.routing.playedOn,
    c.device ≠ .inBegin ∧ out ≠ .outSpeakerAndHeadphones ∧ c.routing.cycledDevice = some out

end DisableCall

/-! ## 2. What one call logs -/

theorem mem_of_cons_suffix {α : Type*} {a : α} {before new old : List α}
    (h : a :: before <:+ new ++ old) (hold : old <:+ before) : a ∈ new := by
  obtain ⟨after, hafter⟩ := h
  obtain ⟨between, rfl⟩ := hold
  have happended : (after ++ a :: between) ++ old = new ++ old := by
    rw [List.append_assoc, List.cons_append]
    exact hafter
  rw [← List.append_cancel_right happended]
  exact List.mem_append_right _ List.mem_cons_self

/-- The events of the resets: a path is only applied for a device behind the first input. -/
theorem foldl_resetOnCard (out : Option SndDevice) (d : SndDevice) (cards : List Nat)
    (log : List RouteEvent) : ∃ new, cards.foldl (resetOnCard out d) log = new ++ log ∧
      ∀ card d', .pathApplied card d' ∈ new → SndDevice.inBegin.ctorIdx < d.ctorIdx ∧
        out = some d' := by
  induction cards generalizing log with
  | nil => exact ⟨[], rfl, fun _ _ hmem => nomatch hmem⟩
  | cons c cards ih =>
    obtain ⟨new, hnew, happlied⟩ := ih (resetOnCard out d log c)
    rw [List.foldl_cons, hnew]
    unfold resetOnCard
    cases out with
    | none =>
      refine ⟨new ++ [.amplifierEnabled d false, .pathReset c d], by simp, fun card d' hmem => ?_⟩
      simp only [List.mem_append, List.mem_cons, reduceCtorEq, List.not_mem_nil, or_false] at hmem
      exact happlied card d' hmem
    | some o =>
      dsimp only
      split
      · rename_i hlt
        refine ⟨new ++ [.amplifierEnabled d false, .pathApplied c o, .pathReset c d], by simp,
          fun card d' hmem => ?_⟩
        simp only [List.mem_append, List.mem_cons, reduceCtorEq, RouteEvent.pathApplied.injEq,
          List.not_mem_nil, or_false, false_or] at hmem
        rcases hmem with hmem | ⟨_, rfl⟩
        · exact happlied card d' hmem
        · exact ⟨hlt, rfl⟩
      · refine ⟨new ++ [.amplifierEnabled d false, .pathReset c d], by simp, fun card d' hmem => ?_⟩
        simp only [List.mem_append, List.mem_cons, reduceCtorEq, List.not_mem_nil, or_false]
          at hmem
        exact happlied card d' hmem

/-- Behind each reset of a device after the first input comes the path that is cycled. -/
theorem applied_of_reset {o d d' : SndDevice} (hd : SndDevice.inBegin.ctorIdx < d.ctorIdx)
    (cards : List Nat) {log after before : List RouteEvent} {card : Nat}
    (hlog : cards.foldl (resetOnCard (some o) d) log = after ++ .pathReset card d' :: before)
    (hbefore : log <:+ before) : .pathApplied card o ∈ after := by
  induction cards generalizing log with
  | nil =>
    have hlen : log.length = after.length + (before.length + 1) := by
      rw [show log = _ from hlog, List.length_append, List.length_cons]
    have hle := hbefore.length_le
    omega
  | cons c cards ih =>
    have hreset : resetOnCard (some o) d log c =
        .amplifierEnabled d false :: .pathApplied c o :: .pathReset c d :: log := by
      unfold resetOnCard
      dsimp only
      rw [if_pos hd]
    rw [List.foldl_cons] at hlog
    by_cases hin : resetOnCard (some o) d log c <:+ before
    · exact ih hlog hin
    · obtain ⟨new, hnew, -⟩ := foldl_resetOnCard (some o) d cards (resetOnCard (some o) d log c)
      rw [hnew] at hlog
      -- The reset is the one of this card: what is logged for later cards is newer.
      rcases List.append_eq_append_iff.mp hlog with ⟨t, hafter, ht⟩ | ⟨t, -, ht⟩
      · rw [hreset] at ht
        have hle := hbefore.length_le
        rcases t with _ | ⟨a, _ | ⟨b, _ | ⟨e, t⟩⟩⟩
        · cases ht
        · cases ht
        · obtain ⟨rfl, rfl⟩ := RouteEvent.pathReset.inj (List.cons.inj (List.cons.inj
            (List.cons.inj ht).2).2).1
          rw [hafter, ← (List.cons.inj (List.cons.inj ht).2).1]
          simp
        · have hlen := congrArg List.length ht
          simp only [List.length_append, List.length_cons] at hlen
          omega
      · rw [hreset] at ht
        cases t with
        | nil => cases ht
        | cons a t =>
          rw [hreset] at hin
          exact absurd ⟨t, (List.cons.inj ht).2.symm⟩ hin

theorem SndDevice.inBegin_lt {d : SndDevice} (hd : d.IsInput) (hne : d ≠ .inBegin) :
    SndDevice.inBegin.ctorIdx < d.ctorIdx := by
  apply Nat.lt_of_le_of_ne hd
  intro heq
  apply hne
  revert heq
  cases d <;> decide

theorem SndDevice.eq_of_mem_paths {d d' : SndDevice} (h : d' ∈ d.paths) (hd : d'.IsInput) :
    d' = d := by
  unfold paths at h
  split at h
  · rcases List.mem_pair.mp h with rfl | rfl
    · exact absurd hd (by decide)
    · exact absurd hd (by decide)
  · exact List.mem_singleton.mp h

theorem Routing.disableSndDevice_input (r : Routing) (u : AudioUsecase) {d : SndDevice}
    (hd : d.IsInput) : r.disableSndDevice u d = r.disableSingle u d := by
  unfold Routing.disableSndDevice
  apply if_neg
  rintro rfl
  exact absurd hd (by decide)

namespace DisableCall

variable {c : DisableCall} {log : List RouteEvent}

/-- The last user of an input device resets its path on all of its cards. -/
theorem run_resets (hd : c.device.IsInput) (hcnt : c.routing.sndDevRefCnt c.device = 1) :
    c.run.log = c.usecase.mixerList.foldl (resetOnCard c.routing.cycledDevice c.device)
      c.routing.log := by
  unfold run
  rw [Routing.disableSndDevice_input _ _ hd]
  unfold Routing.disableSingle
  dsimp only
  rw [if_neg (by omega), if_pos (by omega)]
  rfl

/-- A call that logs a reset of an input device is made by its last user. -/
theorem resetsInput_of_reset (hd : c.device.IsInput) {card : Nat} {before : List RouteEvent}
    (hold : c.routing.log <:+ before) (hreset : .pathReset card c.device :: before <:+ c.run.log) :
    c.ResetsInput := by
  have hlen : c.routing.log.length + 1 ≤ c.run.log.length := by
    have hle := hold.length_le
    have hle' := hreset.length_le
    rw [List.length_cons] at hle'
    omega
  by_cases hcnt : c.routing.sndDevRefCnt c.device = 1
  · refine ⟨hd, hcnt, fun hcards => ?_⟩
    rw [run_resets hd hcnt, hcards, List.foldl_nil] at hlen
    omega
  · exfalso
    unfold run at hlen hreset
    rw [Routing.disableSndDevice_input _ _ hd] at hlen hreset
    unfold Routing.disableSingle at hlen hreset
    dsimp only at hlen hreset
    by_cases hzero : c.routing.sndDevRefCnt c.device ≤ 0
    · rw [if_pos hzero] at hreset
      obtain ⟨t, ht⟩ := hreset
      have hle := hold.length_le
      cases t with
      | nil => cases ht
      | cons e t =>
        have hlen' := congrArg List.length ht
        simp only [List.length_append, List.length_cons] at hlen'
        omega
    · rw [if_neg hzero] at hlen
      dsimp only at hlen
      rw [if_neg (by omega)] at hlen
      omega

theorem RestoredIn.mono (h : c.RestoredIn c.run.log) (hlog : c.run.log <:+ log) :
    c.RestoredIn log := by
  intro hd out hplays after before card hsplit hold hreset d hpath
  obtain ⟨new, rfl⟩ := hlog
  obtain ⟨t, ht⟩ := hreset
  have hafter : new ++ t = after := by
    rw [← ht, ← List.append_assoc] at hsplit
    exact List.append_cancel_right hsplit
  rw [← hafter]
  exact List.mem_append_right new (h hd out hplays t before card ht.symm hold ⟨t, ht⟩ d hpath)

/-- One call restores the outputs by the time it returns exactly if it meets the condition. -/
theorem restoredIn_iff (c : DisableCall) : c.RestoredIn c.run.log ↔ c.KeepsOutput := by
  constructor
  · intro hrestored ⟨hd, hcnt, hcards⟩ out hplays
    obtain ⟨new, hnew, happlied⟩ := foldl_resetOnCard c.routing.cycledDevice c.device
      c.usecase.mixerList c.routing.log
    obtain ⟨card, after, hafter⟩ : ∃ card after,
        new ++ c.routing.log = after ++ .pathReset card c.device :: c.routing.log := by
      obtain ⟨card, cards, hcons⟩ := List.exists_cons_of_ne_nil hcards
      obtain ⟨later, hlater, -⟩ := foldl_resetOnCard c.routing.cycledDevice c.device cards
        (resetOnCard c.routing.cycledDevice c.device c.routing.log card)
      rw [← hnew, hcons, List.foldl_cons, hlater]
      unfold resetOnCard
      cases c.routing.cycledDevice with
      | none => exact ⟨card, later ++ [.amplifierEnabled c.device false], by simp⟩
      | some o =>
        dsimp only
        split
        · exact ⟨card, later ++ [.amplifierEnabled c.device false, .pathApplied card o], by simp⟩
        · exact ⟨card, later ++ [.amplifierEnabled c.device false], by simp⟩
    have hrun : c.run.log = after ++ .pathReset card c.device :: c.routing.log := by
      rw [run_resets hd hcnt, hnew, hafter]
    have hsub : new = after ++ [.pathReset card c.device] := by
      have happended : new ++ c.routing.log =
          (after ++ [.pathReset card c.device]) ++ c.routing.log := by
        rw [hafter, List.append_assoc, List.singleton_append]
      exact List.append_cancel_right happended
    have hcycled : ∀ d ∈ out.paths, SndDevice.inBegin.ctorIdx < c.device.ctorIdx ∧
        c.routing.cycledDevice = some d := by
      intro d hpath
      apply happlied card
      rw [hsub]
      exact List.mem_append_left _ (hrestored hd out hplays after _ card hrun (List.suffix_refl _)
        ⟨after, hrun.symm⟩ d hpath)
    unfold SndDevice.paths at hcycled
    by_cases hcombo : out = .outSpeakerAndHeadphones
    · rw [if_pos hcombo] at hcycled
      have hspeaker := (hcycled .outSpeaker (by simp)).2
      rw [(hcycled .outHeadphones (by simp)).2] at hspeaker
      cases hspeaker
    · rw [if_neg hcombo] at hcycled
      obtain ⟨hlt, hout⟩ := hcycled out (List.mem_singleton_self out)
      refine ⟨fun hfirst => ?_, hcombo, hout⟩
      rw [hfirst] at hlt
      exact Nat.lt_irrefl _ hlt
  · intro hkeeps hd out hplays after before card hsplit hold hreset d hpath
    obtain ⟨hne, hcombo, hcycled⟩ := hkeeps (resetsInput_of_reset hd hold hreset) out hplays
    rw [run_resets hd (resetsInput_of_reset hd hold hreset).2.1, hcycled] at hsplit
    unfold SndDevice.paths at hpath
    rw [if_neg hcombo] at hpath
    obtain rfl := List.mem_singleton.mp hpath
    exact applied_of_reset (SndDevice.inBegin_lt hd hne) _ hsplit hold

end DisableCall

/-! ## 3. The calls of a selection -/

namespace Routing

/-- One round of `check_and_route_usecases`. -/
def switchAtCalls (ids : List UsecaseId) (type : UsecaseType) (r : Routing) (i : Nat) :
    List DisableCall :=
  match r.usecaseList[i]? with
  | none => []
  | some u => if u.id ∈ ids then [⟨r, u, u.sndDevice type⟩] else []

/-- The rounds at these places. -/
def switchCalls (ids : List UsecaseId) (type : UsecaseType) (d : SndDevice) :
    Routing → List Nat → List DisableCall
  | _, [] => []
  | r, i :: places =>
    r.switchAtCalls ids type i ++ switchCalls ids type d (r.switchAt ids type d i) places

def checkAndRouteCalls (r : Routing) (uc : Nat) (type : UsecaseType) (d : SndDevice) :
    List DisableCall :=
  switchCalls (r.switchedIds uc type d) type d r (List.range r.usecaseList.length)

def switchDevicesCalls (r : Routing) (uc : Nat) (out input : SndDevice) : List DisableCall :=
  match r.usecaseList[uc]? with
  | none => []
  | some u =>
    if out = u.outSndDevice ∧ input = u.inSndDevice then []
    else
      let r₁ := if u.outSndDevice ≠ .none then r.disableSndDevice u u.outSndDevice else r
      let r₂ := if u.inSndDevice ≠ .none then r₁.disableSndDevice u u.inSndDevice else r₁
      let r₃ :=
        if out ≠ .none then (r₂.checkAndRouteUsecases uc .pcmPlayback out).enableSndDevice u out
        else r₂
      (if u.outSndDevice ≠ .none then [⟨r, u, u.outSndDevice⟩] else []) ++
        ((if u.inSndDevice ≠ .none then [⟨r₁, u, u.inSndDevice⟩] else []) ++
          ((if out ≠ .none then r₂.checkAndRouteCalls uc .pcmPlayback out else []) ++
            (if input ≠ .none then r₃.checkAndRouteCalls uc .pcmCapture input else [])))

def leaveSpeakerCalls (r : Routing) (uc : Nat) : List DisableCall :=
  match r.usecaseList[uc]? with
  | none => []
  | some u =>
    if u.outSndDevice = .outSpeakerAndHeadphones then
      [⟨r.modifyUsecase uc (·.setSndDevice .pcmPlayback .outHeadphones), u, .outSpeaker⟩]
    else []

/-- `r'` is reached from `r` by these calls, as far as the log says: it goes through the states in
which they return, and they reset all the input devices that are reset. -/
structure Makes (r : Routing) (calls : List DisableCall) (r' : Routing) : Prop where
  log : r.log <:+ r'.log
  resets : ∀ {card : Nat} {d : SndDevice} {before : List RouteEvent}, d.IsInput →
    r.log <:+ before → .pathReset card d :: before <:+ r'.log →
    ∃ c ∈ calls, c.device = d ∧ c.routing.log <:+ before ∧ .pathReset card d :: before <:+ c.run.log
  calls : ∀ c ∈ calls, c.run.log <:+ r'.log

namespace Makes

variable {r r' r'' : Routing} {calls calls' : List DisableCall}

theorem of_new (new : List RouteEvent) (hlog : r'.log = new ++ r.log)
    (hnew : ∀ card d, .pathReset card d ∉ new) : r.Makes [] r' where
  log := ⟨new, hlog.symm⟩
  calls _ hc := nomatch hc
  resets _ hold hreset := by
    rw [hlog] at hreset
    exact absurd (mem_of_cons_suffix hreset hold) (hnew _ _)

theorem of_eq (h : r'.log = r.log) : r.Makes [] r' := .of_new [] h nofun

theorem trans (h : r.Makes calls r') (h' : r'.Makes calls' r'') : r.Makes (calls ++ calls') r'' where
  log := h.log.trans h'.log
  calls c hc := by
    rcases List.mem_append.mp hc with hc | hc
    · exact (h.calls c hc).trans h'.log
    · exact h'.calls c hc
  resets {card d before} hd hold hreset := by
    have hfirst (hin : .pathReset card d :: before <:+ r'.log) :
        ∃ c ∈ calls ++ calls', c.device = d ∧ c.routing.log <:+ before ∧
          .pathReset card d :: before <:+ c.run.log := by
      obtain ⟨c, hc, hrest⟩ := h.resets hd hold hin
      exact ⟨c, List.mem_append_left _ hc, hrest⟩
    -- The reset was logged before `r'` or after it.
    rcases List.suffix_or_suffix_of_suffix hreset h'.log with hin | hlater
    · exact hfirst hin
    · rcases List.suffix_cons_iff.mp hlater with heq | hlater
      · exact hfirst (heq ▸ List.suffix_refl _)
      · obtain ⟨c, hc, hrest⟩ := h'.resets hd hlater hreset
        exact ⟨c, List.mem_append_right _ hc, hrest⟩

theorem then_made (h : r.Makes calls r') (h' : r'.Makes [] r'') : r.Makes calls r'' := by
  simpa only [List.append_nil] using h.trans h'

end Makes

theorem makes_disable (r : Routing) (u : AudioUsecase) (d : SndDevice) :
    r.Makes [⟨r, u, d⟩] (r.disableSndDevice u d) where
  log := (r.disableSndDevice_log u d).suffix
  calls c hc := by
    obtain rfl := List.mem_singleton.mp hc
    exact List.suffix_refl _
  resets {card d' before} hd hold hreset := by
    refine ⟨_, List.mem_singleton_self _, ?_, hold, hreset⟩
    obtain ⟨new, hnew, honly⟩ := r.disableSndDevice_logs u d
    rw [hnew] at hreset
    exact (SndDevice.eq_of_mem_paths (honly _ (mem_of_cons_suffix hreset hold)) hd).symm

theorem makes_enable (r : Routing) (u : AudioUsecase) (d : SndDevice) :
    r.Makes [] (r.enableSndDevice u d) := by
  obtain ⟨new, hnew, honly⟩ := r.enableSndDevice_logs u d
  exact .of_new new hnew fun card d hmem => honly _ hmem

theorem makes_addUsecase (r : Routing) (u : AudioUsecase) : r.Makes [] (r.addUsecase u) := by
  refine .of_new [_] rfl fun card d hmem => ?_
  cases List.mem_singleton.mp hmem

/-- A device that is disabled if the usecase has one. -/
theorem makes_disableIf (r : Routing) (u : AudioUsecase) (d : SndDevice) :
    r.Makes (if d ≠ .none then [⟨r, u, d⟩] else [])
      (if d ≠ .none then r.disableSndDevice u d else r) := by
  split
  · exact r.makes_disable u d
  · exact .of_eq rfl

theorem makes_switchAt (ids : List UsecaseId) (type : UsecaseType) (d : SndDevice) (r : Routing)
    (i : Nat) : r.Makes (r.switchAtCalls ids type i) (r.switchAt ids type d i) := by
  unfold switchAtCalls switchAt
  cases r.usecaseList[i]? with
  | none => exact .of_eq rfl
  | some u =>
    dsimp only
    split
    · have hmade := (r.makes_disable u (u.sndDevice type)).then_made (makes_enable _ u d)
      exact hmade.then_made (.of_eq rfl)
    · exact .of_eq rfl

theorem makes_switches (ids : List UsecaseId) (type : UsecaseType) (d : SndDevice)
    (places : List Nat) (r : Routing) :
    r.Makes (switchCalls ids type d r places) (places.foldl (switchAt ids type d) r) := by
  induction places generalizing r with
  | nil => exact .of_eq rfl
  | cons i places ih => exact (makes_switchAt ids type d r i).trans (ih _)

theorem makes_checkAndRoute (r : Routing) (uc : Nat) (type : UsecaseType) (d : SndDevice) :
    r.Makes (r.checkAndRouteCalls uc type d) (r.checkAndRouteUsecases uc type d) :=
  makes_switches _ type d _ r

/-- The usecases of a direction are switched, and the device is enabled, if there is one. -/
theorem makes_routeIf (r : Routing) (uc : Nat) (u : AudioUsecase) (type : UsecaseType)
    (d : SndDevice) :
    r.Makes (if d ≠ .none then r.checkAndRouteCalls uc type d else [])
      (if d ≠ .none then (r.checkAndRouteUsecases uc type d).enableSndDevice u d else r) := by
  split
  · exact (r.makes_checkAndRoute uc type d).then_made (makes_enable _ u d)
  · exact .of_eq rfl

theorem makes_switchDevices (r : Routing) (uc : Nat) (out input : SndDevice) :
    r.Makes (r.switchDevicesCalls uc out input) (r.switchDevices uc out input) := by
  unfold switchDevicesCalls switchDevices
  cases r.usecaseList[uc]? with
  | none => exact .of_eq rfl
  | some u =>
    dsimp only
    split
    · exact .of_eq rfl
    · apply Makes.trans (r.makes_disableIf u u.outSndDevice)
      apply Makes.trans (makes_disableIf _ u u.inSndDevice)
      apply Makes.trans (makes_routeIf _ uc u .pcmPlayback out)
      exact (makes_routeIf _ uc u .pcmCapture input).then_made (.of_eq rfl)

theorem makes_leaveSpeaker (r : Routing) (uc : Nat) :
    r.Makes (r.leaveSpeakerCalls uc) (r.leaveSpeaker uc) := by
  unfold leaveSpeakerCalls leaveSpeaker
  cases r.usecaseList[uc]? with
  | none => exact .of_eq rfl
  | some u =>
    dsimp only
    split
    · have hmakes := makes_disable
        (r.modifyUsecase uc (·.setSndDevice .pcmPlayback .outHeadphones)) u .outSpeaker
      exact ⟨hmakes.log, hmakes.resets, hmakes.calls⟩
    · exact .of_eq rfl

end Routing

namespace Settings

/-- The calls in `select_devices`. -/
def selectCallsAt (v : Settings) : Nat → Routing → UsecaseId → List DisableCall
  | 0, _, _ => []
  | depth + 1, r, id =>
    match r.getUsecaseFromId id with
    | none => []
    | some uc =>
      match r.usecaseList[uc]? with
      | none => []
      | some u =>
        let call := v.callDevices r
        let outDevices := v.outputDevicesAt u.stream
        match u.type with
        | .voiceCall =>
          let r := (r.setDevices uc outDevices).prepareSession outDevices
          r.switchDevicesCalls uc (v.outputSndDevice r outDevices) (v.inputSndDevice r outDevices)
        | .pcmPlayback =>
          let r := r.setDevices uc outDevices
          if call.1 ≠ .none then r.switchDevicesCalls uc call.1 .none
          else
            let out := v.outputSndDevice r outDevices
            match v.selectsFirst r u.stream with
            | some input =>
              match v.selectDevicesAt depth r input with
              | none => []
              | some r' => v.selectCallsAt depth r input ++ r'.switchDevicesCalls uc out .none
            | none => r.switchDevicesCalls uc out .none
        | .pcmCapture =>
          let r := r.setDevices uc (v.inputAt u.stream).devices
          let input := if call.2 ≠ .none then call.2 else v.captureSndDevice r
          r.switchDevicesCalls uc .none input
        | .pcmCaptureLowLatency => r.switchDevicesCalls uc call.1 call.2

theorem makes_selectDevicesAt (v : Settings) (depth : Nat) {r r' : Routing} {id : UsecaseId}
    (h : v.selectDevicesAt depth r id = some r') : r.Makes (v.selectCallsAt depth r id) r' := by
  induction depth generalizing r r' id with
  | zero => cases h
  | succ depth ih =>
    unfold selectDevicesAt at h
    unfold selectCallsAt
    cases hid : r.getUsecaseFromId id with
    | none =>
      rw [hid] at h
      obtain rfl := Option.some.inj h
      exact .of_eq rfl
    | some uc =>
      rw [hid] at h
      dsimp only at h ⊢
      cases hu : r.usecaseList[uc]? with
      | none =>
        rw [hu] at h
        obtain rfl := Option.some.inj h
        exact .of_eq rfl
      | some u =>
        rw [hu] at h
        dsimp only at h ⊢
        have hset (devices : AudioDevices) : r.Makes [] (r.setDevices uc devices) := .of_eq rfl
        cases htype : u.type with
        | voiceCall =>
          rw [htype] at h
          obtain rfl := Option.some.inj h
          have hprepare (devices : AudioDevices) :
            r.Makes [] ((r.setDevices uc devices).prepareSession devices) := .of_eq rfl
          exact (hprepare _).trans (Routing.makes_switchDevices _ uc _ _)
        | pcmPlayback =>
          rw [htype] at h
          dsimp only at h ⊢
          by_cases hcall : (v.callDevices r).1 ≠ .none
          · rw [if_pos hcall] at h ⊢
            obtain rfl := Option.some.inj h
            exact (hset _).trans (Routing.makes_switchDevices _ uc _ _)
          · rw [if_neg hcall] at h ⊢
            cases hfirst : v.selectsFirst (r.setDevices uc (v.outputDevicesAt u.stream)) u.stream with
            | none =>
              rw [hfirst] at h
              obtain rfl := Option.some.inj h
              exact (hset _).trans (Routing.makes_switchDevices _ uc _ _)
            | some input =>
              rw [hfirst] at h
              dsimp only at h ⊢
              obtain ⟨r₁, hr₁, hrest⟩ := Option.bind_eq_some_iff.mp h
              obtain rfl := Option.some.inj hrest
              rw [hr₁]
              exact (hset _).trans ((ih hr₁).trans
                (r₁.makes_switchDevices uc _ _))
        | pcmCapture =>
          rw [htype] at h
          obtain rfl := Option.some.inj h
          exact (hset _).trans (Routing.makes_switchDevices _ uc _ _)
        | pcmCaptureLowLatency =>
          rw [htype] at h
          obtain rfl := Option.some.inj h
          exact r.makes_switchDevices uc _ _

end Settings

/-! ## 4. The calls of an operation -/

namespace Hal

/-- The calls in `select_devices`. -/
def selectCalls (h : Hal) (id : UsecaseId) : List DisableCall :=
  h.toSettings.selectCallsAt 2 h.routing id

/-- The calls in `stop_voice_call`. -/
def stopVoiceCallCalls (h : Hal) : List DisableCall :=
  let r := { h with inCall := false }.stopVoiceSession.routing
  match r.getUsecaseFromId .voiceCall with
  | none => []
  | some uc =>
    match r.usecaseList[uc]? with
    | none => []
    | some u =>
      [⟨r, u, u.outSndDevice⟩, ⟨r.disableSndDevice u u.outSndDevice, u, u.inSndDevice⟩]

/-- The calls in `out_set_parameters` of an active offload stream, before it selects devices. -/
def leaveSpeakerCalls (h : Hal) (o : OutId) (uc : Nat) : List DisableCall :=
  if (h.outs o).isOffload then h.routing.leaveSpeakerCalls uc else []

/-- The parts operations are made of, as far as routing goes, with the calls in each. -/
inductive RoutingPart : Hal → List DisableCall → Hal → Prop
  /-- What routing does not look at. -/
  | frame {h h' : Hal} : h'.routing = h.routing → h'.inCall = h.inCall → RoutingPart h [] h'
  | session (h : Hal) (session : VoiceSession) :
    RoutingPart h [] { h with routing.session := session }
  | select {h h' : Hal} {id : UsecaseId} : h.selectDevices id = some h' →
    RoutingPart h (h.selectCalls id) h'
  | add (h : Hal) {u : AudioUsecase} : u.New →
    RoutingPart h [] { h with routing := h.routing.addUsecase u }
  | remove (h : Hal) {uc : Nat} {u : AudioUsecase} {d : SndDevice} :
    h.routing.usecaseList[uc]? = some u → u.UsesOnly d →
    RoutingPart h [⟨h.routing, u, d⟩]
      { h with routing := (h.routing.disableSndDevice u d).removeUsecase uc }
  | stopCall (h : Hal) : RoutingPart h h.stopVoiceCallCalls h.stopVoiceCall
  | startCall {h h' : Hal} {o : OutId} : h.inCall = false →
    (h.listCall o).selectDevices .voiceCall = some h' →
    RoutingPart h ((h.listCall o).selectCalls .voiceCall) h'
  | reroute {h h' : Hal} {o : OutId} {uc : Nat} :
    h.routing.getUsecaseFromId (h.outs o).usecase = some uc →
    (h.leaveSpeaker o uc).selectDevices (h.outs o).usecase = some h' →
    RoutingPart h (h.leaveSpeakerCalls o uc ++
      (h.leaveSpeaker o uc).selectCalls (h.outs o).usecase) h'

/-- An operation with the calls in each of its parts. -/
abbrev TracedOp := Op × List (List DisableCall)

def TracedOp.calls (a : TracedOp) : List DisableCall := a.2.flatten

/-- An operation is made of these parts. -/
def tracedStep (h : Hal) (a : TracedOp) (h' : Hal) : Prop :=
  h.step a.1 = some h' ∧ Exec RoutingPart h a.2 h'

/-- Whenever the operation resets the path of an input device, it applies the paths of all output
devices that are played on again before it returns. -/
def RestoresOutput (a : TracedOp) (h' : Hal) : Prop :=
  ∀ c ∈ a.calls, c.RestoredIn h'.routing.log

theorem makes_selectDevices {h h' : Hal} {id : UsecaseId} (hsel : h.selectDevices id = some h') :
    h.routing.Makes (h.selectCalls id) h'.routing := by
  obtain ⟨r, hr, rfl⟩ := Option.map_eq_some_iff.mp hsel
  exact h.toSettings.makes_selectDevicesAt 2 hr

theorem makes_stopVoiceCall (h : Hal) :
    h.routing.Makes h.stopVoiceCallCalls h.stopVoiceCall.routing := by
  unfold stopVoiceCallCalls stopVoiceCall
  dsimp only
  have hsession : h.routing.Makes [] { h with inCall := false }.stopVoiceSession.routing :=
    .of_eq rfl
  cases { h with inCall := false }.stopVoiceSession.routing.getUsecaseFromId .voiceCall with
  | none => exact hsession
  | some uc =>
    dsimp only
    cases { h with inCall := false }.stopVoiceSession.routing.usecaseList[uc]? with
    | none => exact hsession
    | some u =>
      have hout := Routing.makes_disable { h with inCall := false }.stopVoiceSession.routing u
        u.outSndDevice
      exact hsession.trans (hout.trans ((Routing.makes_disable _ u u.inSndDevice).then_made
        (.of_eq rfl)))

theorem makes_leaveSpeaker (h : Hal) (o : OutId) (uc : Nat) :
    h.routing.Makes (h.leaveSpeakerCalls o uc) (h.leaveSpeaker o uc).routing := by
  unfold leaveSpeakerCalls leaveSpeaker
  split
  · exact h.routing.makes_leaveSpeaker uc
  · exact .of_eq rfl

/-- The log of a part goes through the states in which its calls return. -/
theorem RoutingPart.makes {h h' : Hal} {calls : List DisableCall} (hpart : RoutingPart h calls h') :
    h.routing.Makes calls h'.routing := by
  cases hpart with
  | frame hr _ =>
    exact .of_eq (by rw [hr])
  | session session => exact .of_eq rfl
  | select hsel => exact makes_selectDevices hsel
  | add hnew => exact Routing.makes_addUsecase _ _
  | remove hu huses => exact (h.routing.makes_disable _ _).then_made (.of_eq rfl)
  | stopCall => exact h.makes_stopVoiceCall
  | startCall hcall hsel =>
    exact (h.routing.makes_addUsecase (h.callUsecase _)).trans (makes_selectDevices hsel)
  | reroute hid hsel => exact (h.makes_leaveSpeaker _ _).trans (makes_selectDevices hsel)

theorem makes_of_parts {h h' : Hal} {parts : List (List DisableCall)}
    (hparts : Exec RoutingPart h parts h') : h.routing.Makes parts.flatten h'.routing := by
  induction hparts with
  | nil h => exact .of_eq rfl
  | cons hpart _ ih => exact hpart.makes.trans ih

/-- Every reset of an input device that an operation logs is one that a call of its list made. -/
theorem resets_of_tracedStep {h h' : Hal} {a : TracedOp} (hstep : tracedStep h a h') {card : Nat}
    {d : SndDevice} {before : List RouteEvent} (hd : d.IsInput) (hold : h.routing.log <:+ before)
    (hreset : .pathReset card d :: before <:+ h'.routing.log) :
    ∃ c ∈ a.calls, c.device = d ∧ c.ResetsInput := by
  obtain ⟨c, hc, rfl, hmade, hlogged⟩ := (makes_of_parts hstep.2).resets hd hold hreset
  exact ⟨c, hc, rfl, DisableCall.resetsInput_of_reset hd hmade hlogged⟩

/-- Every operation is made of such parts. -/
theorem parts_closed : Closed (fun _ _ => True) fun h h' => ∃ parts, Exec RoutingPart h parts h' where
  refl h := ⟨[], .nil h⟩
  trans := by
    rintro h h' h'' ⟨parts, hparts⟩ ⟨parts', hparts'⟩
    exact ⟨parts ++ parts', hparts.append hparts'⟩
  frame hr hcall := ⟨[_], .cons (.frame hr hcall) (.nil _)⟩
  session h session := ⟨[_], .cons (.session h session) (.nil _)⟩
  select _ hsel := ⟨[_], .cons (.select hsel) (.nil _)⟩
  add h _ hnew := ⟨[_], .cons (.add h hnew) (.nil _)⟩
  remove h _ _ _ hu huses := ⟨[_], .cons (.remove h hu huses) (.nil _)⟩
  stopCall h := ⟨[_], .cons (.stopCall h) (.nil _)⟩
  startCall hcall _ hsel := ⟨[_], .cons (.startCall hcall hsel) (.nil _)⟩
  reroute hid _ hsel := ⟨[_], .cons (.reroute hid hsel) (.nil _)⟩

/-- Every run of operations is one with its calls. -/
theorem exists_trace {h h' : Hal} {ops : List Op} (hrun : Exec (guarded step) h ops h') :
    ∃ trace : List TracedOp, trace.map (·.1) = ops ∧ Exec tracedStep h trace h' := by
  induction hrun with
  | nil h => exact ⟨[], rfl, .nil h⟩
  | @cons h h₁ h' op ops hstep _ ih =>
    obtain ⟨trace, htrace, hexec⟩ := ih
    obtain ⟨parts, hparts⟩ := parts_closed.step (fun _ _ => trivial) hstep
    exact ⟨(op, parts) :: trace, by rw [List.map_cons, htrace], .cons ⟨hstep, hparts⟩ hexec⟩

/-! ## 5. Whole runs -/

/-- In every run in which each call that resets the path of an input device meets the condition,
every operation restores the paths of the outputs. -/
theorem restoresOutput_of_keepsOutput {h₀ h : Hal} {trace : List TracedOp}
    (hrun : ExecWhere (fun _ a => ∀ c ∈ a.calls, c.KeepsOutput) tracedStep h₀ trace h) :
    Exec (fun s a t => tracedStep s a t ∧ RestoresOutput a t) h₀ trace h := by
  apply hrun.mono
  intro s a t ⟨hkeeps, hstep⟩
  refine ⟨hstep, fun c hc => ?_⟩
  exact DisableCall.RestoredIn.mono (c.restoredIn_iff.mpr (hkeeps c hc))
    ((makes_of_parts hstep.2).calls c hc)

/-- The end of a recording: the path of its device is reset, and everything else is routed as
before. -/
theorem doInStandby_parts {h : Hal} {i : InId} {uc : Nat} {u : AudioUsecase}
    (hactive : (h.ins i).standby = false)
    (hid : h.routing.getUsecaseFromId .audioCapture = some uc)
    (hu : h.routing.usecaseList[uc]? = some u) :
    Exec RoutingPart h [[⟨h.routing, u, u.inSndDevice⟩], []] (h.doInStandby i) := by
  unfold doInStandby
  rw [if_neg (by simp [hactive])]
  dsimp only
  have hclose : h.Frame (fun _ => True) (h.inClosePcmDevices i) := .of_eq rfl rfl rfl rfl
  have hframe := hclose.trans (.dropInEcho _ i)
  generalize (h.inClosePcmDevices i).dropInEcho i = h₁ at hframe
  have hid₁ : { h₁ with activeInput := none }.routing.getUsecaseFromId (h₁.ins i).usecase =
      some uc := by
    rw [(h₁.ins i).usecase_eq, ← hid, ← hframe.routing]
  have hu₁ : { h₁ with activeInput := none }.routing.usecaseList[uc]? = some u := by
    rw [← hu, ← hframe.routing]
  have huses : u.UsesOnly u.inSndDevice := .inr ⟨Routing.getUsecaseFromId_id hid hu, rfl⟩
  refine .cons (.remove h hu huses) (.cons (.frame ?_ ?_) (.nil _))
  · unfold stopInputStream
    dsimp only
    rw [hid₁]
    dsimp only
    rw [hu₁]
    show (h₁.routing.disableSndDevice u u.inSndDevice).removeUsecase uc = _
    rw [hframe.routing]
  · unfold stopInputStream
    dsimp only
    rw [hid₁]
    dsimp only
    rw [hu₁]
    exact hframe.inCall

/-- The primary output plays on this device while a voice communication is recorded. -/
def communicationRun (out : AudioDevices) : List Op :=
  [.outSetRouting 0 out true, .outStart 0 ⟨true, true⟩ true,
    .inStart 0 ⟨true, true, 0, true, true⟩]

def communicating (out : AudioDevices) : Hal :=
  ((communicationRun out).foldlM step (opened false)).getD (opened false)

def communicationUsecase (out : AudioDevices) (input : SndDevice) : AudioUsecase :=
  { (communicating out).inputUsecase 0 pcmDeviceCapture with inSndDevice := input }

/-- The end of that recording. -/
def communicationEnd (out : AudioDevices) (input : SndDevice) : DisableCall :=
  ⟨(communicating out).routing, communicationUsecase out input, input⟩

theorem communicating_tracedStep {out : AudioDevices} {input : SndDevice}
    (hactive : ((communicating out).ins 0).standby = false)
    (hid : (communicating out).routing.getUsecaseFromId .audioCapture = some 1)
    (hu : (communicating out).routing.usecaseList[1]? = some (communicationUsecase out input)) :
    tracedStep (communicating out) (.inStandby 0, [[communicationEnd out input], []])
      ((communicating out).doInStandby 0) :=
  ⟨rfl, doInStandby_parts hactive hid hu⟩

theorem speaker_tracedStep : tracedStep (communicating AudioDevices.outSpeaker)
    (.inStandby 0, [[communicationEnd AudioDevices.outSpeaker .inSpeakerMic], []])
    ((communicating AudioDevices.outSpeaker).doInStandby 0) :=
  communicating_tracedStep (by decide +kernel) (by decide +kernel) (by decide +kernel)

theorem restoresOutput_speaker : Exec (fun s a t => tracedStep s a t ∧ RestoresOutput a t)
    (communicating AudioDevices.outSpeaker)
    [(.inStandby 0, [[communicationEnd AudioDevices.outSpeaker .inSpeakerMic], []])]
    ((communicating AudioDevices.outSpeaker).doInStandby 0) := by
  apply restoresOutput_of_keepsOutput
  refine .cons ⟨fun c hc => ?_, speaker_tracedStep⟩ (.nil _)
  obtain rfl := List.mem_singleton.mp hc
  exact fun _ => by decide +kernel

/-- Ending a recording from the earpiece's microphone, the first input device, leaves the earpiece
without its path. -/
theorem earpiece_not_restored : ¬∀ (h₀ h : Hal) (trace : List TracedOp), Start h₀ →
    Exec tracedStep h₀ trace h →
    Exec (fun s a t => tracedStep s a t ∧ RestoresOutput a t) h₀ trace h := by
  intro hall
  have hrun : Exec (guarded step) (opened false) (communicationRun AudioDevices.outEarpiece)
      (communicating AudioDevices.outEarpiece) := Exec.computed (by decide +kernel)
  have hlast : tracedStep (communicating AudioDevices.outEarpiece)
      (.inStandby 0, [[communicationEnd AudioDevices.outEarpiece .inEarpieceMic], []])
      ((communicating AudioDevices.outEarpiece).doInStandby 0) :=
    communicating_tracedStep (by decide +kernel) (by decide +kernel) (by decide +kernel)
  obtain ⟨trace, -, htrace⟩ := exists_trace hrun
  obtain ⟨h, -, hend⟩ := Exec.split
    (hall _ _ _ (opened_start false) (htrace.append (.cons hlast (.nil _))))
  cases hend with
  | cons hstep hnil =>
    cases hnil
    have hrestored := hstep.2 _ (List.mem_singleton_self _) (by decide +kernel) .outEarpiece
      (by decide +kernel) [.amplifierEnabled .inEarpieceMic false]
      (communicating AudioDevices.outEarpiece).routing.log 0 (by decide +kernel) (List.suffix_refl _)
      ⟨[.amplifierEnabled .inEarpieceMic false], by decide +kernel⟩ .outEarpiece
      (by decide +kernel)
    exact absurd hrestored (by decide +kernel)

end Hal

end Universal7870.Audio
