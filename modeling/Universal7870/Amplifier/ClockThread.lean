import Universal7870.Amplifier.Amplifier

/-!
# The clock of the amplifier

While the amplifier is switched on, a thread of its own feeds the clock.  `tfa_power` starts it, waits
for it under a mutex and joins it.  The two run interleaved, one access to what they share at a time.
-/

namespace Universal7870.Amplifier

open Lib

/-! ## 1. The two parties -/

/-- Where `tfa_power` stands; `on` is its argument.  It is `locking` also when it has been woken, for
whatever reason, from `waiting`. -/
inductive PowerPc
  | idle
  | clockOn
  | creating
  | locking
  | testing
  | waiting
  | enabling (on : Bool)
  | stopping (on : Bool)
  | joining
  deriving DecidableEq, Repr

/-- Where `write_dummy_data` stands; `signaled` is its variable, and `gaveUp` says that it signals on
its way out. -/
inductive ClockPc
  | opening
  | allocating
  | writing (signaled : Bool)
  | locking (gaveUp : Bool)
  | signaling (gaveUp : Bool)
  | testing
  | clearing
  | closing (signaled : Bool)
  | ended
  deriving DecidableEq, Repr

/-- What `pcm_open` or `calloc` comes to; `busy` is for a `pcm` that is not to be closed. -/
inductive ClockOutcome
  | done
  | failed (busy : Bool)
  deriving DecidableEq, Repr

inductive ClockParty
  | power
  | clock
  deriving DecidableEq, Repr

/-- What has happened in a call of `tfa_power`, and in the thread that it has started. -/
inductive ClockEvent
  | created (call : Nat)
  | written (call : Nat)
  | gaveUp (call : Nat)
  | enabled (call : Nat) (on : Bool)
  | joined (call : Nat)
  | returned (call : Nat)
  deriving DecidableEq, Repr

/-- `tfa_device_t` and those at work on it.  `clock` is the thread that is not joined yet, with the
call it belongs to; `log` has the newest event first, and `expected` is what the calls make of the
device one after the other. -/
structure ClockRun where
  dev : TfaDevice := {}
  writing : Bool := false
  mutex : Option ClockParty := none
  power : PowerPc := .idle
  clock : Option (Nat × ClockPc) := none
  call : Nat := 0
  log : List ClockEvent := []
  expected : TfaDevice := {}
  deriving DecidableEq, Repr

namespace ClockRun

def note (s : ClockRun) (event : ClockEvent) : ClockRun := { s with log := event :: s.log }

/-- `tfa_power` is entered. -/
def enter (s : ClockRun) (on : Bool) : Option ClockRun :=
  if s.power = .idle then
    some { s with
      dev := if on then { s.dev with a1 := 0 } else s.dev
      power := if on then .clockOn else .enabling false
      call := s.call + 1 }
  else none

/-- The next step of `tfa_power`, where `tfa_enable` returns `rc`. -/
def runPower (s : ClockRun) (rc : Int) : Option ClockRun :=
  match s.power with
  | .idle => none
  | .clockOn =>
    if s.dev.clockEnabled then some { s with power := .enabling true }
    else some { s with dev := { s.dev with initializing := true }, power := .creating }
  | .creating =>
    some ({ s with clock := some (s.call, .opening), power := .locking }.note (.created s.call))
  | .locking => if s.mutex = none then some { s with mutex := some .power, power := .testing } else none
  | .testing =>
    if s.writing then
      some { s with
        mutex := none
        dev := { s.dev with clockEnabled := true }
        power := .enabling true }
    else some { s with mutex := none, power := .waiting }
  | .waiting => some { s with power := .locking }
  | .enabling on =>
    some ({ s with
      dev := if rc = 0 then { s.dev with powered := on } else s.dev
      expected := (s.expected.power rc on).2
      power := .stopping on }.note (.enabled s.call on))
  | .stopping _ =>
    if s.dev.clockEnabled then
      some { s with dev := { s.dev with initializing := false }, power := .joining }
    else some ({ s with power := .idle }.note (.returned s.call))
  | .joining =>
    match s.clock with
    | some (k, .ended) =>
      some ((({ s with
        dev := { s.dev with clockEnabled := false }
        clock := none
        power := .idle }).note (.joined k)).note (.returned s.call))
    | _ => none

/-- The next step of `write_dummy_data`. -/
def runClock (s : ClockRun) (o : ClockOutcome) : Option ClockRun :=
  match s.clock with
  | none => none
  | some (k, pc) =>
    match pc, o with
    | .opening, .done => some { s with clock := some (k, .allocating) }
    | .opening, .failed busy =>
      some ({ s with clock := some (k, if busy then .locking true else .closing false) }.note (.gaveUp k))
    | .allocating, .done => some { s with clock := some (k, .writing false) }
    | .allocating, .failed _ => some ({ s with clock := some (k, .closing false) }.note (.gaveUp k))
    -- a write that fails is only logged
    | .writing signaled, _ =>
      some ({ s with clock := some (k, if signaled then .testing else .locking false) }.note (.written k))
    | .locking gaveUp, _ =>
      if s.mutex = none then some { s with mutex := some .clock, clock := some (k, .signaling gaveUp) }
      else none
    | .signaling gaveUp, _ =>
      some { s with
        writing := true
        mutex := none
        clock := some (k, if gaveUp then .ended else .testing) }
    | .testing, _ =>
      some { s with clock := some (k, if s.dev.initializing then .writing true else .clearing) }
    | .clearing, _ => some { s with writing := false, clock := some (k, .closing true) }
    | .closing signaled, _ =>
      some { s with clock := some (k, if signaled then .ended else .locking true) }
    | .ended, _ => none

end ClockRun

inductive ClockAct
  | enter (on : Bool)
  | power (rc : Int)
  | clock (o : ClockOutcome)
  deriving DecidableEq, Repr

namespace ClockRun

def step (s : ClockRun) : ClockAct → Option ClockRun
  | .enter on => s.enter on
  | .power rc => s.runPower rc
  | .clock o => s.runClock o

end ClockRun

/-! ## 2. What is to hold -/

/-- The amplifier is switched on behind the first write of the thread that was started for it, or
once that thread has given up. -/
def ClockFirst : List ClockEvent → Prop
  | [] => True
  | .enabled k true :: log =>
    (.created k ∈ log ∧ (.written k ∈ log ∨ .gaveUp k ∈ log)) ∧ ClockFirst log
  | _ :: log => ClockFirst log

/-- No call returns with a thread that is not joined. -/
def ThreadsJoined : List ClockEvent → Prop
  | [] => True
  | .returned _ :: log => (∀ k, .created k ∈ log → .joined k ∈ log) ∧ ThreadsJoined log
  | _ :: log => ThreadsJoined log

/-- A call that is to switch the amplifier on finds `writing` cleared. -/
def ClockRun.EntersQuiet (s : ClockRun) (a : ClockAct) : Prop := a = .enter true → s.writing = false

/-! ## 3. One step -/

/-- The thread has written or has given up. -/
def ClockPc.told : ClockPc → Bool
  | .opening | .allocating | .writing false => false
  | _ => true

/-- There is a thread that is not joined. -/
def PowerPc.hasClock : PowerPc → Bool
  | .locking | .testing | .waiting | .joining => true
  | .enabling on | .stopping on => on
  | _ => false

/-- What a call has made of the device so far. -/
def PowerPc.devOf (pc : PowerPc) (expected : TfaDevice) : TfaDevice :=
  match pc with
  | .idle | .enabling false => expected
  | .clockOn => { expected with a1 := 0 }
  | .creating | .locking | .testing | .waiting => { expected with a1 := 0, initializing := true }
  | .enabling true => { expected with a1 := 0, initializing := true, clockEnabled := true }
  | .stopping on => { expected with initializing := on, clockEnabled := on }
  | .joining => { expected with clockEnabled := true }

def Told (log : List ClockEvent) (k : Nat) : Prop := .written k ∈ log ∨ .gaveUp k ∈ log

theorem Told.mono {log log' : List ClockEvent} {k : Nat} (h : Told log k) (hsub : log ⊆ log') :
    Told log' k := h.imp (fun hw => hsub hw) fun hg => hsub hg

namespace ClockRun

variable {s t : ClockRun} {rc : Int} {o : ClockOutcome}

/-- All that the thread can do: it moves on, notes at most that it has written or given up, and sets
`writing` only behind that. -/
theorem runClock_cases (h : s.runClock o = some t) :
    ∃ k pc pc' writing mutex events,
      s.clock = some (k, pc) ∧
      t = { s with
        clock := some (k, pc'), writing := writing, mutex := mutex, log := events ++ s.log } ∧
      (∀ e ∈ events, e = .written k ∨ e = .gaveUp k) ∧
      (pc'.told = true → pc.told = true ∨ events ≠ []) ∧
      (writing = true → s.writing = true ∨ pc.told = true) := by
  unfold runClock at h
  cases hclock : s.clock with
  | none =>
    rw [hclock] at h
    cases h
  | some thread =>
    obtain ⟨k, pc⟩ := thread
    rw [hclock] at h
    dsimp only at h
    cases pc with
    | opening =>
      cases o with
      | done =>
        obtain rfl := Option.some.inj h
        exact ⟨k, _, _, s.writing, s.mutex, [], rfl, rfl, nofun, nofun, .inl⟩
      | failed busy =>
        obtain rfl := Option.some.inj h
        exact ⟨k, _, _, s.writing, s.mutex, [.gaveUp k], rfl, rfl,
          fun e he => .inr (List.mem_singleton.mp he), fun _ => .inr nofun, .inl⟩
    | allocating =>
      cases o with
      | done =>
        obtain rfl := Option.some.inj h
        exact ⟨k, _, _, s.writing, s.mutex, [], rfl, rfl, nofun, nofun, .inl⟩
      | failed busy =>
        obtain rfl := Option.some.inj h
        exact ⟨k, _, _, s.writing, s.mutex, [.gaveUp k], rfl, rfl,
          fun e he => .inr (List.mem_singleton.mp he), fun _ => .inr nofun, .inl⟩
    | writing signaled =>
      obtain rfl := Option.some.inj h
      exact ⟨k, _, _, s.writing, s.mutex, [.written k], rfl, rfl,
        fun e he => .inl (List.mem_singleton.mp he), fun _ => .inr nofun, .inl⟩
    | locking gaveUp =>
      change (if s.mutex = none then some _ else none) = some t at h
      split at h
      · obtain rfl := Option.some.inj h
        exact ⟨k, _, _, s.writing, _, [], rfl, rfl, nofun, fun _ => .inl rfl, .inl⟩
      · cases h
    | signaling gaveUp =>
      obtain rfl := Option.some.inj h
      exact ⟨k, _, _, _, _, [], rfl, rfl, nofun, fun _ => .inl rfl, fun _ => .inr rfl⟩
    | testing =>
      obtain rfl := Option.some.inj h
      exact ⟨k, _, _, s.writing, s.mutex, [], rfl, rfl, nofun, fun _ => .inl rfl, .inl⟩
    | clearing =>
      obtain rfl := Option.some.inj h
      exact ⟨k, _, _, _, s.mutex, [], rfl, rfl, nofun, fun _ => .inl rfl, nofun⟩
    | closing signaled =>
      obtain rfl := Option.some.inj h
      exact ⟨k, _, _, s.writing, s.mutex, [], rfl, rfl, nofun, fun _ => .inl rfl, .inl⟩
    | ended => cases h

/-! ## 4. The call and its thread -/

/-- What holds in every state: the device is as far as the call has come, there is a thread in the
part of the call that has one, and what was started is joined. -/
structure Sound (s : ClockRun) : Prop where
  dev : s.dev = s.power.devOf s.expected
  initializing : s.expected.initializing = false
  clockEnabled : s.expected.clockEnabled = false
  clock : s.power.hasClock = s.clock.isSome
  serial : ∀ k pc, s.clock = some (k, pc) → k = s.call ∧ (pc.told = true → Told s.log k)
  current : s.power.hasClock = true → .created s.call ∈ s.log
  created : ∀ k, .created k ∈ s.log → .joined k ∈ s.log ∨ k = s.call ∧ s.power.hasClock = true
  joined : ThreadsJoined s.log

theorem threadsJoined_append {events log : List ClockEvent} {k : Nat}
    (hevents : ∀ e ∈ events, e = .written k ∨ e = .gaveUp k) (h : ThreadsJoined log) :
    ThreadsJoined (events ++ log) := by
  induction events with
  | nil => exact h
  | cons e events ih =>
    obtain ⟨he, hrest⟩ := List.forall_mem_cons.mp hevents
    rcases he with rfl | rfl
    · exact ih hrest
    · exact ih hrest

theorem clockFirst_append {events log : List ClockEvent} {k : Nat}
    (hevents : ∀ e ∈ events, e = .written k ∨ e = .gaveUp k) (h : ClockFirst log) :
    ClockFirst (events ++ log) := by
  induction events with
  | nil => exact h
  | cons e events ih =>
    obtain ⟨he, hrest⟩ := List.forall_mem_cons.mp hevents
    rcases he with rfl | rfl
    · exact ih hrest
    · exact ih hrest

theorem told_append {events : List ClockEvent} {k : Nat}
    (hevents : ∀ e ∈ events, e = .written k ∨ e = .gaveUp k) (hne : events ≠ []) (log : List ClockEvent) :
    Told (events ++ log) k := by
  cases events with
  | nil => exact absurd rfl hne
  | cons e events =>
    rcases hevents e List.mem_cons_self with rfl | rfl
    · exact .inl List.mem_cons_self
    · exact .inr List.mem_cons_self

theorem Sound.runClock (hs : s.Sound) (h : s.runClock o = some t) : t.Sound := by
  obtain ⟨k, pc, pc', writing, mutex, events, hclock, rfl, hevents, htold, -⟩ := runClock_cases h
  obtain ⟨hk, hpc⟩ := hs.serial k pc hclock
  refine ⟨hs.dev, hs.initializing, hs.clockEnabled, ?_, ?_, ?_, ?_, threadsJoined_append hevents hs.joined⟩
  · have hthere := hs.clock
    rw [hclock] at hthere
    exact hthere
  · rintro k' pc'' hclock'
    obtain ⟨rfl, rfl⟩ := Prod.mk.inj (Option.some.inj hclock')
    refine ⟨hk, fun htold' => ?_⟩
    rcases htold htold' with hbefore | hne
    · exact (hpc hbefore).mono (List.subset_append_right ..)
    · exact told_append hevents hne s.log
  · exact fun hthere => List.mem_append_right _ (hs.current hthere)
  · intro j hj
    rcases List.mem_append.mp hj with hnew | hold
    · rcases hevents _ hnew with heq | heq <;> cases heq
    · exact (hs.created j hold).imp_left (List.mem_append_right _)

theorem Sound.enter (hs : s.Sound) {on : Bool} (h : s.enter on = some t) : t.Sound := by
  unfold ClockRun.enter at h
  split at h
  · rename_i hidle
    obtain rfl := Option.some.inj h
    have hnone : s.clock.isSome = false := by
      rw [← hs.clock, hidle]
      rfl
    have hdev : s.dev = s.expected := by
      rw [hs.dev, hidle]
      rfl
    have hthere : (if on then PowerPc.clockOn else .enabling false).hasClock = false := by
      cases on <;> rfl
    refine ⟨?_, hs.initializing, hs.clockEnabled, hthere.trans hnone.symm, ?_, ?_, ?_, hs.joined⟩
    · cases on with
      | true => exact congrArg (fun d : TfaDevice => { d with a1 := 0 }) hdev
      | false => exact hdev
    · intro k pc hclock
      change s.clock = some (k, pc) at hclock
      rw [hclock] at hnone
      cases hnone
    · intro hclock
      rw [hthere] at hclock
      cases hclock
    · intro k hk
      rcases hs.created k hk with hjoined | ⟨-, hclock⟩
      · exact .inl hjoined
      · rw [hidle] at hclock
        cases hclock
  · cases h

/-- A call that has come on without anything to tell. -/
theorem Sound.moved {power : PowerPc} {dev : TfaDevice} {mutex : Option ClockParty} (hs : s.Sound)
    (hdev : dev = power.devOf s.expected) (hclock : power.hasClock = s.power.hasClock) :
    { s with power := power, dev := dev, mutex := mutex }.Sound where
  dev := hdev
  initializing := hs.initializing
  clockEnabled := hs.clockEnabled
  clock := hclock.trans hs.clock
  serial := hs.serial
  current hthere := hs.current (hclock ▸ hthere)
  created k hk := (hs.created k hk).imp_right fun h => ⟨h.1, hclock.trans h.2⟩
  joined := hs.joined

theorem Sound.create (hs : s.Sound) (hpower : s.power = .creating) :
    ({ s with clock := some (s.call, .opening), power := .locking }.note (.created s.call)).Sound where
  dev := by
    have hdev := hs.dev
    rw [hpower] at hdev
    exact hdev
  initializing := hs.initializing
  clockEnabled := hs.clockEnabled
  clock := rfl
  serial k pc hclock := by
    obtain ⟨rfl, rfl⟩ := Prod.mk.inj (Option.some.inj hclock)
    exact ⟨rfl, nofun⟩
  current _ := List.mem_cons_self
  created k hk := by
    rcases List.mem_cons.mp hk with heq | hold
    · cases heq
      exact .inr ⟨rfl, rfl⟩
    · rcases hs.created k hold with hjoined | ⟨-, hclock⟩
      · exact .inl (List.mem_cons_of_mem _ hjoined)
      · rw [hpower] at hclock
        cases hclock
  joined := hs.joined

theorem devOf_power {e : TfaDevice} (hinitializing : e.initializing = false)
    (hclockEnabled : e.clockEnabled = false) (rc : Int) (on : Bool) :
    (if rc = 0 then { (PowerPc.enabling on).devOf e with powered := on }
      else (PowerPc.enabling on).devOf e) = (PowerPc.stopping on).devOf (e.power rc on).2 ∧
    (e.power rc on).2.initializing = false ∧ (e.power rc on).2.clockEnabled = false := by
  obtain ⟨a1, initializing, clockEnabled, powered⟩ := e
  obtain rfl : initializing = false := hinitializing
  obtain rfl : clockEnabled = false := hclockEnabled
  unfold TfaDevice.power
  by_cases hrc : rc = 0
  · subst hrc
    cases on <;> exact ⟨rfl, rfl, rfl⟩
  · simp only [if_neg hrc]
    cases on <;> exact ⟨rfl, rfl, rfl⟩

theorem devOf_stopped {e : TfaDevice} (hinitializing : e.initializing = false)
    (hclockEnabled : e.clockEnabled = false) : (PowerPc.stopping false).devOf e = e := by
  obtain ⟨a1, initializing, clockEnabled, powered⟩ := e
  obtain rfl : initializing = false := hinitializing
  obtain rfl : clockEnabled = false := hclockEnabled
  rfl

theorem Sound.enable (hs : s.Sound) {on : Bool} (hpower : s.power = .enabling on) (rc : Int) :
    ({ s with
      dev := if rc = 0 then { s.dev with powered := on } else s.dev
      expected := (s.expected.power rc on).2
      power := .stopping on }.note (.enabled s.call on)).Sound := by
  obtain ⟨hdev, hinitializing, hclockEnabled⟩ := devOf_power hs.initializing hs.clockEnabled rc on
  refine ⟨?_, hinitializing, hclockEnabled, ?_, ?_, ?_, ?_, ?_⟩
  · rw [← hpower, ← hs.dev] at hdev
    exact hdev
  · have hthere := hs.clock
    rw [hpower] at hthere
    exact hthere
  · intro k pc hclock
    obtain ⟨hk, htold⟩ := hs.serial k pc hclock
    exact ⟨hk, fun h => (htold h).mono (List.subset_cons_self ..)⟩
  · intro hthere
    refine List.mem_cons_of_mem _ (hs.current ?_)
    rw [hpower]
    exact hthere
  · intro k hk
    rcases List.mem_cons.mp hk with heq | hold
    · cases heq
    · rcases hs.created k hold with hjoined | ⟨hk, hclock⟩
      · exact .inl (List.mem_cons_of_mem _ hjoined)
      · rw [hpower] at hclock
        exact .inr ⟨hk, hclock⟩
  · exact hs.joined

/-- The call returns without a thread. -/
theorem Sound.return (hs : s.Sound) (hdev : s.dev = s.expected) (hclock : s.power.hasClock = false) :
    ({ s with power := .idle }.note (.returned s.call)).Sound where
  dev := hdev
  initializing := hs.initializing
  clockEnabled := hs.clockEnabled
  clock := hclock.symm.trans hs.clock
  serial k pc hthere := by
    obtain ⟨hk, htold⟩ := hs.serial k pc hthere
    exact ⟨hk, fun h => (htold h).mono (List.subset_cons_self ..)⟩
  current := nofun
  created k hk := by
    rcases List.mem_cons.mp hk with heq | hold
    · cases heq
    · rcases hs.created k hold with hjoined | ⟨-, hthere⟩
      · exact .inl (List.mem_cons_of_mem _ hjoined)
      · rw [hclock] at hthere
        cases hthere
  joined := by
    refine ⟨fun k hk => ?_, hs.joined⟩
    rcases hs.created k hk with hjoined | ⟨-, hthere⟩
    · exact hjoined
    · rw [hclock] at hthere
      cases hthere

theorem Sound.join (hs : s.Sound) (hpower : s.power = .joining) {k : Nat} {pc : ClockPc}
    (hclock : s.clock = some (k, pc)) :
    ((({ s with
      dev := { s.dev with clockEnabled := false }
      clock := none
      power := .idle }).note (.joined k)).note (.returned s.call)).Sound := by
  obtain ⟨hk, -⟩ := hs.serial k pc hclock
  have hjoined (j : Nat) (hj : .created j ∈ s.log) : .joined j ∈ ClockEvent.joined k :: s.log := by
    rcases hs.created j hj with hbefore | ⟨rfl, -⟩
    · exact List.mem_cons_of_mem _ hbefore
    · rw [hk]
      exact List.mem_cons_self
  have hold (j : Nat) (hj : .created j ∈ ClockEvent.joined k :: s.log) : .created j ∈ s.log := by
    rcases List.mem_cons.mp hj with heq | hj
    · cases heq
    · exact hj
  refine ⟨?_, hs.initializing, hs.clockEnabled, rfl, nofun, nofun, ?_, ?_⟩
  · have hdev := hs.dev
    have hoff := hs.clockEnabled
    rw [hpower] at hdev
    change { s.dev with clockEnabled := false } = s.expected
    rw [hdev]
    change { s.expected with clockEnabled := false } = s.expected
    rw [← hoff]
  · intro j hj
    rcases List.mem_cons.mp hj with heq | hj
    · cases heq
    · exact .inl (List.mem_cons_of_mem _ (hjoined j (hold j hj)))
  · exact ⟨fun j hj => hjoined j (hold j hj), hs.joined⟩

theorem Sound.runPower (hs : s.Sound) (h : s.runPower rc = some t) : t.Sound := by
  have hdev := hs.dev
  unfold ClockRun.runPower at h
  cases hpower : s.power with
  | idle =>
    rw [hpower] at h
    cases h
  | clockOn =>
    rw [hpower] at h hdev
    dsimp only at h
    split at h
    · rename_i hon
      rw [hdev] at hon
      exact absurd (hs.clockEnabled.symm.trans hon) nofun
    · obtain rfl := Option.some.inj h
      refine hs.moved ?_ (by rw [hpower]; rfl)
      rw [hdev]
      rfl
  | creating =>
    rw [hpower] at h
    obtain rfl := Option.some.inj h
    exact hs.create hpower
  | locking =>
    rw [hpower] at h hdev
    dsimp only at h
    split at h
    · obtain rfl := Option.some.inj h
      exact hs.moved hdev (by rw [hpower]; rfl)
    · cases h
  | testing =>
    rw [hpower] at h hdev
    dsimp only at h
    split at h
    · obtain rfl := Option.some.inj h
      refine hs.moved ?_ (by rw [hpower]; rfl)
      rw [hdev]
      rfl
    · obtain rfl := Option.some.inj h
      exact hs.moved hdev (by rw [hpower]; rfl)
  | waiting =>
    rw [hpower] at h hdev
    obtain rfl := Option.some.inj h
    exact hs.moved hdev (by rw [hpower]; rfl)
  | enabling on =>
    rw [hpower] at h
    obtain rfl := Option.some.inj h
    exact hs.enable hpower rc
  | stopping on =>
    rw [hpower] at h hdev
    have hon : s.dev.clockEnabled = on := by
      rw [hdev]
      rfl
    dsimp only at h
    rw [hon] at h
    cases on with
    | true =>
      obtain rfl := Option.some.inj h
      refine hs.moved ?_ (by rw [hpower]; rfl)
      have hoff := hs.initializing
      rw [hdev]
      change { s.expected with initializing := false, clockEnabled := true } =
        { s.expected with clockEnabled := true }
      rw [← hoff]
    | false =>
      obtain rfl := Option.some.inj h
      refine hs.return ?_ (by rw [hpower]; rfl)
      rw [hdev]
      exact devOf_stopped hs.initializing hs.clockEnabled
  | joining =>
    rw [hpower] at h
    dsimp only at h
    split at h
    · rename_i k hclock
      obtain rfl := Option.some.inj h
      exact hs.join hpower hclock
    · cases h

theorem Sound.step {a : ClockAct} (hs : s.Sound) (h : s.step a = some t) : t.Sound := by
  cases a with
  | enter on => exact hs.enter h
  | power rc => exact hs.runPower h
  | clock o => exact hs.runClock h

theorem sound_start : ({} : ClockRun).Sound where
  dev := rfl
  initializing := rfl
  clockEnabled := rfl
  clock := rfl
  serial := nofun
  current := nofun
  created := nofun
  joined := trivial

theorem sound_run {as : List ClockAct} (run : Exec (guarded step) {} as s) : s.Sound :=
  run.invariant (fun _ _ _ hs h => hs.step h) sound_start

/-- Between two calls the device is as the calls have left it, and there is no thread. -/
theorem run_idle {as : List ClockAct} (run : Exec (guarded step) {} as s) (hidle : s.power = .idle) :
    s.dev = s.expected ∧ s.clock = none := by
  have hs := sound_run run
  have hdev := hs.dev
  have hclock := hs.clock
  rw [hidle] at hdev hclock
  exact ⟨hdev, Option.isNone_iff_eq_none.mp (by rw [← Option.not_isSome, ← hclock]; rfl)⟩

/-! ## 5. The clock comes first -/

/-- What holds as long as each call finds `writing` cleared: it is not set again but by the thread
that the call has started. -/
structure Timely (s : ClockRun) : Prop where
  sound : s.Sound
  quiet : s.power = .clockOn ∨ s.power = .creating → s.writing = false
  told : s.power = .locking ∨ s.power = .testing ∨ s.power = .waiting → s.writing = true →
    Told s.log s.call
  enabling : s.power = .enabling true → Told s.log s.call
  first : ClockFirst s.log

theorem Timely.runClock (hs : s.Timely) (h : s.runClock o = some t) : t.Timely := by
  have hsound := hs.sound.runClock h
  obtain ⟨k, pc, pc', writing, mutex, events, hclock, rfl, hevents, -, hwriting⟩ := runClock_cases h
  obtain ⟨rfl, hpc⟩ := hs.sound.serial k pc hclock
  refine ⟨hsound, ?_, ?_, ?_, clockFirst_append hevents hs.first⟩
  · intro hpower
    -- there is no thread yet
    have hthere := hs.sound.clock
    rw [hclock] at hthere
    rcases hpower with hpower | hpower
    · rw [show s.power = _ from hpower] at hthere
      cases hthere
    · rw [show s.power = _ from hpower] at hthere
      cases hthere
  · intro hpower hset
    refine Told.mono ?_ (List.subset_append_right ..)
    rcases hwriting hset with hbefore | htold
    · exact hs.told hpower hbefore
    · exact hpc htold
  · exact fun hpower => (hs.enabling hpower).mono (List.subset_append_right ..)

theorem Timely.enter (hs : s.Timely) {on : Bool} (hquiet : s.EntersQuiet (.enter on))
    (h : s.enter on = some t) : t.Timely := by
  have hsound := hs.sound.enter h
  unfold ClockRun.enter at h
  split at h
  · obtain rfl := Option.some.inj h
    cases on with
    | true => exact ⟨hsound, fun _ => hquiet rfl, nofun, nofun, hs.first⟩
    | false => exact ⟨hsound, nofun, nofun, nofun, hs.first⟩
  · cases h

theorem Timely.runPower (hs : s.Timely) (h : s.runPower rc = some t) : t.Timely := by
  have hsound := hs.sound.runPower h
  unfold ClockRun.runPower at h
  cases hpower : s.power with
  | idle =>
    rw [hpower] at h
    cases h
  | clockOn =>
    rw [hpower] at h
    dsimp only at h
    split at h
    · rename_i hon
      have hdev := hs.sound.dev
      rw [hpower] at hdev
      rw [hdev] at hon
      exact absurd (hs.sound.clockEnabled.symm.trans hon) nofun
    · obtain rfl := Option.some.inj h
      exact ⟨hsound, fun _ => hs.quiet (.inl hpower), nofun, nofun, hs.first⟩
  | creating =>
    have hcleared := hs.quiet (.inr hpower)
    rw [hpower] at h
    obtain rfl := Option.some.inj h
    refine ⟨hsound, nofun, fun _ hset => ?_, nofun, hs.first⟩
    exact absurd (hcleared.symm.trans hset) nofun
  | locking =>
    rw [hpower] at h
    dsimp only at h
    split at h
    · obtain rfl := Option.some.inj h
      exact ⟨hsound, nofun, fun _ => hs.told (.inl hpower), nofun, hs.first⟩
    · cases h
  | testing =>
    rw [hpower] at h
    dsimp only at h
    split at h
    · rename_i hset
      obtain rfl := Option.some.inj h
      exact ⟨hsound, nofun, nofun, fun _ => hs.told (.inr (.inl hpower)) hset, hs.first⟩
    · obtain rfl := Option.some.inj h
      exact ⟨hsound, nofun, fun _ => hs.told (.inr (.inl hpower)), nofun, hs.first⟩
  | waiting =>
    rw [hpower] at h
    obtain rfl := Option.some.inj h
    exact ⟨hsound, nofun, fun _ => hs.told (.inr (.inr hpower)), nofun, hs.first⟩
  | enabling on =>
    rw [hpower] at h
    obtain rfl := Option.some.inj h
    refine ⟨hsound, nofun, nofun, nofun, ?_⟩
    cases on with
    | true => exact ⟨⟨hs.sound.current (by rw [hpower]; rfl), hs.enabling hpower⟩, hs.first⟩
    | false => exact hs.first
  | stopping on =>
    rw [hpower] at h
    dsimp only at h
    split at h
    · obtain rfl := Option.some.inj h
      exact ⟨hsound, nofun, nofun, nofun, hs.first⟩
    · obtain rfl := Option.some.inj h
      exact ⟨hsound, nofun, nofun, nofun, hs.first⟩
  | joining =>
    rw [hpower] at h
    dsimp only at h
    split at h
    · obtain rfl := Option.some.inj h
      exact ⟨hsound, nofun, nofun, nofun, hs.first⟩
    · cases h

theorem Timely.step {a : ClockAct} (hs : s.Timely) (hquiet : s.EntersQuiet a)
    (h : s.step a = some t) : t.Timely := by
  cases a with
  | enter on => exact hs.enter hquiet h
  | power rc => exact hs.runPower h
  | clock o => exact hs.runClock h

/-- Where `writing` is cleared before each call that switches the amplifier on, the amplifier is
switched on behind the clock, and every thread is joined. -/
theorem power_clockFirst {as : List ClockAct} (run : ExecWhere EntersQuiet (guarded step) {} as s) :
    ClockFirst s.log ∧ ThreadsJoined s.log := by
  have hs := run.invariant (fun _ _ _ hs hquiet h => hs.step hquiet h)
    (⟨sound_start, fun _ => rfl, nofun, nofun, trivial⟩ : ({} : ClockRun).Timely)
  exact ⟨hs.first, hs.sound.joined⟩

instance (s : ClockRun) (a : ClockAct) : Decidable (s.EntersQuiet a) :=
  inferInstanceAs (Decidable (_ → _))

/-- A call that switches the amplifier on, with a thread that writes and is joined. -/
def writtenCall : List ClockAct :=
  [.enter true, .power 0, .power 0, .clock .done, .power 0, .power 0, .clock .done, .clock .done,
    .clock .done, .clock .done, .power 0, .power 0, .power 0, .power 0, .power 0, .clock .done,
    .clock .done, .clock .done, .power 0]

theorem writtenCall_clockFirst :
    ClockFirst (((writtenCall ++ writtenCall).foldlM step {}).getD {}).log ∧
      ThreadsJoined (((writtenCall ++ writtenCall).foldlM step {}).getD {}).log :=
  power_clockFirst (ExecWhere.of_isSome (by decide))

/-- A call whose thread has no `pcm`, and the next one up to `tfa_enable`. -/
def failedCall : List ClockAct :=
  [.enter true, .power 0, .power 0, .clock (.failed true), .clock .done, .clock .done, .power 0,
    .power 0, .power 0, .power 0, .power 0,
    .enter true, .power 0, .power 0, .power 0, .power 0, .power 0]

/-- The flag of a thread that has given up stands for the next one too. -/
theorem enabled_before_clock : ∃ s, Exec (guarded step) {} failedCall s ∧ ¬ClockFirst s.log := by
  refine ⟨_, Exec.computed (by decide), ?_⟩
  rintro ⟨⟨-, htold⟩, -⟩
  revert htold
  decide

end ClockRun

end Universal7870.Amplifier
