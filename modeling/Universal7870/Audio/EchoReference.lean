import Universal7870.Audio.Frames

/-!
# Who owns an echo reference

The device, the input that asked for it and the outputs that picked it up share one object.  It is
to be released once, when the last of them lets it go.  `EchoView` is what matters for that.
-/

namespace Universal7870.Audio

open Lib

/-- What matters of an output stream. -/
structure EchoOut where
  usecase : UsecaseId
  standby : Bool
  reference : Option EchoRef
  generation : BitVec 32
  deriving DecidableEq, Repr

def EchoOut.inStandby (x : EchoOut) : EchoOut := { x with standby := true }

@[ext]
structure EchoView where
  device : EchoDevice
  primaryOutput : Option OutId
  out : OutId → EchoOut
  input : InId → Option EchoRef

def StreamOut.echoOut (out : StreamOut) : EchoOut where
  usecase := out.usecase
  standby := out.standby
  reference := out.echoReference
  generation := out.echoReferenceGeneration

def Hal.echoView (h : Hal) : EchoView where
  device := h.echo
  primaryOutput := h.primaryOutput
  out o := (h.outs o).echoOut
  input i := (h.ins i).echoReference

namespace EchoView

/-- The output `put_echo_reference` leaves the release to. -/
def Primary (v : EchoView) (o : OutId) : Prop :=
  v.primaryOutput = some o ∧ (v.out o).usecase = .audioPlayback

/-- The object is reachable from the device or a stream. -/
def Held (v : EchoView) (e : EchoRef) : Prop :=
  v.device.reference = some e ∨ (∃ o, (v.out o).reference = some e) ∨ ∃ i, v.input i = some e

/-- Every object is released at most once, is neither used nor held after that, and until then the
device or an output still holds it, so that it can be released. -/
structure Sound (v : EchoView) : Prop where
  releasedOnce : ∀ e, v.device.log.count (.released e) ≤ 1
  notUsed : ∀ after e before, v.device.log = after ++ .used e :: before → .released e ∉ before
  notHeld : ∀ e, .released e ∈ v.device.log → ¬v.Held e
  notLost : ∀ e, .created e ∈ v.device.log → .released e ∉ v.device.log →
    v.device.reference = some e ∨ ∃ o, (v.out o).reference = some e

/-- Who may hold what.  An input only holds what the device holds.  An output holds that as long as
its generation is the device's, and an older object only if it is the output that such objects are
left to. -/
structure Shared (v : EchoView) : Prop where
  standby : ∀ o, (v.out o).standby = true → (v.out o).reference = none
  offload : ∀ o, (v.out o).usecase = .audioPlaybackOffload → (v.out o).reference = none
  inputCurrent : ∀ i e, v.input i = some e → v.device.reference = some e
  inputUnique : ∀ i j e, v.input i = some e → v.input j = some e → i = j
  outCurrent : ∀ o e, (v.out o).reference = some e →
    ((v.out o).generation = v.device.generation ↔ v.device.reference = some e)
  outStale : ∀ o e, (v.out o).reference = some e → v.device.reference ≠ some e → v.Primary o
  synced : ∀ o e, v.Primary o → (v.out o).standby = false →
    (v.out o).generation = v.device.generation → v.device.reference = some e →
    (v.out o).reference = some e

/-- The invariant: what is held is live, and what is live is held. -/
structure Owned (v : EchoView) : Prop extends Shared v where
  wellUsed : WellUsed v.device.log
  numbered : ∀ e, .created e ∈ v.device.log ∨ .released e ∈ v.device.log → e < v.device.created
  deviceLive : ∀ e, v.device.reference = some e → Live v.device.log e
  outLive : ∀ o e, (v.out o).reference = some e → Live v.device.log e
  kept : ∀ e, Live v.device.log e →
    v.device.reference = some e ∨ ∃ o, (v.out o).reference = some e

theorem Owned.sound {v : EchoView} (h : v.Owned) : v.Sound := by
  refine ⟨h.wellUsed.count_released_le_one, fun after e before hlog => ?_, fun e hrel hheld => ?_,
    fun e hcr hrel => h.kept e ⟨hcr, hrel⟩⟩
  · have hwell := h.wellUsed
    rw [hlog] at hwell
    exact hwell.not_released_before_use
  · rcases hheld with hdev | ⟨o, hout⟩ | ⟨i, hin⟩
    · exact (h.deviceLive e hdev).2 hrel
    · exact (h.outLive o e hout).2 hrel
    · exact (h.deviceLive e (h.inputCurrent i e hin)).2 hrel

/-! ## 1. What happens to the view -/

def logged (v : EchoView) (event : LifeEvent EchoRef) : EchoView :=
  { v with device := { v.device with log := event :: v.device.log } }

def setOut (v : EchoView) (o : OutId) (x : EchoOut) : EchoView :=
  { v with out := Function.update v.out o x }

def setInput (v : EchoView) (i : InId) (reference : Option EchoRef) : EchoView :=
  { v with input := Function.update v.input i reference }

@[simp] theorem setOut_out_self (v : EchoView) (o : OutId) (x : EchoOut) :
    (v.setOut o x).out o = x := by
  show Function.update v.out o x o = x
  rw [Function.update_self]

theorem setOut_out_of_ne {o o' : OutId} (hne : o' ≠ o) (v : EchoView) (x : EchoOut) :
    (v.setOut o x).out o' = v.out o' := by
  show Function.update v.out o x o' = v.out o'
  rw [Function.update_of_ne hne]

@[simp] theorem setInput_input_self (v : EchoView) (i : InId) (r : Option EchoRef) :
    (v.setInput i r).input i = r := by
  show Function.update v.input i r i = r
  rw [Function.update_self]

theorem setInput_input_of_ne {i i' : InId} (hne : i' ≠ i) (v : EchoView) (r : Option EchoRef) :
    (v.setInput i r).input i' = v.input i' := by
  show Function.update v.input i r i' = v.input i'
  rw [Function.update_of_ne hne]

theorem setOut_setOut (v : EchoView) (o : OutId) (x y : EchoOut) :
    (v.setOut o x).setOut o y = v.setOut o y := by
  show { v with out := Function.update (Function.update v.out o x) o y } = _
  rw [Function.update_idem]
  rfl

/-- A change of one output is shown for it and for the others. -/
theorem forall_setOut {v : EchoView} {o : OutId} {x : EchoOut} {P : OutId → EchoOut → Prop}
    (hself : P o x) (hother : ∀ o', o' ≠ o → P o' (v.out o')) (o' : OutId) :
    P o' ((v.setOut o x).out o') := by
  by_cases ho : o' = o
  · subst ho
    rwa [setOut_out_self]
  · rw [setOut_out_of_ne ho]
    exact hother o' ho

theorem primary_setOut {v : EchoView} {o o' : OutId} {x : EchoOut}
    (hx : x.usecase = (v.out o).usecase) : (v.setOut o x).Primary o' ↔ v.Primary o' := by
  unfold Primary
  by_cases ho : o' = o
  · subst ho
    rw [setOut_out_self, hx]
    rfl
  · rw [setOut_out_of_ne ho]
    rfl

theorem Primary.unique {v : EchoView} {o o' : OutId} (h : v.Primary o) (h' : v.Primary o') :
    o = o' :=
  Option.some.inj (h.1.symm.trans h'.1)

theorem Owned.use {v : EchoView} (h : v.Owned) {e : EchoRef} (hlive : Live v.device.log e) :
    (v.logged (.used e)).Owned where
  toShared := ⟨h.standby, h.offload, h.inputCurrent, h.inputUnique, h.outCurrent, h.outStale, h.synced⟩
  wellUsed := ⟨hlive, h.wellUsed⟩
  numbered x hx := h.numbered x (by simpa [logged] using hx)
  deviceLive x hx := (h.deviceLive x hx).cons_used e
  outLive o x hx := (h.outLive o x hx).cons_used e
  kept x hx := h.kept x ⟨by simpa [logged] using hx.1, by simpa [logged] using hx.2⟩

/-- An input forgets its object. -/
theorem Owned.forgetInput {v : EchoView} (h : v.Owned) (i : InId) : (v.setInput i none).Owned := by
  have hold : ∀ j e, (v.setInput i none).input j = some e → v.input j = some e := by
    intro j e hj
    by_cases hij : j = i
    · subst hij
      rw [setInput_input_self] at hj
      cases hj
    · rwa [setInput_input_of_ne hij] at hj
  exact { h with
    inputCurrent := fun j e hj => h.inputCurrent j e (hold j e hj)
    inputUnique := fun j k e hj hk => h.inputUnique j k e (hold j e hj) (hold k e hk) }

section Output

variable {v : EchoView} {o : OutId} {x : EchoOut}

theorem Shared.letGo (h : v.Shared) (hx : x.reference = none)
    (husecase : x.usecase = (v.out o).usecase)
    (hsync : x.usecase = .audioPlayback → x.standby = false → x.generation ≠ v.device.generation) :
    (v.setOut o x).Shared where
  standby := forall_setOut (P := fun _ y => y.standby = true → y.reference = none)
    (fun _ => hx) fun o' _ => h.standby o'
  offload := forall_setOut (P := fun _ y => y.usecase = .audioPlaybackOffload → y.reference = none)
    (fun _ => hx) fun o' _ => h.offload o'
  inputCurrent := h.inputCurrent
  inputUnique := h.inputUnique
  outCurrent := forall_setOut
    (P := fun _ y => ∀ e, y.reference = some e →
      (y.generation = v.device.generation ↔ v.device.reference = some e))
    (fun e he => by rw [hx] at he; cases he) fun o' _ => h.outCurrent o'
  outStale o' e := by
    rw [primary_setOut husecase]
    exact forall_setOut
      (P := fun o' y => y.reference = some e → v.device.reference ≠ some e → v.Primary o')
      (fun he => by rw [hx] at he; cases he) (fun o' _ => h.outStale o' e) o'
  synced o' e := by
    rw [primary_setOut husecase]
    exact forall_setOut
      (P := fun o' y => v.Primary o' → y.standby = false → y.generation = v.device.generation →
        v.device.reference = some e → y.reference = some e)
      (fun hp hs hg => absurd hg (hsync (husecase.trans hp.2) hs)) (fun o' _ => h.synced o' e) o'

/-- An output lets go of what the device still holds. -/
theorem Owned.letGo (h : v.Owned) (hx : x.reference = none)
    (husecase : x.usecase = (v.out o).usecase)
    (hcur : ∀ e, (v.out o).reference = some e → v.device.reference = some e)
    (hsync : x.usecase = .audioPlayback → x.standby = false → x.generation ≠ v.device.generation) :
    (v.setOut o x).Owned where
  toShared := h.toShared.letGo hx husecase hsync
  wellUsed := h.wellUsed
  numbered := h.numbered
  deviceLive := h.deviceLive
  outLive := forall_setOut (P := fun _ y => ∀ e, y.reference = some e → Live v.device.log e)
    (fun e he => by rw [hx] at he; cases he) fun o' _ => h.outLive o'
  kept e he := by
    rcases h.kept e he with hdev | ⟨o', ho'⟩
    · exact .inl hdev
    · by_cases ho : o' = o
      · subst ho
        exact .inl (hcur e ho')
      · exact .inr ⟨o', by rwa [setOut_out_of_ne ho]⟩

theorem live_of_live_released {e e' : EchoRef}
    (h : Live (v.logged (.released e)).device.log e') : e' ≠ e ∧ Live v.device.log e' := by
  have hnot : e' ≠ e ∧ .released e' ∉ v.device.log := by simpa [logged] using h.2
  exact ⟨hnot.1, by simpa [logged] using h.1, hnot.2⟩

theorem lt_of_logged_released {e e' : EchoRef} (h : v.Owned) (hlive : Live v.device.log e)
    (he' : .created e' ∈ (v.logged (.released e)).device.log ∨
      .released e' ∈ (v.logged (.released e)).device.log) : e' < v.device.created := by
  have hcases : .created e' ∈ v.device.log ∨ e' = e ∨ .released e' ∈ v.device.log := by
    simpa [logged] using he'
  rcases hcases with hcr | rfl | hrel
  · exact h.numbered e' (.inl hcr)
  · exact h.numbered e' (.inl hlive.1)
  · exact h.numbered e' (.inr hrel)

/-- An output lets go of an object that only it still holds, and releases it. -/
theorem Owned.letGo_released (h : v.Owned) {e : EchoRef} (he : (v.out o).reference = some e)
    (hstale : v.device.reference ≠ some e) (hx : x.reference = none)
    (husecase : x.usecase = (v.out o).usecase)
    (hsync : x.usecase = .audioPlayback → x.standby = false → x.generation ≠ v.device.generation) :
    ((v.logged (.released e)).setOut o x).Owned where
  toShared := Shared.letGo (v := v.logged (.released e))
    ⟨h.standby, h.offload, h.inputCurrent, h.inputUnique, h.outCurrent, h.outStale, h.synced⟩
    hx husecase hsync
  wellUsed := ⟨h.outLive o e he, h.wellUsed⟩
  numbered _ := lt_of_logged_released h (h.outLive o e he)
  deviceLive e' he' := by
    apply (h.deviceLive e' he').cons_released
    intro heq
    exact hstale (heq ▸ he')
  outLive := by
    apply forall_setOut (v := v.logged (.released e))
      (P := fun _ y => ∀ e', y.reference = some e' → Live (v.logged (.released e)).device.log e')
    · intro e' he'
      rw [hx] at he'
      cases he'
    · intro o' ho e' he'
      apply (h.outLive o' e' he').cons_released
      -- a second output with this object would be the primary one too
      intro heq
      subst heq
      exact ho ((h.outStale o' e' he' hstale).unique (h.outStale o e' he hstale))
  kept e' he' := by
    obtain ⟨hne, hl⟩ := live_of_live_released he'
    rcases h.kept e' hl with hd | ⟨o', ho'⟩
    · exact .inl hd
    · refine .inr ⟨o', ?_⟩
      have ho : o' ≠ o := by
        intro heq
        subst heq
        exact hne (Option.some.inj (ho'.symm.trans he))
      rwa [setOut_out_of_ne ho]

/-- An active output picks up what the device holds. -/
theorem Owned.pickUp (h : v.Owned) (hnone : (v.out o).reference = none)
    (hpcm : (v.out o).usecase ≠ .audioPlaybackOffload)
    (hx : x = ⟨(v.out o).usecase, false, v.device.reference, v.device.generation⟩) :
    (v.setOut o x).Owned where
  wellUsed := h.wellUsed
  numbered := h.numbered
  deviceLive := h.deviceLive
  outLive := forall_setOut (P := fun _ y => ∀ e, y.reference = some e → Live v.device.log e)
    (hx ▸ h.deviceLive) fun o' _ => h.outLive o'
  kept e he := by
    rcases h.kept e he with hdev | ⟨o', ho'⟩
    · exact .inl hdev
    · refine .inr ⟨o', ?_⟩
      have ho : o' ≠ o := by
        intro heq
        subst heq
        rw [hnone] at ho'
        cases ho'
      rwa [setOut_out_of_ne ho]
  standby := forall_setOut (P := fun _ y => y.standby = true → y.reference = none)
    (hx ▸ nofun) fun o' _ => h.standby o'
  offload := forall_setOut (P := fun _ y => y.usecase = .audioPlaybackOffload → y.reference = none)
    (hx ▸ fun hoff => absurd hoff hpcm) fun o' _ => h.offload o'
  inputCurrent := h.inputCurrent
  inputUnique := h.inputUnique
  outCurrent := forall_setOut
    (P := fun _ y => ∀ e, y.reference = some e →
      (y.generation = v.device.generation ↔ v.device.reference = some e))
    (hx ▸ fun _ he => ⟨fun _ => he, fun _ => rfl⟩) fun o' _ => h.outCurrent o'
  outStale o' e := by
    rw [primary_setOut (hx ▸ rfl)]
    exact forall_setOut
      (P := fun o' y => y.reference = some e → v.device.reference ≠ some e → v.Primary o')
      (hx ▸ fun he hne => absurd he hne) (fun o' _ => h.outStale o' e) o'
  synced o' e := by
    rw [primary_setOut (hx ▸ rfl)]
    exact forall_setOut
      (P := fun o' y => v.Primary o' → y.standby = false → y.generation = v.device.generation →
        v.device.reference = some e → y.reference = some e)
      (hx ▸ fun _ _ _ he => he) (fun o' _ => h.synced o' e) o'

end Output

/-! ## 2. What happens to the device's object -/

/-- The device has no object any more. -/
def cleared (v : EchoView) (generation : BitVec 32) : EchoView :=
  { v with device := { v.device with reference := none, generation := generation } }

/-- The device has a new object. -/
def produced (v : EchoView) (generation : BitVec 32) : EchoView :=
  { v with device :=
    { reference := some v.device.created
      generation := generation
      created := v.device.created + 1
      log := .created v.device.created :: v.device.log } }

/-- No output would take the object it holds for that of the new generation. -/
def Outdated (v : EchoView) (generation : BitVec 32) : Prop :=
  ∀ o, (v.out o).reference ≠ none → (v.out o).generation ≠ generation

section Device

variable {v : EchoView} {generation : BitVec 32}

theorem Shared.cleared (h : v.Shared) (hinputs : ∀ i, v.input i = none)
    (hprimary : ∀ o e, (v.out o).reference = some e → v.Primary o)
    (hgen : v.Outdated generation) : (v.cleared generation).Shared where
  standby := h.standby
  offload := h.offload
  inputCurrent i e hi := by
    have hi' : v.input i = some e := hi
    rw [hinputs i] at hi'
    cases hi'
  inputUnique := h.inputUnique
  outCurrent o e he := by
    constructor
    · intro hg
      have href : (v.out o).reference = some e := he
      exact absurd hg (hgen o (by rw [href]; exact Option.some_ne_none e))
    · nofun
  outStale o e he _ := hprimary o e he
  synced _ _ _ _ _ := nofun

/-- What the device gives away is left to an output that holds it. -/
theorem Owned.leave (h : v.Owned)
    (hleft : ∀ e, v.device.reference = some e → ∃ o, (v.out o).reference = some e)
    (hinputs : ∀ i, v.input i = none)
    (hprimary : ∀ o e, (v.out o).reference = some e → v.Primary o)
    (hgen : v.Outdated generation) : (v.cleared generation).Owned where
  toShared := h.toShared.cleared hinputs hprimary hgen
  wellUsed := h.wellUsed
  numbered := h.numbered
  deviceLive _ := nofun
  outLive := h.outLive
  kept e he := by
    rcases h.kept e he with hdev | hout
    · exact .inr (hleft e hdev)
    · exact .inr hout

/-- What the device gives away is released when no output holds it. -/
theorem Owned.release (h : v.Owned) {e : EchoRef} (he : v.device.reference = some e)
    (hnone : ∀ o, (v.out o).reference ≠ some e) (hinputs : ∀ i, v.input i = none)
    (hprimary : ∀ o e, (v.out o).reference = some e → v.Primary o)
    (hgen : v.Outdated generation) : ((v.logged (.released e)).cleared generation).Owned where
  toShared := by
    have hlogged : (v.logged (.released e)).Shared :=
      ⟨h.standby, h.offload, h.inputCurrent, h.inputUnique, h.outCurrent, h.outStale, h.synced⟩
    exact hlogged.cleared hinputs hprimary hgen
  wellUsed := ⟨h.deviceLive e he, h.wellUsed⟩
  numbered _ := lt_of_logged_released h (h.deviceLive e he)
  deviceLive _ := nofun
  outLive o e' he' := by
    apply (h.outLive o e' he').cons_released
    intro heq
    exact hnone o (heq ▸ he')
  kept e' he' := by
    obtain ⟨hne, hlive⟩ := live_of_live_released he'
    rcases h.kept e' hlive with hdev | hout
    · exact absurd (Option.some.inj (hdev.symm.trans he)) hne
    · exact .inr hout

/-- The primary output will release what the device gives away. -/
def Keeps (v : EchoView) : Prop :=
  ∃ o, v.Primary o ∧ (v.out o).standby = false ∧ (v.out o).generation = v.device.generation

/-- `put_echo_reference` of the device's object. -/
def put (v : EchoView) (e : EchoRef) (generation : BitVec 32) (kept : Bool) : EchoView :=
  (if kept then v else v.logged (.released e)).cleared generation

theorem Owned.put (h : v.Owned) {e : EchoRef} {kept : Bool} (he : v.device.reference = some e)
    (hkept : kept = true ↔ v.Keeps) (hinputs : ∀ i, v.input i = none)
    (hshared : ∀ o, (v.out o).reference = some e → v.Primary o) (hgen : v.Outdated generation) :
    (v.put e generation kept).Owned := by
  have hprimary : ∀ o e', (v.out o).reference = some e' → v.Primary o := by
    intro o e' ho
    by_cases heq : e' = e
    · subst heq
      exact hshared o ho
    · apply h.outStale o e' ho
      rw [he]
      exact fun hsome => heq (Option.some.inj hsome).symm
  unfold EchoView.put
  split
  · rename_i htrue
    obtain ⟨o, hp, hawake, hsame⟩ := hkept.mp htrue
    exact h.leave (fun e' he' => ⟨o, h.synced o e' hp hawake hsame he'⟩) hinputs hprimary hgen
  · rename_i hfalse
    apply h.release he _ hinputs hprimary hgen
    -- an output that holds the object would keep it
    intro o ho
    apply hfalse
    rw [hkept]
    refine ⟨o, hprimary o e ho, ?_, (h.outCurrent o e ho).mpr he⟩
    by_contra hasleep
    rw [h.standby o ((Bool.not_eq_false _).mp hasleep)] at ho
    cases ho

/-- The device gives away what it has, if anything. -/
def discard (v : EchoView) (generation : BitVec 32) (kept : Bool) : EchoView :=
  match v.device.reference with
  | some e => v.put e generation kept
  | none => v.cleared generation

theorem discard_reference (v : EchoView) (generation : BitVec 32) (kept : Bool) :
    (v.discard generation kept).device.reference = none := by
  unfold discard
  split
  · rfl
  · rfl

theorem discard_generation (v : EchoView) (generation : BitVec 32) (kept : Bool) :
    (v.discard generation kept).device.generation = generation := by
  unfold discard
  split
  · rfl
  · rfl

theorem discard_out (v : EchoView) (generation : BitVec 32) (kept : Bool) :
    (v.discard generation kept).out = v.out := by
  cases kept <;> (unfold discard; split <;> rfl)

theorem discard_primary (v : EchoView) (generation : BitVec 32) (kept : Bool) (o : OutId) :
    (v.discard generation kept).Primary o ↔ v.Primary o := by
  cases kept <;> (unfold discard; split <;> rfl)

theorem discard_produced (v : EchoView) (generation : BitVec 32) (kept : Bool) (next : BitVec 32) :
    (v.discard generation kept).produced next = (v.discard next kept).produced next := by
  cases kept <;> (unfold discard; split <;> rfl)

theorem Owned.discard (h : v.Owned) {kept : Bool} (hkept : kept = true ↔ v.Keeps)
    (hinputs : v.device.reference ≠ none → ∀ i, v.input i = none)
    (hshared : ∀ o e, v.device.reference = some e → (v.out o).reference = some e → v.Primary o)
    (hgen : v.Outdated generation) : (v.discard generation kept).Owned := by
  unfold EchoView.discard
  split
  · rename_i e he
    exact h.put he hkept (hinputs (by rw [he]; exact Option.some_ne_none e))
      (fun o => hshared o e he) hgen
  · rename_i hnone
    have hno (e : EchoRef) : v.device.reference ≠ some e := by
      rw [hnone]
      nofun
    apply h.leave _ _ _ hgen
    · exact fun e he => absurd he (hno e)
    · intro i
      by_contra hsome
      obtain ⟨e, he⟩ := Option.ne_none_iff_exists'.mp hsome
      exact hno e (h.inputCurrent i e he)
    · exact fun o e he => h.outStale o e he (hno e)

/-- The device gets a new object. -/
theorem Owned.create (h : v.Owned) (hnone : v.device.reference = none)
    (hgen : ∀ o, v.Primary o → (v.out o).standby = false →
      (v.out o).generation ≠ v.device.generation) :
    (v.produced v.device.generation).Owned where
  standby := h.standby
  offload := h.offload
  inputCurrent i e hi := by
    have hdev := h.inputCurrent i e hi
    rw [hnone] at hdev
    cases hdev
  inputUnique := h.inputUnique
  outCurrent o e he := by
    -- what an output holds is older than the new object
    have hlt : e < v.device.created := h.numbered e (.inl (h.outLive o e he).1)
    have hold := h.outCurrent o e he
    rw [hnone] at hold
    constructor
    · intro hg
      exact nomatch hold.mp hg
    · intro hnew
      have heq : v.device.created = e := Option.some.inj hnew
      exact absurd hlt (heq ▸ Nat.lt_irrefl _)
  outStale o e he _ := by
    apply h.outStale o e he
    rw [hnone]
    nofun
  synced o e hp hs hg _ := absurd hg (hgen o hp hs)
  wellUsed := by
    refine ⟨⟨fun hcr => ?_, fun hrel => ?_⟩, h.wellUsed⟩
    · exact Nat.lt_irrefl _ (h.numbered _ (.inl hcr))
    · exact Nat.lt_irrefl _ (h.numbered _ (.inr hrel))
  numbered e he := by
    have hcases : (e = v.device.created ∨ .created e ∈ v.device.log) ∨
        .released e ∈ v.device.log := by
      simpa [produced] using he
    show e < v.device.created + 1
    rcases hcases with (rfl | hcr) | hrel
    · exact Nat.lt_succ_self _
    · exact Nat.lt_succ_of_lt (h.numbered e (.inl hcr))
    · exact Nat.lt_succ_of_lt (h.numbered e (.inr hrel))
  deviceLive e he := by
    obtain rfl : v.device.created = e := Option.some.inj he
    exact live_created fun hrel => Nat.lt_irrefl _ (h.numbered _ (.inr hrel))
  outLive o e he := (h.outLive o e he).cons_created _
  kept e he := by
    by_cases hnew : e = v.device.created
    · exact .inl (hnew ▸ rfl)
    · have hlive : Live v.device.log e :=
        ⟨by simpa [produced, hnew] using he.1, by simpa [produced] using he.2⟩
      rcases h.kept e hlive with hdev | hout
      · rw [hnone] at hdev
        cases hdev
      · exact .inr hout

/-- An input takes over what the device holds. -/
theorem Owned.share (h : v.Owned) (i : InId) (hinputs : ∀ i, v.input i = none) :
    (v.setInput i v.device.reference).Owned := by
  have hother : ∀ j, j ≠ i → (v.setInput i v.device.reference).input j = none := fun j hj => by
    rw [setInput_input_of_ne hj]
    exact hinputs j
  have hself : ∀ j e, (v.setInput i v.device.reference).input j = some e → j = i := by
    intro j e hj
    by_contra hne
    rw [hother j hne] at hj
    cases hj
  exact { h with
    inputCurrent := fun j e hj => by
      have hji := hself j e hj
      subst hji
      rwa [setInput_input_self] at hj
    inputUnique := fun j k e hj hk => (hself j e hj).trans (hself k e hk).symm }

end Device

end EchoView

end Universal7870.Audio
