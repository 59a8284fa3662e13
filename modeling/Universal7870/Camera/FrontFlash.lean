import Mathlib.Data.List.Induction
import Universal7870.Camera.Camera3Wrapper

/-!
# The front flash follows the requests

A capture request on the open front camera asks for light, or for none.  The wrapper turns the LED
on for one that asks for light, and off for most of those that do not.
-/

namespace Universal7870.Camera

/-! ## 1. What a request asks for -/

/-- The settings of the last request, which are those before it if it has none. -/
def settingsInForce (requests : List CaptureRequest) : Option CaptureSettings :=
  (requests.filterMap CaptureRequest.settings).getLast?

def lastAeMode (requests : List CaptureRequest) : Option AeMode :=
  (requests.filterMap fun r => r.settings.bind CaptureSettings.aeMode).getLast?

def AeMode.isFlash : AeMode → Bool
  | .onAutoFlash | .onAlwaysFlash | .onAutoFlashRedeye => true
  | _ => false

/-- The AE mode given last is one with flash. -/
def AeFlash (requests : List CaptureRequest) : Prop :=
  ∃ mode, lastAeMode requests = some mode ∧ mode.isFlash = true

/-- The last of the requests asks for light. -/
def AsksLight (requests : List CaptureRequest) : Prop :=
  ∃ s, settingsInForce requests = some s ∧ (s.flashMode = some .torch ∨
    s.captureIntent = some .stillCapture ∧ (s.flashMode = some .single ∨ AeFlash requests))

theorem getLast?_filterMap_concat {α β : Type*} (f : α → Option β) (before : List α) (a : α) :
    ((before ++ [a]).filterMap f).getLast? = (f a).or (before.filterMap f).getLast? := by
  rw [List.filterMap_append]
  cases ha : f a with
  | none => rw [List.filterMap_cons_none ha, List.filterMap_nil, List.append_nil, Option.none_or]
  | some b =>
    rw [List.filterMap_cons_some ha, List.filterMap_nil, List.getLast?_concat, Option.some_or]

theorem settingsInForce_append (before : List CaptureRequest) (r : CaptureRequest) :
    settingsInForce (before ++ [r]) = r.settings.or (settingsInForce before) :=
  getLast?_filterMap_concat _ before r

theorem lastAeMode_append (before : List CaptureRequest) (r : CaptureRequest) :
    lastAeMode (before ++ [r]) =
      (r.settings.bind CaptureSettings.aeMode).or (lastAeMode before) :=
  getLast?_filterMap_concat _ before r

/-- A request without settings asks for what the one before it asks for. -/
theorem asksLight_append_none {r : CaptureRequest} (hs : r.settings = none)
    (before : List CaptureRequest) : AsksLight (before ++ [r]) ↔ AsksLight before := by
  unfold AsksLight AeFlash
  rw [settingsInForce_append, lastAeMode_append, hs]
  rfl

theorem asksLight_append_some {r : CaptureRequest} {s : CaptureSettings} (hs : r.settings = some s)
    (before : List CaptureRequest) : AsksLight (before ++ [r]) ↔
      s.flashMode = some .torch ∨ s.captureIntent = some .stillCapture ∧
        (s.flashMode = some .single ∨ AeFlash (before ++ [r])) := by
  unfold AsksLight
  rw [settingsInForce_append, hs, Option.some_or]
  constructor
  · rintro ⟨s', hs', hasks⟩
    rw [Option.some.inj hs']
    exact hasks
  · exact fun hasks => ⟨s, rfl, hasks⟩

/-! ## 2. Requests on an open camera -/

namespace FrontCamera

/-- A request on the open front camera. -/
def capture (c : FrontCamera) (r : CaptureRequest) : FrontCamera :=
  (c.step (.processCaptureRequest r)).getD c

def captures (c : FrontCamera) (requests : List CaptureRequest) : FrontCamera :=
  requests.foldl capture c

theorem captures_append (c : FrontCamera) (before : List CaptureRequest) (r : CaptureRequest) :
    c.captures (before ++ [r]) = (c.captures before).capture r := List.foldl_concat ..

/-- The open front camera: its nodes can be written, and the flag for the LED is right. -/
structure Opened (c : FrontCamera) (d : Camera3Device) : Prop where
  device : c.device = some d
  front : d.id = 1
  writable : c.led.Writable
  follows : c.led.on = true ↔ d.frontFlashActive = true

variable {c : FrontCamera} {d : Camera3Device} {r : CaptureRequest} {s : CaptureSettings}

theorem opened_openDevice (hw : c.led.Writable) : c.openDevice.Opened { id := 1 } := by
  obtain ⟨hoff, hdevice, hw'⟩ := openDevice_spec hw
  refine ⟨hdevice, rfl, hw', ?_⟩
  rw [hoff]

theorem Opened.setFlash (hw : c.led.Writable) (hid : d.id = 1) (active : Bool) :
    (c.setFlash d active).Opened { d with frontFlashActive := active } where
  device := rfl
  front := hid
  writable := writable_setFrontTorchState hw active
  follows := by
    unfold FrontCamera.setFlash
    rw [setFrontTorchState_eq hw]

theorem on_setFlash (hw : c.led.Writable) (active : Bool) :
    (c.setFlash d active).led.on = active := by
  unfold FrontCamera.setFlash
  rw [setFrontTorchState_eq hw]

/-- What a request leaves: light that is not asked for stays on through a still capture. -/
theorem manageTorch_spec (hw : c.led.Writable) (hid : d.id = 1)
    (hon : c.led.on = true ↔ d.frontFlashActive = true) (flashMode : FlashMode)
    (captureIntent : CaptureIntent) :
    (∃ d', (c.manageTorch d flashMode captureIntent).Opened d' ∧
      d'.frontFlashRequested = d.frontFlashRequested) ∧
    ((c.manageTorch d flashMode captureIntent).led.on = true ↔ flashMode = .torch ∨
      captureIntent = .stillCapture ∧
        (d.frontFlashRequested = true ∨ flashMode = .single ∨ c.led.on = true)) := by
  unfold manageTorch
  by_cases htorch : flashMode = .torch
  · rw [if_pos htorch]
    exact ⟨⟨_, .setFlash hw hid true, rfl⟩, iff_of_true (on_setFlash hw true) (.inl htorch)⟩
  · rw [if_neg htorch]
    by_cases hstill : captureIntent = .stillCapture ∧
        (d.frontFlashRequested = true ∨ flashMode = .single)
    · rw [if_pos hstill]
      refine ⟨⟨_, .setFlash hw hid true, rfl⟩, iff_of_true (on_setFlash hw true) (.inr ?_)⟩
      exact ⟨hstill.1, hstill.2.imp_right .inl⟩
    · rw [if_neg hstill]
      by_cases hoff : d.frontFlashActive = true ∧ captureIntent ≠ .stillCapture ∧ flashMode ≠ .torch
      · rw [if_pos hoff]
        refine ⟨⟨_, .setFlash hw hid false, rfl⟩, iff_of_false ?_ ?_⟩
        · rw [on_setFlash hw]
          exact Bool.false_ne_true
        · rintro (h | h)
          · exact htorch h
          · exact hoff.2.1 h.1
      · rw [if_neg hoff]
        refine ⟨⟨d, ⟨rfl, hid, hw, hon⟩, rfl⟩, ?_⟩
        constructor
        · intro hlit
          by_contra hnot
          refine hoff ⟨hon.mp hlit, fun hintent => hnot (.inr ⟨hintent, .inr (.inr hlit)⟩), htorch⟩
        · rintro (h | ⟨hintent, hreq | hsingle | hlit⟩)
          · exact absurd h htorch
          · exact absurd ⟨hintent, .inl hreq⟩ hstill
          · exact absurd ⟨hintent, .inr hsingle⟩ hstill
          · exact hlit

theorem capture_eq (h : c.Opened d) (r : CaptureRequest) :
    c.capture r = c.processCaptureRequest d r := by
  unfold capture step
  rw [h.device]
  rfl

theorem capture_none (h : c.Opened d) (hs : r.settings = none) :
    (c.capture r).Opened d ∧ (c.capture r).led = c.led := by
  rw [capture_eq h]
  unfold processCaptureRequest
  rw [if_pos ⟨h.front, hasFrontFlash_of_writable h.writable⟩, hs]
  exact ⟨⟨h.device, h.front, h.writable, h.follows⟩, rfl⟩

theorem capture_some (h : c.Opened d) (hs : r.settings = some s) (hclone : r.cloned = true) :
    (∃ d', (c.capture r).Opened d' ∧
      d'.frontFlashRequested = s.requestsFlash d.frontFlashRequested) ∧
    ((c.capture r).led.on = true ↔ s.flashMode = some .torch ∨
      s.captureIntent = some .stillCapture ∧ (s.requestsFlash d.frontFlashRequested = true ∨
        s.flashMode = some .single ∨ c.led.on = true)) := by
  obtain ⟨⟨d', hopened, hrequested⟩, hon⟩ := manageTorch_spec (c := c) (d := { d with
    frontFlashRequested := s.requestsFlash d.frontFlashRequested }) h.writable h.front h.follows
    (s.flashMode.getD .off) (s.captureIntent.getD .preview)
  have hflash (mode : FlashMode) (hmode : mode ≠ .off) :
      s.flashMode.getD .off = mode ↔ s.flashMode = some mode := by
    cases s.flashMode with
    | none => exact iff_of_false hmode.symm nofun
    | some mode' => exact Option.some_inj.symm
  have hintent : s.captureIntent.getD .preview = .stillCapture ↔
      s.captureIntent = some .stillCapture := by
    cases s.captureIntent with
    | none => exact iff_of_false nofun nofun
    | some intent => exact Option.some_inj.symm
  rw [hflash .torch nofun, hflash .single nofun, hintent] at hon
  rw [capture_eq h]
  unfold processCaptureRequest
  rw [if_pos ⟨h.front, hasFrontFlash_of_writable h.writable⟩, hs, hclone]
  exact ⟨⟨d', ⟨hopened.device, hopened.front, hopened.writable, hopened.follows⟩, hrequested⟩, hon⟩

/-! ## 3. Sequences of requests -/

/-- A still capture that asks for no light, while the LED is on or a flash is still noted from an AE
mode in front of one that the wrapper does not know. -/
def LeavesLight (c : FrontCamera) (before : List CaptureRequest) (r : CaptureRequest) : Prop :=
  ∃ d s, c.device = some d ∧ r.settings = some s ∧ s.captureIntent = some .stillCapture ∧
    ¬AsksLight (before ++ [r]) ∧
    (c.led.on = true ∨ s.requestsFlash d.frontFlashRequested = true)

/-- The camera is open, and a flash AE mode that was given last is noted. -/
def Noted (c : FrontCamera) (before : List CaptureRequest) : Prop :=
  ∃ d, c.Opened d ∧ (AeFlash before → d.frontFlashRequested = true)

theorem requestsFlash_of_aeFlash {before : List CaptureRequest} (hs : r.settings = some s)
    (hnoted : AeFlash before → d.frontFlashRequested = true) (hae : AeFlash (before ++ [r])) :
    s.requestsFlash d.frontFlashRequested = true := by
  obtain ⟨mode, hmode, hflash⟩ := hae
  rw [lastAeMode_append, hs, Option.bind_some] at hmode
  unfold CaptureSettings.requestsFlash
  cases hown : s.aeMode with
  | none =>
    rw [hown, Option.none_or] at hmode
    exact hnoted ⟨mode, hmode, hflash⟩
  | some mode' =>
    rw [hown, Option.some_or] at hmode
    obtain rfl := Option.some.inj hmode
    cases mode' with
    | onAutoFlash | onAlwaysFlash | onAutoFlashRedeye => rfl
    | off | on | other => exact absurd hflash Bool.false_ne_true

theorem Noted.capture {before : List CaptureRequest} (h : c.Noted before) (hclone : r.cloned = true) :
    (c.capture r).Noted (before ++ [r]) := by
  obtain ⟨d, hopened, hnoted⟩ := h
  cases hs : r.settings with
  | none =>
    refine ⟨d, (capture_none hopened hs).1, fun hae => hnoted ?_⟩
    unfold AeFlash at hae ⊢
    rw [lastAeMode_append, hs] at hae
    exact hae
  | some s =>
    obtain ⟨⟨d', hopened', hrequested⟩, -⟩ := capture_some hopened hs hclone
    refine ⟨d', hopened', fun hae => ?_⟩
    rw [hrequested]
    exact requestsFlash_of_aeFlash hs hnoted hae

/-- One request leaves the LED as it asks exactly if it does not leave light. -/
theorem Noted.capture_iff {before : List CaptureRequest} (h : c.Noted before)
    (hclone : r.cloned = true) (hright : c.led.on = true ↔ AsksLight before) :
    ((c.capture r).led.on = true ↔ AsksLight (before ++ [r])) ↔ ¬c.LeavesLight before r := by
  obtain ⟨d, hopened, hnoted⟩ := h
  cases hs : r.settings with
  | none =>
    refine iff_of_true ?_ ?_
    · rw [(capture_none hopened hs).2, asksLight_append_none hs]
      exact hright
    · rintro ⟨_, _, -, hsome, -⟩
      cases hs.symm.trans hsome
  | some s =>
    obtain ⟨-, hon⟩ := capture_some hopened hs hclone
    have hasks := asksLight_append_some hs before
    have hae := requestsFlash_of_aeFlash hs hnoted
    constructor
    · rintro hiff ⟨d', s', hd', hs', hstill, hno, hlit⟩
      obtain rfl := Option.some.inj (hopened.device.symm.trans hd')
      obtain rfl := Option.some.inj (hs.symm.trans hs')
      refine hno (hiff.mp (hon.mpr (.inr ⟨hstill, ?_⟩)))
      exact hlit.elim (fun hlit => .inr (.inr hlit)) .inl
    · intro hleaves
      refine ⟨fun hlit => ?_, fun hask => hon.mpr ?_⟩
      · by_contra hno
        rcases hon.mp hlit with htorch | ⟨hstill, hreq | hsingle | hwas⟩
        · exact hno (hasks.mpr (.inl htorch))
        · exact hleaves ⟨d, s, hopened.device, hs, hstill, hno, .inr hreq⟩
        · exact hno (hasks.mpr (.inr ⟨hstill, .inl hsingle⟩))
        · exact hleaves ⟨d, s, hopened.device, hs, hstill, hno, .inl hwas⟩
      · refine (hasks.mp hask).imp_right fun ⟨hstill, hflash⟩ => ⟨hstill, ?_⟩
        exact hflash.elim (fun hsingle => .inr (.inl hsingle)) fun hmode => .inl (hae hmode)

theorem noted_captures (hw : c.led.Writable) {requests : List CaptureRequest}
    (hclones : ∀ r ∈ requests, r.cloned = true) : (c.openDevice.captures requests).Noted requests := by
  induction requests using List.reverseRecOn with
  | nil => exact ⟨_, opened_openDevice hw, fun ⟨_, hmode, _⟩ => nomatch hmode⟩
  | append_singleton before r ih =>
    rw [captures_append]
    exact (ih fun r' hr' => hclones r' (List.mem_append_left _ hr')).capture
      (hclones r (List.mem_append_right _ List.mem_cons_self))

/-- From the opening of the front camera on, the LED is on after each request exactly if that asks
for light, if and only if no request leaves light that it does not ask for. -/
theorem led_follows_requests_iff (hw : c.led.Writable) (requests : List CaptureRequest)
    (hclones : ∀ r ∈ requests, r.cloned = true) :
    (∀ before, before <+: requests →
      ((c.openDevice.captures before).led.on = true ↔ AsksLight before)) ↔
    ∀ before r, before ++ [r] <+: requests →
      ¬(c.openDevice.captures before).LeavesLight before r := by
  have hclone : ∀ before, before <+: requests → ∀ r ∈ before, r.cloned = true :=
    fun before hbefore r hr => hclones r (hbefore.subset hr)
  have hfront : ∀ before r, before ++ [r] <+: requests → before <+: requests :=
    fun before r h => (List.prefix_append before [r]).trans h
  constructor
  · intro hright before r hinitial
    have hnoted := noted_captures (c := c) hw (hclone before (hfront before r hinitial))
    have hafter := hright _ hinitial
    rw [captures_append] at hafter
    exact (hnoted.capture_iff (hclone _ hinitial r (List.mem_append_right _ List.mem_cons_self))
      (hright before (hfront before r hinitial))).mp hafter
  · intro hleaves before
    induction before using List.reverseRecOn with
    | nil =>
      intro _
      refine iff_of_false ?_ ?_
      · change ¬c.openDevice.led.on = true
        rw [(openDevice_spec hw).1]
        exact Bool.false_ne_true
      · rintro ⟨_, hnone, -⟩
        cases hnone
    | append_singleton before r ih =>
      intro hinitial
      have hnoted := noted_captures (c := c) hw (hclone before (hfront before r hinitial))
      rw [captures_append]
      exact (hnoted.capture_iff (hclone _ hinitial r (List.mem_append_right _ List.mem_cons_self))
        (ih (hfront before r hinitial))).mpr (hleaves before r hinitial)

def torchRequest : CaptureRequest := { settings := some { flashMode := some .torch } }

/-- A torch request that is repeated, and one without flash. -/
def torchRequests : List CaptureRequest :=
  [torchRequest, { settings := none }, { settings := some { flashMode := some .off } }]

theorem led_follows_torchRequests :
    (flashPhone.openDevice.captures [torchRequest]).led.on = true ∧
      ∀ before, before <+: torchRequests →
        ((flashPhone.openDevice.captures before).led.on = true ↔ AsksLight before) := by
  refine ⟨rfl, (led_follows_requests_iff (.inl rfl) torchRequests (by decide)).mpr ?_⟩
  rintro before r hinitial ⟨_, s, -, hs, hstill, -⟩
  have hintent : ∀ r ∈ torchRequests, ∀ s ∈ r.settings, s.captureIntent ≠ some .stillCapture := by
    unfold torchRequests torchRequest
    simp
  exact hintent r (hinitial.subset (List.mem_append_right _ List.mem_cons_self)) s hs hstill

def captureWithoutFlash : CaptureRequest :=
  { settings := some { flashMode := some .off, captureIntent := some .stillCapture } }

theorem led_stays_on_through_still_capture :
    ¬((flashPhone.openDevice.captures [torchRequest, captureWithoutFlash]).led.on = true ↔
      AsksLight [torchRequest, captureWithoutFlash]) := by
  intro hiff
  obtain ⟨s, hs, hasks⟩ := hiff.mp rfl
  obtain rfl := Option.some.inj hs
  rcases hasks with h | ⟨-, h | ⟨_, hmode, -⟩⟩
  · cases h
  · cases h
  · cases hmode

end FrontCamera

end Universal7870.Camera
