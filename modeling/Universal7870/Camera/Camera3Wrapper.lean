import Universal7870.Lib.Run

/-!
# The front flash

The front camera has a flash LED that the vendor HAL knows nothing of.  The wrapper drives it
through sysfs from two sides: the capture requests of an open front camera (`Camera3Wrapper.cpp`),
and the torch mode of the camera module (`CameraWrapper.cpp`).
-/

namespace Universal7870.Camera

open Lib

/-! ## 1. The LED -/

inductive NodeAccess
  | missing
  | readOnly
  | writable
  deriving DecidableEq, Repr

/-- `torch_mode_status_t`. -/
inductive TorchModeStatus
  | notAvailable
  | availableOff
  | availableOn
  deriving DecidableEq, Repr

/-- The two sysfs nodes of the LED in the order they are tried, the LED, and what the module has
told its callbacks about torches, if there are callbacks. -/
structure FrontLed where
  frontTorchFlash : NodeAccess
  frontFlash : NodeAccess
  on : Bool := false
  hasCallbacks : Bool := false
  notified : List (Int × TorchModeStatus) := []
  deriving DecidableEq, Repr

namespace FrontLed

def hasFrontFlash (led : FrontLed) : Bool :=
  led.frontTorchFlash ≠ .missing || led.frontFlash ≠ .missing

def Writable (led : FrontLed) : Prop :=
  led.frontTorchFlash = .writable ∨ led.frontFlash = .writable

instance (led : FrontLed) : Decidable led.Writable := inferInstanceAs (Decidable (_ ∨ _))

/-- `set_front_torch_state`, which returns whether it could open a node. -/
def setFrontTorchState (led : FrontLed) (enabled : Bool) : Bool × FrontLed :=
  if led.Writable then (true, { led with on := enabled }) else (false, led)

def notifyTorchStatus (led : FrontLed) (cameraId : Int) (status : TorchModeStatus) : FrontLed :=
  if led.hasCallbacks then { led with notified := led.notified ++ [(cameraId, status)] } else led

/-- `camera_set_torch_mode`, as far as the front LED goes: the torch of another camera is the vendor
module's. -/
def setTorchMode (led : FrontLed) (cameraId : Int) (enabled : Bool) : FrontLed :=
  if cameraId = 1 then
    if led.hasFrontFlash then
      let (ok, led) := led.setFrontTorchState enabled
      if ok then led.notifyTorchStatus 1 (if enabled then .availableOn else .availableOff) else led
    else led
  else led

end FrontLed

/-! ## 2. Capture requests -/

/-- `ANDROID_FLASH_MODE`. -/
inductive FlashMode
  | off
  | single
  | torch
  | other (value : Nat)
  deriving DecidableEq, Repr

/-- `ANDROID_CONTROL_AE_MODE`. -/
inductive AeMode
  | off
  | on
  | onAutoFlash
  | onAlwaysFlash
  | onAutoFlashRedeye
  | other (value : Nat)
  deriving DecidableEq, Repr

/-- `ANDROID_CONTROL_AE_PRECAPTURE_TRIGGER`. -/
inductive AePrecaptureTrigger
  | idle
  | start
  | other (value : Nat)
  deriving DecidableEq, Repr

/-- `ANDROID_CONTROL_CAPTURE_INTENT`. -/
inductive CaptureIntent
  | preview
  | stillCapture
  | other (value : Nat)
  deriving DecidableEq, Repr

/-- The entries of a request's metadata that the wrapper looks for. -/
structure CaptureSettings where
  flashMode : Option FlashMode := none
  aeMode : Option AeMode := none
  aePrecaptureTrigger : Option AePrecaptureTrigger := none
  captureIntent : Option CaptureIntent := none
  deriving DecidableEq, Repr

/-- A request, and whether its metadata can be cloned. -/
structure CaptureRequest where
  settings : Option CaptureSettings
  cloned : Bool := true
  deriving DecidableEq, Repr

/-- `wrapper_camera3_device_t`. -/
structure Camera3Device where
  id : Int
  frontFlashActive : Bool := false
  frontFlashRequested : Bool := false
  deriving DecidableEq, Repr

namespace CaptureSettings

/-- The settings as the vendor gets them: without flash. -/
def sanitized (s : CaptureSettings) : CaptureSettings :=
  { s with
    flashMode := s.flashMode.map fun _ => .off
    aeMode := s.aeMode.map fun mode =>
      match mode with
      | .onAutoFlash | .onAlwaysFlash | .onAutoFlashRedeye => .on
      | mode => mode
    aePrecaptureTrigger := s.aePrecaptureTrigger.map fun trigger =>
      match trigger with
      | .start => .idle
      | trigger => trigger }

/-- Whether a flash is asked for, behind settings with this mode for the exposure. -/
def requestsFlash (s : CaptureSettings) (requested : Bool) : Bool :=
  match s.aeMode with
  | some .onAutoFlash | some .onAlwaysFlash | some .onAutoFlashRedeye => true
  | some .off | some .on => false
  | _ => requested

end CaptureSettings

/-- The front camera and its LED.  `forwarded` holds the settings of the requests that were passed
on to the vendor. -/
structure FrontCamera where
  led : FrontLed
  device : Option Camera3Device := none
  forwarded : List (Option CaptureSettings) := []
  deriving DecidableEq, Repr

inductive FrontCameraOp
  | open
  | processCaptureRequest (request : CaptureRequest)
  | flush
  | close
  | setTorchMode (cameraId : Int) (enabled : Bool)
  deriving DecidableEq, Repr

namespace FrontCamera

/-- The LED and the flag for it are set together. -/
def setFlash (c : FrontCamera) (d : Camera3Device) (active : Bool) : FrontCamera :=
  { c with
    led := (c.led.setFrontTorchState active).2
    device := some { d with frontFlashActive := active } }

/-- What a request does to the LED. -/
def manageTorch (c : FrontCamera) (d : Camera3Device) (flashMode : FlashMode)
    (captureIntent : CaptureIntent) : FrontCamera :=
  if flashMode = .torch then c.setFlash d true
  else if captureIntent = .stillCapture ∧ (d.frontFlashRequested ∨ flashMode = .single) then
    c.setFlash d true
  else if d.frontFlashActive ∧ captureIntent ≠ .stillCapture ∧ flashMode ≠ .torch then
    c.setFlash d false
  else { c with device := some d }

/-- `camera3_process_capture_request`, up to the vendor's result. -/
def processCaptureRequest (c : FrontCamera) (d : Camera3Device) (request : CaptureRequest) :
    FrontCamera :=
  if d.id = 1 ∧ c.led.hasFrontFlash then
    match request.settings, request.cloned with
    | some s, true =>
      let d := { d with frontFlashRequested := s.requestsFlash d.frontFlashRequested }
      let c := c.manageTorch d (s.flashMode.getD .off) (s.captureIntent.getD .preview)
      { c with forwarded := c.forwarded ++ [some s.sanitized] }
    | settings, _ => { c with forwarded := c.forwarded ++ [settings] }
  else { c with forwarded := c.forwarded ++ [request.settings] }

/-- `camera3_flush`. -/
def flush (c : FrontCamera) (d : Camera3Device) : FrontCamera :=
  if d.id = 1 ∧ d.frontFlashActive then c.setFlash d false else c

/-- `camera3_device_close`. -/
def close (c : FrontCamera) (d : Camera3Device) : FrontCamera :=
  if d.id = 1 then
    let led := (c.led.setFrontTorchState false).2
    { c with
      led := if led.hasFrontFlash then led.notifyTorchStatus 1 .availableOff else led
      device := none }
  else { c with device := none }

/-- `camera3_device_open` of the front camera. -/
def openDevice (c : FrontCamera) : FrontCamera :=
  { c with
    led :=
      if c.led.hasFrontFlash then
        (c.led.setFrontTorchState false).2.notifyTorchStatus 1 .notAvailable
      else c.led
    device := some { id := 1 } }

def step (c : FrontCamera) : FrontCameraOp → Option FrontCamera
  | .open =>
    match c.device with
    | none => some c.openDevice
    | some _ => none
  | .processCaptureRequest request => c.device.map fun d => c.processCaptureRequest d request
  | .flush => c.device.map c.flush
  | .close => c.device.map c.close
  | .setTorchMode cameraId enabled => some { c with led := c.led.setTorchMode cameraId enabled }

/-! ## 3. The LED follows the flag -/

/-- While the camera is open the LED is on iff the device takes its flash to be active. -/
def LedFollowsFlag (c : FrontCamera) : Prop :=
  ∀ d, c.device = some d → (c.led.on = true ↔ d.frontFlashActive = true)

/-- The torch of an open front camera is only set to what its flash is. -/
def KeepsFlash (c : FrontCamera) (op : FrontCameraOp) : Prop :=
  ∀ d enabled, c.device = some d → op = .setTorchMode 1 enabled → enabled = d.frontFlashActive

/-- The nodes can be written, and the open camera is the front one. -/
structure Ready (c : FrontCamera) : Prop where
  writable : c.led.Writable
  front : ∀ d, c.device = some d → d.id = 1

/-! ## 4. Writing the LED -/

section

variable {led : FrontLed}

theorem hasFrontFlash_of_writable (h : led.Writable) : led.hasFrontFlash = true := by
  unfold FrontLed.hasFrontFlash
  rcases h with h | h
  · rw [h]
    rfl
  · rw [h]
    exact Bool.or_true _

theorem setFrontTorchState_eq (h : led.Writable) (enabled : Bool) :
    led.setFrontTorchState enabled = (true, { led with on := enabled }) := if_pos h

theorem on_notifyTorchStatus (cameraId : Int) (status : TorchModeStatus) :
    (led.notifyTorchStatus cameraId status).on = led.on := by
  unfold FrontLed.notifyTorchStatus
  split <;> rfl

theorem writable_setFrontTorchState (h : led.Writable) (enabled : Bool) :
    (led.setFrontTorchState enabled).2.Writable := by
  rw [setFrontTorchState_eq h]
  exact h

theorem writable_notifyTorchStatus (cameraId : Int) (status : TorchModeStatus) :
    (led.notifyTorchStatus cameraId status).Writable ↔ led.Writable := by
  unfold FrontLed.notifyTorchStatus
  split
  · exact Iff.rfl
  · exact Iff.rfl

theorem on_setTorchMode (h : led.Writable) (cameraId : Int) (enabled : Bool) :
    (led.setTorchMode cameraId enabled).on = if cameraId = 1 then enabled else led.on := by
  unfold FrontLed.setTorchMode
  rw [hasFrontFlash_of_writable h, setFrontTorchState_eq h, if_pos rfl]
  dsimp only
  rw [if_pos rfl]
  split
  · exact on_notifyTorchStatus 1 _
  · rfl

theorem writable_setTorchMode (h : led.Writable) (cameraId : Int) (enabled : Bool) :
    (led.setTorchMode cameraId enabled).Writable := by
  unfold FrontLed.setTorchMode
  rw [setFrontTorchState_eq h]
  split
  · split
    · dsimp only
      rw [if_pos rfl, writable_notifyTorchStatus]
      exact h
    · exact h
  · exact h

end

/-! ## 5. Steps -/

variable {c t : FrontCamera} {d : Camera3Device} {op : FrontCameraOp}

theorem ready_of_device {e : Camera3Device} (hw : c.led.Writable) (hd : c.device = some e)
    (hid : e.id = 1) : c.Ready :=
  ⟨hw, fun d h => by rwa [Option.some.inj (h.symm.trans hd)]⟩

theorem ready_of_closed (hw : c.led.Writable) (hd : c.device = none) : c.Ready :=
  ⟨hw, fun d h => by cases h.symm.trans hd⟩

theorem ready_setFlash (hw : c.led.Writable) (hid : d.id = 1) (active : Bool) :
    (c.setFlash d active).Ready :=
  ready_of_device (writable_setFrontTorchState hw active) rfl hid

theorem ready_manageTorch (hw : c.led.Writable) (hid : d.id = 1) (flashMode : FlashMode)
    (captureIntent : CaptureIntent) : (c.manageTorch d flashMode captureIntent).Ready := by
  unfold manageTorch
  split
  · exact ready_setFlash hw hid true
  · split
    · exact ready_setFlash hw hid true
    · split
      · exact ready_setFlash hw hid false
      · exact ready_of_device hw rfl hid

theorem ready_forwarded (hc : c.Ready) (forwarded : List (Option CaptureSettings)) :
    { c with forwarded := forwarded }.Ready := ⟨hc.writable, hc.front⟩

theorem ready_processCaptureRequest (hc : c.Ready) (hd : c.device = some d)
    (request : CaptureRequest) : (c.processCaptureRequest d request).Ready := by
  unfold processCaptureRequest
  split
  · split
    · rename_i s _ _
      have hid : { d with
          frontFlashRequested := s.requestsFlash d.frontFlashRequested }.id = 1 := hc.front d hd
      exact ready_forwarded (ready_manageTorch hc.writable hid _ _) _
    · exact ready_forwarded hc _
  · exact ready_forwarded hc _

/-- The LED is off when the camera has been closed. -/
theorem close_spec (hc : c.Ready) (hd : c.device = some d) :
    (c.close d).led.on = false ∧ (c.close d).device = none ∧ (c.close d).led.Writable := by
  unfold close
  rw [if_pos (hc.front d hd), setFrontTorchState_eq hc.writable]
  dsimp only
  split
  · exact ⟨on_notifyTorchStatus 1 _, rfl, (writable_notifyTorchStatus 1 _).mpr hc.writable⟩
  · exact ⟨rfl, rfl, hc.writable⟩

/-- The LED is off when the camera has been opened. -/
theorem openDevice_spec (hw : c.led.Writable) :
    c.openDevice.led.on = false ∧ c.openDevice.device = some { id := 1 } ∧
      c.openDevice.led.Writable := by
  unfold openDevice
  rw [if_pos (hasFrontFlash_of_writable hw), setFrontTorchState_eq hw]
  exact ⟨on_notifyTorchStatus 1 _, rfl, (writable_notifyTorchStatus 1 _).mpr hw⟩

theorem step_open (hstep : c.step .open = some t) : t = c.openDevice := by
  unfold step at hstep
  cases hd : c.device with
  | none =>
    rw [hd] at hstep
    exact (Option.some.inj hstep).symm
  | some d =>
    rw [hd] at hstep
    cases hstep

theorem ready_step (hc : c.Ready) (hstep : c.step op = some t) : t.Ready := by
  cases op with
  | «open» =>
    obtain rfl := step_open hstep
    obtain ⟨-, hdevice, hw⟩ := openDevice_spec hc.writable
    exact ready_of_device hw hdevice rfl
  | processCaptureRequest request =>
    obtain ⟨d, hd, rfl⟩ := Option.map_eq_some_iff.mp hstep
    exact ready_processCaptureRequest hc hd request
  | flush =>
    obtain ⟨d, hd, rfl⟩ := Option.map_eq_some_iff.mp hstep
    unfold flush
    split
    · exact ready_setFlash hc.writable (hc.front d hd) false
    · exact hc
  | close =>
    obtain ⟨d, hd, rfl⟩ := Option.map_eq_some_iff.mp hstep
    obtain ⟨-, hnone, hw⟩ := close_spec hc hd
    exact ready_of_closed hw hnone
  | setTorchMode cameraId enabled =>
    obtain rfl := Option.some.inj hstep
    exact ⟨writable_setTorchMode hc.writable cameraId enabled, hc.front⟩

theorem follows_of_device {e : Camera3Device} (hd : c.device = some e)
    (hon : c.led.on = true ↔ e.frontFlashActive = true) : c.LedFollowsFlag :=
  fun d h => by rwa [Option.some.inj (h.symm.trans hd)]

theorem follows_setFlash (hw : c.led.Writable) (active : Bool) :
    (c.setFlash d active).LedFollowsFlag := by
  refine follows_of_device rfl ?_
  unfold setFlash
  rw [setFrontTorchState_eq hw]

theorem follows_manageTorch (hw : c.led.Writable)
    (hon : c.led.on = true ↔ d.frontFlashActive = true) (flashMode : FlashMode)
    (captureIntent : CaptureIntent) : (c.manageTorch d flashMode captureIntent).LedFollowsFlag := by
  unfold manageTorch
  split
  · exact follows_setFlash hw true
  · split
    · exact follows_setFlash hw true
    · split
      · exact follows_setFlash hw false
      · exact follows_of_device rfl hon

theorem follows_processCaptureRequest (hw : c.led.Writable) (hfollows : c.LedFollowsFlag)
    (hd : c.device = some d) (request : CaptureRequest) :
    (c.processCaptureRequest d request).LedFollowsFlag := by
  unfold processCaptureRequest
  split
  · split
    · rename_i s _ _
      have hon : c.led.on = true ↔ { d with
          frontFlashRequested := s.requestsFlash d.frontFlashRequested }.frontFlashActive = true :=
        hfollows d hd
      exact follows_manageTorch hw hon _ _
    · exact hfollows
  · exact hfollows

theorem follows_setTorchMode_iff (hw : c.led.Writable) (hfollows : c.LedFollowsFlag)
    (cameraId : Int) (enabled : Bool) :
    { c with led := c.led.setTorchMode cameraId enabled }.LedFollowsFlag ↔
      c.KeepsFlash (.setTorchMode cameraId enabled) := by
  have hon : { c with led := c.led.setTorchMode cameraId enabled }.led.on =
      if cameraId = 1 then enabled else c.led.on := on_setTorchMode hw cameraId enabled
  constructor
  · intro hafter d' value hd hop
    obtain ⟨rfl, rfl⟩ := FrontCameraOp.setTorchMode.inj hop
    have hflag := hafter d' hd
    rw [hon, if_pos rfl] at hflag
    exact Bool.eq_iff_iff.mpr hflag
  · intro hkeeps d' hd
    rw [hon]
    by_cases hfront : cameraId = 1
    · rw [if_pos hfront, hkeeps d' enabled hd (by rw [hfront])]
    · rw [if_neg hfront]
      exact hfollows d' hd

/-- One operation keeps the LED and the flag together exactly if it is not a torch call against the
flash of the open camera. -/
theorem follows_step_iff (hc : c.Ready) (hfollows : c.LedFollowsFlag)
    (hstep : c.step op = some t) : t.LedFollowsFlag ↔ c.KeepsFlash op := by
  cases op with
  | setTorchMode cameraId enabled =>
    obtain rfl := Option.some.inj hstep
    exact follows_setTorchMode_iff hc.writable hfollows cameraId enabled
  | «open» =>
    obtain rfl := step_open hstep
    obtain ⟨hoff, hdevice, -⟩ := openDevice_spec hc.writable
    refine iff_of_true (follows_of_device hdevice ?_) nofun
    rw [hoff]
  | processCaptureRequest request =>
    obtain ⟨d, hd, rfl⟩ := Option.map_eq_some_iff.mp hstep
    exact iff_of_true (follows_processCaptureRequest hc.writable hfollows hd request) nofun
  | flush =>
    obtain ⟨d, hd, rfl⟩ := Option.map_eq_some_iff.mp hstep
    refine iff_of_true ?_ nofun
    unfold flush
    split
    · exact follows_setFlash hc.writable false
    · exact hfollows
  | close =>
    obtain ⟨d, hd, rfl⟩ := Option.map_eq_some_iff.mp hstep
    obtain ⟨-, hnone, -⟩ := close_spec hc hd
    exact iff_of_true (fun d' h => by cases h.symm.trans hnone) nofun

/-! ## 6. Runs -/

theorem ready_run {ops : List FrontCameraOp} (hc : c.Ready) (run : Exec (guarded step) c ops t) :
    t.Ready := run.invariant (fun _ _ _ hready hstep => ready_step hready hstep) hc

/-- In the states of a run the LED is on iff the open camera takes its flash to be active, exactly
if no torch call of the run goes against the flash of the open camera.  Whatever the run, the LED
is off when a close returns. -/
theorem ledFollowsFlag_iff {ops : List FrontCameraOp} (hw : c.led.Writable)
    (hclosed : c.device = none) (run : Exec (guarded step) c ops t) :
    ((∀ before u, before <+: ops → Exec (guarded step) c before u → u.LedFollowsFlag) ↔
      ExecWhere KeepsFlash (guarded step) c ops t) ∧
    ∀ before u, before ++ [.close] <+: ops → Exec (guarded step) c (before ++ [.close]) u →
      u.led.on = false := by
  have hready := ready_of_closed hw hclosed
  have hstart : c.Ready ∧ c.LedFollowsFlag := ⟨hready, fun d h => by cases h.symm.trans hclosed⟩
  have hstep : ∀ (s : FrontCamera) a u, s.Ready ∧ s.LedFollowsFlag → s.step a = some u →
      (u.Ready ∧ u.LedFollowsFlag ↔ s.KeepsFlash a) := fun s a u hs hu => by
    rw [and_iff_right (ready_step hs.1 hu)]
    exact follows_step_iff hs.1 hs.2 hu
  constructor
  · rw [← forall_prefix_iff hstep hstart run]
    refine forall_congr' fun before => forall_congr' fun u => imp_congr_right fun _ => ?_
    exact imp_congr_right fun hrun => (and_iff_right (ready_run hready hrun)).symm
  · intro before u _ hrun
    obtain ⟨s, hbefore, hclose⟩ := hrun.split
    cases hclose with
    | cons hlast hnil =>
      cases hnil
      obtain ⟨d, hd, rfl⟩ := Option.map_eq_some_iff.mp hlast
      exact (close_spec (ready_run hready hbefore) hd).1

/-- A closed front camera with a flash, as the module starts. -/
def flashPhone : FrontCamera := { led := { frontTorchFlash := .writable, frontFlash := .missing } }

/-- A session with a torch request, a flush and the torch of the rear camera. -/
def flashSession : List FrontCameraOp :=
  [.open, .processCaptureRequest { settings := some { flashMode := some .torch } }, .setTorchMode 0 true,
    .flush, .close]

theorem flashSession_follows : (flashSession.foldlM step flashPhone).isSome = true ∧
    ∀ before u, before <+: flashSession → Exec (guarded step) flashPhone before u →
      u.LedFollowsFlag :=
  ⟨rfl, (ledFollowsFlag_iff (c := flashPhone) (.inl rfl) rfl (Exec.computed rfl)).1.mpr
    (ExecWhere.computed rfl fun n a t ha _ => by
      match n with
      | 0 | 1 | 2 | 3 | 4 =>
        obtain rfl := Option.some.inj ha
        exact nofun
      | n + 5 => cases ha)⟩

/-- The torch of the open front camera is switched on, and a flush leaves it on. -/
theorem torch_outlives_flush :
    ¬∀ (c t : FrontCamera) (ops : List FrontCameraOp), c.led.Writable → c.device = none →
      Exec (guarded step) c ops t → t.LedFollowsFlag := by
  intro hall
  have hfollows := hall flashPhone _ [.open, .setTorchMode 1 true, .flush] (.inl rfl) rfl
    (Exec.computed rfl)
  exact absurd ((hfollows { id := 1 } rfl).mp rfl) nofun

end FrontCamera

end Universal7870.Camera
