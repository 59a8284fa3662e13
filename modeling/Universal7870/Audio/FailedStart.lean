import Universal7870.Audio.ActiveInput
import Universal7870.Audio.EchoOwnership
import Universal7870.Audio.SettledSelection
import Universal7870.Audio.UniqueUsecases

/-!
# Starts that fail

`start_input_stream` and `start_output_stream` list a usecase, route it and open what they play on
or record from.  Where a later step fails they go back through `stop_input_stream` and
`stop_output_stream`, which do not take back all of it.
-/

namespace Universal7870.Audio

open Lib

/-! ## 1. The steps of a start -/

/-- What a start does that is to be undone if it fails, and what undoes it.  A usecase is named by
its place in the list, a PCM device by its place in the stream's list. -/
inductive StartEvent
  | listed (place : Nat)
  | delisted (place : Nat)
  | pcmOpened (device : Nat)
  | pcmClosed (device : Nat)
  | comprOpened
  | comprClosed
  deriving DecidableEq, Repr

/-- The loop of `out_open_pcm_devices` from the device at place `k` on, where `ready` is what
`pcm_is_ready` says of each handle that `pcm_open` returns.  The one that is not ready is dropped. -/
def openPcmDevices (ready : Nat → Bool) : Nat → List PcmDevice →
    Bool × List PcmDevice × List StartEvent
  | _, [] => (true, [], [])
  | k, d :: devs =>
    if ready k then
      let (ok, devs, events) := openPcmDevices ready (k + 1) devs
      (ok, { d with pcm := true } :: devs, .pcmOpened k :: events)
    else (false, { d with pcm := false } :: devs, [.pcmOpened k])

/-- The handles `out_close_pcm_devices` closes, from the device at place `k` on. -/
def closedPcmDevices : Nat → List PcmDevice → List StartEvent
  | _, [] => []
  | k, d :: devs => (if d.pcm then [.pcmClosed k] else []) ++ closedPcmDevices (k + 1) devs

namespace Hal

/-- The usecase that `get_usecase_from_id` finds is delisted. -/
def delistEvents (h : Hal) (id : UsecaseId) : List StartEvent :=
  (h.routing.getUsecaseFromId id).toList.map .delisted

def stopOutputEvents (h : Hal) (o : OutId) : List StartEvent :=
  if (h.stopOutputOffloadStream o).1 then h.delistEvents (h.outs o).usecase else []

/-- `start_output_stream` once the path is enabled: its status, and what it does. -/
def openOutputEvents (h : Hal) (o : OutId) (ready : Nat → Bool) : Int × Hal × List StartEvent :=
  if ¬(h.outs o).isOffload then
    let h := h.modifyOut o ({ · with compr := none })
    let (ok, devs, events) := openPcmDevices ready 0 (h.outs o).pcmDevList
    let h := h.modifyOut o ({ · with pcmDevList := devs })
    if ¬ok then
      let closed := h.outClosePcmDevices o
      (-5, closed.stopOutputStream o,
        events ++ (closedPcmDevices 0 devs ++ closed.stopOutputEvents o))
    else (0, h.pickUpEcho o, events)
  else if ¬ready 0 then
    let h := h.modifyOut o ({ · with compr := none })
    (-5, h.stopOutputStream o, .comprOpened :: .comprClosed :: h.stopOutputEvents o)
  else (0, h.modifyOut o ({ · with compr := some ⟨false, false⟩ }), [.comprOpened])

/-- `start_output_stream`: its status (0, `-ENOMEM` or `-EIO`), and what it does. -/
def startOutputEvents (h : Hal) (o : OutId) (alloc : PathAlloc) (ready : Nat → Bool) :
    Option (Int × Hal × List StartEvent) :=
  if ¬alloc.usecase then some (-12, h, [])
  else (h.enableOutputPath o alloc).map fun (_, h₁) =>
    let (status, h₂, events) := h₁.openOutputEvents o ready
    (status, h₂, .listed h.routing.usecaseList.length :: events)

/-- `start_input_stream`: its status, and what it does. -/
def startInputEvents (h : Hal) (i : InId) (start : InputStart) :
    Option (Int × Hal × List StartEvent) :=
  let h := { h with activeInput := some i }
  match getPcmDevice (h.ins i).usecaseType (h.ins i).devices with
  | none => some (-22, { h with activeInput := none }, [])
  | some profile =>
    if ¬start.usecase ∨ ¬start.pcmDevice then some (-12, { h with activeInput := none }, [])
    else (h.listInputStream i profile).map fun h₁ =>
      let h₂ := (h₁.setInputConfig i profile).takeInEcho i start.echoReference
      let (status, h₃) := h₂.openInput i (h₁.resamplerStatus i profile start) start.ready
      (status, h₃, .listed h.routing.usecaseList.length :: .pcmOpened 0 ::
        if ¬start.ready then .pcmClosed 0 :: h₂.delistEvents (h₂.ins i).usecase else [])

/-- The devices of an output that are opened, or the compressed stream. -/
def opens (h : Hal) (o : OutId) (ready : Nat → Bool) : Bool :=
  if ¬(h.outs o).isOffload then (openPcmDevices ready 0 (h.outs o).pcmDevList).1 else ready 0

/-! ## 2. The starts are those of the HAL -/

theorem openPcmDevices_devices (ready : Nat → Bool) (k : Nat) (devs : List PcmDevice) :
    (openPcmDevices ready k devs).2.1.map ({ · with pcm := false }) =
      devs.map ({ · with pcm := false }) := by
  induction devs generalizing k with
  | nil => rfl
  | cons d devs ih =>
    unfold openPcmDevices
    split
    · simp only [List.map_cons, ih]
    · rfl

theorem openPcmDevices_opened {ready : Nat → Bool} {k : Nat} {devs : List PcmDevice}
    (hok : (openPcmDevices ready k devs).1 = true) :
    (openPcmDevices ready k devs).2.1 = devs.map ({ · with pcm := true }) := by
  induction devs generalizing k with
  | nil => rfl
  | cons d devs ih =>
    unfold openPcmDevices at hok ⊢
    split
    · rename_i hready
      rw [if_pos hready] at hok
      simp only [List.map_cons, ih hok]
    · rename_i hready
      rw [if_neg hready] at hok
      cases hok

theorem ok_of_noDevices {ready : Nat → Bool} {k : Nat} {devs : List PcmDevice}
    (hok : (openPcmDevices ready k devs).1 = false) : devs ≠ [] := by
  rintro rfl
  cases hok

theorem modifyOut_congr {h : Hal} {o : OutId} {f g : StreamOut → StreamOut}
    (hfg : f (h.outs o) = g (h.outs o)) : h.modifyOut o f = h.modifyOut o g := by
  unfold modifyOut
  rw [hfg]

theorem openOutputEvents_pcm {h : Hal} {o : OutId} (hpcm : ¬(h.outs o).isOffload)
    (ready : Nat → Bool) : h.openOutputEvents o ready =
      let k := h.modifyOut o ({ · with compr := none })
      let opened := openPcmDevices ready 0 (h.outs o).pcmDevList
      let k' := k.modifyOut o ({ · with pcmDevList := opened.2.1 })
      if opened.1 then (0, k'.pickUpEcho o, opened.2.2)
      else (-5, (k.outClosePcmDevices o).stopOutputStream o,
        opened.2.2 ++ (closedPcmDevices 0 opened.2.1 ++
          (k.outClosePcmDevices o).stopOutputEvents o)) := by
  unfold openOutputEvents
  rw [if_pos hpcm]
  dsimp only
  generalize hk : h.modifyOut o ({ · with compr := none }) = k
  have hdevs : (h.outs o).pcmDevList = (k.outs o).pcmDevList := by
    subst hk
    show _ = (Function.update h.outs o { h.outs o with compr := none } o).pcmDevList
    rw [Function.update_self]
  rw [hdevs]
  have hclose : (k.modifyOut o ({ · with
      pcmDevList := (openPcmDevices ready 0 (k.outs o).pcmDevList).2.1 })).outClosePcmDevices o =
      k.outClosePcmDevices o := by
    unfold outClosePcmDevices modifyOut
    simp only [Function.update_self, Function.update_idem, openPcmDevices_devices]
  rw [hclose]
  by_cases hok : (openPcmDevices ready 0 (k.outs o).pcmDevList).1 = true
  · rw [if_neg (not_not.mpr hok), if_pos hok]
  · rw [if_pos hok, if_neg hok]

theorem openOutputEvents_offload {h : Hal} {o : OutId} (hoffload : (h.outs o).isOffload)
    (ready : Nat → Bool) : h.openOutputEvents o ready =
      if ready 0 then (0, h.modifyOut o ({ · with compr := some ⟨false, false⟩ }), [.comprOpened])
      else (-5, (h.modifyOut o ({ · with compr := none })).stopOutputStream o,
        .comprOpened :: .comprClosed ::
          (h.modifyOut o ({ · with compr := none })).stopOutputEvents o) := by
  unfold openOutputEvents
  rw [if_neg (not_not.mpr hoffload)]
  by_cases hready : ready 0 = true
  · rw [if_neg (not_not.mpr hready), if_pos hready]
  · rw [if_pos hready, if_neg hready]

/-- The start is that of the HAL, whose devices are ready where the loop opens them all. -/
theorem openOutputEvents_openOutput (h : Hal) (o : OutId) (ready : Nat → Bool) :
    h.openOutput o (h.opens o ready) =
      (decide ((h.openOutputEvents o ready).1 = 0), (h.openOutputEvents o ready).2.1) := by
  unfold openOutput opens
  by_cases hoffload : (h.outs o).isOffload
  · rw [openOutputEvents_offload hoffload, if_neg (not_not.mpr hoffload),
      if_neg (not_not.mpr hoffload)]
    by_cases hready : ready 0 = true
    · simp only [hready, not_true_eq_false, if_false, if_true, decide_true]
    · simp only [hready, not_false_eq_true, if_true, if_false, Bool.false_eq_true]
      rfl
  · rw [openOutputEvents_pcm hoffload, if_pos hoffload, if_pos hoffload]
    dsimp only
    have hdevs : ((h.modifyOut o ({ · with compr := none })).outs o).pcmDevList =
        (h.outs o).pcmDevList := by
      show (Function.update h.outs o { h.outs o with compr := none } o).pcmDevList = _
      rw [Function.update_self]
    by_cases hok : (openPcmDevices ready 0 (h.outs o).pcmDevList).1 = true
    · have hopen : (h.modifyOut o ({ · with compr := none })).outOpenPcmDevices o =
          (h.modifyOut o ({ · with compr := none })).modifyOut o ({ · with
            pcmDevList := (openPcmDevices ready 0 (h.outs o).pcmDevList).2.1 }) := by
        apply modifyOut_congr
        rw [openPcmDevices_opened hok, hdevs]
      simp only [hok, not_true_eq_false, false_and, if_false, if_true, decide_true, hopen]
    · have hne : ((h.modifyOut o ({ · with compr := none })).outs o).pcmDevList ≠ [] := by
        rw [hdevs]
        exact ok_of_noDevices (eq_false_of_ne_true hok)
      simp only [hok, hne, ne_eq, not_false_eq_true, and_self, if_true, if_false,
        Bool.false_eq_true]
      rfl

theorem startOutputEvents_startOutputStream (h : Hal) (o : OutId) (alloc : PathAlloc)
    (ready : Nat → Bool) :
    (h.startOutputEvents o alloc ready).map (fun e => (decide (e.1 = 0), e.2.1)) =
      (h.enableOutputPath o alloc).map fun (ok, h₁) =>
        if ok then h₁.openOutput o (h₁.opens o ready) else (false, h₁) := by
  unfold startOutputEvents
  by_cases halloc : alloc.usecase = true
  · rw [if_neg (not_not.mpr halloc)]
    unfold enableOutputPath
    rw [if_neg (not_not.mpr halloc)]
    simp only [Option.map_map]
    congr 1
    funext h₁
    exact (openOutputEvents_openOutput h₁ o ready).symm
  · rw [if_pos halloc]
    unfold enableOutputPath
    rw [if_pos halloc]
    rfl

theorem startInputEvents_startInputStream (h : Hal) (i : InId) (start : InputStart) :
    (h.startInputEvents i start).map (fun e => (e.1, e.2.1)) = h.startInputStream i start := by
  unfold startInputEvents startInputStream
  dsimp only
  cases getPcmDevice (h.ins i).usecaseType (h.ins i).devices with
  | none => rfl
  | some profile =>
    dsimp only
    split
    · rfl
    · simp only [Option.map_map]
      rfl

end Hal

/-! ## 3. Counts that are not negative -/

/-- No count is negative, and nothing is enabled for no device. -/
structure Routing.CountsSound (r : Routing) : Prop where
  nonneg : ∀ d, 0 ≤ r.sndDevRefCnt d
  none : r.sndDevRefCnt .none = 0

namespace Routing

variable {r : Routing}

theorem CountsSound.enable (h : r.CountsSound) (u : AudioUsecase) {d : SndDevice}
    (hd : d ≠ .none) : (r.enableSndDevice u d).CountsSound where
  nonneg x := by
    rw [enableSndDevice_refCnt r u hd]
    have hx := h.nonneg x
    omega
  none := by
    rw [enableSndDevice_refCnt r u hd, h.none, weight_toNone]
    rfl

theorem CountsSound.disableSingle (h : r.CountsSound) (u : AudioUsecase) (d : SndDevice) :
    (r.disableSingle u d).CountsSound := by
  unfold Routing.disableSingle
  dsimp only
  split
  · exact ⟨h.nonneg, h.none⟩
  · rename_i hpos
    refine ⟨fun x => ?_, ?_⟩
    · show 0 ≤ Function.update r.sndDevRefCnt d (r.sndDevRefCnt d - 1) x
      rw [Function.update_apply]
      split
      · omega
      · exact h.nonneg x
    · show Function.update r.sndDevRefCnt d (r.sndDevRefCnt d - 1) .none = 0
      have hne : SndDevice.none ≠ d := by
        rintro rfl
        exact hpos (Int.le_of_eq h.none)
      rw [Function.update_of_ne hne]
      exact h.none

theorem CountsSound.disable (h : r.CountsSound) (u : AudioUsecase) (d : SndDevice) :
    (r.disableSndDevice u d).CountsSound := by
  unfold Routing.disableSndDevice
  split
  · exact (h.disableSingle u .outSpeaker).disableSingle u .outHeadphones
  · exact h.disableSingle u d

theorem CountsSound.switchAt (h : r.CountsSound) (ids : List UsecaseId) (type : UsecaseType)
    {d : SndDevice} (hd : d ≠ .none) (i : Nat) : (r.switchAt ids type d i).CountsSound := by
  unfold Routing.switchAt
  split
  · exact h
  · rename_i u _
    split
    · have hmoved := (h.disable u (u.sndDevice type)).enable u hd
      exact ⟨hmoved.nonneg, hmoved.none⟩
    · exact h

theorem CountsSound.checkAndRoute (h : r.CountsSound) (uc : Nat) (type : UsecaseType)
    {d : SndDevice} (hd : d ≠ .none) : (r.checkAndRouteUsecases uc type d).CountsSound := by
  unfold checkAndRouteUsecases
  generalize r.switchedIds uc type d = ids
  generalize List.range r.usecaseList.length = places
  induction places generalizing r with
  | nil => exact h
  | cons i places ih => exact ih (h.switchAt ids type hd i)

theorem CountsSound.switchDevices (h : r.CountsSound) (uc : Nat) (out input : SndDevice) :
    (r.switchDevices uc out input).CountsSound := by
  have hdis (r : Routing) (u : AudioUsecase) (d : SndDevice) (hr : r.CountsSound) :
      (if d ≠ .none then r.disableSndDevice u d else r).CountsSound := by
    split
    · exact hr.disable u d
    · exact hr
  have hen (r : Routing) (u : AudioUsecase) (type : UsecaseType) (d : SndDevice)
      (hr : r.CountsSound) : (if d ≠ .none then
        (r.checkAndRouteUsecases uc type d).enableSndDevice u d else r).CountsSound := by
    split
    · rename_i hd
      exact (hr.checkAndRoute uc type hd).enable u hd
    · exact hr
  unfold Routing.switchDevices
  split
  · exact h
  · rename_i u _
    dsimp only
    split
    · exact h
    · have hend := hen _ u .pcmCapture input (hen _ u .pcmPlayback out (hdis _ u u.inSndDevice
        (hdis _ u u.outSndDevice h)))
      exact ⟨hend.nonneg, hend.none⟩

theorem CountsSound.leaveSpeaker (h : r.CountsSound) (uc : Nat) : (r.leaveSpeaker uc).CountsSound := by
  unfold Routing.leaveSpeaker
  split
  · exact h
  · split
    · have hmodified : (r.modifyUsecase uc (·.setSndDevice .pcmPlayback .outHeadphones)).CountsSound :=
        ⟨h.nonneg, h.none⟩
      exact hmodified.disable _ _
    · exact h

end Routing

namespace Hal

end Hal

/-! ## 4. Selecting devices for a usecase that was just listed -/

namespace Routing

variable {r : Routing} {uc : Nat} {u : AudioUsecase}

end Routing

namespace Settings

variable {v : Settings} {r : Routing} {id : UsecaseId} {uc : Nat} {u : AudioUsecase}

end Settings

namespace Hal

end Hal

end Universal7870.Audio
