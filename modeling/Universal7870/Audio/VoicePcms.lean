import Universal7870.Audio.CaptureStream
import Universal7870.Lib.Handles
import Universal7870.Lib.Run

/-!
# The PCM pairs of a call

A voice session and a Bluetooth SCO session each keep a playback and a capture PCM open.
-/

namespace Universal7870.Audio

open Lib

/-! ## 1. The configurations -/

def scoPeriodSize : Nat := 168
def scoDefaultSamplingRate : Nat := 8000
def scoWbSamplingRate : Nat := 16000

def pcmConfigVoicecall : PcmConfig := ⟨2, 8000, capturePeriodSizeLowLatency⟩
def pcmConfigVoicecallWideband : PcmConfig := ⟨2, 16000, capturePeriodSizeLowLatency⟩
def pcmConfigVoiceSco : PcmConfig := ⟨1, scoDefaultSamplingRate, scoPeriodSize⟩
def pcmConfigVoiceScoWb : PcmConfig := ⟨1, scoWbSamplingRate, scoPeriodSize⟩

/-- The devices of the sound card that calls use, for playback and for capture alike. -/
inductive CallDevice
  | voice
  | sco
  deriving DecidableEq, Repr

/-- `struct pcm`, as `pcm_open` returns it. -/
structure Pcm where
  id : Nat
  device : CallDevice
  config : PcmConfig
  ready : Bool
  deriving DecidableEq, Repr

/-- The handles for playback and for capture, where `none` is `NULL`. -/
@[ext]
structure PcmPair where
  rx : Option Pcm := none
  tx : Option Pcm := none
  deriving DecidableEq, Repr

/-- Whether the PCMs that are opened for playback and for capture are ready. -/
structure PairReady where
  rx : Bool
  tx : Bool
  deriving DecidableEq, Repr

/-! ## 2. The code -/

/-- What the sessions ask of the modem. -/
inductive RilRequest
  | callClockSyncStop
  | twoMicControl (on : Bool)
  deriving DecidableEq, Repr

/-- The members of `struct audio_device` and of its voice session that the two sessions work with,
and what became of the PCM handles. -/
structure VoicePcms where
  session : VoiceSession
  /-- `pcm_voice_rx` and `pcm_voice_tx`. -/
  voice : PcmPair := {}
  /-- `pcm_sco_rx` and `pcm_sco_tx`. -/
  sco : PcmPair := {}
  mode : AudioMode
  bluetoothWb : Bool
  pcms : Handles Nat := {}
  ril : List RilRequest := []
  deriving DecidableEq, Repr

namespace VoicePcms

/-- `pcm_open`, which returns a handle also for a PCM that is not ready. -/
def pcmOpen (d : VoicePcms) (device : CallDevice) (config : PcmConfig) (ready : Bool) :
    Pcm × VoicePcms :=
  (⟨d.pcms.gained.length, device, config, ready⟩,
    { d with pcms := d.pcms.gain d.pcms.gained.length })

/-- `pcm_start` or `pcm_stop`, which read what the handle points to. -/
def pcmCall (d : VoicePcms) (pcm : Option Pcm) : VoicePcms :=
  match pcm with
  | some p => { d with pcms := d.pcms.access p.id }
  | none => { d with pcms.fault := true }

/-- `pcm_close`. -/
def pcmClose (d : VoicePcms) (pcm : Option Pcm) : VoicePcms :=
  match pcm with
  | some p => { d with pcms := d.pcms.release p.id }
  | none => { d with pcms.fault := true }

/-- A handle that is not `NULL` is stopped and closed. -/
def stopPcm (d : VoicePcms) (pcm : Option Pcm) : VoicePcms :=
  if pcm = none then d else (d.pcmCall pcm).pcmClose pcm

/-- `start_voice_session` and its status. -/
def startVoiceSession (d : VoicePcms) (ready : PairReady) : Int × VoicePcms :=
  if d.voice.rx ≠ none ∨ d.voice.tx ≠ none then (0, d)
  else
    let config :=
      if d.session.wbAmrType ≥ 1 then pcmConfigVoicecallWideband else pcmConfigVoicecall
    let (rx, d) := d.pcmOpen .voice config ready.rx
    let d := { d with voice.rx := some rx }
    if ¬rx.ready then
      -- the capture handle is closed, which was not opened yet
      let d := d.pcmClose d.voice.tx
      (-12, { d with voice.tx := none })
    else
      let (tx, d) := d.pcmOpen .voice config ready.tx
      let d := { d with voice.tx := some tx }
      if ¬tx.ready then
        -- the playback handle is closed, and the capture handle kept
        let d := d.pcmClose d.voice.rx
        (-12, { d with voice.rx := none })
      else
        let d := (d.pcmCall d.voice.rx).pcmCall d.voice.tx
        (0, { d with ril := .twoMicControl d.session.twoMicControl :: d.ril })

def stopVoiceSession (d : VoicePcms) : VoicePcms :=
  let d := { d with ril := .callClockSyncStop :: d.ril }
  let d : VoicePcms := { d.stopPcm d.voice.rx with voice.rx := none }
  let d : VoicePcms := { d.stopPcm d.voice.tx with voice.tx := none }
  { d with session.outDevice := AudioDevices.none }

/-- `start_voice_session_bt_sco`.  `voiceReady` is about the PCMs of the voice session, which it
starts outside of a call. -/
def startVoiceSessionBtSco (d : VoicePcms) (ready voiceReady : PairReady) : VoicePcms :=
  if d.sco.rx ≠ none ∨ d.sco.tx ≠ none then d
  else
    let config := if d.bluetoothWb then pcmConfigVoiceScoWb else pcmConfigVoiceSco
    let (rx, d) := d.pcmOpen .sco config ready.rx
    let d := { d with sco.rx := some rx }
    if ¬rx.ready then
      let d := d.pcmClose d.sco.rx
      { d with sco.rx := none }
    else
      let (tx, d) := d.pcmOpen .sco config ready.tx
      let d := { d with sco.tx := some tx }
      if ¬tx.ready then
        let d : VoicePcms := { d.pcmClose d.sco.tx with sco.tx := none }
        { d.pcmClose d.sco.rx with sco.rx := none }
      else
        let d := (d.pcmCall d.sco.rx).pcmCall d.sco.tx
        if d.mode ≠ .inCall then (d.startVoiceSession voiceReady).2 else d

def stopVoiceSessionBtSco (d : VoicePcms) : VoicePcms :=
  let d : VoicePcms := { d.stopPcm d.sco.rx with sco.rx := none }
  let d : VoicePcms := { d.stopPcm d.sco.tx with sco.tx := none }
  if d.mode ≠ .inCall then d.stopVoiceSession else d

end VoicePcms

/-- The sessions are started and stopped, and what they look at changes. -/
inductive VoicePcmOp
  | startVoice (ready : PairReady)
  | stopVoice
  | startSco (ready voiceReady : PairReady)
  | stopSco
  | prepare (activeOutDevices : AudioDevices)
  | wbAmr (wbAmrType : Int)
  | bluetoothWb (on : Bool)
  | setMode (mode : AudioMode)
  deriving DecidableEq, Repr

namespace VoicePcms

def step (d : VoicePcms) : VoicePcmOp → VoicePcms
  | .startVoice ready => (d.startVoiceSession ready).2
  | .stopVoice => d.stopVoiceSession
  | .startSco ready voiceReady => d.startVoiceSessionBtSco ready voiceReady
  | .stopSco => d.stopVoiceSessionBtSco
  | .prepare activeOutDevices => { d with session := prepareVoiceSession d.session activeOutDevices }
  | .wbAmr wbAmrType => { d with session.wbAmrType := wbAmrType }
  | .bluetoothWb on => { d with bluetoothWb := on }
  | .setMode mode => { d with mode := mode }

def run (d : VoicePcms) (ops : List VoicePcmOp) : VoicePcms := ops.foldl step d

/-- The device once it is opened: no session was started. -/
def opened (session : VoiceSession) (mode : AudioMode) (bluetoothWb : Bool) : VoicePcms where
  session := session
  mode := mode
  bluetoothWb := bluetoothWb

end VoicePcms

/-! ## 3. What is claimed of a state -/

/-- Both handles are `NULL`, or both are handles of PCMs that are ready. -/
def PcmPair.Paired (p : PcmPair) : Prop :=
  p = {} ∨ ∃ rx tx, p = ⟨some rx, some tx⟩ ∧ rx.ready = true ∧ tx.ready = true

def PcmPair.ids (p : PcmPair) : List Nat := (p.rx.toList ++ p.tx.toList).map (·.id)

namespace VoicePcms

/-- The handles of the pairs are exactly those that are open; each handle that was opened is one of
them or was closed, once, and none was used or closed that was not open. -/
structure Matched (d : VoicePcms) : Prop where
  voice : d.voice.Paired
  sco : d.sco.Paired
  owns : d.pcms.Owns (d.voice.ids ++ d.sco.ids)

/-- After a start for which all PCMs are ready, the pair is open. -/
structure Reopens (d : VoicePcms) : Prop where
  voice : ∃ rx tx, (d.startVoiceSession ⟨true, true⟩).2.voice = ⟨some rx, some tx⟩
  sco : ∃ rx tx, (d.startVoiceSessionBtSco ⟨true, true⟩ ⟨true, true⟩).sco = ⟨some rx, some tx⟩

end VoicePcms

/-- A voice session that opens its PCMs finds both ready, also where it is started for SCO. -/
def VoicePcmOp.Fine (d : VoicePcms) : VoicePcmOp → Prop
  | .startVoice ready => d.voice = {} → ready.rx = true ∧ ready.tx = true
  | .startSco ready voiceReady => d.sco = {} → ready.rx = true ∧ ready.tx = true →
      d.mode ≠ .inCall → d.voice = {} → voiceReady.rx = true ∧ voiceReady.tx = true
  | _ => True

namespace VoicePcms

/-! ## 4. The voice session -/

variable {d : VoicePcms}

theorem pcmCall_of_mem {l : List Nat} {p : Pcm} (howns : d.pcms.Owns l) (hmem : p.id ∈ l) :
    d.pcmCall (some p) = d := by
  unfold pcmCall
  dsimp only
  rw [howns.access hmem]

/-- The PCMs of a pair are started. -/
theorem pcmCall_pair {l : List Nat} {rx tx : Pcm} (howns : d.pcms.Owns (rx.id :: tx.id :: l)) :
    (d.pcmCall (some rx)).pcmCall (some tx) = d := by
  rw [pcmCall_of_mem howns List.mem_cons_self,
    pcmCall_of_mem howns (List.mem_cons_of_mem _ List.mem_cons_self)]

@[simp] theorem pcmCall_sco (d : VoicePcms) (pcm : Option Pcm) : (d.pcmCall pcm).sco = d.sco := by
  cases pcm <;> rfl

@[simp] theorem pcmClose_sco (d : VoicePcms) (pcm : Option Pcm) : (d.pcmClose pcm).sco = d.sco := by
  cases pcm <;> rfl

theorem stopPcm_some {l : List Nat} {p : Pcm} (howns : d.pcms.Owns (p.id :: l)) :
    d.stopPcm (some p) = { d with pcms := d.pcms.release p.id } := by
  unfold stopPcm
  rw [if_neg (Option.some_ne_none p), pcmCall_of_mem howns List.mem_cons_self]
  rfl

theorem startVoiceSession_open (hvoice : d.voice ≠ {}) (ready : PairReady) :
    d.startVoiceSession ready = (0, d) := by
  unfold startVoiceSession
  rw [if_pos]
  by_contra hnone
  rw [not_or, not_not, not_not] at hnone
  exact hvoice (by rw [PcmPair.ext_iff, hnone.1, hnone.2]; exact ⟨rfl, rfl⟩)

theorem startVoiceSession_ready {l : List Nat} (hvoice : d.voice = {}) (howns : d.pcms.Owns l) :
    ∃ rx tx, (d.startVoiceSession ⟨true, true⟩).2.voice = ⟨some rx, some tx⟩ ∧
      rx.ready = true ∧ tx.ready = true ∧
      (d.startVoiceSession ⟨true, true⟩).2.pcms.Owns (rx.id :: tx.id :: l) := by
  unfold startVoiceSession
  rw [hvoice, if_neg (fun h => h.elim (fun h => h rfl) (fun h => h rfl))]
  dsimp only [pcmOpen]
  rw [if_neg (fun h => h rfl), if_neg (fun h => h rfl)]
  have hopen := ((howns.gain d.pcms.gained.length).gain
    (d.pcms.gain d.pcms.gained.length).gained.length).perm (.swap _ _ _)
  dsimp only
  rw [pcmCall_pair hopen]
  exact ⟨_, _, rfl, rfl, rfl, hopen⟩

/-- The handle that was not opened yet is closed, or the one that is not ready is kept. -/
theorem startVoiceSession_not_ready (hvoice : d.voice = {}) {ready : PairReady}
    (hready : ¬(ready.rx = true ∧ ready.tx = true)) :
    ¬(d.startVoiceSession ready).2.Matched := by
  intro hmatched
  unfold startVoiceSession at hmatched
  rw [hvoice, if_neg (fun h => h.elim (fun h => h rfl) (fun h => h rfl))] at hmatched
  dsimp only [pcmOpen] at hmatched
  by_cases hrx : ready.rx = true
  · have htx : ¬ready.tx = true := fun htx => hready ⟨hrx, htx⟩
    rw [if_neg (not_not.mpr hrx), if_pos htx] at hmatched
    rcases hmatched.voice with hnone | ⟨rx, tx, hsome, _⟩
    · cases hnone
    · cases hsome
  · rw [if_pos hrx, hvoice] at hmatched
    exact absurd hmatched.owns.sound.fault.symm Bool.false_ne_true

theorem startVoiceSession_sco (d : VoicePcms) (ready : PairReady) :
    (d.startVoiceSession ready).2.sco = d.sco := by
  unfold startVoiceSession
  split
  · rfl
  · dsimp only [pcmOpen]
    split
    · exact pcmClose_sco _ _
    · split
      · exact pcmClose_sco _ _
      · simp only [pcmCall_sco]

theorem startVoiceSession_matched (h : d.Matched) (ready : PairReady) :
    (d.startVoiceSession ready).2.Matched ↔
      (d.voice = {} → ready.rx = true ∧ ready.tx = true) := by
  by_cases hvoice : d.voice = {}
  · refine ⟨fun hmatched _ => ?_, fun hready => ?_⟩
    · by_contra hready
      exact startVoiceSession_not_ready hvoice hready hmatched
    · obtain rfl : ready = ⟨true, true⟩ := by
        cases ready
        exact PairReady.mk.injEq .. ▸ hready hvoice
      obtain ⟨rx, tx, hpair, hrx, htx, howns⟩ := startVoiceSession_ready hvoice h.owns
      refine ⟨.inr ⟨rx, tx, hpair, hrx, htx⟩, ?_, ?_⟩
      · rw [startVoiceSession_sco]
        exact h.sco
      · rw [startVoiceSession_sco, hpair]
        rw [hvoice] at howns
        exact howns
  · rw [startVoiceSession_open hvoice]
    exact ⟨fun _ hnone => absurd hnone hvoice, fun _ => h⟩

/-! ## 5. A session is stopped -/

/-- Both handles of a pair are stopped and closed. -/
theorem stopPcm_pair {l : List Nat} {p : PcmPair} (hp : p.Paired) (howns : d.pcms.Owns (p.ids ++ l)) :
    ((d.stopPcm p.rx).stopPcm p.tx).pcms.Owns l := by
  rcases hp with rfl | ⟨rx, tx, rfl, _, _⟩
  · exact howns
  · have hrx : d.pcms.Owns (rx.id :: tx.id :: l) := howns
    rw [stopPcm_some hrx, stopPcm_some (d := { d with pcms := d.pcms.release rx.id }) hrx.release]
    exact hrx.release.release

theorem stopVoiceSession_eq (d : VoicePcms) :
    d.stopVoiceSession = { d with
      session.outDevice := AudioDevices.none
      voice := {}
      pcms := ((d.stopPcm d.voice.rx).stopPcm d.voice.tx).pcms
      ril := .callClockSyncStop :: d.ril } := by
  rcases d with ⟨session, ⟨rx, tx⟩, sco, mode, bluetoothWb, pcms, ril⟩
  cases rx <;> cases tx <;> rfl

theorem stopVoiceSession_matched (h : d.Matched) : d.stopVoiceSession.Matched := by
  rw [stopVoiceSession_eq]
  exact ⟨.inl rfl, h.sco, stopPcm_pair h.voice h.owns⟩

theorem stopVoiceSessionBtSco_eq (d : VoicePcms) :
    d.stopVoiceSessionBtSco =
      let closed := { d with
        sco := {}
        pcms := ((d.stopPcm d.sco.rx).stopPcm d.sco.tx).pcms }
      if d.mode ≠ .inCall then closed.stopVoiceSession else closed := by
  rcases d with ⟨session, voice, ⟨rx, tx⟩, mode, bluetoothWb, pcms, ril⟩
  cases rx <;> cases tx <;> rfl

theorem stopVoiceSessionBtSco_matched (h : d.Matched) : d.stopVoiceSessionBtSco.Matched := by
  rw [stopVoiceSessionBtSco_eq]
  have hclosed : ({ d with
      sco := {}
      pcms := ((d.stopPcm d.sco.rx).stopPcm d.sco.tx).pcms } : VoicePcms).Matched := by
    refine ⟨h.voice, .inl rfl, ?_⟩
    have howns := stopPcm_pair h.sco (h.owns.perm List.perm_append_comm)
    exact howns.perm (.of_eq (List.append_nil _).symm)
  dsimp only
  split
  · exact stopVoiceSession_matched hclosed
  · exact hclosed

/-! ## 6. The SCO session is started -/

theorem startVoiceSessionBtSco_open (hsco : d.sco ≠ {}) (ready voiceReady : PairReady) :
    d.startVoiceSessionBtSco ready voiceReady = d := by
  unfold startVoiceSessionBtSco
  rw [if_pos]
  by_contra hnone
  rw [not_or, not_not, not_not] at hnone
  exact hsco (by rw [PcmPair.ext_iff, hnone.1, hnone.2]; exact ⟨rfl, rfl⟩)

/-- What was opened is closed again. -/
theorem startVoiceSessionBtSco_not_ready (h : d.Matched) (hsco : d.sco = {}) {ready : PairReady}
    (hready : ¬(ready.rx = true ∧ ready.tx = true)) (voiceReady : PairReady) :
    (d.startVoiceSessionBtSco ready voiceReady).voice = d.voice ∧
      (d.startVoiceSessionBtSco ready voiceReady).sco = {} ∧
      (d.startVoiceSessionBtSco ready voiceReady).pcms.Owns (d.voice.ids ++ d.sco.ids) := by
  have hrxOpen := h.owns.gain d.pcms.gained.length
  have htxOpen := hrxOpen.gain (d.pcms.gain d.pcms.gained.length).gained.length
  unfold startVoiceSessionBtSco
  rw [hsco, if_neg (fun h => h.elim (fun h => h rfl) (fun h => h rfl))]
  dsimp only [pcmOpen]
  by_cases hrx : ready.rx = true
  · have htx : ¬ready.tx = true := fun htx => hready ⟨hrx, htx⟩
    rw [if_neg (not_not.mpr hrx), if_pos htx]
    rw [hsco] at htxOpen
    exact ⟨rfl, rfl, htxOpen.release.release⟩
  · rw [if_pos hrx, hsco]
    rw [hsco] at hrxOpen
    exact ⟨rfl, rfl, hrxOpen.release⟩

/-- The device once the PCMs of the SCO session run. -/
theorem startVoiceSessionBtSco_ready (h : d.Matched) (hsco : d.sco = {}) (voiceReady : PairReady) :
    ∃ d' : VoicePcms, d.startVoiceSessionBtSco ⟨true, true⟩ voiceReady =
        (if d.mode ≠ .inCall then (d'.startVoiceSession voiceReady).2 else d') ∧
      d'.Matched ∧ d'.voice = d.voice ∧ ∃ rx tx, d'.sco = ⟨some rx, some tx⟩ := by
  have hopen := ((h.owns.gain d.pcms.gained.length).gain
    (d.pcms.gain d.pcms.gained.length).gained.length).perm (.swap _ _ _)
  unfold startVoiceSessionBtSco
  rw [if_neg (by rw [hsco]; exact fun h => h.elim (fun h => h rfl) (fun h => h rfl))]
  dsimp only [pcmOpen]
  rw [if_neg (fun h => h rfl), if_neg (fun h => h rfl), pcmCall_pair hopen]
  refine ⟨_, rfl, ⟨h.voice, .inr ⟨_, _, rfl, rfl, rfl⟩, ?_⟩, rfl, _, _, rfl⟩
  rw [hsco] at hopen
  refine hopen.perm ?_
  change (_ :: _ :: (d.voice.ids ++ [])).Perm (d.voice.ids ++ [_, _])
  rw [List.append_nil]
  change ([_, _] ++ d.voice.ids).Perm (d.voice.ids ++ [_, _])
  exact List.perm_append_comm

theorem startVoiceSessionBtSco_matched (h : d.Matched) (ready voiceReady : PairReady) :
    (d.startVoiceSessionBtSco ready voiceReady).Matched ↔
      (VoicePcmOp.startSco ready voiceReady).Fine d := by
  unfold VoicePcmOp.Fine
  by_cases hsco : d.sco = {}
  · by_cases hready : ready.rx = true ∧ ready.tx = true
    · obtain rfl : ready = ⟨true, true⟩ := by
        cases ready
        exact PairReady.mk.injEq .. ▸ hready
      obtain ⟨d', heq, hd', hvoice, _⟩ := startVoiceSessionBtSco_ready h hsco voiceReady
      rw [heq]
      by_cases hmode : d.mode = .inCall
      · rw [if_neg (not_not.mpr hmode)]
        exact ⟨fun _ _ _ hbad => absurd hmode hbad, fun _ => hd'⟩
      · rw [if_pos hmode, startVoiceSession_matched hd', hvoice]
        exact ⟨fun hfine _ _ _ => hfine, fun hfine => hfine hsco ⟨rfl, rfl⟩ hmode⟩
    · obtain ⟨hvoice, hnone, howns⟩ := startVoiceSessionBtSco_not_ready h hsco hready voiceReady
      refine ⟨fun _ _ hbad => absurd hbad hready, fun _ => ⟨?_, .inl hnone, ?_⟩⟩
      · rw [hvoice]
        exact h.voice
      · rw [hvoice, hnone, ← hsco]
        exact howns
  · rw [startVoiceSessionBtSco_open hsco]
    exact ⟨fun _ hnone => absurd hnone hsco, fun _ => h⟩

/-! ## 7. Runs -/

/-- What one operation keeps, and when. -/
theorem step_matched (h : d.Matched) (op : VoicePcmOp) : (d.step op).Matched ↔ op.Fine d := by
  cases op with
  | startVoice ready => exact startVoiceSession_matched h ready
  | stopVoice => exact iff_of_true (stopVoiceSession_matched h) trivial
  | startSco ready voiceReady => exact startVoiceSessionBtSco_matched h ready voiceReady
  | stopSco => exact iff_of_true (stopVoiceSessionBtSco_matched h) trivial
  | prepare _ | wbAmr _ | bluetoothWb _ | setMode _ =>
    exact iff_of_true ⟨h.voice, h.sco, h.owns⟩ trivial

/-- A pair that is not open is opened by the next start. -/
theorem Matched.reopens (h : d.Matched) : d.Reopens where
  voice := by
    by_cases hvoice : d.voice = {}
    · obtain ⟨rx, tx, hpair, _⟩ := startVoiceSession_ready hvoice h.owns
      exact ⟨rx, tx, hpair⟩
    · rw [startVoiceSession_open hvoice]
      obtain ⟨rx, tx, hpair, _⟩ := h.voice.resolve_left hvoice
      exact ⟨rx, tx, hpair⟩
  sco := by
    by_cases hsco : d.sco = {}
    · obtain ⟨d', heq, _, _, hpair⟩ := startVoiceSessionBtSco_ready h hsco ⟨true, true⟩
      rw [heq]
      split
      · rw [startVoiceSession_sco]
        exact hpair
      · exact hpair
    · rw [startVoiceSessionBtSco_open hsco]
      obtain ⟨rx, tx, hpair, _⟩ := h.sco.resolve_left hsco
      exact ⟨rx, tx, hpair⟩

theorem matched_opened (session : VoiceSession) (mode : AudioMode) (bluetoothWb : Bool) :
    (opened session mode bluetoothWb).Matched := ⟨.inl rfl, .inl rfl, Handles.owns_empty⟩

/-- The pairs are open or closed as a whole, and every handle is closed once, after every operation
of a run, as long as a voice session never finds a PCM not ready. -/
theorem run_matched_iff (session : VoiceSession) (mode : AudioMode) (bluetoothWb : Bool)
    (ops : List VoicePcmOp) :
    (∀ n, ((opened session mode bluetoothWb).run (ops.take n)).Matched ∧
        ((opened session mode bluetoothWb).run (ops.take n)).Reopens) ↔
      ∀ n, ∀ op : VoicePcmOp, ops[n]? = some op →
        op.Fine ((opened session mode bluetoothWb).run (ops.take n)) := by
  have hiff : ∀ d : VoicePcms, d.Matched ∧ d.Reopens ↔ d.Matched :=
    fun d => ⟨And.left, fun h => ⟨h, h.reopens⟩⟩
  simp only [hiff]
  have hstep : ∀ (d : VoicePcms) (op : VoicePcmOp), d.Matched → ((d.step op).Matched ↔ op.Fine d) :=
    fun _ op h => step_matched h op
  exact forall_take_iff hstep (matched_opened session mode bluetoothWb) ops

/-- The playback PCM is not ready: the capture handle is closed, which is `NULL`, and the playback
handle is kept, so that the session is never started again. -/
theorem not_ready_kept :
    let d := (opened ⟨AudioDevices.none, false, false, 0⟩ .inCall false).run
      [.startVoice ⟨false, true⟩]
    d.pcms.fault = true ∧ ¬d.voice.Paired ∧ d.startVoiceSession ⟨true, true⟩ = (0, d) := by
  refine ⟨rfl, ?_, rfl⟩
  rintro (hnone | ⟨rx, tx, hsome, _⟩)
  · cases hnone
  · cases hsome

end VoicePcms

end Universal7870.Audio
