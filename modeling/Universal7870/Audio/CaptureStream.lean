import Universal7870.Audio.EffectList

/-!
# The channels of an input stream

`start_input_stream` opens the PCM with the configuration of a profile, and derives
`in->config.channels` from the channels of the client and of the effects.
-/

namespace Universal7870.Audio

open Lib

/-! ## 1. The parameters of a stream -/

/-- `check_input_parameters`. -/
def checkInputParameters (sampleRate : Nat) (pcm16Bit : Bool) (channelCount : Nat) : Bool :=
  pcm16Bit && decide (1 ≤ channelCount ∧ channelCount ≤ 2) &&
    [8000, 11025, 12000, 16000, 22050, 24000, 32000, 44100, 48000].contains sampleRate

/-! ## 2. The code -/

/-- A use of one of the processing buffers: the samples there is room for, where `none` is a
pointer that is `NULL`, and the samples that are read or written. -/
structure BufferUse where
  room : Option Nat
  need : Nat
  deriving DecidableEq, Repr

def BufferUse.Fits (use : BufferUse) : Prop := ∃ room, use.room = some room ∧ use.need ≤ room

/-- `struct stream_in`.  `pcm` is the device in `pcm_dev_list`, which is open with the
configuration of its profile; the processing buffers are given by the samples there is room for.
`uses` is the history of their uses. -/
structure CaptureStream where
  fx : EffectStream
  usecaseType : UsecaseType
  config : PcmConfig
  pcm : Option PcmDeviceProfile
  procBufIn : Option Nat
  procBufOut : Option Nat
  procBufSize : Nat
  procBufFrames : Nat
  uses : List BufferUse

/-- How the calls of `start_input_stream` end. -/
structure StartResult where
  alloc : Bool
  pcmReady : Bool
  resampler : Bool
  deriving DecidableEq, Repr

/-- What the effects make of the frames they are given, once all were called: no more frames are
consumed than there are. -/
structure ProcessResult where
  consumed : Nat → Nat → Nat
  produced : Nat → Nat → Nat
  consumed_le : ∀ given asked, consumed given asked ≤ given

/-- One turn of the processing loop: whether `read_frames` succeeds if it is called, and what the
effects do. -/
structure ProcessTurn where
  readFrames : Bool
  process : ProcessResult

inductive CaptureOp
  /-- `in_read`, for a number of frames; `readFrames` is for a stream without effects. -/
  | read (frames : Nat) (start : StartResult) (turns : List ProcessTurn) (readFrames : Bool)
  | effect (request : EffectRequest)
  /-- `in_set_parameters` with a routing. -/
  | route (devices : AudioDevices)
  | standby

namespace CaptureStream

/-- `in_standby`, and `do_in_standby_l` where the stream is active. -/
def inStandby (s : CaptureStream) : CaptureStream :=
  if s.fx.standby then s else { s with fx := { s.fx with standby := true }, pcm := none }

/-- The channels that are taken over from the profile, or from the masks once the auxiliary
channels have changed. -/
def startChannels (s : CaptureStream) (profile : PcmDeviceProfile) : Nat :=
  if s.fx.auxChannelsChanged then (s.fx.mainChannels ||| s.fx.auxChannels).count
  else profile.config.channels

/-- `start_input_stream`; the profile is found by the devices. -/
def startInputStream (s : CaptureStream) (w : StartResult) : Bool × CaptureStream :=
  match getPcmDevice s.usecaseType s.fx.devices with
  | none => (false, s)
  | some profile =>
    if w.alloc = false then (false, s)
    else
      let s := { s with
        pcm := some profile
        config := { profile.config with channels := s.startChannels profile } }
      if w.pcmReady = false then (false, { s with pcm := none })
      -- a resampler that cannot be created leaves the PCM open
      else (w.resampler, { s with procBufFrames := 0, procBufSize := 0 })

/-- `has_additional_channels`. -/
def hasAdditionalChannels (s : CaptureStream) : Bool :=
  s.fx.mainChannels.count != s.config.channels

/-- The channels of the frames that `pcm_frames_to_bytes` counts. -/
def pcmChannels (s : CaptureStream) : Nat := (s.pcm.map (·.config.channels)).getD 0

/-- The channels in use: those of the stream's configuration, by which the buffers are indexed, and
those of the PCM, by which they are filled. -/
def channelsInUse (s : CaptureStream) : Nat := max s.config.channels s.pcmChannels

def useIn (s : CaptureStream) (frames : Nat) : CaptureStream :=
  { s with uses := s.uses ++ [⟨s.procBufIn, frames * s.channelsInUse⟩] }

def useOut (s : CaptureStream) (frames : Nat) : CaptureStream :=
  { s with uses := s.uses ++ [⟨s.procBufOut, frames * s.channelsInUse⟩] }

/-- The buffers are reallocated for the loop over the effects. -/
def growIn (s : CaptureStream) (frames : Nat) : CaptureStream :=
  if s.procBufSize < frames then
    { s with
      procBufSize := frames
      procBufIn := some (frames * s.pcmChannels)
      procBufOut :=
        if s.hasAdditionalChannels then some (frames * s.pcmChannels) else s.procBufOut }
  else s

/-- The buffer is reallocated for a read without effects. -/
def growOut (s : CaptureStream) (frames : Nat) : CaptureStream :=
  if s.procBufSize < frames then
    { s with procBufSize := frames, procBufOut := some (frames * s.pcmChannels) }
  else s

/-- Frames are read at the end of the input buffer, unless there are enough. -/
def reload (s : CaptureStream) (frames : Nat) (readFrames : Bool) : Bool × CaptureStream :=
  if s.procBufFrames < frames then
    let s := (s.growIn frames).useIn frames
    if readFrames then (true, { s with procBufFrames := frames }) else (false, s)
  else (true, s)

/-- The effects are handed the buffers, and the frames that are left move to the front. -/
def processFrames (s : CaptureStream) (frames consumed : Nat) : CaptureStream :=
  let s := s.useIn s.procBufFrames
  let s := if s.hasAdditionalChannels then s.useOut frames else s
  { s with procBufFrames := s.procBufFrames - consumed }

/-- The loop over the effects, as far as the turns go, and `frames_wr` unless a read fails.  An
effect that produces too many frames ends it. -/
def processLoop (frames : Nat) :
    List ProcessTurn → Nat → CaptureStream → Option Nat × CaptureStream
  | [], framesWr, s => (some framesWr, s)
  | turn :: turns, framesWr, s =>
    if framesWr < frames then
      let r := s.reload frames turn.readFrames
      if r.1 = false then (none, r.2)
      else
        let consumed := turn.process.consumed r.2.procBufFrames (frames - framesWr)
        let produced := turn.process.produced r.2.procBufFrames (frames - framesWr)
        processLoop frames turns
          (if framesWr + produced ≤ frames then framesWr + produced else frames)
          (r.2.processFrames frames consumed)
    else (some framesWr, s)

/-- `read_and_process_frames`: whether it succeeds.  The additional channels are removed from the
frames in the output buffer. -/
def readAndProcessFrames (s : CaptureStream) (frames : Nat) (turns : List ProcessTurn)
    (readFrames : Bool) : Bool × CaptureStream :=
  if s.fx.numPreprocessors ≠ 0 then
    let r := processLoop frames turns 0 s
    match r.1 with
    | none => (false, r.2)
    | some framesWr =>
      (true, if 0 < framesWr ∧ r.2.hasAdditionalChannels then r.2.useOut framesWr else r.2)
  else if 0 < frames ∧ s.hasAdditionalChannels then
    (readFrames, (s.growOut frames).useOut frames)
  else (readFrames, s)

/-- `in_read`. -/
def inRead (s : CaptureStream) (frames : Nat) (start : StartResult) (turns : List ProcessTurn)
    (readFrames : Bool) : CaptureStream :=
  let r := if s.fx.standby then
      let r := s.startInputStream start
      if r.1 then (true, { r.2 with fx := { r.2.fx with standby := false } }) else r
    else (true, s)
  if r.1 = false then r.2.inStandby
  else
    let r := r.2.readAndProcessFrames frames turns readFrames
    if r.1 then r.2 else r.2.inStandby

/-- `in_set_parameters` with a routing; a profile that does not serve the devices is left. -/
def route (s : CaptureStream) (devices : AudioDevices) : CaptureStream :=
  if s.fx.devices ≠ devices ∧ devices ≠ 0 then
    let s := { s with fx := { s.fx with devices := devices } }
    match s.pcm with
    | some profile =>
      if (profile.devices &&& devices &&& ~~~AudioDevices.bitIn) = 0 then s.inStandby else s
    | none => s
  else s

/-- `add_remove_audio_effect`; an effect that changes the channels, or is an echo canceller, puts
the stream in standby. -/
def requestEffect (isAec : Nat → Bool) (s : CaptureStream) (r : EffectRequest) : CaptureStream :=
  let fx := s.fx.step isAec r
  { s with fx := fx, pcm := if fx.standby ∧ !s.fx.standby then none else s.pcm }

def step (isAec : Nat → Bool) (s : CaptureStream) : CaptureOp → CaptureStream
  | .read frames start turns readFrames => s.inRead frames start turns readFrames
  | .effect request => s.requestEffect isAec request
  | .route devices => s.route devices
  | .standby => s.inStandby

/-- `adev_open_input_stream`: a fast stream without a profile becomes a normal one. -/
def openInputStream (devices : AudioDevices) (channelMask : ChannelMask) (sampleRate : Nat)
    (pcm16Bit fast : Bool) : Option CaptureStream :=
  if checkInputParameters sampleRate pcm16Bit channelMask.count = false then none
  else
    let usecaseType : UsecaseType :=
      if fast ∧ getPcmDevice .pcmCaptureLowLatency devices ≠ none then .pcmCaptureLowLatency
      else .pcmCapture
    (getPcmDevice usecaseType devices).map fun profile =>
      { fx := .opened devices channelMask
        usecaseType := usecaseType
        config := profile.config
        pcm := none
        procBufIn := none
        procBufOut := none
        procBufSize := 0
        procBufFrames := 0
        uses := [] }

/-! ## 3. The channels agree -/

/-- An active stream works with the channels of its PCM. -/
def ChannelsAgree (s : CaptureStream) : Prop :=
  s.fx.standby = false →
    ∃ profile, s.pcm = some profile ∧ s.config.channels = profile.config.channels

/-- The channels of the client and of the effects, if they count, are as many as the PCM has. -/
def StartsAgreed (s : CaptureStream) : Prop :=
  s.fx.auxChannelsChanged = true →
    (s.fx.mainChannels ||| s.fx.auxChannels).count = captureDefaultChannelCount

theorem startChannels_eq_iff (s : CaptureStream) (profile : PcmDeviceProfile) :
    s.startChannels profile = profile.config.channels ↔ s.StartsAgreed := by
  unfold startChannels StartsAgreed
  cases s.fx.auxChannelsChanged with
  | true => simp [PcmDeviceProfile.config]
  | false => simp

/-- What a start that succeeds does. -/
theorem startInputStream_ok {s : CaptureStream} {w : StartResult}
    (hok : (s.startInputStream w).1 = true) :
    ∃ profile, getPcmDevice s.usecaseType s.fx.devices = some profile ∧
      (s.startInputStream w).2 = { s with
        pcm := some profile
        config := { profile.config with channels := s.startChannels profile }
        procBufFrames := 0
        procBufSize := 0 } := by
  unfold startInputStream at hok ⊢
  cases hprofile : getPcmDevice s.usecaseType s.fx.devices with
  | none =>
    rw [hprofile] at hok
    cases hok
  | some profile =>
    rw [hprofile] at hok
    dsimp only at hok ⊢
    by_cases halloc : w.alloc = false
    · rw [if_pos halloc] at hok
      cases hok
    · rw [if_neg halloc] at hok ⊢
      by_cases hready : w.pcmReady = false
      · rw [if_pos hready] at hok
        cases hok
      · rw [if_neg hready]
        exact ⟨profile, rfl, rfl⟩

/-- A start leaves the stream in standby, and its effects alone. -/
theorem fx_startInputStream (s : CaptureStream) (w : StartResult) :
    (s.startInputStream w).2.fx = s.fx := by
  unfold startInputStream
  cases getPcmDevice s.usecaseType s.fx.devices with
  | none => rfl
  | some profile =>
    dsimp only
    split
    · rfl
    · split <;> rfl

/-- The channels agree after a start exactly when they did before. -/
theorem startInputStream_agrees_iff {s : CaptureStream} {w : StartResult}
    (hok : (s.startInputStream w).1 = true) :
    (∃ profile, (s.startInputStream w).2.pcm = some profile ∧
      (s.startInputStream w).2.config.channels = profile.config.channels) ↔ s.StartsAgreed := by
  obtain ⟨profile, _, hstart⟩ := startInputStream_ok hok
  rw [hstart, ← s.startChannels_eq_iff profile]
  constructor
  · rintro ⟨_, hpcm, hchannels⟩
    obtain rfl := Option.some.inj hpcm
    exact hchannels
  · exact fun hchannels => ⟨profile, rfl, hchannels⟩

/-! ## 4. What a read leaves alone -/

/-- The stream is the same but for the processing buffers. -/
structure SameStream (s t : CaptureStream) : Prop where
  fx : t.fx = s.fx
  usecaseType : t.usecaseType = s.usecaseType
  config : t.config = s.config
  pcm : t.pcm = s.pcm

theorem SameStream.refl (s : CaptureStream) : SameStream s s := ⟨rfl, rfl, rfl, rfl⟩

theorem SameStream.trans {s t u : CaptureStream} (h₁ : SameStream s t) (h₂ : SameStream t u) :
    SameStream s u :=
  ⟨h₂.fx.trans h₁.fx, h₂.usecaseType.trans h₁.usecaseType, h₂.config.trans h₁.config,
    h₂.pcm.trans h₁.pcm⟩

variable (s : CaptureStream)

theorem sameStream_useIn (frames : Nat) : SameStream s (s.useIn frames) := ⟨rfl, rfl, rfl, rfl⟩

theorem sameStream_useOut (frames : Nat) : SameStream s (s.useOut frames) := ⟨rfl, rfl, rfl, rfl⟩

theorem sameStream_growIn (frames : Nat) : SameStream s (s.growIn frames) := by
  unfold growIn
  split <;> exact ⟨rfl, rfl, rfl, rfl⟩

theorem sameStream_growOut (frames : Nat) : SameStream s (s.growOut frames) := by
  unfold growOut
  split <;> exact ⟨rfl, rfl, rfl, rfl⟩

theorem sameStream_reload (frames : Nat) (readFrames : Bool) :
    SameStream s (s.reload frames readFrames).2 := by
  unfold reload
  split
  · have h := (s.sameStream_growIn frames).trans ((s.growIn frames).sameStream_useIn frames)
    split
    · exact h.trans ⟨rfl, rfl, rfl, rfl⟩
    · exact h
  · exact SameStream.refl s

theorem sameStream_processFrames (frames consumed : Nat) :
    SameStream s (s.processFrames frames consumed) := by
  unfold processFrames
  dsimp only
  split <;> exact ⟨rfl, rfl, rfl, rfl⟩

theorem sameStream_processLoop (frames : Nat) (turns : List ProcessTurn) (framesWr : Nat) :
    SameStream s (processLoop frames turns framesWr s).2 := by
  induction turns generalizing s framesWr with
  | nil => exact SameStream.refl s
  | cons turn turns ih =>
    unfold processLoop
    split
    · have hreload := s.sameStream_reload frames turn.readFrames
      dsimp only
      split
      · exact hreload
      · exact (hreload.trans (sameStream_processFrames _ _ _)).trans (ih _ _)
    · exact SameStream.refl s

theorem sameStream_readAndProcessFrames (frames : Nat) (turns : List ProcessTurn)
    (readFrames : Bool) :
    SameStream s (s.readAndProcessFrames frames turns readFrames).2 := by
  unfold readAndProcessFrames
  split
  · have hloop := s.sameStream_processLoop frames turns 0
    dsimp only
    split
    · exact hloop
    · split
      · exact hloop.trans (sameStream_useOut _ _)
      · exact hloop
  · split
    · exact (s.sameStream_growOut frames).trans (sameStream_useOut _ _)
    · exact SameStream.refl s

/-! ## 5. Runs -/

variable {s : CaptureStream}

theorem standby_inStandby (s : CaptureStream) : s.inStandby.fx.standby = true := by
  unfold inStandby
  split
  · assumption
  · rfl

theorem ChannelsAgree.of_standby (h : s.fx.standby = true) : s.ChannelsAgree := by
  intro hactive
  rw [h] at hactive
  cases hactive

theorem ChannelsAgree.congr {t : CaptureStream} (h : s.ChannelsAgree) (hsame : SameStream s t) :
    t.ChannelsAgree := by
  unfold ChannelsAgree
  rw [hsame.fx, hsame.config, hsame.pcm]
  exact h

theorem ChannelsAgree.read (h : s.ChannelsAgree) (frames : Nat) (start : StartResult)
    (turns : List ProcessTurn) (readFrames : Bool)
    (hstart : s.fx.standby = true → s.StartsAgreed) :
    (s.inRead frames start turns readFrames).ChannelsAgree := by
  unfold inRead
  have hbegun : ∀ t : Bool × CaptureStream, t = (if s.fx.standby then
      let r := s.startInputStream start
      if r.1 then (true, { r.2 with fx := { r.2.fx with standby := false } }) else r
      else (true, s)) → t.1 = true → t.2.ChannelsAgree := by
    rintro t rfl
    split
    · rename_i hstandby
      dsimp only
      split
      · rename_i hok
        intro _ _
        exact (startInputStream_agrees_iff hok).mpr (hstart hstandby)
      · rename_i hfail
        exact fun hok => absurd hok hfail
    · exact fun _ => h
  generalize (if s.fx.standby = true then _ else _ : Bool × CaptureStream) = t at hbegun
  dsimp only
  split
  · exact .of_standby (standby_inStandby _)
  · rename_i hok
    split
    · exact (hbegun t rfl (by simpa using hok)).congr (sameStream_readAndProcessFrames _ _ _ _)
    · exact .of_standby (standby_inStandby _)

theorem ChannelsAgree.route (h : s.ChannelsAgree) (devices : AudioDevices) :
    (s.route devices).ChannelsAgree := by
  unfold CaptureStream.route
  split
  · have hmoved : ChannelsAgree { s with fx := { s.fx with devices := devices } } := h
    dsimp only
    split
    · split
      · exact .of_standby (standby_inStandby _)
      · exact hmoved
    · exact hmoved
  · exact h

/-- An effect request that leaves the stream active leaves its PCM. -/
theorem ChannelsAgree.requestEffect (h : s.ChannelsAgree) (isAec : Nat → Bool) (r : EffectRequest)
    (hkeeps : (s.fx.step isAec r).standby = false → s.fx.standby = false) :
    (s.requestEffect isAec r).ChannelsAgree := by
  intro hactive
  change (s.fx.step isAec r).standby = false at hactive
  have hpcm : (s.requestEffect isAec r).pcm = s.pcm := by
    unfold CaptureStream.requestEffect
    dsimp only
    rw [if_neg (by simp [hactive])]
  rw [hpcm]
  exact h (hkeeps hactive)

end CaptureStream

namespace EffectStream

/-- An effect request never makes a stream active. -/
theorem standby_inUpdateAuxChannels {s : EffectStream} (configure : Nat → Bool)
    (hactive : (s.inUpdateAuxChannels configure).standby = false) : s.standby = false := by
  unfold inUpdateAuxChannels at hactive
  dsimp only at hactive
  generalize (if s.reconfigures configure = true then _ else _ : ChannelMask) = aux at hactive
  split at hactive
  · cases hactive
  · exact hactive

theorem standby_switchAec {s : EffectStream} {isAec enable : Bool}
    (hactive : (s.switchAec isAec enable).standby = false) : s.standby = false := by
  unfold switchAec at hactive
  split at hactive
  · cases hactive
  · exact hactive

theorem standby_addAudioEffect {s : EffectStream} {effect : Nat} {isAec : Bool}
    {configs : Option (List ChannelConfig)} {configure : Nat → Bool}
    (hactive : (s.addAudioEffect effect isAec configs configure).standby = false) :
    s.standby = false := by
  unfold addAudioEffect at hactive
  split at hactive
  · exact hactive
  · have hupdated := standby_switchAec hactive
    have hadded := standby_inUpdateAuxChannels configure hupdated
    exact hadded

theorem standby_removeAudioEffect {s : EffectStream} {effect : Nat} {isAec : Bool}
    (hactive : (s.removeAudioEffect effect isAec).standby = false) : s.standby = false := by
  unfold removeAudioEffect at hactive
  split at hactive
  · exact hactive
  · dsimp only at hactive
    split at hactive
    · exact hactive
    · have hremoved := standby_switchAec hactive
      exact hremoved

theorem standby_step {s : EffectStream} {isAec : Nat → Bool} {r : EffectRequest}
    (hactive : (s.step isAec r).standby = false) : s.standby = false := by
  cases r with
  | add effect descriptor configs configure =>
    change (if descriptor = true then _ else _ : EffectStream).standby = false at hactive
    split at hactive
    · exact standby_addAudioEffect hactive
    · exact hactive
  | remove effect descriptor =>
    change (if descriptor = true then _ else _ : EffectStream).standby = false at hactive
    split at hactive
    · exact standby_removeAudioEffect hactive
    · exact hactive

end EffectStream

/-- A read that starts the stream does so with channels as many as those of the PCM. -/
def CaptureOp.StartsAgreed (s : CaptureStream) : CaptureOp → Prop
  | .read .. => s.fx.standby = true → s.StartsAgreed
  | _ => True

namespace CaptureStream

variable {s : CaptureStream}

theorem ChannelsAgree.step (h : s.ChannelsAgree) (isAec : Nat → Bool) (op : CaptureOp)
    (hop : op.StartsAgreed s) : (s.step isAec op).ChannelsAgree := by
  cases op with
  | read frames start turns readFrames => exact h.read frames start turns readFrames hop
  | effect request => exact h.requestEffect isAec request EffectStream.standby_step
  | route devices => exact h.route devices
  | standby => exact .of_standby (standby_inStandby s)

theorem fx_openInputStream {devices : AudioDevices} {channelMask : ChannelMask} {sampleRate : Nat}
    {pcm16Bit fast : Bool} {s : CaptureStream}
    (hopen : openInputStream devices channelMask sampleRate pcm16Bit fast = some s) :
    s.fx = .opened devices channelMask ∧ channelMask.count ≤ 2 := by
  unfold openInputStream at hopen
  split at hopen
  · cases hopen
  · rename_i hchecked
    obtain ⟨profile, _, rfl⟩ := Option.map_eq_some_iff.mp hopen
    refine ⟨rfl, ?_⟩
    simp only [checkInputParameters, Bool.not_eq_false, Bool.and_eq_true,
      decide_eq_true_eq] at hchecked
    exact hchecked.1.2.2

/-- In a run whose starts agree with the PCM an active stream works with the channels of its PCM;
the first start that does not agree ends this. -/
theorem channelsAgree_of_startsAgreed {isAec : Nat → Bool} {devices : AudioDevices}
    {channelMask : ChannelMask} {sampleRate : Nat} {pcm16Bit fast : Bool} {opened : CaptureStream}
    {ops : List CaptureOp} {s : CaptureStream}
    (hopen : openInputStream devices channelMask sampleRate pcm16Bit fast = some opened)
    (run : ExecWhere (fun s op => op.StartsAgreed s) (functional (step isAec)) opened ops s) :
    s.ChannelsAgree ∧ ∀ w, (s.startInputStream w).1 = true →
      ((∃ profile, (s.startInputStream w).2.pcm = some profile ∧
        (s.startInputStream w).2.config.channels = profile.config.channels) ↔ s.StartsAgreed) := by
  refine ⟨?_, fun w hok => startInputStream_agrees_iff hok⟩
  apply run.invariant (I := ChannelsAgree)
  · rintro s op t hs hop rfl
    exact hs.step isAec op hop
  · refine .of_standby ?_
    rw [(fx_openInputStream hopen).1]
    rfl

/-- A noise suppressor that tells no configurations. -/
def addSuppressor : CaptureOp := .effect (.add 1 true none fun _ => true)

def startsWell : StartResult := ⟨true, true, true⟩

/-- An effect that hands on the frames it is given. -/
def passThrough : ProcessResult :=
  ⟨fun given _ => given, fun given asked => min given asked, fun _ _ => Nat.le_refl _⟩

def suppressedRead : List CaptureOp :=
  [addSuppressor, .read 100 startsWell [⟨true, passThrough⟩] true]

/-- A stream for the main microphone, as it is opened. -/
def micStream (channelMask : ChannelMask) : CaptureStream where
  fx := .opened AudioDevices.inBuiltinMic channelMask
  usecaseType := .pcmCapture
  config := pcmDeviceCapture.config
  pcm := none
  procBufIn := none
  procBufOut := none
  procBufSize := 0
  procBufFrames := 0
  uses := []

theorem channelsAgree_of_startsAgreed_stereo :
    (suppressedRead.foldl (step fun _ => false)
      (micStream ChannelMask.inStereo)).ChannelsAgree := by
  refine (@channelsAgree_of_startsAgreed (fun _ => false) AudioDevices.inBuiltinMic
    ChannelMask.inStereo 48000 true false _ suppressedRead _ rfl
    (ExecWhere.folded fun n op hop => ?_)).1
  match n with
  | 0 =>
    obtain rfl := Option.some.inj hop
    exact trivial
  | 1 =>
    obtain rfl := Option.some.inj hop
    exact fun _ _ => by decide
  | n + 2 => cases hop

/-- An effect without auxiliary channels on a mono stream: the stream works with one channel, its
PCM with two. -/
theorem not_channelsAgree_mono :
    ¬ ∀ (isAec : Nat → Bool) (devices : AudioDevices) (channelMask : ChannelMask)
      (sampleRate : Nat) (pcm16Bit fast : Bool) (opened : CaptureStream) (ops : List CaptureOp)
      (s : CaptureStream),
      openInputStream devices channelMask sampleRate pcm16Bit fast = some opened →
      Exec (functional (step isAec)) opened ops s → s.ChannelsAgree := by
  intro h
  have hagree := h (fun _ => false) AudioDevices.inBuiltinMic ChannelMask.inFront 48000 true false
    (micStream ChannelMask.inFront) _ _ rfl
    (Exec.folded (step fun _ => false) _ suppressedRead)
  obtain ⟨profile, _, hchannels⟩ := hagree rfl
  exact absurd (show (1 : Nat) = 2 from hchannels) (by decide)

end CaptureStream

end Universal7870.Audio
