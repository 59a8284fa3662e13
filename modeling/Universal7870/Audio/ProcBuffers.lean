import Universal7870.Audio.CaptureStream

/-!
# The processing buffers of an input stream

`proc_buf_in` and `proc_buf_out` share the size in `proc_buf_size`, but a read reallocates only
those that it works with.
-/

namespace Universal7870.Audio

open Lib

/-! ## 1. The channels that effects add -/

namespace EffectStream

/-- The auxiliary channels are those of a table entry for the main channels. -/
def AuxPairs (mainChannels auxChannels : ChannelMask) : Prop :=
  auxChannels = 0 ∨ ⟨mainChannels, auxChannels⟩ ∈ inAuxCnlConfigs

theorem foldl_keeps (main : ChannelMask) (ok : ChannelConfig → ChannelConfig → Prop)
    [∀ new cur, Decidable (ok new cur)] (configs : List ChannelConfig) (new : ChannelConfig) :
    configs.foldl (fun new cur => if cur.mainChannels = main ∧ ok new cur then cur else new) new =
      new ∨ ∃ config ∈ configs, config.mainChannels = main ∧
        configs.foldl
          (fun new cur => if cur.mainChannels = main ∧ ok new cur then cur else new) new =
          config := by
  induction configs generalizing new with
  | nil => exact .inl rfl
  | cons cur configs ih =>
    simp only [List.foldl_cons]
    by_cases hcur : cur.mainChannels = main ∧ ok new cur
    · rw [if_pos hcur]
      rcases ih cur with hsame | ⟨config, hmem, hmain, hfold⟩
      · exact .inr ⟨cur, List.mem_cons_self, hcur.1, hsame⟩
      · exact .inr ⟨config, List.mem_cons_of_mem _ hmem, hmain, hfold⟩
    · rw [if_neg hcur]
      rcases ih new with hsame | ⟨config, hmem, hmain, hfold⟩
      · exact .inl hsame
      · exact .inr ⟨config, List.mem_cons_of_mem _ hmem, hmain, hfold⟩

theorem auxPairs_inGetAuxChannels (s : EffectStream) :
    AuxPairs s.mainChannels s.inGetAuxChannels := by
  unfold inGetAuxChannels
  split
  · exact .inl rfl
  · split
    · exact .inl rfl
    · rcases foldl_keeps s.mainChannels (fun new cur =>
        (List.range s.numPreprocessors).all (fun i => supports (s.preprocessors i) cur) = true ∧
          new.auxChannels.count < cur.auxChannels.count) inAuxCnlConfigs ⟨0, 0⟩ with
        hsame | ⟨config, hmem, hmain, hfold⟩
      · exact .inl (congrArg ChannelConfig.auxChannels hsame)
      · right
        rw [hfold, ← hmain]
        exact hmem

/-- With two channels at most for the client there are two at most with the auxiliary ones. -/
theorem AuxPairs.count_le {mainChannels auxChannels : ChannelMask}
    (h : AuxPairs mainChannels auxChannels) (hmain : mainChannels.count ≤ 2) :
    (mainChannels ||| auxChannels).count ≤ 2 := by
  rcases h with rfl | hmem
  · simpa using hmain
  · unfold inAuxCnlConfigs at hmem
    simp only [List.mem_cons, List.not_mem_nil, or_false, ChannelConfig.mk.injEq] at hmem
    rcases hmem with ⟨rfl, rfl⟩ | ⟨rfl, rfl⟩
    · decide
    · decide

variable {s : EffectStream} {isAec : Nat → Bool}

theorem auxPairs_inUpdateAuxChannels (configure : Nat → Bool)
    (h : AuxPairs s.mainChannels s.auxChannels) :
    AuxPairs s.mainChannels (s.inUpdateAuxChannels configure).auxChannels := by
  unfold inUpdateAuxChannels
  dsimp only
  have haux : AuxPairs s.mainChannels
      (if s.reconfigures configure = true then s.inGetAuxChannels else 0) := by
    split
    · exact s.auxPairs_inGetAuxChannels
    · exact .inl rfl
  generalize (if s.reconfigures configure = true then s.inGetAuxChannels else 0) = aux at *
  split
  · exact haux
  · exact h

/-- A request leaves the channels of the client, and pairs of channels. -/
theorem auxPairs_step (h : AuxPairs s.mainChannels s.auxChannels) (r : EffectRequest) :
    (s.step isAec r).mainChannels = s.mainChannels ∧
      AuxPairs s.mainChannels (s.step isAec r).auxChannels := by
  cases r with
  | add effect descriptor configs configure =>
    show (if descriptor = true then _ else _ : EffectStream).mainChannels = _ ∧
      AuxPairs _ (if descriptor = true then _ else _ : EffectStream).auxChannels
    split
    · unfold addAudioEffect
      split
      · exact ⟨rfl, h⟩
      · dsimp only
        generalize hadded : ({ s with
          preprocessors := _, numPreprocessors := _, attached := _ } : EffectStream) = added
        have hmain : added.mainChannels = s.mainChannels := by
          rw [← hadded]
        have haux : added.auxChannels = s.auxChannels := by
          rw [← hadded]
        obtain ⟨_, _, _, _, wmain, waux, _⟩ := switchAec_same
          (s := { added.inUpdateAuxChannels configure with auxChannelsChanged := true })
          (isAec effect) true
        have hupdated := added.inUpdateAuxChannels_same configure
        rw [waux, wmain]
        refine ⟨hupdated.2.2.2.2.2.trans hmain, ?_⟩
        rw [← hmain, ← haux] at h
        rw [← hmain]
        exact auxPairs_inUpdateAuxChannels configure h
    · exact ⟨rfl, h⟩
  | remove effect descriptor =>
    show (if descriptor = true then _ else _ : EffectStream).mainChannels = _ ∧
      AuxPairs _ (if descriptor = true then _ else _ : EffectStream).auxChannels
    split
    · unfold removeAudioEffect
      split
      · exact ⟨rfl, h⟩
      · dsimp only
        split
        · exact ⟨rfl, h⟩
        · generalize hremoved : ({ s with
            preprocessors := _, numPreprocessors := _, auxChannelsChanged := _,
            attached := _ } : EffectStream) = removed
          have hmain : removed.mainChannels = s.mainChannels := by
            rw [← hremoved]
          have haux : removed.auxChannels = s.auxChannels := by
            rw [← hremoved]
          obtain ⟨_, _, _, _, wmain, waux, _⟩ :=
            switchAec_same (s := removed) (isAec effect) false
          rw [wmain, waux, hmain, haux]
          exact ⟨rfl, h⟩
    · exact ⟨rfl, h⟩

end EffectStream

/-! ## 2. What the buffers hold -/

namespace CaptureStream

def Fitted (s : CaptureStream) : Prop := ∀ use ∈ s.uses, use.Fits

/-- The samples of the frames in `proc_buf_size`. -/
def sizeSamples (s : CaptureStream) : Nat := s.procBufSize * s.channelsInUse

/-- Of an active stream: each buffer that the next read may work with has room for the frames in
`proc_buf_size`, and there are no more frames in the first. -/
structure BuffersHold (s : CaptureStream) : Prop where
  channels : s.config.channels ≤ s.pcmChannels
  frames : s.procBufFrames ≤ s.procBufSize
  inRoom : 0 < s.procBufSize → s.fx.numPreprocessors ≠ 0 ∨ s.hasAdditionalChannels = false →
    BufferUse.Fits ⟨s.procBufIn, s.sizeSamples⟩
  outRoom : 0 < s.procBufSize → s.hasAdditionalChannels = true →
    BufferUse.Fits ⟨s.procBufOut, s.sizeSamples⟩

theorem fits_of_le {room : Option Nat} {need need' : Nat} (h : BufferUse.Fits ⟨room, need⟩)
    (hle : need' ≤ need) : BufferUse.Fits ⟨room, need'⟩ := by
  obtain ⟨n, hroom, hneed⟩ := h
  exact ⟨n, hroom, Nat.le_trans hle hneed⟩

variable {s : CaptureStream}

theorem Fitted.append (h : s.Fitted) {use : BufferUse} (huse : use.Fits) :
    ∀ u ∈ s.uses ++ [use], u.Fits := by
  intro u hu
  rcases List.mem_append.mp hu with hold | hnew
  · exact h u hold
  · rw [List.mem_singleton.mp hnew]
    exact huse

theorem BuffersHold.channelsInUse (h : s.BuffersHold) : s.channelsInUse = s.pcmChannels :=
  Nat.max_eq_right h.channels

theorem uses_growIn (frames : Nat) : (s.growIn frames).uses = s.uses := by
  unfold growIn
  split <;> rfl

theorem uses_growOut (frames : Nat) : (s.growOut frames).uses = s.uses := by
  unfold growOut
  split <;> rfl

/-- Before frames are read for the effects both buffers that are needed have room. -/
theorem BuffersHold.growIn (h : s.BuffersHold) (frames : Nat) :
    (s.growIn frames).BuffersHold ∧ frames ≤ (s.growIn frames).procBufSize := by
  have hchannels := h.channelsInUse
  unfold CaptureStream.growIn
  split
  · rename_i hsmall
    refine ⟨⟨h.channels, ?_, fun _ _ => ?_, fun _ hadditional => ?_⟩, Nat.le_refl _⟩
    · exact Nat.le_of_lt (Nat.lt_of_le_of_lt h.frames hsmall)
    · exact ⟨_, rfl, Nat.le_of_eq (congrArg (frames * ·) hchannels)⟩
    · refine ⟨frames * s.pcmChannels, ?_, Nat.le_of_eq (congrArg (frames * ·) hchannels)⟩
      exact if_pos hadditional
  · rename_i hlarge
    exact ⟨h, Nat.not_lt.mp hlarge⟩

/-- Before frames are read without effects the output buffer has room. -/
theorem BuffersHold.growOut (h : s.BuffersHold) (frames : Nat)
    (hnone : s.fx.numPreprocessors = 0) (hadditional : s.hasAdditionalChannels = true) :
    (s.growOut frames).BuffersHold ∧ frames ≤ (s.growOut frames).procBufSize := by
  have hchannels := h.channelsInUse
  unfold CaptureStream.growOut
  split
  · rename_i hsmall
    refine ⟨⟨h.channels, ?_, fun _ hneeded => ?_, fun _ _ => ?_⟩, Nat.le_refl _⟩
    · exact Nat.le_of_lt (Nat.lt_of_le_of_lt h.frames hsmall)
    · -- the input buffer is not reallocated: it is not needed
      rcases hneeded with hsome | hsame
      · exact absurd hnone hsome
      · exact absurd (hadditional.symm.trans hsame) (by simp)
    · exact ⟨_, rfl, Nat.le_of_eq (congrArg (frames * ·) hchannels)⟩
  · rename_i hlarge
    exact ⟨h, Nat.not_lt.mp hlarge⟩

/-- What holds between the steps of a read. -/
structure Reading (s : CaptureStream) : Prop where
  fitted : s.Fitted
  hold : s.BuffersHold

theorem Reading.useIn (h : s.Reading) {frames : Nat} (hpos : 0 < frames)
    (hle : frames ≤ s.procBufSize) (heffects : s.fx.numPreprocessors ≠ 0) :
    (s.useIn frames).Reading := by
  refine ⟨h.fitted.append ?_, h.hold.channels, h.hold.frames, h.hold.inRoom, h.hold.outRoom⟩
  exact fits_of_le (h.hold.inRoom (by omega) (.inl heffects)) (Nat.mul_le_mul_right _ hle)

theorem Reading.useOut (h : s.Reading) {frames : Nat} (hpos : 0 < frames)
    (hle : frames ≤ s.procBufSize) (hadditional : s.hasAdditionalChannels = true) :
    (s.useOut frames).Reading := by
  refine ⟨h.fitted.append ?_, h.hold.channels, h.hold.frames, h.hold.inRoom, h.hold.outRoom⟩
  exact fits_of_le (h.hold.outRoom (by omega) hadditional) (Nat.mul_le_mul_right _ hle)

/-- After a reload that succeeds there are frames for the effects. -/
theorem Reading.reload (h : s.Reading) {frames : Nat} (hpos : 0 < frames)
    (heffects : s.fx.numPreprocessors ≠ 0) (readFrames : Bool) :
    (s.reload frames readFrames).2.Reading ∧
      ((s.reload frames readFrames).1 = true → frames ≤ (s.reload frames readFrames).2.procBufSize ∧
        0 < (s.reload frames readFrames).2.procBufFrames) := by
  unfold CaptureStream.reload
  split
  · obtain ⟨hgrown, hsize⟩ := h.hold.growIn frames
    have heffects' : (s.growIn frames).fx.numPreprocessors ≠ 0 := by
      rw [(s.sameStream_growIn frames).fx]
      exact heffects
    have hfitted : (s.growIn frames).Fitted := by
      unfold Fitted
      rw [uses_growIn]
      exact h.fitted
    have hread := Reading.useIn ⟨hfitted, hgrown⟩ hpos hsize heffects'
    dsimp only
    split
    · have hhold := hread.hold
      exact ⟨⟨hread.fitted, hhold.channels, hsize, hhold.inRoom, hhold.outRoom⟩,
        fun _ => ⟨hsize, hpos⟩⟩
    · exact ⟨hread, nofun⟩
  · rename_i henough
    have hframes := h.hold.frames
    exact ⟨h, fun _ => ⟨by dsimp only; omega, by dsimp only; omega⟩⟩

/-- The effects are handed buffers with room, and leave no more frames than there were. -/
theorem Reading.processFrames (h : s.Reading) {frames : Nat} (hpos : 0 < frames)
    (heffects : s.fx.numPreprocessors ≠ 0) (hsize : frames ≤ s.procBufSize)
    (hframes : 0 < s.procBufFrames) (consumed : Nat) :
    (s.processFrames frames consumed).Reading := by
  have hin := h.useIn hframes h.hold.frames heffects
  unfold CaptureStream.processFrames
  dsimp only
  split
  · rename_i hadditional
    have hout := hin.useOut hpos hsize hadditional
    refine ⟨hout.fitted, hout.hold.channels, ?_, hout.hold.inRoom, hout.hold.outRoom⟩
    exact Nat.le_trans (Nat.sub_le _ _) hout.hold.frames
  · refine ⟨hin.fitted, hin.hold.channels, ?_, hin.hold.inRoom, hin.hold.outRoom⟩
    exact Nat.le_trans (Nat.sub_le _ _) hin.hold.frames

theorem procBufSize_processFrames (frames consumed : Nat) :
    (s.processFrames frames consumed).procBufSize = s.procBufSize := by
  unfold CaptureStream.processFrames
  dsimp only
  split <;> rfl

/-- The loop over the effects works with buffers that have room; once it has written frames the
size is what was asked for. -/
theorem Reading.processLoop (h : s.Reading) (frames : Nat)
    (heffects : s.fx.numPreprocessors ≠ 0) (turns : List ProcessTurn) (framesWr : Nat)
    (hwr : 0 < framesWr → framesWr ≤ frames ∧ frames ≤ s.procBufSize) :
    (CaptureStream.processLoop frames turns framesWr s).2.Reading ∧
      ∀ wr, (CaptureStream.processLoop frames turns framesWr s).1 = some wr → 0 < wr →
        wr ≤ (CaptureStream.processLoop frames turns framesWr s).2.procBufSize := by
  induction turns generalizing s framesWr with
  | nil =>
    refine ⟨h, fun wr hend hpos => ?_⟩
    obtain rfl := Option.some.inj hend
    exact Nat.le_trans (hwr hpos).1 (hwr hpos).2
  | cons turn turns ih =>
    unfold CaptureStream.processLoop
    by_cases hless : framesWr < frames
    · rw [if_pos hless]
      dsimp only
      obtain ⟨hread, hsize⟩ := h.reload (by omega : 0 < frames) heffects turn.readFrames
      have hfx := (s.sameStream_reload frames turn.readFrames).fx
      generalize s.reload frames turn.readFrames = r at *
      by_cases hfail : r.1 = false
      · rw [if_pos hfail]
        exact ⟨hread, fun wr hend => by cases hend⟩
      · rw [if_neg hfail]
        obtain ⟨hasked, hgiven⟩ := hsize (by simpa using hfail)
        have heffects' : r.2.fx.numPreprocessors ≠ 0 := by
          rw [hfx]
          exact heffects
        refine ih (hread.processFrames (by omega) heffects' hasked hgiven _) ?_ _ fun _ => ?_
        · rw [(sameStream_processFrames _ _ _).fx]
          exact heffects'
        · rw [procBufSize_processFrames]
          refine ⟨?_, hasked⟩
          split
          · assumption
          · exact Nat.le_refl _
    · rw [if_neg hless]
      refine ⟨h, fun wr hend hpos => ?_⟩
      obtain rfl := Option.some.inj hend
      exact Nat.le_trans (hwr hpos).1 (hwr hpos).2

theorem Reading.readAndProcessFrames (h : s.Reading) (frames : Nat) (turns : List ProcessTurn)
    (readFrames : Bool) : (s.readAndProcessFrames frames turns readFrames).2.Reading := by
  unfold CaptureStream.readAndProcessFrames
  split
  · rename_i heffects
    obtain ⟨hloop, hsize⟩ := h.processLoop frames heffects turns 0 nofun
    dsimp only
    split
    · exact hloop
    · rename_i framesWr hend
      split
      · rename_i hreduced
        exact hloop.useOut hreduced.1 (hsize framesWr hend hreduced.1) hreduced.2
      · exact hloop
  · rename_i hnone
    split
    · rename_i hreduced
      obtain ⟨hgrown, hsize⟩ := h.hold.growOut frames (by simpa using hnone) hreduced.2
      have hfitted : (s.growOut frames).Fitted := by
        unfold Fitted
        rw [uses_growOut]
        exact h.fitted
      refine Reading.useOut ⟨hfitted, hgrown⟩ hreduced.1 hsize ?_
      have hsame := s.sameStream_growOut frames
      unfold hasAdditionalChannels
      rw [hsame.fx, hsame.config]
      exact hreduced.2
    · exact h

/-! ## 3. Runs -/

/-- Every use so far had room; the client and the effects have two channels at most; and the
buffers of an active stream hold what the next read needs. -/
structure Roomy (s : CaptureStream) : Prop where
  fitted : s.Fitted
  main : s.fx.mainChannels.count ≤ 2
  aux : EffectStream.AuxPairs s.fx.mainChannels s.fx.auxChannels
  hold : s.fx.standby = false → s.BuffersHold

theorem Roomy.inStandby (h : s.Roomy) : s.inStandby.Roomy := by
  unfold CaptureStream.inStandby
  split
  · exact h
  · exact ⟨h.fitted, h.main, h.aux, nofun⟩

/-- A start that succeeds empties the buffers. -/
theorem Roomy.start (h : s.Roomy) {w : StartResult} (hok : (s.startInputStream w).1 = true) :
    (s.startInputStream w).2.BuffersHold := by
  obtain ⟨profile, _, hstart⟩ := startInputStream_ok hok
  rw [hstart]
  refine ⟨?_, Nat.le_refl _, nofun, nofun⟩
  show s.startChannels profile ≤ 2
  unfold startChannels
  split
  · exact h.aux.count_le h.main
  · exact Nat.le_refl _

theorem uses_startInputStream (s : CaptureStream) (w : StartResult) :
    (s.startInputStream w).2.uses = s.uses := by
  unfold startInputStream
  cases getPcmDevice s.usecaseType s.fx.devices with
  | none => rfl
  | some profile =>
    dsimp only
    split
    · rfl
    · split <;> rfl

theorem Roomy.congr {t : CaptureStream} (h : s.Roomy) (hfx : t.fx = s.fx) (hread : t.Reading) :
    t.Roomy := by
  refine ⟨hread.fitted, ?_, ?_, fun _ => hread.hold⟩
  · rw [hfx]
    exact h.main
  · rw [hfx]
    exact h.aux

/-- A stream that was started. -/
theorem Roomy.started (h : s.Roomy) {w : StartResult} (hok : (s.startInputStream w).1 = true) :
    Roomy { (s.startInputStream w).2 with
      fx := { (s.startInputStream w).2.fx with standby := false } } := by
  have hhold := h.start hok
  have hfx := s.fx_startInputStream w
  have huses := s.uses_startInputStream w
  generalize (s.startInputStream w).2 = t at *
  obtain ⟨hmain, haux⟩ : t.fx.mainChannels.count ≤ 2 ∧
      EffectStream.AuxPairs t.fx.mainChannels t.fx.auxChannels := by
    rw [hfx]
    exact ⟨h.main, h.aux⟩
  have hfitted : t.Fitted := by
    unfold Fitted
    rw [huses]
    exact h.fitted
  exact ⟨hfitted, hmain, haux, fun _ =>
    ⟨hhold.channels, hhold.frames, hhold.inRoom, hhold.outRoom⟩⟩

theorem Roomy.read (h : s.Roomy) (frames : Nat) (start : StartResult) (turns : List ProcessTurn)
    (readFrames : Bool) : (s.inRead frames start turns readFrames).Roomy := by
  have hread : ∀ t : CaptureStream, t.Roomy → t.fx.standby = false →
      Roomy (if (t.readAndProcessFrames frames turns readFrames).1 = true then
        (t.readAndProcessFrames frames turns readFrames).2
      else (t.readAndProcessFrames frames turns readFrames).2.inStandby) := by
    intro t ht hactive
    have hdone := Reading.readAndProcessFrames ⟨ht.fitted, ht.hold hactive⟩ frames turns readFrames
    have hsame := t.sameStream_readAndProcessFrames frames turns readFrames
    split
    · exact ht.congr hsame.fx hdone
    · exact (ht.congr hsame.fx hdone).inStandby
  unfold inRead
  dsimp only
  by_cases hstandby : s.fx.standby = true
  · simp only [if_pos hstandby]
    by_cases hok : (s.startInputStream start).1 = true
    · simp only [if_pos hok]
      rw [if_neg (by simp)]
      exact hread _ (h.started hok) rfl
    · simp only [if_neg hok]
      rw [if_pos (by simpa using hok)]
      -- a start that fails leaves the stream in standby
      have hfailed : (s.startInputStream start).2.Roomy := by
        have hfx := s.fx_startInputStream start
        have huses := s.uses_startInputStream start
        refine ⟨?_, by rw [hfx]; exact h.main, by rw [hfx]; exact h.aux, fun hactive => ?_⟩
        · unfold Fitted
          rw [huses]
          exact h.fitted
        · rw [hfx, hstandby] at hactive
          cases hactive
      exact hfailed.inStandby
  · simp only [if_neg hstandby]
    rw [if_neg (by simp)]
    exact hread s h (by simpa using hstandby)

theorem Roomy.route (h : s.Roomy) (devices : AudioDevices) : (s.route devices).Roomy := by
  unfold CaptureStream.route
  split
  · have hmoved : Roomy { s with fx := { s.fx with devices := devices } } :=
      ⟨h.fitted, h.main, h.aux, fun hactive =>
        ⟨(h.hold hactive).channels, (h.hold hactive).frames, (h.hold hactive).inRoom,
          (h.hold hactive).outRoom⟩⟩
    dsimp only
    split
    · split
      · exact hmoved.inStandby
      · exact hmoved
    · exact hmoved
  · exact h

end CaptureStream

/-- The first effect of a stream that works with additional channels, and that the request leaves
active, finds an input buffer with room for the frames in `proc_buf_size`. -/
def CaptureOp.FindsRoom (isAec : Nat → Bool) (s : CaptureStream) : CaptureOp → Prop
  | .effect r =>
    s.fx.numPreprocessors = 0 → (s.fx.step isAec r).numPreprocessors ≠ 0 →
      (s.fx.step isAec r).standby = false → s.hasAdditionalChannels = true →
      0 < s.procBufSize → BufferUse.Fits ⟨s.procBufIn, s.sizeSamples⟩
  | _ => True

namespace CaptureStream

variable {s : CaptureStream}

theorem Roomy.requestEffect (h : s.Roomy) (isAec : Nat → Bool) (r : EffectRequest)
    (hroom : CaptureOp.FindsRoom isAec s (.effect r)) : (s.requestEffect isAec r).Roomy := by
  obtain ⟨hmain, haux⟩ : (s.fx.step isAec r).mainChannels = s.fx.mainChannels ∧
      EffectStream.AuxPairs s.fx.mainChannels (s.fx.step isAec r).auxChannels :=
    EffectStream.auxPairs_step h.aux r
  unfold CaptureStream.requestEffect
  refine ⟨h.fitted, ?_, ?_, fun hactive => ?_⟩
  · show (s.fx.step isAec r).mainChannels.count ≤ 2
    rw [hmain]
    exact h.main
  · show EffectStream.AuxPairs (s.fx.step isAec r).mainChannels (s.fx.step isAec r).auxChannels
    rw [hmain]
    exact haux
  · change (s.fx.step isAec r).standby = false at hactive
    have hhold := h.hold (EffectStream.standby_step hactive)
    dsimp only
    rw [if_neg (by simp [hactive])]
    have hadditional : hasAdditionalChannels { s with fx := s.fx.step isAec r } =
        s.hasAdditionalChannels := by
      unfold CaptureStream.hasAdditionalChannels
      dsimp only
      rw [hmain]
    refine ⟨hhold.channels, hhold.frames, fun hpos hneeded => ?_, fun hpos hextra => ?_⟩
    · rw [hadditional] at hneeded
      by_cases hbefore : s.fx.numPreprocessors ≠ 0 ∨ s.hasAdditionalChannels = false
      · exact hhold.inRoom hpos hbefore
      · have hnone : s.fx.numPreprocessors = 0 := by
          by_contra hsome
          exact hbefore (.inl hsome)
        have hextra : s.hasAdditionalChannels = true := by
          cases hsame : s.hasAdditionalChannels with
          | true => rfl
          | false => exact absurd (.inr hsame) hbefore
        rcases hneeded with hsome | hsame
        · exact hroom hnone hsome hactive hextra hpos
        · rw [hextra] at hsame
          cases hsame
    · rw [hadditional] at hextra
      exact hhold.outRoom hpos hextra

theorem Roomy.step (h : s.Roomy) (isAec : Nat → Bool) (op : CaptureOp)
    (hop : op.FindsRoom isAec s) : (s.step isAec op).Roomy := by
  cases op with
  | read frames start turns readFrames => exact h.read frames start turns readFrames
  | effect request => exact h.requestEffect isAec request hop
  | route devices => exact h.route devices
  | standby => exact h.inStandby

theorem roomy_openInputStream {devices : AudioDevices} {channelMask : ChannelMask}
    {sampleRate : Nat} {pcm16Bit fast : Bool} {s : CaptureStream}
    (hopen : openInputStream devices channelMask sampleRate pcm16Bit fast = some s) :
    s.Roomy := by
  obtain ⟨hfx, hcount⟩ := fx_openInputStream hopen
  have huses : s.uses = [] := by
    unfold openInputStream at hopen
    split at hopen
    · cases hopen
    · obtain ⟨profile, _, rfl⟩ := Option.map_eq_some_iff.mp hopen
      rfl
  refine ⟨?_, ?_, ?_, fun hactive => ?_⟩
  · unfold Fitted
    rw [huses]
    nofun
  · rw [hfx]
    exact hcount
  · rw [hfx]
    exact .inl rfl
  · rw [hfx] at hactive
    cases hactive

/-- In a run in which the first effect of an active stream finds room, every use of a processing
buffer has room for what is read or written. -/
theorem uses_fit_of_findsRoom {isAec : Nat → Bool} {devices : AudioDevices}
    {channelMask : ChannelMask} {sampleRate : Nat} {pcm16Bit fast : Bool} {opened : CaptureStream}
    {ops : List CaptureOp} {s : CaptureStream}
    (hopen : openInputStream devices channelMask sampleRate pcm16Bit fast = some opened)
    (run : ExecWhere (CaptureOp.FindsRoom isAec) (functional (step isAec)) opened ops s) :
    s.Fitted := by
  apply Roomy.fitted
  apply run.invariant (I := Roomy)
  · rintro s op t hs hop rfl
    exact hs.step isAec op hop
  · exact roomy_openInputStream hopen

/-- The noise suppressor is added before the first read. -/
theorem uses_fit_of_findsRoom_suppressed :
    (suppressedRead.foldl (step fun _ => false) (micStream ChannelMask.inStereo)).Fitted := by
  refine @uses_fit_of_findsRoom (fun _ => false) AudioDevices.inBuiltinMic ChannelMask.inStereo
    48000 true false _ suppressedRead _ rfl (ExecWhere.folded fun n op hop => ?_)
  match n with
  | 0 =>
    obtain rfl := Option.some.inj hop
    exact fun _ _ _ _ hpos => absurd hpos (by decide)
  | 1 =>
    obtain rfl := Option.some.inj hop
    exact trivial
  | n + 2 => cases hop

/-- A mono stream reads 100 frames without effects, and then 50 with one: the input buffer was never
allocated. -/
theorem not_uses_fit_attached :
    ¬ ∀ (isAec : Nat → Bool) (devices : AudioDevices) (channelMask : ChannelMask)
      (sampleRate : Nat) (pcm16Bit fast : Bool) (opened : CaptureStream) (ops : List CaptureOp)
      (s : CaptureStream),
      openInputStream devices channelMask sampleRate pcm16Bit fast = some opened →
      Exec (functional (step isAec)) opened ops s → s.Fitted := by
  intro h
  have hfitted := h (fun _ => false) AudioDevices.inBuiltinMic ChannelMask.inFront 48000 true false
    (micStream ChannelMask.inFront) _ _ rfl
    (Exec.folded (step fun _ => false) _ [.read 100 startsWell [] true, addSuppressor,
      .read 50 startsWell [⟨true, passThrough⟩] true])
  obtain ⟨room, hroom, _⟩ := hfitted ⟨none, 50 * 2⟩ (by decide)
  cases hroom

end CaptureStream

end Universal7870.Audio
