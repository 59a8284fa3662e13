import Universal7870.Jpeg.CompressorQueues

/-!
# The settings that reach the driver

What the driver was told of the client's settings by the time a buffer is queued.
-/

namespace Universal7870.Jpeg

open Lib

/-! ## 1. What the driver takes over -/

namespace CodecControls

/-- The value that is given last stays, and one that is not given stays as it was. -/
theorem accept_eq {accepted : JpegControl → Option Int} {ctrls : List (JpegControl × Option Int)}
    {c : JpegControl} {v : Option Int} (hall : ∀ x ∈ ctrls, x.1 = c → x.2 = v)
    (hset : accepted c = v ∨ ∃ x ∈ ctrls, x.1 = c) : accept accepted ctrls c = v := by
  induction ctrls generalizing accepted with
  | nil =>
    rcases hset with hold | ⟨x, hx, _⟩
    · exact hold
    · cases hx
  | cons y ctrls ih =>
    show accept (Function.update accepted y.1 y.2) ctrls c = v
    apply ih (fun x hx => hall x (List.mem_cons_of_mem _ hx))
    by_cases hy : y.1 = c
    · -- `y` sets the control, whether it is set again or not
      left
      rw [← hy, Function.update_self]
      exact hall y List.mem_cons_self hy
    · rcases hset with hold | ⟨x, hx, hxc⟩
      · left
        rw [Function.update_of_ne (fun heq => hy heq.symm)]
        exact hold
      · right
        rcases List.mem_cons.mp hx with rfl | htail
        · exact absurd hxc hy
        · exact ⟨x, htail, hxc⟩

variable {s : CodecControls}

/-- The HWFC control as the driver has it; it starts disabled. -/
def driverHwfc (s : CodecControls) : Int := (s.accepted .hwfc).getD 0

def hwfcValue (enabled : Bool) : Int := if enabled then 1 else 0

/-- The settings that are not on the way to the driver are those it accepted. -/
structure Tracked (s : CodecControls) : Prop where
  notHwfc : s.controlsToSet .hwfc = false ∧ s.v4l2Controls .hwfc = none
  accepted : ∀ c v, s.v4l2Controls c = some v → s.controlsToSet c = false → s.accepted c = some v
  hwfc : s.driverHwfc = hwfcValue s.enableHwfc

/-- The driver has every setting, and the HWFC option. -/
structure Passed (s : CodecControls) : Prop where
  settings : ∀ c v, s.v4l2Controls c = some v → s.accepted c = some v
  hwfc : s.driverHwfc = hwfcValue (s.wants auxoptEnableHwfc)

theorem mem_ctrls {x : JpegControl × Option Int} :
    x ∈ s.ctrls ↔ s.controlsToSet x.1 = true ∧ x.2 = s.v4l2Controls x.1 ∨
      s.enableHwfc ≠ s.wants auxoptEnableHwfc ∧
        x = (.hwfc, some (hwfcValue (s.wants auxoptEnableHwfc))) := by
  unfold ctrls
  rw [List.mem_append, List.mem_map]
  apply or_congr
  · constructor
    · rintro ⟨c, hc, rfl⟩
      exact ⟨(List.mem_filter.mp hc).2, rfl⟩
    · rintro ⟨hset, hvalue⟩
      exact ⟨x.1, List.mem_filter.mpr ⟨JpegControl.mem_all _, hset⟩, Prod.ext rfl hvalue.symm⟩
  · split
    · rename_i hsame
      exact ⟨nofun, fun h => absurd hsame h.1⟩
    · rename_i hchange
      rw [List.mem_singleton]
      exact ⟨fun h => ⟨hchange, h⟩, fun h => h.2⟩

/-- With nothing on the way the driver has it all. -/
theorem Tracked.passed_of_nothing (h : s.Tracked) (hnone : s.ctrls = []) : s.Passed := by
  have hempty : ∀ x, x ∉ s.ctrls := by
    rw [hnone]
    exact fun _ => List.not_mem_nil
  constructor
  · intro c v hv
    apply h.accepted c v hv
    cases hset : s.controlsToSet c with
    | false => rfl
    | true => exact absurd (mem_ctrls.mpr (.inl ⟨hset, rfl⟩)) (hempty (c, s.v4l2Controls c))
  · have hsame : s.enableHwfc = s.wants auxoptEnableHwfc := by
      by_contra hchange
      exact hempty _ (mem_ctrls.mpr (.inr ⟨hchange, rfl⟩))
    rw [h.hwfc, hsame]

theorem Tracked.accept_setting (h : s.Tracked) {c : JpegControl} {v : Int}
    (hv : s.v4l2Controls c = some v) : accept s.accepted s.ctrls c = some v := by
  have hc : c ≠ .hwfc := by
    rintro rfl
    exact absurd (h.notHwfc.2.symm.trans hv) nofun
  apply accept_eq
  · intro x hx hxc
    rcases mem_ctrls.mp hx with ⟨_, hvalue⟩ | ⟨_, hhwfc⟩
    · rw [hvalue, hxc, hv]
    · rw [hhwfc] at hxc
      exact absurd hxc.symm hc
  · cases hset : s.controlsToSet c with
    | false => exact .inl (h.accepted c v hv hset)
    | true => exact .inr ⟨(c, s.v4l2Controls c), mem_ctrls.mpr (.inl ⟨hset, rfl⟩), rfl⟩

theorem Tracked.accept_hwfc (h : s.Tracked) :
    (accept s.accepted s.ctrls .hwfc).getD 0 = hwfcValue (s.wants auxoptEnableHwfc) := by
  by_cases hsame : s.enableHwfc = s.wants auxoptEnableHwfc
  · have hkept : accept s.accepted s.ctrls .hwfc = s.accepted .hwfc := by
      apply accept_eq _ (.inl rfl)
      intro x hx hxc
      rcases mem_ctrls.mp hx with ⟨hset, _⟩ | ⟨hchange, _⟩
      · rw [hxc] at hset
        exact absurd h.notHwfc.1 (by rw [hset]; decide)
      · exact absurd hsame hchange
    rw [hkept, ← hsame]
    exact h.hwfc
  · have hnew : accept s.accepted s.ctrls .hwfc =
        some (hwfcValue (s.wants auxoptEnableHwfc)) := by
      apply accept_eq
      · intro x hx hxc
        rcases mem_ctrls.mp hx with ⟨hset, _⟩ | ⟨_, hhwfc⟩
        · rw [hxc] at hset
          exact absurd h.notHwfc.1 (by rw [hset]; decide)
        · rw [hhwfc]
      · exact .inr ⟨_, mem_ctrls.mpr (.inr ⟨hsame, rfl⟩), rfl⟩
    rw [hnew]
    rfl

/-- An update that the driver accepts, if it is asked, leaves nothing on the way. -/
theorem Tracked.updateControls (h : s.Tracked) {sExtCtrls : Bool}
    (hok : s.ctrls ≠ [] → sExtCtrls = true) :
    (s.updateControls sExtCtrls).2.Tracked ∧ (s.updateControls sExtCtrls).2.Passed := by
  unfold CodecControls.updateControls
  split
  · rename_i hnone
    exact ⟨h, h.passed_of_nothing hnone⟩
  · rename_i hsome
    obtain rfl := hok hsome
    refine ⟨⟨⟨rfl, h.notHwfc.2⟩, fun c v hv _ => ?_, ?_⟩, fun c v hv => ?_, ?_⟩
    · exact h.accept_setting hv
    · exact h.accept_hwfc
    · exact h.accept_setting hv
    · exact h.accept_hwfc

theorem Tracked.setControl (h : s.Tracked) {c : JpegControl} (hc : c ≠ .hwfc) (value : Int) :
    (s.setControl c value).Tracked := by
  refine ⟨⟨?_, ?_⟩, fun c' v hv hset => ?_, h.hwfc⟩
  · exact (Function.update_of_ne hc.symm _ _).trans h.notHwfc.1
  · exact (Function.update_of_ne hc.symm _ _).trans h.notHwfc.2
  · by_cases hc' : c' = c
    · subst hc'
      exact absurd hset (by simp [CodecControls.setControl])
    · simp only [CodecControls.setControl, Function.update_of_ne hc'] at hv hset
      exact h.accepted c' v hv hset

theorem Tracked.setChromaSampFactor (h : s.Tracked) (horizontal vertical : BitVec 32) :
    (s.setChromaSampFactor horizontal vertical).2.Tracked := by
  unfold CodecControls.setChromaSampFactor
  split
  · exact h
  · exact h.setControl (by decide) _

theorem Tracked.setQuality (h : s.Tracked) (qualityFactor qualityFactor2 : BitVec 32) :
    (s.setQuality qualityFactor qualityFactor2).2.Tracked := by
  unfold CodecControls.setQuality
  split
  · exact h
  · split
    · exact h
    · have hfirst : (if 0 < qualityFactor.toNat then s.setControl .qfactor qualityFactor.toNat
          else s).Tracked := by
        split
        · exact h.setControl (by decide) _
        · exact h
      dsimp only
      split
      · exact hfirst.setControl (by decide) _
      · exact hfirst

/-- The flags of the two buffers say what the options ask for. -/
structure FlagsAsked (s : CodecControls) : Prop where
  src : s.srcNoCacheClean = s.wants auxoptSrcNocacheclean
  dst : s.dstNoCacheClean = s.wants auxoptDstNocacheclean

/-- No flag is left over from an option that is cleared by now. -/
structure NoFlagLeft (s : CodecControls) : Prop where
  src : s.srcNoCacheClean = true → s.wants auxoptSrcNocacheclean = true
  dst : s.dstNoCacheClean = true → s.wants auxoptDstNocacheclean = true

theorem NoFlagLeft.markBuffers (h : s.NoFlagLeft) : s.markBuffers.FlagsAsked := by
  constructor
  · show (s.srcNoCacheClean || s.wants auxoptSrcNocacheclean) = s.wants auxoptSrcNocacheclean
    cases hflag : s.srcNoCacheClean with
    | false => exact Bool.false_or _
    | true => rw [h.src hflag, Bool.true_or]
  · show (s.dstNoCacheClean || s.wants auxoptDstNocacheclean) = s.wants auxoptDstNocacheclean
    cases hflag : s.dstNoCacheClean with
    | false => exact Bool.false_or _
    | true => rw [h.dst hflag, Bool.true_or]

theorem FlagsAsked.updateControls (h : s.FlagsAsked) (sExtCtrls : Bool) :
    (s.updateControls sExtCtrls).2.FlagsAsked := by
  unfold CodecControls.updateControls
  split
  · exact h
  · exact ⟨h.src, h.dst⟩

end CodecControls

/-! ## 2. Buffers that are queued -/

namespace QueuedBuffer

/-- The no-cache-clean flag of the buffer. -/
def noCacheClean (b : QueuedBuffer) : Bool :=
  match b.port with
  | .videoOutputMplane => b.controls.srcNoCacheClean
  | .videoCaptureMplane => b.controls.dstNoCacheClean

/-- The option that asks for the flag. -/
def noCacheCleanOption (b : QueuedBuffer) : BitVec 32 :=
  match b.port with
  | .videoOutputMplane => auxoptSrcNocacheclean
  | .videoCaptureMplane => auxoptDstNocacheclean

/-- The buffer was queued with the settings of the client. -/
structure Configured (b : QueuedBuffer) : Prop where
  passed : b.controls.Passed
  flag : b.noCacheClean = b.controls.wants b.noCacheCleanOption

end QueuedBuffer

theorem CodecControls.Passed.configured {s : CodecControls} (h : s.Passed) (hflags : s.FlagsAsked)
    (t : BufType) : QueuedBuffer.Configured ⟨t, s⟩ := by
  cases t with
  | videoOutputMplane => exact ⟨h, hflags.src⟩
  | videoCaptureMplane => exact ⟨h, hflags.dst⟩

namespace Compressor

variable {s : Compressor}

/-- What is not on the way to the driver has reached it, and so had everything when a buffer was
queued. -/
structure Settled (s : Compressor) : Prop where
  tracked : s.controls.Tracked
  configured : ∀ b ∈ s.queued, b.Configured

theorem Settled.of_same {s' : Compressor} (h : s.Settled) (hcontrols : s'.controls = s.controls)
    (hqueued : s'.queued = s.queued) : s'.Settled :=
  ⟨hcontrols ▸ h.tracked, hqueued ▸ h.configured⟩

theorem Settled.enqueue (h : s.Settled) (hpassed : s.controls.Passed)
    (hflags : s.controls.FlagsAsked) (t : BufType) (memory : V4l2Memory) (granted : Bool) :
    (s.enqueue t memory granted).Settled := by
  refine ⟨h.tracked, fun b hb => ?_⟩
  rcases List.mem_cons.mp hb with rfl | hold
  · exact hpassed.configured hflags t
  · exact h.configured b hold

theorem Settled.qBuf (h : s.Settled) (hpassed : s.controls.Passed)
    (hflags : s.controls.FlagsAsked) (src dst : V4l2Memory) (a : CompressAnswer) :
    (s.qBuf src dst a).2.Settled := by
  have hsrc := h.enqueue hpassed hflags .videoOutputMplane src a.srcQbuf
  have hdst := hsrc.enqueue hpassed hflags .videoCaptureMplane dst a.dstQbuf
  unfold Compressor.qBuf
  split
  · exact h
  · dsimp only
    split
    · exact hsrc
    · split <;> exact hdst.of_same rfl rfl

theorem Settled.onQueues (h : s.Settled) (r : Bool × CodecQueues) : (s.onQueues r).2.Settled :=
  h.of_same rfl rfl

theorem Settled.startCodec (h : s.Settled) (hflags : s.controls.FlagsAsked)
    (a : CompressAnswer) (hok : s.controls.ctrls ≠ [] → a.sExtCtrls = true)
    (src dst : V4l2Memory) : (s.startCodec src dst a).2.Settled := by
  obtain ⟨htracked, hpassed⟩ := h.tracked.updateControls hok
  have hasked := hflags.updateControls a.sExtCtrls
  -- neither REQBUFS nor STREAMON touches a control
  refine andThen_induct (h.onQueues _) fun _ => ?_
  refine andThen_induct ((h.onQueues _).onQueues _) fun _ => ?_
  have hupdated : ∀ queues, Settled { s with
      queues := queues, controls := (s.controls.updateControls a.sExtCtrls).2 } :=
    fun queues => ⟨htracked, h.configured⟩
  exact andThen_induct (hupdated _) fun _ => (hupdated _).qBuf hpassed hasked src dst a

theorem Settled.applyFormat (h : s.Settled) (a : CompressAnswer) :
    (s.applyFormat a).2.Settled ∧ (s.applyFormat a).2.controls = s.controls := by
  unfold Compressor.applyFormat
  split
  · exact ⟨h, rfl⟩
  · refine @andThen_induct _ (fun (t : Compressor) => t.Settled ∧ t.controls = s.controls) _ _
      ⟨h.onQueues _, rfl⟩ fun _ => ?_
    unfold Compressor.setFormat
    cases a.srcFmt <;> exact ⟨h.of_same rfl rfl, rfl⟩

theorem Settled.compressBuffers (h : s.Settled) (hflags : s.controls.NoFlagLeft)
    (a : CompressAnswer) (hok : s.controls.ctrls ≠ [] → a.sExtCtrls = true) :
    (s.compressBuffers a).2.Settled := by
  unfold Compressor.compressBuffers
  split
  · split
    · exact h
    · have hmarked : Settled { s with controls := s.controls.markBuffers } :=
        ⟨⟨h.tracked.notHwfc, h.tracked.accepted, h.tracked.hwfc⟩, h.configured⟩
      exact hmarked.startCodec hflags.markBuffers a hok _ _
  · exact h

theorem Settled.dqBuf (h : s.Settled) (a : DqAnswer) : (s.dqBuf a).2.Settled := by
  unfold Compressor.dqBuf
  dsimp only
  split <;> exact h.of_same rfl rfl

theorem Settled.compress (h : s.Settled) (hflags : s.controls.NoFlagLeft) (blockMode : Bool)
    (a : CompressAnswer) (hok : s.controls.ctrls ≠ [] → a.sExtCtrls = true) :
    (s.compress blockMode a).2.Settled := by
  obtain ⟨happlied, hsame⟩ := h.applyFormat a
  have hbuffers : (andThen (s.applyFormat a) fun s => s.compressBuffers a).2.Settled :=
    andThen_induct happlied fun _ =>
      happlied.compressBuffers (hsame ▸ hflags) a (by rw [hsame]; exact hok)
  unfold Compressor.compress
  dsimp only
  split
  · exact hbuffers
  · split
    · exact hbuffers.dqBuf a.dq
    · exact hbuffers

end Compressor

/-- A call of `Compress` that leaves no flag of a cleared option on a buffer, and whose
S_EXT_CTRLS, if there is anything to set, is not refused. -/
def CompressorCall.Effective (s : Compressor) : CompressorCall → Prop
  | .compress _ a => s.controls.NoFlagLeft ∧ (s.controls.ctrls ≠ [] → a.sExtCtrls = true)
  | _ => True

namespace Compressor

variable {s : Compressor}

theorem Settled.step (h : s.Settled) {c : CompressorCall} (hc : c.Effective s) :
    (s.step c).Settled := by
  cases c with
  | setAuxFlags | clearAuxFlags =>
    exact ⟨⟨h.tracked.notHwfc, h.tracked.accepted, h.tracked.hwfc⟩, h.configured⟩
  | setChromaSampFactor horizontal vertical =>
    exact ⟨h.tracked.setChromaSampFactor horizontal vertical, h.configured⟩
  | setQuality qualityFactor qualityFactor2 =>
    exact ⟨h.tracked.setQuality qualityFactor qualityFactor2, h.configured⟩
  | setImageFormat q tryFmt =>
    show (s.setImageFormat q tryFmt).2.Settled
    unfold Compressor.setImageFormat
    dsimp only
    split <;> exact h.of_same rfl rfl
  | setImageBuffer memory lens =>
    show (s.setImageBuffer memory lens).2.Settled
    unfold Compressor.setImageBuffer
    split
    · exact h
    · split <;> exact h.of_same rfl rfl
  | setImageBuffer2 lens =>
    show (s.setImageBuffer2 lens).2.Settled
    unfold Compressor.setImageBuffer2
    split
    · exact h
    · split <;> exact h.of_same rfl rfl
  | setJpegBuffer memory => exact h.of_same rfl rfl
  | setJpegBuffer2 =>
    show s.setJpegBuffer2.2.Settled
    unfold Compressor.setJpegBuffer2
    split <;> exact h.of_same rfl rfl
  | compress blockMode a => exact h.compress hc.1 blockMode a hc.2
  | waitForCompression a => exact h.dqBuf a
  | release a => exact h.of_same rfl rfl

/-! ## 3. Runs of the compressor -/

theorem settled_created (b2bCapable : Bool) : (created b2bCapable).Settled :=
  ⟨⟨⟨rfl, rfl⟩, nofun, rfl⟩, nofun⟩

/-- In a run whose compressions are all effective every buffer is queued with the settings of the
client and the options of that moment. -/
theorem configured_of_effective {b2bCapable : Bool} {calls : List CompressorCall} {s : Compressor}
    (run : ExecWhere (fun s c => c.Effective s) (functional step) (created b2bCapable) calls s) :
    ∀ b ∈ s.queued, b.Configured := by
  have hs : s.Settled := by
    apply run.invariant (I := Settled)
    · rintro s c t hs hc rfl
      exact hs.step hc
    · exact settled_created b2bCapable
  exact hs.configured

def qualityCalls (sExtCtrls : Bool) : List CompressorCall :=
  [.setQuality 90 0, .setImageBuffer .userptr [16], .setJpegBuffer .userptr,
    .compress true { grantAll with sExtCtrls := sExtCtrls }]

/-- The quality reaches a driver that takes it. -/
theorem configured_of_effective_quality :
    ((qualityCalls true).foldl step (created false)).queued.map
      (fun b => b.controls.accepted .qfactor) = [some 90, some 90] ∧
    List.Forall QueuedBuffer.Configured
      ((qualityCalls true).foldl step (created false)).queued := by
  refine ⟨by decide, List.forall_iff_forall_mem.mpr ?_⟩
  refine @configured_of_effective false (qualityCalls true) _ (ExecWhere.folded fun n c hc => ?_)
  match n with
  | 0 | 1 | 2 =>
    obtain rfl := Option.some.inj hc
    trivial
  | 3 =>
    obtain rfl := Option.some.inj hc
    exact ⟨⟨nofun, nofun⟩, fun _ => rfl⟩
  | n + 4 => cases hc

/-- The driver refuses the quality once; the compression after that goes on without it. -/
theorem not_configured_after_refused_controls :
    ¬ ∀ (b2bCapable : Bool) (calls : List CompressorCall) (s : Compressor),
      Exec (functional step) (created b2bCapable) calls s → ∀ b ∈ s.queued, b.Configured := by
  intro h
  have hconf := h false _ _ (Exec.folded step (created false)
    (qualityCalls false ++ [.compress true grantAll])) _ List.mem_cons_self
  exact absurd (hconf.passed.settings .qfactor 90 rfl) (by decide)

end Compressor

end Universal7870.Jpeg
