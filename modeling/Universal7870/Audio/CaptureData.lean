import Mathlib.Algebra.GroupWithZero.Nat
import Universal7870.Audio.CaptureStream
import Universal7870.Lib.BlockCopy

/-!
# The samples of a capture session

The frames of the PCM go through `read_buf` to the client, or on through `proc_buf_in` to an effect.
The buffers are taken to have room for them; samples are interleaved.
-/

namespace Universal7870.Audio

open Lib

/-! ## 1. The code -/

/-- A session of a stream without resampler that works with the channels of its PCM: the samples
that `pcm_read` delivers from its start on, and whether an effect is attached. -/
structure CaptureSession where
  pcm : Nat → Int16
  channels : Nat
  mainChannels : Nat
  periodSize : Nat
  hasProcessing : Bool
  periodSize_pos : 0 < periodSize
  mainChannels_le : mainChannels ≤ channels

/-- The members of `struct stream_in` for the samples, the locals `frames` and `frames_wr` of a read
with an effect, and the frames that `pcm_read` has delivered.  `returned` and `consumed` are
history: what the reads returned to the client, and what the effect consumed. -/
structure CaptureData where
  pcmFrames : Nat
  readBuf : Nat → Int16
  readBufFrames : Nat
  procBufIn : Nat → Int16
  procBufOut : Nat → Int16
  procBufFrames : Nat
  frames : Nat
  framesWr : Nat
  returned : List Int16
  consumed : List Int16

/-- As `start_input_stream` leaves it; the buffers may hold anything. -/
def CaptureData.started (readBuf procBufIn procBufOut : Nat → Int16) : CaptureData where
  pcmFrames := 0
  readBuf := readBuf
  readBufFrames := 0
  procBufIn := procBufIn
  procBufOut := procBufOut
  procBufFrames := 0
  frames := 0
  framesWr := 0
  returned := []
  consumed := []

/-- What a client does, and one turn of the loop over the effect. -/
inductive CaptureCall
  /-- `in_read` without an effect, into a buffer. -/
  | read (frames : Nat) (buffer : Nat → Int16)
  /-- `in_read` with an effect, up to its loop. -/
  | request (frames : Nat)
  | turn (process : ProcessResult)

namespace CaptureSession

variable (c : CaptureSession)

/-- `get_next_buffer`, as far as it fills `read_buf`. -/
def fillReadBuf (s : CaptureData) : CaptureData :=
  if s.readBufFrames = 0 then
    { s with
      readBuf := blit s.readBuf 0 c.pcm (s.pcmFrames * c.channels) (c.periodSize * c.channels)
      pcmFrames := s.pcmFrames + c.periodSize
      readBufFrames := c.periodSize }
  else s

/-- The `i16` of the buffer that `get_next_buffer` provides. -/
def nextBuffer (s : CaptureData) : Nat := (c.periodSize - s.readBufFrames) * c.channels

/-- The loop of `read_frames`, from the frames it has written on, into a buffer at `off`.  A turn
reads a frame at least, so the number of frames bounds the turns. -/
def readFrames (off frames : Nat) :
    Nat → Nat → (Nat → Int16) → CaptureData → (Nat → Int16) × CaptureData
  | 0, _, buffer, s => (buffer, s)
  | turns + 1, framesWr, buffer, s =>
    if framesWr < frames then
      let s := c.fillReadBuf s
      let frameCount :=
        if frames - framesWr > s.readBufFrames then s.readBufFrames else frames - framesWr
      readFrames off frames turns (framesWr + frameCount)
        (blit buffer (off + framesWr * c.channels) s.readBuf (c.nextBuffer s)
          (frameCount * c.channels))
        { s with readBufFrames := s.readBufFrames - frameCount }
    else (buffer, s)

/-- The additional channels are removed. -/
def removeChannels (buffer src : Nat → Int16) (frames : Nat) : Nat → Int16 :=
  (List.range frames).foldl (fun buffer i =>
    blit buffer (i * c.mainChannels) src (i * c.channels) c.mainChannels) buffer

/-- The samples of the frames in the buffer of the client. -/
def clientSamples (buffer : Nat → Int16) (frames : Nat) : List Int16 :=
  (List.range frames).flatMap fun i =>
    (List.range c.mainChannels).map fun j => buffer (i * c.mainChannels + j)

/-- `in_read` of a stream without effects. -/
def inRead (s : CaptureData) (frames : Nat) (buffer : Nat → Int16) : CaptureData :=
  if c.mainChannels ≠ c.channels then
    let r := c.readFrames 0 frames frames 0 s.procBufOut s
    { r.2 with
      procBufOut := r.1
      returned := s.returned ++ c.clientSamples (c.removeChannels buffer r.1 frames) frames }
  else
    let r := c.readFrames 0 frames frames 0 buffer s
    { r.2 with returned := s.returned ++ c.clientSamples r.1 frames }

/-- Frames are read at the end of `proc_buf_in`. -/
def reload (s : CaptureData) : CaptureData :=
  if s.procBufFrames < s.frames then
    let r := c.readFrames (s.procBufFrames * c.channels) (s.frames - s.procBufFrames)
      (s.frames - s.procBufFrames) 0 s.procBufIn s
    { r.2 with
      procBufIn := r.1, procBufFrames := s.procBufFrames + (s.frames - s.procBufFrames) }
  else s

/-- The effect consumes frames, and those that remain are moved to the beginning. -/
def process (copy : Memcpy Int16) (s : CaptureData) (p : ProcessResult) : CaptureData :=
  let consumed := p.consumed s.procBufFrames (s.frames - s.framesWr)
  let produced := p.produced s.procBufFrames (s.frames - s.framesWr)
  let rest := s.procBufFrames - consumed
  { s with
    procBufFrames := rest
    procBufIn :=
      if rest ≠ 0 then copy.copy s.procBufIn 0 (consumed * c.channels) (rest * c.channels)
      else s.procBufIn
    framesWr := if s.framesWr + produced ≤ s.frames then s.framesWr + produced else s.frames
    consumed := s.consumed ++ (List.range (consumed * c.channels)).map s.procBufIn }

/-- A read with an effect begins once the one before it has ended. -/
def step (copy : Memcpy Int16) (s : CaptureData) : CaptureCall → Option CaptureData
  | .read frames buffer => if c.hasProcessing then none else some (c.inRead s frames buffer)
  | .request frames =>
    if c.hasProcessing ∧ s.frames ≤ s.framesWr then some { s with frames := frames, framesWr := 0 }
    else none
  | .turn p =>
    if c.hasProcessing ∧ s.framesWr < s.frames then some (c.process copy (c.reload s) p) else none

/-! ## 2. Reading frames -/

/-- The frames that were taken from `read_buf`. -/
def next (s : CaptureData) : Nat := s.pcmFrames - s.readBufFrames

/-- `read_buf` ends with the frames that were delivered last. -/
structure ReadBufOk (s : CaptureData) : Prop where
  le : s.readBufFrames ≤ c.periodSize
  taken : s.readBufFrames ≤ s.pcmFrames
  samples : ∀ i < s.readBufFrames * c.channels,
    s.readBuf (c.nextBuffer s + i) = c.pcm (next s * c.channels + i)

/-- Only `read_buf` and its counters differ. -/
structure SameBuffers (s t : CaptureData) : Prop where
  procBufIn : t.procBufIn = s.procBufIn
  procBufFrames : t.procBufFrames = s.procBufFrames
  frames : t.frames = s.frames
  framesWr : t.framesWr = s.framesWr
  returned : t.returned = s.returned
  consumed : t.consumed = s.consumed

theorem SameBuffers.refl (s : CaptureData) : SameBuffers s s := ⟨rfl, rfl, rfl, rfl, rfl, rfl⟩

theorem SameBuffers.trans {s t u : CaptureData} (h₁ : SameBuffers s t) (h₂ : SameBuffers t u) :
    SameBuffers s u :=
  ⟨h₂.procBufIn.trans h₁.procBufIn, h₂.procBufFrames.trans h₁.procBufFrames,
    h₂.frames.trans h₁.frames, h₂.framesWr.trans h₁.framesWr, h₂.returned.trans h₁.returned,
    h₂.consumed.trans h₁.consumed⟩

variable {c} {s : CaptureData}

theorem ReadBufOk.fill (h : c.ReadBufOk s) :
    c.ReadBufOk (c.fillReadBuf s) ∧ 0 < (c.fillReadBuf s).readBufFrames ∧
      next (c.fillReadBuf s) = next s ∧ SameBuffers s (c.fillReadBuf s) := by
  unfold fillReadBuf
  by_cases hempty : s.readBufFrames = 0
  · rw [if_pos hempty]
    have hnext : s.pcmFrames + c.periodSize - c.periodSize = s.pcmFrames - s.readBufFrames := by
      omega
    refine ⟨⟨Nat.le_refl _, Nat.le_add_left _ _, fun i hi => ?_⟩, c.periodSize_pos, hnext,
      ⟨rfl, rfl, rfl, rfl, rfl, rfl⟩⟩
    show blit s.readBuf 0 c.pcm _ _ ((c.periodSize - c.periodSize) * c.channels + i) =
      c.pcm ((s.pcmFrames + c.periodSize - c.periodSize) * c.channels + i)
    rw [Nat.sub_self, Nat.zero_mul, blit_inside hi, Nat.add_sub_cancel]
  · rw [if_neg hempty]
    exact ⟨h, by omega, rfl, SameBuffers.refl s⟩

/-- `release_buffer`. -/
theorem ReadBufOk.release (h : c.ReadBufOk s) {n : Nat} (hn : n ≤ s.readBufFrames) :
    c.ReadBufOk { s with readBufFrames := s.readBufFrames - n } ∧
      next { s with readBufFrames := s.readBufFrames - n } = next s + n := by
  have hle := h.le
  have htaken := h.taken
  have hnext : s.pcmFrames - (s.readBufFrames - n) = s.pcmFrames - s.readBufFrames + n := by
    omega
  refine ⟨⟨?_, ?_, fun i hi => ?_⟩, hnext⟩
  · show s.readBufFrames - n ≤ c.periodSize
    omega
  · show s.readBufFrames - n ≤ s.pcmFrames
    omega
  · change i < (s.readBufFrames - n) * c.channels at hi
    show s.readBuf ((c.periodSize - (s.readBufFrames - n)) * c.channels + i) =
      c.pcm ((s.pcmFrames - (s.readBufFrames - n)) * c.channels + i)
    have hinside : n * c.channels + i < s.readBufFrames * c.channels := by
      rw [Nat.sub_mul] at hi
      omega
    have hsample := h.samples (n * c.channels + i) hinside
    unfold nextBuffer next at hsample
    rw [hnext, show c.periodSize - (s.readBufFrames - n) = c.periodSize - s.readBufFrames + n by
      omega, Nat.add_mul, Nat.add_mul, Nat.add_assoc, Nat.add_assoc]
    exact hsample

/-- `read_frames` copies the next frames of the PCM. -/
theorem ReadBufOk.readFrames (h : c.ReadBufOk s) (off turns : Nat) {frames framesWr : Nat}
    (buffer : Nat → Int16) (hwr : framesWr ≤ frames) (hturns : frames - framesWr ≤ turns) :
    (c.readFrames off frames turns framesWr buffer s).1 =
        blit buffer (off + framesWr * c.channels) c.pcm (next s * c.channels)
          ((frames - framesWr) * c.channels) ∧
      c.ReadBufOk (c.readFrames off frames turns framesWr buffer s).2 ∧
      next (c.readFrames off frames turns framesWr buffer s).2 = next s + (frames - framesWr) ∧
      SameBuffers s (c.readFrames off frames turns framesWr buffer s).2 := by
  induction turns generalizing s framesWr buffer with
  | zero =>
    rw [show frames - framesWr = 0 by omega, Nat.zero_mul, blit_nil]
    exact ⟨rfl, h, rfl, SameBuffers.refl s⟩
  | succ turns ih =>
    unfold CaptureSession.readFrames
    by_cases hless : framesWr < frames
    · rw [if_pos hless]
      dsimp only
      obtain ⟨hfilled, hpos, hnext, hsame⟩ := h.fill
      generalize c.fillReadBuf s = t at *
      generalize hcount : (if frames - framesWr > t.readBufFrames then t.readBufFrames
        else frames - framesWr) = count
      have hbounds : 0 < count ∧ count ≤ t.readBufFrames ∧ count ≤ frames - framesWr := by
        rw [← hcount]
        split <;> omega
      obtain ⟨hreleased, hnext'⟩ := hfilled.release hbounds.2.1
      have hsamples : ∀ i < count * c.channels,
          t.readBuf (c.nextBuffer t + i) = c.pcm (next s * c.channels + i) := by
        intro i hi
        rw [← hnext]
        exact hfilled.samples i (Nat.lt_of_lt_of_le hi (Nat.mul_le_mul_right _ hbounds.2.1))
      rw [blit_congr hsamples]
      obtain ⟨hbuffer, hok, hend, hsame'⟩ := ih hreleased
        (blit buffer (off + framesWr * c.channels) c.pcm (next s * c.channels)
          (count * c.channels)) (by omega : framesWr + count ≤ frames) (by omega)
      have hcounter : SameBuffers t { t with readBufFrames := t.readBufFrames - count } :=
        ⟨rfl, rfl, rfl, rfl, rfl, rfl⟩
      refine ⟨?_, hok, ?_, (hsame.trans hcounter).trans hsame'⟩
      · rw [hbuffer, hnext', hnext, Nat.add_mul, Nat.add_mul, ← Nat.add_assoc, blit_blit,
          ← Nat.add_mul, show count + (frames - (framesWr + count)) = frames - framesWr by omega]
      · rw [hend, hnext', hnext]
        omega
    · rw [if_neg hless, show frames - framesWr = 0 by omega, Nat.zero_mul, blit_nil]
      exact ⟨rfl, h, rfl, SameBuffers.refl s⟩

/-! ## 3. Reads without an effect -/

/-- The main channels of `n` frames of the PCM. -/
def mainFrames (c : CaptureSession) (start n : Nat) : List Int16 :=
  (List.range n).flatMap fun i =>
    (List.range c.mainChannels).map fun j => c.pcm ((start + i) * c.channels + j)

theorem mainFrames_add (start n m : Nat) :
    c.mainFrames start (n + m) = c.mainFrames start n ++ c.mainFrames (start + n) m := by
  unfold mainFrames
  rw [List.range_add, List.flatMap_append, List.flatMap_map]
  simp only [Nat.add_assoc]

theorem clientSamples_eq {buffer : Nat → Int16} {start frames : Nat}
    (h : ∀ i < frames, ∀ j < c.mainChannels,
      buffer (i * c.mainChannels + j) = c.pcm ((start + i) * c.channels + j)) :
    c.clientSamples buffer frames = c.mainFrames start frames := by
  unfold clientSamples mainFrames
  apply List.flatMap_congr
  intro i hi
  apply List.map_congr_left
  intro j hj
  exact h i (List.mem_range.mp hi) j (List.mem_range.mp hj)

/-- A sample of a frame lies before the frames that follow. -/
theorem sample_lt {channels i j frames : Nat} (hi : i < frames) (hj : j < channels) :
    i * channels + j < frames * channels := by
  have hle := Nat.mul_le_mul_right channels (Nat.succ_le_of_lt hi)
  rw [Nat.succ_mul] at hle
  omega

theorem removeChannels_apply (buffer src : Nat → Int16) {frames i j : Nat} (hi : i < frames)
    (hj : j < c.mainChannels) :
    c.removeChannels buffer src frames (i * c.mainChannels + j) = src (i * c.channels + j) := by
  unfold removeChannels
  induction frames with
  | zero => exact absurd hi (Nat.not_lt_zero _)
  | succ frames ih =>
    rw [List.range_succ, List.foldl_append, List.foldl_cons, List.foldl_nil]
    rcases Nat.lt_succ_iff_lt_or_eq.mp hi with hlt | rfl
    · rw [blit_outside (.inl (sample_lt hlt hj))]
      exact ih hlt
    · exact blit_inside hj

/-- A read returns the main channels of the next frames. -/
theorem ReadBufOk.inRead (h : c.ReadBufOk s) (frames : Nat) (buffer : Nat → Int16) :
    c.ReadBufOk (c.inRead s frames buffer) ∧
      next (c.inRead s frames buffer) = next s + frames ∧
      (c.inRead s frames buffer).returned = s.returned ++ c.mainFrames (next s) frames := by
  unfold CaptureSession.inRead
  split
  · obtain ⟨hbuffer, hok, hnext, _⟩ := h.readFrames 0 frames s.procBufOut
      (Nat.zero_le frames) (Nat.le_refl _)
    refine ⟨⟨hok.le, hok.taken, hok.samples⟩, hnext, congrArg (s.returned ++ ·) ?_⟩
    apply clientSamples_eq
    intro i hi j hj
    rw [removeChannels_apply _ _ hi hj, hbuffer, Nat.zero_mul, Nat.sub_zero]
    have hin := sample_lt hi (Nat.lt_of_lt_of_le hj c.mainChannels_le)
    rw [show i * c.channels + j = 0 + 0 + (i * c.channels + j) by omega, blit_inside hin,
      Nat.add_mul]
    congr 1
    omega
  · rename_i hsame
    have hchannels : c.mainChannels = c.channels := by omega
    obtain ⟨hbuffer, hok, hnext, _⟩ := h.readFrames 0 frames buffer
      (Nat.zero_le frames) (Nat.le_refl _)
    refine ⟨⟨hok.le, hok.taken, hok.samples⟩, hnext, congrArg (s.returned ++ ·) ?_⟩
    apply clientSamples_eq
    intro i hi j hj
    rw [hchannels] at hj ⊢
    rw [hbuffer, Nat.zero_mul, Nat.sub_zero]
    rw [show i * c.channels + j = 0 + 0 + (i * c.channels + j) by omega,
      blit_inside (sample_lt hi hj), Nat.add_mul]
    congr 1
    omega

/-! ## 4. Reads with an effect -/

/-- `proc_buf_in` begins with the frames that come next for the effect. -/
structure ProcBufOk (c : CaptureSession) (s : CaptureData) : Prop where
  taken : s.procBufFrames ≤ next s
  samples : ∀ i < s.procBufFrames * c.channels,
    s.procBufIn i = c.pcm ((next s - s.procBufFrames) * c.channels + i)
  consumed : s.consumed = (List.range ((next s - s.procBufFrames) * c.channels)).map c.pcm

theorem ProcBufOk.reload (hread : c.ReadBufOk s) (h : c.ProcBufOk s) :
    c.ReadBufOk (c.reload s) ∧ c.ProcBufOk (c.reload s) ∧
      (c.reload s).procBufFrames = max s.procBufFrames s.frames ∧
      (c.reload s).frames = s.frames ∧ (c.reload s).framesWr = s.framesWr := by
  unfold CaptureSession.reload
  by_cases hless : s.procBufFrames < s.frames
  · rw [if_pos hless]
    dsimp only
    obtain ⟨hbuffer, hok, hnext, hsame⟩ := hread.readFrames
      (s.procBufFrames * c.channels) (s.frames - s.procBufFrames) s.procBufIn
      (Nat.zero_le (s.frames - s.procBufFrames)) (Nat.le_refl _)
    generalize c.readFrames (s.procBufFrames * c.channels) (s.frames - s.procBufFrames)
      (s.frames - s.procBufFrames) 0 s.procBufIn s = r at *
    rw [Nat.sub_zero] at hbuffer hnext
    have htaken := h.taken
    have hfirst : next r.2 - (s.procBufFrames + (s.frames - s.procBufFrames)) =
        next s - s.procBufFrames := by
      omega
    refine ⟨⟨hok.le, hok.taken, hok.samples⟩, ⟨?_, fun i hi => ?_, ?_⟩, ?_, hsame.frames,
      hsame.framesWr⟩
    · show s.procBufFrames + (s.frames - s.procBufFrames) ≤ next r.2
      omega
    · change i < (s.procBufFrames + (s.frames - s.procBufFrames)) * c.channels at hi
      show r.1 i = c.pcm ((next r.2 - (s.procBufFrames + (s.frames - s.procBufFrames))) *
        c.channels + i)
      rw [hfirst, hbuffer, Nat.zero_mul, Nat.add_zero]
      by_cases hold : i < s.procBufFrames * c.channels
      · rw [blit_outside (.inl hold)]
        exact h.samples i hold
      · obtain ⟨k, rfl⟩ := Nat.exists_eq_add_of_le (Nat.not_lt.mp hold)
        rw [Nat.add_mul] at hi
        rw [blit_inside (by omega), ← Nat.add_assoc, ← Nat.add_mul, Nat.sub_add_cancel htaken]
    · show r.2.consumed = (List.range ((next r.2 - (s.procBufFrames +
        (s.frames - s.procBufFrames))) * c.channels)).map c.pcm
      rw [hfirst, hsame.consumed]
      exact h.consumed
    · show s.procBufFrames + (s.frames - s.procBufFrames) = _
      omega
  · rw [if_neg hless]
    exact ⟨hread, h, by omega, rfl, rfl⟩

/-- The effect leaves no more frames than it consumes: those that are moved do not overlap with
where they are moved to. -/
theorem ProcBufOk.process (copy : Memcpy Int16) (h : c.ProcBufOk s) (p : ProcessResult)
    (hhalf : s.procBufFrames ≤ 2 * p.consumed s.procBufFrames (s.frames - s.framesWr)) :
    c.ProcBufOk (c.process copy s p) := by
  have hle := p.consumed_le s.procBufFrames (s.frames - s.framesWr)
  unfold CaptureSession.process
  dsimp only
  generalize p.consumed s.procBufFrames (s.frames - s.framesWr) = n at *
  have htaken := h.taken
  have hfirst : next s - (s.procBufFrames - n) = next s - s.procBufFrames + n := by omega
  have hinside : ∀ i < n * c.channels,
      s.procBufIn i = c.pcm ((next s - s.procBufFrames) * c.channels + i) := fun i hi =>
    h.samples i (Nat.lt_of_lt_of_le hi (Nat.mul_le_mul_right _ hle))
  refine ⟨?_, fun i hi => ?_, ?_⟩
  · show s.procBufFrames - n ≤ next s
    omega
  · change i < (s.procBufFrames - n) * c.channels at hi
    show (if s.procBufFrames - n ≠ 0 then _ else _ : Nat → Int16) i =
      c.pcm ((next s - (s.procBufFrames - n)) * c.channels + i)
    by_cases hrest : s.procBufFrames - n ≠ 0
    · have hdisjoint : 0 + (s.procBufFrames - n) * c.channels ≤ n * c.channels := by
        rw [Nat.zero_add]
        exact Nat.mul_le_mul_right _ (by omega)
      rw [if_pos hrest, copy.copy_disjoint _ _ _ _ (.inl hdisjoint), hfirst]
      have hsample := h.samples (n * c.channels + i) (by
        rw [Nat.sub_mul] at hi
        omega)
      rw [Nat.add_mul, Nat.add_assoc, ← hsample]
      exact (congrArg _ (Nat.zero_add i).symm).trans (blit_inside hi)
    · rw [not_not.mp hrest, Nat.zero_mul] at hi
      exact absurd hi (Nat.not_lt_zero i)
  · show s.consumed ++ (List.range (n * c.channels)).map s.procBufIn =
      (List.range ((next s - (s.procBufFrames - n)) * c.channels)).map c.pcm
    rw [hfirst, Nat.add_mul, List.range_add, List.map_append, List.map_map, h.consumed]
    congr 1
    apply List.map_congr_left
    intro i hi
    exact hinside i (List.mem_range.mp hi)

end CaptureSession

/-- The frames that a call asks for without an effect. -/
def CaptureCall.size : CaptureCall → Nat
  | .read frames _ => frames
  | _ => 0

/-- The effect consumes half of the frames it is given at least. -/
def CaptureCall.ConsumesHalf (s : CaptureData) : CaptureCall → Prop
  | .turn p => max s.procBufFrames s.frames ≤
      2 * p.consumed (max s.procBufFrames s.frames) (s.frames - s.framesWr)
  | _ => True

namespace CaptureSession

variable {c : CaptureSession} {s : CaptureData}

/-! ## 5. Sessions -/

/-- What holds between calls: `n` frames were asked for without an effect. -/
structure InOrder (c : CaptureSession) (n : Nat) (s : CaptureData) : Prop where
  readBuf : c.ReadBufOk s
  returned : c.hasProcessing = false → next s = n ∧ s.returned = c.mainFrames 0 n
  procBuf : c.hasProcessing = true → c.ProcBufOk s

theorem InOrder.step {n : Nat} {t : CaptureData} (h : c.InOrder n s) (copy : Memcpy Int16)
    {call : CaptureCall} (hcall : call.ConsumesHalf s) (hstep : c.step copy s call = some t) :
    c.InOrder (n + call.size) t := by
  cases call with
  | read frames buffer =>
    unfold CaptureSession.step at hstep
    dsimp only at hstep
    split at hstep
    · cases hstep
    · rename_i hplain
      obtain rfl := Option.some.inj hstep
      obtain ⟨hnext, hreturned⟩ := h.returned (by simpa using hplain)
      obtain ⟨hok, hnext', hreturned'⟩ := h.readBuf.inRead frames buffer
      refine ⟨hok, fun _ => ⟨?_, ?_⟩, fun heffect => absurd heffect hplain⟩
      · rw [hnext', hnext]
        rfl
      · rw [hreturned', hreturned, hnext]
        show _ = c.mainFrames 0 (n + frames)
        rw [mainFrames_add, Nat.zero_add]
  | request frames =>
    unfold CaptureSession.step at hstep
    dsimp only at hstep
    split at hstep
    · rename_i henabled
      obtain rfl := Option.some.inj hstep
      refine ⟨⟨h.readBuf.le, h.readBuf.taken, h.readBuf.samples⟩, fun hplain => ?_,
        fun heffect => ?_⟩
      · rw [henabled.1] at hplain
        cases hplain
      · have hproc := h.procBuf heffect
        exact ⟨hproc.taken, hproc.samples, hproc.consumed⟩
    · cases hstep
  | turn p =>
    unfold CaptureSession.step at hstep
    dsimp only at hstep
    split at hstep
    · rename_i henabled
      obtain rfl := Option.some.inj hstep
      obtain ⟨hread, hproc, hgiven, hframes, hwr⟩ :=
        ProcBufOk.reload h.readBuf (h.procBuf henabled.1)
      have hhalf : (c.reload s).procBufFrames ≤ 2 * p.consumed (c.reload s).procBufFrames
          ((c.reload s).frames - (c.reload s).framesWr) := by
        rw [hgiven, hframes, hwr]
        exact hcall
      refine ⟨⟨hread.le, hread.taken, hread.samples⟩, fun hplain => ?_, fun _ =>
        hproc.process copy p hhalf⟩
      rw [henabled.1] at hplain
      cases hplain
    · cases hstep

theorem inOrder_started (c : CaptureSession) (readBuf procBufIn procBufOut : Nat → Int16) :
    c.InOrder 0 (.started readBuf procBufIn procBufOut) where
  readBuf := ⟨Nat.zero_le _, Nat.le_refl _, fun _ hi =>
    absurd hi (by simp [CaptureData.started])⟩
  returned := fun _ => ⟨rfl, rfl⟩
  procBuf := fun _ => ⟨Nat.le_refl _, fun _ hi => absurd hi (by simp [CaptureData.started]),
    by simp [CaptureData.started, next]⟩

theorem InOrder.run {n : Nat} {t : CaptureData} {copy : Memcpy Int16} {calls : List CaptureCall}
    (h : c.InOrder n s)
    (run : ExecWhere (fun s call => call.ConsumesHalf s) (guarded (c.step copy)) s calls t) :
    c.InOrder (n + (calls.map CaptureCall.size).sum) t := by
  induction run generalizing n with
  | nil => exact h
  | cons hstep _ ih =>
    rw [List.map_cons, List.sum_cons, ← Nat.add_assoc]
    exact ih (h.step copy hstep.1 hstep.2)

/-- Without an effect the reads return the main channels of the captured frames, however the client
splits its requests.  With an effect that consumes at least half of what it is given, the frames
that it consumes are the captured ones. -/
theorem capture_inOrder {copy : Memcpy Int16} {c : CaptureSession}
    {readBuf procBufIn procBufOut : Nat → Int16} {calls : List CaptureCall} {s : CaptureData}
    (run : ExecWhere (fun s call => call.ConsumesHalf s) (guarded (c.step copy))
      (.started readBuf procBufIn procBufOut) calls s) :
    (c.hasProcessing = false →
      s.returned = c.mainFrames 0 (calls.map CaptureCall.size).sum) ∧
    (c.hasProcessing = true →
      ∃ n, s.consumed = (List.range (n * c.channels)).map c.pcm) := by
  have h := (c.inOrder_started readBuf procBufIn procBufOut).run run
  rw [Nat.zero_add] at h
  exact ⟨fun hplain => (h.returned hplain).2, fun heffect => ⟨_, (h.procBuf heffect).consumed⟩⟩

/-- Periods of 4 frames with one channel, for an effect. -/
def countingSession : CaptureSession where
  pcm := fun i => Int16.ofNat i
  channels := 1
  mainChannels := 1
  periodSize := 4
  hasProcessing := true
  periodSize_pos := by decide
  mainChannels_le := by decide

/-- An effect that consumes and produces at most `n` frames. -/
def consumesAtMost (n : Nat) : ProcessResult :=
  ⟨fun given _ => min n given, fun given asked => min (min n given) asked,
    fun _ _ => Nat.min_le_right _ _⟩

def startedEmpty : CaptureData := .started (fun _ => 0) (fun _ => 0) (fun _ => 0)

theorem capture_inOrder_half :
    ∃ n, (([.request 4, .turn (consumesAtMost 2), .turn (consumesAtMost 4)].foldlM
      (countingSession.step Memcpy.backward) startedEmpty).getD startedEmpty).consumed =
        (List.range (n * 1)).map fun i => Int16.ofNat i := by
  refine (@capture_inOrder Memcpy.backward countingSession _ _ _
    [.request 4, .turn (consumesAtMost 2), .turn (consumesAtMost 4)] _
    (ExecWhere.computed (by decide +kernel) fun n call t hcall ht => ?_)).2 rfl
  match n with
  | 0 =>
    obtain rfl := Option.some.inj hcall
    exact trivial
  | 1 =>
    obtain rfl := Option.some.inj hcall
    obtain rfl := Option.some.inj ht
    exact (by decide : 4 ≤ 2 * min 2 4)
  | 2 =>
    obtain rfl := Option.some.inj hcall
    obtain rfl := Option.some.inj ht
    exact (by decide : 4 ≤ 2 * min 4 4)
  | n + 3 => cases hcall

/-- An effect consumes one of four frames; the other three overlap with where they are moved to,
and a `memcpy` that starts with the last sample damages them. -/
theorem not_capture_inOrder_overlap :
    ¬ ∀ (copy : Memcpy Int16) (c : CaptureSession) (readBuf procBufIn procBufOut : Nat → Int16)
      (calls : List CaptureCall) (s : CaptureData),
      Exec (guarded (c.step copy)) (.started readBuf procBufIn procBufOut) calls s →
      c.hasProcessing = true → ∃ n, s.consumed = (List.range (n * c.channels)).map c.pcm := by
  intro h
  obtain ⟨n, hconsumed⟩ := h Memcpy.backward countingSession (fun _ => 0) (fun _ => 0) (fun _ => 0)
    [.request 4, .turn (consumesAtMost 1), .turn (consumesAtMost 4)] _
    (Exec.computed (by decide +kernel)) rfl
  have hdamaged : ((([.request 4, .turn (consumesAtMost 1), .turn (consumesAtMost 4)].foldlM
      (countingSession.step Memcpy.backward) startedEmpty).getD startedEmpty).consumed)[1]? =
      some 3 := by
    decide +kernel
  rw [show (([.request 4, .turn (consumesAtMost 1), .turn (consumesAtMost 4)].foldlM
    (countingSession.step Memcpy.backward) startedEmpty).getD startedEmpty).consumed = _ from
    hconsumed, List.getElem?_map] at hdamaged
  rcases Nat.lt_or_ge 1 (n * countingSession.channels) with hin | hout
  · rw [List.getElem?_range hin] at hdamaged
    exact absurd hdamaged (by decide)
  · rw [List.getElem?_eq_none (by simpa using hout)] at hdamaged
    cases hdamaged

end CaptureSession

end Universal7870.Audio
