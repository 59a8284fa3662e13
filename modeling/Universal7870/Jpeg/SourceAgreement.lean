import Universal7870.Jpeg.ThumbnailSource

/-!
# The thumbnail is compressed from the image that was stored

The union holds the image stored last, whatever the calls and the threads; what a compressor takes
out of it is that image while the settings of the main image are still those it was stored under.
-/

namespace Universal7870.Jpeg

open Lib

namespace ExynosJpegEncoderForCamera

/-! ## 1. The union -/

/-- The union holds the image that was stored last, and so do the planes of the second image while
they are left alone. -/
structure Holds (s : ExynosJpegEncoderForCamera) : Prop where
  union : s.union.length = 3
  srcPlanes : s.srcPlanes.length = 6
  image : ∀ image, s.stored = some image → image.buffers.length ≤ 3 ∧
    s.union.take image.buffers.length = image.buffers.map (.of image.bufType)
  second : s.secondKept = true → ∀ image, s.stored = some image →
    (s.srcPlanes.drop image.buffers.length).take image.buffers.length =
      image.buffers.map (.of image.bufType)
  agree : s.SourcesAgree

variable {s t : ExynosJpegEncoderForCamera}

theorem numBuffers_pos (v4l2Format : BitVec 32) :
    1 ≤ numBuffers v4l2Format ∧ numBuffers v4l2Format ≤ 3 := by
  unfold numBuffers
  split <;> decide

/-- What is taken out of the union is the image exactly if it is taken out as it was stored. -/
theorem Holds.unionSource_iff (h : s.Holds) {image : ThumbImage} (hstored : s.stored = some image)
    (v4l2Format : BitVec 32) (bufType : JpegBufType) :
    (s.unionSource v4l2Format bufType).IsOf image ↔
      v4l2Format = image.v4l2Format ∧ bufType = image.bufType ∧
        numBuffers image.v4l2Format = image.buffers.length := by
  obtain ⟨-, htake⟩ := h.image image hstored
  constructor
  · intro hof
    have hformat : v4l2Format = image.v4l2Format := hof.v4l2Format
    refine ⟨hformat, hof.bufType, ?_⟩
    have hlen := congrArg List.length hof.buffers
    have hcount := (numBuffers_pos v4l2Format).2
    simp only [unionSource, List.length_map, List.length_take, h.union] at hlen
    rw [← hformat]
    omega
  · rintro ⟨hformat, htype, hcount⟩
    refine ⟨hformat, htype, ?_⟩
    show (s.union.take (numBuffers v4l2Format)).map (·.read bufType) = _
    rw [hformat, hcount, htake, htype, BufferSlot.map_read_of]

theorem Holds.secondSource_isOf (h : s.Holds) {image : ThumbImage}
    (hstored : s.stored = some image) (hkept : s.secondKept = true) {format : DriverFormat}
    (hformat : format.pix.pixelformat = image.v4l2Format) (htype : s.enc.inBufType = image.bufType)
    (hcount : format.sizeimage.length = image.buffers.length) :
    (s.secondSource format).IsOf image := by
  refine ⟨hformat, htype, ?_⟩
  show ((s.srcPlanes.drop format.sizeimage.length).take format.sizeimage.length).map
    (·.read s.enc.inBufType) = _
  rw [hcount, h.second hkept image hstored, htype, BufferSlot.map_read_of]

theorem StoredAs.image {v4l2Format : BitVec 32} {bufType : JpegBufType}
    (h : s.StoredAs v4l2Format bufType) : ∃ image, s.stored = some image ∧
      v4l2Format = image.v4l2Format ∧ bufType = image.bufType ∧
        numBuffers image.v4l2Format = image.buffers.length := by
  unfold StoredAs at h
  split at h
  · exact h.elim
  · rename_i image hstored
    exact ⟨image, hstored, h⟩

/-! ## 2. Steps -/

/-- The image, where it is stored, and what was handed over are left as they are. -/
structure SameImages (s t : ExynosJpegEncoderForCamera) : Prop where
  union : t.union = s.union
  srcPlanes : t.srcPlanes = s.srcPlanes
  stored : t.stored = s.stored
  secondKept : t.secondKept = s.secondKept
  handed : t.handed = s.handed

theorem SameImages.refl (s : ExynosJpegEncoderForCamera) : SameImages s s :=
  ⟨rfl, rfl, rfl, rfl, rfl⟩

theorem SameImages.trans {u : ExynosJpegEncoderForCamera} (h : SameImages s t)
    (h' : SameImages t u) : SameImages s u :=
  ⟨h'.union.trans h.union, h'.srcPlanes.trans h.srcPlanes, h'.stored.trans h.stored,
    h'.secondKept.trans h.secondKept, h'.handed.trans h.handed⟩

theorem Holds.of_same (h : s.Holds) (hsame : SameImages s t) : t.Holds := by
  constructor
  · rw [hsame.union]
    exact h.union
  · rw [hsame.srcPlanes]
    exact h.srcPlanes
  · rw [hsame.stored, hsame.union]
    exact h.image
  · rw [hsame.secondKept, hsame.stored, hsame.srcPlanes]
    exact h.second
  · constructor
    · rw [hsame.handed]
      exact h.agree.stored
    · rw [hsame.handed]
      exact h.agree.same

theorem Unreplaced.of_same {call : Nat} (h : s.Unreplaced call) (hsame : SameImages s t) :
    t.Unreplaced call := by
  unfold Unreplaced
  rw [hsame.handed, hsame.stored]
  exact h

theorem Holds.hand (h : s.Holds) {image : ThumbImage} (hstored : s.stored = some image)
    {call : Nat} (hfirst : s.Unreplaced call) {source : ThumbSource} (hof : source.IsOf image) :
    (s.hand call source).Holds := by
  refine ⟨h.union, h.srcPlanes, h.image, h.second, ?_, ?_⟩
  · intro e he
    rcases List.mem_cons.mp he with rfl | he
    · exact ⟨image, hstored, hof⟩
    · exact h.agree.stored e he
  · intro e he e' he' hcall
    -- of two sources for one call, the older one is of the image that is stored still
    rcases List.mem_cons.mp he with rfl | he
    · rcases List.mem_cons.mp he' with rfl | he'
      · rfl
      · exact (hfirst e' he' hcall.symm).symm
    · rcases List.mem_cons.mp he' with rfl | he'
      · exact hfirst e he hcall
      · exact h.agree.same e he e' he' hcall

theorem Holds.store (h : s.Holds) (v4l2Format : BitVec 32) (bufType : JpegBufType)
    {buffers : List ImageBuffer} (hlen : buffers.length ≤ 3) :
    (s.store v4l2Format bufType buffers).Holds := by
  refine ⟨?_, h.srcPlanes, ?_, nofun, h.agree.stored, h.agree.same⟩
  · show (buffers.map _ ++ s.union.drop buffers.length).length = 3
    rw [List.length_append, List.length_map, List.length_drop, h.union]
    omega
  · intro image hstored
    obtain rfl := Option.some.inj hstored
    exact ⟨hlen, List.take_left' (List.length_map _)⟩

theorem Holds.compressThumbnailOnly (h : s.Holds) {call : Nat} {v4l2Format : BitVec 32}
    {bufType : JpegBufType} {len : Option Nat}
    (hready : len.isSome = true → s.Ready call v4l2Format bufType) :
    (s.compressThumbnailOnly call v4l2Format bufType len).2.Holds := by
  cases len with
  | none => exact h
  | some len =>
    obtain ⟨hshares, hfirst⟩ := hready rfl
    obtain ⟨image, hstored, hsame⟩ := hshares.image
    exact h.hand hstored hfirst ((h.unionSource_iff hstored v4l2Format bufType).mpr hsame)

/-! ### The thread -/

/-- A format that has a length for `GetImageLength` is compressed from one buffer. -/
theorem numBuffers_getThumbnailFormat {width height : Nat} {v4l2Format : BitVec 32}
    (hlen : getImageLength width height (.ofBitVec v4l2Format) ≠ 0) :
    numBuffers (getThumbnailFormat v4l2Format) = 1 := by
  have hknown : UInt32.ofBitVec v4l2Format ∈ formats422 ++ formats420 := by
    rw [List.mem_append]
    by_contra hno
    obtain ⟨h422, h420⟩ := not_or.mp hno
    apply hlen
    unfold getImageLength
    dsimp only
    rw [if_neg h422, if_neg h420]
  have hone : (formats422 ++ formats420).all
      (fun format => decide (numBuffers (getThumbnailFormat format.toBitVec) = 1)) = true := by decide
  exact of_decide_eq_true (List.all_eq_true.mp hone _ hknown)

theorem sameImages_advance (s : ExynosJpegEncoderForCamera) (thread : Nat) (stage : WorkerStage) :
    SameImages s (s.advance thread stage) := ⟨rfl, rfl, rfl, rfl, rfl⟩

theorem sameImages_workerReturns (s : ExynosJpegEncoderForCamera) (thread len : Nat) :
    SameImages s (s.workerReturns thread len) := ⟨rfl, rfl, rfl, rfl, rfl⟩

theorem Holds.work (h : s.Holds) {thread : Nat} {a : WorkerAnswer} (hfits : s.Fits (.work thread a)) :
    (s.work thread a).Holds := by
  unfold ExynosJpegEncoderForCamera.work
  unfold Fits at hfits
  dsimp only at hfits
  cases hstage : s.worker thread with
  | none => exact h
  | some stage =>
    rw [hstage] at hfits
    cases stage with
    | started =>
      dsimp only
      split
      · cases s.generateThumbnailImage a.image with
        | none => exact h.of_same (s.sameImages_workerReturns thread 0)
        | some buffer => exact h.of_same (s.sameImages_advance thread _)
      · exact h.of_same (s.sameImages_advance thread _)
    | generated v4l2Format buffer =>
      have hstored : (s.store v4l2Format .dmaBuf [buffer]).Holds :=
        h.store v4l2Format .dmaBuf (Nat.le_add_left 1 2)
      exact hstored.of_same (sameImages_advance _ thread _)
    | compressing v4l2Format bufType =>
      exact (h.compressThumbnailOnly hfits).of_same (sameImages_workerReturns _ thread _)

/-- A thread whose settings were left alone compresses the image as it has stored it. -/
theorem storedAs_generated {a : WorkerAnswer} {buffer : ImageBuffer}
    (hgenerated : s.generateThumbnailImage a.image = some buffer) :
    (s.store (getThumbnailFormat s.enc.v4l2Format) .dmaBuf [buffer]).StoredAs
      (getThumbnailFormat s.enc.v4l2Format) .dmaBuf := by
  have hlen : getImageLength s.thumbWidth.toNat s.thumbHeight.toNat
      (.ofBitVec s.enc.v4l2Format) ≠ 0 := by
    intro hzero
    unfold generateThumbnailImage at hgenerated
    rw [if_pos hzero] at hgenerated
    cases hgenerated
  exact ⟨rfl, rfl, numBuffers_getThumbnailFormat hlen⟩

/-! ### `FinishCompression` -/

theorem Holds.finish (h : s.Holds) {joined : Bool} {len : Option Nat}
    (hfits : s.Fits (.finish joined len)) : (s.finish joined len).Holds := by
  have hidle : { s with phase := .idle }.Holds := h.of_same ⟨rfl, rfl, rfl, rfl, rfl⟩
  unfold ExynosJpegEncoderForCamera.finish
  unfold Fits at hfits
  cases hphase : s.phase with
  | idle => exact h
  | checking call thumblen => exact h
  | finishing call thumblen =>
    rw [hphase] at hfits
    dsimp only at hfits ⊢
    split
    · exact hidle
    · rename_i hbase
      split
      · split
        · exact h
        · split
          · exact hidle
          · exact h.of_same ⟨rfl, rfl, rfl, rfl, rfl⟩
      · rename_i hneeded
        split
        · rename_i halone
          have hready := hfits (Bool.eq_true_of_not_eq_false hbase)
            (Bool.eq_false_of_not_eq_true hneeded) halone
          exact (h.compressThumbnailOnly hready).of_same ⟨rfl, rfl, rfl, rfl, rfl⟩
        · exact h.of_same ⟨rfl, rfl, rfl, rfl, rfl⟩

theorem Holds.retry (h : s.Holds) {maxThumb : Nat} {len : Option Nat}
    (hfits : s.Fits (.retry maxThumb len)) : (s.retry maxThumb len).Holds := by
  unfold ExynosJpegEncoderForCamera.retry
  unfold Fits at hfits
  cases hphase : s.phase with
  | idle => exact h
  | finishing call thumblen => exact h
  | checking call thumblen =>
    rw [hphase] at hfits
    dsimp only at hfits ⊢
    split
    · rename_i hlong
      exact (h.compressThumbnailOnly (hfits hlong)).of_same ⟨rfl, rfl, rfl, rfl, rfl⟩
    · exact h.of_same ⟨rfl, rfl, rfl, rfl, rfl⟩

/-! ### The calls of a client -/

theorem sameImages_withCodec (s : ExynosJpegEncoderForCamera) (hwjpeg : Compressor) :
    SameImages s (s.withCodec hwjpeg) := ⟨rfl, rfl, rfl, rfl, rfl⟩

theorem sameImages_setThumbnailSize (s : ExynosJpegEncoderForCamera) (w h : BitVec 32) :
    SameImages s (s.setThumbnailSize w h).2 := by
  unfold setThumbnailSize
  split
  · exact .refl s
  · split
    · exact .refl s
    · exact ⟨rfl, rfl, rfl, rfl, rfl⟩

theorem sameImages_ensureFormatIsApplied (s : ExynosJpegEncoderForCamera)
    (tryFmt : Option DriverFormat) : SameImages s (s.ensureFormatIsApplied tryFmt).2 := by
  unfold ensureFormatIsApplied
  split
  · dsimp only
    split
    · exact s.sameImages_withCodec _
    · exact ⟨rfl, rfl, rfl, rfl, rfl⟩
  · exact .refl s

theorem sameImages_prepareThumbnail (s : ExynosJpegEncoderForCamera) (i : EncodeAnswer) :
    SameImages s (s.prepareThumbnail i).2 := by
  unfold prepareThumbnail
  split
  · exact .refl s
  · split
    · exact .refl s
    · exact ⟨rfl, rfl, rfl, rfl, rfl⟩

theorem sameImages_prepareCompression (s : ExynosJpegEncoderForCamera) (thumbnail : Bool)
    (i : EncodeAnswer) : SameImages s (s.prepareCompression thumbnail i).2 := by
  have hthumb := s.sameImages_prepareThumbnail i
  unfold prepareCompression
  split
  · exact .refl s
  · dsimp only
    split
    · exact hthumb
    · split
      · exact hthumb.trans (sameImages_withCodec _ _)
      · exact hthumb

theorem sameImages_generateUnconfigured (s : ExynosJpegEncoderForCamera) :
    SameImages s s.generateUnconfigured := by
  unfold generateUnconfigured
  split
  · exact ⟨rfl, rfl, rfl, rfl, rfl⟩
  · exact .refl s

theorem sameImages_configureThumbnail (s : ExynosJpegEncoderForCamera) (thumbenc : Bool) :
    SameImages s (s.configureThumbnail thumbenc) := by
  unfold configureThumbnail
  split
  · exact s.sameImages_generateUnconfigured
  · exact s.sameImages_setThumbnailSize 0 0

theorem sameImages_configure (s : ExynosJpegEncoderForCamera) (thumbenc : Bool) (i : EncodeAnswer) :
    SameImages s (s.configure thumbenc i).2 := by
  have hout : SameImages s { s with enc := (s.enc.setOutBuf .userPtr).2 } := ⟨rfl, rfl, rfl, rfl, rfl⟩
  have hensured := hout.trans ((sameImages_configureThumbnail _ thumbenc).trans
    (sameImages_ensureFormatIsApplied _ i.tryFmt))
  unfold configure
  dsimp only
  split
  · exact hout
  · split
    · exact hout
    · split
      · exact hensured
      · exact hensured.trans (sameImages_prepareCompression _ thumbenc i)

theorem sameImages_beforeCompress (s : ExynosJpegEncoderForCamera) (i : EncodeAnswer) :
    SameImages s (s.beforeCompress i).2 := by
  unfold beforeCompress
  split
  · exact .refl s
  · cases i.processExif with
    | refused => exact .refl s
    | tooSmall thumb => exact ⟨rfl, rfl, rfl, rfl, rfl⟩
    | written thumb =>
      have hbase : SameImages s { s with thumbStreamBase := thumb } := ⟨rfl, rfl, rfl, rfl, rfl⟩
      exact hbase.trans (sameImages_configure _ thumb i)

/-- `Compress` hands over the second image of the planes. -/
theorem Holds.queueBuffers (h : s.Holds) {call : Nat} {i : EncodeAnswer}
    (hfits : s.queuesSecond i = true →
      s.SharesFormat (s.applied i).format ∧ s.Unreplaced call) : (s.queueBuffers call i).2.Holds := by
  have hqueued : (if s.queuesSecond i then s.hand call (s.secondSource (s.applied i).format)
      else s).Holds := by
    split
    · rename_i hsecond
      obtain ⟨hshares, hfirst⟩ := hfits hsecond
      unfold SharesFormat at hshares
      split at hshares
      · exact hshares.elim
      · rename_i image hstored
        obtain ⟨hformat, htype, hcount, hkept⟩ := hshares
        exact h.hand hstored hfirst (h.secondSource_isOf hstored hkept hformat htype hcount)
    · exact h
  exact hqueued.of_same (sameImages_withCodec _ _)

theorem sameImages_compress (s : ExynosJpegEncoderForCamera) (call : Nat) (i : EncodeAnswer) :
    SameImages (s.queueBuffers call i).2 (s.compress call i) := by
  unfold compress
  dsimp only
  split
  · exact .refl _
  · split
    · exact ⟨rfl, rfl, rfl, rfl, rfl⟩
    · split
      · exact sameImages_withCodec _ _
      · exact ⟨rfl, rfl, rfl, rfl, rfl⟩

theorem Holds.encode (h : s.Holds) (hidle : s.phase = .idle) {i : EncodeAnswer}
    (hfits : s.Fits (.call (.encode i))) : (s.encode i).Holds := by
  have hsame := s.sameImages_beforeCompress i
  have hbefore := h.of_same hsame
  unfold ExynosJpegEncoderForCamera.encode
  dsimp only
  split
  · exact hbefore.of_same ⟨rfl, rfl, rfl, rfl, rfl⟩
  · rename_i hready
    have hqueued : ((s.beforeCompress i).2.queueBuffers s.calls i).2.Holds := by
      apply hbefore.queueBuffers
      intro hsecond
      obtain ⟨hshares, hfirst⟩ := hfits hidle (Bool.eq_true_of_not_eq_false hready) hsecond
      exact ⟨hshares, hfirst.of_same hsame⟩
    exact (hqueued.of_same (sameImages_compress _ _ i)).of_same ⟨rfl, rfl, rfl, rfl, rfl⟩

theorem sameImages_waitForCompression (s : ExynosJpegEncoderForCamera) (a : DqAnswer) :
    SameImages s (s.waitForCompression a) := by
  unfold waitForCompression
  split
  · exact .refl s
  · dsimp only
    split
    · exact ⟨rfl, rfl, rfl, rfl, rfl⟩
    · exact ⟨rfl, rfl, rfl, rfl, rfl⟩

/-! ### The buffers that a client gives -/

theorem drop_writePlanes (bufType : JpegBufType) {n : Nat} {sizes : List Nat} :
    ∀ (buffers : List ImageBuffer) (planes : List BufferSlot), sizes.length ≤ n →
      (writePlanes bufType sizes buffers planes).drop n = planes.drop n := by
  induction sizes generalizing n with
  | nil =>
    intro buffers planes _
    unfold writePlanes
    rfl
  | cons size sizes ih =>
    intro buffers planes hn
    cases buffers with
    | nil => rfl
    | cons b buffers =>
      cases planes with
      | nil => rfl
      | cons plane planes =>
        cases n with
        | zero => exact absurd hn (Nat.not_succ_le_zero _)
        | succ n =>
          unfold writePlanes
          split
          · rfl
          · exact ih buffers planes (Nat.le_of_succ_le_succ hn)

theorem length_writePlanes (bufType : JpegBufType) (sizes : List Nat) :
    ∀ (buffers : List ImageBuffer) (planes : List BufferSlot),
      (writePlanes bufType sizes buffers planes).length = planes.length := by
  induction sizes with
  | nil =>
    intro buffers planes
    unfold writePlanes
    rfl
  | cons size sizes ih =>
    intro buffers planes
    cases buffers with
    | nil => rfl
    | cons b buffers =>
      cases planes with
      | nil => rfl
      | cons plane planes =>
        unfold writePlanes
        split
        · rfl
        · exact congrArg (· + 1) (ih buffers planes)

/-- The planes of the second image are left alone by those of a main image that has no more. -/
theorem Holds.writePlanes (h : s.Holds) (bufType : JpegBufType) (sizes : List Nat)
    (buffers : List ImageBuffer) :
    { s with
      srcPlanes := writePlanes bufType sizes buffers s.srcPlanes
      secondKept := s.secondKept && decide (sizes.length ≤ s.storedCount) }.Holds := by
  refine ⟨h.union, ?_, h.image, ?_, h.agree.stored, h.agree.same⟩
  · exact (length_writePlanes bufType sizes buffers s.srcPlanes).trans h.srcPlanes
  · intro hkept image hstored
    obtain ⟨hwas, hle⟩ := Bool.and_eq_true_iff.mp hkept
    have hcount : s.storedCount = image.buffers.length := by
      unfold storedCount
      rw [show s.stored = some image from hstored]
    have hle' : sizes.length ≤ image.buffers.length := hcount ▸ of_decide_eq_true hle
    show ((ExynosJpegEncoderForCamera.writePlanes bufType sizes buffers s.srcPlanes).drop _).take _ = _
    rw [drop_writePlanes bufType buffers s.srcPlanes hle']
    exact h.second hwas image hstored

theorem Holds.setInBuf (h : s.Holds) (bufType : JpegBufType) (bufs : Nat → ImageBuffer)
    (tryFmt : Option DriverFormat) : (s.setInBuf bufType bufs tryFmt).2.Holds := by
  have hensured := h.of_same (s.sameImages_ensureFormatIsApplied tryFmt)
  unfold ExynosJpegEncoderForCamera.setInBuf
  dsimp only
  split
  · exact hensured
  · split
    · exact hensured
    · have hwritten := hensured.writePlanes bufType
        (s.ensureFormatIsApplied tryFmt).2.enc.hwjpeg.format.sizeimage
        ((List.range (s.ensureFormatIsApplied tryFmt).2.enc.hwjpeg.format.sizeimage.length).map bufs)
      split
      · exact hwritten.of_same ⟨rfl, rfl, rfl, rfl, rfl⟩
      · exact hwritten.of_same ⟨rfl, rfl, rfl, rfl, rfl⟩

theorem second_writeSecondPlanes (bufType : JpegBufType) (buffers : List ImageBuffer)
    {planes : List BufferSlot} (hlen : buffers.length ≤ planes.length) :
    ((writeSecondPlanes bufType buffers planes).drop buffers.length).take buffers.length =
      buffers.map (.of bufType) := by
  unfold writeSecondPlanes
  rw [List.append_assoc, List.drop_left' (List.length_take_of_le hlen)]
  exact List.take_left' (List.length_map _)

theorem length_writeSecondPlanes (bufType : JpegBufType) (buffers : List ImageBuffer)
    {planes : List BufferSlot} (hlen : 2 * buffers.length ≤ planes.length) :
    (writeSecondPlanes bufType buffers planes).length = planes.length := by
  unfold writeSecondPlanes
  simp only [List.length_append, List.length_take, List.length_map, List.length_drop]
  omega

/-- An image that was stored, and whose buffers are those of the second image. -/
theorem Holds.storeSecond (h : s.Holds) (v4l2Format : BitVec 32) (bufType : JpegBufType)
    {buffers : List ImageBuffer} (hlen : buffers.length ≤ 3) :
    { s.store v4l2Format bufType buffers with
      srcPlanes := writeSecondPlanes bufType buffers s.srcPlanes
      secondKept := true }.Holds := by
  have hstore := h.store v4l2Format bufType hlen
  have hplanes := h.srcPlanes
  refine ⟨hstore.union, ?_, hstore.image, fun _ => ?_, h.agree.stored, h.agree.same⟩
  · exact (length_writeSecondPlanes bufType buffers (by omega)).trans hplanes
  · intro image hstored
    obtain rfl := Option.some.inj hstored
    exact second_writeSecondPlanes bufType buffers (by omega)

theorem Holds.setInBuf2 (h : s.Holds) (bufType : JpegBufType) (bufs : Nat → ImageBuffer)
    (tryFmt : Option DriverFormat) : (s.setInBuf2 bufType bufs tryFmt).2.Holds := by
  have hgiven : { s with noCreateThumbimage := true }.Holds := h.of_same ⟨rfl, rfl, rfl, rfl, rfl⟩
  have hensured := hgiven.of_same (sameImages_ensureFormatIsApplied _ tryFmt)
  unfold ExynosJpegEncoderForCamera.setInBuf2
  dsimp only
  split
  · exact hensured
  · split
    · exact hensured
    · rename_i hplanes
      have hlen : ((List.range ({ s with noCreateThumbimage := true }.ensureFormatIsApplied
          tryFmt).2.enc.hwjpeg.format.sizeimage.length).map bufs).length ≤ 3 := by
        rw [List.length_map, List.length_range]
        exact Nat.not_lt.mp hplanes
      split
      · exact (hensured.store _ bufType hlen).of_same ⟨rfl, rfl, rfl, rfl, rfl⟩
      · split
        · exact (hensured.store _ bufType hlen).of_same ⟨rfl, rfl, rfl, rfl, rfl⟩
        · exact (hensured.storeSecond _ bufType hlen).of_same ⟨rfl, rfl, rfl, rfl, rfl⟩

/-! ## 3. Runs -/

theorem Holds.call (h : s.Holds) (hidle : s.phase = .idle) {c : CameraEncoderCall}
    (hfits : s.Fits (.call c)) : (s.call c).Holds := by
  cases c with
  | setSize w height => exact h.of_same ⟨rfl, rfl, rfl, rfl, rfl⟩
  | setColorFormat v4l2ColorFormat => exact h.of_same ⟨rfl, rfl, rfl, rfl, rfl⟩
  | setJpegFormat v4l2JpegFormat => exact h.of_same ⟨rfl, rfl, rfl, rfl, rfl⟩
  | setThumbnailSize w height => exact h.of_same (s.sameImages_setThumbnailSize w height)
  | setInBuf bufType bufs tryFmt => exact h.setInBuf bufType bufs tryFmt
  | setInBuf2 bufType bufs tryFmt => exact h.setInBuf2 bufType bufs tryFmt
  | enableHwfc => exact h.of_same ⟨rfl, rfl, rfl, rfl, rfl⟩
  | disableHwfc => exact h.of_same ⟨rfl, rfl, rfl, rfl, rfl⟩
  | encode i => exact h.encode hidle hfits
  | waitForCompression a => exact h.of_same (s.sameImages_waitForCompression a)

theorem Holds.step (h : s.Holds) {a : CameraEncoderStep} (hfits : s.Fits a) : (s.step a).Holds := by
  cases a with
  | call c =>
    unfold ExynosJpegEncoderForCamera.step
    dsimp only
    split
    · rename_i hidle
      exact h.call hidle hfits
    · exact h
  | work thread a => exact h.work hfits
  | finish joined len => exact h.finish hfits
  | retry maxThumb len => exact h.retry hfits

theorem holds_constructed (b2bCapable btbComp : Bool) : (constructed b2bCapable btbComp).Holds :=
  ⟨rfl, rfl, nofun, nofun, nofun, nofun⟩

/-- In a run whose steps meet the condition, the thumbnail is compressed from the image that was
stored, and for one call of `encode` from one image. -/
theorem sourcesAgree_of_fits {b2bCapable btbComp : Bool} {steps : List CameraEncoderStep}
    {s : ExynosJpegEncoderForCamera}
    (run : ExecWhere Fits (functional step) (constructed b2bCapable btbComp) steps s) :
    s.SourcesAgree := by
  have hholds : s.Holds := by
    apply run.invariant (I := Holds)
    · rintro s a t hs hfits rfl
      exact hs.step hfits
    · exact holds_constructed b2bCapable btbComp
  exact hholds.agree

/-- `NV21` of 640 x 480 pixels. -/
def nv21Format : DriverFormat := ⟨⟨0x3132564E, 640, 480⟩, [460800]⟩

/-- A main image in one buffer, whose thumbnail is generated, found too long for what is left of the
stream buffer, and compressed once more. -/
def generatedSteps (bufType : JpegBufType) : List CameraEncoderStep :=
  [.call (.setSize 640 480), .call (.setColorFormat 0x3132564E),
    .call (.setThumbnailSize 320 240), .call (.setInBuf bufType (fun _ => ⟨5, 460800⟩) (some nv21Format)),
    .call (.encode ⟨true, .written true, some nv21Format, true, true,
      { Compressor.grantAll with
        srcFmt := some nv21Format
        dq := ⟨true, true, false, 40000, 0⟩ }⟩),
    .work 0 ⟨some ⟨9, 115200⟩, none⟩, .work 0 ⟨none, none⟩, .work 0 ⟨none, some 20000⟩,
    .finish true none, .retry 10000 (some 9000)]

/-- The buffers of the main image are descriptors, as that of the generated one is. -/
theorem sourcesAgree_of_fits_dmaBuf :
    ((generatedSteps .dmaBuf).foldl step (constructed false true)).SourcesAgree ∧
      ((generatedSteps .dmaBuf).foldl step (constructed false true)).handed.length = 2 := by
  constructor
  · apply @sourcesAgree_of_fits false true (generatedSteps .dmaBuf)
    apply ExecWhere.folded
    intro n a ha
    match n with
    | 0 | 1 | 2 | 3 | 4 | 5 | 6 | 7 | 8 | 9 =>
      obtain rfl := Option.some.inj ha
      decide
    | n + 10 => cases ha
  · decide

/-- The descriptor of a generated image is taken for an address, as that of the main image is one. -/
theorem descriptor_read_as_pointer :
    ¬∀ (b2bCapable btbComp : Bool) (steps : List CameraEncoderStep)
      (s : ExynosJpegEncoderForCamera),
      Exec (functional step) (constructed b2bCapable btbComp) steps s → s.SourcesAgree := by
  intro hall
  have hagree := hall false true (generatedSteps .userPtr) _ (Exec.folded step _ _)
  have hmem : (⟨0, ⟨0x3132564E, .userPtr, [none]⟩,
      some ⟨0x3132564E, .dmaBuf, [⟨9, 115200⟩]⟩⟩ : Handoff) ∈
      ((generatedSteps .userPtr).foldl step (constructed false true)).handed := by decide
  obtain ⟨image, himage, hof⟩ := hagree.stored _ hmem
  obtain rfl := Option.some.inj himage
  exact absurd hof.bufType (by decide)

end ExynosJpegEncoderForCamera

end Universal7870.Jpeg
