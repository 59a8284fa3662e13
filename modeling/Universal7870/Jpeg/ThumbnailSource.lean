import Universal7870.Jpeg.JpegEncoder
import Universal7870.Jpeg.ThumbnailBuffers
import Universal7870.Jpeg.ThumbnailWorker

/-!
# What the thumbnail is compressed from

The camera encoder keeps the buffers of the thumbnail's image in a union without a tag.  Three call
sites hand them to the thumbnail's compressor, each with a pixel format and a type of buffers of its
own choice, and back-to-back compression hands them to the compressor of the main image.
-/

namespace Universal7870.Jpeg

open Lib

/-! ## 1. Buffers -/

/-- A buffer as it is given: its address or its descriptor, and its length. -/
structure ImageBuffer where
  value : Nat
  len : Nat
  deriving DecidableEq, Repr

/-- A word that holds an address or a descriptor, whichever was stored last, and the length kept
beside it. -/
structure BufferSlot where
  stored : Option (JpegBufType × Nat)
  len : Nat
  deriving DecidableEq, Repr

namespace BufferSlot

def of (bufType : JpegBufType) (b : ImageBuffer) : BufferSlot := ⟨some (bufType, b.value), b.len⟩

/-- A word that is read as what it was not stored as has no value. -/
def read (slot : BufferSlot) (bufType : JpegBufType) : Option ImageBuffer :=
  match slot.stored with
  | some (kind, value) => if kind = bufType then some ⟨value, slot.len⟩ else none
  | none => none

@[simp]
theorem read_of (bufType : JpegBufType) (b : ImageBuffer) :
    (of bufType b).read bufType = some b := if_pos rfl

theorem map_read_of (bufType : JpegBufType) (buffers : List ImageBuffer) :
    (buffers.map (of bufType)).map (·.read bufType) = buffers.map some := by
  rw [List.map_map]
  exact List.map_congr_left fun b _ => read_of bufType b

end BufferSlot

/-- The image of a thumbnail, as it was stored. -/
structure ThumbImage where
  v4l2Format : BitVec 32
  bufType : JpegBufType
  buffers : List ImageBuffer
  deriving DecidableEq, Repr

/-- What a compressor is given for the thumbnail. -/
structure ThumbSource where
  v4l2Format : BitVec 32
  bufType : JpegBufType
  buffers : List (Option ImageBuffer)
  deriving DecidableEq, Repr

/-- The source is the image, read as what it was stored as. -/
structure ThumbSource.IsOf (source : ThumbSource) (image : ThumbImage) : Prop where
  v4l2Format : source.v4l2Format = image.v4l2Format
  bufType : source.bufType = image.bufType
  buffers : source.buffers = image.buffers.map some

/-- `num_buffers` of `CompressThumbnailOnly`: three for `YUV420M` and `YVU420M`, two for `NV12M` and
`NV21M`. -/
def numBuffers (v4l2Format : BitVec 32) : Nat :=
  match v4l2Format.toNat with
  | 0x32314D59 => 3
  | 0x31324D59 => 3
  | 0x32314D4E => 2
  | 0x31324D4E => 2
  | _ => 1

/-- `GetThumbnailFormat`: `NV12` for `NV12M`, `NV21` for `NV21M`. -/
def getThumbnailFormat (v4l2Format : BitVec 32) : BitVec 32 :=
  if v4l2Format = 0x32314D4E then 0x3231564E
  else if v4l2Format = 0x31324D4E then 0x3132564E
  else v4l2Format

/-! ## 2. The code -/

/-- A source that was handed to a compressor, for which call of `encode`, and the image that was
stored at that time. -/
structure Handoff where
  call : Nat
  source : ThumbSource
  image : Option ThumbImage
  deriving DecidableEq, Repr

/-- Where `FinishCompression` is: before the thumbnail is compressed, or has been waited for, and
behind it, each with the call of `encode` it is for and the length of the thumbnail's stream. -/
inductive FinishPhase
  | idle
  | finishing (call thumblen : Nat)
  | checking (call thumblen : Nat)
  deriving DecidableEq, Repr

/-- Where a worker thread is: before it looks at the settings, with the image it has generated in
this format, or with the format and the type it compresses the union under. -/
inductive WorkerStage
  | started
  | generated (v4l2Format : BitVec 32) (buffer : ImageBuffer)
  | compressing (v4l2Format : BitVec 32) (bufType : JpegBufType)
  deriving DecidableEq, Repr

/-- The encoder, as far as the source of the thumbnail goes.  `union` is `m_pThumbnailImageBuffer`
and `m_fdThumbnailImageBuffer` with `m_szThumbnailImageLen`, `srcPlanes` the `m_v4l2SrcPlanes` of
the compressor of the main image.  A thread is named after the call of `encode` that creates it;
`worker` says where a thread is that has not returned, `workerLen` what a thread has returned,
`inFlight` the calls whose compression was not waited for.  The last three members are history: the
image stored last, whether its buffers are still those of the second image of `srcPlanes`, and the
sources handed over. -/
structure ExynosJpegEncoderForCamera where
  enc : ExynosJpegEncoder
  hwfcEnabled : Bool
  noCreateThumbimage : Bool
  noBtbcomp : Bool
  thumbsizeChanged : Bool
  thumbWidth : BitVec 32
  thumbHeight : BitVec 32
  thumbBufferType : Option JpegBufType
  union : List BufferSlot
  srcPlanes : List BufferSlot
  thumbStreamBase : Bool
  threadWorker : Nat
  calls : Nat
  worker : Nat → Option WorkerStage
  workerLen : Nat → Nat
  inFlight : List Nat
  phase : FinishPhase
  stored : Option ThumbImage
  secondKept : Bool
  handed : List Handoff

/-- How the calls of `encode` end, up to the end of `Compress`. -/
structure EncodeAnswer where
  arguments : Bool
  processExif : ExifResult
  tryFmt : Option DriverFormat
  pthreadCreate : Bool
  allocThumbJpegBuffer : Bool
  compress : CompressAnswer

/-- The buffer that the scaler has filled, `none` if it has not, and the length that
`CompressThumbnailOnly` returns, `none` if it refuses the image before it compresses it. -/
structure WorkerAnswer where
  image : Option ImageBuffer
  len : Option Nat
  deriving DecidableEq, Repr

namespace ExynosJpegEncoderForCamera

def isThumbGenerationNeeded (s : ExynosJpegEncoderForCamera) : Bool := !s.noCreateThumbimage

def isBtbCompressionSupported (s : ExynosJpegEncoderForCamera) : Bool :=
  s.enc.hwjpeg.b2bCapable && !s.noBtbcomp

def withCodec (s : ExynosJpegEncoderForCamera) (hwjpeg : Compressor) : ExynosJpegEncoderForCamera :=
  { s with enc := { s.enc with hwjpeg := hwjpeg } }

/-- `setThumbnailSize` -/
def setThumbnailSize (s : ExynosJpegEncoderForCamera) (w h : BitVec 32) :
    Int × ExynosJpegEncoderForCamera :=
  if s.thumbWidth = w ∧ s.thumbHeight = h then (0, s)
  else if w ||| h ≠ 0 ∧ (w.toInt < 16 ∨ h.toInt < 16) then (-1, s)
  else (0, { s with
    thumbWidth := w
    thumbHeight := h
    thumbsizeChanged := s.thumbsizeChanged || s.isBtbCompressionSupported })

/-- The format of both images. -/
def imageFormat (s : ExynosJpegEncoderForCamera) : ImageFormat :=
  if s.isThumbGenerationNeeded || !s.isBtbCompressionSupported then
    ⟨s.enc.v4l2Format, s.enc.width, s.enc.height, 0, 0⟩
  else ⟨s.enc.v4l2Format, s.enc.width, s.enc.height, s.thumbWidth, s.thumbHeight⟩

/-- `EnsureFormatIsApplied`, with the driver's answer to TRY_FMT. -/
def ensureFormatIsApplied (s : ExynosJpegEncoderForCamera) (tryFmt : Option DriverFormat) :
    Bool × ExynosJpegEncoderForCamera :=
  if s.enc.pixfmtChanged || s.enc.sizeChanged || s.thumbsizeChanged then
    let c := s.enc.hwjpeg.setImageFormat s.imageFormat tryFmt
    if c.1 = false then (false, s.withCodec c.2)
    else
      (true, { s with
        enc := { s.enc with hwjpeg := c.2, sizeChanged := false, pixfmtChanged := false }
        thumbsizeChanged := false })
  else (true, s)

/-- The buffers of an image in the union. -/
def store (s : ExynosJpegEncoderForCamera) (v4l2Format : BitVec 32) (bufType : JpegBufType)
    (buffers : List ImageBuffer) : ExynosJpegEncoderForCamera :=
  { s with
    union := buffers.map (.of bufType) ++ s.union.drop buffers.length
    stored := some ⟨v4l2Format, bufType, buffers⟩
    secondKept := false }

def hand (s : ExynosJpegEncoderForCamera) (call : Nat) (source : ThumbSource) :
    ExynosJpegEncoderForCamera :=
  { s with handed := ⟨call, source, s.stored⟩ :: s.handed }

/-- `SetImageBuffer` of the main image's compressor: it stores an address before it looks at the
length. -/
def writePlanes (bufType : JpegBufType) : List Nat → List ImageBuffer → List BufferSlot →
    List BufferSlot
  | size :: sizes, b :: buffers, plane :: planes =>
    if b.len < size then ⟨some (bufType, b.value), plane.len⟩ :: planes
    else .of bufType b :: writePlanes bufType sizes buffers planes
  | _, _, planes => planes

/-- `SetImageBuffer2`: the planes behind those of the main image. -/
def writeSecondPlanes (bufType : JpegBufType) (buffers : List ImageBuffer)
    (planes : List BufferSlot) : List BufferSlot :=
  planes.take buffers.length ++ buffers.map (.of bufType) ++ planes.drop (2 * buffers.length)

def storedCount (s : ExynosJpegEncoderForCamera) : Nat :=
  match s.stored with
  | none => 0
  | some image => image.buffers.length

/-- `setInBuf`, of the base class, with the arrays it is given. -/
def setInBuf (s : ExynosJpegEncoderForCamera) (bufType : JpegBufType) (bufs : Nat → ImageBuffer)
    (tryFmt : Option DriverFormat) : Int × ExynosJpegEncoderForCamera :=
  let r := s.ensureFormatIsApplied tryFmt
  if r.1 = false then (-1, r.2)
  else
    let sizes := r.2.enc.hwjpeg.format.sizeimage
    if 3 < sizes.length then (-1, r.2)
    else
      let buffers := (List.range sizes.length).map bufs
      let c := r.2.enc.hwjpeg.setImageBuffer bufType.memory (buffers.map (·.len))
      let t := { r.2.withCodec c.2 with
        srcPlanes := writePlanes bufType sizes buffers r.2.srcPlanes
        secondKept := r.2.secondKept && decide (sizes.length ≤ r.2.storedCount) }
      if c.1 = false then (-1, t) else (0, { t with enc := { t.enc with inBufType := bufType } })

/-- `setInBuf2` -/
def setInBuf2 (s : ExynosJpegEncoderForCamera) (bufType : JpegBufType) (bufs : Nat → ImageBuffer)
    (tryFmt : Option DriverFormat) : Int × ExynosJpegEncoderForCamera :=
  let r := { s with noCreateThumbimage := true }.ensureFormatIsApplied tryFmt
  if r.1 = false then (-1, r.2)
  else
    let planes := r.2.enc.hwjpeg.format.sizeimage.length
    if 3 < planes then (-1, r.2)
    else
      let buffers := (List.range planes).map bufs
      let t := r.2.store r.2.enc.v4l2Format bufType buffers
      if t.isBtbCompressionSupported = false then (0, { t with thumbBufferType := some bufType })
      else
        let c := t.enc.hwjpeg.setImageBuffer2 (buffers.map (·.len))
        if c.1 = false then (-1, t.withCodec c.2)
        else
          (0, { t.withCodec c.2 with
            srcPlanes := writeSecondPlanes bufType buffers t.srcPlanes
            secondKept := true
            thumbBufferType := some bufType })

/-! ### The thumbnail's compressor -/

/-- The image as `CompressThumbnailOnly` takes it out of the union. -/
def unionSource (s : ExynosJpegEncoderForCamera) (v4l2Format : BitVec 32) (bufType : JpegBufType) :
    ThumbSource where
  v4l2Format := v4l2Format
  bufType := bufType
  buffers := (s.union.take (numBuffers v4l2Format)).map (·.read bufType)

/-- `CompressThumbnailOnly`, which compresses what it is given again at a lower quality while the
stream is too large. -/
def compressThumbnailOnly (s : ExynosJpegEncoderForCamera) (call : Nat) (v4l2Format : BitVec 32)
    (bufType : JpegBufType) (len : Option Nat) : Nat × ExynosJpegEncoderForCamera :=
  match len with
  | none => (0, s)
  | some len => (len, s.hand call (s.unionSource v4l2Format bufType))

/-- `GenerateThumbnailImage`; `AllocThumbBuffer` refuses a format whose length it does not know. -/
def generateThumbnailImage (s : ExynosJpegEncoderForCamera) (image : Option ImageBuffer) :
    Option ImageBuffer :=
  if getImageLength s.thumbWidth.toNat s.thumbHeight.toNat (.ofBitVec s.enc.v4l2Format) = 0 then
    none
  else image

/-- The thread goes on to this stage. -/
def advance (s : ExynosJpegEncoderForCamera) (thread : Nat) (stage : WorkerStage) :
    ExynosJpegEncoderForCamera :=
  { s with worker := Function.update s.worker thread (some stage) }

/-- The thread returns. -/
def workerReturns (s : ExynosJpegEncoderForCamera) (thread len : Nat) :
    ExynosJpegEncoderForCamera :=
  { s with
    worker := Function.update s.worker thread none
    workerLen := Function.update s.workerLen thread len }

/-- `tCompressThumbnail` with `CompressThumbnail`, which reads the settings while the client may
change them: before an image is generated, again when it has been, and not at its compression. -/
def work (s : ExynosJpegEncoderForCamera) (thread : Nat) (a : WorkerAnswer) :
    ExynosJpegEncoderForCamera :=
  match s.worker thread with
  | none => s
  | some .started =>
    if s.isThumbGenerationNeeded then
      match s.generateThumbnailImage a.image with
      | none => s.workerReturns thread 0
      | some buffer => s.advance thread (.generated (getThumbnailFormat s.enc.v4l2Format) buffer)
    -- a thumbnail that was given is compressed under what the main image has now
    else s.advance thread (.compressing s.enc.v4l2Format s.enc.inBufType)
  | some (.generated v4l2Format buffer) =>
    -- `getColorFormat` is called again, so the image may be taken for another format than its own
    (s.store v4l2Format .dmaBuf [buffer]).advance thread
      (.compressing (getThumbnailFormat s.enc.v4l2Format) .dmaBuf)
  | some (.compressing v4l2Format bufType) =>
    let r := s.compressThumbnailOnly thread v4l2Format bufType a.len
    r.2.workerReturns thread r.1

/-! ### `encode` -/

/-- The thread for a thumbnail that has to be generated, or the buffer for the stream of one that is
given. -/
def prepareThumbnail (s : ExynosJpegEncoderForCamera) (i : EncodeAnswer) :
    Bool × ExynosJpegEncoderForCamera :=
  if s.isThumbGenerationNeeded = false then (i.allocThumbJpegBuffer, s)
  else if i.pthreadCreate = false then (false, s)
  else (true, { s.advance s.calls .started with threadWorker := s.calls })

/-- `PrepareCompression` -/
def prepareCompression (s : ExynosJpegEncoderForCamera) (thumbnail : Bool) (i : EncodeAnswer) :
    Bool × ExynosJpegEncoderForCamera :=
  if thumbnail = false then (true, s)
  else
    let r := s.prepareThumbnail i
    if r.1 = false then r
    else if !s.noBtbcomp && s.isBtbCompressionSupported then
      let c := r.2.enc.hwjpeg.setJpegBuffer2
      (c.1, r.2.withCodec c.2)
    else r

/-- Buffers of the thumbnail are given for back-to-back compression, of another type than those of
the main image. -/
def typesDiffer (s : ExynosJpegEncoderForCamera) : Bool :=
  !s.isThumbGenerationNeeded && s.isBtbCompressionSupported &&
    s.thumbBufferType != some s.enc.inBufType

/-- A thumbnail whose buffers could not be configured is generated after all. -/
def generateUnconfigured (s : ExynosJpegEncoderForCamera) : ExynosJpegEncoderForCamera :=
  if !s.isThumbGenerationNeeded && s.thumbBufferType.isNone then
    { s with noCreateThumbimage := false, thumbsizeChanged := true }
  else s

/-- A compression without thumbnail has none configured. -/
def configureThumbnail (s : ExynosJpegEncoderForCamera) (thumbenc : Bool) :
    ExynosJpegEncoderForCamera :=
  if thumbenc then s.generateUnconfigured else (s.setThumbnailSize 0 0).2

/-- `encode` from `setOutBuf` to `PrepareCompression`. -/
def configure (s : ExynosJpegEncoderForCamera) (thumbenc : Bool) (i : EncodeAnswer) :
    Bool × ExynosJpegEncoderForCamera :=
  let out := s.enc.setOutBuf .userPtr
  let s := { s with enc := out.2 }
  if out.1 < 0 then (false, s)
  else if thumbenc && s.typesDiffer then (false, s)
  else
    let r := (s.configureThumbnail thumbenc).ensureFormatIsApplied i.tryFmt
    if r.1 = false then r else r.2.prepareCompression thumbenc i

/-- `encode` as far as `Compress`. -/
def beforeCompress (s : ExynosJpegEncoderForCamera) (i : EncodeAnswer) :
    Bool × ExynosJpegEncoderForCamera :=
  if i.arguments = false then (false, s)
  else
    match i.processExif with
    | .refused => (false, s)
    | .tooSmall thumb => (false, { s with thumbStreamBase := thumb })
    | .written thumb => { s with thumbStreamBase := thumb }.configure thumb i

/-- The image that back-to-back compression takes for the thumbnail's.  The memory type of the
planes is that of the main image's buffers. -/
def secondSource (s : ExynosJpegEncoderForCamera) (format : DriverFormat) : ThumbSource where
  v4l2Format := format.pix.pixelformat
  bufType := s.enc.inBufType
  buffers := ((s.srcPlanes.drop format.sizeimage.length).take format.sizeimage.length).map
    (·.read s.enc.inBufType)

/-- The main image's compressor with its format applied. -/
def applied (s : ExynosJpegEncoderForCamera) (i : EncodeAnswer) : Compressor :=
  (s.enc.hwjpeg.applyFormat i.compress).2

/-- The buffers of the main image are queued, and with them those of the thumbnail. -/
def queuesSecond (s : ExynosJpegEncoderForCamera) (i : EncodeAnswer) : Bool :=
  (s.enc.hwjpeg.queueBuffers i.compress).1 && (s.applied i).isB2BCompression

/-- `Compress` up to the queued buffers. -/
def queueBuffers (s : ExynosJpegEncoderForCamera) (call : Nat) (i : EncodeAnswer) :
    Bool × ExynosJpegEncoderForCamera :=
  let q := s.enc.hwjpeg.queueBuffers i.compress
  (q.1, (if s.queuesSecond i then s.hand call (s.secondSource (s.applied i).format)
    else s).withCodec q.2)

/-- `Compress` within `encode`. -/
def compress (s : ExynosJpegEncoderForCamera) (call : Nat) (i : EncodeAnswer) :
    ExynosJpegEncoderForCamera :=
  let r := s.queueBuffers call i
  if r.1 = false then r.2
  else if r.2.hwfcEnabled then { r.2 with inFlight := r.2.inFlight ++ [call] }
  else
    let d := r.2.enc.hwjpeg.dqBuf i.compress.dq
    -- a stream without length is taken for a compression that does not block
    if d.1 ≤ 0 then r.2.withCodec d.2
    else { r.2.withCodec d.2 with phase := .finishing call d.2.lastThumbStreamSize }

/-- `encode`, but for `FinishCompression`. -/
def encode (s : ExynosJpegEncoderForCamera) (i : EncodeAnswer) : ExynosJpegEncoderForCamera :=
  let r := s.beforeCompress i
  { (if r.1 = false then r.2 else r.2.compress s.calls i) with calls := s.calls + 1 }

/-- `WaitForCompression`, but for `FinishCompression`; the compressor returns from the compression
that came first. -/
def waitForCompression (s : ExynosJpegEncoderForCamera) (a : DqAnswer) :
    ExynosJpegEncoderForCamera :=
  if s.hwfcEnabled = false then s
  else
    let d := s.enc.hwjpeg.dqBuf a
    let t := { s.withCodec d.2 with inFlight := s.inFlight.tail }
    if d.1 < 0 then t
    else { t with phase := .finishing (s.inFlight.headD (s.calls - 1)) d.2.lastThumbStreamSize }

/-! ### `FinishCompression` -/

/-- The first stream of the thumbnail, from the thread, from a compression of its own or from the
compression of the main image. -/
def finish (s : ExynosJpegEncoderForCamera) (joined : Bool) (len : Option Nat) :
    ExynosJpegEncoderForCamera :=
  match s.phase with
  | .finishing call thumblen =>
    if s.thumbStreamBase = false then { s with phase := .idle }
    else if s.isThumbGenerationNeeded then
      -- `pthread_join` waits for a thread that has not returned
      if (s.worker s.threadWorker).isSome then s
      else if joined = false then { s with phase := .idle }
      else { s with phase := .checking call (s.workerLen s.threadWorker) }
    else if s.noBtbcomp || !s.isBtbCompressionSupported then
      let r := s.compressThumbnailOnly call s.enc.v4l2Format s.enc.inBufType len
      { r.2 with phase := .checking call r.1 }
    else { s with phase := .checking call thumblen }
  | _ => s

/-- The end of `FinishCompression`, which compresses a thumbnail once more whose stream is longer
than `max_thumb`. -/
def retry (s : ExynosJpegEncoderForCamera) (maxThumb : Nat) (len : Option Nat) :
    ExynosJpegEncoderForCamera :=
  match s.phase with
  | .checking call thumblen =>
    if maxThumb < thumblen then
      { (s.compressThumbnailOnly call s.enc.v4l2Format s.enc.inBufType len).2 with phase := .idle }
    else { s with phase := .idle }
  | _ => s

end ExynosJpegEncoderForCamera

/-- The calls of a client. -/
inductive CameraEncoderCall
  | setSize (w h : BitVec 32)
  | setColorFormat (v4l2ColorFormat : BitVec 32)
  | setJpegFormat (v4l2JpegFormat : BitVec 32)
  | setThumbnailSize (w h : BitVec 32)
  | setInBuf (bufType : JpegBufType) (bufs : Nat → ImageBuffer) (tryFmt : Option DriverFormat)
  | setInBuf2 (bufType : JpegBufType) (bufs : Nat → ImageBuffer) (tryFmt : Option DriverFormat)
  | enableHwfc
  | disableHwfc
  | encode (i : EncodeAnswer)
  | waitForCompression (a : DqAnswer)

/-- A step of the client, of a thread, or of `FinishCompression`, which the client is in. -/
inductive CameraEncoderStep
  | call (c : CameraEncoderCall)
  | work (thread : Nat) (a : WorkerAnswer)
  | finish (joined : Bool) (len : Option Nat)
  | retry (maxThumb : Nat) (len : Option Nat)

namespace ExynosJpegEncoderForCamera

def call (s : ExynosJpegEncoderForCamera) : CameraEncoderCall → ExynosJpegEncoderForCamera
  | .setSize w h => { s with enc := (s.enc.setSize w h).2 }
  | .setColorFormat v4l2ColorFormat => { s with enc := (s.enc.setColorFormat v4l2ColorFormat).2 }
  | .setJpegFormat v4l2JpegFormat => { s with enc := (s.enc.setJpegFormat v4l2JpegFormat).2 }
  | .setThumbnailSize w h => (s.setThumbnailSize w h).2
  | .setInBuf bufType bufs tryFmt => (s.setInBuf bufType bufs tryFmt).2
  | .setInBuf2 bufType bufs tryFmt => (s.setInBuf2 bufType bufs tryFmt).2
  | .enableHwfc =>
    { s.withCodec (s.enc.hwjpeg.setAuxFlags auxoptEnableHwfc) with hwfcEnabled := true }
  | .disableHwfc =>
    { s.withCodec (s.enc.hwjpeg.clearAuxFlags auxoptEnableHwfc) with hwfcEnabled := false }
  | .encode i => s.encode i
  | .waitForCompression a => s.waitForCompression a

def step (s : ExynosJpegEncoderForCamera) : CameraEncoderStep → ExynosJpegEncoderForCamera
  | .call c => if s.phase = .idle then s.call c else s
  | .work thread a => s.work thread a
  | .finish joined len => s.finish joined len
  | .retry maxThumb len => s.retry maxThumb len

/-- An encoder as it is constructed. -/
def constructed (b2bCapable btbComp : Bool) : ExynosJpegEncoderForCamera where
  enc :=
    let enc := ExynosJpegEncoder.created b2bCapable
    { enc with hwjpeg := enc.hwjpeg.setAuxFlags auxoptSrcNocacheclean }
  hwfcEnabled := false
  noCreateThumbimage := false
  noBtbcomp := !btbComp
  thumbsizeChanged := b2bCapable && btbComp
  thumbWidth := 0
  thumbHeight := 0
  thumbBufferType := none
  union := List.replicate 3 ⟨none, 0⟩
  srcPlanes := List.replicate 6 ⟨none, 0⟩
  thumbStreamBase := false
  threadWorker := 0
  calls := 0
  worker := fun _ => none
  workerLen := fun _ => 0
  inFlight := []
  phase := .idle
  stored := none
  secondKept := false
  handed := []

/-! ## 3. What is asked of a source -/

/-- Every source is the image that was stored, and those of one call of `encode` are one image. -/
structure SourcesAgree (s : ExynosJpegEncoderForCamera) : Prop where
  stored : ∀ h ∈ s.handed, ∃ image, h.image = some image ∧ h.source.IsOf image
  same : ∀ h ∈ s.handed, ∀ h' ∈ s.handed, h.call = h'.call → h.image = h'.image

/-- The thumbnail's image was stored under this format and this type. -/
def StoredAs (s : ExynosJpegEncoderForCamera) (v4l2Format : BitVec 32) (bufType : JpegBufType) :
    Prop :=
  match s.stored with
  | none => False
  | some image =>
    v4l2Format = image.v4l2Format ∧ bufType = image.bufType ∧
      numBuffers image.v4l2Format = image.buffers.length

instance (s : ExynosJpegEncoderForCamera) (v4l2Format : BitVec 32) (bufType : JpegBufType) :
    Decidable (s.StoredAs v4l2Format bufType) :=
  match h : s.stored with
  | none => isFalse fun hs => by
    unfold StoredAs at hs
    rw [h] at hs
    exact hs
  | some image =>
    decidable_of_iff (v4l2Format = image.v4l2Format ∧ bufType = image.bufType ∧
      numBuffers image.v4l2Format = image.buffers.length) (by
        unfold StoredAs
        rw [h])

/-- No image was stored since the call of `encode` has first compressed its thumbnail. -/
def Unreplaced (s : ExynosJpegEncoderForCamera) (call : Nat) : Prop :=
  ∀ h ∈ s.handed, h.call = call → h.image = s.stored

instance (s : ExynosJpegEncoderForCamera) (call : Nat) : Decidable (s.Unreplaced call) :=
  inferInstanceAs (Decidable (∀ h ∈ s.handed, h.call = call → h.image = s.stored))

/-- The format that the main image is compressed in is that of the thumbnail's image, whose planes
were left alone. -/
def SharesFormat (s : ExynosJpegEncoderForCamera) (format : DriverFormat) : Prop :=
  match s.stored with
  | none => False
  | some image =>
    format.pix.pixelformat = image.v4l2Format ∧ s.enc.inBufType = image.bufType ∧
      format.sizeimage.length = image.buffers.length ∧ s.secondKept = true

instance (s : ExynosJpegEncoderForCamera) (format : DriverFormat) :
    Decidable (s.SharesFormat format) :=
  match h : s.stored with
  | none => isFalse fun hs => by
    unfold SharesFormat at hs
    rw [h] at hs
    exact hs
  | some image =>
    decidable_of_iff (format.pix.pixelformat = image.v4l2Format ∧
      s.enc.inBufType = image.bufType ∧ format.sizeimage.length = image.buffers.length ∧
      s.secondKept = true) (by
        unfold SharesFormat
        rw [h])

/-- The thumbnail may be compressed from the union under this format and this type. -/
def Ready (s : ExynosJpegEncoderForCamera) (call : Nat) (v4l2Format : BitVec 32)
    (bufType : JpegBufType) : Prop :=
  s.StoredAs v4l2Format bufType ∧ s.Unreplaced call

instance (s : ExynosJpegEncoderForCamera) (call : Nat) (v4l2Format : BitVec 32)
    (bufType : JpegBufType) : Decidable (s.Ready call v4l2Format bufType) :=
  inferInstanceAs (Decidable (_ ∧ _))

/-- With the settings of the main image. -/
def ReadyAsMain (s : ExynosJpegEncoderForCamera) (call : Nat) : Prop :=
  s.Ready call s.enc.v4l2Format s.enc.inBufType

instance (s : ExynosJpegEncoderForCamera) (call : Nat) : Decidable (s.ReadyAsMain call) :=
  inferInstanceAs (Decidable (s.Ready _ _ _))

/-- The condition on a step that hands the thumbnail's image over. -/
def Fits (s : ExynosJpegEncoderForCamera) : CameraEncoderStep → Prop
  | .call (.encode i) =>
    s.phase = .idle → (s.beforeCompress i).1 = true → (s.beforeCompress i).2.queuesSecond i = true →
      (s.beforeCompress i).2.SharesFormat ((s.beforeCompress i).2.applied i).format ∧
        s.Unreplaced s.calls
  | .call _ => True
  | .work thread a =>
    match s.worker thread with
    | some (.compressing v4l2Format bufType) =>
      a.len.isSome = true → s.Ready thread v4l2Format bufType
    | _ => True
  | .finish _ len =>
    match s.phase with
    | .finishing call _ =>
      s.thumbStreamBase = true → s.isThumbGenerationNeeded = false →
        (s.noBtbcomp || !s.isBtbCompressionSupported) = true → len.isSome = true → s.ReadyAsMain call
    | _ => True
  | .retry maxThumb len =>
    match s.phase with
    | .checking call thumblen => maxThumb < thumblen → len.isSome = true → s.ReadyAsMain call
    | _ => True

instance (s : ExynosJpegEncoderForCamera) (a : CameraEncoderStep) : Decidable (s.Fits a) :=
  match a with
  | .call (.encode i) => inferInstanceAs (Decidable (_ → _ → _ → _ ∧ _))
  | .call (.setSize _ _) | .call (.setColorFormat _) | .call (.setJpegFormat _)
  | .call (.setThumbnailSize _ _) | .call (.setInBuf _ _ _) | .call (.setInBuf2 _ _ _)
  | .call .enableHwfc | .call .disableHwfc | .call (.waitForCompression _) => isTrue trivial
  | .work thread a =>
    match h : s.worker thread with
    | some (.compressing v4l2Format bufType) =>
      decidable_of_iff (a.len.isSome = true → s.Ready thread v4l2Format bufType) (by
        unfold Fits
        dsimp only
        rw [h])
    | none | some .started | some (.generated _ _) => isTrue (by
      unfold Fits
      dsimp only
      rw [h]
      exact trivial)
  | .finish _ len =>
    match h : s.phase with
    | .finishing call _ =>
      decidable_of_iff (s.thumbStreamBase = true → s.isThumbGenerationNeeded = false →
        (s.noBtbcomp || !s.isBtbCompressionSupported) = true → len.isSome = true →
          s.ReadyAsMain call) (by
        unfold Fits
        rw [h])
    | .idle | .checking _ _ => isTrue (by
      unfold Fits
      rw [h]
      exact trivial)
  | .retry maxThumb len =>
    match h : s.phase with
    | .checking call thumblen =>
      decidable_of_iff (maxThumb < thumblen → len.isSome = true → s.ReadyAsMain call) (by
        unfold Fits
        rw [h])
    | .idle | .finishing _ _ => isTrue (by
      unfold Fits
      rw [h]
      exact trivial)

end ExynosJpegEncoderForCamera

end Universal7870.Jpeg
