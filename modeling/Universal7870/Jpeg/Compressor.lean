import Universal7870.Jpeg.ScalerQueue
import Universal7870.Jpeg.V4l2Format

/-!
# The compressor's driver calls

`CHWJpegV4L2Compressor` with the flags it keeps of the driver, the settings it has not passed on
yet, and the driver itself.  The driver's answers are arguments of the calls.
-/

namespace Universal7870.Jpeg

open Lib

/-! ## 1. State -/

/-- `HWJPEG_CTRL_*`. -/
inductive JpegControl
  | chromFactor
  | qfactor
  | qfactor2
  | hwfc
  deriving DecidableEq, Repr

namespace JpegControl

/-- The controls in the order of their bits. -/
def all : List JpegControl := [.chromFactor, .qfactor, .qfactor2, .hwfc]

theorem mem_all (c : JpegControl) : c ∈ all := by
  cases c <;> decide

end JpegControl

/-- What the driver makes of a format it accepts: the format, and the plane sizes. -/
structure DriverFormat where
  pix : PixFormat
  sizeimage : List Nat
  deriving DecidableEq, Repr

/-- The flags kept of the two queues, and the driver.  `pixFmt` is set while a format is not
applied. -/
structure CodecQueues where
  pixFmt : Bool
  qbufOut : Bool
  qbufCap : Bool
  reqbufs : Bool
  streaming : Bool
  device : V4l2Device

/-- The options and settings of the client, what is left of them to pass on, and what the driver
accepted last.  A control the client never set has no value in `v4l2Controls`. -/
structure CodecControls where
  auxFlags : BitVec 32
  v4l2Controls : JpegControl → Option Int
  controlsToSet : JpegControl → Bool
  enableHwfc : Bool
  srcNoCacheClean : Bool
  dstNoCacheClean : Bool
  accepted : JpegControl → Option Int

def auxoptEnableHwfc : BitVec 32 := 1#32 <<< 4
def auxoptSrcNocacheclean : BitVec 32 := 1#32 <<< 8
def auxoptDstNocacheclean : BitVec 32 := 1#32 <<< 9

def CodecControls.wants (s : CodecControls) (option : BitVec 32) : Bool :=
  s.auxFlags &&& option != 0

/-- A buffer that was queued, with the settings and the driver's controls at that moment. -/
structure QueuedBuffer where
  port : BufType
  controls : CodecControls

/-- `CHWJpegV4L2Compressor`.  The memory type of a buffer is `none` until it is first set, which
`HWJPEG_FLAG_SRC_BUFFER` and `HWJPEG_FLAG_DST_BUFFER` tell. -/
structure Compressor where
  b2bCapable : Bool
  format : DriverFormat
  srcBuffer : Option V4l2Memory
  dstBuffer : Option V4l2Memory
  srcBuffer2 : Bool
  dstBuffer2 : Bool
  lastStreamSize : Nat
  lastThumbStreamSize : Nat
  queues : CodecQueues
  controls : CodecControls
  queued : List QueuedBuffer

/-! ## 2. The driver's answers -/

/-- To REQBUFS for the source, for the JPEG stream, and to the roll-back. -/
structure ReqbufsAnswer where
  src : Bool
  dst : Bool
  rollback : Bool
  deriving DecidableEq, Repr

/-- To STREAMON for the source, for the JPEG stream, and to STREAMOFF for the source. -/
structure StreamOnAnswer where
  src : Bool
  dst : Bool
  srcOff : Bool
  deriving DecidableEq, Repr

structure StopAnswer where
  srcOff : Bool
  dstOff : Bool
  reqbufs : ReqbufsAnswer
  deriving DecidableEq, Repr

/-- To the two DQBUFs: whether they succeed, the error flag of either buffer, the sizes. -/
structure DqAnswer where
  src : Bool
  dst : Bool
  error : Bool
  streamSize : BitVec 32
  thumbStreamSize : BitVec 32
  deriving DecidableEq, Repr

structure CompressAnswer where
  stop : StopAnswer
  srcFmt : Option DriverFormat
  dstFmt : Bool
  reqbufs : ReqbufsAnswer
  streamOn : StreamOnAnswer
  sExtCtrls : Bool
  srcQbuf : Bool
  dstQbuf : Bool
  cancel : StopAnswer
  dq : DqAnswer
  deriving DecidableEq, Repr

/-! ## 3. The queues -/

namespace CodecQueues

/-- Two REQBUFS, one for each queue; `wanted` says which way the flag goes. -/
def reqBufsWith (s : CodecQueues) (wanted : Bool) (src dst : VideoRequest V4l2Memory)
    (a : ReqbufsAnswer) : Bool × CodecQueues :=
  if wanted = s.reqbufs then (true, s)
  else
    let d := s.device.ask .videoOutputMplane src a.src
    if a.src = false then (false, { s with device := d })
    else
      let d := d.ask .videoCaptureMplane dst a.dst
      if a.dst = false then
        (false, { s with device := d.ask .videoOutputMplane .release a.rollback })
      else (true, { s with device := d, reqbufs := wanted })

/-- `ReqBufs(1)`. -/
def reqBufs (s : CodecQueues) (src dst : V4l2Memory) (a : ReqbufsAnswer) : Bool × CodecQueues :=
  s.reqBufsWith true (.request src) (.request dst) a

/-- `ReqBufs(0)`. -/
def reqNoBufs (s : CodecQueues) (a : ReqbufsAnswer) : Bool × CodecQueues :=
  s.reqBufsWith false .release .release a

/-- `StreamOff`, which does not mind an error. -/
def streamOff (s : CodecQueues) (srcOff dstOff : Bool) : CodecQueues :=
  if s.streaming = false then s
  else
    { s with
      device := (s.device.ask .videoOutputMplane .streamOff srcOff).ask
        .videoCaptureMplane .streamOff dstOff
      streaming := false }

/-- `StopStreaming`. -/
def stopStreaming (s : CodecQueues) (a : StopAnswer) : Bool × CodecQueues :=
  reqNoBufs { s.streamOff a.srcOff a.dstOff with qbufOut := false, qbufCap := false } a.reqbufs

/-- `StreamOn`. -/
def streamOn (s : CodecQueues) (a : StreamOnAnswer) : Bool × CodecQueues :=
  if s.streaming = true then (true, s)
  else if s.reqbufs = false then (false, s)
  else
    let d := s.device.ask .videoOutputMplane .streamOn a.src
    if a.src = false then (false, { s with device := d })
    else
      let d := d.ask .videoCaptureMplane .streamOn a.dst
      if a.dst = false then
        (false, { s with device := d.ask .videoOutputMplane .streamOff a.srcOff })
      else (true, { s with device := d, streaming := true })

end CodecQueues

/-! ## 4. The controls -/

namespace CodecControls

def setControl (s : CodecControls) (c : JpegControl) (value : Int) : CodecControls :=
  { s with
    v4l2Controls := Function.update s.v4l2Controls c (some value)
    controlsToSet := Function.update s.controlsToSet c true }

/-- `V4L2_JPEG_CHROMA_SUBSAMPLING_*`. -/
def chromaSubsampling (horizontal vertical : BitVec 32) : Option Int :=
  match (horizontal <<< 4 ||| vertical).toNat with
  | 0x00 => some 5
  | 0x11 => some 0
  | 0x21 => some 1
  | 0x22 => some 2
  | 0x41 => some 3
  | _ => none

def setChromaSampFactor (s : CodecControls) (horizontal vertical : BitVec 32) :
    Bool × CodecControls :=
  match chromaSubsampling horizontal vertical with
  | none => (false, s)
  | some value => (true, s.setControl .chromFactor value)

/-- `SetQuality`; a factor 0 leaves the control alone. -/
def setQuality (s : CodecControls) (qualityFactor qualityFactor2 : BitVec 32) :
    Bool × CodecControls :=
  if 100 < qualityFactor.toNat then (false, s)
  else if 100 < qualityFactor2.toNat then (false, s)
  else
    let s := if 0 < qualityFactor.toNat then s.setControl .qfactor qualityFactor.toNat else s
    (true, if 0 < qualityFactor2.toNat then s.setControl .qfactor2 qualityFactor2.toNat else s)

/-- The controls of S_EXT_CTRLS: those to set, then the HWFC control if it changes. -/
def ctrls (s : CodecControls) : List (JpegControl × Option Int) :=
  (JpegControl.all.filter s.controlsToSet).map (fun c => (c, s.v4l2Controls c)) ++
    if s.enableHwfc = s.wants auxoptEnableHwfc then []
    else [(.hwfc, some (if s.wants auxoptEnableHwfc then 1 else 0))]

/-- The driver takes the values over in the order they are given. -/
def accept (accepted : JpegControl → Option Int) (ctrls : List (JpegControl × Option Int)) :
    JpegControl → Option Int :=
  ctrls.foldl (fun accepted c => Function.update accepted c.1 c.2) accepted

/-- `UpdateControls`: what was to set is forgotten before the driver has answered. -/
def updateControls (s : CodecControls) (sExtCtrls : Bool) : Bool × CodecControls :=
  if s.ctrls = [] then (true, s)
  else
    (sExtCtrls, { s with
      controlsToSet := fun _ => false
      enableHwfc := s.wants auxoptEnableHwfc
      accepted := if sExtCtrls then accept s.accepted s.ctrls else s.accepted })

/-- The flags of the two buffers, which are only ever added. -/
def markBuffers (s : CodecControls) : CodecControls :=
  { s with
    srcNoCacheClean := s.srcNoCacheClean || s.wants auxoptSrcNocacheclean
    dstNoCacheClean := s.dstNoCacheClean || s.wants auxoptDstNocacheclean }

end CodecControls

/-! ## 5. The calls -/

/-- `f` if the call before it has succeeded. -/
def andThen {σ : Type*} (r : Bool × σ) (f : σ → Bool × σ) : Bool × σ :=
  if r.1 = false then r else f r.2

namespace Compressor

/-- The constructor's compressor. -/
def created (b2bCapable : Bool) : Compressor where
  b2bCapable := b2bCapable
  format := ⟨⟨v4l2PixFmtRgb24, toImageSize 16 0, toImageSize 16 0⟩, []⟩
  srcBuffer := none
  dstBuffer := none
  srcBuffer2 := false
  dstBuffer2 := false
  lastStreamSize := 0
  lastThumbStreamSize := 0
  queues := ⟨true, false, false, false, false, ⟨fun _ => .idle, []⟩⟩
  controls := ⟨0, fun _ => none, fun _ => false, false, false, false, fun _ => none⟩
  queued := []

/-- A helper on the queues as one on the compressor. -/
def onQueues (s : Compressor) (r : Bool × CodecQueues) : Bool × Compressor :=
  (r.1, { s with queues := r.2 })

def onControls (s : Compressor) (r : Bool × CodecControls) : Bool × Compressor :=
  (r.1, { s with controls := r.2 })

/-- `SetImageFormat`, with the driver's answer to TRY_FMT. -/
def setImageFormat (s : Compressor) (q : ImageFormat) (tryFmt : Option DriverFormat) :
    Bool × Compressor :=
  let pix := CHWJpegV4L2Compressor.pixFormat q
  if s.format.pix = pix then (true, s)
  else
    (tryFmt.isSome, { s with
      format := tryFmt.getD ⟨pix, s.format.sizeimage⟩
      queues := { s.queues with pixFmt := true } })

/-- `SetImageBuffer` with buffers of the given lengths. -/
def setImageBuffer (s : Compressor) (memory : V4l2Memory) (lens : List Nat) :
    Bool × Compressor :=
  if lens.length < s.format.sizeimage.length then (false, s)
  else if (s.format.sizeimage.zip lens).any (fun p => decide (p.2 < p.1)) then (false, s)
  else (true, { s with srcBuffer := some memory })

/-- `SetImageBuffer2`, which does not look at the lengths. -/
def setImageBuffer2 (s : Compressor) (lens : List Nat) : Bool × Compressor :=
  if s.b2bCapable = false then (false, s)
  else if lens.length < s.format.sizeimage.length then (false, s)
  else (true, { s with srcBuffer2 := true })

def setJpegBuffer (s : Compressor) (memory : V4l2Memory) : Bool × Compressor :=
  (true, { s with dstBuffer := some memory })

def setJpegBuffer2 (s : Compressor) : Bool × Compressor :=
  if s.b2bCapable = false then (false, s) else (true, { s with dstBuffer2 := true })

/-- `IsB2BCompression`. -/
def isB2BCompression (s : Compressor) : Bool :=
  (s.format.pix.width >>> 16 &&& 0xFFFF) + (s.format.pix.height >>> 16 &&& 0xFFFF) != 0

/-- `SetFormat`: S_FMT for the image, then for the JPEG stream. -/
def setFormat (s : Compressor) (srcFmt : Option DriverFormat) (dstFmt : Bool) :
    Bool × Compressor :=
  let d := s.queues.device.ask .videoOutputMplane .setFormat srcFmt.isSome
  match srcFmt with
  | none => (false, { s with queues := { s.queues with device := d } })
  | some format =>
    let d := d.ask .videoCaptureMplane .setFormat dstFmt
    (dstFmt, { s with
      format := format
      queues := { s.queues with device := d, pixFmt := s.queues.pixFmt && !dstFmt } })

/-- One QBUF. -/
def enqueue (s : Compressor) (t : BufType) (memory : V4l2Memory) (granted : Bool) : Compressor :=
  { s with
    queues := { s.queues with device := s.queues.device.ask t (.enqueue memory) granted }
    queued := ⟨t, s.controls⟩ :: s.queued }

/-- `QBuf`. -/
def qBuf (s : Compressor) (src dst : V4l2Memory) (a : CompressAnswer) : Bool × Compressor :=
  if s.queues.reqbufs = false then (false, s)
  else
    let s := s.enqueue .videoOutputMplane src a.srcQbuf
    if a.srcQbuf = false then (false, s)
    else
      let s := s.enqueue .videoCaptureMplane dst a.dstQbuf
      -- releasing the buffers is the only way to cancel the one that is queued
      if a.dstQbuf = false then (false, { s with queues := (s.queues.stopStreaming a.cancel).2 })
      else (true, { s with queues := { s.queues with qbufOut := true, qbufCap := true } })

/-- `DQBuf`. -/
def dqBuf (s : Compressor) (a : DqAnswer) : Int × Compressor :=
  let failed := s.queues.qbufOut && !a.src || s.queues.qbufCap && !a.dst
  -- the buffers of DQBUFs that are skipped stay as they were cleared
  let error := (s.queues.qbufOut || s.queues.qbufCap) && a.error
  let streamSize := if s.queues.qbufCap then a.streamSize.toNat else 0
  let thumbStreamSize := if s.queues.qbufCap then a.thumbStreamSize.toNat else 0
  let s := { s with queues := { s.queues with qbufOut := false, qbufCap := false } }
  if failed || error then (-1, s)
  else
    (streamSize, { s with
      lastStreamSize := streamSize
      lastThumbStreamSize := thumbStreamSize })

/-- `StopStreaming` and `SetFormat` for a format that is not applied yet. -/
def applyFormat (s : Compressor) (a : CompressAnswer) : Bool × Compressor :=
  if s.queues.pixFmt = false then (true, s)
  else andThen (s.onQueues (s.queues.stopStreaming a.stop)) fun s => s.setFormat a.srcFmt a.dstFmt

/-- What back-to-back compression needs is there. -/
def b2bReady (s : Compressor) : Bool := !s.isB2BCompression || s.srcBuffer2 && s.dstBuffer2

/-- `ReqBufs`, `StreamOn`, `UpdateControls` and `QBuf`. -/
def startCodec (s : Compressor) (src dst : V4l2Memory) (a : CompressAnswer) :
    Bool × Compressor :=
  andThen (s.onQueues (s.queues.reqBufs src dst a.reqbufs)) fun s =>
    andThen (s.onQueues (s.queues.streamOn a.streamOn)) fun s =>
      andThen (s.onControls (s.controls.updateControls a.sExtCtrls)) fun s => s.qBuf src dst a

/-- `Compress` once the format is applied. -/
def compressBuffers (s : Compressor) (a : CompressAnswer) : Bool × Compressor :=
  match s.srcBuffer, s.dstBuffer with
  | some src, some dst =>
    if s.b2bReady = false then (false, s)
    else startCodec { s with controls := s.controls.markBuffers } src dst a
  | _, _ => (false, s)

/-- `Compress`. -/
def compress (s : Compressor) (blockMode : Bool) (a : CompressAnswer) : Int × Compressor :=
  let r := andThen (s.applyFormat a) fun s => s.compressBuffers a
  if r.1 = false then (-1, r.2) else if blockMode then r.2.dqBuf a.dq else (0, r.2)

end Compressor

/-- The calls of a client, with the driver's answers. -/
inductive CompressorCall
  | setAuxFlags (auxflags : BitVec 32)
  | clearAuxFlags (auxflags : BitVec 32)
  | setChromaSampFactor (horizontal vertical : BitVec 32)
  | setQuality (qualityFactor qualityFactor2 : BitVec 32)
  | setImageFormat (q : ImageFormat) (tryFmt : Option DriverFormat)
  | setImageBuffer (memory : V4l2Memory) (lens : List Nat)
  | setImageBuffer2 (lens : List Nat)
  | setJpegBuffer (memory : V4l2Memory)
  | setJpegBuffer2
  | compress (blockMode : Bool) (a : CompressAnswer)
  | waitForCompression (a : DqAnswer)
  | release (a : StopAnswer)
  deriving DecidableEq, Repr

namespace Compressor

def setAuxFlags (s : Compressor) (auxflags : BitVec 32) : Compressor :=
  { s with controls := { s.controls with auxFlags := s.controls.auxFlags ||| auxflags } }

def clearAuxFlags (s : Compressor) (auxflags : BitVec 32) : Compressor :=
  { s with controls := { s.controls with auxFlags := s.controls.auxFlags &&& ~~~auxflags } }

def step (s : Compressor) : CompressorCall → Compressor
  | .setAuxFlags auxflags => s.setAuxFlags auxflags
  | .clearAuxFlags auxflags => s.clearAuxFlags auxflags
  | .setChromaSampFactor horizontal vertical =>
    (s.onControls (s.controls.setChromaSampFactor horizontal vertical)).2
  | .setQuality qualityFactor qualityFactor2 =>
    (s.onControls (s.controls.setQuality qualityFactor qualityFactor2)).2
  | .setImageFormat q tryFmt => (s.setImageFormat q tryFmt).2
  | .setImageBuffer memory lens => (s.setImageBuffer memory lens).2
  | .setImageBuffer2 lens => (s.setImageBuffer2 lens).2
  | .setJpegBuffer memory => (s.setJpegBuffer memory).2
  | .setJpegBuffer2 => s.setJpegBuffer2.2
  | .compress blockMode a => (s.compress blockMode a).2
  | .waitForCompression a => (s.dqBuf a).2
  | .release a => { s with queues := (s.queues.stopStreaming a).2 }

end Compressor

end Universal7870.Jpeg
