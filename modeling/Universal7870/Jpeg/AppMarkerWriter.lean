import Universal7870.Jpeg.IfdWriter

/-!
# Writing the application segments

`CAppMarkerWriter` of `AppMarkerWriter.cpp`: `PrepareAppWriter` counts the fields and sizes that
`WriteAPP1` then relies on.  Addresses are numbers, 0 is `NULL`, and `size_t` is 64 bits wide.
-/

namespace Universal7870.Jpeg

open Lib

def exifDatetimeLength : Nat := 20
def exifSubsectimeLength : Nat := 5
def exifGpsdatestampLength : Nat := 11
def maxGpsProcessingmethodSize : Nat := 108

def exifAsciiPrefix : List UInt8 := [0x41, 0x53, 0x43, 0x49, 0x49, 0, 0, 0]
def exifIdentifierCode : List UInt8 := [0x45, 0x78, 0x69, 0x66, 0, 0]
def tiffHeader : List UInt8 := [0x49, 0x49, 0x2A, 0, 8, 0, 0, 0]

structure CAppMarkerWriter where
  appBase : Nat
  app1End : Nat
  maxThumbSize : Nat
  szApp1 : Nat
  szApp11 : Nat
  n0thIfdFields : Nat
  n1stIfdFields : Nat
  nExifIfdFields : Nat
  nGpsIfdFields : Nat
  exif : Option ExifAttribute
  debug : Option DebugAttribute
  szMake : Nat
  szSoftware : Nat
  szModel : Nat
  szUniqueId : Nat
  mainBase : Nat
  thumbBase : Nat
  thumbSizePlaceholder : Nat

/-! ## 1. `PrepareAppWriter` -/

/-- What a string adds to the size of its directory: nothing if it is empty, a field, and its
characters unless they fit into the field. -/
def stringSize (sz : Nat) : Nat :=
  if 0 < sz then ifdFieldSize + (if 3 < sz then sz + 1 else 0) else 0

def blobSize (sz : Nat) : Nat :=
  if 0 < sz then ifdFieldSize + (if 4 < sz then sz else 0) else 0

/-- The number of fields an optional member takes. -/
def optionalField (sz : Nat) : Nat := if 0 < sz then 1 else 0

namespace ExifAttribute

variable (e : ExifAttribute)

def n0thIfdFields : Nat :=
  7 + optionalField e.maker.strlen + optionalField e.software.strlen +
    optionalField e.model.strlen + (if e.enableGps then 1 else 0)

def nExifIfdFields : Nat :=
  20 + 2 + 3 + optionalField e.uniqueId.strlen + optionalField e.makerNote.size +
    optionalField e.userComment.size + 1

/-- The characters of the processing method that are stored. -/
def gpsMethodLength : Nat :=
  min e.gpsProcessingMethod.strlen (maxGpsProcessingmethodSize - exifAsciiPrefix.length - 1)

def nGpsIfdFields : Nat := 8 + 1 + optionalField e.gpsMethodLength

def primarySize : Nat :=
  ifdFieldcountSize + ifdValoffSize + ifdFieldSize * 7 + 8 * 2 + exifDatetimeLength +
    stringSize e.maker.strlen + stringSize e.software.strlen + stringSize e.model.strlen +
    (if e.enableGps then ifdFieldSize else 0)

def exifIfdSize : Nat :=
  ifdFieldcountSize + ifdValoffSize + ifdFieldSize * 20 + 8 * 8 +
    (ifdFieldSize + exifDatetimeLength) * 2 + (ifdFieldSize + exifSubsectimeLength) * 3 +
    stringSize e.uniqueId.strlen + blobSize e.makerNote.size + blobSize e.userComment.size +
    (ifdFieldSize + ifdFieldcountSize + ifdValoffSize + ifdFieldSize * 2)

def gpsIfdSize : Nat :=
  ifdFieldcountSize + ifdValoffSize + ifdFieldSize * 8 + 8 * 10 +
    (ifdFieldSize + exifGpsdatestampLength) +
    if 0 < e.gpsMethodLength then ifdFieldSize + e.gpsMethodLength + exifAsciiPrefix.length + 1
    else 0

def thumbIfdSize : Nat := ifdFieldcountSize + ifdValoffSize + ifdFieldSize * 6

/-- `applen` in front of the thumbnail: the APP1 segment without its marker. -/
def appLengthNoThumb : Nat :=
  jpegSegmentLenfieldSize + exifIdentifierCode.length + tiffHeader.length + e.primarySize +
    e.exifIfdSize + if e.enableGps then e.gpsIfdSize else 0

def appLength : Nat := e.appLengthNoThumb + if e.enableThumb then thumbIfdSize else 0

/-- `PrepareAppWriter` returns early on a thumbnail that is too small. -/
def thumbTooSmall : Prop := e.enableThumb = true ∧ (e.widthThumb < 16 ∨ e.heightThumb < 16)

instance : Decidable e.thumbTooSmall := inferInstanceAs (Decidable (_ ∧ _))

end ExifAttribute

/-- What `PrepareAppWriter` asks of a debug attribute. -/
def DebugAttribute.Accepted (debug : DebugAttribute) : Prop :=
  debug.numOfAppmarker ≤ extraAppmarkerLimit - extraAppmarkerMin ∧
    ∀ i ∈ List.range debug.numOfAppmarker.toNat,
      validAppid (debug.idx i) ∧ validSize (debug.debugSize (debug.idx i))

instance (debug : DebugAttribute) : Decidable debug.Accepted := inferInstanceAs (Decidable (_ ∧ _))

namespace CAppMarkerWriter

/-- `Init`, behind the assignments of the base and the attribute. -/
def init (w : CAppMarkerWriter) (base : Nat) (exif : Option ExifAttribute) : CAppMarkerWriter :=
  { w with
    appBase := base
    exif := exif
    app1End := 0
    szApp1 := 0
    n0thIfdFields := 0
    n1stIfdFields := 0
    nExifIfdFields := 0
    nGpsIfdFields := 0
    szMake := 0
    szSoftware := 0
    szModel := 0
    szUniqueId := 0
    thumbBase := 0
    maxThumbSize := 0
    thumbSizePlaceholder := 0 }

/-- The counts and sizes that are kept, in front of the check of the thumbnail. -/
def countFields (w : CAppMarkerWriter) (e : ExifAttribute) : CAppMarkerWriter :=
  { w with
    n0thIfdFields := e.n0thIfdFields
    szMake := e.maker.strlen
    szSoftware := e.software.strlen
    szModel := e.model.strlen
    nExifIfdFields := e.nExifIfdFields
    szUniqueId := e.uniqueId.strlen
    nGpsIfdFields := if e.enableGps then e.nGpsIfdFields else 0 }

/-- The rest of what is done for the Exif attribute. -/
def measureApp1 (w : CAppMarkerWriter) (e : ExifAttribute) : CAppMarkerWriter :=
  if e.enableThumb then
    { w with
      n1stIfdFields := 6
      thumbBase := w.appBase + jpegMarkerSize + e.appLength
      maxThumbSize := sizeSub jpegMaxSegmentSize e.appLength
      szApp1 := e.appLength % 2 ^ 16 }
  else { w with szApp1 := e.appLength % 2 ^ 16 }

/-- A debug attribute that is refused leaves the one of the last call. -/
def prepareDebug (w : CAppMarkerWriter) (debug : Option DebugAttribute) : CAppMarkerWriter :=
  match debug with
  | none => { w with debug := none }
  | some d => if d.Accepted then { w with debug := some d } else w

def prepareAppWriter (w : CAppMarkerWriter) (base : Nat) (exif : Option ExifAttribute)
    (debug : Option DebugAttribute) : CAppMarkerWriter :=
  let w := w.init base exif
  match exif with
  | none => w.prepareDebug debug
  | some e =>
    let w := w.countFields e
    if e.thumbTooSmall then w else (w.measureApp1 e).prepareDebug debug

/-! ## 2. `WriteAPP1` -/

end CAppMarkerWriter

namespace ExifAttribute

open IfdField

variable (e : ExifAttribute)

/-- The fields of the 0th IFD in front of its subdirectories. -/
def primaryFields (szMake szModel szSoftware : Nat) : List IfdField :=
  [writeShort ExifTag.orientation [e.orientation],
    writeShort ExifTag.ycbcrPositioning [e.ycbcrPositioning],
    writeRational ExifTag.xResolution [e.xResolution],
    writeRational ExifTag.yResolution [e.yResolution],
    writeShort ExifTag.resolutionUnit [e.resolutionUnit]] ++
  (if 0 < szMake then [writeAscii ExifTag.make (szMake + 1) e.maker.chars] else []) ++
  (if 0 < szModel then [writeAscii ExifTag.model (szModel + 1) e.model.chars] else []) ++
  (if 0 < szSoftware then [writeAscii ExifTag.software (szSoftware + 1) e.software.chars] else []) ++
  [writeCString ExifTag.dateTime exifDatetimeLength e.dateTime.chars]

/-- The fields of the Exif IFD in front of the Interoperability IFD. -/
def exifFields (szUniqueId : Nat) : List IfdField :=
  [writeRational ExifTag.exposureTime [e.exposureTime],
    writeRational ExifTag.fnumber [e.fnumber],
    writeShort ExifTag.exposureProgram [e.exposureProgram],
    writeShort ExifTag.isoSpeedRating [e.isoSpeedRating],
    writeUndef ExifTag.exifVersion e.exifVersion.toList,
    writeCString ExifTag.dateTimeOrg exifDatetimeLength e.dateTime.chars,
    writeCString ExifTag.dateTimeDigitize exifDatetimeLength e.dateTime.chars,
    writeSRational ExifTag.shutterSpeed [e.shutterSpeed],
    writeRational ExifTag.aperture [e.aperture],
    writeSRational ExifTag.brightness [e.brightness],
    writeSRational ExifTag.exposureBias [e.exposureBias],
    writeRational ExifTag.maxAperture [e.maxAperture],
    writeShort ExifTag.meteringMode [e.meteringMode],
    writeShort ExifTag.flash [e.flash],
    writeRational ExifTag.focalLength [e.focalLength],
    writeCString ExifTag.subsecTime exifSubsectimeLength e.secTime.chars,
    writeCString ExifTag.subsecTimeOrig exifSubsectimeLength e.secTime.chars,
    writeCString ExifTag.subsecTimeDig exifSubsectimeLength e.secTime.chars] ++
  (if 0 < e.makerNote.size then [writeUndef ExifTag.makerNote e.makerNote.bytes] else []) ++
  (if 0 < e.userComment.size then [writeUndef ExifTag.userComment e.userComment.bytes] else []) ++
  [writeShort ExifTag.colorSpace [e.colorSpace],
    writeLong ExifTag.pixelXDimension [e.width],
    writeLong ExifTag.pixelYDimension [e.height],
    writeShort ExifTag.exposureMode [e.exposureMode],
    writeShort ExifTag.whiteBalance [e.whiteBalance],
    writeShort ExifTag.focalLengthIn35mmFilm [e.focalLengthIn35mmLength],
    writeShort ExifTag.sceneCaptureType [e.sceneCaptureType]] ++
  (if 0 < szUniqueId then [writeAscii ExifTag.imageUniqueId (szUniqueId + 1) e.uniqueId.chars]
    else [])

/-- `"THM"`, `"R98"` and `"0100"`. -/
def interopFields : List IfdField :=
  [writeAscii ExifTag.interoperabilityIndex 4
      (if e.interoperabilityIndex ≠ 0 then [0x54, 0x48, 0x4D, 0] else [0x52, 0x39, 0x38, 0]),
    writeUndef ExifTag.interoperabilityVersion [0x30, 0x31, 0x30, 0x30]]

/-- The processing method with its character code in front, cut to 99 characters. -/
def gpsMethodBytes : List UInt8 :=
  exifAsciiPrefix ++ e.gpsProcessingMethod.chars.take (min e.gpsProcessingMethod.strlen 99) ++ [0]

def gpsFields : List IfdField :=
  [writeByte ExifTag.gpsVersionId e.gpsVersionId.toList,
    writeAscii ExifTag.gpsLatitudeRef 2 e.gpsLatitudeRef.toList,
    writeRational ExifTag.gpsLatitude e.gpsLatitude.toList,
    writeAscii ExifTag.gpsLongitudeRef 2 e.gpsLongitudeRef.toList,
    writeRational ExifTag.gpsLongitude e.gpsLongitude.toList,
    writeByte ExifTag.gpsAltitudeRef [e.gpsAltitudeRef],
    writeRational ExifTag.gpsAltitude [e.gpsAltitude],
    writeCString ExifTag.gpsDatestamp exifGpsdatestampLength e.gpsDatestamp.chars,
    writeRational ExifTag.gpsTimestamp e.gpsTimestamp.toList] ++
  if 0 < e.gpsProcessingMethod.strlen then
    [writeUndef ExifTag.gpsProcessingMethod e.gpsMethodBytes] else []

/-- The fields of the 1st IFD in front of the length of the thumbnail. -/
def thumbFields (offset : UInt32) : List IfdField :=
  [writeLong ExifTag.imageWidth [e.widthThumb],
    writeLong ExifTag.imageHeight [e.heightThumb],
    writeShort ExifTag.compressionScheme [e.compressionScheme],
    writeShort ExifTag.orientation [e.orientation],
    writeLong ExifTag.jpegInterchangeFormat [offset]]

def thumbLengthField (length : UInt32) : IfdField :=
  writeLong ExifTag.jpegInterchangeFormatLen [length]

end ExifAttribute

namespace CAppMarkerWriter

variable (w : CAppMarkerWriter)

def writeInteropIfd (e : ExifAttribute) (tiff p : Nat) (out : Overlay) : CIFDWriter :=
  ((CIFDWriter.new tiff p 2 out).writeAll e.interopFields).finish true

def writeExifIfd (e : ExifAttribute) (tiff p : Nat) (out : Overlay) : CIFDWriter :=
  let exifwriter := (CIFDWriter.new tiff p w.nExifIfdFields out).writeAll (e.exifFields w.szUniqueId)
  let exifwriter := exifwriter.beginSubIfd ExifTag.interoperability
  (exifwriter.endSubIfd (writeInteropIfd e tiff exifwriter.value exifwriter.out)).finish true

def writeGpsIfd (e : ExifAttribute) (tiff p : Nat) (out : Overlay) : CIFDWriter :=
  ((CIFDWriter.new tiff p w.nGpsIfdFields out).writeAll e.gpsFields).finish true

/-- The 0th IFD with its subdirectories, up to its link to the 1st. -/
def writePrimaryIfd (e : ExifAttribute) (tiff p : Nat) (out : Overlay) : CIFDWriter :=
  let writer := (CIFDWriter.new tiff p w.n0thIfdFields out).writeAll
    (e.primaryFields w.szMake w.szModel w.szSoftware)
  let writer := writer.beginSubIfd ExifTag.exifIfdPointer
  let writer := writer.endSubIfd (w.writeExifIfd e tiff writer.value writer.out)
  if e.enableGps then
    let writer := writer.beginSubIfd ExifTag.gpsIfdPointer
    writer.endSubIfd (w.writeGpsIfd e tiff writer.value writer.out)
  else writer

/-- The 1st IFD in front of its end. -/
def writeThumbIfd (e : ExifAttribute) (tiff p : Nat) (out : Overlay) : CIFDWriter :=
  let thumbwriter := CIFDWriter.new tiff p w.n1stIfdFields out
  let offset := UInt32.ofNat (thumbwriter.offset w.thumbBase)
  (thumbwriter.writeAll (e.thumbFields offset)).write (ExifAttribute.thumbLengthField 0)

/-- The marker, the length unless it is an update, and the headers. -/
def writeApp1Header (current : Nat) (reserveThumbnailSpace updating : Bool) (out : Overlay) :
    Overlay :=
  let out := out.put current [0xFF, 0xE1]
  let out :=
    if updating then out
    else out.put (current + 2)
      (be16 (w.szApp1 + if reserveThumbnailSpace then w.maxThumbSize else 0))
  let out := out.put (current + 4) exifIdentifierCode
  out.put (current + 10) tiffHeader

/-- `WriteAPP1`: the writer, the address it returns and what it has stored. -/
def writeApp1 (current : Nat) (reserveThumbnailSpace updating : Bool) (out : Overlay) :
    CAppMarkerWriter × Nat × Overlay :=
  match w.exif with
  | none => (w, current, out)
  | some e =>
    let tiff := current + 10
    let writer := w.writePrimaryIfd e tiff (tiff + 8)
      (w.writeApp1Header current reserveThumbnailSpace updating out)
    if updating then (w, 0, writer.out)
    else if e.enableThumb then
      let writer := writer.finish false
      let thumbwriter := w.writeThumbIfd e tiff writer.value writer.out
      let w' := { w with thumbSizePlaceholder := thumbwriter.ifd - 4 }
      let thumbwriter := thumbwriter.finish true
      (w', ptrAdd thumbwriter.value (if reserveThumbnailSpace then w.maxThumbSize else 0),
        thumbwriter.out)
    else
      let writer := writer.finish true
      (w, writer.value, writer.out)

/-! ## 3. The other segments -/

/-- One turn of the loop of `WriteAPPX`. -/
def writeDebugSegment (debug : DebugAttribute) (justReserve : Bool) (s : Nat × Overlay) (i : Nat) :
    Nat × Overlay :=
  let appid := debug.idx i
  let size := debug.debugSize appid
  let out := s.2.put s.1 [0xFF, 0xE0 + (UInt8.ofNat appid.toNat &&& 0xF)]
  let out := out.put (s.1 + 2) (be16 (size + jpegSegmentLenfieldSize))
  (s.1 + 4 + size, if justReserve then out else out.put (s.1 + 4) (debug.bytes appid))

def writeAppx (current : Nat) (justReserve : Bool) (out : Overlay) : Nat × Overlay :=
  match w.debug with
  | none => (current, out)
  | some debug =>
    (List.range debug.numOfAppmarker.toNat).foldl (writeDebugSegment debug justReserve)
      (current, out)

/-- `len` of `WriteAPP11`, a `uint16_t`. -/
def app11Length (current dummy align : Nat) : Nat :=
  let len := ((current + 4) &&& (align - 1)) % 2 ^ 16
  let len := if len ≠ 0 then (align + 2 ^ 64 - len) % 2 ^ 16 else len
  (len + dummy + jpegSegmentLenfieldSize) % 2 ^ 16

def writeApp11 (current dummy align : Nat) (out : Overlay) : Nat × Overlay :=
  if dummy = 0 ∧ align = 1 then (current, out)
  else if w.exif.isNone ∧ w.debug.isNone then (current, out)
  else
    let len := app11Length current dummy align
    (current + 2 + len, (out.put current [0xFF, 0xEB]).put (current + 2) (be16 len))

/-- `Write`. -/
def write (reserveThumbnailSpace : Bool) (dummy align : Nat) (reserveDebug : Bool)
    (out : Overlay) : CAppMarkerWriter × Overlay :=
  let app1 := w.writeApp1 w.appBase reserveThumbnailSpace false out
  let appx := app1.1.writeAppx app1.2.1 reserveDebug app1.2.2
  let app11 := app1.1.writeApp11 appx.1 dummy align appx.2
  ({ app1.1 with
    app1End := app1.2.1
    szApp11 := sizeSub app11.1 appx.1 % 2 ^ 16
    mainBase := app11.1 - dummy }, app11.2)

def isThumbSpaceReserved : Prop :=
  sizeSub w.app1End w.appBase = (w.szApp1 + w.maxThumbSize + jpegMarkerSize) % 2 ^ 64

instance : Decidable w.isThumbSpaceReserved := inferInstanceAs (Decidable (_ = _))

/-- The sizes of the debug segments with their markers. -/
def debugSegmentsSize (debug : DebugAttribute) : Nat :=
  ((List.range debug.numOfAppmarker.toNat).map fun i =>
    debug.debugSize (debug.idx i) + jpegMarkerSize + jpegSegmentLenfieldSize).sum

/-- The sum that `CalculateAPPSize` computes. -/
def appSizeSum (thumblen : Nat) : Nat :=
  (if 0 < w.szApp1 then w.szApp1 + jpegMarkerSize else 0) +
    (match w.debug with
      | none => 0
      | some debug => debugSegmentsSize debug) +
    (if w.isThumbSpaceReserved then w.maxThumbSize else min w.maxThumbSize thumblen) + w.szApp11

/-- `CalculateAPPSize`, with numbers of type `size_t`. -/
def calculateAppSize (thumblen : Nat) : Nat := w.appSizeSum thumblen % 2 ^ 64

/-- `UpdateApp1Size`. -/
def updateApp1Size (amount : Nat) (out : Overlay) : Overlay :=
  if w.appBase ≠ 0 then out.put (w.appBase + jpegMarkerSize) (be16 (w.szApp1 + amount)) else out

/-- `Finalize`. -/
def finalize (thumbsize : Nat) (out : Overlay) : CAppMarkerWriter × Overlay :=
  if w.thumbSizePlaceholder ≠ 0 then
    ({ w with thumbSizePlaceholder := 0 }, out.put w.thumbSizePlaceholder (le32 thumbsize))
  else (w, out)

end CAppMarkerWriter

end Universal7870.Jpeg
