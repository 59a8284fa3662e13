import Mathlib.Algebra.Group.Nat.Defs
import Mathlib.Data.List.Basic

/-!
# Exif attributes

`exif_attribute_t` of `ExynosExif.h`, with its tags and types.  A string member is what stands in
its array in front of the terminator.
-/

namespace Universal7870.Jpeg

/-- A NUL-terminated string in an array of `size` characters. -/
structure CString (size : Nat) where
  chars : List UInt8
  nonzero : ∀ c ∈ chars, c ≠ 0
  fits : chars.length < size

namespace CString

variable {size : Nat}

def strlen (s : CString size) : Nat := s.chars.length

def empty (h : 0 < size) : CString size where
  chars := []
  nonzero _ hc := nomatch hc
  fits := h

end CString

/-- The bytes behind a pointer, with their number in an `unsigned int`. -/
structure Blob where
  bytes : List UInt8
  size_lt : bytes.length < 2 ^ 32

def Blob.size (b : Blob) : Nat := b.bytes.length

def Blob.empty : Blob := ⟨[], by decide⟩

/-- `rational_t`. -/
structure RationalT where
  num : UInt32
  den : UInt32
  deriving DecidableEq, Repr

/-- `srational_t`. -/
structure SRationalT where
  num : Int32
  den : Int32
  deriving DecidableEq

/-- `exif_attribute_t`. -/
structure ExifAttribute where
  enableGps : Bool
  enableThumb : Bool
  maker : CString 32
  model : CString 32
  software : CString 32
  exifVersion : Vector UInt8 4
  dateTime : CString 20
  secTime : CString 5
  makerNote : Blob
  userComment : Blob
  width : UInt32
  height : UInt32
  widthThumb : UInt32
  heightThumb : UInt32
  orientation : UInt16
  ycbcrPositioning : UInt16
  exposureProgram : UInt16
  isoSpeedRating : UInt16
  meteringMode : UInt16
  flash : UInt16
  colorSpace : UInt16
  interoperabilityIndex : UInt16
  exposureMode : UInt16
  whiteBalance : UInt16
  focalLengthIn35mmLength : UInt16
  sceneCaptureType : UInt16
  uniqueId : CString 30
  exposureTime : RationalT
  fnumber : RationalT
  aperture : RationalT
  maxAperture : RationalT
  focalLength : RationalT
  shutterSpeed : SRationalT
  brightness : SRationalT
  exposureBias : SRationalT
  gpsLatitudeRef : Vector UInt8 2
  gpsLongitudeRef : Vector UInt8 2
  gpsVersionId : Vector UInt8 4
  gpsAltitudeRef : UInt8
  gpsLatitude : Vector RationalT 3
  gpsLongitude : Vector RationalT 3
  gpsAltitude : RationalT
  gpsTimestamp : Vector RationalT 3
  gpsDatestamp : CString 11
  gpsProcessingMethod : CString 100
  xResolution : RationalT
  yResolution : RationalT
  resolutionUnit : UInt16
  compressionScheme : UInt16

/-! ## 1. Tags -/

namespace ExifTag

def imageWidth : Nat := 0x0100
def imageHeight : Nat := 0x0101
def make : Nat := 0x010f
def model : Nat := 0x0110
def orientation : Nat := 0x0112
def software : Nat := 0x0131
def dateTime : Nat := 0x0132
def ycbcrPositioning : Nat := 0x0213
def exifIfdPointer : Nat := 0x8769
def gpsIfdPointer : Nat := 0x8825
def exposureTime : Nat := 0x829A
def fnumber : Nat := 0x829D
def exposureProgram : Nat := 0x8822
def isoSpeedRating : Nat := 0x8827
def exifVersion : Nat := 0x9000
def dateTimeOrg : Nat := 0x9003
def dateTimeDigitize : Nat := 0x9004
def shutterSpeed : Nat := 0x9201
def aperture : Nat := 0x9202
def brightness : Nat := 0x9203
def exposureBias : Nat := 0x9204
def maxAperture : Nat := 0x9205
def meteringMode : Nat := 0x9207
def flash : Nat := 0x9209
def focalLength : Nat := 0x920A
def makerNote : Nat := 0x927C
def userComment : Nat := 0x9286
def subsecTime : Nat := 0x9290
def subsecTimeOrig : Nat := 0x9291
def subsecTimeDig : Nat := 0x9292
def colorSpace : Nat := 0xA001
def pixelXDimension : Nat := 0xA002
def pixelYDimension : Nat := 0xA003
def interoperability : Nat := 0xA005
def exposureMode : Nat := 0xA402
def whiteBalance : Nat := 0xA403
def focalLengthIn35mmFilm : Nat := 0xA405
def sceneCaptureType : Nat := 0xA406
def imageUniqueId : Nat := 0xA420
def interoperabilityIndex : Nat := 0x0001
def interoperabilityVersion : Nat := 0x0002
def gpsVersionId : Nat := 0x0000
def gpsLatitudeRef : Nat := 0x0001
def gpsLatitude : Nat := 0x0002
def gpsLongitudeRef : Nat := 0x0003
def gpsLongitude : Nat := 0x0004
def gpsAltitudeRef : Nat := 0x0005
def gpsAltitude : Nat := 0x0006
def gpsTimestamp : Nat := 0x0007
def gpsProcessingMethod : Nat := 0x001B
def gpsDatestamp : Nat := 0x001D
def compressionScheme : Nat := 0x0103
def xResolution : Nat := 0x011A
def yResolution : Nat := 0x011B
def resolutionUnit : Nat := 0x0128
def jpegInterchangeFormat : Nat := 0x0201
def jpegInterchangeFormatLen : Nat := 0x0202

end ExifTag

/-- The types of `ExynosExif.h` that the writer uses. -/
inductive ExifType
  | byte
  | ascii
  | short
  | long
  | rational
  | undefined
  | srational
  deriving DecidableEq, Repr

def ExifType.code : ExifType → Nat
  | .byte => 1
  | .ascii => 2
  | .short => 3
  | .long => 4
  | .rational => 5
  | .undefined => 7
  | .srational => 10

/-- An attribute with empty strings, no maker note and no comment. -/
def bareExif (enableGps enableThumb : Bool) : ExifAttribute where
  enableGps := enableGps
  enableThumb := enableThumb
  maker := .empty (by decide)
  model := .empty (by decide)
  software := .empty (by decide)
  exifVersion := #v[0x30, 0x32, 0x32, 0x30]
  dateTime := .empty (by decide)
  secTime := .empty (by decide)
  makerNote := .empty
  userComment := .empty
  width := 64
  height := 48
  widthThumb := 16
  heightThumb := 16
  orientation := 1
  ycbcrPositioning := 1
  exposureProgram := 2
  isoSpeedRating := 100
  meteringMode := 0
  flash := 0
  colorSpace := 1
  interoperabilityIndex := 0
  exposureMode := 0
  whiteBalance := 0
  focalLengthIn35mmLength := 0
  sceneCaptureType := 0
  uniqueId := .empty (by decide)
  exposureTime := ⟨1, 100⟩
  fnumber := ⟨19, 10⟩
  aperture := ⟨185, 100⟩
  maxAperture := ⟨185, 100⟩
  focalLength := ⟨37, 10⟩
  shutterSpeed := ⟨6, 1⟩
  brightness := ⟨0, 100⟩
  exposureBias := ⟨0, 10⟩
  gpsLatitudeRef := #v[0x4E, 0]
  gpsLongitudeRef := #v[0x45, 0]
  gpsVersionId := #v[2, 2, 0, 0]
  gpsAltitudeRef := 0
  gpsLatitude := #v[⟨37, 1⟩, ⟨0, 1⟩, ⟨0, 1⟩]
  gpsLongitude := #v[⟨127, 1⟩, ⟨0, 1⟩, ⟨0, 1⟩]
  gpsAltitude := ⟨0, 1⟩
  gpsTimestamp := #v[⟨12, 1⟩, ⟨0, 1⟩, ⟨0, 1⟩]
  gpsDatestamp := .empty (by decide)
  gpsProcessingMethod := .empty (by decide)
  xResolution := ⟨72, 1⟩
  yResolution := ⟨72, 1⟩
  resolutionUnit := 2
  compressionScheme := 6

end Universal7870.Jpeg
