import Universal7870.Lib.Tiff
import Universal7870.Jpeg.ProcessExif

/-!
# Reading the Exif attributes back

What `PrepareAppWriter` and `Write` put into the APP1 segment, as a reader of TIFF structures finds
it.  Each method of `CIFDWriter` stores a field that reads as the value it was given, the pointers
lead to the directories, and no value is outside the segment.
-/

namespace Universal7870.Jpeg

open Lib

/-! ## 1. The attributes as fields -/

def shortField (tag : Nat) (v : UInt16) : Tiff.Field := ⟨tag, .shorts [v.toNat]⟩

def longField (tag : Nat) (v : UInt32) : Tiff.Field := ⟨tag, .longs [v.toNat]⟩

def rationalField (tag : Nat) (vs : List RationalT) : Tiff.Field :=
  ⟨tag, .rationals (vs.map fun r => (r.num.toNat, r.den.toNat))⟩

def srationalField (tag : Nat) (r : SRationalT) : Tiff.Field :=
  ⟨tag, .srationals [(r.num.toInt, r.den.toInt)]⟩

def undefinedField (tag : Nat) (bs : List UInt8) : Tiff.Field := ⟨tag, .undefined bs⟩

/-- A string with its terminator, absent if it is empty. -/
def stringFields {size : Nat} (tag : Nat) (s : CString size) : List Tiff.Field :=
  if 0 < s.strlen then [⟨tag, .ascii (s.chars ++ [0])⟩] else []

/-- The whole array of a string. -/
def arrayField {size : Nat} (tag : Nat) (s : CString size) : Tiff.Field :=
  ⟨tag, .ascii (s.chars ++ List.replicate (size - s.strlen) 0)⟩

def blobFields (tag : Nat) (b : Blob) : List Tiff.Field :=
  if 0 < b.size then [undefinedField tag b.bytes] else []

namespace ExifAttribute

variable (e : ExifAttribute)

def primaryAttributes : List Tiff.Field :=
  [shortField ExifTag.orientation e.orientation,
    shortField ExifTag.ycbcrPositioning e.ycbcrPositioning,
    rationalField ExifTag.xResolution [e.xResolution],
    rationalField ExifTag.yResolution [e.yResolution],
    shortField ExifTag.resolutionUnit e.resolutionUnit] ++
  stringFields ExifTag.make e.maker ++ stringFields ExifTag.model e.model ++
  stringFields ExifTag.software e.software ++ [arrayField ExifTag.dateTime e.dateTime]

def exifAttributes : List Tiff.Field :=
  [rationalField ExifTag.exposureTime [e.exposureTime],
    rationalField ExifTag.fnumber [e.fnumber],
    shortField ExifTag.exposureProgram e.exposureProgram,
    shortField ExifTag.isoSpeedRating e.isoSpeedRating,
    undefinedField ExifTag.exifVersion e.exifVersion.toList,
    arrayField ExifTag.dateTimeOrg e.dateTime,
    arrayField ExifTag.dateTimeDigitize e.dateTime,
    srationalField ExifTag.shutterSpeed e.shutterSpeed,
    rationalField ExifTag.aperture [e.aperture],
    srationalField ExifTag.brightness e.brightness,
    srationalField ExifTag.exposureBias e.exposureBias,
    rationalField ExifTag.maxAperture [e.maxAperture],
    shortField ExifTag.meteringMode e.meteringMode,
    shortField ExifTag.flash e.flash,
    rationalField ExifTag.focalLength [e.focalLength],
    arrayField ExifTag.subsecTime e.secTime,
    arrayField ExifTag.subsecTimeOrig e.secTime,
    arrayField ExifTag.subsecTimeDig e.secTime] ++
  blobFields ExifTag.makerNote e.makerNote ++ blobFields ExifTag.userComment e.userComment ++
  [shortField ExifTag.colorSpace e.colorSpace,
    longField ExifTag.pixelXDimension e.width,
    longField ExifTag.pixelYDimension e.height,
    shortField ExifTag.exposureMode e.exposureMode,
    shortField ExifTag.whiteBalance e.whiteBalance,
    shortField ExifTag.focalLengthIn35mmFilm e.focalLengthIn35mmLength,
    shortField ExifTag.sceneCaptureType e.sceneCaptureType] ++
  stringFields ExifTag.imageUniqueId e.uniqueId

/-- `"THM"` or `"R98"`, and the version. -/
def interopAttributes : List Tiff.Field :=
  [⟨ExifTag.interoperabilityIndex, .ascii
      (if e.interoperabilityIndex ≠ 0 then [0x54, 0x48, 0x4D, 0] else [0x52, 0x39, 0x38, 0])⟩,
    undefinedField ExifTag.interoperabilityVersion [0x30, 0x31, 0x30, 0x30]]

/-- Of the processing method 99 characters are kept, behind their character code. -/
def gpsAttributes : List Tiff.Field :=
  [⟨ExifTag.gpsVersionId, .bytes e.gpsVersionId.toList⟩,
    ⟨ExifTag.gpsLatitudeRef, .ascii [e.gpsLatitudeRef[0], 0]⟩,
    rationalField ExifTag.gpsLatitude e.gpsLatitude.toList,
    ⟨ExifTag.gpsLongitudeRef, .ascii [e.gpsLongitudeRef[0], 0]⟩,
    rationalField ExifTag.gpsLongitude e.gpsLongitude.toList,
    ⟨ExifTag.gpsAltitudeRef, .bytes [e.gpsAltitudeRef]⟩,
    rationalField ExifTag.gpsAltitude [e.gpsAltitude],
    arrayField ExifTag.gpsDatestamp e.gpsDatestamp,
    rationalField ExifTag.gpsTimestamp e.gpsTimestamp.toList] ++
  if 0 < e.gpsProcessingMethod.strlen then
    [undefinedField ExifTag.gpsProcessingMethod
      (exifAsciiPrefix ++ e.gpsProcessingMethod.chars.take 99 ++ [0])]
  else []

/-- A thumbnail of `thumblen` bytes follows what is written of the segment. -/
def thumbAttributes (thumblen : Nat) : List Tiff.Field :=
  [longField ExifTag.imageWidth e.widthThumb,
    longField ExifTag.imageHeight e.heightThumb,
    shortField ExifTag.compressionScheme e.compressionScheme,
    shortField ExifTag.orientation e.orientation,
    ⟨ExifTag.jpegInterchangeFormat, .longs [e.appLength - 8]⟩,
    ⟨ExifTag.jpegInterchangeFormatLen, .longs [thumblen]⟩]

/-- The attribute as an Exif structure, with the length of the thumbnail, 0 as long as there is
none. -/
def attributes (thumblen : Nat) : Tiff.Exif where
  primary := e.primaryAttributes
  exif := some e.exifAttributes
  interop := some e.interopAttributes
  gps := if e.enableGps then some e.gpsAttributes else none
  thumbnail := if e.enableThumb then some (e.thumbAttributes thumblen) else none

end ExifAttribute

/-! ## 2. Single fields -/

section

variable {m : Nat → UInt8} {tiff size : Nat}

theorem word16_of_shows {a n : Nat} (h : Shows m a (stored (le16 n))) (hn : n < 2 ^ 16) :
    Tiff.word16 m a = n :=
  Tiff.word16_of_bytes hn (h 0 _ rfl) (h 1 _ rfl)

theorem word32_of_shows {a n : Nat} (h : Shows m a (stored (le32 n))) (hn : n < 2 ^ 32) :
    Tiff.word32 m a = n :=
  Tiff.word32_of_bytes hn (h 0 _ rfl) (h 1 _ rfl) (h 2 _ rfl) (h 3 _ rfl)

def ExifType.fieldType : ExifType → Tiff.FieldType
  | .byte => .byte
  | .ascii => .ascii
  | .short => .short
  | .long => .long
  | .rational => .rational
  | .undefined => .undefined
  | .srational => .srational

theorem ExifType.code_fieldType (type : ExifType) : type.fieldType.code = type.code := by
  cases type <;> rfl

theorem ExifType.code_lt (type : ExifType) : type.code < 2 ^ 16 := by
  cases type <;> decide

/-- A tag that fits into its word and is none of the pointers. -/
def PlainTag (tag : Nat) : Prop := tag < 2 ^ 16 ∧ tag ∉ Tiff.pointers

instance (tag : Nat) : Decidable (PlainTag tag) := inferInstanceAs (Decidable (_ ∧ _))

namespace IfdField

/-- The data of the field is as long as its type and count say, and it is stored where a reader
looks for it. -/
structure Readable (f : IfdField) : Prop where
  tag : PlainTag f.tag
  count_lt : f.count < 2 ^ 32
  length_data : f.data.length = f.type.fieldType.size * f.count
  atValue_iff : f.atValue = true ↔ 4 < f.data.length

/-- The same without regard to what the tag is for. -/
structure Sized (f : IfdField) : Prop where
  tag_lt : f.tag < 2 ^ 16
  count_lt : f.count < 2 ^ 32
  length_data : f.data.length = f.type.fieldType.size * f.count
  atValue_iff : f.atValue = true ↔ 4 < f.data.length

theorem Readable.sized {f : IfdField} (hf : f.Readable) : f.Sized :=
  ⟨hf.tag.1, hf.count_lt, hf.length_data, hf.atValue_iff⟩

/-- The field as it reads. -/
def field (f : IfdField) : Tiff.Field := ⟨f.tag, .ofBytes f.type.fieldType f.count f.data⟩

theorem readField_entry {f : IfdField} (hf : f.Sized) {p off : Nat}
    (hentry : Shows m (tiff + p) (f.entry off)) (hbehind : Shows m (tiff + off) (stored f.behind))
    (hin : off + f.behind.length ≤ size) (hp : p + 12 ≤ size) (hsize : size < 2 ^ 32) :
    Tiff.readField m tiff size p = some f.field := by
  have hlength := hf.length_data
  unfold entry at hentry
  rw [stored_append, stored_append, shows_append, shows_append, shows_append] at hentry
  obtain ⟨⟨⟨htag, htype⟩, hcount⟩, hvalue⟩ := hentry
  have htag := word16_of_shows htag hf.tag_lt
  have htype := word16_of_shows htype f.type.code_lt
  have hcount := word32_of_shows hcount hf.count_lt
  rw [← ExifType.code_fieldType] at htype
  change Shows m (tiff + p + 8) _ at hvalue
  by_cases hat : f.atValue = true
  · -- the value is behind the table, at the offset that the field holds
    have hlong := hf.atValue_iff.mp hat
    have hdata : f.behind = f.data := if_pos hat
    rw [hdata] at hbehind hin
    rw [if_pos hat] at hvalue
    have hoff := word32_of_shows hvalue (by omega)
    refine Tiff.readField_of htag htype hcount hlength ?_ (fun k hk => hbehind.byte hk) hin
    rw [if_neg (by omega), hoff]
  · have hshort : f.data.length ≤ 4 := Nat.not_lt.mp fun h => hat (hf.atValue_iff.mpr h)
    rw [if_neg hat, shows_append] at hvalue
    refine Tiff.readField_of htag htype hcount hlength (if_pos (by omega)).symm
      (fun k hk => ?_) (by omega)
    rw [← Nat.add_assoc tiff p 8]
    exact hvalue.1.byte hk

end IfdField

theorem readFields_table {fields : List IfdField} (hf : ∀ f ∈ fields, f.Readable) {p off : Nat}
    (htable : Shows m (tiff + p) (table off fields))
    (hvalues : Shows m (tiff + off) (stored (values fields)))
    (hin : off + (values fields).length ≤ size) (hp : p + 12 * fields.length ≤ size)
    (hsize : size < 2 ^ 16) :
    Tiff.readFields m tiff size p fields.length = some (fields.map IfdField.field) := by
  induction fields generalizing p off with
  | nil => rfl
  | cons f fs ih =>
    unfold table at htable
    rw [shows_append, f.length_entry] at htable
    rw [show values (f :: fs) = f.behind ++ values fs from rfl, stored_append, shows_append,
      length_stored] at hvalues
    rw [length_values_cons] at hin
    rw [List.length_cons] at hp
    have hfirst : Tiff.readField m tiff size p = some f.field :=
      IfdField.readField_entry (hf f List.mem_cons_self).sized htable.1 hvalues.1 (by omega)
        (by omega) (by omega)
    have htail : Shows m (tiff + (p + 12)) (table (off + f.behind.length) fs) := by
      rw [← Nat.add_assoc]
      exact htable.2
    have hbehind : Shows m (tiff + (off + f.behind.length)) (stored (values fs)) := by
      rw [← Nat.add_assoc]
      exact hvalues.2
    have hrest := ih (fun g hg => hf g (List.mem_cons_of_mem f hg)) htail hbehind (by omega)
      (by omega)
    rw [List.length_cons]
    unfold Tiff.readFields
    rw [hfirst, Option.bind_some, hrest]
    rfl

/-- A pointer reads as the offset in it. -/
theorem readField_subIfdEntry {tag off p : Nat} (htag : tag < 2 ^ 16) (hoff : off < 2 ^ 32)
    (h : Shows m (tiff + p) (subIfdEntry tag off)) (hp : p + 12 ≤ size) :
    Tiff.readField m tiff size p = some ⟨tag, .longs [off]⟩ := by
  unfold subIfdEntry at h
  rw [stored_append, stored_append, stored_append, shows_append, shows_append, shows_append] at h
  obtain ⟨⟨⟨hshowTag, htype⟩, hcount⟩, hvalue⟩ := h
  have hread := Tiff.readField_of (word16_of_shows hshowTag htag)
    (word16_of_shows htype ExifType.long.code_lt : _ = Tiff.FieldType.long.code)
    (word32_of_shows hcount (by decide)) (length_le32 off) (if_pos (Nat.le_refl 4)).symm
    (fun k hk => by
      rw [← Nat.add_assoc tiff p 8]
      exact hvalue.byte hk)
    (by rw [length_le32]; omega : p + 8 + (le32 off).length ≤ size)
  rw [hread]
  have hword : Tiff.word32 (fun k => (le32 off).getD k 0) 0 = off :=
    Tiff.word32_of_bytes hoff rfl rfl rfl rfl
  change some (Tiff.Field.mk tag (.longs [Tiff.word32 (fun k => (le32 off).getD k 0) 0])) = _
  rw [hword]

end

/-! ## 3. What the methods store -/

namespace IfdField

theorem field_writeShort (tag : Nat) (v : UInt16) :
    (writeShort tag [v]).field = shortField tag v := by
  have hword : Tiff.word16 (fun k => (le16 v.toNat).getD k 0) 0 = v.toNat :=
    Tiff.word16_of_bytes v.toNat_lt rfl rfl
  change Tiff.Field.mk tag (.shorts [Tiff.word16 (fun k => (le16 v.toNat).getD k 0) 0]) = _
  rw [hword]
  rfl

theorem field_writeLong (tag : Nat) (v : UInt32) : (writeLong tag [v]).field = longField tag v := by
  have hword : Tiff.word32 (fun k => (le32 v.toNat).getD k 0) 0 = v.toNat :=
    Tiff.word32_of_bytes v.toNat_lt rfl rfl rfl rfl
  change Tiff.Field.mk tag (.longs [Tiff.word32 (fun k => (le32 v.toNat).getD k 0) 0]) = _
  rw [hword]
  rfl

theorem field_writeRational (tag : Nat) (vs : List RationalT) :
    (writeRational tag vs).field = rationalField tag vs := by
  have hvalues := Tiff.map_range_flatMap (f := rationalBytes) (n := 8) (fun _ => rfl)
    (fun m k => (Tiff.word32 m k, Tiff.word32 m (k + 4))) (fun r => (r.num.toNat, r.den.toNat))
    (fun r m k h => Prod.ext
      (Tiff.word32_of_bytes r.num.toNat_lt (h 0 (by decide)) (h 1 (by decide)) (h 2 (by decide))
        (h 3 (by decide)))
      (Tiff.word32_of_bytes r.den.toNat_lt (h 4 (by decide)) (h 5 (by decide)) (h 6 (by decide))
        (h 7 (by decide)))) vs
  exact congrArg (fun rs => Tiff.Field.mk tag (.rationals rs)) hvalues

theorem signed32_toUInt32 (v : Int32) : Tiff.signed32 v.toUInt32.toNat = v.toInt := by
  unfold Tiff.signed32
  have htoInt : v.toInt = v.toBitVec.toInt := rfl
  rw [htoInt, BitVec.toInt_eq_toNat_cond]
  change (if v.toBitVec.toNat < 2 ^ 31 then _ else _) = _
  split <;> split <;> first | rfl | omega

theorem field_writeSRational (tag : Nat) (r : SRationalT) :
    (writeSRational tag [r]).field = srationalField tag r := by
  have hnum : Tiff.word32 (fun k => (srationalBytes r).getD k 0) 0 = r.num.toUInt32.toNat :=
    Tiff.word32_of_bytes r.num.toUInt32.toNat_lt rfl rfl rfl rfl
  have hden : Tiff.word32 (fun k => (srationalBytes r).getD k 0) 4 = r.den.toUInt32.toNat :=
    Tiff.word32_of_bytes r.den.toUInt32.toNat_lt rfl rfl rfl rfl
  change Tiff.Field.mk tag (.srationals
    [(Tiff.signed32 (Tiff.word32 (fun k => (srationalBytes r).getD k 0) 0),
      Tiff.signed32 (Tiff.word32 (fun k => (srationalBytes r).getD k 0) 4))]) = _
  rw [hnum, hden, signed32_toUInt32, signed32_toUInt32]
  rfl

theorem data_writeAscii {count : Nat} {value : List UInt8} (tag : Nat) (hpos : 0 < count)
    (hle : count - 1 ≤ value.length) :
    (writeAscii tag count value).data = value.take (count - 1) ++ [0] := by
  change (value.take (count - 1) ++ [0]).take count = _
  refine List.take_of_length_le ?_
  rw [List.length_append, List.length_take, List.length_singleton]
  omega

theorem data_writeCString {count : Nat} {string : List UInt8} (tag : Nat)
    (h : string.length < count) :
    (writeCString tag count string).data =
      string ++ List.replicate (count - string.length) 0 := by
  change (string.take (count - 1) ++ List.replicate count 0).take count = _
  have hwhole : string.take (count - 1) = string := List.take_of_length_le (by omega)
  rw [hwhole, List.take_append, List.take_of_length_le (Nat.le_of_lt h), List.take_replicate,
    Nat.min_eq_left (Nat.sub_le _ _)]

/-! A field of each method is readable. -/

variable {tag : Nat} (htag : PlainTag tag)
include htag

theorem readable_writeShort (v : UInt16) : (writeShort tag [v]).Readable where
  tag := htag
  count_lt := (by decide : 1 < 2 ^ 32)
  length_data := rfl
  atValue_iff := iff_of_false Bool.false_ne_true (by decide : ¬4 < 2)

theorem readable_writeLong (v : UInt32) : (writeLong tag [v]).Readable where
  tag := htag
  count_lt := (by decide : 1 < 2 ^ 32)
  length_data := rfl
  atValue_iff := iff_of_false Bool.false_ne_true (by decide : ¬4 < 4)

theorem readable_writeRational {vs : List RationalT} (hpos : 0 < vs.length)
    (hlt : vs.length < 2 ^ 32) : (writeRational tag vs).Readable where
  tag := htag
  count_lt := hlt
  length_data := length_flatMap_const (f := rationalBytes) (fun _ => rfl) vs
  atValue_iff := by
    have hlength : (writeRational tag vs).data.length = 8 * vs.length :=
      length_flatMap_const (f := rationalBytes) (fun _ => rfl) vs
    refine iff_of_true rfl ?_
    rw [hlength]
    omega

theorem readable_rational (r : RationalT) : (writeRational tag [r]).Readable :=
  readable_writeRational htag (by decide : 0 < 1) (by decide : 1 < 2 ^ 32)

theorem readable_writeSRational (r : SRationalT) : (writeSRational tag [r]).Readable where
  tag := htag
  count_lt := (by decide : 1 < 2 ^ 32)
  length_data := rfl
  atValue_iff := iff_of_true rfl (by decide : 4 < 8)

theorem readable_writeByte {bs : List UInt8} (hlt : bs.length < 2 ^ 32) :
    (writeByte tag bs).Readable where
  tag := htag
  count_lt := hlt
  length_data := (Nat.one_mul _).symm
  atValue_iff := decide_eq_true_iff

theorem readable_writeUndef {bs : List UInt8} (hlt : bs.length < 2 ^ 32) :
    (writeUndef tag bs).Readable where
  tag := htag
  count_lt := hlt
  length_data := (Nat.one_mul _).symm
  atValue_iff := decide_eq_true_iff

theorem readable_writeAscii {count : Nat} {value : List UInt8} (hpos : 0 < count)
    (hle : count - 1 ≤ value.length) (hlt : count < 2 ^ 32) :
    (writeAscii tag count value).Readable := by
  have hlength : (writeAscii tag count value).data.length = count := by
    rw [data_writeAscii tag hpos hle, List.length_append, List.length_take, List.length_singleton]
    omega
  refine ⟨htag, hlt, hlength.trans (Nat.one_mul count).symm, ?_⟩
  rw [hlength]
  exact decide_eq_true_iff

theorem readable_writeCString {count : Nat} {string : List UInt8} (h : string.length < count)
    (hlt : count < 2 ^ 32) : (writeCString tag count string).Readable := by
  have hlength : (writeCString tag count string).data.length = count := by
    rw [data_writeCString tag h, List.length_append, List.length_replicate]
    omega
  refine ⟨htag, hlt, hlength.trans (Nat.one_mul count).symm, ?_⟩
  rw [hlength]
  exact decide_eq_true_iff

end IfdField

/-! ## 4. The fields of the attribute -/

section

open IfdField

theorem forall_mem_optional {c : Prop} [Decidable c] {f : IfdField} {P : IfdField → Prop} :
    (∀ g ∈ (if c then [f] else []), P g) ↔ (c → P f) := by
  by_cases hc : c
  · rw [if_pos hc, List.forall_mem_singleton]
    exact ⟨fun h _ => h, fun h => h hc⟩
  · rw [if_neg hc]
    exact iff_of_true (List.forall_mem_nil P) (absurd · hc)

variable {size : Nat}

theorem readable_string {tag : Nat} (htag : PlainTag tag) (s : CString size)
    (hsize : size < 2 ^ 32) : (writeAscii tag (s.strlen + 1) s.chars).Readable := by
  have hfits : s.strlen < size := s.fits
  exact readable_writeAscii htag (Nat.succ_pos _) (Nat.le_refl _) (by omega)

theorem map_string (tag : Nat) (s : CString size) :
    ((if 0 < s.strlen then [writeAscii tag (s.strlen + 1) s.chars] else []).map field) =
      stringFields tag s := by
  have hfield : (writeAscii tag (s.strlen + 1) s.chars).field = ⟨tag, .ascii (s.chars ++ [0])⟩ := by
    change Tiff.Field.mk tag (.ascii (writeAscii tag (s.strlen + 1) s.chars).data) = _
    have hdata := data_writeAscii tag (Nat.succ_pos s.strlen) (Nat.le_refl s.chars.length)
    rw [Nat.succ_sub_one, show s.strlen = s.chars.length from rfl, List.take_length] at hdata
    rw [show s.strlen = s.chars.length from rfl, hdata]
  unfold stringFields
  split
  · rw [List.map_singleton, hfield]
  · rfl

theorem readable_array {tag : Nat} (htag : PlainTag tag) (s : CString size)
    (hsize : size < 2 ^ 32) : (writeCString tag size s.chars).Readable :=
  readable_writeCString htag s.fits hsize

theorem field_array (tag : Nat) (s : CString size) :
    (writeCString tag size s.chars).field = arrayField tag s := by
  change Tiff.Field.mk tag (.ascii (writeCString tag size s.chars).data) = _
  rw [data_writeCString tag s.fits]
  rfl

theorem map_blob (tag : Nat) (b : Blob) :
    ((if 0 < b.size then [writeUndef tag b.bytes] else []).map field) = blobFields tag b := by
  unfold blobFields
  split <;> rfl

theorem field_ref (tag : Nat) (r : Vector UInt8 2) :
    (writeAscii tag 2 r.toList).field = ⟨tag, .ascii [r[0], 0]⟩ := by
  obtain ⟨⟨bs⟩, hlength⟩ := r
  match bs, hlength with
  | [_, _], _ => rfl

end

namespace ExifAttribute

open IfdField

variable (e : ExifAttribute)

theorem readable_headFields : ∀ f ∈ e.headFields, f.Readable := by
  unfold headFields primaryFields
  simp only [List.forall_mem_append, List.forall_mem_cons, List.not_mem_nil, false_implies,
    implies_true, forall_mem_optional, and_true, and_assoc]
  exact ⟨readable_writeShort (by decide) _, readable_writeShort (by decide) _,
    readable_rational (by decide) _, readable_rational (by decide) _, readable_writeShort (by decide) _,
    fun _ => readable_string (by decide) _ (by decide),
    fun _ => readable_string (by decide) _ (by decide),
    fun _ => readable_string (by decide) _ (by decide), readable_array (by decide) _ (by decide)⟩

theorem map_headFields : e.headFields.map field = e.primaryAttributes := by
  unfold headFields primaryFields primaryAttributes
  simp only [List.map_append, List.map_cons, List.map_nil, field_writeShort, field_writeRational,
    map_string]
  rw [show (writeCString ExifTag.dateTime exifDatetimeLength e.dateTime.chars).field =
    arrayField ExifTag.dateTime e.dateTime from field_array ExifTag.dateTime e.dateTime]

theorem readable_exifFields : ∀ f ∈ e.exifFields e.uniqueId.strlen, f.Readable := by
  have hdate {tag : Nat} (htag : PlainTag tag) :
      (writeCString tag exifDatetimeLength e.dateTime.chars).Readable :=
    readable_array htag e.dateTime (by decide)
  have hsec {tag : Nat} (htag : PlainTag tag) :
      (writeCString tag exifSubsectimeLength e.secTime.chars).Readable :=
    readable_array htag e.secTime (by decide)
  unfold exifFields
  simp only [List.forall_mem_append, List.forall_mem_cons, List.not_mem_nil, false_implies,
    implies_true, forall_mem_optional, and_true, and_assoc]
  exact ⟨readable_rational (by decide) _, readable_rational (by decide) _,
    readable_writeShort (by decide) _,
    readable_writeShort (by decide) _,
    readable_writeUndef (by decide) (by rw [Vector.length_toList]; decide),
    hdate (by decide), hdate (by decide), readable_writeSRational (by decide) _,
    readable_rational (by decide) _, readable_writeSRational (by decide) _,
    readable_writeSRational (by decide) _, readable_rational (by decide) _,
    readable_writeShort (by decide) _, readable_writeShort (by decide) _, readable_rational (by decide) _,
    hsec (by decide), hsec (by decide), hsec (by decide),
    fun _ => readable_writeUndef (by decide) e.makerNote.size_lt,
    fun _ => readable_writeUndef (by decide) e.userComment.size_lt,
    readable_writeShort (by decide) _, readable_writeLong (by decide) _,
    readable_writeLong (by decide) _, readable_writeShort (by decide) _,
    readable_writeShort (by decide) _, readable_writeShort (by decide) _,
    readable_writeShort (by decide) _, fun _ => readable_string (by decide) _ (by decide)⟩

theorem map_exifFields : (e.exifFields e.uniqueId.strlen).map field = e.exifAttributes := by
  have hdate (tag : Nat) : (writeCString tag exifDatetimeLength e.dateTime.chars).field =
      arrayField tag e.dateTime := field_array tag e.dateTime
  have hsec (tag : Nat) : (writeCString tag exifSubsectimeLength e.secTime.chars).field =
      arrayField tag e.secTime := field_array tag e.secTime
  unfold exifFields exifAttributes
  simp only [List.map_append, List.map_cons, List.map_nil, field_writeShort, field_writeLong,
    field_writeRational, field_writeSRational, map_string, map_blob, hdate, hsec]
  rfl

theorem readable_interopFields : ∀ f ∈ e.interopFields, f.Readable := by
  unfold interopFields
  simp only [List.forall_mem_cons, List.not_mem_nil, false_implies, implies_true, and_true]
  refine ⟨readable_writeAscii (by decide) (by decide) ?_ (by decide),
    readable_writeUndef (by decide) (by decide)⟩
  split <;> exact Nat.le_succ 3

theorem map_interopFields : e.interopFields.map field = e.interopAttributes := by
  unfold interopFields interopAttributes
  rw [List.map_cons, List.map_singleton]
  split <;> rfl

theorem readable_gpsFields : ∀ f ∈ e.gpsFields, f.Readable := by
  have htriple {tag : Nat} (htag : PlainTag tag) (vs : Vector RationalT 3) :
      (writeRational tag vs.toList).Readable :=
    readable_writeRational htag (by rw [Vector.length_toList]; decide)
      (by rw [Vector.length_toList]; decide)
  have href {tag : Nat} (htag : PlainTag tag) (r : Vector UInt8 2) :
      (writeAscii tag 2 r.toList).Readable :=
    readable_writeAscii htag (by decide) (by rw [Vector.length_toList]; decide) (by decide)
  have hmethod : e.gpsMethodBytes.length < 2 ^ 32 := by
    rw [length_gpsMethodBytes]
    change min e.gpsProcessingMethod.strlen 99 + 8 + 1 < 2 ^ 32
    omega
  unfold gpsFields
  simp only [List.forall_mem_append, List.forall_mem_cons, List.not_mem_nil, false_implies,
    implies_true, forall_mem_optional, and_true, and_assoc]
  exact ⟨readable_writeByte (by decide) (by rw [Vector.length_toList]; decide),
    href (by decide) _, htriple (by decide) _, href (by decide) _, htriple (by decide) _,
    readable_writeByte (by decide) (by decide : 1 < 2 ^ 32),
    readable_rational (by decide) _,
    readable_array (by decide) e.gpsDatestamp (by decide), htriple (by decide) _,
    fun _ => readable_writeUndef (by decide) hmethod⟩

theorem map_gpsFields : e.gpsFields.map field = e.gpsAttributes := by
  have hmethod : e.gpsMethodBytes =
      exifAsciiPrefix ++ e.gpsProcessingMethod.chars.take 99 ++ [0] := by
    unfold gpsMethodBytes CString.strlen
    rw [List.take_eq_take_min, Nat.min_assoc, Nat.min_comm 99, ← Nat.min_assoc, Nat.min_self,
      Nat.min_comm, ← List.take_eq_take_min]
  have hdate : (writeCString ExifTag.gpsDatestamp exifGpsdatestampLength e.gpsDatestamp.chars).field =
      arrayField ExifTag.gpsDatestamp e.gpsDatestamp := field_array _ e.gpsDatestamp
  unfold gpsFields gpsAttributes
  simp only [List.map_append, List.map_cons, List.map_nil, field_writeRational, field_ref, hdate]
  rw [← hmethod]
  congr 1
  split <;> rfl

theorem readable_thumbFields (offset thumblen : UInt32) :
    ∀ f ∈ e.thumbFields offset ++ [thumbLengthField thumblen], f.Readable := by
  unfold thumbFields thumbLengthField
  simp only [List.forall_mem_append, List.forall_mem_cons, List.not_mem_nil, false_implies,
    implies_true, and_true, and_assoc]
  exact ⟨readable_writeLong (by decide) _, readable_writeLong (by decide) _,
    readable_writeShort (by decide) _, readable_writeShort (by decide) _,
    readable_writeLong (by decide) _, readable_writeLong (by decide) _⟩

theorem map_thumbFields (offset thumblen : UInt32) (h : offset.toNat = e.appLength - 8) :
    (e.thumbFields offset ++ [thumbLengthField thumblen]).map field =
      e.thumbAttributes thumblen.toNat := by
  unfold thumbFields thumbLengthField thumbAttributes
  simp only [List.map_append, List.map_cons, List.map_nil, field_writeShort, field_writeLong]
  rw [← h]
  rfl

end ExifAttribute

/-! ## 5. The directories -/

section

open ExifAttribute IfdField

variable {m : Nat → UInt8} {tiff size off n next : Nat} {tbl behind : Cells}

theorem length_ifdCells (htbl : tbl.length = 12 * n) :
    (ifdCells n tbl (stored (le32 next)) behind).length = 6 + 12 * n + behind.length := by
  unfold ifdCells
  simp only [List.length_append, length_stored, length_le16, length_le32, htbl]
  omega

/-- The parts of a directory that is shown. -/
theorem shows_ifd (htbl : tbl.length = 12 * n)
    (h : Shows m (tiff + off) (ifdCells n tbl (stored (le32 next)) behind)) :
    Shows m (tiff + off) (stored (le16 n)) ∧ Shows m (tiff + (off + 2)) tbl ∧
      Shows m (tiff + off + 2 + 12 * n) (stored (le32 next)) ∧
      Shows m (tiff + behindTable off n) behind := by
  unfold ifdCells at h
  simp only [shows_append, List.length_append, length_stored, length_le16, length_le32, htbl] at h
  obtain ⟨⟨⟨hcount, htable⟩, hnext⟩, hbehind⟩ := h
  refine ⟨hcount, htable, ?_, ?_⟩
  · rw [Nat.add_assoc (tiff + off)]
    exact hnext
  · unfold behindTable
    rw [show tiff + (off + (6 + 12 * n)) = tiff + off + (2 + 12 * n + 4) by omega]
    exact hbehind

theorem readDirectory_ifd (htbl : tbl.length = 12 * n)
    (h : Shows m (tiff + off) (ifdCells n tbl (stored (le32 next)) behind)) (hnext : next < 2 ^ 32)
    (hin : off + (6 + 12 * n) ≤ size) (hsize : size < 2 ^ 16) {fields : List Tiff.Field}
    (hfields : Tiff.readFields m tiff size (off + 2) n = some fields) :
    Tiff.readDirectory m tiff size off = some ⟨fields, next⟩ := by
  obtain ⟨hcount, -, hlink, -⟩ := shows_ifd htbl h
  exact Tiff.readDirectory_of (word16_of_shows hcount (by omega)) hfields
    (word32_of_shows hlink hnext) hin

theorem readDirectory_leafIfd {fields : List IfdField} (hf : ∀ f ∈ fields, f.Readable)
    (h : Shows m (tiff + off) (leafIfd off fields))
    (hin : off + (leafIfd off fields).length ≤ size) (hsize : size < 2 ^ 16) :
    Tiff.readDirectory m tiff size off = some ⟨fields.map field, 0⟩ := by
  rw [length_leafIfd] at hin
  have htbl := length_table (behindTable off fields.length) fields
  obtain ⟨-, htable, -, hvalues⟩ := shows_ifd htbl h
  have hfields := readFields_table hf htable hvalues (by unfold behindTable; omega)
    (by omega : off + 2 + 12 * fields.length ≤ size) hsize
  exact readDirectory_ifd htbl h (by decide) (by omega) hsize hfields

/-- The Exif IFD ends in a pointer to the Interoperability IFD. -/
theorem readDirectory_exifIfd {e : ExifAttribute} (h : Shows m (tiff + off) (e.exifIfdCells off))
    (hin : off + (e.exifIfdCells off).length ≤ size) (hsize : size < 2 ^ 16) :
    Tiff.readDirectory m tiff size off = some
      ⟨e.exifAttributes ++ [⟨ExifTag.interoperability, .longs [e.interopOffset off]⟩], 0⟩ ∧
    Tiff.readDirectory m tiff size (e.interopOffset off) = some ⟨e.interopAttributes, 0⟩ := by
  let fields := e.exifFields e.uniqueId.strlen
  have htable : (table (behindTable off fields.length.succ) fields).length = 12 * fields.length :=
    length_table _ fields
  have htbl : (table (behindTable off fields.length.succ) fields ++
      subIfdEntry ExifTag.interoperability (e.interopOffset off)).length =
      12 * fields.length.succ := by
    rw [List.length_append, htable, length_subIfdEntry]
    rfl
  have hlength : (e.exifIfdCells off).length = 6 + 12 * fields.length.succ +
      ((values fields).length + (leafIfd (e.interopOffset off) e.interopFields).length) := by
    rw [← length_stored (values fields), ← List.length_append]
    exact length_ifdCells htbl
  have hinterop : e.interopOffset off = off + (6 + 12 * fields.length.succ) +
      (values fields).length := rfl
  rw [hlength] at hin
  obtain ⟨-, hshowTable, -, hbehind⟩ := shows_ifd htbl h
  rw [shows_append, htable] at hshowTable
  rw [shows_append, length_stored, Nat.add_assoc] at hbehind
  have htableIn : off + 2 + 12 * fields.length + 12 ≤ size := by omega
  have hvaluesIn : behindTable off fields.length.succ + (values fields).length ≤ size := by
    unfold behindTable
    omega
  have hleafIn : e.interopOffset off +
      (leafIfd (e.interopOffset off) e.interopFields).length ≤ size := by omega
  have hfields := readFields_table e.readable_exifFields hshowTable.1 hbehind.1 hvaluesIn
    (by omega : off + 2 + 12 * fields.length ≤ size) hsize
  have hshowPointer : Shows m (tiff + (off + 2 + 12 * fields.length))
      (subIfdEntry ExifTag.interoperability (e.interopOffset off)) := by
    rw [← Nat.add_assoc]
    exact hshowTable.2
  have hpointer := readField_subIfdEntry (by decide) (by omega) hshowPointer htableIn
  have hleaf := readDirectory_leafIfd e.readable_interopFields hbehind.2 hleafIn hsize
  rw [map_exifFields] at hfields
  rw [map_interopFields] at hleaf
  exact ⟨readDirectory_ifd htbl h (by decide) (by omega) hsize
    (Tiff.readFields_append hfields (Tiff.readFields_singleton hpointer)), hleaf⟩

/-- The pointers of the 0th IFD. -/
def primaryPointers (e : ExifAttribute) : List Tiff.Field :=
  ⟨ExifTag.exifIfdPointer, .longs [e.exifOffset]⟩ ::
    if e.enableGps then [⟨ExifTag.gpsIfdPointer, .longs [e.gpsOffset]⟩] else []

/-- What the 0th IFD and its subdirectories need of the structure. -/
theorem primary_le {e : ExifAttribute}
    (hin : 8 + (e.primaryCells (stored (le32 next))).length ≤ size) :
    8 + (6 + 12 * e.primaryCount) ≤ size ∧
      behindTable 8 e.primaryCount + (values e.headFields).length ≤ size ∧
      e.exifOffset + (e.exifIfdCells e.exifOffset).length ≤ size ∧
      (e.enableGps = true → e.gpsOffset + (leafIfd e.gpsOffset e.gpsFields).length ≤ size) := by
  have hexif : e.exifOffset = 8 + (6 + 12 * e.primaryCount) + (values e.headFields).length := rfl
  have hgps : e.gpsOffset = e.exifOffset + (e.exifIfdCells e.exifOffset).length := rfl
  have hbehind : e.primaryBehind.length = (values e.headFields).length +
      (e.exifIfdCells e.exifOffset).length +
      (if e.enableGps = true then leafIfd e.gpsOffset e.gpsFields else []).length := by
    unfold primaryBehind
    rw [List.length_append, List.length_append, length_stored]
  rw [e.length_primaryCells (length_stored _)] at hin
  unfold behindTable
  refine ⟨by omega, by omega, by omega, fun henable => ?_⟩
  rw [if_pos henable] at hbehind
  omega

theorem readDirectory_primary {e : ExifAttribute}
    (h : Shows m (tiff + 8) (e.primaryCells (stored (le32 next)))) (hnext : next < 2 ^ 32)
    (hin : 8 + (e.primaryCells (stored (le32 next))).length ≤ size) (hsize : size < 2 ^ 16) :
    Tiff.readDirectory m tiff size 8 =
      some ⟨e.primaryAttributes ++ primaryPointers e, next⟩ := by
  obtain ⟨hcountIn, hvaluesIn, hexifIn, hgpsIn⟩ := primary_le hin
  have hcount : e.primaryCount = e.headFields.length + (1 + if e.enableGps = true then 1 else 0) :=
    Nat.add_assoc _ _ _
  have htable : (table (behindTable 8 e.primaryCount) e.headFields).length =
      12 * e.headFields.length := length_table _ _
  obtain ⟨-, hshowTable, -, hbehind⟩ := shows_ifd e.length_primaryTable h
  unfold primaryTable at hshowTable
  unfold primaryBehind at hbehind
  rw [shows_append, shows_append, List.length_append, htable, length_subIfdEntry] at hshowTable
  rw [shows_append, shows_append] at hbehind
  obtain ⟨⟨hhead, hexif⟩, hgps⟩ := hshowTable
  have hfields := readFields_table e.readable_headFields hhead hbehind.1.1 hvaluesIn
    (by omega) hsize
  have hshowExif : Shows m (tiff + (8 + 2 + 12 * e.headFields.length))
      (subIfdEntry ExifTag.exifIfdPointer e.exifOffset) := by
    rw [← Nat.add_assoc]
    exact hexif
  have hexifPointer := readField_subIfdEntry (by decide) (by omega) hshowExif
    (by omega : 8 + 2 + 12 * e.headFields.length + 12 ≤ size)
  have hlast : Tiff.readFields m tiff size (8 + 2 + 12 * e.headFields.length + 12 * 1)
      (if e.enableGps = true then 1 else 0) =
      some (if e.enableGps = true then [⟨ExifTag.gpsIfdPointer, .longs [e.gpsOffset]⟩] else []) := by
    by_cases henable : e.enableGps = true
    · have hgpsLe := hgpsIn henable
      rw [if_pos henable] at hgps hcount
      have hshowGps : Shows m (tiff + (8 + 2 + 12 * e.headFields.length + 12 * 1))
          (subIfdEntry ExifTag.gpsIfdPointer e.gpsOffset) := by
        rw [Nat.add_assoc (8 + 2), ← Nat.add_assoc tiff]
        exact hgps
      have hgpsPointer := readField_subIfdEntry (by decide) (by omega) hshowGps
        (by omega : 8 + 2 + 12 * e.headFields.length + 12 * 1 + 12 ≤ size)
      rw [if_pos henable, if_pos henable]
      exact Tiff.readFields_singleton hgpsPointer
    · rw [if_neg henable, if_neg henable]
      rfl
  rw [map_headFields] at hfields
  refine readDirectory_ifd e.length_primaryTable h hnext hcountIn hsize ?_
  rw [hcount]
  exact Tiff.readFields_append hfields
    (Tiff.readFields_append (Tiff.readFields_singleton hexifPointer) hlast)

/-- The directories that the pointers lead to. -/
theorem readDirectory_subdirectories {e : ExifAttribute}
    (h : Shows m (tiff + 8) (e.primaryCells (stored (le32 next))))
    (hin : 8 + (e.primaryCells (stored (le32 next))).length ≤ size) (hsize : size < 2 ^ 16) :
    Tiff.readDirectory m tiff size e.exifOffset = some ⟨e.exifAttributes ++
        [⟨ExifTag.interoperability, .longs [e.interopOffset e.exifOffset]⟩], 0⟩ ∧
      Tiff.readDirectory m tiff size (e.interopOffset e.exifOffset) =
        some ⟨e.interopAttributes, 0⟩ ∧
      (e.enableGps = true →
        Tiff.readDirectory m tiff size e.gpsOffset = some ⟨e.gpsAttributes, 0⟩) := by
  obtain ⟨-, -, hexifIn, hgpsIn⟩ := primary_le hin
  obtain ⟨-, -, -, hbehind⟩ := shows_ifd e.length_primaryTable h
  unfold primaryBehind at hbehind
  rw [shows_append, shows_append, List.length_append, length_stored] at hbehind
  obtain ⟨⟨-, hexif⟩, hgps⟩ := hbehind
  rw [Nat.add_assoc] at hexif
  obtain ⟨hread, hinterop⟩ := readDirectory_exifIfd hexif hexifIn hsize
  refine ⟨hread, hinterop, fun henable => ?_⟩
  rw [if_pos henable, Nat.add_assoc tiff, ← Nat.add_assoc (behindTable _ _)] at hgps
  have hleaf := readDirectory_leafIfd e.readable_gpsFields hgps (hgpsIn henable) hsize
  rw [map_gpsFields] at hleaf
  exact hleaf

end

/-! ## 6. The segment -/

section

open ExifAttribute IfdField

variable {m : Nat → UInt8} {e : ExifAttribute}

theorem plain_of_readable {fields : List IfdField} (h : ∀ f ∈ fields, f.Readable) :
    ∀ g ∈ fields.map field, g.tag ∉ Tiff.pointers := by
  intro g hg
  obtain ⟨f, hf, rfl⟩ := List.mem_map.mp hg
  exact (h f hf).tag.2

theorem attributes_leaf {fields : List IfdField} (h : ∀ f ∈ fields, f.Readable) (next : Nat) :
    (Tiff.Directory.mk (fields.map field) next).attributes = fields.map field :=
  Tiff.Directory.attributes_of_plain (plain_of_readable h)

/-- Behind fields that are readable, a pointer is found. -/
theorem pointer_append {fields : List IfdField} (h : ∀ f ∈ fields, f.Readable) {tag : Nat}
    (htag : tag ∈ Tiff.pointers) (ys : List Tiff.Field) (next : Nat) :
    (Tiff.Directory.mk (fields.map field ++ ys) next).pointer tag =
      (Tiff.Directory.mk ys next).pointer tag :=
  Tiff.Directory.pointer_append fun f hf heq => plain_of_readable h f hf (heq ▸ htag)

theorem readExif_primary {tiff size next : Nat} {thumbnail : Option Tiff.Directory}
    (horder : Tiff.word16 m tiff = 0x4949) (hmagic : Tiff.word16 m (tiff + 2) = 42)
    (hoff : Tiff.word32 m (tiff + 4) = 8)
    (h : Shows m (tiff + 8) (e.primaryCells (stored (le32 next)))) (hnext : next < 2 ^ 32)
    (hin : 8 + (e.primaryCells (stored (le32 next))).length ≤ size) (hsize : size < 2 ^ 16)
    (hthumbnail : Tiff.follow m tiff size (if next = 0 then none else some next) = some thumbnail)
    (hlast : ∀ d ∈ thumbnail, d.next = 0) :
    Tiff.readExif m tiff size = some ⟨e.primaryAttributes, some e.exifAttributes,
      some e.interopAttributes, if e.enableGps then some e.gpsAttributes else none,
      thumbnail.map (·.attributes)⟩ := by
  obtain ⟨hexif, hinterop, hgps⟩ := readDirectory_subdirectories h hin hsize
  have hprimary := readDirectory_primary h hnext hin hsize
  have hpointers : ∀ f ∈ primaryPointers e, f.tag ∈ Tiff.pointers := by
    unfold primaryPointers
    rw [List.forall_mem_cons]
    refine ⟨(by decide : ExifTag.exifIfdPointer ∈ Tiff.pointers), ?_⟩
    split
    · rw [List.forall_mem_singleton]
      exact (by decide : ExifTag.gpsIfdPointer ∈ Tiff.pointers)
    · exact List.forall_mem_nil _
  have hgpsPointer : (Tiff.Directory.mk (e.primaryAttributes ++ primaryPointers e) next).pointer
      Tiff.gpsPointer = if e.enableGps then some e.gpsOffset else none := by
    rw [← map_headFields, pointer_append e.readable_headFields (by decide)]
    unfold primaryPointers
    split <;> rfl
  have hexifPointer : (Tiff.Directory.mk (e.primaryAttributes ++ primaryPointers e) next).pointer
      Tiff.exifPointer = some e.exifOffset := by
    rw [← map_headFields, pointer_append e.readable_headFields (by decide)]
    rfl
  have hinteropPointer : (Tiff.Directory.mk (e.exifAttributes ++
      [⟨ExifTag.interoperability, .longs [e.interopOffset e.exifOffset]⟩]) 0).pointer
      Tiff.interopPointer = some (e.interopOffset e.exifOffset) := by
    rw [← map_exifFields, pointer_append e.readable_exifFields (by decide)]
    rfl
  have hgpsDirectory : Tiff.follow m tiff size (if e.enableGps then some e.gpsOffset else none) =
      some (if e.enableGps then some ⟨e.gpsAttributes, 0⟩ else none) := by
    by_cases henable : e.enableGps = true
    · rw [if_pos henable, if_pos henable]
      exact Tiff.follow_some (hgps henable)
    · rw [if_neg henable, if_neg henable]
      rfl
  have hread := Tiff.readExif_of (by omega) horder hmagic hoff hprimary
    (by rw [hexifPointer]; exact Tiff.follow_some hexif)
    (by rw [Option.bind_some, hinteropPointer]; exact Tiff.follow_some hinterop)
    (by rw [hgpsPointer]; exact hgpsDirectory) rfl hthumbnail hlast
  rw [hread, ← map_headFields, ← map_exifFields, ← map_interopFields, ← map_gpsFields,
    Tiff.Directory.attributes_append (plain_of_readable e.readable_headFields) hpointers,
    Option.map_some, Option.map_some,
    Tiff.Directory.attributes_append (plain_of_readable e.readable_exifFields) (by
      rw [List.forall_mem_singleton]
      exact (by decide : ExifTag.interoperability ∈ Tiff.pointers)),
    attributes_leaf e.readable_interopFields]
  by_cases henable : e.enableGps = true
  · rw [if_pos henable, if_pos henable, Option.map_some, attributes_leaf e.readable_gpsFields]
  · rw [if_neg henable, if_neg henable]
    rfl

/-- The head of the segment: its identifier, its length and the header of the structure. -/
theorem readHead {a length : Nat} (h : Shows m a (app1Head (stored (be16 length))))
    (hlt : length < 2 ^ 16) :
    (m a = 0xFF ∧ m (a + 1) = 0xE1 ∧ Tiff.readBytes m (a + 4) 6 = Tiff.exifIdentifier) ∧
      2 ^ 8 * (m (a + 2)).toNat + (m (a + 3)).toNat = length ∧
      Tiff.word16 m (a + 10) = 0x4949 ∧ Tiff.word16 m (a + 10 + 2) = 42 ∧
      Tiff.word32 m (a + 10 + 4) = 8 := by
  unfold app1Head at h
  rw [shows_append, shows_append] at h
  obtain ⟨⟨hmarker, hlength⟩, hheaders⟩ := h
  refine ⟨⟨hmarker 0 _ rfl, hmarker 1 _ rfl, ?_⟩, ?_, ?_, ?_, ?_⟩
  · rw [stored_append, shows_append] at hheaders
    have hread : Tiff.readBytes m (a + 4) exifIdentifierCode.length = exifIdentifierCode :=
      Tiff.readBytes_eq fun k hk => hheaders.1.byte hk
    exact hread
  · have hhigh : m (a + 2) = UInt8.ofNat (length / 2 ^ 8) := hlength 0 _ rfl
    have hlow : m (a + 3) = UInt8.ofNat length := hlength 1 _ rfl
    rw [hhigh, hlow, UInt8.toNat_ofNat', UInt8.toNat_ofNat']
    omega
  · exact Tiff.word16_of_bytes (by decide) (hheaders 6 _ rfl) (hheaders 7 _ rfl)
  · exact Tiff.word16_of_bytes (by decide) (hheaders 8 _ rfl) (hheaders 9 _ rfl)
  · exact Tiff.word32_of_bytes (by decide) (hheaders 10 _ rfl) (hheaders 11 _ rfl)
      (hheaders 12 _ rfl) (hheaders 13 _ rfl)

/-- The segment with the length of the thumbnail. -/
def ExifAttribute.finishedApp1Cells (e : ExifAttribute) (length : Nat) (offset thumblen : UInt32) :
    Cells :=
  app1Head (stored (be16 length)) ++
    if e.enableThumb then
      e.primaryCells (stored (le32 e.thumbOffset)) ++
        leafIfd e.thumbOffset (e.thumbFields offset ++ [thumbLengthField thumblen])
    else e.primaryCells (stored (le32 0))

theorem length_thumbDirectory (e : ExifAttribute) (offset thumblen : UInt32) :
    (leafIfd e.thumbOffset (e.thumbFields offset ++ [thumbLengthField thumblen])).length = 78 := by
  rw [length_leafIfd]
  rfl

theorem length_finishedApp1Cells (e : ExifAttribute) (length : Nat) (offset thumblen : UInt32) :
    (e.finishedApp1Cells length offset thumblen).length = jpegMarkerSize + e.appLength := by
  have hfirst := e.length_app1Cells length offset
  unfold app1Cells at hfirst
  unfold finishedApp1Cells
  by_cases henable : e.enableThumb = true
  · rw [if_pos henable, List.length_append, List.length_append, length_thumbIfdCells] at hfirst
    rw [if_pos henable, List.length_append, List.length_append, length_thumbDirectory]
    exact hfirst
  · rw [if_neg henable] at hfirst ⊢
    exact hfirst

/-- The segment reads as the attribute. -/
theorem readApp1_finishedApp1Cells {a length : Nat} {offset thumblen : UInt32}
    (h : Shows m a (e.finishedApp1Cells length offset thumblen))
    (hoffset : e.enableThumb = true → offset.toNat = e.appLength - 8)
    (hlength : e.appLength ≤ length) (hlt : length < 2 ^ 16) :
    Tiff.readApp1 m a = some (e.attributes thumblen.toNat) := by
  have htotal := length_finishedApp1Cells e length offset thumblen
  have hhead : (app1Head (stored (be16 length))).length = 18 := length_app1Head rfl
  have hthumbLength := length_thumbDirectory e offset thumblen
  unfold finishedApp1Cells at h htotal
  rw [shows_append, hhead] at h
  rw [List.length_append, hhead] at htotal
  unfold jpegMarkerSize at htotal
  obtain ⟨hshowHead, hshow⟩ := h
  obtain ⟨hmarker, hlen, horder, hmagic, hoff⟩ := readHead hshowHead hlt
  unfold Tiff.readApp1
  rw [if_pos hmarker, hlen]
  by_cases henable : e.enableThumb = true
  · have hthumbOffset : e.thumbOffset = 8 + (e.primaryCells (stored (le32 e.thumbOffset))).length := by
      rw [e.length_primaryCells (length_stored _)]
      unfold thumbOffset behindTable
      omega
    rw [if_pos henable, shows_append] at hshow
    rw [if_pos henable, List.length_append, hthumbLength] at htotal
    have hthumb : Shows m (a + 10 + e.thumbOffset) (leafIfd e.thumbOffset
        (e.thumbFields offset ++ [thumbLengthField thumblen])) := by
      rw [show a + 10 + e.thumbOffset =
        a + 18 + (e.primaryCells (stored (le32 e.thumbOffset))).length by omega]
      exact hshow.2
    have hdirectory := readDirectory_leafIfd (e.readable_thumbFields offset thumblen) hthumb
      (by rw [hthumbLength]; omega : _ ≤ length - 8) (by omega)
    have hread := readExif_primary horder hmagic hoff hshow.1 (by omega) (by omega)
      (by omega : length - 8 < 2 ^ 16)
      (by rw [if_neg (by omega)]; exact Tiff.follow_some hdirectory) (fun d hd => by
        rw [← Option.some.inj hd])
    rw [hread, Option.map_some, attributes_leaf (e.readable_thumbFields offset thumblen),
      e.map_thumbFields offset thumblen (hoffset henable)]
    unfold attributes
    rw [if_pos henable]
  · rw [if_neg henable] at hshow htotal
    have hread := readExif_primary horder hmagic hoff hshow (by decide) (by omega)
      (by omega : length - 8 < 2 ^ 16) rfl (fun d hd => nomatch hd)
    rw [hread]
    unfold attributes
    rw [if_neg henable]
    rfl

end

/-! ## 7. `PrepareAppWriter` and `Write` -/

section

open ExifAttribute

variable {e : ExifAttribute}

/-- The thumbnail begins where the structure ends. -/
theorem thumbStreamOffset_eq {w : CAppMarkerWriter} {base : Nat}
    (hbase : w.thumbBase = base + jpegMarkerSize + e.appLength) (hpos : 8 ≤ e.appLength)
    (hlt : e.appLength < 2 ^ 16) : (w.thumbStreamOffset base).toNat = e.appLength - 8 := by
  unfold CAppMarkerWriter.thumbStreamOffset sizeSub
  unfold jpegMarkerSize at hbase
  rw [UInt32.toNat_ofNat', hbase]
  omega

/-- The segments behind the first one leave it as it is. -/
theorem shows_write {w : CAppMarkerWriter} (h : w.Measured e) {reserve : Bool}
    (hroom : w.thumbSpace reserve < 2 ^ 63) (dummy align : Nat) (reserveDebug : Bool) (out : Overlay)
    (mem : Nat → UInt8) :
    Shows ((w.write reserve dummy align reserveDebug out).2.onto mem) w.appBase
      (e.app1Cells (w.szApp1 + if reserve then w.maxThumbSize else 0)
        (if e.enableThumb then w.thumbStreamOffset w.appBase else 0)) := by
  have happ1 := w.writeApp1_eq h.prepared hroom out
  have hend : (w.writeApp1 w.appBase reserve false out).2.1 =
      w.appBase + (w.app1Block reserve).length := congrArg Prod.fst happ1
  have hout : (w.writeApp1 w.appBase reserve false out).2.2 =
      out.lay w.appBase (w.app1Block reserve) := congrArg Prod.snd happ1
  have hcell : ∀ i, w.appBase ≤ i → i < w.appBase + (w.app1Block reserve).length →
      (w.write reserve dummy align reserveDebug out).2 i =
        out.lay w.appBase (w.app1Block reserve) i := by
    intro i _ hi
    rw [← hend] at hi
    have happx := writeAppx_of_lt (w.writeApp1 w.appBase reserve false out).1 hi reserveDebug
      (w.writeApp1 w.appBase reserve false out).2.2
    unfold CAppMarkerWriter.write
    dsimp only
    rw [writeApp11_of_lt _ happx.2, happx.1, hout]
  have hblock := shows_onto (m := mem) hcell
  unfold CAppMarkerWriter.app1Block at hblock
  rw [h.counted.exif_eq] at hblock
  exact (shows_append.mp hblock).1

theorem terminated_short (tag : Nat) (v : UInt16) : (shortField tag v).value.Terminated := trivial

theorem terminated_long (tag : Nat) (v : UInt32) : (longField tag v).value.Terminated := trivial

theorem terminated_rational (tag : Nat) (vs : List RationalT) :
    (rationalField tag vs).value.Terminated := trivial

theorem terminated_srational (tag : Nat) (r : SRationalT) :
    (srationalField tag r).value.Terminated := trivial

theorem terminated_undefined (tag : Nat) (bs : List UInt8) :
    (undefinedField tag bs).value.Terminated := trivial

theorem terminated_array {size : Nat} (tag : Nat) (s : CString size) :
    (arrayField tag s).value.Terminated := by
  have hfits : s.strlen < size := s.fits
  change (s.chars ++ List.replicate (size - s.strlen) 0).getLast? = some 0
  rw [List.getLast?_append, List.getLast?_replicate, if_neg (by omega)]
  rfl

theorem terminated_string {size : Nat} (tag : Nat) (s : CString size) :
    ∀ f ∈ stringFields tag s, f.value.Terminated := by
  intro f hf
  unfold stringFields at hf
  split at hf
  · rw [List.mem_singleton.mp hf]
    exact List.getLast?_concat
  · exact absurd hf List.not_mem_nil

theorem terminated_blob (tag : Nat) (b : Blob) :
    ∀ f ∈ blobFields tag b, f.value.Terminated := by
  intro f hf
  unfold blobFields at hf
  split at hf
  · rw [List.mem_singleton.mp hf]
    exact trivial
  · exact absurd hf List.not_mem_nil

theorem terminated_primaryAttributes (e : ExifAttribute) :
    ∀ f ∈ e.primaryAttributes, f.value.Terminated := by
  unfold primaryAttributes
  simp only [List.forall_mem_append, List.forall_mem_cons, List.not_mem_nil, false_implies,
    implies_true, and_true, true_and, and_assoc, terminated_short, terminated_rational,
    terminated_array]
  exact ⟨terminated_string _ _, terminated_string _ _, terminated_string _ _⟩

theorem terminated_exifAttributes (e : ExifAttribute) :
    ∀ f ∈ e.exifAttributes, f.value.Terminated := by
  unfold exifAttributes
  simp only [List.forall_mem_append, List.forall_mem_cons, List.not_mem_nil, false_implies,
    implies_true, and_true, true_and, and_assoc, terminated_short, terminated_long,
    terminated_rational, terminated_srational, terminated_undefined, terminated_array]
  exact ⟨terminated_blob _ _, terminated_blob _ _, terminated_string _ _⟩

theorem terminated_interopAttributes (e : ExifAttribute) :
    ∀ f ∈ e.interopAttributes, f.value.Terminated := by
  unfold interopAttributes
  rw [List.forall_mem_cons, List.forall_mem_singleton]
  refine ⟨?_, trivial⟩
  split <;> rfl

theorem terminated_gpsAttributes (e : ExifAttribute) :
    ∀ f ∈ e.gpsAttributes, f.value.Terminated := by
  unfold gpsAttributes
  simp only [List.forall_mem_append, List.forall_mem_cons, List.not_mem_nil, false_implies,
    implies_true, and_true, true_and, and_assoc, terminated_rational, terminated_array]
  refine ⟨trivial, rfl, rfl, trivial, fun f hf => ?_⟩
  split at hf
  · rw [List.mem_singleton.mp hf]
    exact trivial
  · exact absurd hf List.not_mem_nil

theorem terminated_thumbAttributes (e : ExifAttribute) (thumblen : Nat) :
    ∀ f ∈ e.thumbAttributes thumblen, f.value.Terminated := by
  unfold thumbAttributes
  simp only [List.forall_mem_cons, List.not_mem_nil, false_implies, implies_true, and_true,
    true_and, terminated_long, terminated_short]
  exact ⟨trivial, trivial⟩

/-- No characters are stored without their terminator. -/
theorem terminated_attributes (e : ExifAttribute) (thumblen : Nat) :
    ∀ f ∈ (e.attributes thumblen).fields, f.value.Terminated := by
  have hoptional {c : Bool} {fs : List Tiff.Field} (h : ∀ f ∈ fs, f.value.Terminated) :
      ∀ f ∈ (if c then some fs else none).getD [], f.value.Terminated := by
    cases c with
    | true => exact h
    | false => exact List.forall_mem_nil _
  unfold Tiff.Exif.fields attributes
  simp only [List.forall_mem_append]
  exact ⟨⟨⟨⟨terminated_primaryAttributes e, terminated_exifAttributes e⟩,
    terminated_interopAttributes e⟩, hoptional (terminated_gpsAttributes e)⟩,
    hoptional (terminated_thumbAttributes e thumblen)⟩

/-- The segment that `PrepareAppWriter` and `Write` make of an attribute reads as the attribute,
whatever else they write and whatever the memory held. -/
theorem readApp1_write (w : CAppMarkerWriter) (base : Nat) (e : ExifAttribute)
    (debug : Option DebugAttribute) (reserve : Bool) (dummy align : Nat) (reserveDebug : Bool)
    (out : Overlay) (mem : Nat → UInt8) (h : ¬e.thumbTooSmall) (hlen : e.appLength ≤ 65435) :
    Tiff.readApp1 (((w.prepareAppWriter base (some e) debug).write reserve dummy align reserveDebug
      out).2.onto mem) base = some (e.attributes 0) ∧
    ∀ f ∈ (e.attributes 0).fields, f.value.Terminated := by
  refine ⟨?_, terminated_attributes e 0⟩
  have hmeasured := CAppMarkerWriter.measured_prepareAppWriter w base debug h
  have hmax : reserve = true → e.enableThumb = true → e.appLength ≤ jpegMaxSegmentSize :=
    fun _ _ => hlen
  obtain ⟨hlength, hlt⟩ := app1Length_eq hmeasured (by omega) hmax
  have hshow := shows_write hmeasured (thumbSpace_lt hmeasured hmax) dummy align reserveDebug out mem
  have hpos : 8 ≤ e.appLength := by
    have hheaders : exifIdentifierCode.length + tiffHeader.length = 14 := rfl
    unfold appLength appLengthNoThumb
    omega
  rw [appBase_prepareAppWriter, hlength] at hshow
  refine @readApp1_finishedApp1Cells _ _ _ _ _ 0 hshow (fun henable => ?_) (Nat.le_add_right _ _) hlt
  rw [if_pos henable]
  have hplace := thumbBase_prepareAppWriter_some w base debug h
  rw [if_pos henable] at hplace
  exact thumbStreamOffset_eq hplace hpos (by omega)

theorem readApp1_write_bareExif :
    Tiff.readApp1 (((newEncoder.appWriter.prepareAppWriter 0x10002 (some (bareExif true true))
      none).write true jpegMarkerSize 16 false Overlay.empty).2.onto fun _ => 0) 0x10002 =
        some ((bareExif true true).attributes 0) ∧
    ∀ f ∈ ((bareExif true true).attributes 0).fields, f.value.Terminated :=
  readApp1_write newEncoder.appWriter 0x10002 (bareExif true true) none true jpegMarkerSize 16 false
    Overlay.empty (fun _ => 0) (by decide) (by decide)

end

end Universal7870.Jpeg
