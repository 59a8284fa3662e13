import Universal7870.Jpeg.AppMarkerWriter

/-!
# The layout of the APP1 segment

What `WriteAPP1` stores through its cursors is one block of cells.  The block is put together here
from the attribute alone; `writePrimaryIfd_wrote` and `writeApp1_eq` connect it to the writer, and
`length_app1Cells` to the size that `PrepareAppWriter` computes.
-/

namespace Universal7870.Jpeg

open Lib

/-! ## 1. Directories as blocks -/

/-- A directory with `n` fields, some of them pointers, and what stands behind its table. -/
def ifdCells (n : Nat) (fields next behind : Cells) : Cells :=
  stored (le16 n) ++ fields ++ next ++ behind

/-- The offset behind the table of a directory at the offset `off`. -/
def behindTable (off n : Nat) : Nat := off + (6 + 12 * n)

/-- A directory without pointers, the last one of its chain. -/
def leafIfd (off : Nat) (fields : List IfdField) : Cells :=
  ifdCells fields.length (table (behindTable off fields.length) fields) (stored (le32 0))
    (stored (values fields))

theorem length_leafIfd (off : Nat) (fields : List IfdField) :
    (leafIfd off fields).length = 6 + 12 * fields.length + (values fields).length := by
  unfold leafIfd ifdCells
  simp only [List.length_append, length_stored, length_table, length_le16, length_le32]
  unfold ifdFieldSize
  omega

namespace ExifAttribute

variable (e : ExifAttribute)

/-- The offset of the Interoperability IFD. -/
def interopOffset (off : Nat) : Nat :=
  behindTable off (e.exifFields e.uniqueId.strlen).length.succ +
    (values (e.exifFields e.uniqueId.strlen)).length

/-- The Exif IFD at the offset `off`. -/
def exifIfdCells (off : Nat) : Cells :=
  let fields := e.exifFields e.uniqueId.strlen
  ifdCells fields.length.succ
    (table (behindTable off fields.length.succ) fields ++
      subIfdEntry ExifTag.interoperability (e.interopOffset off))
    (stored (le32 0))
    (stored (values fields) ++ leafIfd (e.interopOffset off) e.interopFields)

/-- The fields of the 0th IFD in front of its pointers. -/
def headFields : List IfdField :=
  e.primaryFields e.maker.strlen e.model.strlen e.software.strlen

def primaryCount : Nat := e.headFields.length + 1 + if e.enableGps then 1 else 0

/-- The offset of the Exif IFD, where the 0th IFD is at the offset 8. -/
def exifOffset : Nat := behindTable 8 e.primaryCount + (values e.headFields).length

def gpsOffset : Nat := e.exifOffset + (e.exifIfdCells e.exifOffset).length

/-- The fields of the 0th IFD. -/
def primaryTable : Cells :=
  table (behindTable 8 e.primaryCount) e.headFields ++
    subIfdEntry ExifTag.exifIfdPointer e.exifOffset ++
    if e.enableGps then subIfdEntry ExifTag.gpsIfdPointer e.gpsOffset else []

/-- What stands behind the table of the 0th IFD. -/
def primaryBehind : Cells :=
  stored (values e.headFields) ++ e.exifIfdCells e.exifOffset ++
    if e.enableGps then leafIfd e.gpsOffset e.gpsFields else []

/-- The offset of the 1st IFD. -/
def thumbOffset : Nat := behindTable 8 e.primaryCount + e.primaryBehind.length

end ExifAttribute

/-! ## 2. Writers that are done -/

/-- The writer of a directory at `p` has put down `cells` and is behind them. -/
structure CIFDWriter.Closed (w : CIFDWriter) (o : Overlay) (p : Nat) (cells : Cells) : Prop where
  value_eq : w.value = p + cells.length
  out_eq : w.out = o.lay p cells

namespace CIFDWriter.Wrote

variable {w : CIFDWriter} {o : Overlay} {base p n : Nat} {fields behind : Cells}

theorem closed (h : w.Wrote o base p n (stored (le16 n) ++ fields) behind) (hbase : base ≤ p)
    (hfields : fields.length = ifdFieldSize * n) (last : Bool) :
    (w.finish last).Closed o p (ifdCells n fields
      (stored (le32 (if last then 0 else behindTable (p - base) n + behind.length))) behind) where
  value_eq := by
    change w.value = _
    rw [h.value_eq]
    unfold ifdCells
    simp only [List.length_append, length_stored, hfields, length_le16, length_le32]
    unfold ifdFieldSize
    omega
  out_eq := by
    apply h.finish hbase last
    rw [List.length_append, length_stored, length_le16, hfields]
    unfold ifdFieldSize ifdNextifdoffsetSize
    omega

end CIFDWriter.Wrote

/-- A directory without pointers. -/
theorem leafIfd_closed {tiff p : Nat} (htiff : tiff ≤ p) (fields : List IfdField)
    (out : Overlay) :
    (((CIFDWriter.new tiff p fields.length out).writeAll fields).finish true).Closed out p
      (leafIfd (p - tiff) fields) := by
  have hnew := CIFDWriter.Wrote.new tiff p fields.length out
  have hall := hnew.writeAll htiff fields (by
    rw [length_stored, length_le16]
    unfold ifdFieldSize
    omega)
  exact hall.closed htiff (length_table _ fields) true

namespace CAppMarkerWriter

/-- The writer has counted the fields of the attribute. -/
structure Counted (w : CAppMarkerWriter) (e : ExifAttribute) : Prop where
  exif_eq : w.exif = some e
  szMake_eq : w.szMake = e.maker.strlen
  szModel_eq : w.szModel = e.model.strlen
  szSoftware_eq : w.szSoftware = e.software.strlen
  szUniqueId_eq : w.szUniqueId = e.uniqueId.strlen
  n0th_eq : w.n0thIfdFields = e.n0thIfdFields
  nExif_eq : w.nExifIfdFields = e.nExifIfdFields
  nGps_eq : e.enableGps = true → w.nGpsIfdFields = e.nGpsIfdFields

end CAppMarkerWriter

/-! ## 3. The counts of `PrepareAppWriter` -/

section

variable (e : ExifAttribute)

theorem length_optional {c : Prop} [Decidable c] (f : IfdField) :
    (if c then [f] else []).length = if c then 1 else 0 := by
  split <;> rfl

theorem n0thIfdFields_eq : e.n0thIfdFields = e.primaryCount := by
  unfold ExifAttribute.n0thIfdFields ExifAttribute.primaryCount ExifAttribute.headFields
    ExifAttribute.primaryFields optionalField
  simp only [List.length_append, List.length_cons, List.length_nil, length_optional]
  omega

theorem nExifIfdFields_eq : e.nExifIfdFields = (e.exifFields e.uniqueId.strlen).length.succ := by
  unfold ExifAttribute.nExifIfdFields ExifAttribute.exifFields optionalField
  simp only [List.length_append, List.length_cons, List.length_nil, length_optional]
  omega

theorem gpsMethodLength_pos : 0 < e.gpsMethodLength ↔ 0 < e.gpsProcessingMethod.strlen := by
  unfold ExifAttribute.gpsMethodLength
  change 0 < min _ 99 ↔ _
  omega

theorem nGpsIfdFields_eq : e.nGpsIfdFields = e.gpsFields.length := by
  unfold ExifAttribute.nGpsIfdFields ExifAttribute.gpsFields optionalField
  simp only [List.length_append, List.length_cons, List.length_nil, length_optional,
    gpsMethodLength_pos]

end

/-! ## 4. The writer writes the layout -/

section

variable {w : CAppMarkerWriter} {e : ExifAttribute}

/-- A subdirectory is written where the values end, and its pointer says so. -/
theorem CIFDWriter.Wrote.addDirectory {v : CIFDWriter} {o : Overlay} {base p n : Nat}
    {fields behind : Cells} (h : v.Wrote o base p n (stored (le16 n) ++ fields) behind)
    (hbase : base ≤ p) (hroom : fields.length + ifdFieldSize ≤ ifdFieldSize * n) (tag : Nat)
    (writeSub : Nat → Overlay → CIFDWriter) (cells : Nat → Cells)
    (hsub : ∀ q o, base ≤ q → (writeSub q o).Closed o q (cells (q - base))) :
    ((v.beginSubIfd tag).endSubIfd
        (writeSub (v.beginSubIfd tag).value (v.beginSubIfd tag).out)).Wrote o base p n
      (stored (le16 n) ++ (fields ++
        subIfdEntry tag (behindTable (p - base) n + behind.length)))
      (behind ++ cells (behindTable (p - base) n + behind.length)) := by
  have hbegin := h.beginSubIfd hbase tag (by
    rw [List.length_append, length_stored, length_le16]
    unfold ifdFieldSize at hroom ⊢
    omega)
  have hvalue : (v.beginSubIfd tag).value = p + (6 + 12 * n) + behind.length := h.value_eq
  have hclosed := hsub (v.beginSubIfd tag).value (v.beginSubIfd tag).out (by omega)
  have hoff : (v.beginSubIfd tag).value - base = behindTable (p - base) n + behind.length := by
    rw [hvalue]
    unfold behindTable
    omega
  rw [List.append_assoc] at hbegin
  rw [hoff] at hclosed
  exact hbegin.endSubIfd hclosed.value_eq hclosed.out_eq

theorem wrote_fields {tiff p n : Nat} (htiff : tiff ≤ p) (fields : List IfdField)
    (hn : fields.length ≤ n) (out : Overlay) :
    ((CIFDWriter.new tiff p n out).writeAll fields).Wrote out tiff p n
      (stored (le16 n) ++ table (behindTable (p - tiff) n) fields) (stored (values fields)) := by
  have hnew := CIFDWriter.Wrote.new tiff p n out
  exact hnew.writeAll htiff fields (by
    rw [length_stored, length_le16]
    unfold ifdFieldSize
    omega)

theorem writeInteropIfd_closed {tiff p : Nat} (htiff : tiff ≤ p) (out : Overlay) :
    (CAppMarkerWriter.writeInteropIfd e tiff p out).Closed out p
      (leafIfd (p - tiff) e.interopFields) :=
  leafIfd_closed htiff e.interopFields out

theorem writeExifIfd_closed (h : w.Counted e) {tiff p : Nat} (htiff : tiff ≤ p) (out : Overlay) :
    (w.writeExifIfd e tiff p out).Closed out p (e.exifIfdCells (p - tiff)) := by
  have hfields := wrote_fields htiff (e.exifFields e.uniqueId.strlen)
    (Nat.le_succ (e.exifFields e.uniqueId.strlen).length) out
  have hadd := hfields.addDirectory htiff (by
    rw [length_table]
    unfold ifdFieldSize
    omega) ExifTag.interoperability (CAppMarkerWriter.writeInteropIfd e tiff)
    (fun k => leafIfd k e.interopFields) (fun q o hq => writeInteropIfd_closed hq o)
  rw [length_stored] at hadd
  unfold CAppMarkerWriter.writeExifIfd
  rw [h.nExif_eq, nExifIfdFields_eq, h.szUniqueId_eq]
  exact hadd.closed htiff (by
    rw [List.length_append, length_table, length_subIfdEntry]
    unfold ifdFieldSize
    omega) true

theorem writeGpsIfd_closed (h : w.Counted e) (hgps : e.enableGps = true) {tiff p : Nat}
    (htiff : tiff ≤ p) (out : Overlay) :
    (w.writeGpsIfd e tiff p out).Closed out p (leafIfd (p - tiff) e.gpsFields) := by
  unfold CAppMarkerWriter.writeGpsIfd
  rw [h.nGps_eq hgps, nGpsIfdFields_eq]
  exact leafIfd_closed htiff e.gpsFields out

/-- The 0th IFD and its subdirectories, up to the link to the 1st IFD. -/
theorem writePrimaryIfd_wrote (h : w.Counted e) (tiff : Nat) (out : Overlay) :
    (w.writePrimaryIfd e tiff (tiff + 8) out).Wrote out tiff (tiff + 8) e.primaryCount
      (stored (le16 e.primaryCount) ++ e.primaryTable) e.primaryBehind := by
  have htiff : tiff ≤ tiff + 8 := Nat.le_add_right _ _
  have hcount : e.primaryCount = e.headFields.length + 1 + if e.enableGps then 1 else 0 := rfl
  have hfields := wrote_fields htiff e.headFields
    (by omega : e.headFields.length ≤ e.primaryCount) out
  have hexif := hfields.addDirectory htiff (by
    rw [length_table]
    unfold ifdFieldSize
    omega) ExifTag.exifIfdPointer (w.writeExifIfd e tiff) e.exifIfdCells
    (fun q o hq => writeExifIfd_closed h hq o)
  rw [length_stored, Nat.add_sub_cancel_left] at hexif
  have hhead : e.primaryFields w.szMake w.szModel w.szSoftware = e.headFields := by
    rw [h.szMake_eq, h.szModel_eq, h.szSoftware_eq]
    rfl
  unfold CAppMarkerWriter.writePrimaryIfd ExifAttribute.primaryTable ExifAttribute.primaryBehind
  rw [h.n0th_eq, n0thIfdFields_eq, hhead]
  by_cases hgps : e.enableGps = true
  · have hadd := hexif.addDirectory htiff (by
      rw [if_pos hgps] at hcount
      rw [List.length_append, length_table, length_subIfdEntry]
      unfold ifdFieldSize
      omega) ExifTag.gpsIfdPointer (w.writeGpsIfd e tiff)
      (fun k => leafIfd k e.gpsFields) (fun q o hq => writeGpsIfd_closed h hgps hq o)
    rw [List.length_append, length_stored, Nat.add_sub_cancel_left, ← Nat.add_assoc] at hadd
    rw [if_pos hgps, if_pos hgps, if_pos hgps]
    exact hadd
  · rw [if_neg hgps, if_neg hgps, if_neg hgps, List.append_nil, List.append_nil]
    exact hexif

end

/-! ## 5. The size that `PrepareAppWriter` computes -/

theorem values_append (xs ys : List IfdField) : values (xs ++ ys) = values xs ++ values ys :=
  List.flatMap_append

theorem length_values_append (xs ys : List IfdField) :
    (values (xs ++ ys)).length = (values xs).length + (values ys).length := by
  rw [values_append, List.length_append]

theorem length_values_optional {c : Prop} [Decidable c] (f : IfdField) :
    (values (if c then [f] else [])).length = if c then f.behind.length else 0 := by
  split
  · rw [length_values_cons]
    rfl
  · rfl

namespace IfdField

theorem behind_writeShort (tag : Nat) (v : UInt16) : (writeShort tag [v]).behind = [] := rfl

theorem behind_writeLong (tag : Nat) (v : UInt32) : (writeLong tag [v]).behind = [] := rfl

theorem behind_writeByte {tag : Nat} {value : List UInt8} (h : value.length ≤ ifdValoffSize) :
    (writeByte tag value).behind = [] :=
  if_neg fun hat => Nat.not_lt.mpr h (of_decide_eq_true hat)

theorem behind_writeUndef (tag : Nat) (value : List UInt8) :
    (writeUndef tag value).behind = if ifdValoffSize < value.length then value else [] := by
  unfold behind writeUndef
  split <;> rename_i h
  · rw [if_pos (of_decide_eq_true h)]
  · rw [if_neg fun hlt => h (decide_eq_true hlt)]

theorem length_behind_writeRational (tag : Nat) (value : List RationalT) :
    (writeRational tag value).behind.length = 8 * value.length :=
  length_flatMap_const (fun r => (rfl : (rationalBytes r).length = 8)) value

theorem length_behind_writeSRational (tag : Nat) (value : List SRationalT) :
    (writeSRational tag value).behind.length = 8 * value.length :=
  length_flatMap_const (fun r => (rfl : (srationalBytes r).length = 8)) value

theorem behind_writeAscii_short {tag count : Nat} {value : List UInt8} (h : count ≤ ifdValoffSize) :
    (writeAscii tag count value).behind = [] :=
  if_neg fun hat => Nat.not_lt.mpr h (of_decide_eq_true hat)

/-- A string with its terminator, which is stored behind the table if it is longer than 3. -/
theorem length_behind_writeAscii {size : Nat} (tag : Nat) (s : CString size) :
    (writeAscii tag (s.strlen + 1) s.chars).behind.length =
      if 3 < s.strlen then s.strlen + 1 else 0 := by
  by_cases hlong : 3 < s.strlen
  · have hbehind : (writeAscii tag (s.strlen + 1) s.chars).behind =
        (s.chars.take s.strlen ++ [0]).take (s.strlen + 1) :=
      if_pos (decide_eq_true (by unfold ifdValoffSize; omega))
    rw [hbehind, if_pos hlong]
    unfold CString.strlen
    rw [List.take_length, List.take_of_length_le (by rw [List.length_append]; rfl),
      List.length_append]
    rfl
  · rw [behind_writeAscii_short (by unfold ifdValoffSize; omega), if_neg hlong]
    rfl

theorem length_behind_writeCString (tag : Nat) {count : Nat} (string : List UInt8)
    (h : ifdValoffSize < count) : (writeCString tag count string).behind.length = count := by
  have hbehind : (writeCString tag count string).behind =
      (string.take (count - 1) ++ List.replicate count 0).take count := if_pos (decide_eq_true h)
  rw [hbehind, List.length_take, List.length_append, List.length_replicate]
  omega

end IfdField

section

open IfdField

variable (e : ExifAttribute)

theorem length_values_headFields :
    (values e.headFields).length = 8 * 2 + exifDatetimeLength +
      (if 0 < e.maker.strlen then if 3 < e.maker.strlen then e.maker.strlen + 1 else 0 else 0) +
      (if 0 < e.software.strlen then
        if 3 < e.software.strlen then e.software.strlen + 1 else 0 else 0) +
      (if 0 < e.model.strlen then
        if 3 < e.model.strlen then e.model.strlen + 1 else 0 else 0) := by
  unfold ExifAttribute.headFields ExifAttribute.primaryFields
  simp only [length_values_append, length_values_optional, length_values_cons,
    length_behind_writeAscii, behind_writeShort, length_behind_writeRational,
    length_behind_writeCString ExifTag.dateTime e.dateTime.chars
      (by decide : ifdValoffSize < exifDatetimeLength),
    List.length_nil, List.length_singleton]
  have hnil : (values []).length = 0 := rfl
  rw [hnil]
  omega

theorem length_values_exifFields :
    (values (e.exifFields e.uniqueId.strlen)).length = 8 * 8 + exifDatetimeLength * 2 +
      exifSubsectimeLength * 3 +
      (if 0 < e.uniqueId.strlen then
        if 3 < e.uniqueId.strlen then e.uniqueId.strlen + 1 else 0 else 0) +
      (if 0 < e.makerNote.size then if 4 < e.makerNote.size then e.makerNote.size else 0 else 0) +
      (if 0 < e.userComment.size then
        if 4 < e.userComment.size then e.userComment.size else 0 else 0) := by
  have hblob (tag : Nat) (b : Blob) :
      (writeUndef tag b.bytes).behind.length = if 4 < b.size then b.size else 0 := by
    rw [behind_writeUndef]
    unfold ifdValoffSize Blob.size
    split <;> rfl
  have hversion : (writeUndef ExifTag.exifVersion e.exifVersion.toList).behind = [] := by
    rw [behind_writeUndef, if_neg]
    rw [Vector.length_toList]
    exact Nat.lt_irrefl 4
  have hdate (tag : Nat) := length_behind_writeCString tag e.dateTime.chars
    (by decide : ifdValoffSize < exifDatetimeLength)
  have hsec (tag : Nat) := length_behind_writeCString tag e.secTime.chars
    (by decide : ifdValoffSize < exifSubsectimeLength)
  unfold ExifAttribute.exifFields
  simp only [length_values_append, length_values_optional, length_values_cons,
    length_behind_writeAscii, behind_writeShort, behind_writeLong, length_behind_writeRational,
    length_behind_writeSRational, hblob, hversion, hdate, hsec, List.length_nil,
    List.length_singleton]
  have hnil : (values []).length = 0 := rfl
  rw [hnil]
  omega

theorem values_interopFields : values e.interopFields = [] := rfl

theorem length_gpsMethodBytes :
    e.gpsMethodBytes.length = e.gpsMethodLength + exifAsciiPrefix.length + 1 := by
  unfold ExifAttribute.gpsMethodBytes ExifAttribute.gpsMethodLength
  simp only [List.length_append, List.length_take, List.length_singleton]
  change 8 + min (min e.gpsProcessingMethod.strlen 99) e.gpsProcessingMethod.strlen + 1 =
    min e.gpsProcessingMethod.strlen 99 + 8 + 1
  omega

theorem length_values_gpsFields :
    (values e.gpsFields).length = 8 * 10 + exifGpsdatestampLength +
      if 0 < e.gpsMethodLength then e.gpsMethodLength + exifAsciiPrefix.length + 1 else 0 := by
  have hmethod : (writeUndef ExifTag.gpsProcessingMethod e.gpsMethodBytes).behind.length =
      e.gpsMethodLength + exifAsciiPrefix.length + 1 := by
    rw [behind_writeUndef, if_pos, length_gpsMethodBytes]
    rw [length_gpsMethodBytes]
    change 4 < e.gpsMethodLength + 8 + 1
    omega
  have hversion : (writeByte ExifTag.gpsVersionId e.gpsVersionId.toList).behind = [] :=
    behind_writeByte (by rw [Vector.length_toList]; exact Nat.le_refl 4)
  have haltitude : (writeByte ExifTag.gpsAltitudeRef [e.gpsAltitudeRef]).behind = [] := rfl
  have href (tag : Nat) (value : List UInt8) : (writeAscii tag 2 value).behind = [] :=
    behind_writeAscii_short (by decide)
  unfold ExifAttribute.gpsFields
  simp only [length_values_append, length_values_optional, length_values_cons,
    length_behind_writeRational, hmethod, hversion, haltitude, href, gpsMethodLength_pos,
    length_behind_writeCString ExifTag.gpsDatestamp e.gpsDatestamp.chars
      (by decide : ifdValoffSize < exifGpsdatestampLength),
    Vector.length_toList, List.length_nil, List.length_singleton]
  have hnil : (values []).length = 0 := rfl
  rw [hnil]
  omega

/-- A string is a field in the table and characters behind it. -/
theorem stringSize_eq (sz : Nat) : stringSize sz =
    12 * optionalField sz + if 0 < sz then if 3 < sz then sz + 1 else 0 else 0 := by
  unfold stringSize optionalField ifdFieldSize
  split <;> omega

theorem blobSize_eq (sz : Nat) : blobSize sz =
    12 * optionalField sz + if 0 < sz then if 4 < sz then sz else 0 else 0 := by
  unfold blobSize optionalField ifdFieldSize
  split <;> omega

theorem length_exifIfdCells (off : Nat) : (e.exifIfdCells off).length = e.exifIfdSize := by
  have hcount := nExifIfdFields_eq e
  unfold ExifAttribute.exifIfdCells ifdCells
  simp only [List.length_append, length_stored, length_table, length_subIfdEntry, length_leafIfd,
    length_le16, length_le32, values_interopFields, length_values_exifFields]
  rw [show e.interopFields.length = 2 from rfl, List.length_nil]
  unfold ExifAttribute.exifIfdSize
  rw [stringSize_eq, blobSize_eq, blobSize_eq]
  unfold ExifAttribute.nExifIfdFields at hcount
  unfold ifdFieldSize ifdFieldcountSize ifdValoffSize exifDatetimeLength exifSubsectimeLength
  omega

theorem length_gpsCells (off : Nat) : (leafIfd off e.gpsFields).length = e.gpsIfdSize := by
  have hcount := nGpsIfdFields_eq e
  rw [length_leafIfd, length_values_gpsFields, ← hcount]
  unfold ExifAttribute.gpsIfdSize ExifAttribute.nGpsIfdFields optionalField
  unfold ifdFieldSize ifdFieldcountSize ifdValoffSize exifGpsdatestampLength
  split <;> omega

/-- The 0th IFD with its link and its subdirectories. -/
theorem length_primary :
    6 + 12 * e.primaryCount + e.primaryBehind.length =
      e.primarySize + e.exifIfdSize + if e.enableGps then e.gpsIfdSize else 0 := by
  have hcount := n0thIfdFields_eq e
  unfold ExifAttribute.primaryBehind
  simp only [List.length_append, length_stored, length_exifIfdCells, length_values_headFields]
  unfold ExifAttribute.primarySize
  rw [stringSize_eq, stringSize_eq, stringSize_eq]
  unfold ExifAttribute.n0thIfdFields at hcount
  unfold ifdFieldSize ifdFieldcountSize ifdValoffSize exifDatetimeLength
  by_cases hgps : e.enableGps = true
  · rw [if_pos hgps] at hcount
    rw [if_pos hgps, if_pos hgps, if_pos hgps, length_gpsCells]
    omega
  · rw [if_neg hgps] at hcount
    rw [if_neg hgps, if_neg hgps, if_neg hgps, List.length_nil]
    omega

end

/-! ## 6. The segment -/

namespace ExifAttribute

variable (e : ExifAttribute)

/-- The marker, the length field and the headers. -/
def app1Head (length : Cells) : Cells :=
  stored [0xFF, 0xE1] ++ length ++ stored (exifIdentifierCode ++ tiffHeader)

/-- The 0th IFD with its subdirectories; `next` is its link to the 1st IFD. -/
def primaryCells (next : Cells) : Cells :=
  ifdCells e.primaryCount e.primaryTable next e.primaryBehind

/-- The 1st IFD, where the thumbnail is at the offset `offset`. -/
def thumbIfdCells (offset : UInt32) : Cells :=
  leafIfd e.thumbOffset (e.thumbFields offset ++ [thumbLengthField 0])

/-- The APP1 segment as it is written first, up to the thumbnail. -/
def app1Cells (length : Nat) (offset : UInt32) : Cells :=
  app1Head (stored (be16 length)) ++
    if e.enableThumb then
      e.primaryCells (stored (le32 e.thumbOffset)) ++ e.thumbIfdCells offset
    else e.primaryCells (stored (le32 0))

/-- What an update stores: neither the length nor the link. -/
def updateCells : Cells := app1Head (blanks 2) ++ e.primaryCells (blanks 4)

theorem length_app1Head {length : Cells} (h : length.length = 2) :
    (app1Head length).length = 18 := by
  unfold app1Head
  rw [List.length_append, List.length_append, h]
  rfl

theorem length_primaryTable : e.primaryTable.length = 12 * e.primaryCount := by
  have hcount : e.primaryCount = e.headFields.length + 1 + if e.enableGps then 1 else 0 := rfl
  unfold primaryTable
  rw [List.length_append, List.length_append, length_table, length_subIfdEntry]
  unfold ifdFieldSize
  by_cases hgps : e.enableGps = true
  · rw [if_pos hgps] at hcount
    rw [if_pos hgps, length_subIfdEntry]
    unfold ifdFieldSize
    omega
  · rw [if_neg hgps] at hcount
    rw [if_neg hgps, List.length_nil]
    omega

theorem length_primaryCells {next : Cells} (h : next.length = 4) :
    (e.primaryCells next).length = 6 + 12 * e.primaryCount + e.primaryBehind.length := by
  unfold primaryCells ifdCells
  rw [List.length_append, List.length_append, List.length_append, h, length_primaryTable,
    length_stored, length_le16]
  omega

theorem length_thumbIfdCells (offset : UInt32) : (e.thumbIfdCells offset).length = 78 := by
  unfold thumbIfdCells
  rw [length_leafIfd]
  rfl

/-- What is stored in front of the thumbnail is the marker and the size that was computed. -/
theorem length_app1Cells (length : Nat) (offset : UInt32) :
    (e.app1Cells length offset).length = jpegMarkerSize + e.appLength := by
  have hprimary := length_primary e
  have hhead : (app1Head (stored (be16 length))).length = 18 := length_app1Head rfl
  have hheaders : exifIdentifierCode.length + tiffHeader.length = 14 := rfl
  have hthumb : thumbIfdSize = 78 := rfl
  unfold app1Cells appLength appLengthNoThumb jpegMarkerSize jpegSegmentLenfieldSize
  rw [List.length_append, hhead]
  by_cases henable : e.enableThumb = true
  · rw [if_pos henable, if_pos henable, List.length_append, length_thumbIfdCells,
      length_primaryCells e (by rfl)]
    omega
  · rw [if_neg henable, if_neg henable, length_primaryCells e (by rfl)]
    omega

theorem length_updateCells : e.updateCells.length = jpegMarkerSize + e.appLengthNoThumb := by
  have hprimary := length_primary e
  have hheaders : exifIdentifierCode.length + tiffHeader.length = 14 := rfl
  unfold updateCells appLengthNoThumb jpegMarkerSize jpegSegmentLenfieldSize
  rw [List.length_append, length_app1Head (length_blanks 2), length_primaryCells e (length_blanks 4)]
  omega

end ExifAttribute

/-! ## 7. `WriteAPP1` writes the segment -/

section

open ExifAttribute

variable {w : CAppMarkerWriter} {e : ExifAttribute}

theorem writeApp1Header_eq (w : CAppMarkerWriter) (current : Nat) (reserve updating : Bool)
    (out : Overlay) :
    w.writeApp1Header current reserve updating out = out.lay current (app1Head
      (if updating then blanks 2
        else stored (be16 (w.szApp1 + if reserve then w.maxThumbSize else 0)))) := by
  unfold CAppMarkerWriter.writeApp1Header app1Head Overlay.put
  dsimp only
  rw [Overlay.lay_append, Overlay.lay_append, stored_append, Overlay.lay_append, List.length_append]
  by_cases hupdating : updating = true
  · rw [if_pos hupdating, if_pos hupdating, Overlay.lay_blanks]
    rfl
  · rw [if_neg hupdating, if_neg hupdating]
    rfl

/-- The 0th IFD follows the header. -/
theorem lay_app1Head (out : Overlay) (current : Nat) {length cells : Cells}
    (h : length.length = 2) :
    (out.lay current (app1Head length)).lay (current + 10 + 8) cells =
      out.lay current (app1Head length ++ cells) := by
  rw [Overlay.lay_append, length_app1Head h]

/-- An update of the Exif data stores the segment without its length and without the 1st IFD. -/
theorem writeApp1_update (h : w.Counted e) (current : Nat) (reserve : Bool) (out : Overlay) :
    (w.writeApp1 current reserve true out).2.2 = out.lay current e.updateCells := by
  have hprimary := writePrimaryIfd_wrote h (current + 10)
    (w.writeApp1Header current reserve true out)
  unfold CAppMarkerWriter.writeApp1
  rw [h.exif_eq]
  change (w.writePrimaryIfd e (current + 10) (current + 10 + 8) _).out = _
  rw [hprimary.out_eq, writeApp1Header_eq, if_pos rfl]
  unfold updateCells primaryCells ifdCells
  rw [← lay_app1Head out current (length_blanks 2), Overlay.lay_append _ _ (_ ++ blanks 4),
    Overlay.lay_append _ _ _ (blanks 4), Overlay.lay_blanks]
  simp only [List.length_append, length_stored, length_le16, length_primaryTable, length_blanks]
  rw [show 2 + 12 * e.primaryCount + 4 = 6 + 12 * e.primaryCount by omega]

theorem writePrimaryIfd_closed (h : w.Counted e) (tiff : Nat) (out : Overlay) (last : Bool) :
    ((w.writePrimaryIfd e tiff (tiff + 8) out).finish last).Closed out (tiff + 8)
      (e.primaryCells (stored (le32 (if last then 0 else e.thumbOffset)))) := by
  have hclosed := (writePrimaryIfd_wrote h tiff out).closed (Nat.le_add_right _ _)
    (e.length_primaryTable) last
  rw [Nat.add_sub_cancel_left] at hclosed
  exact hclosed

/-- Without a thumbnail. -/
theorem writeApp1_noThumb (h : w.Counted e) (henable : ¬e.enableThumb = true) (current : Nat)
    (reserve : Bool) (out : Overlay) :
    w.writeApp1 current reserve false out = (w, current + (jpegMarkerSize + e.appLength),
      out.lay current (e.app1Cells (w.szApp1 + if reserve then w.maxThumbSize else 0) 0)) := by
  have hclosed := writePrimaryIfd_closed h (current + 10)
    (w.writeApp1Header current reserve false out) true
  have hlength := e.length_app1Cells 0 0
  have hhead : (app1Head (stored (be16 0))).length = 18 := length_app1Head rfl
  unfold app1Cells at hlength
  rw [if_neg henable, List.length_append, hhead] at hlength
  have hvalue := hclosed.value_eq
  have hout := hclosed.out_eq
  rw [if_pos rfl] at hvalue hout
  unfold CAppMarkerWriter.writeApp1
  rw [h.exif_eq]
  change (if e.enableThumb = true then _ else (w, CIFDWriter.value _, CIFDWriter.out _)) = _
  rw [if_neg henable, hvalue, hout, writeApp1Header_eq, if_neg Bool.false_ne_true]
  unfold app1Cells
  rw [if_neg henable, ← lay_app1Head out current (length_stored _),
    show current + 10 + 8 + (e.primaryCells (stored (le32 0))).length =
      current + (jpegMarkerSize + e.appLength) by omega]

/-- The six fields of the 1st IFD make one directory. -/
theorem writeThumbIfd_closed (hn1 : w.n1stIfdFields = 6) (p : Nat) {tiff : Nat} (htiff : tiff ≤ p)
    (out : Overlay) :
    ((w.writeThumbIfd e tiff p out).finish true).Closed out p (leafIfd (p - tiff)
      (e.thumbFields (UInt32.ofNat (sizeSub w.thumbBase tiff % 2 ^ 32)) ++
        [thumbLengthField 0])) := by
  have hclosed := leafIfd_closed htiff
    (e.thumbFields (UInt32.ofNat (sizeSub w.thumbBase tiff % 2 ^ 32)) ++ [thumbLengthField 0]) out
  unfold CIFDWriter.writeAll at hclosed
  rw [List.foldl_append] at hclosed
  unfold CAppMarkerWriter.writeThumbIfd
  rw [hn1]
  exact hclosed

/-- The offset of the thumbnail from the TIFF header of the segment at `current`. -/
def CAppMarkerWriter.thumbStreamOffset (w : CAppMarkerWriter) (current : Nat) : UInt32 :=
  UInt32.ofNat (sizeSub w.thumbBase (current + 10) % 2 ^ 32)

/-- The value of the last field of the 1st IFD, in front of its link. -/
theorem writeThumbIfd_ifd (hn1 : w.n1stIfdFields = 6) {tiff p : Nat} (htiff : tiff ≤ p)
    (out : Overlay) : (w.writeThumbIfd e tiff p out).ifd = p + 74 := by
  have hall := wrote_fields htiff
    (e.thumbFields (UInt32.ofNat (sizeSub w.thumbBase tiff % 2 ^ 32)) ++ [thumbLengthField 0])
    (Nat.le_refl 6) out
  unfold CIFDWriter.writeAll at hall
  rw [List.foldl_append] at hall
  have hifd := hall.ifd_eq
  rw [List.length_append, length_table] at hifd
  unfold CAppMarkerWriter.writeThumbIfd
  rw [hn1]
  exact hifd

/-- With a thumbnail. -/
theorem writeApp1_thumb (h : w.Counted e) (henable : e.enableThumb = true)
    (hn1 : w.n1stIfdFields = 6) (current : Nat) (reserve : Bool) (out : Overlay) :
    w.writeApp1 current reserve false out =
      ({ w with thumbSizePlaceholder := current + (jpegMarkerSize + e.appLength) - 8 },
        ptrAdd (current + (jpegMarkerSize + e.appLength)) (if reserve then w.maxThumbSize else 0),
        out.lay current (e.app1Cells (w.szApp1 + if reserve then w.maxThumbSize else 0)
          (w.thumbStreamOffset current))) := by
  have hprimary := writePrimaryIfd_closed h (current + 10)
    (out.lay current (app1Head (stored (be16 (w.szApp1 + if reserve then w.maxThumbSize else 0)))))
    false
  have hlength := e.length_app1Cells 0 0
  have hhead : (app1Head (stored (be16 0))).length = 18 := length_app1Head rfl
  unfold app1Cells at hlength
  rw [if_pos henable, List.length_append, List.length_append, hhead, length_thumbIfdCells] at hlength
  have hvalue := hprimary.value_eq
  have hout := hprimary.out_eq
  rw [if_neg Bool.false_ne_true] at hvalue hout
  rw [lay_app1Head out current (length_stored _)] at hout
  have htiff : current + 10 ≤ current + 10 + 8 + (e.primaryCells (stored (le32 e.thumbOffset))).length :=
    by omega
  have hoffset : current + 10 + 8 + (e.primaryCells (stored (le32 e.thumbOffset))).length -
      (current + 10) = e.thumbOffset := by
    rw [length_primaryCells e rfl]
    unfold thumbOffset behindTable
    omega
  have hthumb := writeThumbIfd_closed (e := e) hn1 _ htiff
    (out.lay current (app1Head (stored (be16 (w.szApp1 + if reserve then w.maxThumbSize else 0))) ++
      e.primaryCells (stored (le32 e.thumbOffset))))
  have hifd := writeThumbIfd_ifd (e := e) hn1 htiff
    (out.lay current (app1Head (stored (be16 (w.szApp1 + if reserve then w.maxThumbSize else 0))) ++
      e.primaryCells (stored (le32 e.thumbOffset))))
  rw [hoffset] at hthumb
  have hend : current + 10 + 8 + (e.primaryCells (stored (le32 e.thumbOffset))).length + 78 =
      current + (jpegMarkerSize + e.appLength) := by omega
  have hthumbValue := hthumb.value_eq
  have hthumbOut := hthumb.out_eq
  have hthumbLength : (leafIfd e.thumbOffset
      (e.thumbFields (UInt32.ofNat (sizeSub w.thumbBase (current + 10) % 2 ^ 32)) ++
        [thumbLengthField 0])).length = 78 := e.length_thumbIfdCells _
  rw [hthumbLength, hend] at hthumbValue
  unfold CAppMarkerWriter.writeApp1
  rw [h.exif_eq]
  dsimp only
  rw [if_neg Bool.false_ne_true, if_pos henable, writeApp1Header_eq, if_neg Bool.false_ne_true,
    hvalue, hout, hthumbValue, hthumbOut, hifd]
  unfold app1Cells
  rw [if_pos henable, ← List.append_assoc, Overlay.lay_append _ _ (_ ++ e.primaryCells _)]
  rw [List.length_append, length_app1Head (length_stored _),
    show current + 10 + 8 + (e.primaryCells (stored (le32 e.thumbOffset))).length + 74 - 4 =
      current + (jpegMarkerSize + e.appLength) - 8 by omega,
    show current + (18 + (e.primaryCells (stored (le32 e.thumbOffset))).length) =
      current + 10 + 8 + (e.primaryCells (stored (le32 e.thumbOffset))).length by omega]
  rfl

end

/-! ## 8. What `PrepareAppWriter` leaves -/

section

variable (w : CAppMarkerWriter) (base : Nat) (e : ExifAttribute) (debug : Option DebugAttribute)

theorem exif_prepareDebug : (w.prepareDebug debug).exif = w.exif := by
  unfold CAppMarkerWriter.prepareDebug
  cases debug with
  | none => rfl
  | some d =>
    dsimp only
    split <;> rfl

theorem counted_prepareDebug {w : CAppMarkerWriter} {e : ExifAttribute} (h : w.Counted e) :
    (w.prepareDebug debug).Counted e := by
  unfold CAppMarkerWriter.prepareDebug
  cases debug with
  | none => exact ⟨h.1, h.2, h.3, h.4, h.5, h.6, h.7, h.8⟩
  | some d =>
    dsimp only
    split
    · exact ⟨h.1, h.2, h.3, h.4, h.5, h.6, h.7, h.8⟩
    · exact h

theorem counted_countFields : ((w.init base (some e)).countFields e).Counted e where
  exif_eq := rfl
  szMake_eq := rfl
  szModel_eq := rfl
  szSoftware_eq := rfl
  szUniqueId_eq := rfl
  n0th_eq := rfl
  nExif_eq := rfl
  nGps_eq hgps := if_pos hgps

/-- Whatever `PrepareAppWriter` refuses, it has counted the fields by then. -/
theorem counted_prepareAppWriter : (w.prepareAppWriter base (some e) debug).Counted e := by
  have hcount := counted_countFields w base e
  unfold CAppMarkerWriter.prepareAppWriter
  dsimp only
  split
  · exact hcount
  · apply counted_prepareDebug
    unfold CAppMarkerWriter.measureApp1
    split
    · exact ⟨hcount.1, hcount.2, hcount.3, hcount.4, hcount.5, hcount.6, hcount.7, hcount.8⟩
    · exact ⟨hcount.1, hcount.2, hcount.3, hcount.4, hcount.5, hcount.6, hcount.7, hcount.8⟩

theorem appBase_prepareDebug : (w.prepareDebug debug).appBase = w.appBase := by
  unfold CAppMarkerWriter.prepareDebug
  cases debug with
  | none => rfl
  | some d =>
    dsimp only
    split <;> rfl

theorem appBase_prepareAppWriter (exif : Option ExifAttribute) :
    (w.prepareAppWriter base exif debug).appBase = base := by
  unfold CAppMarkerWriter.prepareAppWriter
  cases exif with
  | none => exact appBase_prepareDebug _ debug
  | some e =>
    dsimp only
    split
    · rfl
    · rw [appBase_prepareDebug]
      unfold CAppMarkerWriter.measureApp1
      split <;> rfl

end

end Universal7870.Jpeg
