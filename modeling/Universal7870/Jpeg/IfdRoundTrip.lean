import Universal7870.Jpeg.ExifRoundTrip

/-!
# Reading directories back

Any fields, and directories within directories, written through `CIFDWriter` and read by a reader of
TIFF structures.
-/

namespace Universal7870.Jpeg

open Lib

/-! ## 1. Values and directories -/

/-- What a `Write` method is given.  An array has the length of its count; a string is what stands in
front of its terminator. -/
inductive IfdValue
  | byte (value : List UInt8)
  | short (value : List UInt16)
  | long (value : List UInt32)
  | ascii (value : List UInt8)
  | cString (count : Nat) (string : List UInt8)
  | rational (value : List RationalT)
  | srational (value : List SRationalT)
  | undef (value : List UInt8)

namespace IfdValue

def count : IfdValue → Nat
  | .byte value | .ascii value | .undef value => value.length
  | .short value => value.length
  | .long value => value.length
  | .cString count _ => count
  | .rational value => value.length
  | .srational value => value.length

/-- The bytes that the values take. -/
def size : IfdValue → Nat
  | .byte value | .ascii value | .undef value => value.length
  | .short value => 2 * value.length
  | .long value => 4 * value.length
  | .cString count _ => count
  | .rational value => 8 * value.length
  | .srational value => 8 * value.length

/-- The method. -/
def write (tag : Nat) : IfdValue → IfdField
  | .byte value => .writeByte tag value
  | .short value => .writeShort tag value
  | .long value => .writeLong tag value
  | .ascii value => .writeAscii tag value.length value
  | .cString count string => .writeCString tag count string
  | .rational value => .writeRational tag value
  | .srational value => .writeSRational tag value
  | .undef value => .writeUndef tag value

/-- The values as they are to be read; characters have a zero at their end. -/
def value : IfdValue → Tiff.Value
  | .byte value => .bytes value
  | .short value => .shorts (value.map UInt16.toNat)
  | .long value => .longs (value.map UInt32.toNat)
  | .ascii value => .ascii (value.take (value.length - 1) ++ [0])
  | .cString count string =>
    .ascii (string.take (count - 1) ++ List.replicate (count - (string.take (count - 1)).length) 0)
  | .rational value => .rationals (value.map fun r => (r.num.toNat, r.den.toNat))
  | .srational value => .srationals (value.map fun r => (r.num.toInt, r.den.toInt))
  | .undef value => .undefined value

/-- The count is a `uint32_t` of at least 1, and a string has no zero in it. -/
def Fits (v : IfdValue) : Prop :=
  1 ≤ v.count ∧ v.count < 2 ^ 32 ∧ ∀ count string, v = .cString count string → 0 ∉ string

/-- Not an array of longs. -/
def SingleLong (v : IfdValue) : Prop := ∀ value, v = .long value → value.length ≤ 1

/-- What stands behind the table of the value. -/
def behind (v : IfdValue) : Nat := if 4 < v.size then v.size else 0

end IfdValue

/-- The fields of a directory, some of which may be directories of their own, with whether `Finish` is
told that they are the last. -/
inductive IfdItems
  | nil
  | field (tag : UInt16) (v : IfdValue) (rest : IfdItems)
  | subIfd (tag : UInt16) (sub : IfdItems) (last : Bool) (rest : IfdItems)

namespace IfdItems

def count : IfdItems → Nat
  | .nil => 0
  | .field _ _ rest => rest.count + 1
  | .subIfd _ _ _ rest => rest.count + 1

/-- The bytes of the values and directories behind the table. -/
def behind : IfdItems → Nat
  | .nil => 0
  | .field _ v rest => v.behind + rest.behind
  | .subIfd _ sub _ rest => (6 + 12 * sub.count + sub.behind) + rest.behind

/-- The bytes of the directory. -/
def size (items : IfdItems) : Nat := 6 + 12 * items.count + items.behind

def Fits : IfdItems → Prop
  | .nil => True
  | .field _ v rest => v.Fits ∧ rest.Fits
  | .subIfd _ sub _ rest => (sub.count < 2 ^ 16 ∧ sub.Fits) ∧ rest.Fits

def SingleLongs : IfdItems → Prop
  | .nil => True
  | .field _ v rest => v.SingleLong ∧ rest.SingleLongs
  | .subIfd _ sub _ rest => sub.SingleLongs ∧ rest.SingleLongs

/-- Values stand in their field just if they fit into four bytes. -/
def InlineRight : IfdItems → Prop
  | .nil => True
  | .field tag v rest => ((v.write tag.toNat).atValue = false ↔ v.size ≤ 4) ∧ rest.InlineRight
  | .subIfd _ sub _ rest => sub.InlineRight ∧ rest.InlineRight

/-- The fields are these, where a directory within is read at the offset in its field. -/
def ReadAs (m : Nat → UInt8) (tiff size : Nat) : IfdItems → List Tiff.Field → Prop
  | .nil, fs => fs = []
  | .field tag v rest, fs => ∃ fs', fs = ⟨tag.toNat, v.value⟩ :: fs' ∧ rest.ReadAs m tiff size fs'
  | .subIfd tag sub last rest, fs => ∃ off d fs', fs = ⟨tag.toNat, .longs [off]⟩ :: fs' ∧
      Tiff.readDirectory m tiff size off = some d ∧ sub.ReadAs m tiff size d.fields ∧
      d.next = (if last then 0 else off + sub.size) ∧ rest.ReadAs m tiff size fs'

end IfdItems

namespace CIFDWriter

/-- The items in order; the writer of a directory within has the same base for its offsets. -/
def writeItems (w : CIFDWriter) : IfdItems → CIFDWriter
  | .nil => w
  | .field tag v rest => (w.write (v.write tag.toNat)).writeItems rest
  | .subIfd tag sub last rest =>
    let w := w.beginSubIfd tag.toNat
    (w.endSubIfd (((new w.base w.value sub.count w.out).writeItems sub).finish last)).writeItems rest

/-- A directory at `p`. -/
def writeDirectory (base p : Nat) (out : Overlay) (items : IfdItems) (last : Bool) : CIFDWriter :=
  ((new base p items.count out).writeItems items).finish last

end CIFDWriter

/-- Read where it was written, the directory has the items and the link; what fits into four bytes
stands in its field; and the next directory goes behind all that was written. -/
structure RoundTrips (m : Nat → UInt8) (base p : Nat) (out : Overlay) (items : IfdItems)
    (last : Bool) : Prop where
  read : ∃ d,
    Tiff.readDirectory ((CIFDWriter.writeDirectory base p out items last).out.onto m) base
        (p - base + items.size) (p - base) = some d ∧
      items.ReadAs ((CIFDWriter.writeDirectory base p out items last).out.onto m) base
        (p - base + items.size) d.fields ∧
      d.next = if last then 0 else p - base + items.size
  inline : items.InlineRight
  next : (CIFDWriter.writeDirectory base p out items last).value = p + items.size

/-! ## 2. Values -/

namespace IfdValue

variable {tag : Nat} {v : IfdValue}

theorem count_write (tag : Nat) (v : IfdValue) : (v.write tag).count = v.count := by
  cases v <;> rfl

theorem tag_write (tag : Nat) (v : IfdValue) : (v.write tag).tag = tag := by
  cases v <;> rfl

theorem size_eq (tag : Nat) (v : IfdValue) :
    v.size = (v.write tag).type.fieldType.size * v.count := by
  cases v <;> first | rfl | exact (Nat.one_mul _).symm

theorem length_take_string (count : Nat) (string : List UInt8) :
    ((string.take (count - 1) ++ List.replicate count 0).take count).length = count := by
  rw [List.length_take, List.length_append, List.length_replicate]
  exact Nat.min_eq_left (Nat.le_add_left _ _)

/-- An array of longs aside, the bytes of the values are stored. -/
theorem length_data (hcount : 1 ≤ v.count) (hone : v.SingleLong) :
    (v.write tag).data.length = v.size := by
  cases v with
  | byte value => rfl
  | short value => exact length_flatMap_const (fun v => length_le16 v.toNat) value
  | long value =>
    have hlength : value.length = 1 := Nat.le_antisymm (hone value rfl) hcount
    change (if 1 < value.length then _ else _ : List UInt8).length = 4 * value.length
    rw [if_neg (by omega), hlength, length_le32]
  | ascii value =>
    have hpos : 1 ≤ value.length := hcount
    change (IfdField.writeAscii tag value.length value).data.length = value.length
    rw [IfdField.data_writeAscii tag hpos (Nat.sub_le _ _), List.length_append, List.length_take,
      List.length_singleton]
    omega
  | cString count string => exact length_take_string count string
  | rational value => exact length_flatMap_const (f := rationalBytes) (fun _ => rfl) value
  | srational value => exact length_flatMap_const (f := srationalBytes) (fun _ => rfl) value
  | undef value => rfl

/-- An array of longs too is announced to be behind the table. -/
theorem atValue_iff (hcount : 1 ≤ v.count) : (v.write tag).atValue = true ↔ 4 < v.size := by
  cases v with
  | byte value => exact decide_eq_true_iff
  | short value =>
    change decide (2 < value.length) = true ↔ 4 < 2 * value.length
    rw [decide_eq_true_iff]
    omega
  | long value =>
    change decide (1 < value.length) = true ↔ 4 < 4 * value.length
    rw [decide_eq_true_iff]
    omega
  | ascii value => exact decide_eq_true_iff
  | cString count string => exact decide_eq_true_iff
  | rational value =>
    have hpos : 1 ≤ value.length := hcount
    refine iff_of_true rfl ?_
    change 4 < 8 * value.length
    omega
  | srational value =>
    have hpos : 1 ≤ value.length := hcount
    refine iff_of_true rfl ?_
    change 4 < 8 * value.length
    omega
  | undef value => exact decide_eq_true_iff

theorem sized (tag : UInt16) (hfits : v.Fits) (hone : v.SingleLong) :
    (v.write tag.toNat).Sized where
  tag_lt := by
    rw [tag_write]
    exact tag.toNat_lt
  count_lt := by
    rw [count_write]
    exact hfits.2.1
  length_data := by
    rw [length_data hfits.1 hone, count_write]
    exact size_eq tag.toNat v
  atValue_iff := by
    rw [length_data hfits.1 hone]
    exact atValue_iff hfits.1

theorem length_behind (tag : Nat) (hcount : 1 ≤ v.count) (hone : v.SingleLong) :
    (v.write tag).behind.length = v.behind := by
  unfold IfdField.behind IfdValue.behind
  by_cases hlong : 4 < v.size
  · rw [if_pos ((atValue_iff hcount).mpr hlong), if_pos hlong]
    exact length_data hcount hone
  · rw [if_neg fun hat => hlong ((atValue_iff hcount).mp hat), if_neg hlong]
    rfl

/-- Of an array of longs there is a byte. -/
theorem length_behind_lt (tag : Nat) (hnot : ¬v.SingleLong) : (v.write tag).behind.length < v.behind := by
  obtain ⟨value, hvalue⟩ := not_forall.mp hnot
  obtain ⟨rfl, hle⟩ := Classical.not_imp.mp hvalue
  have hlong : 1 < value.length := Nat.not_le.mp hle
  have hat : (IfdField.writeLong tag value).atValue = true := decide_eq_true hlong
  have hsize : 4 < 4 * value.length := by omega
  unfold IfdField.behind IfdValue.behind
  change (if (IfdField.writeLong tag value).atValue = true then
    (if 1 < value.length then _ else _ : List UInt8) else []).length <
      if 4 < 4 * value.length then 4 * value.length else 0
  rw [if_pos hat, if_pos hlong, if_pos hsize, List.length_take, length_le32]
  omega

theorem field_write (hfits : v.Fits) (hone : v.SingleLong) :
    (v.write tag).field = ⟨tag, v.value⟩ := by
  cases v with
  | byte value => rfl
  | short value =>
    have hvalues := Tiff.map_range_flatMap (f := fun v : UInt16 => le16 v.toNat) (n := 2)
      (fun _ => rfl) Tiff.word16 UInt16.toNat
      (fun v m k h => Tiff.word16_of_bytes v.toNat_lt (h 0 (by decide)) (h 1 (by decide))) value
    exact congrArg (fun vs => Tiff.Field.mk tag (.shorts vs)) hvalues
  | long value =>
    have hlength : value.length = 1 := Nat.le_antisymm (hone value rfl) hfits.1
    obtain ⟨v, rfl⟩ := List.length_eq_one_iff.mp hlength
    exact IfdField.field_writeLong tag v
  | ascii value =>
    have hdata := IfdField.data_writeAscii tag hfits.1 (Nat.sub_le value.length 1)
    exact congrArg (fun bs => Tiff.Field.mk tag (.ascii bs)) hdata
  | cString count string =>
    have hcount : 1 ≤ count := hfits.1
    have hdata : (string.take (count - 1) ++ List.replicate count 0).take count =
        string.take (count - 1) ++ List.replicate (count - (string.take (count - 1)).length) 0 := by
      have hle : (string.take (count - 1)).length ≤ count := by
        rw [List.length_take]
        omega
      rw [List.take_append, List.take_of_length_le hle, List.take_replicate,
        Nat.min_eq_left (Nat.sub_le _ _)]
    exact congrArg (fun bs => Tiff.Field.mk tag (.ascii bs)) hdata
  | rational value => exact IfdField.field_writeRational tag value
  | srational value =>
    have hvalues := Tiff.map_range_flatMap (f := srationalBytes) (n := 8) (fun _ => rfl)
      (fun m k => (Tiff.signed32 (Tiff.word32 m k), Tiff.signed32 (Tiff.word32 m (k + 4))))
      (fun r => (r.num.toInt, r.den.toInt))
      (fun r m k h => by
        have hnum : Tiff.word32 m k = r.num.toUInt32.toNat :=
          Tiff.word32_of_bytes r.num.toUInt32.toNat_lt (h 0 (by decide)) (h 1 (by decide))
            (h 2 (by decide)) (h 3 (by decide))
        have hden : Tiff.word32 m (k + 4) = r.den.toUInt32.toNat :=
          Tiff.word32_of_bytes r.den.toUInt32.toNat_lt (h 4 (by decide)) (h 5 (by decide))
            (h 6 (by decide)) (h 7 (by decide))
        rw [hnum, hden, IfdField.signed32_toUInt32, IfdField.signed32_toUInt32]) value
    exact congrArg (fun rs => Tiff.Field.mk tag (.srationals rs)) hvalues
  | undef value => rfl

end IfdValue

/-! ## 3. What is written of a directory -/

namespace IfdItems

/-- The fields in the table, where what is behind it begins at the offset `off`. -/
def table : Nat → IfdItems → Cells
  | _, .nil => []
  | off, .field tag v rest => (v.write tag.toNat).entry off ++ rest.table (off + v.behind)
  | off, .subIfd tag sub _ rest => subIfdEntry tag.toNat off ++ rest.table (off + sub.size)

/-- What is behind the table. -/
def cells : Nat → IfdItems → Cells
  | _, .nil => []
  | off, .field tag v rest => stored (v.write tag.toNat).behind ++ rest.cells (off + v.behind)
  | off, .subIfd _ sub last rest =>
    (stored (le16 sub.count) ++ sub.table (off + (6 + 12 * sub.count)) ++
      stored (le32 (if last then 0 else off + sub.size)) ++
      sub.cells (off + (6 + 12 * sub.count))) ++ rest.cells (off + sub.size)

/-- The directory at the offset `off`. -/
def directoryCells (off : Nat) (items : IfdItems) (last : Bool) : Cells :=
  stored (le16 items.count) ++ items.table (off + (6 + 12 * items.count)) ++
    stored (le32 (if last then 0 else off + items.size)) ++
    items.cells (off + (6 + 12 * items.count))

variable {items : IfdItems}

theorem length_table (off : Nat) (items : IfdItems) : (items.table off).length = 12 * items.count := by
  induction items generalizing off with
  | nil => rfl
  | field tag v rest ih =>
    unfold table count
    rw [List.length_append, ih, IfdField.length_entry]
    unfold ifdFieldSize
    omega
  | subIfd tag sub last rest _ ih =>
    unfold table count
    rw [List.length_append, ih, length_subIfdEntry]
    unfold ifdFieldSize
    omega

theorem length_cells (hfits : items.Fits) (hsingle : items.SingleLongs) (off : Nat) :
    (items.cells off).length = items.behind := by
  induction items generalizing off with
  | nil => rfl
  | field tag v rest ih =>
    unfold cells behind
    rw [List.length_append, length_stored, IfdValue.length_behind tag.toNat hfits.1.1 hsingle.1,
      ih hfits.2 hsingle.2]
  | subIfd tag sub last rest ihsub ih =>
    unfold cells behind
    simp only [List.length_append, length_stored, length_le16, length_le32, length_table,
      ihsub hfits.1.2 hsingle.1, ih hfits.2 hsingle.2]
    omega

theorem length_directoryCells (hfits : items.Fits) (hsingle : items.SingleLongs) (off : Nat)
    (last : Bool) : (items.directoryCells off last).length = items.size := by
  unfold directoryCells size
  simp only [List.length_append, length_stored, length_le16, length_le32, length_table,
    length_cells hfits hsingle]
  omega

end IfdItems

namespace CIFDWriter

variable {w : CIFDWriter} {o : Overlay} {base p n : Nat} {tbl vals : Cells} {items : IfdItems}

/-- A directory written by a writer of its own. -/
theorem writeDirectory_of_wrote (hbase : base ≤ p) (hfits : items.Fits) (hsingle : items.SingleLongs)
    (h : ((new base p items.count o).writeItems items).Wrote o base p items.count
      (stored (le16 items.count) ++ items.table (p - base + (6 + 12 * items.count)))
      (items.cells (p - base + (6 + 12 * items.count)))) (last : Bool) :
    (writeDirectory base p o items last).value = p + items.size ∧
      (writeDirectory base p o items last).out = o.lay p (items.directoryCells (p - base) last) := by
  have hbehind := IfdItems.length_cells hfits hsingle (p - base + (6 + 12 * items.count))
  constructor
  · change ((new base p items.count o).writeItems items).value = _
    rw [h.value_eq, hbehind]
    unfold IfdItems.size
    omega
  · have hout := h.finish hbase last (by
      rw [List.length_append, length_stored, length_le16, IfdItems.length_table]
      unfold ifdNextifdoffsetSize
      omega)
    rw [hbehind, Nat.add_assoc (p - base)] at hout
    exact hout

theorem Wrote.writeItems (h : w.Wrote o base p n tbl vals) (hbase : base ≤ p) (hfits : items.Fits)
    (hsingle : items.SingleLongs) (hroom : tbl.length + 12 * items.count ≤ 6 + 12 * n) :
    (w.writeItems items).Wrote o base p n
      (tbl ++ items.table (p - base + (6 + 12 * n) + vals.length))
      (vals ++ items.cells (p - base + (6 + 12 * n) + vals.length)) := by
  induction items generalizing w o p n tbl vals with
  | nil =>
    change w.Wrote o base p n (tbl ++ []) (vals ++ [])
    rw [List.append_nil, List.append_nil]
    exact h
  | field tag v rest ih =>
    unfold IfdItems.count at hroom
    have hlength := IfdValue.length_behind tag.toNat hfits.1.1 hsingle.1
    have hfirst := h.write hbase (v.write tag.toNat) (by unfold ifdFieldSize; omega)
    have hrest := ih hfirst hbase hfits.2 hsingle.2 (by
      rw [List.length_append, IfdField.length_entry]
      unfold ifdFieldSize
      omega)
    rw [List.append_assoc, List.append_assoc, List.length_append, length_stored, hlength,
      ← Nat.add_assoc _ vals.length] at hrest
    exact hrest
  | subIfd tag sub last rest ihsub ih =>
    unfold IfdItems.count at hroom
    have hbegun := h.beginSubIfd hbase tag.toNat (by unfold ifdFieldSize; omega)
    have hvalue := hbegun.value_eq
    have hoff : (w.beginSubIfd tag.toNat).value - base = p - base + (6 + 12 * n) + vals.length := by
      omega
    have hle : base ≤ (w.beginSubIfd tag.toNat).value := by omega
    have hsub := ihsub (Wrote.new base (w.beginSubIfd tag.toNat).value sub.count
      (w.beginSubIfd tag.toNat).out) hle hfits.1.2 hsingle.1 (by
        rw [length_stored, length_le16]
        omega)
    obtain ⟨hend, hout⟩ := writeDirectory_of_wrote hle hfits.1.2 hsingle.1 hsub last
    have hlength := IfdItems.length_directoryCells hfits.1.2 hsingle.1
      ((w.beginSubIfd tag.toNat).value - base) last
    have hended := hbegun.endSubIfd (hend.trans (by rw [hlength])) hout
    have hrest := ih hended hbase hfits.2 hsingle.2 (by
      rw [List.length_append, length_subIfdEntry]
      unfold ifdFieldSize
      omega)
    rw [List.append_assoc, List.append_assoc, List.length_append, hlength,
      ← Nat.add_assoc _ vals.length, hoff] at hrest
    have hsame : (w.writeItems (.subIfd tag sub last rest)) =
        ((w.beginSubIfd tag.toNat).endSubIfd (writeDirectory base
          (w.beginSubIfd tag.toNat).value (w.beginSubIfd tag.toNat).out sub last)).writeItems rest := by
      rw [← hbegun.base_eq]
      rfl
    rw [hsame]
    exact hrest

/-- What a directory consists of. -/
theorem writeDirectory_spec (hbase : base ≤ p) (hfits : items.Fits) (hsingle : items.SingleLongs)
    (o : Overlay) (last : Bool) :
    (writeDirectory base p o items last).value = p + items.size ∧
      (writeDirectory base p o items last).out = o.lay p (items.directoryCells (p - base) last) := by
  refine writeDirectory_of_wrote hbase hfits hsingle ?_ last
  have hwrote := (Wrote.new base p items.count o).writeItems hbase hfits hsingle (by
    rw [length_stored, length_le16]
    omega)
  exact hwrote

end CIFDWriter

/-! ## 4. What is read of it -/

namespace IfdItems

variable {m : Nat → UInt8} {tiff size : Nat} {items : IfdItems}

/-- The parts of a directory that a memory shows. -/
theorem shows_directoryCells {off : Nat} {last : Bool}
    (h : Shows m (tiff + off) (items.directoryCells off last)) :
    Shows m (tiff + off) (stored (le16 items.count)) ∧
      Shows m (tiff + (off + 2)) (items.table (off + (6 + 12 * items.count))) ∧
      Shows m (tiff + off + 2 + 12 * items.count)
        (stored (le32 (if last then 0 else off + items.size))) ∧
      Shows m (tiff + (off + (6 + 12 * items.count))) (items.cells (off + (6 + 12 * items.count))) := by
  unfold directoryCells at h
  rw [shows_append, shows_append, shows_append] at h
  obtain ⟨⟨⟨hcount, htable⟩, hnext⟩, hcells⟩ := h
  rw [List.length_append, length_table, length_stored, length_le16] at hnext
  rw [List.length_append, List.length_append, length_table, length_stored, length_stored, length_le16,
    length_le32] at hcells
  refine ⟨hcount, htable, ?_, ?_⟩
  · rw [Nat.add_assoc (tiff + off)]
    exact hnext
  · rw [show tiff + (off + (6 + 12 * items.count)) = tiff + off + (2 + 12 * items.count + 4) by omega]
    exact hcells

/-- The directory around fields that are read. -/
theorem readDirectory_of_fields {off : Nat} {last : Bool} {fs : List Tiff.Field}
    (hcount : items.count < 2 ^ 16) (h : Shows m (tiff + off) (items.directoryCells off last))
    (hin : off + items.size ≤ size) (hsize : size < 2 ^ 32)
    (hfields : Tiff.readFields m tiff size (off + 2) items.count = some fs) :
    Tiff.readDirectory m tiff size off = some ⟨fs, if last then 0 else off + items.size⟩ := by
  obtain ⟨hshowCount, -, hshowNext, -⟩ := shows_directoryCells h
  refine Tiff.readDirectory_of (word16_of_shows hshowCount hcount) hfields
    (word32_of_shows hshowNext ?_) ?_
  · split
    · decide
    · exact Nat.lt_of_le_of_lt hin hsize
  · unfold IfdItems.size at hin
    omega

theorem readFields_items (hfits : items.Fits) (hsingle : items.SingleLongs) {p off : Nat}
    (htable : Shows m (tiff + p) (items.table off)) (hcells : Shows m (tiff + off) (items.cells off))
    (hin : off + items.behind ≤ size) (hp : p + 12 * items.count ≤ size) (hsize : size < 2 ^ 32) :
    ∃ fs, Tiff.readFields m tiff size p items.count = some fs ∧ items.ReadAs m tiff size fs := by
  induction items generalizing p off with
  | nil => exact ⟨[], rfl, rfl⟩
  | field tag v rest ih =>
    unfold table at htable
    unfold cells at hcells
    unfold behind at hin
    unfold count at hp
    rw [shows_append, IfdField.length_entry] at htable
    have hlength := IfdValue.length_behind tag.toNat hfits.1.1 hsingle.1
    rw [shows_append, length_stored, hlength] at hcells
    have hfirst : Tiff.readField m tiff size p = some ⟨tag.toNat, v.value⟩ := by
      rw [← IfdValue.field_write hfits.1 hsingle.1]
      exact IfdField.readField_entry (IfdValue.sized tag hfits.1 hsingle.1) htable.1 hcells.1
        (by omega) (by omega) hsize
    have htail : Shows m (tiff + (p + 12)) (rest.table (off + v.behind)) := by
      rw [← Nat.add_assoc]
      exact htable.2
    have hbehind : Shows m (tiff + (off + v.behind)) (rest.cells (off + v.behind)) := by
      rw [← Nat.add_assoc]
      exact hcells.2
    obtain ⟨fs, hfs, hread⟩ := ih hfits.2 hsingle.2 htail hbehind (by omega) (by omega)
    refine ⟨⟨tag.toNat, v.value⟩ :: fs, ?_, fs, rfl, hread⟩
    unfold count Tiff.readFields
    rw [hfirst, Option.bind_some, hfs]
    rfl
  | subIfd tag sub last rest ihsub ih =>
    have hsubSize : sub.size = 6 + 12 * sub.count + sub.behind := rfl
    unfold table at htable
    unfold behind at hin
    unfold count at hp
    have hcells : Shows m (tiff + off)
        (sub.directoryCells off last ++ rest.cells (off + sub.size)) := hcells
    rw [shows_append, length_subIfdEntry] at htable
    rw [shows_append, length_directoryCells hfits.1.2 hsingle.1] at hcells
    obtain ⟨-, hsubTable, -, hsubCells⟩ := shows_directoryCells hcells.1
    obtain ⟨subFs, hsubFs, hsubRead⟩ := ihsub hfits.1.2 hsingle.1 hsubTable hsubCells (by omega)
      (by omega)
    have hdirectory := readDirectory_of_fields hfits.1.1 hcells.1 (by omega) hsize hsubFs
    have hpointer : Tiff.readField m tiff size p = some ⟨tag.toNat, .longs [off]⟩ :=
      readField_subIfdEntry tag.toNat_lt (by omega) htable.1 (by omega)
    have htail : Shows m (tiff + (p + 12)) (rest.table (off + sub.size)) := by
      rw [← Nat.add_assoc]
      exact htable.2
    have hbehind : Shows m (tiff + (off + sub.size)) (rest.cells (off + sub.size)) := by
      rw [← Nat.add_assoc]
      exact hcells.2
    obtain ⟨fs, hfs, hread⟩ := ih hfits.2 hsingle.2 htail hbehind (by omega) (by omega)
    refine ⟨⟨tag.toNat, .longs [off]⟩ :: fs, ?_, off, _, fs, rfl, hdirectory, hsubRead, rfl, hread⟩
    unfold count Tiff.readFields
    rw [hpointer, Option.bind_some, hfs]
    rfl

theorem inlineRight (hfits : items.Fits) : items.InlineRight := by
  induction items with
  | nil => trivial
  | field tag v rest ih =>
    refine ⟨?_, ih hfits.2⟩
    rw [← Bool.not_eq_true, IfdValue.atValue_iff hfits.1.1, Nat.not_lt]
  | subIfd tag sub last rest ihsub ih => exact ⟨ihsub hfits.1.2, ih hfits.2⟩

/-! ## 5. The cursor for values -/

/-- The bytes behind the table that the cursor moves over. -/
def moved : IfdItems → Nat
  | .nil => 0
  | .field tag v rest => (v.write tag.toNat).behind.length + rest.moved
  | .subIfd _ sub _ rest => (6 + 12 * sub.count + sub.moved) + rest.moved

theorem value_write (w : CIFDWriter) (f : IfdField) : (w.write f).value = w.value + f.behind.length := by
  unfold CIFDWriter.write IfdField.behind
  by_cases hat : f.atValue = true
  · rw [if_pos hat, if_pos hat]
    rfl
  · rw [if_neg hat, if_neg hat]
    rfl

theorem value_writeItems (items : IfdItems) (w : CIFDWriter) :
    (w.writeItems items).value = w.value + items.moved := by
  induction items generalizing w with
  | nil => rfl
  | field tag v rest ih =>
    change ((w.write (v.write tag.toNat)).writeItems rest).value = _
    rw [ih, value_write, Nat.add_assoc]
    rfl
  | subIfd tag sub last rest ihsub ih =>
    change (CIFDWriter.writeItems (CIFDWriter.endSubIfd _ _) rest).value = _
    rw [ih]
    change (CIFDWriter.writeItems (CIFDWriter.new _ _ _ _) sub).value + rest.moved = _
    rw [ihsub]
    change w.value + 2 + 12 * sub.count + 4 + sub.moved + rest.moved =
      w.value + ((6 + 12 * sub.count + sub.moved) + rest.moved)
    omega

/-- It moves over all of them just where there are no arrays of longs. -/
theorem moved_iff (hfits : items.Fits) :
    items.moved ≤ items.behind ∧ (items.moved = items.behind ↔ items.SingleLongs) := by
  induction items with
  | nil => exact ⟨Nat.le_refl 0, iff_of_true rfl trivial⟩
  | field tag v rest ih =>
    obtain ⟨hle, hiff⟩ := ih hfits.2
    unfold moved behind SingleLongs
    rw [← hiff]
    by_cases hone : v.SingleLong
    · rw [IfdValue.length_behind tag.toNat hfits.1.1 hone, and_iff_right hone]
      omega
    · have hlt := IfdValue.length_behind_lt tag.toNat hone
      refine ⟨by omega, iff_of_false (by omega) fun h => hone h.1⟩
  | subIfd tag sub last rest ihsub ih =>
    obtain ⟨hle, hiff⟩ := ih hfits.2
    obtain ⟨hleSub, hiffSub⟩ := ihsub hfits.1.2
    unfold moved behind SingleLongs
    rw [← hiff, ← hiffSub]
    omega

end IfdItems

/-! ## 6. The round trip -/

/-- A directory is read back as it was written just if none of its fields, and none of the fields of
the directories in it, is an array of longs. -/
theorem roundTrips_iff {base p : Nat} (hbase : base ≤ p) {items : IfdItems}
    (hcount : items.count < 2 ^ 16) (hfits : items.Fits) (hsize : p - base + items.size < 2 ^ 32)
    (m : Nat → UInt8) (out : Overlay) (last : Bool) :
    RoundTrips m base p out items last ↔ items.SingleLongs := by
  constructor
  · intro h
    have hnext := h.next
    change ((CIFDWriter.new base p items.count out).writeItems items).value = _ at hnext
    rw [IfdItems.value_writeItems] at hnext
    change p + 2 + 12 * items.count + 4 + items.moved = p + (6 + 12 * items.count + items.behind) at hnext
    exact (IfdItems.moved_iff hfits).2.mp (by omega)
  · intro hsingle
    obtain ⟨hvalue, hout⟩ := CIFDWriter.writeDirectory_spec hbase hfits hsingle out last
    have hshow : Shows ((CIFDWriter.writeDirectory base p out items last).out.onto m)
        (base + (p - base)) (items.directoryCells (p - base) last) := by
      rw [Nat.add_sub_cancel' hbase]
      exact shows_onto fun i _ _ => by rw [hout]
    obtain ⟨-, htable, -, hcells⟩ := IfdItems.shows_directoryCells hshow
    have hitems : items.size = 6 + 12 * items.count + items.behind := rfl
    obtain ⟨fs, hfs, hread⟩ := IfdItems.readFields_items hfits hsingle htable hcells
      (by omega : _ ≤ p - base + items.size) (by omega) hsize
    exact ⟨⟨_, IfdItems.readDirectory_of_fields hcount hshow (Nat.le_refl _) hsize hfs, hread, rfl⟩,
      IfdItems.inlineRight hfits, hvalue⟩

/-- A maker, and a directory with an exposure time and a width. -/
def sampleItems : IfdItems :=
  .field 0x010F (.ascii [0x41, 0x42, 0x43, 0x44, 0])
    (.subIfd 0x8769 (.field 0x829A (.rational [⟨1, 30⟩]) (.field 0xA002 (.long [640]) .nil)) true .nil)

theorem sampleItems_roundTrips :
    RoundTrips (fun _ => 0) 0 8 Overlay.empty sampleItems true ↔ sampleItems.SingleLongs := by
  have hfits : sampleItems.Fits :=
    ⟨⟨by decide, by decide, nofun⟩,
      ⟨by decide, ⟨by decide, by decide, nofun⟩, ⟨by decide, by decide, nofun⟩, trivial⟩, trivial⟩
  exact roundTrips_iff (by decide) (by decide) hfits (by decide) _ _ _

/-- Of two longs a byte is stored, and the next directory would begin in the middle of them. -/
theorem twoLongs_lost :
    ¬RoundTrips (fun _ => 0) 0 8 Overlay.empty (.field 0x0111 (.long [1, 2]) .nil) true := by
  intro h
  exact absurd h.next (by decide)

end Universal7870.Jpeg
