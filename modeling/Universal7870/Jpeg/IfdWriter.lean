import Universal7870.Lib.Overlay
import Universal7870.Jpeg.DebugAttribute
import Universal7870.Jpeg.ExifAttribute

/-!
# Writing an image file directory

`CIFDWriter` of `IFDWriter.h`: one cursor in the table of a directory, and one in the area behind
it for the values that do not fit into their field.  The target is little endian.
-/

namespace Universal7870.Jpeg

open Lib

def ifdFieldcountSize : Nat := 2
def ifdNextifdoffsetSize : Nat := 4
def ifdFieldSize : Nat := 12
def ifdValoffSize : Nat := 4

def le16 (n : Nat) : List UInt8 := [UInt8.ofNat n, UInt8.ofNat (n / 2 ^ 8)]

def le32 (n : Nat) : List UInt8 :=
  [UInt8.ofNat n, UInt8.ofNat (n / 2 ^ 8), UInt8.ofNat (n / 2 ^ 16), UInt8.ofNat (n / 2 ^ 24)]

/-- `WriteDataInBig` of a `uint16_t`. -/
def be16 (n : Nat) : List UInt8 := [UInt8.ofNat (n / 2 ^ 8), UInt8.ofNat n]

@[simp] theorem length_le16 (n : Nat) : (le16 n).length = 2 := rfl

@[simp] theorem length_le32 (n : Nat) : (le32 n).length = 4 := rfl

@[simp] theorem length_be16 (n : Nat) : (be16 n).length = 2 := rfl

theorem ofNat_congr {m n : Nat} (h : m % 2 ^ 8 = n % 2 ^ 8) : UInt8.ofNat m = UInt8.ofNat n := by
  apply UInt8.toNat_inj.mp
  rw [UInt8.toNat_ofNat', UInt8.toNat_ofNat']
  exact h

theorem be16_congr {m n : Nat} (h : m % 2 ^ 16 = n % 2 ^ 16) : be16 m = be16 n := by
  unfold be16
  rw [ofNat_congr (m := m) (n := n) (by omega),
    ofNat_congr (m := m / 2 ^ 8) (n := n / 2 ^ 8) (by omega)]

theorem le32_congr {m n : Nat} (h : m % 2 ^ 32 = n % 2 ^ 32) : le32 m = le32 n := by
  unfold le32
  rw [ofNat_congr (m := m) (n := n) (by omega),
    ofNat_congr (m := m / 2 ^ 8) (n := n / 2 ^ 8) (by omega),
    ofNat_congr (m := m / 2 ^ 16) (n := n / 2 ^ 16) (by omega),
    ofNat_congr (m := m / 2 ^ 24) (n := n / 2 ^ 24) (by omega)]

/-- What one `Write` method of `CIFDWriter` is told: the field, its value as bytes, and whether the
value goes behind the table. -/
structure IfdField where
  tag : Nat
  type : ExifType
  count : Nat
  data : List UInt8
  atValue : Bool
  fits : atValue = false → data.length ≤ ifdValoffSize

/-! ## 1. The methods -/

def rationalBytes (r : RationalT) : List UInt8 := le32 r.num.toNat ++ le32 r.den.toNat

def srationalBytes (r : SRationalT) : List UInt8 :=
  le32 r.num.toUInt32.toNat ++ le32 r.den.toUInt32.toNat

theorem length_flatMap_const {α : Type} {f : α → List UInt8} {n : Nat}
    (h : ∀ a, (f a).length = n) (as : List α) : (as.flatMap f).length = n * as.length := by
  induction as with
  | nil => rfl
  | cons a as ih =>
    rw [List.flatMap_cons, List.length_append, ih, h, List.length_cons, Nat.mul_succ, Nat.add_comm]

namespace IfdField

def writeByte (tag : Nat) (value : List UInt8) : IfdField where
  tag := tag
  type := .byte
  count := value.length
  data := value
  atValue := ifdValoffSize < value.length
  fits h := Nat.not_lt.mp (of_decide_eq_false h)

def writeShort (tag : Nat) (value : List UInt16) : IfdField where
  tag := tag
  type := .short
  count := value.length
  data := value.flatMap fun v => le16 v.toNat
  atValue := 2 < value.length
  fits h := by
    have hle := Nat.not_lt.mp (of_decide_eq_false h)
    have hlen : (value.flatMap fun v => le16 v.toNat).length = 2 * value.length :=
      length_flatMap_const (fun v => length_le16 v.toNat) value
    unfold ifdValoffSize
    omega

/-- Of several longs only the first byte is stored. -/
def writeLong (tag : Nat) (value : List UInt32) : IfdField where
  tag := tag
  type := .long
  count := value.length
  data :=
    if 1 < value.length then (le32 (value.headD 0).toNat).take 1 else le32 (value.headD 0).toNat
  atValue := 1 < value.length
  fits h := by
    rw [if_neg (of_decide_eq_false h)]
    exact Nat.le_refl _

/-- The last of `count` characters is stored as the terminator. -/
def writeAscii (tag count : Nat) (value : List UInt8) : IfdField where
  tag := tag
  type := .ascii
  count := count
  data := (value.take (count - 1) ++ [0]).take count
  atValue := ifdValoffSize < count
  fits h := by
    have hle := Nat.not_lt.mp (of_decide_eq_false h)
    rw [List.length_take]
    exact Nat.le_trans (Nat.min_le_left _ _) hle

/-- `strncpy` fills what is left of `count` with zeros. -/
def writeCString (tag count : Nat) (string : List UInt8) : IfdField where
  tag := tag
  type := .ascii
  count := count
  data := (string.take (count - 1) ++ List.replicate count 0).take count
  atValue := ifdValoffSize < count
  fits h := by
    have hle := Nat.not_lt.mp (of_decide_eq_false h)
    rw [List.length_take]
    exact Nat.le_trans (Nat.min_le_left _ _) hle

def writeRational (tag : Nat) (value : List RationalT) : IfdField where
  tag := tag
  type := .rational
  count := value.length
  data := value.flatMap rationalBytes
  atValue := true
  fits h := by cases h

def writeSRational (tag : Nat) (value : List SRationalT) : IfdField where
  tag := tag
  type := .srational
  count := value.length
  data := value.flatMap srationalBytes
  atValue := true
  fits h := by cases h

def writeUndef (tag : Nat) (value : List UInt8) : IfdField where
  tag := tag
  type := .undefined
  count := value.length
  data := value
  atValue := ifdValoffSize < value.length
  fits h := Nat.not_lt.mp (of_decide_eq_false h)

end IfdField

/-- `m_pBase`, `m_pIFDBase` and `m_pValue`, with what has been stored. -/
structure CIFDWriter where
  base : Nat
  ifd : Nat
  value : Nat
  out : Overlay

namespace CIFDWriter

/-- The constructor stores the field count. -/
def new (offsetBase ifdbase tagcount : Nat) (out : Overlay) : CIFDWriter where
  base := offsetBase
  ifd := ifdbase + ifdFieldcountSize
  value := ifdbase + ifdFieldcountSize + ifdFieldSize * tagcount + ifdNextifdoffsetSize
  out := out.put ifdbase (le16 tagcount)

def offset (w : CIFDWriter) (p : Nat) : Nat := sizeSub p w.base % 2 ^ 32

def writeTagTypeCount (w : CIFDWriter) (tag : Nat) (type : ExifType) (count : Nat) : CIFDWriter :=
  { w with
    ifd := w.ifd + 8
    out := w.out.put w.ifd (le16 tag ++ le16 type.code ++ le32 count) }

/-- `WriteOffset` at the cursor of the table. -/
def writeOffset (w : CIFDWriter) (addr : Nat) : CIFDWriter :=
  { w with ifd := w.ifd + 4, out := w.out.put w.ifd (le32 (w.offset addr)) }

def writeValue (w : CIFDWriter) (data : List UInt8) : CIFDWriter :=
  { w with value := w.value + data.length, out := w.out.put w.value data }

/-- What is not used of the value of the field is skipped. -/
def writeInline (w : CIFDWriter) (data : List UInt8) : CIFDWriter :=
  { w with ifd := w.ifd + 4, out := w.out.put w.ifd data }

def write (w : CIFDWriter) (f : IfdField) : CIFDWriter :=
  let w := w.writeTagTypeCount f.tag f.type f.count
  if f.atValue then (w.writeOffset w.value).writeValue f.data else w.writeInline f.data

def writeAll (w : CIFDWriter) (fields : List IfdField) : CIFDWriter := fields.foldl write w

/-- `BeginSubIFD`: the directory it announces begins at the cursor for values. -/
def beginSubIfd (w : CIFDWriter) (tag : Nat) : CIFDWriter :=
  let w := w.writeTagTypeCount tag .long 1
  w.writeOffset w.value

/-- `EndSubIFD`, with the stores of the writer of that directory. -/
def endSubIfd (w sub : CIFDWriter) : CIFDWriter := { w with value := sub.value, out := sub.out }

def finish (w : CIFDWriter) (last : Bool) : CIFDWriter :=
  { w with
    ifd := w.ifd + 4
    out := w.out.put w.ifd (le32 (if last then 0 else w.offset w.value)) }

end CIFDWriter

/-! ## 2. The layout of a directory -/

namespace IfdField

/-- The field as it stands in the table, where the next value goes to the offset `off`. -/
def entry (off : Nat) (f : IfdField) : Cells :=
  stored (le16 f.tag ++ le16 f.type.code ++ le32 f.count) ++
    if f.atValue then stored (le32 off) else stored f.data ++ blanks (4 - f.data.length)

/-- What the field puts behind the table. -/
def behind (f : IfdField) : List UInt8 := if f.atValue then f.data else []

theorem length_entry (off : Nat) (f : IfdField) : (f.entry off).length = ifdFieldSize := by
  unfold entry
  rw [List.length_append, length_stored]
  split
  · rfl
  · rename_i h
    have hfits := f.fits (Bool.not_eq_true _ ▸ h)
    unfold ifdValoffSize at hfits
    simp only [List.length_append, length_stored, length_blanks, length_le16, length_le32]
    unfold ifdFieldSize
    omega

end IfdField

/-- The fields of a table, where the first value goes to the offset `off`. -/
def table : Nat → List IfdField → Cells
  | _, [] => []
  | off, f :: fs => f.entry off ++ table (off + f.behind.length) fs

/-- The values behind a table. -/
def values (fields : List IfdField) : List UInt8 := fields.flatMap IfdField.behind

theorem length_table (off : Nat) (fields : List IfdField) :
    (table off fields).length = ifdFieldSize * fields.length := by
  induction fields generalizing off with
  | nil => rfl
  | cons f fs ih =>
    unfold table
    rw [List.length_append, ih, f.length_entry, List.length_cons, Nat.mul_succ, Nat.add_comm]

theorem length_values_cons (f : IfdField) (fs : List IfdField) :
    (values (f :: fs)).length = f.behind.length + (values fs).length := by
  unfold values
  rw [List.flatMap_cons, List.length_append]

/-- A field that points to a directory. -/
def subIfdEntry (tag off : Nat) : Cells :=
  stored (le16 tag ++ le16 ExifType.long.code ++ le32 1 ++ le32 off)

theorem length_subIfdEntry (tag off : Nat) : (subIfdEntry tag off).length = ifdFieldSize := rfl

/-! ## 3. What a writer has written -/

/-- The directory at `p`, for `n` fields, has the cells `tbl` so far in its table, its count
included, and `vals` behind the table. -/
structure CIFDWriter.Wrote (w : CIFDWriter) (o : Overlay) (base p n : Nat) (tbl vals : Cells) :
    Prop where
  base_eq : w.base = base
  ifd_eq : w.ifd = p + tbl.length
  value_eq : w.value = p + (6 + 12 * n) + vals.length
  out_eq : w.out = (o.lay p tbl).lay (p + (6 + 12 * n)) vals

namespace CIFDWriter.Wrote

variable {w : CIFDWriter} {o : Overlay} {base p n : Nat} {tbl vals : Cells}

theorem new (offsetBase ifdbase tagcount : Nat) (out : Overlay) :
    (CIFDWriter.new offsetBase ifdbase tagcount out).Wrote out offsetBase ifdbase tagcount
      (stored (le16 tagcount)) [] where
  base_eq := rfl
  ifd_eq := rfl
  value_eq := by
    change ifdbase + 2 + 12 * tagcount + 4 = ifdbase + (6 + 12 * tagcount) + 0
    omega
  out_eq := by
    rw [Overlay.lay_nil]
    rfl

/-- A store at the cursor of the table, while it has room. -/
theorem store {c : Cells} (h : w.Wrote o base p n tbl vals)
    (hroom : tbl.length + c.length ≤ 6 + 12 * n) :
    w.out.lay w.ifd c = (o.lay p (tbl ++ c)).lay (p + (6 + 12 * n)) vals := by
  rw [h.out_eq, h.ifd_eq, Overlay.lay_comm _ (by omega), Overlay.lay_append]

/-- A store behind the table. -/
theorem storeBehind {cells : Cells} (h : w.Wrote o base p n tbl vals) :
    w.out.lay w.value cells = (o.lay p tbl).lay (p + (6 + 12 * n)) (vals ++ cells) := by
  rw [h.out_eq, h.value_eq, Overlay.lay_append]

theorem writeTagTypeCount (h : w.Wrote o base p n tbl vals) (tag : Nat) (type : ExifType)
    (count : Nat) (hroom : tbl.length + 8 ≤ 6 + 12 * n) :
    (w.writeTagTypeCount tag type count).Wrote o base p n
      (tbl ++ stored (le16 tag ++ le16 type.code ++ le32 count)) vals where
  base_eq := h.base_eq
  ifd_eq := by
    rw [List.length_append, ← Nat.add_assoc, ← h.ifd_eq]
    rfl
  value_eq := h.value_eq
  out_eq := h.store hroom

theorem writeOffset (h : w.Wrote o base p n tbl vals) (addr : Nat)
    (hroom : tbl.length + 4 ≤ 6 + 12 * n) :
    (w.writeOffset addr).Wrote o base p n (tbl ++ stored (le32 (w.offset addr))) vals where
  base_eq := h.base_eq
  ifd_eq := by
    rw [List.length_append, ← Nat.add_assoc, ← h.ifd_eq]
    rfl
  value_eq := h.value_eq
  out_eq := h.store hroom

theorem writeValue (h : w.Wrote o base p n tbl vals) (data : List UInt8) :
    (w.writeValue data).Wrote o base p n tbl (vals ++ stored data) where
  base_eq := h.base_eq
  ifd_eq := h.ifd_eq
  value_eq := by
    rw [List.length_append, length_stored, ← Nat.add_assoc, ← h.value_eq]
    rfl
  out_eq := h.storeBehind

theorem writeInline (h : w.Wrote o base p n tbl vals) (data : List UInt8) (hdata : data.length ≤ 4)
    (hroom : tbl.length + 4 ≤ 6 + 12 * n) :
    (w.writeInline data).Wrote o base p n (tbl ++ (stored data ++ blanks (4 - data.length)))
      vals where
  base_eq := h.base_eq
  ifd_eq := by
    rw [List.length_append, List.length_append, length_stored, length_blanks,
      show data.length + (4 - data.length) = 4 by omega, ← Nat.add_assoc, ← h.ifd_eq]
    rfl
  value_eq := h.value_eq
  out_eq := by
    have hstore := h.store (c := stored data ++ blanks (4 - data.length)) (by
      rw [List.length_append, length_stored, length_blanks]
      omega)
    rw [Overlay.lay_append, Overlay.lay_blanks] at hstore
    exact hstore

/-- The offset that is stored for the cursor for values. -/
theorem le32_offset (h : w.Wrote o base p n tbl vals) (hbase : base ≤ p) :
    le32 (w.offset w.value) = le32 (p - base + (6 + 12 * n) + vals.length) := by
  apply le32_congr
  unfold CIFDWriter.offset sizeSub
  rw [h.base_eq, h.value_eq]
  omega

theorem write (h : w.Wrote o base p n tbl vals) (hbase : base ≤ p) (f : IfdField)
    (hroom : tbl.length + ifdFieldSize ≤ 6 + 12 * n) :
    (w.write f).Wrote o base p n
      (tbl ++ f.entry (p - base + (6 + 12 * n) + vals.length)) (vals ++ stored f.behind) := by
  unfold ifdFieldSize at hroom
  have hhead := h.writeTagTypeCount f.tag f.type f.count (by omega)
  have hroom4 : (tbl ++ stored (le16 f.tag ++ le16 f.type.code ++ le32 f.count)).length + 4 ≤
      6 + 12 * n := by
    rw [List.length_append]
    change tbl.length + 8 + 4 ≤ _
    omega
  unfold CIFDWriter.write IfdField.entry IfdField.behind
  rw [← List.append_assoc]
  by_cases hat : f.atValue = true
  · have hoffset := hhead.writeOffset (w.writeTagTypeCount f.tag f.type f.count).value hroom4
    rw [hhead.le32_offset hbase] at hoffset
    rw [if_pos hat, if_pos hat, if_pos hat]
    exact hoffset.writeValue f.data
  · have hinline := hhead.writeInline f.data (f.fits (Bool.not_eq_true _ ▸ hat)) hroom4
    rw [if_neg hat, if_neg hat, if_neg hat]
    rw [show vals ++ stored [] = vals from List.append_nil vals]
    exact hinline

theorem writeAll (h : w.Wrote o base p n tbl vals) (hbase : base ≤ p) (fields : List IfdField)
    (hroom : tbl.length + ifdFieldSize * fields.length ≤ 6 + 12 * n) :
    (w.writeAll fields).Wrote o base p n
      (tbl ++ table (p - base + (6 + 12 * n) + vals.length) fields)
      (vals ++ stored (values fields)) := by
  induction fields generalizing w tbl vals with
  | nil =>
    rw [show table (p - base + (6 + 12 * n) + vals.length) [] = [] from rfl,
      show stored (values []) = [] from rfl, List.append_nil, List.append_nil]
    exact h
  | cons f fs ih =>
    rw [List.length_cons, Nat.mul_succ] at hroom
    have hfirst := h.write hbase f (by omega)
    have hrest := ih hfirst (by
      rw [List.length_append, f.length_entry]
      omega)
    rw [List.append_assoc, List.append_assoc, List.length_append, length_stored,
      ← stored_append, ← Nat.add_assoc _ vals.length] at hrest
    exact hrest

/-- The directory a field announces begins where the values end. -/
theorem beginSubIfd (h : w.Wrote o base p n tbl vals) (hbase : base ≤ p) (tag : Nat)
    (hroom : tbl.length + ifdFieldSize ≤ 6 + 12 * n) :
    (w.beginSubIfd tag).Wrote o base p n
      (tbl ++ subIfdEntry tag (p - base + (6 + 12 * n) + vals.length)) vals := by
  unfold ifdFieldSize at hroom
  have hhead := h.writeTagTypeCount tag .long 1 (by omega)
  have hoffset := hhead.writeOffset (w.writeTagTypeCount tag .long 1).value (by
    rw [List.length_append]
    change tbl.length + 8 + 4 ≤ _
    omega)
  rw [hhead.le32_offset hbase, List.append_assoc, ← stored_append] at hoffset
  exact hoffset

/-- What the writer of a subdirectory put down counts among the values. -/
theorem endSubIfd (h : w.Wrote o base p n tbl vals) {sub : CIFDWriter} {cells : Cells}
    (hvalue : sub.value = w.value + cells.length) (hout : sub.out = w.out.lay w.value cells) :
    (w.endSubIfd sub).Wrote o base p n tbl (vals ++ cells) where
  base_eq := h.base_eq
  ifd_eq := h.ifd_eq
  value_eq := by
    rw [List.length_append, ← Nat.add_assoc, ← h.value_eq]
    exact hvalue
  out_eq := hout.trans h.storeBehind

/-- A table that is full makes one block with the link to the next directory and the values. -/
theorem out_eq_block {w : CIFDWriter} {next : Cells}
    (hout : w.out = (o.lay p (tbl ++ next)).lay (p + (6 + 12 * n)) vals)
    (hfull : tbl.length + next.length = 6 + 12 * n) :
    w.out = o.lay p (tbl ++ next ++ vals) := by
  rw [hout, Overlay.lay_append _ _ (tbl ++ next), List.length_append, hfull]

theorem finish (h : w.Wrote o base p n tbl vals) (hbase : base ≤ p) (last : Bool)
    (hfull : tbl.length + ifdNextifdoffsetSize = 6 + 12 * n) :
    (w.finish last).out = o.lay p (tbl ++
      stored (le32 (if last then 0 else p - base + (6 + 12 * n) + vals.length)) ++ vals) := by
  have hnext : le32 (if last then 0 else w.offset w.value) =
      le32 (if last then 0 else p - base + (6 + 12 * n) + vals.length) := by
    by_cases hlast : last = true
    · rw [if_pos hlast, if_pos hlast]
    · rw [if_neg hlast, if_neg hlast]
      exact h.le32_offset hbase
  have hlen : ∀ x : Nat, tbl.length + (stored (le32 x)).length = 6 + 12 * n := by
    intro x
    rw [length_stored, length_le32]
    exact hfull
  apply out_eq_block (n := n)
  · rw [← hnext]
    exact h.store (Nat.le_of_eq (hlen _))
  · exact hlen _

end CIFDWriter.Wrote

end Universal7870.Jpeg
