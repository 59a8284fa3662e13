import Mathlib.Algebra.Group.Int.Defs
import Mathlib.Algebra.Group.Nat.Defs
import Mathlib.Data.List.GetD
import Universal7870.Lib.Overlay

/-!
# Reading TIFF structures

A reader for little-endian TIFF structures in a byte memory: the fields of a directory with their
values, and the directories that an Exif structure is made of.  A structure is known by its address
and its size; what a field or a pointer refers to has to lie inside.
-/

namespace Universal7870.Lib.Tiff

/-! ## 1. Values -/

def word16 (m : Nat → UInt8) (a : Nat) : Nat := (m a).toNat + 2 ^ 8 * (m (a + 1)).toNat

def word32 (m : Nat → UInt8) (a : Nat) : Nat := word16 m a + 2 ^ 16 * word16 m (a + 2)

/-- The number that a word stands for in two's complement. -/
def signed32 (n : Nat) : Int := if n < 2 ^ 31 then n else n - 2 ^ 32

/-- The values of one field, by its type. -/
inductive Value
  | bytes (bs : List UInt8)
  | ascii (chars : List UInt8)
  | shorts (vs : List Nat)
  | longs (vs : List Nat)
  | rationals (vs : List (Nat × Nat))
  | undefined (bs : List UInt8)
  | srationals (vs : List (Int × Int))
  deriving DecidableEq, Repr

inductive FieldType
  | byte
  | ascii
  | short
  | long
  | rational
  | undefined
  | srational
  deriving DecidableEq, Repr

def FieldType.code : FieldType → Nat
  | .byte => 1
  | .ascii => 2
  | .short => 3
  | .long => 4
  | .rational => 5
  | .undefined => 7
  | .srational => 10

def FieldType.ofCode : Nat → Option FieldType
  | 1 => some .byte
  | 2 => some .ascii
  | 3 => some .short
  | 4 => some .long
  | 5 => some .rational
  | 7 => some .undefined
  | 10 => some .srational
  | _ => none

@[simp] theorem FieldType.ofCode_code (type : FieldType) : ofCode type.code = some type := by
  cases type <;> rfl

/-- The bytes that one value takes. -/
def FieldType.size : FieldType → Nat
  | .byte | .ascii | .undefined => 1
  | .short => 2
  | .long => 4
  | .rational | .srational => 8

/-- The values that stand in bytes, one behind the other. -/
def Value.ofBytes (type : FieldType) (count : Nat) (bs : List UInt8) : Value :=
  let m (k : Nat) : UInt8 := bs.getD k 0
  match type with
  | .byte => .bytes bs
  | .ascii => .ascii bs
  | .undefined => .undefined bs
  | .short => .shorts ((List.range count).map fun k => word16 m (2 * k))
  | .long => .longs ((List.range count).map fun k => word32 m (4 * k))
  | .rational =>
    .rationals ((List.range count).map fun k => (word32 m (8 * k), word32 m (8 * k + 4)))
  | .srational => .srationals ((List.range count).map fun k =>
      (signed32 (word32 m (8 * k)), signed32 (word32 m (8 * k + 4))))

def readBytes (m : Nat → UInt8) (a n : Nat) : List UInt8 := (List.range n).map fun k => m (a + k)

/-- `count` values at the address `a`. -/
def readValue (m : Nat → UInt8) (a : Nat) (type : FieldType) (count : Nat) : Value :=
  .ofBytes type count (readBytes m a (type.size * count))

/-- Characters end in a zero. -/
def Value.Terminated : Value → Prop
  | .ascii chars => chars.getLast? = some 0
  | _ => True

/-! ## 2. Directories -/

structure Field where
  tag : Nat
  value : Value
  deriving DecidableEq, Repr

structure Directory where
  fields : List Field
  /-- The offset of the next directory, 0 for none. -/
  next : Nat
  deriving DecidableEq, Repr

/-- A field takes 12 bytes; values of more than 4 bytes are somewhere else. -/
def readField (m : Nat → UInt8) (tiff size p : Nat) : Option Field :=
  match FieldType.ofCode (word16 m (tiff + p + 2)) with
  | none => none
  | some type =>
    let count := word32 m (tiff + p + 4)
    let off := if type.size * count ≤ 4 then p + 8 else word32 m (tiff + p + 8)
    if off + type.size * count ≤ size then
      some ⟨word16 m (tiff + p), readValue m (tiff + off) type count⟩
    else none

/-- The fields from the offset `p` on. -/
def readFields (m : Nat → UInt8) (tiff size : Nat) : Nat → Nat → Option (List Field)
  | _, 0 => some []
  | p, n + 1 => (readField m tiff size p).bind fun f =>
      (readFields m tiff size (p + 12) n).map (f :: ·)

/-- The directory at the offset `off`: the number of its fields, the fields, and the link. -/
def readDirectory (m : Nat → UInt8) (tiff size off : Nat) : Option Directory :=
  let n := word16 m (tiff + off)
  if off + (6 + 12 * n) ≤ size then
    (readFields m tiff size (off + 2) n).map fun fields =>
      ⟨fields, word32 m (tiff + off + 2 + 12 * n)⟩
  else none

/-- The offset in the first field with the tag. -/
def Directory.pointer (d : Directory) (tag : Nat) : Option Nat :=
  (d.fields.find? (·.tag = tag)).bind fun f =>
    match f.value with
    | .longs [off] => some off
    | _ => none

/-! ## 3. Exif structures -/

def exifPointer : Nat := 0x8769

def gpsPointer : Nat := 0x8825

def interopPointer : Nat := 0xA005

def pointers : List Nat := [exifPointer, gpsPointer, interopPointer]

/-- The fields that are no pointers. -/
def Directory.attributes (d : Directory) : List Field := d.fields.filter fun f => f.tag ∉ pointers

/-- The directories of an Exif structure. -/
structure Exif where
  primary : List Field
  exif : Option (List Field)
  interop : Option (List Field)
  gps : Option (List Field)
  thumbnail : Option (List Field)
  deriving DecidableEq, Repr

def Exif.fields (x : Exif) : List Field :=
  x.primary ++ x.exif.getD [] ++ x.interop.getD [] ++ x.gps.getD [] ++ x.thumbnail.getD []

/-- The directory that a pointer leads to, if there is one. -/
def follow (m : Nat → UInt8) (tiff size : Nat) : Option Nat → Option (Option Directory)
  | none => some none
  | some off => (readDirectory m tiff size off).map some

/-- The structure at `tiff`: the first directory, those it points to, and the one that is linked
behind it, which has to be the last one. -/
def readExif (m : Nat → UInt8) (tiff size : Nat) : Option Exif :=
  if size < 8 ∨ word16 m tiff ≠ 0x4949 ∨ word16 m (tiff + 2) ≠ 42 then none
  else do
    let primary ← readDirectory m tiff size (word32 m (tiff + 4))
    let exif ← follow m tiff size (primary.pointer exifPointer)
    let interop ← follow m tiff size (exif.bind (·.pointer interopPointer))
    let gps ← follow m tiff size (primary.pointer gpsPointer)
    let thumbnail ← follow m tiff size (if primary.next = 0 then none else some primary.next)
    if (thumbnail.map (·.next)).getD 0 ≠ 0 then none
    else
      some ⟨primary.attributes, exif.map (·.attributes), interop.map (·.attributes),
        gps.map (·.attributes), thumbnail.map (·.attributes)⟩

def exifIdentifier : List UInt8 := [0x45, 0x78, 0x69, 0x66, 0, 0]

/-- The structure in the APP1 segment at the address `a`.  Its length field counts itself, the
identifier and the structure, and is big endian unlike all that follows. -/
def readApp1 (m : Nat → UInt8) (a : Nat) : Option Exif :=
  if m a = 0xFF ∧ m (a + 1) = 0xE1 ∧ readBytes m (a + 4) 6 = exifIdentifier then
    readExif m (a + 10) (2 ^ 8 * (m (a + 2)).toNat + (m (a + 3)).toNat - 8)
  else none

/-! ## 4. Words and values -/

variable {m : Nat → UInt8} {tiff size : Nat}

theorem word16_of_bytes {a n : Nat} (hn : n < 2 ^ 16) (h₀ : m a = UInt8.ofNat n)
    (h₁ : m (a + 1) = UInt8.ofNat (n / 2 ^ 8)) : word16 m a = n := by
  unfold word16
  rw [h₀, h₁, UInt8.toNat_ofNat', UInt8.toNat_ofNat']
  omega

theorem word32_of_bytes {a n : Nat} (hn : n < 2 ^ 32) (h₀ : m a = UInt8.ofNat n)
    (h₁ : m (a + 1) = UInt8.ofNat (n / 2 ^ 8)) (h₂ : m (a + 2) = UInt8.ofNat (n / 2 ^ 16))
    (h₃ : m (a + 3) = UInt8.ofNat (n / 2 ^ 24)) : word32 m a = n := by
  unfold word32 word16
  rw [h₀, h₁, h₂, show a + 2 + 1 = a + 3 from rfl, h₃, UInt8.toNat_ofNat', UInt8.toNat_ofNat',
    UInt8.toNat_ofNat', UInt8.toNat_ofNat']
  omega

theorem readBytes_eq {a : Nat} {bs : List UInt8} (h : ∀ k < bs.length, m (a + k) = bs.getD k 0) :
    readBytes m a bs.length = bs := by
  unfold readBytes
  refine List.ext_getElem (by rw [List.length_map, List.length_range]) fun k hk hk' => ?_
  rw [List.getElem_map, List.getElem_range, h k hk', List.getD_eq_getElem?_getD,
    List.getElem?_eq_getElem hk', Option.getD_some]

/-- Values of `n` bytes each, one behind the other. -/
theorem getD_flatMap {α : Type*} {f : α → List UInt8} {n : Nat} (h : ∀ a, (f a).length = n)
    (as : List α) {k j : Nat} (hk : k < as.length) (hj : j < n) :
    (as.flatMap f).getD (n * k + j) 0 = (f as[k]).getD j 0 := by
  induction as generalizing k with
  | nil => exact absurd hk (Nat.not_lt_zero k)
  | cons a as ih =>
    rw [List.flatMap_cons]
    cases k with
    | zero =>
      rw [Nat.mul_zero, Nat.zero_add, List.getD_append _ _ _ _ (by rw [h]; exact hj)]
      rfl
    | succ k =>
      rw [List.getD_append_right _ _ _ _ (by rw [h, Nat.mul_succ]; omega), h,
        show n * (k + 1) + j - n = n * k + j by rw [Nat.mul_succ]; omega]
      exact ih (Nat.lt_of_succ_lt_succ hk)

/-- Such values read one by one. -/
theorem map_range_flatMap {α β : Type*} {f : α → List UInt8} {n : Nat}
    (h : ∀ a, (f a).length = n) (g : (Nat → UInt8) → Nat → β) (r : α → β)
    (hread : ∀ a m k, (∀ j < n, m (k + j) = (f a).getD j 0) → g m k = r a) (as : List α) :
    ((List.range as.length).map fun k => g (fun j => (as.flatMap f).getD j 0) (n * k)) =
      as.map r := by
  refine List.ext_getElem (by simp only [List.length_map, List.length_range]) fun k hk hk' => ?_
  rw [List.length_map] at hk'
  rw [List.getElem_map, List.getElem_map, List.getElem_range]
  exact hread _ _ _ fun j hj => getD_flatMap h as hk' hj

/-! ## 5. Fields and directories -/

/-- A field whose words and values are known. -/
theorem readField_of {p tag off : Nat} {type : FieldType} {count : Nat} {bs : List UInt8}
    (htag : word16 m (tiff + p) = tag) (htype : word16 m (tiff + p + 2) = type.code)
    (hcount : word32 m (tiff + p + 4) = count) (hlength : bs.length = type.size * count)
    (hoff : off = if type.size * count ≤ 4 then p + 8 else word32 m (tiff + p + 8))
    (hbytes : ∀ k < bs.length, m (tiff + off + k) = bs.getD k 0) (hin : off + bs.length ≤ size) :
    readField m tiff size p = some ⟨tag, .ofBytes type count bs⟩ := by
  have hvalue : readValue m (tiff + off) type count = .ofBytes type count bs := by
    unfold readValue
    rw [← hlength, readBytes_eq hbytes]
  unfold readField
  rw [htype, FieldType.ofCode_code]
  dsimp only
  rw [hcount, ← hoff, ← hlength, if_pos hin, htag, hvalue]

theorem readFields_append {p j k : Nat} {xs ys : List Field}
    (hxs : readFields m tiff size p j = some xs)
    (hys : readFields m tiff size (p + 12 * j) k = some ys) :
    readFields m tiff size p (j + k) = some (xs ++ ys) := by
  induction j generalizing p xs with
  | zero =>
    obtain rfl := Option.some.inj hxs
    rw [Nat.zero_add]
    exact hys
  | succ j ih =>
    obtain ⟨f, hf, hrest⟩ := Option.bind_eq_some_iff.mp hxs
    obtain ⟨fs, hfs, rfl⟩ := Option.map_eq_some_iff.mp hrest
    have hboth : readFields m tiff size (p + 12) (j + k) = some (fs ++ ys) :=
      ih hfs (by rw [show p + 12 + 12 * j = p + 12 * (j + 1) by omega]; exact hys)
    rw [show j + 1 + k = j + k + 1 by omega]
    unfold readFields
    rw [hf, Option.bind_some, hboth]
    rfl

theorem readFields_singleton {p : Nat} {f : Field} (h : readField m tiff size p = some f) :
    readFields m tiff size p 1 = some [f] := by
  unfold readFields
  rw [h]
  rfl

theorem readDirectory_of {off n next : Nat} {fields : List Field}
    (hcount : word16 m (tiff + off) = n) (hfields : readFields m tiff size (off + 2) n = some fields)
    (hnext : word32 m (tiff + off + 2 + 12 * n) = next) (hin : off + (6 + 12 * n) ≤ size) :
    readDirectory m tiff size off = some ⟨fields, next⟩ := by
  unfold readDirectory
  dsimp only
  rw [hcount, if_pos hin, hfields, hnext]
  rfl

theorem follow_some {off : Nat} {d : Directory} (h : readDirectory m tiff size off = some d) :
    follow m tiff size (some off) = some (some d) := congrArg (Option.map some) h

theorem Directory.pointer_append {xs ys : List Field} {tag next : Nat} (h : ∀ f ∈ xs, f.tag ≠ tag) :
    (Directory.mk (xs ++ ys) next).pointer tag = (Directory.mk ys next).pointer tag := by
  have hnone : xs.find? (·.tag = tag) = none := by
    rw [List.find?_eq_none]
    exact fun f hf hat => h f hf (of_decide_eq_true hat)
  unfold Directory.pointer
  dsimp only
  rw [List.find?_append, hnone, Option.none_or]

theorem Directory.attributes_of_plain {xs : List Field} {next : Nat}
    (h : ∀ f ∈ xs, f.tag ∉ pointers) : (Directory.mk xs next).attributes = xs :=
  List.filter_eq_self.mpr fun f hf => decide_eq_true (h f hf)

theorem Directory.attributes_append {xs ys : List Field} {next : Nat}
    (hxs : ∀ f ∈ xs, f.tag ∉ pointers) (hys : ∀ f ∈ ys, f.tag ∈ pointers) :
    (Directory.mk (xs ++ ys) next).attributes = xs := by
  have hplain : xs.filter (fun f => f.tag ∉ pointers) = xs :=
    @Directory.attributes_of_plain xs next hxs
  have hnil : ys.filter (fun f => f.tag ∉ pointers) = [] :=
    List.filter_eq_nil_iff.mpr fun f hf hat => of_decide_eq_true hat (hys f hf)
  unfold Directory.attributes
  rw [List.filter_append, hplain, hnil, List.append_nil]

/-- The directories of a structure, each read where its pointer says. -/
theorem readExif_of {off next : Nat} {primary : Directory} {exif interop gps thumbnail : Option Directory}
    (hsize : 8 ≤ size) (horder : word16 m tiff = 0x4949) (hmagic : word16 m (tiff + 2) = 42)
    (hoff : word32 m (tiff + 4) = off) (hprimary : readDirectory m tiff size off = some primary)
    (hexif : follow m tiff size (primary.pointer exifPointer) = some exif)
    (hinterop : follow m tiff size (exif.bind (·.pointer interopPointer)) = some interop)
    (hgps : follow m tiff size (primary.pointer gpsPointer) = some gps)
    (hnext : primary.next = next)
    (hthumbnail : follow m tiff size (if next = 0 then none else some next) = some thumbnail)
    (hlast : ∀ d ∈ thumbnail, d.next = 0) :
    readExif m tiff size = some ⟨primary.attributes, exif.map (·.attributes),
      interop.map (·.attributes), gps.map (·.attributes), thumbnail.map (·.attributes)⟩ := by
  have hend : (thumbnail.map (·.next)).getD 0 = 0 := by
    cases thumbnail with
    | none => rfl
    | some d => exact hlast d rfl
  subst hnext
  unfold readExif
  rw [if_neg (by rw [horder, hmagic]; omega), hoff, hprimary]
  simp only [Option.bind_eq_bind, Option.bind_some, hexif, hinterop, hgps, hthumbnail, hend]
  rfl

end Universal7870.Lib.Tiff
