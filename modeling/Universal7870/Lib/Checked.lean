import Mathlib.Data.List.Basic

/-!
# Checked access to a byte buffer

Code that walks a buffer with its own counters, run against an accessor that stops at the first
read or write outside the buffer and at the first unsigned subtraction that would wrap.  What the
code does inside its bounds is then what it does when the run succeeds, and the `succeeds` rules
compute the weakest precondition for that.
-/

namespace Universal7870.Lib

inductive Fault
  | read (offset : Nat)
  | write (offset : Nat)
  | wrap
  deriving DecidableEq, Repr

abbrev Checked := Except Fault

variable {α β : Type}

def Succeeds (x : Checked α) : Prop := ∃ a, x = .ok a

/-- The byte at an offset, as a total function. -/
def byteAt (buf : List UInt8) (i : Nat) : UInt8 := buf.getD i 0

/-- The big-endian 16-bit number at an offset. -/
def be16At (buf : List UInt8) (i : Nat) : Nat := (byteAt buf i).toNat * 256 + (byteAt buf (i + 1)).toNat

def readByte (buf : List UInt8) (i : Nat) : Checked UInt8 :=
  if i < buf.length then .ok (byteAt buf i) else .error (.read i)

/-- `buf` with the bytes from offset `i` on replaced by `data`. -/
def splice (buf : List UInt8) (i : Nat) (data : List UInt8) : List UInt8 :=
  buf.take i ++ data ++ buf.drop (i + data.length)

def writeBytes (buf : List UInt8) (i : Nat) (data : List UInt8) : Checked (List UInt8) :=
  if i + data.length ≤ buf.length then .ok (splice buf i data) else .error (.write i)

/-! ## 1. When a computation succeeds -/

@[simp] theorem succeeds_ok (a : α) : Succeeds (.ok a) := ⟨a, rfl⟩

@[simp] theorem succeeds_pure (a : α) : Succeeds (pure a : Checked α) := ⟨a, rfl⟩

@[simp] theorem not_succeeds_error (e : Fault) : ¬Succeeds (.error e : Checked α) := by
  rintro ⟨a, h⟩
  cases h

@[simp] theorem not_succeeds_throw (e : Fault) : ¬Succeeds (throw e : Checked α) :=
  not_succeeds_error e

theorem succeeds_ite {c : Prop} [Decidable c] {x y : Checked α} :
    Succeeds (if c then x else y) ↔ (c → Succeeds x) ∧ (¬c → Succeeds y) := by
  split <;> rename_i h <;> simp [h]

@[simp] theorem ok_bind (a : α) (f : α → Checked β) : (Except.ok a >>= f) = f a := rfl

@[simp] theorem pure_bind_checked (a : α) (f : α → Checked β) :
    ((pure a : Checked α) >>= f) = f a := rfl

theorem readByte_eq {buf : List UInt8} {i : Nat} (h : i < buf.length) :
    readByte buf i = .ok (byteAt buf i) := if_pos h

theorem succeeds_readByte_bind {buf : List UInt8} {i : Nat} {f : UInt8 → Checked β} :
    Succeeds (readByte buf i >>= f) ↔ i < buf.length ∧ Succeeds (f (byteAt buf i)) := by
  unfold readByte
  split
  · rename_i h
    simp only [ok_bind, h, true_and]
  · rename_i h
    constructor
    · exact fun hs => absurd hs (not_succeeds_error _)
    · exact fun hs => absurd hs.1 h

theorem succeeds_writeBytes_bind {buf data : List UInt8} {i : Nat} {f : List UInt8 → Checked β} :
    Succeeds (writeBytes buf i data >>= f) ↔
      i + data.length ≤ buf.length ∧ Succeeds (f (splice buf i data)) := by
  unfold writeBytes
  split
  · rename_i h
    simp only [ok_bind, h, true_and]
  · rename_i h
    constructor
    · exact fun hs => absurd hs (not_succeeds_error _)
    · exact fun hs => absurd hs.1 h

/-! ## 2. Replacing bytes -/

theorem length_splice {buf data : List UInt8} {i : Nat} (h : i + data.length ≤ buf.length) :
    (splice buf i data).length = buf.length := by
  unfold splice
  simp only [List.length_append, List.length_take, List.length_drop]
  omega

theorem byteAt_splice_before {buf data : List UInt8} {i j : Nat}
    (h : i + data.length ≤ buf.length) (hj : j < i) :
    byteAt (splice buf i data) j = byteAt buf j := by
  unfold byteAt splice
  simp only [List.getD_eq_getElem?_getD]
  rw [List.append_assoc,
    List.getElem?_append_left (by simp only [List.length_take]; omega), List.getElem?_take_of_lt hj]

theorem byteAt_splice_inside {buf data : List UInt8} {i j : Nat}
    (h : i + data.length ≤ buf.length) (hj : j < data.length) :
    byteAt (splice buf i data) (i + j) = byteAt data j := by
  unfold byteAt splice
  simp only [List.getD_eq_getElem?_getD]
  rw [List.append_assoc,
    List.getElem?_append_right (by simp only [List.length_take]; omega),
    List.getElem?_append_left (by simp only [List.length_take]; omega)]
  simp only [List.length_take]
  congr 2
  omega

theorem byteAt_splice_after {buf data : List UInt8} {i j : Nat}
    (h : i + data.length ≤ buf.length) (hj : i + data.length ≤ j) :
    byteAt (splice buf i data) j = byteAt buf j := by
  unfold byteAt splice
  simp only [List.getD_eq_getElem?_getD]
  rw [List.getElem?_append_right (by simp only [List.length_append, List.length_take]; omega),
    List.getElem?_drop]
  simp only [List.length_append, List.length_take]
  congr 2
  omega

/-- A buffer is its length and its bytes. -/
theorem ext_byteAt {buf buf' : List UInt8} (hlength : buf.length = buf'.length)
    (hbytes : ∀ i, i < buf'.length → byteAt buf i = byteAt buf' i) : buf = buf' := by
  refine List.ext_getElem hlength fun i hi hi' => ?_
  have hbyte := hbytes i hi'
  unfold byteAt at hbyte
  simp only [List.getD_eq_getElem?_getD] at hbyte
  rwa [List.getElem?_eq_getElem hi, List.getElem?_eq_getElem hi'] at hbyte

/-! ## 3. A position behind a prefix -/

theorem byteAt_append (pre xs : List UInt8) (i : Nat) :
    byteAt (pre ++ xs) (pre.length + i) = byteAt xs i := by
  unfold byteAt
  rw [List.getD_eq_getElem?_getD, List.getElem?_append_right (Nat.le_add_right _ i),
    Nat.add_sub_cancel_left, ← List.getD_eq_getElem?_getD]

theorem readByte_append {pre xs : List UInt8} {i : Nat} (h : i < xs.length) :
    readByte (pre ++ xs) (pre.length + i) = .ok (byteAt xs i) := by
  rw [readByte_eq (by rw [List.length_append]; omega), byteAt_append]

/-- Bytes in the middle are replaced by as many others. -/
theorem writeBytes_append (pre : List UInt8) {old new : List UInt8} (h : old.length = new.length)
    (tail : List UInt8) :
    writeBytes (pre ++ (old ++ tail)) pre.length new = .ok (pre ++ (new ++ tail)) := by
  unfold writeBytes splice
  rw [if_pos (by rw [List.length_append, List.length_append]; omega), List.take_left, ← h,
    ← List.append_assoc pre old tail, ← List.length_append, List.drop_left, List.append_assoc]

end Universal7870.Lib
