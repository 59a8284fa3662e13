import Mathlib.Data.Nat.Bitwise

/-!
# Debug attributes

`debug_attribute_t` of `ExynosExif.h`: the application markers a vendor wants in the stream, with
the sizes that `AppMarkerWriter.h` allows them.
-/

namespace Universal7870.Jpeg

def jpegMaxSegmentSize : Nat := 65435

def jpegMarkerSize : Nat := 2

def jpegSegmentLenfieldSize : Nat := 2

def extraAppmarkerMin : Int := 4

def extraAppmarkerLimit : Int := 10

/-- The difference of two numbers of type `size_t`. -/
def sizeSub (a b : Nat) : Nat := (a + 2 ^ 64 - b % 2 ^ 64) % 2 ^ 64

/-- A pointer moved by a number of type `size_t`.  The sum wraps, so a difference that has wrapped
below 0 moves the pointer back. -/
def ptrAdd (p n : Nat) : Nat := if n < 2 ^ 63 then p + n else p + n - 2 ^ 64

theorem ptrAdd_eq_mod {p n : Nat} (hp : p < 2 ^ 63) (hn : n < 2 ^ 64)
    (hback : n < 2 ^ 63 ∨ 2 ^ 64 ≤ p + n) : ptrAdd p n = (p + n) % 2 ^ 64 := by
  unfold ptrAdd
  split
  · omega
  · omega

theorem ptrAdd_of_lt {p n : Nat} (h : n < 2 ^ 63) : ptrAdd p n = p + n := if_pos h

/-- The two arrays over the application markers are indexed by the marker number.  `idx` holds one
marker number for each of the `numOfAppmarker` entries. -/
structure DebugAttribute where
  numOfAppmarker : Int
  idx : Nat → Int
  debugData : Int → Nat → UInt8
  debugSize : Int → Nat

namespace DebugAttribute

/-- The bytes a `memcpy` of the data of one marker copies. -/
def bytes (debug : DebugAttribute) (appid : Int) : List UInt8 :=
  (List.range (debug.debugSize appid)).map (debug.debugData appid)

theorem length_bytes (debug : DebugAttribute) (appid : Int) :
    (debug.bytes appid).length = debug.debugSize appid := by
  unfold bytes
  rw [List.length_map, List.length_range]

def validAppid (appid : Int) : Prop := extraAppmarkerMin ≤ appid ∧ appid < extraAppmarkerLimit

instance (appid : Int) : Decidable (validAppid appid) := inferInstanceAs (Decidable (_ ∧ _))

def validSize (applen : Nat) : Prop :=
  applen ≠ 0 ∧ applen ≤ jpegMaxSegmentSize - jpegSegmentLenfieldSize

instance (applen : Nat) : Decidable (validSize applen) := inferInstanceAs (Decidable (_ ∧ _))

/-- The loop of `GetExtraAPPSize`, with the indices to go.  An entry that is not valid ends it with
the length 0, and leaves the bits that are set so far. -/
def extraAPPSizeLoop (debug : DebugAttribute) : List Nat → Nat → Nat → Nat × Nat
  | [], len, appidBits => (len, appidBits)
  | i :: is, len, appidBits =>
    let appid := debug.idx i
    let applen := debug.debugSize appid
    if ¬validAppid appid then (0, appidBits)
    else if ¬validSize applen then (0, appidBits)
    else debug.extraAPPSizeLoop is (len + (applen + jpegMarkerSize + jpegSegmentLenfieldSize))
      (appidBits ||| 1 <<< appid.toNat)

/-- `GetExtraAPPSize`: the space the segments take, and the set of their markers as a bit mask. -/
def getExtraAPPSize (debug : DebugAttribute) : Nat × Nat :=
  debug.extraAPPSizeLoop (List.range debug.numOfAppmarker.toNat) 0 0

end DebugAttribute

end Universal7870.Jpeg
