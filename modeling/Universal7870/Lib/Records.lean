import Mathlib.Data.List.Basic
import Mathlib.Algebra.Group.Nat.Defs

/-!
# Streams of records

A record on a stream is a big-endian length of four bytes and as many bytes.  A reader takes whole
records from the front of what it has; a record that is not there to its end stays.
-/

namespace Universal7870.Lib

/-- A number in the order of the network. -/
def be32 (n : Nat) : List UInt8 :=
  [UInt8.ofNat (n / 2 ^ 24), UInt8.ofNat (n / 2 ^ 16), UInt8.ofNat (n / 2 ^ 8), UInt8.ofNat n]

def recordBytes (body : List UInt8) : List UInt8 := be32 body.length ++ body

/-- The number in four bytes. -/
def networkWord (a b c d : UInt8) : Nat :=
  a.toNat * 2 ^ 24 + b.toNat * 2 ^ 16 + c.toNat * 2 ^ 8 + d.toNat

/-- Up to `turns` records from the front of a stream, and what is left of it. -/
def takeRecords : Nat → List UInt8 → List (List UInt8) × List UInt8
  | turns + 1, a :: b :: c :: d :: stream =>
    if networkWord a b c d ≤ stream.length then
      let r := takeRecords turns (stream.drop (networkWord a b c d))
      (stream.take (networkWord a b c d) :: r.1, r.2)
    else ([], a :: b :: c :: d :: stream)
  | _, stream => ([], stream)

/-- All records of a stream, each of which takes four bytes at least. -/
def readRecords (stream : List UInt8) : List (List UInt8) × List UInt8 := takeRecords stream.length stream

/-- The beginning of a record that is not there to its end. -/
def Incomplete (bytes : List UInt8) : Prop :=
  ∃ body rest, body.length < 2 ^ 32 ∧ rest ≠ [] ∧ bytes ++ rest = recordBytes body

theorem length_recordBytes (body : List UInt8) : (recordBytes body).length = 4 + body.length :=
  List.length_append

theorem incomplete_nil : Incomplete [] :=
  ⟨[], recordBytes [], by decide, List.cons_ne_nil _ _, rfl⟩

theorem networkWord_be32 {n : Nat} (h : n < 2 ^ 32) :
    networkWord (UInt8.ofNat (n / 2 ^ 24)) (UInt8.ofNat (n / 2 ^ 16)) (UInt8.ofNat (n / 2 ^ 8))
      (UInt8.ofNat n) = n := by
  unfold networkWord
  rw [UInt8.toNat_ofNat', UInt8.toNat_ofNat', UInt8.toNat_ofNat', UInt8.toNat_ofNat']
  omega

/-- A whole record is taken. -/
theorem takeRecords_recordBytes {body : List UInt8} (h : body.length < 2 ^ 32) (turns : Nat)
    (stream : List UInt8) : takeRecords (turns + 1) (recordBytes body ++ stream) =
      (body :: (takeRecords turns stream).1, (takeRecords turns stream).2) := by
  have hbytes : recordBytes body ++ stream = UInt8.ofNat (body.length / 2 ^ 24) ::
      UInt8.ofNat (body.length / 2 ^ 16) :: UInt8.ofNat (body.length / 2 ^ 8) ::
      UInt8.ofNat body.length :: (body ++ stream) := rfl
  rw [hbytes, takeRecords, networkWord_be32 h, List.length_append, if_pos (Nat.le_add_right _ _)]
  simp only [List.take_left, List.drop_left]

/-- Nothing is taken from a record that is not there to its end. -/
theorem takeRecords_incomplete {bytes : List UInt8} (h : Incomplete bytes) (turns : Nat) :
    takeRecords turns bytes = ([], bytes) := by
  obtain ⟨body, rest, hlength, hrest, hbytes⟩ := h
  have htotal := congrArg List.length hbytes
  have hpos := List.length_pos_iff.mpr hrest
  rw [List.length_append, length_recordBytes] at htotal
  cases turns with
  | zero => rfl
  | succ turns =>
    match bytes with
    -- the length is not complete
    | [] | [_] | [_, _] | [_, _, _] => rfl
    -- the length is, and is larger than what follows it
    | a :: b :: c :: d :: stream =>
      have hfour : [a, b, c, d] = be32 body.length := congrArg (List.take 4) hbytes
      have hword := networkWord_be32 hlength
      unfold be32 at hfour
      simp only [List.cons.injEq, and_true] at hfour
      obtain ⟨ha, hb, hc, hd⟩ := hfour
      rw [← ha, ← hb, ← hc, ← hd] at hword
      simp only [List.length_cons] at htotal
      unfold takeRecords
      rw [hword, if_neg (by omega)]

/-- The records of a stream, and the beginning of another one behind them, are told apart. -/
theorem readRecords_append {bodies : List (List UInt8)} (h : ∀ body ∈ bodies, body.length < 2 ^ 32)
    {bytes : List UInt8} (hbytes : Incomplete bytes) :
    readRecords (bodies.flatMap recordBytes ++ bytes) = (bodies, bytes) := by
  -- more turns than records do no harm
  have htake : ∀ turns, bodies.length ≤ turns →
      takeRecords turns (bodies.flatMap recordBytes ++ bytes) = (bodies, bytes) := by
    intro turns hturns
    induction bodies generalizing turns with
    | nil => exact takeRecords_incomplete hbytes turns
    | cons body bodies ih =>
      have hall := List.forall_mem_cons.mp h
      obtain ⟨turns, rfl⟩ : ∃ n, turns = n + 1 := ⟨turns - 1, by rw [List.length_cons] at hturns; omega⟩
      rw [List.flatMap_cons, List.append_assoc, takeRecords_recordBytes hall.1,
        ih hall.2 turns (Nat.le_of_succ_le_succ hturns)]
  apply htake
  have hlength : bodies.length ≤ (bodies.flatMap recordBytes).length := by
    clear h htake
    induction bodies with
    | nil => exact Nat.le_refl 0
    | cons body bodies ih =>
      rw [List.flatMap_cons, List.length_append, length_recordBytes, List.length_cons]
      omega
  rw [List.length_append]
  omega

end Universal7870.Lib
