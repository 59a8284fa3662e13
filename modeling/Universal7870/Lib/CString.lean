import Mathlib.Algebra.Group.Int.Defs
import Mathlib.Data.List.Basic
import Mathlib.Data.List.TakeWhile
import Mathlib.Tactic.Common

/-!
# Strings of the C library

A C string is the list of its characters in front of the NUL.  `cutAt` is a search with `strchr`,
`decimal` the conversion `%d`, and `strtol` reads a number back.  A `StringMap` is ordered by `strcmp`.
-/

namespace Universal7870.Lib

abbrev CString := List Char

/-- `strchr`: the text in front of the first `c` and the text behind it, none where there is none. -/
def cutAt (c : Char) : CString → Option (CString × CString)
  | [] => none
  | ch :: s =>
    if ch = c then some ([], s)
    else (cutAt c s).map fun (front, behind) => (ch :: front, behind)

/-- `isspace` of the C locale. -/
def isCSpace (c : Char) : Bool := c == ' ' || (9 ≤ c.toNat && c.toNat ≤ 13)

/-- The value of a digit of any base up to 36. -/
def digitValue (c : Char) : Option Nat :=
  if 48 ≤ c.toNat ∧ c.toNat ≤ 57 then some (c.toNat - 48)
  else if 97 ≤ c.toNat ∧ c.toNat ≤ 122 then some (c.toNat - 87)
  else if 65 ≤ c.toNat ∧ c.toNat ≤ 90 then some (c.toNat - 55)
  else none

def digitOf (base : Nat) (c : Char) : Option Nat := (digitValue c).filter (· < base)

/-- The digits at the front of a text, read behind the number `n`, and the text behind them. -/
def takeDigits (base n : Nat) : CString → Nat × CString
  | [] => (n, [])
  | c :: s =>
    match digitOf base c with
    | some d => takeDigits base (n * base + d) s
    | none => (n, c :: s)

/-- The base and the digits that base 0 stands for. -/
def detectBase : CString → Nat × CString
  | '0' :: x :: c :: s =>
    -- "0x" without a digit behind it is the octal number 0
    if (x = 'x' ∨ x = 'X') ∧ (digitOf 16 c).isSome then (16, c :: s) else (8, '0' :: x :: c :: s)
  | '0' :: s => (8, '0' :: s)
  | s => (10, s)

/-- `value` held inside the range of a `long` of `bits` bits. -/
def clampLong (bits : Nat) (value : Int) : Int :=
  if value < -2 ^ (bits - 1) then -2 ^ (bits - 1)
  else if 2 ^ (bits - 1) ≤ value then 2 ^ (bits - 1) - 1
  else value

def readSign : CString → Bool × CString
  | '-' :: t => (true, t)
  | '+' :: t => (false, t)
  | t => (false, t)

/-- The number at the front of `t` and the text behind it; where there is no digit that is the whole
text `s`. -/
def readNumber (bits base : Nat) (negative : Bool) (s t : CString) : Int × CString :=
  if (t.head?.bind (digitOf base)).isNone then (0, s)
  else
    let value : Int := if negative then -(takeDigits base 0 t).1 else (takeDigits base 0 t).1
    (clampLong bits value, (takeDigits base 0 t).2)

def strtol (bits base : Nat) (s : CString) : Int × CString :=
  let signed := readSign (s.dropWhile isCSpace)
  let based := if base = 0 then detectBase signed.2 else (base, signed.2)
  readNumber bits based.1 signed.1 s based.2

/-- The conversion of a number to an `int` of 32 bits. -/
def toInt32 (n : Int) : Int := (n + 2 ^ 31) % 2 ^ 32 - 2 ^ 31

/-- `std::stoi`, and the extraction of an `int` from a stream: the number at the front of a text, none
where there is no number or it is not an `int`. -/
def readInt (s : CString) : Option Int32 :=
  let r := strtol 64 10 s
  -- nothing was converted
  if r.2.length = s.length then none
  else if r.1 < -2 ^ 31 ∨ 2 ^ 31 ≤ r.1 then none
  else some (Int32.ofInt r.1)

def digitChar (d : Nat) : Char := Char.ofNat (48 + d)

/-- The digits of a number, most significant first. -/
def decimalNat (n : Nat) : CString :=
  if n < 10 then [digitChar n] else decimalNat (n / 10) ++ [digitChar (n % 10)]
termination_by n
decreasing_by omega

/-- `%d`. -/
def decimal (n : Int) : CString :=
  if n < 0 then '-' :: decimalNat n.natAbs else decimalNat n.natAbs

def charOrder : Char → Char → Ordering := @compareOn Nat Char instOrdNat Char.toNat

def strcmp : CString → CString → Ordering := List.compareLex charOrder

instance : Std.TransCmp charOrder :=
  inferInstanceAs (Std.TransCmp (@compareOn Nat Char instOrdNat Char.toNat))

instance : Std.LawfulEqCmp charOrder where
  compare_self := Std.compare_self (α := Nat)
  eq_of_compare h := Char.toNat_inj.mp (Nat.compare_eq_eq.mp h)

instance : Std.TransCmp strcmp := inferInstanceAs (Std.TransCmp (List.compareLex _))

instance : Std.LawfulEqCmp strcmp := inferInstanceAs (Std.LawfulEqCmp (List.compareLex _))

/-- A vector of entries kept sorted by `strcmp` of their keys. -/
abbrev StringMap := Std.ExtTreeMap CString CString strcmp

/-! ## 1. Cutting -/

theorem cutAt_append {c : Char} {front : CString} (h : c ∉ front) (behind : CString) :
    cutAt c (front ++ c :: behind) = some (front, behind) := by
  induction front with
  | nil => rw [List.nil_append, cutAt, if_pos rfl]
  | cons ch front ih =>
    have hch : ch ≠ c := fun heq => h (heq ▸ List.mem_cons_self)
    rw [List.cons_append, cutAt, if_neg hch, ih (fun hmem => h (List.mem_cons_of_mem _ hmem))]
    rfl

theorem cutAt_eq_none {c : Char} {s : CString} : cutAt c s = none ↔ c ∉ s := by
  induction s with
  | nil => simp [cutAt]
  | cons ch s ih =>
    rw [cutAt]
    split
    · rename_i hch
      simp [hch]
    · rename_i hch
      rw [Option.map_eq_none_iff, ih, List.mem_cons]
      simp [Ne.symm hch]

theorem cutAt_eq_some {c : Char} {s front behind : CString} (h : cutAt c s = some (front, behind)) :
    s = front ++ c :: behind ∧ c ∉ front := by
  induction s generalizing front with
  | nil => cases h
  | cons ch s ih =>
    rw [cutAt] at h
    split at h
    · rename_i hch
      cases h
      exact ⟨by rw [hch]; rfl, List.not_mem_nil⟩
    · rename_i hch
      rw [Option.map_eq_some_iff] at h
      obtain ⟨⟨front', behind'⟩, hcut, heq⟩ := h
      cases heq
      obtain ⟨hs, hfront⟩ := ih hcut
      refine ⟨by rw [hs]; rfl, ?_⟩
      rw [List.mem_cons]
      exact fun hmem => hmem.elim (fun heq => hch heq.symm) hfront

/-! ## 2. Numbers -/

theorem digitOf_digitChar : ∀ d < 10, digitOf 10 (digitChar d) = some d := by decide

theorem isCSpace_digitChar : ∀ d < 10, isCSpace (digitChar d) = false := by decide

theorem digitChar_ne_sign : ∀ d < 10, digitChar d ≠ '-' ∧ digitChar d ≠ '+' := by decide

theorem takeDigits_append {base n : Nat} {ds : List Nat} {f : Nat → Char}
    (h : ∀ d ∈ ds, digitOf base (f d) = some d) (rest : CString) :
    takeDigits base n (ds.map f ++ rest) = takeDigits base (ds.foldl (fun n d => n * base + d) n) rest := by
  induction ds generalizing n with
  | nil => rfl
  | cons d ds ih =>
    have hd := List.forall_mem_cons.mp h
    rw [List.map_cons, List.cons_append, takeDigits, hd.1]
    exact ih hd.2

/-- The digits of a number with their values. -/
theorem decimalNat_digits (n : Nat) :
    ∃ d ds, decimalNat n = (d :: ds).map digitChar ∧ (∀ e ∈ d :: ds, e < 10) ∧
      (d :: ds).foldl (fun n d => n * 10 + d) 0 = n ∧ (d = 0 → n = 0 ∧ ds = []) := by
  induction n using Nat.strongRecOn with
  | ind n ih =>
    unfold decimalNat
    by_cases hn : n < 10
    · rw [if_pos hn]
      refine ⟨n, [], rfl, by simpa using hn, by simp, fun h => ⟨h, rfl⟩⟩
    · rw [if_neg hn]
      -- the last digit goes behind those of `n / 10`
      obtain ⟨d, ds, heq, hlt, hfold, hzero⟩ := ih (n / 10) (by omega)
      refine ⟨d, ds ++ [n % 10], ?_, ?_, ?_, ?_⟩
      · rw [heq, ← List.cons_append, List.map_append]
        rfl
      · intro e he
        rw [← List.cons_append, List.mem_append, List.mem_singleton] at he
        rcases he with he | rfl
        · exact hlt e he
        · exact Nat.mod_lt _ (by decide)
      · rw [← List.cons_append, List.foldl_append, hfold, List.foldl_cons, List.foldl_nil]
        omega
      · intro hd
        have := (hzero hd).1
        omega

theorem takeDigits_decimalNat (n : Nat) (rest : CString) :
    takeDigits 10 0 (decimalNat n ++ rest) = takeDigits 10 n rest := by
  obtain ⟨d, ds, heq, hlt, hfold, -⟩ := decimalNat_digits n
  rw [heq, takeDigits_append (fun e he => digitOf_digitChar e (hlt e he)), hfold]

/-- A text that no digit of the base continues. -/
def EndsNumber (base : Nat) (rest : CString) : Prop := (rest.head?.bind (digitOf base)).isNone

theorem takeDigits_of_ends {base : Nat} {rest : CString} (h : EndsNumber base rest) (n : Nat) :
    takeDigits base n rest = (n, rest) := by
  cases rest with
  | nil => rfl
  | cons c rest =>
    have hc : digitOf base c = none := Option.isNone_iff_eq_none.mp h
    rw [takeDigits, hc]

theorem head_decimalNat (n : Nat) : ∃ d tail, d < 10 ∧ decimalNat n = digitChar d :: tail := by
  obtain ⟨d, ds, heq, hlt, -⟩ := decimalNat_digits n
  exact ⟨d, ds.map digitChar, hlt d List.mem_cons_self, heq⟩

theorem mem_decimal {n : Int} {c : Char} (h : c ∈ decimal n) : c = '-' ∨ ∃ d < 10, c = digitChar d := by
  have hdigits : ∀ m, c ∈ decimalNat m → ∃ d < 10, c = digitChar d := by
    intro m hm
    obtain ⟨d, ds, heq, hlt, -⟩ := decimalNat_digits m
    rw [heq, List.mem_map] at hm
    obtain ⟨e, he, rfl⟩ := hm
    exact ⟨e, hlt e he, rfl⟩
  unfold decimal at h
  split at h
  · rcases List.mem_cons.mp h with heq | hmem
    · exact Or.inl heq
    · exact Or.inr (hdigits _ hmem)
  · exact Or.inr (hdigits _ h)

theorem decimal_ne_nil (n : Int) : decimal n ≠ [] := by
  obtain ⟨d, tail, -, heq⟩ := head_decimalNat n.natAbs
  unfold decimal
  split
  · exact List.cons_ne_nil _ _
  · rw [heq]
    exact List.cons_ne_nil _ _

theorem readNumber_decimalNat {bits : Nat} {negative : Bool} {n : Nat} {rest : CString}
    (hends : EndsNumber 10 rest) (s : CString) {value : Int}
    (hvalue : value = if negative then -(n : Int) else n)
    (hlow : -2 ^ (bits - 1) ≤ value) (hhigh : value < 2 ^ (bits - 1)) :
    readNumber bits 10 negative s (decimalNat n ++ rest) = (value, rest) := by
  obtain ⟨d, tail, hd, heq⟩ := head_decimalNat n
  have hdigit : ¬((decimalNat n ++ rest).head?.bind (digitOf 10)).isNone := by
    rw [heq, List.cons_append, List.head?_cons, Option.bind_some, digitOf_digitChar d hd]
    exact fun h => by cases h
  unfold readNumber
  rw [if_neg hdigit, takeDigits_decimalNat, takeDigits_of_ends hends]
  simp only [← hvalue]
  unfold clampLong
  rw [if_neg (by omega), if_neg (by omega)]

/-- The sign and the digits are found again at the front of `%d`. -/
theorem readSign_decimal (n : Int) (rest : CString) :
    readSign ((decimal n ++ rest).dropWhile isCSpace) = (decide (n < 0), decimalNat n.natAbs ++ rest) := by
  obtain ⟨d, tail, hd, heq⟩ := head_decimalNat n.natAbs
  unfold decimal
  by_cases hn : n < 0
  · rw [if_pos hn, List.cons_append, List.dropWhile_cons_of_neg (by decide), decide_eq_true hn]
    rfl
  · rw [if_neg hn, heq, List.cons_append,
      List.dropWhile_cons_of_neg (by rw [isCSpace_digitChar d hd]; decide), decide_eq_false hn]
    -- no sign is read where none was printed
    have hsign := digitChar_ne_sign d hd
    unfold readSign
    split
    · rename_i h
      exact absurd (List.cons.inj h).1 hsign.1
    · rename_i h
      exact absurd (List.cons.inj h).1 hsign.2
    · rfl

/-- `strtol` reads back what `%d` prints, and stops behind it. -/
theorem strtol_decimal {bits : Nat} {n : Int} (hlow : -2 ^ (bits - 1) ≤ n)
    (hhigh : n < 2 ^ (bits - 1)) {rest : CString} (hends : EndsNumber 10 rest) :
    strtol bits 10 (decimal n ++ rest) = (n, rest) := by
  unfold strtol
  rw [readSign_decimal]
  simp only [if_neg (by decide : ¬(10 = 0))]
  refine readNumber_decimalNat hends _ ?_ hlow hhigh
  by_cases hn : n < 0
  · rw [decide_eq_true hn, if_pos rfl]
    omega
  · rw [decide_eq_false hn, if_neg (by decide)]
    omega

theorem length_takeDigits_le (base n : Nat) (s : CString) : (takeDigits base n s).2.length ≤ s.length := by
  induction s generalizing n with
  | nil => exact Nat.le_refl 0
  | cons c s ih =>
    rw [takeDigits]
    split
    · exact Nat.le_succ_of_le (ih _)
    · exact Nat.le_refl _

theorem length_readSign_le (s : CString) : (readSign s).2.length ≤ s.length := by
  unfold readSign
  split
  · exact Nat.le_succ _
  · exact Nat.le_succ _
  · exact Nat.le_refl _

/-- `strtol` goes forward only. -/
theorem length_strtol_le (bits : Nat) {base : Nat} (hbase : base ≠ 0) (s : CString) :
    (strtol bits base s).2.length ≤ s.length := by
  have hsign := length_readSign_le (s.dropWhile isCSpace)
  have hspace := (List.dropWhile_sublist (l := s) isCSpace).length_le
  unfold strtol
  simp only [if_neg hbase]
  unfold readNumber
  split
  · exact Nat.le_refl _
  · have hdigits := length_takeDigits_le base 0 (readSign (s.dropWhile isCSpace)).2
    exact Nat.le_trans hdigits (Nat.le_trans hsign hspace)

theorem toInt32_of_mem {n : Int} (hlow : -2 ^ 31 ≤ n) (hhigh : n < 2 ^ 31) : toInt32 n = n := by
  unfold toInt32
  omega

/-- A printed `int` is read back. -/
theorem readInt_decimal (n : Int32) {rest : CString} (hends : EndsNumber 10 rest) :
    readInt (decimal n.toInt ++ rest) = some n := by
  have hlow : -2 ^ 31 ≤ n.toInt := Int32.le_toInt n
  have hhigh : n.toInt < 2 ^ 31 := Int32.toInt_lt n
  have hlength := List.length_pos_iff.mpr (decimal_ne_nil n.toInt)
  unfold readInt
  -- an `int` is inside the range of a `long` of 64 bits
  rw [strtol_decimal (by omega) (by omega) hends]
  dsimp only
  rw [List.length_append, if_neg (by omega), if_neg (by omega), Int32.ofInt_toInt]

/-! ## 3. Maps -/

/-- The entries of a map, added one by one to an empty one, make the map again. -/
theorem foldl_insert_toList (m : StringMap) :
    m.toList.foldl (fun m e => m.insert e.1 e.2) ∅ = m := by
  have hfold : m.toList.foldl (fun m e => m.insert e.1 e.2) ∅ =
      Std.ExtTreeMap.ofList m.toList strcmp := Std.ExtTreeMap.ofList_eq_foldl.symm
  rw [hfold]
  refine Std.ExtTreeMap.ext_getElem? fun k => ?_
  cases hk : m[k]? with
  | some v =>
    have hmem := Std.ExtTreeMap.mem_toList_iff_getElem?_eq_some.mpr hk
    exact Std.ExtTreeMap.getElem?_ofList_of_mem (Std.ReflCmp.compare_self : strcmp k k = .eq)
      Std.ExtTreeMap.distinct_keys_toList hmem
  | none =>
    refine Std.ExtTreeMap.getElem?_ofList_of_contains_eq_false (Bool.eq_false_iff.mpr fun h => ?_)
    rw [List.contains_iff_mem, List.mem_map] at h
    obtain ⟨e, hmem, rfl⟩ := h
    rw [Std.ExtTreeMap.mem_toList_iff_getElem?_eq_some.mp hmem] at hk
    cases hk

end Universal7870.Lib
