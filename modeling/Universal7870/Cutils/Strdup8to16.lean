import Mathlib.Algebra.Group.Nat.Defs
import Mathlib.Data.List.Basic
import Mathlib.Tactic.Common

/-!
# From modified UTF-8 to UTF-16

`strdup8to16.cpp`.  A pointer into a byte object is the list of the bytes from it to the end of the
object, so a read through it at the end of that list is a read outside the object.
-/

namespace Universal7870.Cutils

abbrev Ptr := List UInt8

def utf16ReplacementChar : UInt32 := 0xfffd

def unicodeUpperLimit : UInt32 := 0x10fffd

/-- `UTF8_SEQ_LENGTH`.  The four bits that the mask keeps are the same whether `char` is signed. -/
def utf8SeqLength (ch : UInt8) : Nat :=
  (((0xe5000000 : UInt32) >>> ((ch.toUInt32 >>> 3) &&& 0x1e)) &&& 3).toNat + 1

/-- The bytes that start with the bits 10. -/
def isExtension (ch : UInt8) : Prop := ch &&& 0xc0 = 0x80

instance (ch : UInt8) : Decidable (isExtension ch) := inferInstanceAs (Decidable (_ = _))

def leaderMask : List UInt32 := [0xff, 0x1f, 0x0f, 0x07]

/-- `UTF8_SHIFT_AND_MASK` -/
def utf8ShiftAndMask (unicode : UInt32) (byte : UInt8) : UInt32 :=
  (unicode <<< 6) ||| (0x3f &&& byte.toUInt32)

/-- The `for` loop of `getUtf32FromUtf8`, with as many bytes of the sequence to come as the first
argument says. -/
def extensionBytes : Nat → UInt32 → Ptr → Option (UInt32 × Ptr)
  | 0, ret, p => some (ret, p)
  | _ + 1, _, [] => none
  | n + 1, ret, ch :: p =>
    -- the pointer stays at the byte that ends the sequence, a NUL as well
    if ch = 0 then some (utf16ReplacementChar, ch :: p)
    else if ¬isExtension ch then some (utf16ReplacementChar, ch :: p)
    else extensionBytes n (utf8ShiftAndMask ret ch) p

/-- `getUtf32FromUtf8`: the character and the pointer behind it, none for a read outside the
object.  A NUL is returned without moving the pointer. -/
def getUtf32FromUtf8 : Ptr → Option (UInt32 × Ptr)
  | [] => none
  | ch :: p =>
    if isExtension ch then some (utf16ReplacementChar, p)
    else
      let seqLen := utf8SeqLength ch
      let ret := ch.toUInt32 &&& leaderMask.getD (seqLen - 1) 0
      -- the only return that leaves the pointer where it is
      if ch = 0 then some (ret, ch :: p)
      else extensionBytes (seqLen - 1) ret p

/-- The loop of `strlen8to16`. -/
def strlenLoop : Ptr → Nat → Int → Option Nat
  | [], _, _ => none
  | ic :: p, len, expected =>
    if ic = 0 then some len
    else if isExtension ic then
      let expected := expected - 1
      -- more than the lead byte announced: each will be a replacement character
      strlenLoop p (if expected < 0 then len + 1 else len) expected
    else
      let expected : Int := utf8SeqLength ic - 1
      -- a sequence of four will be a surrogate pair
      strlenLoop p (if expected = 3 then len + 1 + 1 else len + 1) expected

def strlen8to16 (utf8Str : Ptr) : Option Nat := strlenLoop utf8Str 0 0

/-- What a copying loop stores for one character: a unit, or a surrogate pair. -/
def putUtf16 (ret : UInt32) : List UInt16 :=
  if ret ≤ 0xffff then [ret.toUInt16]
  else if ret ≤ unicodeUpperLimit then
    [((0xd800 : UInt32) ||| ((ret - 0x10000) >>> 10)).toUInt16,
      ((0xdc00 : UInt32) ||| ((ret - 0x10000) &&& 0x3ff)).toUInt16]
  else [utf16ReplacementChar.toUInt16]

/-- How far a copying loop has come: it has left with the units it stored, it has read outside the
source object, it is still running, or it has stored through the null pointer. -/
inductive Copy
  | done (units : List UInt16)
  | outside
  | running (units : List UInt16)
  | null
  deriving DecidableEq, Repr

/-- The loop of `strcpy8to16`, for at most as many characters as the first argument says. -/
def strcpyLoop : Nat → Ptr → List UInt16 → Copy
  | 0, _, dest => .running dest
  | _ + 1, [], _ => .outside
  | n + 1, ch :: p, dest =>
    if ch = 0 then .done dest
    else
      match getUtf32FromUtf8 (ch :: p) with
      | none => .outside
      | some (ret, utf8Str) => strcpyLoop n utf8Str (dest ++ putUtf16 ret)

/-- `strcpy8to16`: the units stored are `*out_len` many.  Each character takes a byte at least, so
the loop has left before it has looked at more characters than there are bytes. -/
def strcpy8to16 (utf8Str : Ptr) : Copy := strcpyLoop (utf8Str.length + 1) utf8Str []

/-- The loop of `strcpylen8to16`, with `end - utf8Str` in place of `end`. -/
def strcpylenLoop : Nat → Ptr → Int → List UInt16 → Copy
  | 0, _, _, dest => .running dest
  | n + 1, p, left, dest =>
    if 0 < left then
      match getUtf32FromUtf8 p with
      | none => .outside
      | some (ret, utf8Str) =>
        strcpylenLoop n utf8Str (left - (p.length - utf8Str.length)) (dest ++ putUtf16 ret)
    else .done dest

/-- `strcpylen8to16`, for at most `n` characters. -/
def strcpylen8to16 (n : Nat) (utf8Str : Ptr) (length : Int) : Copy :=
  strcpylenLoop n utf8Str length []

/-- `strdup8to16` of a string: the bytes asked of `malloc` and what is then copied, none where the
null pointer is returned. -/
def strdup8to16 (sizeMax : Nat) (malloc : Nat → Bool) (s : Ptr) : Option (Nat × Copy) :=
  (strlen8to16 s).bind fun len =>
    if len ≠ 0 ∧ sizeMax / len < 2 then none
    else if malloc (2 * len) then some (2 * len, strcpy8to16 s)
    -- the pointer is not checked, and the copy of an empty string stores nothing
    else if len = 0 then none
    else some (2 * len, .null)

example : strcpy8to16 [0x61, 0xf0, 0x9f, 0x98, 0x80, 0xe2, 0x82, 0] =
    .done [0x61, 0xd83d, 0xde00, 0xfffd] := by decide

/-! ## 1. Lead bytes and extension bytes -/

theorem forall_uint8 {P : UInt8 → Prop} (h : ∀ n < 256, P (UInt8.ofNat n)) (ch : UInt8) : P ch := by
  have hch := h ch.toNat ch.toNat_lt
  rwa [UInt8.ofNat_toNat] at hch

theorem isExtension_iff (ch : UInt8) : isExtension ch ↔ 0x80 ≤ ch.toNat ∧ ch.toNat < 0xc0 :=
  forall_uint8 (P := fun ch => isExtension ch ↔ 0x80 ≤ ch.toNat ∧ ch.toNat < 0xc0)
    (by decide +kernel) ch

theorem utf8SeqLength_eq (ch : UInt8) : utf8SeqLength ch =
    if ch.toNat < 0xc0 then 1 else if ch.toNat < 0xe0 then 2 else if ch.toNat < 0xf0 then 3 else 4 :=
  forall_uint8 (P := fun ch => utf8SeqLength ch = if ch.toNat < 0xc0 then 1
    else if ch.toNat < 0xe0 then 2 else if ch.toNat < 0xf0 then 3 else 4) (by decide +kernel) ch

theorem ne_zero_of_isExtension {ch : UInt8} (h : isExtension ch) : ch ≠ 0 := by
  rintro rfl
  exact absurd h (by decide)

theorem utf8SeqLength_bounds (ch : UInt8) : 1 ≤ utf8SeqLength ch ∧ utf8SeqLength ch ≤ 4 := by
  rw [utf8SeqLength_eq]
  split
  · omega
  · split
    · omega
    · split <;> omega

theorem toNat_utf8ShiftAndMask (unicode : UInt32) (h : unicode.toNat < 2 ^ 26) (byte : UInt8) :
    (utf8ShiftAndMask unicode byte).toNat = unicode.toNat * 64 + byte.toNat % 64 := by
  have hbyte : byte.toNat % 64 < 2 ^ 6 := Nat.mod_lt _ (by decide)
  unfold utf8ShiftAndMask
  rw [UInt32.toNat_or, UInt32.toNat_and, UInt32.toNat_shiftLeft, UInt8.toNat_toUInt32]
  change (unicode.toNat <<< 6) % 2 ^ 32 ||| (2 ^ 6 - 1 &&& byte.toNat) = _
  rw [Nat.and_comm, Nat.and_two_pow_sub_one_eq_mod, Nat.shiftLeft_eq, Nat.mod_eq_of_lt (by omega),
    Nat.mul_comm, ← Nat.two_pow_add_eq_or_of_lt hbyte]

theorem toNat_leader (ch : UInt8) {n : Nat} (h : utf8SeqLength ch = n) (hch : ¬isExtension ch) :
    (ch.toUInt32 &&& leaderMask.getD (n - 1) 0).toNat =
      if n = 1 then ch.toNat else ch.toNat % 2 ^ (7 - n) := by
  subst h
  revert hch
  exact forall_uint8 (P := fun ch => ¬isExtension ch →
    (ch.toUInt32 &&& leaderMask.getD (utf8SeqLength ch - 1) 0).toNat =
      if utf8SeqLength ch = 1 then ch.toNat else ch.toNat % 2 ^ (7 - utf8SeqLength ch))
    (by decide +kernel) ch

/-! ## 2. One character -/

/-- The extension bytes that are there are taken, and the sequence is complete or stops at the
first byte that is none. -/
theorem extensionBytes_spec (n : Nat) (ret : UInt32) {p : Ptr} (hnul : (0 : UInt8) ∈ p) :
    ∃ taken rest ret', p = taken ++ rest ∧ (∀ ch ∈ taken, isExtension ch) ∧ (0 : UInt8) ∈ rest ∧
      extensionBytes n ret p = some (ret', rest) ∧
      ((taken.length = n ∧ ret' = taken.foldl utf8ShiftAndMask ret) ∨
        (taken.length < n ∧ ret' = utf16ReplacementChar ∧ ∃ ch q, rest = ch :: q ∧ ¬isExtension ch))
    := by
  induction n generalizing ret p with
  | zero =>
    refine ⟨[], p, ret, rfl, List.forall_mem_nil _, hnul, ?_, Or.inl ⟨rfl, rfl⟩⟩
    unfold extensionBytes
    rfl
  | succ n ih =>
    cases p with
    | nil => exact absurd hnul List.not_mem_nil
    | cons ch q =>
      by_cases hext : isExtension ch
      -- the byte is taken, and the loop goes on behind it
      · have hq : (0 : UInt8) ∈ q := by
          rcases List.mem_cons.mp hnul with h | h
          · exact absurd h.symm (ne_zero_of_isExtension hext)
          · exact h
        obtain ⟨taken, rest, ret', heq, hall, hrest, hrun, hend⟩ :=
          ih (utf8ShiftAndMask ret ch) hq
        refine ⟨ch :: taken, rest, ret', by rw [heq, List.cons_append], ?_, hrest, ?_, ?_⟩
        · exact List.forall_mem_cons.mpr ⟨hext, hall⟩
        · rw [extensionBytes, if_neg (ne_zero_of_isExtension hext), if_neg (not_not.mpr hext)]
          exact hrun
        · rw [List.length_cons, List.foldl_cons]
          rcases hend with ⟨hlen, hret⟩ | ⟨hlen, hret, hstop⟩
          · exact Or.inl ⟨by omega, hret⟩
          · exact Or.inr ⟨by omega, hret, hstop⟩
      -- the loop stops in front of the byte
      · refine ⟨[], ch :: q, utf16ReplacementChar, rfl, List.forall_mem_nil _, hnul, ?_,
          Or.inr ⟨Nat.succ_pos n, rfl, ch, q, rfl, hext⟩⟩
        rw [extensionBytes, if_pos hext, ite_self]

/-- The units that `strlen8to16` counts at the first byte of a character. -/
def counted (ch : UInt8) : Nat := if utf8SeqLength ch = 4 then 2 else 1

/-- The sequence that the lead byte `ch` opens is complete in `p` and its character takes a
surrogate pair. -/
def CompletesPair (ch : UInt8) (p : Ptr) : Prop :=
  ∃ taken rest, p = taken ++ rest ∧ taken.length = 3 ∧ (∀ b ∈ taken, isExtension b) ∧
    0xffff < taken.foldl utf8ShiftAndMask (ch.toUInt32 &&& 0x07) ∧
    taken.foldl utf8ShiftAndMask (ch.toUInt32 &&& 0x07) ≤ unicodeUpperLimit

/-- Every lead byte of four in the string opens a sequence that becomes a surrogate pair. -/
def PairsComplete : Ptr → Prop
  | [] => True
  | ch :: p => ch = 0 ∨ ((utf8SeqLength ch = 4 → CompletesPair ch p) ∧ PairsComplete p)

theorem length_putUtf16 (ret : UInt32) :
    (putUtf16 ret).length = if 0xffff < ret ∧ ret ≤ unicodeUpperLimit then 2 else 1 := by
  unfold putUtf16
  by_cases hbmp : ret ≤ 0xffff
  · rw [if_pos hbmp, if_neg (fun h => absurd h.1 (UInt32.not_lt.mpr hbmp))]
    rfl
  · rw [if_neg hbmp]
    by_cases hlimit : ret ≤ unicodeUpperLimit
    · rw [if_pos hlimit, if_pos ⟨UInt32.not_le.mp hbmp, hlimit⟩]
      rfl
    · rw [if_neg hlimit, if_neg (fun h => hlimit h.2)]
      rfl

theorem seqLength_of_isExtension {ch : UInt8} (h : isExtension ch) : utf8SeqLength ch = 1 := by
  rw [utf8SeqLength_eq, if_pos ((isExtension_iff ch).mp h).2]

theorem pairsComplete_taken {taken rest : Ptr} (h : ∀ ch ∈ taken, isExtension ch) :
    PairsComplete (taken ++ rest) ↔ PairsComplete rest := by
  induction taken with
  | nil => exact Iff.rfl
  | cons ch taken ih =>
    have hch := (List.forall_mem_cons.mp h).1
    rw [List.cons_append, PairsComplete, ih (List.forall_mem_cons.mp h).2,
      seqLength_of_isExtension hch]
    constructor
    · rintro (hnul | h)
      · exact absurd hnul (ne_zero_of_isExtension hch)
      · exact h.2
    · exact fun h => Or.inr ⟨fun h4 => absurd h4 (by decide), h⟩

/-- Fewer than three extension bytes behind a lead byte stay below the surrogates' range. -/
theorem foldl_short {ch : UInt8} (hch : ¬isExtension ch) (h4 : utf8SeqLength ch ≠ 4) {taken : Ptr}
    (hlen : taken.length = utf8SeqLength ch - 1) :
    (taken.foldl utf8ShiftAndMask
      (ch.toUInt32 &&& leaderMask.getD (utf8SeqLength ch - 1) 0)).toNat ≤ 0xffff := by
  have hlead := toNat_leader ch rfl hch
  have hbounds := utf8SeqLength_bounds ch
  have hbyte := ch.toNat_lt
  generalize hn : utf8SeqLength ch = n at *
  generalize ch.toUInt32 &&& leaderMask.getD (n - 1) 0 = ret at *
  -- the character has 7, 11 or 16 bits
  rcases (by omega : n = 1 ∨ n = 2 ∨ n = 3) with rfl | rfl | rfl
  · rw [List.length_eq_zero_iff.mp hlen, List.foldl_nil, hlead, if_pos rfl]
    omega
  · obtain ⟨b, rfl⟩ := List.length_eq_one_iff.mp hlen
    rw [if_neg (by decide)] at hlead
    have hshift := toNat_utf8ShiftAndMask ret (by omega) b
    rw [List.foldl_cons, List.foldl_nil, hshift]
    omega
  · obtain ⟨b, c, rfl⟩ := List.length_eq_two.mp hlen
    rw [if_neg (by decide)] at hlead
    have hfirst := toNat_utf8ShiftAndMask ret (by omega) b
    have hsecond := toNat_utf8ShiftAndMask (utf8ShiftAndMask ret b) (by omega) c
    rw [List.foldl_cons, List.foldl_cons, List.foldl_nil, hsecond]
    omega

/-- What `getUtf32FromUtf8` takes from a string that has not ended. -/
theorem getUtf32FromUtf8_spec {ch : UInt8} {p : Ptr} (hch : ch ≠ 0) (hnul : (0 : UInt8) ∈ p) :
    ∃ ret taken rest, getUtf32FromUtf8 (ch :: p) = some (ret, rest) ∧ p = taken ++ rest ∧
      (0 : UInt8) ∈ rest ∧ (∀ b ∈ taken, isExtension b) ∧ taken.length ≤ utf8SeqLength ch - 1 ∧
      (taken.length < utf8SeqLength ch - 1 → ∃ b q, rest = b :: q ∧ ¬isExtension b) ∧
      ((putUtf16 ret).length ≤ counted ch ∧
        ((putUtf16 ret).length = counted ch ↔ (utf8SeqLength ch = 4 → CompletesPair ch p))) := by
  by_cases hext : isExtension ch
  -- a stray extension byte is a character of its own
  · have h1 := seqLength_of_isExtension hext
    refine ⟨utf16ReplacementChar, [], p, ?_, rfl, hnul, List.forall_mem_nil _, Nat.zero_le _, ?_, ?_⟩
    · rw [getUtf32FromUtf8, if_pos hext]
    · intro h
      rw [h1] at h
      exact absurd h (Nat.not_lt_zero _)
    · unfold counted
      rw [h1, if_neg (by decide)]
      exact ⟨by decide, fun _ h => absurd h (by decide), fun _ => by decide⟩
  obtain ⟨taken, rest, ret, heq, hall, hrest, hrun, hend⟩ := extensionBytes_spec
    (utf8SeqLength ch - 1) (ch.toUInt32 &&& leaderMask.getD (utf8SeqLength ch - 1) 0) hnul
  have hget : getUtf32FromUtf8 (ch :: p) = some (ret, rest) := by
    rw [getUtf32FromUtf8, if_neg hext]
    simp only [if_neg hch]
    exact hrun
  refine ⟨ret, taken, rest, hget, heq, hrest, hall, ?_, ?_, ?_⟩
  · rcases hend with h | h
    · exact Nat.le_of_eq h.1
    · exact Nat.le_of_lt h.1
  · intro hlt
    rcases hend with h | h
    · exact absurd h.1 (Nat.ne_of_lt hlt)
    · exact h.2.2
  · rw [length_putUtf16]
    unfold counted
    by_cases h4 : utf8SeqLength ch = 4
    · -- the pair is stored exactly where the sequence is complete and in range
      have hiff : (0xffff < ret ∧ ret ≤ unicodeUpperLimit) ↔ CompletesPair ch p := by
        rw [h4] at hend
        constructor
        · intro hrange
          rcases hend with h | h
          · refine ⟨taken, rest, heq, h.1, hall, ?_⟩
            rw [h.2] at hrange
            exact hrange
          · rw [h.2.1] at hrange
            exact absurd hrange.1 (by decide)
        · rintro ⟨taken', rest', heq', hlen', hall', hrange⟩
          rcases hend with h | h
          · have hsame : taken = taken' :=
              (List.append_inj (heq.symm.trans heq') (by rw [h.1, hlen'])).1
            rw [h.2, hsame]
            exact hrange
          · -- the byte that stops the loop would be one of the three
            obtain ⟨b, q, hbq, hb⟩ := h.2.2
            have hget : p[taken.length]? = some b := by
              rw [heq, hbq, List.getElem?_append_right (Nat.le_refl _), Nat.sub_self]
              rfl
            rw [heq', List.getElem?_append_left (by omega)] at hget
            exact absurd (hall' b (List.mem_of_getElem? hget)) hb
      rw [if_pos h4]
      by_cases hrange : 0xffff < ret ∧ ret ≤ unicodeUpperLimit
      · rw [if_pos hrange]
        exact ⟨Nat.le_refl _, fun _ _ => hiff.mp hrange, fun _ => rfl⟩
      · rw [if_neg hrange]
        refine ⟨by decide, fun h => absurd h (by decide), fun h => ?_⟩
        exact absurd (hiff.mpr (h h4)) hrange
    -- shorter sequences and replacement characters take one unit
    · have hbmp : ¬(0xffff < ret ∧ ret ≤ unicodeUpperLimit) := by
        rintro ⟨hlow, -⟩
        rcases hend with h | h
        · have hle := foldl_short hext h4 h.1
          rw [← h.2] at hle
          exact absurd (UInt32.lt_iff_toNat_lt.mp hlow) (Nat.not_lt.mpr hle)
        · rw [h.2.1] at hlow
          exact absurd hlow (by decide)
      rw [if_neg hbmp, if_neg h4]
      exact ⟨Nat.le_refl _, fun _ h => absurd h h4, fun _ => rfl⟩

/-! ## 3. The two loops together -/

theorem strlenLoop_taken {taken : Ptr} (h : ∀ ch ∈ taken, isExtension ch) (rest : Ptr) (len : Nat)
    (expected : Int) (hexpected : taken.length ≤ expected) :
    strlenLoop (taken ++ rest) len expected = strlenLoop rest len (expected - taken.length) := by
  induction taken generalizing expected with
  | nil => rw [List.nil_append, List.length_nil, Int.natCast_zero, Int.sub_zero]
  | cons ch taken ih =>
    have hch := (List.forall_mem_cons.mp h).1
    rw [List.length_cons] at hexpected ⊢
    rw [List.cons_append, strlenLoop, if_neg (ne_zero_of_isExtension hch), if_pos hch]
    simp only [if_neg (show ¬(expected - 1 < 0) by omega)]
    rw [ih (List.forall_mem_cons.mp h).2 _ (by omega)]
    congr 1
    omega

/-- With no byte expected any more it does not matter how many came too many. -/
theorem strlenLoop_nonpos (p : Ptr) (len : Nat) {expected : Int} (h : expected ≤ 0) :
    strlenLoop p len expected = strlenLoop p len 0 := by
  induction p generalizing len expected with
  | nil => rfl
  | cons ic p ih =>
    unfold strlenLoop
    split
    · rfl
    · split
      · simp only [if_pos (show expected - 1 < 0 by omega), if_pos (show (0 : Int) - 1 < 0 by omega)]
        rw [ih _ (show expected - 1 ≤ 0 by omega), ih _ (show (0 : Int) - 1 ≤ 0 by omega)]
      · rfl

theorem strlenLoop_lead {ch : UInt8} (h : ¬isExtension ch) (p : Ptr) (len : Nat)
    (expected expected' : Int) :
    strlenLoop (ch :: p) len expected = strlenLoop (ch :: p) len expected' := by
  unfold strlenLoop
  rw [if_neg h, if_neg h]

/-- `strlen8to16` at a character: it counts `counted` units and goes on where the character ends. -/
theorem strlenLoop_char {ch : UInt8} {taken rest : Ptr} (hch : ch ≠ 0)
    (hall : ∀ b ∈ taken, isExtension b) (hlen : taken.length ≤ utf8SeqLength ch - 1)
    (hstop : taken.length < utf8SeqLength ch - 1 → ∃ b q, rest = b :: q ∧ ¬isExtension b)
    (len : Nat) :
    strlenLoop (ch :: (taken ++ rest)) len 0 = strlenLoop rest (counted ch + len) 0 := by
  have hbounds := utf8SeqLength_bounds ch
  rw [strlenLoop, if_neg hch]
  by_cases hext : isExtension ch
  · have h1 := seqLength_of_isExtension hext
    have hnil : taken = [] := List.length_eq_zero_iff.mp (by omega)
    rw [if_pos hext, hnil, List.nil_append]
    unfold counted
    simp only [if_pos (show (0 : Int) - 1 < 0 by decide)]
    -- none was expected, so it counts
    rw [strlenLoop_nonpos _ _ (show (0 : Int) - 1 ≤ 0 by decide), h1, if_neg (by decide), Nat.add_comm]
  · rw [if_neg hext]
    have hcount : (if ((utf8SeqLength ch : Int) - 1) = 3 then len + 1 + 1 else len + 1) =
        counted ch + len := by
      unfold counted
      by_cases h4 : utf8SeqLength ch = 4
      · rw [if_pos (by omega), if_pos h4]
        omega
      · rw [if_neg (by omega), if_neg h4]
        omega
    simp only [hcount]
    rw [strlenLoop_taken hall rest _ _ (by omega)]
    by_cases hfull : taken.length = utf8SeqLength ch - 1
    · exact strlenLoop_nonpos _ _ (by omega)
    -- what is still expected is forgotten at the next lead byte
    · obtain ⟨b, q, rfl, hb⟩ := hstop (by omega)
      exact strlenLoop_lead hb q _ _ _

theorem pairsComplete_char {ch : UInt8} {taken rest : Ptr} (hch : ch ≠ 0)
    (hall : ∀ b ∈ taken, isExtension b) :
    PairsComplete (ch :: (taken ++ rest)) ↔
      (utf8SeqLength ch = 4 → CompletesPair ch (taken ++ rest)) ∧ PairsComplete rest := by
  rw [PairsComplete, pairsComplete_taken hall]
  exact ⟨fun h => h.resolve_left hch, Or.inr⟩

/-- Both loops over one string: what is stored is at most what was counted, and as much where every
lead byte of four opens a surrogate pair. -/
theorem loops_agree (n : Nat) {p : Ptr} (hn : p.length < n) (hnul : (0 : UInt8) ∈ p) :
    ∃ len units, (∀ k, strlenLoop p k 0 = some (k + len)) ∧
      (∀ dest, strcpyLoop n p dest = .done (dest ++ units)) ∧
      units.length ≤ len ∧ (units.length = len ↔ PairsComplete p) := by
  -- on the rounds of `strcpyLoop`, each of which takes a whole character
  induction n generalizing p with
  | zero => exact absurd hn (Nat.not_lt_zero _)
  | succ n ih =>
    cases p with
    | nil => exact absurd hnul List.not_mem_nil
    | cons ch p =>
      by_cases hch : ch = 0
      · subst hch
        refine ⟨0, [], fun k => ?_, fun dest => ?_, Nat.le_refl _, fun _ => Or.inl rfl, fun _ => rfl⟩
        · rw [strlenLoop, if_pos rfl, Nat.add_zero]
        · rw [strcpyLoop, if_pos rfl, List.append_nil]
      -- one character, and the induction hypothesis behind it
      · have hp : (0 : UInt8) ∈ p := (List.mem_cons.mp hnul).resolve_left (Ne.symm hch)
        obtain ⟨ret, taken, rest, hget, heq, hrest, hall, hlen, hstop, hle, hiff⟩ :=
          getUtf32FromUtf8_spec hch hp
        have hshort : rest.length < n := by
          rw [heq, List.length_cons, List.length_append] at hn
          omega
        obtain ⟨len, units, hstrlen, hstrcpy, hunits, hcomplete⟩ := ih hshort hrest
        refine ⟨counted ch + len, putUtf16 ret ++ units, fun k => ?_, fun dest => ?_, ?_, ?_⟩
        · rw [heq, strlenLoop_char hch hall hlen hstop, hstrlen]
          congr 1
          omega
        · rw [strcpyLoop, if_neg hch, hget, ← List.append_assoc]
          exact hstrcpy _
        · rw [List.length_append]
          omega
        · rw [heq] at hiff
          rw [List.length_append, heq, pairsComplete_char hch hall, ← hiff, ← hcomplete]
          omega

/-- A string with a NUL in its object is converted without a read outside the object, and the units
stored fit into what `strdup8to16` allocates for it, if it gets it.  They fill it unless some lead
byte of four opens no surrogate pair. -/
theorem strdup8to16_fits (sizeMax : Nat) (malloc : Nat → Bool) (s : Ptr) (hnul : (0 : UInt8) ∈ s) :
    ∃ len units, strlen8to16 s = some len ∧ strcpy8to16 s = .done units ∧
      strdup8to16 sizeMax malloc s =
        (if sizeMax < 2 * len then none
        else if malloc (2 * len) then some (2 * len, .done units)
        else if len = 0 then none else some (2 * len, .null)) ∧
      units.length ≤ len ∧ (units.length = len ↔ PairsComplete s) := by
  obtain ⟨len, units, hstrlen, hstrcpy, hle, hiff⟩ := loops_agree (s.length + 1) (Nat.lt_succ_self _) hnul
  have hlen : strlen8to16 s = some len := by rw [strlen8to16, hstrlen, Nat.zero_add]
  have hcopy : strcpy8to16 s = .done units := hstrcpy []
  refine ⟨len, units, hlen, hcopy, ?_, hle, hiff⟩
  unfold strdup8to16
  rw [hlen, Option.bind_some, hcopy]
  by_cases h0 : len = 0
  · rw [if_neg (fun h => h.1 h0), if_neg (show ¬sizeMax < 2 * len by omega)]
  · have hdiv : sizeMax / len < 2 ↔ sizeMax < 2 * len := Nat.div_lt_iff_lt_mul (by omega)
    simp only [h0, ne_eq, not_false_eq_true, true_and, hdiv]

theorem strdup8to16_fits_truncated :
    ∃ len units, strlen8to16 [0x61, 0xf0, 0x9f, 0] = some len ∧
      strcpy8to16 [0x61, 0xf0, 0x9f, 0] = .done units ∧
      strdup8to16 (2 ^ 32 - 1) (fun _ => true) [0x61, 0xf0, 0x9f, 0] =
        (if 2 ^ 32 - 1 < 2 * len then none
        else if true then some (2 * len, .done units)
        else if len = 0 then none else some (2 * len, .null)) ∧
      units.length ≤ len ∧ (units.length = len ↔ PairsComplete [0x61, 0xf0, 0x9f, 0]) :=
  strdup8to16_fits (2 ^ 32 - 1) (fun _ => true) [0x61, 0xf0, 0x9f, 0] (by decide)

/-! ## 4. The copy of a given length -/

/-- C's `strlen`. -/
def cLength : Ptr → Nat
  | [] => 0
  | ch :: p => if ch = 0 then 0 else cLength p + 1

theorem cLength_lt {p : Ptr} (hnul : (0 : UInt8) ∈ p) : cLength p < p.length := by
  induction p with
  | nil => exact absurd hnul List.not_mem_nil
  | cons ch p ih =>
    rw [cLength, List.length_cons]
    split
    · omega
    · rename_i hch
      have hp := ih ((List.mem_cons.mp hnul).resolve_left (Ne.symm hch))
      omega

theorem cLength_char {ch : UInt8} (hch : ch ≠ 0) {taken : Ptr} (hall : ∀ b ∈ taken, isExtension b)
    (rest : Ptr) : cLength (ch :: (taken ++ rest)) = 1 + taken.length + cLength rest := by
  rw [cLength, if_neg hch]
  induction taken with
  | nil =>
    rw [List.nil_append, List.length_nil]
    omega
  | cons b taken ih =>
    have hb := List.forall_mem_cons.mp hall
    have htaken := ih hb.2
    rw [List.cons_append, cLength, if_neg (ne_zero_of_isExtension hb.1), List.length_cons]
    omega

/-- The bytes of the character at the pointer: its first byte, and the extension bytes behind it as
far as that announces them. -/
def charLength : Ptr → Nat
  | [] => 0
  | ch :: p => 1 + ((p.take (utf8SeqLength ch - 1)).takeWhile (isExtension ·)).length

/-- The places of a string where a character begins or ends. -/
inductive Boundary : Ptr → Nat → Prop
  | start (s : Ptr) : Boundary s 0
  | behind {s : Ptr} {k : Nat} (h : Boundary (s.drop (charLength s)) k) :
      Boundary s (charLength s + k)

/-- The string cut at `k` ends with the character in which its first `length` bytes end. -/
structure CutsBehind (s : Ptr) (length : Int) (k : Nat) : Prop where
  boundary : Boundary s k
  behind : length ≤ k
  first : ∀ j, Boundary s j → j < k → (j : Int) < length

theorem charLength_char {ch : UInt8} {taken rest : Ptr} (hall : ∀ b ∈ taken, isExtension b)
    (hlen : taken.length ≤ utf8SeqLength ch - 1)
    (hstop : taken.length < utf8SeqLength ch - 1 → ∃ b q, rest = b :: q ∧ ¬isExtension b) :
    charLength (ch :: (taken ++ rest)) = 1 + taken.length := by
  have htaken : ((taken ++ rest).take (utf8SeqLength ch - 1)).takeWhile (isExtension ·) = taken := by
    rw [List.take_append, List.take_of_length_le hlen,
      List.takeWhile_append_of_pos fun b hb => decide_eq_true (hall b hb)]
    by_cases hfull : taken.length = utf8SeqLength ch - 1
    · rw [hfull, Nat.sub_self, List.take_zero, List.takeWhile_nil, List.append_nil]
    · obtain ⟨b, q, rfl, hb⟩ := hstop (by omega)
      obtain ⟨n, hn⟩ : ∃ n, utf8SeqLength ch - 1 - taken.length = n + 1 :=
        ⟨utf8SeqLength ch - 1 - taken.length - 1, by omega⟩
      rw [hn, List.take_succ_cons, List.takeWhile_cons_of_neg (by simpa using hb), List.append_nil]
  rw [charLength, htaken]

/-- The cut of a string is that of what is behind its first character. -/
theorem CutsBehind.cons {s : Ptr} {length : Int} (hpos : 0 < length) {k : Nat}
    (h : CutsBehind (s.drop (charLength s)) (length - charLength s) k) :
    CutsBehind s length (charLength s + k) where
  boundary := .behind h.boundary
  behind := by
    have hle := h.behind
    omega
  first j hj hlt := by
    cases hj with
    | start => exact hpos
    | @behind _ j hj =>
      have hfirst := h.first j hj (by omega)
      omega

theorem extensionBytes_full {taken : Ptr} (hall : ∀ b ∈ taken, isExtension b) (ret : UInt32)
    (rest : Ptr) : extensionBytes taken.length ret (taken ++ rest) =
      some (taken.foldl utf8ShiftAndMask ret, rest) := by
  induction taken generalizing ret with
  | nil =>
    unfold extensionBytes
    rfl
  | cons b taken ih =>
    have hb := List.forall_mem_cons.mp hall
    rw [List.length_cons, List.cons_append, extensionBytes, if_neg (ne_zero_of_isExtension hb.1),
      if_neg (not_not.mpr hb.1), ih hb.2, List.foldl_cons]

theorem extensionBytes_stop {taken : Ptr} (hall : ∀ b ∈ taken, isExtension b) {n : Nat}
    (hn : taken.length < n) (ret : UInt32) {ch : UInt8} (hch : ¬isExtension ch) (q : Ptr) :
    extensionBytes n ret (taken ++ ch :: q) = some (utf16ReplacementChar, ch :: q) := by
  induction taken generalizing ret n with
  | nil =>
    obtain ⟨n, rfl⟩ : ∃ m, n = m + 1 := ⟨n - 1, by rw [List.length_nil] at hn; omega⟩
    rw [List.nil_append, extensionBytes, if_pos hch, ite_self]
  | cons b taken ih =>
    have hb := List.forall_mem_cons.mp hall
    rw [List.length_cons] at hn
    obtain ⟨n, rfl⟩ : ∃ m, n = m + 1 := ⟨n - 1, by omega⟩
    rw [List.cons_append, extensionBytes, if_neg (ne_zero_of_isExtension hb.1),
      if_neg (not_not.mpr hb.1), ih hb.2 (by omega)]

/-- A character is read the same in front of any rest that does not carry it on. -/
theorem getUtf32FromUtf8_congr {ch : UInt8} (hch : ch ≠ 0) {taken rest rest' : Ptr} {ret : UInt32}
    (hall : ∀ b ∈ taken, isExtension b) (hlen : taken.length ≤ utf8SeqLength ch - 1)
    (hstop : taken.length < utf8SeqLength ch - 1 → ∃ b q, rest = b :: q ∧ ¬isExtension b)
    (hstop' : taken.length < utf8SeqLength ch - 1 → ∃ b q, rest' = b :: q ∧ ¬isExtension b)
    (hget : getUtf32FromUtf8 (ch :: (taken ++ rest)) = some (ret, rest)) :
    getUtf32FromUtf8 (ch :: (taken ++ rest')) = some (ret, rest') := by
  rw [getUtf32FromUtf8] at hget ⊢
  by_cases hext : isExtension ch
  · have h1 := seqLength_of_isExtension hext
    have hnil : taken = [] := List.length_eq_zero_iff.mp (by omega)
    rw [if_pos hext, hnil, List.nil_append] at hget ⊢
    have hret := congrArg Prod.fst (Option.some.inj hget)
    change utf16ReplacementChar = ret at hret
    rw [hret]
  · rw [if_neg hext] at hget ⊢
    simp only [if_neg hch] at hget ⊢
    by_cases hfull : taken.length = utf8SeqLength ch - 1
    · rw [← hfull, extensionBytes_full hall] at hget ⊢
      have hret := congrArg Prod.fst (Option.some.inj hget)
      change _ = ret at hret
      rw [← hret]
    · obtain ⟨b, q, rfl, hb⟩ := hstop (by omega)
      obtain ⟨b', q', rfl, hb'⟩ := hstop' (by omega)
      rw [extensionBytes_stop hall (by omega) _ hb] at hget
      rw [extensionBytes_stop hall (by omega) _ hb']
      have hret := congrArg Prod.fst (Option.some.inj hget)
      change utf16ReplacementChar = ret at hret
      rw [hret]

theorem strcpyLoop_mono {n m : Nat} (h : n ≤ m) {p : Ptr} {dest units : List UInt16}
    (hrun : strcpyLoop n p dest = .done units) : strcpyLoop m p dest = .done units := by
  induction n generalizing m p dest with
  | zero => cases hrun
  | succ n ih =>
    obtain ⟨m, rfl⟩ : ∃ j, m = j + 1 := ⟨m - 1, by omega⟩
    cases p with
    | nil => cases hrun
    | cons ch p =>
      rw [strcpyLoop] at hrun ⊢
      split at hrun
      · rename_i hch
        rw [if_pos hch]
        exact hrun
      · rename_i hch
        rw [if_neg hch]
        cases hget : getUtf32FromUtf8 (ch :: p) with
        | none =>
          rw [hget] at hrun
          cases hrun
        | some r =>
          rw [hget] at hrun
          exact ih (by omega) hrun

/-- While `end` is inside the string the loop copies the characters that begin before it, as
`strcpy8to16` copies the string cut behind the last of them. -/
theorem strcpylenLoop_cut (m : Nat) {p : Ptr} (hm : p.length < m) (hnul : (0 : UInt8) ∈ p) {left : Int}
    (hleft : left ≤ cLength p) :
    ∃ k : Nat, CutsBehind p left k ∧ k ≤ cLength p ∧ (left ≤ 0 → k = 0) ∧
      (0 < left → (k : Int) ≤ left + 3) ∧ ∀ n, p.length < n → ∀ dest,
        strcpylenLoop n p left dest = strcpyLoop n (p.take k ++ [0]) dest := by
  induction m generalizing p left with
  | zero => exact absurd hm (Nat.not_lt_zero _)
  | succ m ih =>
    by_cases hpos : 0 < left
    · cases p with
      | nil => exact absurd hnul List.not_mem_nil
      | cons ch p =>
        have hch : ch ≠ 0 := by
          rintro rfl
          rw [cLength, if_pos rfl] at hleft
          omega
        have hp : (0 : UInt8) ∈ p := (List.mem_cons.mp hnul).resolve_left (Ne.symm hch)
        obtain ⟨ret, taken, rest, hget, heq, hrest, hall, hlen, hstop, -⟩ :=
          getUtf32FromUtf8_spec hch hp
        have hbounds := utf8SeqLength_bounds ch
        have hplen : p.length = taken.length + rest.length := by rw [heq, List.length_append]
        have hconsumed : ((ch :: p).length : Int) - rest.length = 1 + taken.length := by
          rw [List.length_cons]
          omega
        have hchar : charLength (ch :: p) = 1 + taken.length := by
          rw [heq]
          exact charLength_char hall hlen hstop
        have hdrop : (ch :: p).drop (charLength (ch :: p)) = rest := by
          rw [hchar, heq, Nat.add_comm, List.drop_succ_cons, List.drop_left]
        rw [heq, cLength_char hch hall] at hleft
        rw [List.length_cons] at hm
        have hleft' : left - (1 + (taken.length : Int)) ≤ cLength rest := by omega
        obtain ⟨k, hk, hkc, hzero, hthree, hrun⟩ := ih (by omega) hrest hleft'
        -- the cut is behind this character, and where the rest is cut
        have hcut : CutsBehind (ch :: p) left (1 + taken.length + k) := by
          have hcons : CutsBehind (ch :: p) left (charLength (ch :: p) + k) := by
            apply CutsBehind.cons hpos
            rw [hdrop, hchar, Int.natCast_add, Int.natCast_one]
            exact hk
          rwa [hchar] at hcons
        refine ⟨1 + taken.length + k, hcut, ?_, by omega, fun _ => ?_, fun n hn dest => ?_⟩
        · rw [heq, cLength_char hch hall]
          omega
        -- only the last character may reach behind `left`, by its extension bytes
        · by_cases hdone : left - (1 + (taken.length : Int)) ≤ 0
          · have := hzero hdone
            omega
          · have := hthree (by omega)
            omega
        · obtain ⟨n, rfl⟩ : ∃ j, n = j + 1 := ⟨n - 1, by rw [List.length_cons] at hn; omega⟩
          have htake : (ch :: p).take (1 + taken.length + k) ++ [0] =
              ch :: (taken ++ (rest.take k ++ [0])) := by
            rw [heq, show 1 + taken.length + k = taken.length + k + 1 by omega, List.take_succ_cons,
              List.take_length_add_append, List.cons_append, List.append_assoc]
          have hget' : getUtf32FromUtf8 (ch :: (taken ++ (rest.take k ++ [0]))) =
              some (ret, rest.take k ++ [0]) := by
            refine getUtf32FromUtf8_congr hch hall hlen hstop (fun hshort => ?_) (heq ▸ hget)
            -- a sequence that stopped before stops in front of the NUL of the cut as well
            obtain ⟨b, q, rfl, hb⟩ := hstop hshort
            cases k with
            | zero => exact ⟨0, [], rfl, by decide⟩
            | succ k => exact ⟨b, q.take k ++ [0], rfl, hb⟩
          rw [strcpylenLoop, if_pos hpos, hget, htake, strcpyLoop, if_neg hch, hget']
          simp only [hconsumed]
          exact hrun n (by rw [List.length_cons] at hn; omega) _
    · have hcut : CutsBehind p left 0 :=
        ⟨.start p, by omega, fun j _ hj => absurd hj (Nat.not_lt_zero j)⟩
      refine ⟨0, hcut, Nat.zero_le _, fun _ => rfl, fun h => absurd h hpos, fun n hn dest => ?_⟩
      obtain ⟨n, rfl⟩ : ∃ j, n = j + 1 := ⟨n - 1, by omega⟩
      rw [strcpylenLoop, if_neg hpos]
      rfl

theorem putUtf16_pos (ret : UInt32) : 1 ≤ (putUtf16 ret).length := by
  rw [length_putUtf16]
  split <;> decide

/-- With the NUL in front of `end` the loop stops at nothing: the NUL is read again and again. -/
theorem strcpylenLoop_stuck (n : Nat) {p : Ptr} (hnul : (0 : UInt8) ∈ p) {left : Int}
    (hleft : cLength p < left) (dest : List UInt16) :
    ∃ units, strcpylenLoop n p left dest = .running units ∧ dest.length + n ≤ units.length := by
  induction n generalizing p left dest with
  | zero => exact ⟨dest, rfl, Nat.le_refl _⟩
  | succ n ih =>
    cases p with
    | nil => exact absurd hnul List.not_mem_nil
    | cons ch p =>
      have hpos : 0 < left := by omega
      have hstep : ∃ ret rest, getUtf32FromUtf8 (ch :: p) = some (ret, rest) ∧ (0 : UInt8) ∈ rest ∧
          (cLength rest : Int) < left - ((ch :: p).length - rest.length) := by
        by_cases hch : ch = 0
        -- the character 0 is stored, and the pointer does not move
        · subst hch
          refine ⟨_, 0 :: p, rfl, hnul, ?_⟩
          rw [Int.sub_self, Int.sub_zero]
          exact hleft
        · have hp : (0 : UInt8) ∈ p := (List.mem_cons.mp hnul).resolve_left (Ne.symm hch)
          obtain ⟨ret, taken, rest, hget, heq, hrest, hall, -⟩ := getUtf32FromUtf8_spec hch hp
          refine ⟨ret, rest, hget, hrest, ?_⟩
          rw [heq, cLength_char hch hall] at hleft
          rw [heq, List.length_cons, List.length_append]
          omega
      obtain ⟨ret, rest, hget, hrest, hbehind⟩ := hstep
      obtain ⟨units, hrun, hlen⟩ := ih hrest hbehind (dest ++ putUtf16 ret)
      have hput := putUtf16_pos ret
      refine ⟨units, ?_, ?_⟩
      · rw [strcpylenLoop, if_pos hpos, hget]
        exact hrun
      · rw [List.length_append] at hlen
        omega

/-- `strcpylen8to16` with a length inside the string makes what `strcpy8to16` makes of the string cut
behind the character in which that length lies, which is three bytes behind it at most.  With a
length behind the NUL it never returns, and stores a unit at least each time round. -/
theorem strcpylen8to16_ends (s : Ptr) (hnul : (0 : UInt8) ∈ s) (length : Int) :
    (length ≤ cLength s → ∃ k : Nat, CutsBehind s length k ∧ k ≤ cLength s ∧
      (length ≤ 0 → k = 0) ∧ (0 < length → (k : Int) ≤ length + 3) ∧
      ∀ n, s.length < n → strcpylen8to16 n s length = strcpy8to16 (s.take k ++ [0])) ∧
    (cLength s < length → ∀ n, ∃ units, strcpylen8to16 n s length = .running units ∧ n ≤ units.length) := by
  constructor
  · intro hlength
    obtain ⟨k, hk, hkc, hzero, hthree, hrun⟩ :=
      strcpylenLoop_cut (s.length + 1) (Nat.lt_succ_self _) hnul hlength
    refine ⟨k, hk, hkc, hzero, hthree, fun n hn => ?_⟩
    have hcut : (0 : UInt8) ∈ s.take k ++ [0] := List.mem_append_right _ List.mem_cons_self
    obtain ⟨-, units, -, hdone, -⟩ := loops_agree _ (Nat.lt_succ_self (s.take k ++ [0]).length) hcut
    have hcopy : strcpy8to16 (s.take k ++ [0]) = .done units := hdone []
    have hlength : (s.take k ++ [0]).length + 1 ≤ n := by
      have hend := cLength_lt hnul
      rw [List.length_append, List.length_take, List.length_singleton]
      omega
    rw [hcopy]
    exact (hrun n hn []).trans (strcpyLoop_mono hlength (hdone []))
  · intro hlength n
    obtain ⟨units, hrun, hlen⟩ := strcpylenLoop_stuck n hnul hlength []
    exact ⟨units, hrun, by rwa [List.length_nil, Nat.zero_add] at hlen⟩

theorem strcpylen8to16_ends_inside : ∃ k : Nat, CutsBehind [0xe2, 0x82, 0xac, 0x61, 0] 1 k ∧
    ∀ n, 5 < n → strcpylen8to16 n [0xe2, 0x82, 0xac, 0x61, 0] 1 =
      strcpy8to16 (([0xe2, 0x82, 0xac, 0x61, 0] : Ptr).take k ++ [0]) := by
  obtain ⟨k, hcut, -, -, -, hrun⟩ :=
    (strcpylen8to16_ends [0xe2, 0x82, 0xac, 0x61, 0] (by decide) 1).1 (by decide)
  exact ⟨k, hcut, hrun⟩

end Universal7870.Cutils
