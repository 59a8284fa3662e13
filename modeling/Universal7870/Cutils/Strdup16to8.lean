import Universal7870.Cutils.Strdup8to16

/-!
# From UTF-16 to modified UTF-8, and back

`strdup16to8.cpp`, and what `strdup8to16.cpp` makes of its strings.  `sizeMax` is `SIZE_MAX`, so
the arithmetic of `size_t` is modulo `sizeMax + 1`.
-/

namespace Universal7870.Cutils

/-- The bytes that the loops of `strnlen16to8` add for one unit. -/
def unitLength (uic : UInt16) : Nat :=
  if 0x07ff < uic then 3 else if 0x7f < uic ∨ uic = 0 then 2 else 1

/-- The loop of the fast path. -/
def strnlenFast (sizeMax : Nat) : List UInt16 → Nat → Nat
  | [], utf8Len => utf8Len
  | uic :: s, utf8Len => strnlenFast sizeMax s ((utf8Len + unitLength uic) % (sizeMax + 1))

/-- The loop of the paranoid version. -/
def strnlenSlow (sizeMax : Nat) : List UInt16 → Nat → Nat
  | [], utf8Len => if utf8Len = sizeMax then sizeMax - 1 else utf8Len
  | uic :: s, utf8Cur =>
    let utf8Len := (utf8Cur + unitLength uic) % (sizeMax + 1)
    -- the sum of `size_t` has wrapped
    if utf8Len < utf8Cur then sizeMax - 1 else strnlenSlow sizeMax s utf8Len

def strnlen16to8 (sizeMax : Nat) (utf16Str : List UInt16) : Nat :=
  if utf16Str.length < (sizeMax - 1) / 3 then strnlenFast sizeMax utf16Str 0
  else strnlenSlow sizeMax utf16Str 0

/-- `strncpy16to8`: the bytes stored from `utf8Str` on. -/
def strncpy16to8 : List UInt16 → List UInt8
  | [] => [0]
  | unit :: s =>
    let uic := unit.toUInt32
    if 0x07ff < unit then
      ((uic >>> 12) ||| 0xe0).toUInt8 :: (((uic >>> 6) &&& 0x3f) ||| 0x80).toUInt8 ::
        ((uic &&& 0x3f) ||| 0x80).toUInt8 :: strncpy16to8 s
    else if 0x7f < unit ∨ unit = 0 then
      ((uic >>> 6) ||| 0xc0).toUInt8 :: ((uic &&& 0x3f) ||| 0x80).toUInt8 :: strncpy16to8 s
    -- the `break`, which the branch before it makes unreachable
    else if unit = 0 then [uic.toUInt8, 0]
    else uic.toUInt8 :: strncpy16to8 s

/-- `strndup16to8`: the bytes asked of `malloc` and those stored in them, none where it returns the
null pointer. -/
def strndup16to8 (sizeMax : Nat) (malloc : Nat → Bool) (s : Option (List UInt16)) :
    Option (Nat × List UInt8) :=
  s.bind fun s =>
    let len := strnlen16to8 sizeMax s
    if sizeMax - 1 ≤ len then none
    else if malloc (len + 1) then some (len + 1, strncpy16to8 s)
    else none

/-! ## 1. One unit -/

/-- What the loop of `strncpy16to8` stores for one unit; the NUL has a form of two bytes. -/
def putUtf8 (unit : UInt16) : List UInt8 :=
  let uic := unit.toUInt32
  if 0x07ff < unit then
    [((uic >>> 12) ||| 0xe0).toUInt8, (((uic >>> 6) &&& 0x3f) ||| 0x80).toUInt8,
      ((uic &&& 0x3f) ||| 0x80).toUInt8]
  else if 0x7f < unit ∨ unit = 0 then
    [((uic >>> 6) ||| 0xc0).toUInt8, ((uic &&& 0x3f) ||| 0x80).toUInt8]
  else [uic.toUInt8]

theorem strncpy16to8_cons (unit : UInt16) (s : List UInt16) :
    strncpy16to8 (unit :: s) = putUtf8 unit ++ strncpy16to8 s := by
  unfold putUtf8
  rw [strncpy16to8]
  simp only
  split
  · rfl
  · split
    · rfl
    · rename_i hunit
      rw [if_neg (fun h => hunit (Or.inr h))]
      rfl

theorem length_putUtf8 (unit : UInt16) : (putUtf8 unit).length = unitLength unit := by
  unfold putUtf8 unitLength
  simp only
  split
  · rfl
  · split <;> rfl

/-- The number that the low bits of a unit make with a mark in the high bits of the byte. -/
theorem toNat_marked {x : UInt32} {i a : Nat} (mark : UInt32) (hmark : mark.toNat = 2 ^ i * a)
    (hx : x.toNat < 2 ^ i) (hsum : 2 ^ i * a + x.toNat < 256) :
    (x ||| mark).toUInt8.toNat = mark.toNat + x.toNat := by
  rw [UInt32.toNat_toUInt8, UInt32.toNat_or, Nat.or_comm, hmark, ← Nat.two_pow_add_eq_or_of_lt hx,
    Nat.mod_eq_of_lt hsum]

theorem toNat_mask (x : UInt32) : (x &&& 0x3f).toNat = x.toNat % 64 := by
  rw [UInt32.toNat_and]
  exact Nat.and_two_pow_sub_one_eq_mod x.toNat 6

theorem toNat_shift (unit : UInt16) (n : UInt32) (hn : n.toNat < 32) :
    (unit.toUInt32 >>> n).toNat = unit.toNat / 2 ^ n.toNat := by
  rw [UInt32.toNat_shiftRight, UInt16.toNat_toUInt32, Nat.mod_eq_of_lt hn, Nat.shiftRight_eq_div_pow]

theorem toNat_extension (x : UInt32) : ((x &&& 0x3f) ||| 0x80).toUInt8.toNat = 0x80 + x.toNat % 64 := by
  have hx : x.toNat % 64 < 64 := Nat.mod_lt _ (by decide)
  rw [toNat_marked (i := 6) (a := 2) 0x80 rfl (by rw [toNat_mask]; omega) (by rw [toNat_mask]; omega),
    toNat_mask]
  rfl

theorem isExtension_stored (x : UInt32) : isExtension ((x &&& 0x3f) ||| 0x80).toUInt8 := by
  rw [isExtension_iff, toNat_extension]
  omega

/-- The lead byte `ch` with its extension bytes spells the unit. -/
structure Spells (unit : UInt16) (ch : UInt8) (taken : Ptr) : Prop where
  nonzero : ch ≠ 0
  lead : ¬isExtension ch
  seqLength : utf8SeqLength ch = taken.length + 1
  short : taken.length ≤ 2
  extensions : ∀ b ∈ taken, isExtension b
  value : taken.foldl utf8ShiftAndMask (ch.toUInt32 &&& leaderMask.getD taken.length 0) = unit.toUInt32

theorem spells_three {unit : UInt16} (h : 0x07ff < unit.toNat) :
    Spells unit ((unit.toUInt32 >>> 12) ||| 0xe0).toUInt8
      [(((unit.toUInt32 >>> 6) &&& 0x3f) ||| 0x80).toUInt8,
        ((unit.toUInt32 &&& 0x3f) ||| 0x80).toUInt8] := by
  have hunit := unit.toNat_lt
  -- 4, 6 and 6 bits of the unit, under 0xe0, 0x80 and 0x80
  have h6 : (unit.toUInt32 >>> 6).toNat = unit.toNat / 2 ^ 6 := toNat_shift unit 6 (by decide)
  have h12 : (unit.toUInt32 >>> 12).toNat = unit.toNat / 2 ^ 12 := toNat_shift unit 12 (by decide)
  have hlead := toNat_marked (x := unit.toUInt32 >>> 12) (i := 5) (a := 7) 0xe0 rfl (by omega) (by omega)
  have hfirst := toNat_extension (unit.toUInt32 >>> 6)
  have hsecond := toNat_extension unit.toUInt32
  rw [UInt16.toNat_toUInt32] at hsecond
  change _ = 0xe0 + _ at hlead
  generalize ((unit.toUInt32 >>> 12) ||| 0xe0).toUInt8 = ch at hlead ⊢
  have hseq : utf8SeqLength ch = 3 := by
    rw [utf8SeqLength_eq, if_neg (by omega), if_neg (by omega), if_pos (by omega)]
  have hext : ¬isExtension ch := by
    rw [isExtension_iff]
    omega
  have hmask := toNat_leader ch hseq hext
  rw [if_neg (by decide)] at hmask
  change (ch.toUInt32 &&& leaderMask.getD 2 0).toNat = ch.toNat % 16 at hmask
  constructor
  · rintro rfl
    change 0 = _ at hlead
    omega
  · exact hext
  · exact hseq
  · exact Nat.le_refl 2
  · exact List.forall_mem_cons.mpr ⟨isExtension_stored _,
      List.forall_mem_cons.mpr ⟨isExtension_stored _, List.forall_mem_nil _⟩⟩
  · apply UInt32.toNat_inj.mp
    rw [List.foldl_cons, List.foldl_cons, List.foldl_nil, UInt16.toNat_toUInt32,
      List.length_cons, List.length_singleton]
    -- the parts are put together again
    have hone := toNat_utf8ShiftAndMask (ch.toUInt32 &&& leaderMask.getD 2 0) (by omega)
      (((unit.toUInt32 >>> 6) &&& 0x3f) ||| 0x80).toUInt8
    generalize utf8ShiftAndMask (ch.toUInt32 &&& leaderMask.getD 2 0) _ = high at hone ⊢
    rw [toNat_utf8ShiftAndMask high (by omega)]
    omega

/-- The form of two bytes, for the NUL as well. -/
theorem spells_two {unit : UInt16} (h : unit.toNat ≤ 0x07ff) :
    Spells unit ((unit.toUInt32 >>> 6) ||| 0xc0).toUInt8 [((unit.toUInt32 &&& 0x3f) ||| 0x80).toUInt8] := by
  -- 5 and 6 bits, under 0xc0 and 0x80
  have h6 : (unit.toUInt32 >>> 6).toNat = unit.toNat / 2 ^ 6 := toNat_shift unit 6 (by decide)
  have hlead := toNat_marked (x := unit.toUInt32 >>> 6) (i := 6) (a := 3) 0xc0 rfl (by omega) (by omega)
  have hfirst := toNat_extension unit.toUInt32
  rw [UInt16.toNat_toUInt32] at hfirst
  change _ = 0xc0 + _ at hlead
  generalize ((unit.toUInt32 >>> 6) ||| 0xc0).toUInt8 = ch at hlead ⊢
  have hseq : utf8SeqLength ch = 2 := by
    rw [utf8SeqLength_eq, if_neg (by omega), if_pos (by omega)]
  have hext : ¬isExtension ch := by
    rw [isExtension_iff]
    omega
  have hmask := toNat_leader ch hseq hext
  rw [if_neg (by decide)] at hmask
  change (ch.toUInt32 &&& leaderMask.getD 1 0).toNat = ch.toNat % 32 at hmask
  constructor
  · rintro rfl
    change 0 = _ at hlead
    omega
  · exact hext
  · exact hseq
  · exact Nat.le_succ 1
  · exact List.forall_mem_cons.mpr ⟨isExtension_stored _, List.forall_mem_nil _⟩
  · apply UInt32.toNat_inj.mp
    rw [List.foldl_cons, List.foldl_nil, UInt16.toNat_toUInt32, List.length_singleton,
      toNat_utf8ShiftAndMask _ (by omega)]
    omega

theorem spells_one {unit : UInt16} (hzero : unit ≠ 0) (h : unit.toNat ≤ 0x7f) :
    Spells unit unit.toUInt32.toUInt8 [] := by
  have hbyte : unit.toUInt32.toUInt8.toNat = unit.toNat := by
    rw [UInt32.toNat_toUInt8, UInt16.toNat_toUInt32]
    omega
  generalize unit.toUInt32.toUInt8 = ch at hbyte ⊢
  have hseq : utf8SeqLength ch = 1 := by
    rw [utf8SeqLength_eq, if_pos (by omega)]
  have hext : ¬isExtension ch := by
    rw [isExtension_iff]
    omega
  have hmask := toNat_leader ch hseq hext
  rw [if_pos rfl] at hmask
  constructor
  · rintro rfl
    exact hzero (UInt16.toNat_inj.mp hbyte.symm)
  · exact hext
  · exact hseq
  · exact Nat.zero_le 2
  · exact List.forall_mem_nil _
  · apply UInt32.toNat_inj.mp
    rw [UInt16.toNat_toUInt32, List.foldl_nil]
    exact hmask.trans hbyte

theorem putUtf8_spells (unit : UInt16) : ∃ ch taken, putUtf8 unit = ch :: taken ∧ Spells unit ch taken := by
  unfold putUtf8
  simp only
  by_cases h3 : 0x07ff < unit
  · rw [if_pos h3]
    exact ⟨_, _, rfl, spells_three (UInt16.lt_iff_toNat_lt.mp h3)⟩
  have hle : unit.toNat ≤ 0x07ff := Nat.not_lt.mp fun h => h3 (UInt16.lt_iff_toNat_lt.mpr h)
  rw [if_neg h3]
  by_cases h2 : 0x7f < unit ∨ unit = 0
  · rw [if_pos h2]
    exact ⟨_, _, rfl, spells_two hle⟩
  · rw [if_neg h2]
    refine ⟨_, _, rfl, spells_one (fun h => h2 (Or.inr h)) ?_⟩
    exact Nat.not_lt.mp fun h => h2 (Or.inl (UInt16.lt_iff_toNat_lt.mpr h))

/-! ## 2. The length -/

/-- The bytes of a string without its NUL. -/
def utf8Body (s : List UInt16) : List UInt8 := s.flatMap putUtf8

theorem utf8Body_cons (unit : UInt16) (s : List UInt16) :
    utf8Body (unit :: s) = putUtf8 unit ++ utf8Body s := List.flatMap_cons

theorem strncpy16to8_eq (s : List UInt16) : strncpy16to8 s = utf8Body s ++ [0] := by
  induction s with
  | nil => rfl
  | cons unit s ih => rw [strncpy16to8_cons, ih, utf8Body_cons, List.append_assoc]

theorem utf8Body_nonzero (s : List UInt16) : (0 : UInt8) ∉ utf8Body s := by
  unfold utf8Body
  rw [List.mem_flatMap]
  rintro ⟨unit, -, hmem⟩
  obtain ⟨ch, taken, heq, h⟩ := putUtf8_spells unit
  rw [heq] at hmem
  rcases List.mem_cons.mp hmem with hzero | htaken
  · exact h.nonzero hzero.symm
  · exact ne_zero_of_isExtension (h.extensions 0 htaken) rfl

theorem unitLength_bounds (uic : UInt16) : 1 ≤ unitLength uic ∧ unitLength uic ≤ 3 := by
  unfold unitLength
  split
  · omega
  · split <;> omega

theorem length_utf8Body_cons (unit : UInt16) (s : List UInt16) :
    (utf8Body (unit :: s)).length = unitLength unit + (utf8Body s).length := by
  rw [utf8Body_cons, List.length_append, length_putUtf8]

theorem length_utf8Body_le (s : List UInt16) : (utf8Body s).length ≤ 3 * s.length := by
  induction s with
  | nil => exact Nat.le_refl 0
  | cons unit s ih =>
    have hunit := unitLength_bounds unit
    rw [length_utf8Body_cons, List.length_cons]
    omega

theorem strnlenFast_eq {sizeMax : Nat} (s : List UInt16) (utf8Len : Nat)
    (h : utf8Len + (utf8Body s).length ≤ sizeMax) :
    strnlenFast sizeMax s utf8Len = utf8Len + (utf8Body s).length := by
  induction s generalizing utf8Len with
  | nil => rfl
  | cons unit s ih =>
    rw [length_utf8Body_cons] at h ⊢
    rw [strnlenFast, Nat.mod_eq_of_lt (by omega), ih _ (by omega)]
    omega

/-- The wrap of `size_t` shows as a smaller number in the very step that makes it. -/
theorem strnlenSlow_eq {sizeMax : Nat} (hsize : 3 ≤ sizeMax) (s : List UInt16) (utf8Len : Nat)
    (h : utf8Len ≤ sizeMax) :
    strnlenSlow sizeMax s utf8Len = min (utf8Len + (utf8Body s).length) (sizeMax - 1) := by
  induction s generalizing utf8Len with
  | nil =>
    rw [strnlenSlow, show (utf8Body []).length = 0 from rfl]
    split <;> omega
  | cons unit s ih =>
    have hunit := unitLength_bounds unit
    rw [length_utf8Body_cons, strnlenSlow]
    -- from the step that wraps on the length is beyond `sizeMax` in both
    by_cases hwrap : sizeMax < utf8Len + unitLength unit
    · have hmod : (utf8Len + unitLength unit) % (sizeMax + 1) =
          utf8Len + unitLength unit - (sizeMax + 1) := by
        rw [Nat.mod_eq_sub_mod (by omega), Nat.mod_eq_of_lt (by omega)]
      simp only [hmod]
      -- a wrapped sum is smaller by more than a unit adds
      rw [if_pos (by omega)]
      omega
    · simp only [Nat.mod_eq_of_lt (show utf8Len + unitLength unit < sizeMax + 1 by omega)]
      rw [if_neg (by omega), ih _ (by omega)]
      omega

theorem strnlen16to8_eq {sizeMax : Nat} (hsize : 3 ≤ sizeMax) (s : List UInt16) :
    strnlen16to8 sizeMax s = min (utf8Body s).length (sizeMax - 1) := by
  have hle := length_utf8Body_le s
  unfold strnlen16to8
  split
  · rename_i hfast
    -- three bytes for each unit cannot wrap here
    rw [strnlenFast_eq s 0 (by omega), Nat.zero_add]
    omega
  · rw [strnlenSlow_eq hsize s 0 (Nat.zero_le _), Nat.zero_add]

/-- `strnlen16to8` is the length of the converted string up to `SIZE_MAX - 1`, on its fast path and
on the paranoid one, and `strndup16to8` fills exactly what it allocates, with one NUL at the end. -/
theorem strndup16to8_fills {sizeMax : Nat} (hsize : 3 ≤ sizeMax) (malloc : Nat → Bool)
    (s : List UInt16) :
    ∃ body, strncpy16to8 s = body ++ [0] ∧ (0 : UInt8) ∉ body ∧
      strnlen16to8 sizeMax s = min body.length (sizeMax - 1) ∧
      strndup16to8 sizeMax malloc (some s) =
        if body.length < sizeMax - 1 ∧ malloc (body.length + 1) then
          some ((body ++ [0]).length, body ++ [0])
        else none := by
  refine ⟨utf8Body s, strncpy16to8_eq s, utf8Body_nonzero s, strnlen16to8_eq hsize s, ?_⟩
  unfold strndup16to8
  rw [Option.bind_some, strnlen16to8_eq hsize, strncpy16to8_eq, List.length_append]
  by_cases hfits : (utf8Body s).length < sizeMax - 1
  · simp only [Nat.min_eq_left (Nat.le_of_lt hfits), if_neg (Nat.not_le.mpr hfits), hfits, true_and]
    rfl
  · simp only [Nat.min_eq_right (Nat.not_lt.mp hfits), if_pos (Nat.le_refl _), hfits, false_and]
    rfl

theorem strndup16to8_fills_small :
    ∃ body, strncpy16to8 [0x41, 0, 0x20ac] = body ++ [0] ∧ (0 : UInt8) ∉ body ∧
      strnlen16to8 8 [0x41, 0, 0x20ac] = min body.length (8 - 1) ∧
      strndup16to8 8 (fun _ => true) (some [0x41, 0, 0x20ac]) =
        if body.length < 8 - 1 ∧ (fun _ => true) (body.length + 1) then
          some ((body ++ [0]).length, body ++ [0])
        else none :=
  strndup16to8_fills (by decide) (fun _ => true) [0x41, 0, 0x20ac]

/-! ## 3. There and back -/

theorem getUtf32FromUtf8_spells {unit : UInt16} {ch : UInt8} {taken : Ptr} (h : Spells unit ch taken)
    (rest : Ptr) : getUtf32FromUtf8 (ch :: (taken ++ rest)) = some (unit.toUInt32, rest) := by
  rw [getUtf32FromUtf8, if_neg h.lead]
  simp only [if_neg h.nonzero, h.seqLength, Nat.add_sub_cancel]
  rw [extensionBytes_full h.extensions, h.value]

theorem putUtf16_unit (unit : UInt16) : putUtf16 unit.toUInt32 = [unit] := by
  have hunit := unit.toNat_lt
  have hbmp : unit.toUInt32 ≤ 0xffff := by
    rw [UInt32.le_iff_toNat_le, UInt16.toNat_toUInt32]
    exact Nat.le_of_lt_succ hunit
  unfold putUtf16
  rw [if_pos hbmp, UInt16.toUInt16_toUInt32]

theorem strcpyLoop_spells {unit : UInt16} {ch : UInt8} {taken : Ptr} (h : Spells unit ch taken)
    (n : Nat) (rest : Ptr) (dest : List UInt16) :
    strcpyLoop (n + 1) (ch :: (taken ++ rest)) dest = strcpyLoop n rest (dest ++ [unit]) := by
  rw [strcpyLoop, if_neg h.nonzero, getUtf32FromUtf8_spells h]
  simp only [putUtf16_unit]

theorem strlenLoop_spells {unit : UInt16} {ch : UInt8} {taken : Ptr} (h : Spells unit ch taken)
    (rest : Ptr) (len : Nat) : strlenLoop (ch :: (taken ++ rest)) len 0 = strlenLoop rest (len + 1) 0 := by
  have hseq := h.seqLength
  have hshort := h.short
  rw [strlenLoop_char h.nonzero h.extensions (by omega) (by omega)]
  unfold counted
  rw [if_neg (by omega), Nat.add_comm]

/-- Behind `strncpy16to8` the two loops of `strdup8to16.cpp` find the units again, whatever follows
the NUL in memory. -/
theorem loops_utf8Body (s : List UInt16) (tail : Ptr) :
    (∀ len, strlenLoop (utf8Body s ++ 0 :: tail) len 0 = some (len + s.length)) ∧
      ∀ n, s.length < n → ∀ dest, strcpyLoop n (utf8Body s ++ 0 :: tail) dest = .done (dest ++ s) := by
  induction s with
  | nil =>
    constructor
    · exact fun len => rfl
    · intro n hn dest
      obtain ⟨n, rfl⟩ : ∃ m, n = m + 1 := ⟨n - 1, by omega⟩
      rw [List.append_nil]
      rfl
  | cons unit s ih =>
    obtain ⟨ch, taken, heq, h⟩ := putUtf8_spells unit
    rw [utf8Body_cons, heq, List.append_assoc, List.cons_append]
    constructor
    · intro len
      rw [strlenLoop_spells h, ih.1, List.length_cons]
      congr 1
      omega
    · intro n hn dest
      rw [List.length_cons] at hn
      obtain ⟨n, rfl⟩ : ∃ m, n = m + 1 := ⟨n - 1, by omega⟩
      rw [strcpyLoop_spells h, ih.2 n (by omega), List.append_assoc]
      rfl

theorem length_le_utf8Body (s : List UInt16) : s.length ≤ (utf8Body s).length := by
  induction s with
  | nil => exact Nat.le_refl 0
  | cons unit s ih =>
    have hunit := unitLength_bounds unit
    rw [length_utf8Body_cons, List.length_cons]
    omega

/-- What `strndup16to8` makes of any UTF-16 string, NULs and lone surrogates included, is taken by
`strdup8to16` back to that string: it allocates one unit for each of its units, and stores them if
it gets the memory. -/
theorem strdup8to16_strndup16to8 {sizeMax : Nat} {malloc : Nat → Bool} {s : List UInt16} {size : Nat}
    {bytes : List UInt8} (hdup : strndup16to8 sizeMax malloc (some s) = some (size, bytes))
    (tail : Ptr) (malloc' : Nat → Bool) :
    strlen8to16 (bytes ++ tail) = some s.length ∧ strcpy8to16 (bytes ++ tail) = .done s ∧
      (2 * s.length ≤ sizeMax → malloc' (2 * s.length) = true →
        strdup8to16 sizeMax malloc' (bytes ++ tail) = some (2 * s.length, .done s)) := by
  have hbytes : bytes = utf8Body s ++ [0] := by
    unfold strndup16to8 at hdup
    rw [Option.bind_some] at hdup
    simp only at hdup
    split at hdup
    · cases hdup
    · split at hdup
      · rw [← strncpy16to8_eq]
        exact (congrArg Prod.snd (Option.some.inj hdup)).symm
      · cases hdup
  obtain ⟨hstrlen, hstrcpy⟩ := loops_utf8Body s tail
  have hshape : bytes ++ tail = utf8Body s ++ 0 :: tail := by
    rw [hbytes, List.append_assoc]
    rfl
  have hlen : strlen8to16 (bytes ++ tail) = some s.length := by
    rw [hshape, strlen8to16, hstrlen, Nat.zero_add]
  have hcopy : strcpy8to16 (bytes ++ tail) = .done s := by
    -- a round of the loop for each unit, and a byte at least for each round
    have hle := length_le_utf8Body s
    have hlong : s.length < (utf8Body s ++ 0 :: tail).length + 1 := by
      rw [List.length_append]
      omega
    rw [hshape]
    exact hstrcpy _ hlong []
  refine ⟨hlen, hcopy, fun hmax hmalloc => ?_⟩
  unfold strdup8to16
  rw [hlen, Option.bind_some, hcopy, if_pos hmalloc]
  refine if_neg fun h => ?_
  have hdiv := (Nat.div_lt_iff_lt_mul (Nat.pos_of_ne_zero h.1)).mp h.2
  omega

theorem strdup8to16_strndup16to8_small :
    strlen8to16 ([0x41, 0xc0, 0x80, 0xed, 0xa0, 0xbd, 0] ++ [0x7f]) = some 3 ∧
    strcpy8to16 ([0x41, 0xc0, 0x80, 0xed, 0xa0, 0xbd, 0] ++ [0x7f]) = .done [0x41, 0, 0xd83d] ∧
    strdup8to16 255 (fun _ => true) ([0x41, 0xc0, 0x80, 0xed, 0xa0, 0xbd, 0] ++ [0x7f]) =
      some (6, .done [0x41, 0, 0xd83d]) := by
  have hdup : strndup16to8 255 (fun _ => true) (some [0x41, 0, 0xd83d]) =
      some (7, [0x41, 0xc0, 0x80, 0xed, 0xa0, 0xbd, 0]) := by decide
  obtain ⟨hlen, hcopy, hunits⟩ := strdup8to16_strndup16to8 hdup [0x7f] fun _ => true
  exact ⟨hlen, hcopy, hunits (by decide) rfl⟩

end Universal7870.Cutils
