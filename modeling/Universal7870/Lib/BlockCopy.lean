import Mathlib.Tactic.Common

/-!
# Copies of blocks

A memory is a function from addresses.  `blit` copies a block between two memories; `Memcpy` is a
copy within one memory, of which nothing is known when the two blocks overlap.
-/

namespace Universal7870.Lib

variable {α : Type*}

/-- The memory `mem` after `len` cells of `source` from `src` on are copied to `dst`. -/
def blit (mem : Nat → α) (dst : Nat) (source : Nat → α) (src len : Nat) : Nat → α :=
  fun i => if dst ≤ i ∧ i < dst + len then source (src + (i - dst)) else mem i

theorem blit_inside {mem source : Nat → α} {dst src len i : Nat} (h : i < len) :
    blit mem dst source src len (dst + i) = source (src + i) := by
  unfold blit
  rw [if_pos (by omega), Nat.add_sub_cancel_left]

theorem blit_outside {mem source : Nat → α} {dst src len i : Nat} (h : i < dst ∨ dst + len ≤ i) :
    blit mem dst source src len i = mem i := by
  unfold blit
  rw [if_neg (by omega)]

theorem blit_nil (mem source : Nat → α) (dst src : Nat) : blit mem dst source src 0 = mem := by
  funext i
  exact blit_outside (by omega)

/-- Two copies that follow one another are one. -/
theorem blit_blit (mem source : Nat → α) (dst src n m : Nat) :
    blit (blit mem dst source src n) (dst + n) source (src + n) m =
      blit mem dst source src (n + m) := by
  funext i
  unfold blit
  by_cases hlast : dst + n ≤ i ∧ i < dst + n + m
  · rw [if_pos hlast, if_pos (by omega), show src + n + (i - (dst + n)) = src + (i - dst) by omega]
  · rw [if_neg hlast]
    by_cases hfirst : dst ≤ i ∧ i < dst + n
    · rw [if_pos hfirst, if_pos (by omega)]
    · rw [if_neg hfirst, if_neg (by omega)]

/-- A copy only depends on the cells that it copies. -/
theorem blit_congr {mem source source' : Nat → α} {dst src src' len : Nat}
    (h : ∀ i < len, source (src + i) = source' (src' + i)) :
    blit mem dst source src len = blit mem dst source' src' len := by
  funext i
  unfold blit
  by_cases hin : dst ≤ i ∧ i < dst + len
  · rw [if_pos hin, if_pos hin, h (i - dst) (by omega)]
  · rw [if_neg hin, if_neg hin]

/-- `memcpy`, for blocks of one memory. -/
structure Memcpy (α : Type*) where
  copy : (Nat → α) → Nat → Nat → Nat → Nat → α
  copy_disjoint : ∀ mem dst src len, dst + len ≤ src ∨ src + len ≤ dst →
    copy mem dst src len = blit mem dst mem src len

/-- The memory begins with `len` cells of `source` from `first` on. -/
def BeginsWith (mem source : Nat → α) (first len : Nat) : Prop :=
  ∀ i < len, mem i = source (first + i)

/-- More cells are copied behind those it begins with. -/
theorem BeginsWith.extend {mem source : Nat → α} {first n : Nat} (h : BeginsWith mem source first n)
    (m : Nat) : BeginsWith (blit mem n source (first + n) m) source first (n + m) := by
  intro i hi
  by_cases hold : i < n
  · rw [blit_outside (.inl hold)]
    exact h i hold
  · obtain ⟨k, rfl⟩ := Nat.exists_eq_add_of_le (Nat.not_lt.mp hold)
    rw [blit_inside (by omega), Nat.add_assoc]

/-- The first `n` cells are dropped: those behind them are moved, and do not overlap with where they
are moved to. -/
theorem BeginsWith.dropFront {mem source : Nat → α} {first n m : Nat} (copy : Memcpy α)
    (h : BeginsWith mem source first (n + m)) (hle : m ≤ n) :
    BeginsWith (copy.copy mem 0 n m) source (first + n) m := by
  intro i hi
  rw [copy.copy_disjoint _ _ _ _ (.inl (by omega))]
  have hblock := @blit_inside α mem mem 0 n m i hi
  rw [Nat.zero_add] at hblock
  rw [hblock, h (n + i) (by omega), Nat.add_assoc]

theorem BeginsWith.map_range {mem source : Nat → α} {first len n : Nat}
    (h : BeginsWith mem source first len) (hn : n ≤ len) :
    (List.range n).map mem = (List.range n).map fun i => source (first + i) := by
  apply List.map_congr_left
  intro i hi
  exact h i (Nat.lt_of_lt_of_le (List.mem_range.mp hi) hn)

/-- A copy that starts with the last cell. -/
def copyBackward (mem : Nat → α) (dst src : Nat) : Nat → Nat → α
  | 0 => mem
  | len + 1 => copyBackward (Function.update mem (dst + len) (mem (src + len))) dst src len

theorem copyBackward_disjoint (mem : Nat → α) (dst src len : Nat)
    (h : dst + len ≤ src ∨ src + len ≤ dst) :
    copyBackward mem dst src len = blit mem dst mem src len := by
  induction len generalizing mem with
  | zero => exact (blit_nil mem mem dst src).symm
  | succ len ih =>
    unfold copyBackward
    rw [ih _ (by omega)]
    funext i
    by_cases hlast : i = dst + len
    · rw [hlast, blit_outside (by omega), Function.update_self, blit_inside (by omega)]
    · unfold blit
      rw [Function.update_of_ne hlast]
      by_cases hin : dst ≤ i ∧ i < dst + len
      · rw [if_pos hin, if_pos (by omega), Function.update_of_ne (by omega)]
      · rw [if_neg hin, if_neg (by omega)]

def Memcpy.backward : Memcpy α := ⟨copyBackward, copyBackward_disjoint⟩

end Universal7870.Lib
