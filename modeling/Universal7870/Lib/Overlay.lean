import Mathlib.Data.List.Basic
import Mathlib.Tactic.Common

/-!
# Stores into a byte memory

An `Overlay` is what a program has stored so far: `none` where it has stored nothing.  `put` is one
store; `lay` puts down a block of cells some of which may be blank.  Blocks that do not overlap
commute, and blocks that follow one another join, so a program that writes through several cursors
can be summed up as one block.
-/

namespace Universal7870.Lib

abbrev Overlay := Nat → Option UInt8

/-- A block of cells; a blank one stores nothing. -/
abbrev Cells := List (Option UInt8)

def stored (bs : List UInt8) : Cells := bs.map some

def blanks (n : Nat) : Cells := List.replicate n none

/-- What the block `cells` at the address `a` stores at `i`. -/
def cellAt (a : Nat) (cells : Cells) (i : Nat) : Option UInt8 :=
  if a ≤ i then (cells[i - a]?).join else none

namespace Overlay

def empty : Overlay := fun _ => none

def lay (o : Overlay) (a : Nat) (cells : Cells) : Overlay := fun i => (cellAt a cells i).or (o i)

def put (o : Overlay) (a : Nat) (bs : List UInt8) : Overlay := o.lay a (stored bs)

/-- The memory behind the stores. -/
def onto (o : Overlay) (m : Nat → UInt8) : Nat → UInt8 := fun i => (o i).getD (m i)

end Overlay

/-! ## 1. Single cells -/

theorem length_stored (bs : List UInt8) : (stored bs).length = bs.length := List.length_map _

theorem length_blanks (n : Nat) : (blanks n).length = n := List.length_replicate

theorem stored_append (xs ys : List UInt8) : stored (xs ++ ys) = stored xs ++ stored ys :=
  List.map_append

theorem cellAt_of_lt {a i : Nat} (cells : Cells) (h : i < a) : cellAt a cells i = none :=
  if_neg (Nat.not_le.mpr h)

theorem cellAt_of_ge {a i : Nat} {c : Cells} (h : a + c.length ≤ i) :
    cellAt a c i = none := by
  unfold cellAt
  rw [if_pos (by omega), List.getElem?_eq_none (by omega)]
  rfl

theorem cellAt_add (a k : Nat) (cells : Cells) : cellAt a cells (a + k) = (cells[k]?).join := by
  unfold cellAt
  rw [if_pos (Nat.le_add_right a k), Nat.add_sub_cancel_left]

theorem cellAt_append (a : Nat) (xs ys : Cells) (i : Nat) :
    cellAt a (xs ++ ys) i = (cellAt (a + xs.length) ys i).or (cellAt a xs i) := by
  by_cases hlt : i < a + xs.length
  · rw [cellAt_of_lt ys hlt, Option.none_or]
    by_cases ha : a ≤ i
    · unfold cellAt
      rw [if_pos ha, if_pos ha, List.getElem?_append_left (by omega)]
    · rw [cellAt_of_lt _ (by omega), cellAt_of_lt _ (by omega)]
  · rw [cellAt_of_ge (by omega : a + xs.length ≤ i), Option.or_none]
    unfold cellAt
    rw [if_pos (by omega), if_pos (by omega), List.getElem?_append_right (by omega),
      show i - a - xs.length = i - (a + xs.length) by omega]

theorem cellAt_blanks (a n i : Nat) : cellAt a (blanks n) i = none := by
  unfold cellAt blanks
  split
  · rw [List.getElem?_replicate]
    split <;> rfl
  · rfl

theorem cellAt_stored {a i : Nat} {bs : List UInt8} (hlo : a ≤ i) (hhi : i < a + bs.length) :
    cellAt a (stored bs) i = some (bs.getD (i - a) 0) := by
  unfold cellAt stored
  rw [if_pos hlo, List.getElem?_map, List.getElem?_eq_getElem (by omega)]
  rw [List.getD_eq_getElem?_getD, List.getElem?_eq_getElem (by omega)]
  rfl

/-! ## 2. Blocks -/

namespace Overlay

@[ext] theorem ext {o o' : Overlay} (h : ∀ i, o i = o' i) : o = o' := funext h

theorem lay_apply (o : Overlay) (a : Nat) (cells : Cells) (i : Nat) :
    o.lay a cells i = (cellAt a cells i).or (o i) := rfl

theorem lay_nil (o : Overlay) (a : Nat) : o.lay a [] = o := by
  ext i : 1
  unfold lay cellAt
  split <;> simp

theorem lay_of_lt {o : Overlay} {a i : Nat} (cells : Cells) (h : i < a) : o.lay a cells i = o i := by
  rw [lay_apply, cellAt_of_lt cells h, Option.none_or]

theorem lay_of_ge {o : Overlay} {a i : Nat} {cells : Cells} (h : a + cells.length ≤ i) :
    o.lay a cells i = o i := by
  rw [lay_apply, cellAt_of_ge h, Option.none_or]

theorem lay_append (o : Overlay) (a : Nat) (xs ys : Cells) :
    o.lay a (xs ++ ys) = (o.lay a xs).lay (a + xs.length) ys := by
  ext i : 1
  rw [lay_apply, lay_apply, lay_apply, cellAt_append, Option.or_assoc]

theorem lay_blanks (o : Overlay) (a n : Nat) : o.lay a (blanks n) = o := by
  ext i : 1
  rw [lay_apply, cellAt_blanks, Option.none_or]

/-- Blocks that do not overlap can be put down in either order. -/
theorem lay_comm (o : Overlay) {a b : Nat} {xs ys : Cells} (h : a + xs.length ≤ b) :
    (o.lay b ys).lay a xs = (o.lay a xs).lay b ys := by
  ext i : 1
  rw [lay_apply, lay_apply, lay_apply, lay_apply]
  by_cases hb : i < b
  · rw [cellAt_of_lt ys hb, Option.none_or, Option.none_or]
  · rw [cellAt_of_ge (by omega : a + xs.length ≤ i), Option.none_or, Option.none_or]

theorem put_put (o : Overlay) (a : Nat) (xs ys : List UInt8) :
    (o.put a xs).put (a + xs.length) ys = o.put a (xs ++ ys) := by
  unfold put
  rw [stored_append, lay_append, length_stored]

/-- A loop that puts down one block after the other. -/
theorem foldl_lay {α : Type*} (f : Nat × Overlay → α → Nat × Overlay) (cells : α → Cells)
    (h : ∀ s x, f s x = (s.1 + (cells x).length, s.2.lay s.1 (cells x))) (xs : List α)
    (s : Nat × Overlay) :
    xs.foldl f s = (s.1 + (xs.flatMap cells).length, s.2.lay s.1 (xs.flatMap cells)) := by
  induction xs generalizing s with
  | nil =>
    rw [List.foldl_nil, List.flatMap_nil, lay_nil]
    rfl
  | cons x xs ih =>
    rw [List.foldl_cons, ih, h, List.flatMap_cons, lay_append, List.length_append, Nat.add_assoc]

end Overlay

/-! ## 3. What a block leaves in a memory -/

/-- The bytes of the block at the address `a`, where its blanks show the memory `m`. -/
def fill (m : Nat → UInt8) (a : Nat) : Cells → List UInt8
  | [] => []
  | c :: cs => c.getD (m a) :: fill m (a + 1) cs

variable (m : Nat → UInt8)

theorem length_fill (a : Nat) (cells : Cells) : (fill m a cells).length = cells.length := by
  induction cells generalizing a with
  | nil => rfl
  | cons c cs ih => exact congrArg Nat.succ (ih (a + 1))

theorem fill_append (a : Nat) (xs ys : Cells) :
    fill m a (xs ++ ys) = fill m a xs ++ fill m (a + xs.length) ys := by
  induction xs generalizing a with
  | nil => rfl
  | cons x xs ih =>
    rw [List.cons_append, fill, ih, fill, List.cons_append, List.length_cons,
      show a + 1 + xs.length = a + (xs.length + 1) by omega]

theorem fill_stored (a : Nat) (bs : List UInt8) : fill m a (stored bs) = bs := by
  induction bs generalizing a with
  | nil => rfl
  | cons b bs ih => exact congrArg (b :: ·) (ih (a + 1))

/-- A block that is stored last lies over the memory that the stores in front of it leave. -/
theorem onto_lay (o : Overlay) (a : Nat) (cells : Cells) :
    (o.lay a cells).onto m = (Overlay.empty.lay a cells).onto (o.onto m) := by
  funext i
  unfold Overlay.onto
  rw [Overlay.lay_apply, Overlay.lay_apply, show Overlay.empty i = none from rfl, Option.or_none,
    Option.getD_or]

/-- They are the bytes that the stores show. -/
theorem map_onto_lay (o : Overlay) (a : Nat) (cells : Cells) (h : ∀ i, a ≤ i → o i = none) :
    (List.range cells.length).map (fun i => (o.lay a cells).onto m (a + i)) = fill m a cells := by
  induction cells generalizing a o with
  | nil => rfl
  | cons c cs ih =>
    have hfirst : (o.lay a (c :: cs)).onto m (a + 0) = c.getD (m a) := by
      unfold Overlay.onto
      rw [Overlay.lay_apply, cellAt_add, Nat.add_zero, h a (Nat.le_refl a), Option.or_none]
      rfl
    have hrest := ih (o.lay a [c]) (a + 1) (by
      intro i hi
      rw [Overlay.lay_of_ge hi]
      exact h i (by omega))
    rw [List.length_cons, List.range_succ_eq_map, List.map_cons, List.map_map, hfirst, fill,
      ← hrest]
    congr 1
    apply List.map_congr_left
    intro i _
    change (o.lay a ([c] ++ cs)).onto m (a + (i + 1)) = _
    rw [Overlay.lay_append, show a + (i + 1) = a + 1 + i by omega]
    rfl

/-! ## 4. Memories that show a block -/

/-- The memory has the stored cells of the block at the address `a`. -/
def Shows (a : Nat) (cells : Cells) : Prop := ∀ k b, cells[k]? = some (some b) → m (a + k) = b

variable {m}

theorem shows_append {a : Nat} {xs ys : Cells} :
    Shows m a (xs ++ ys) ↔ Shows m a xs ∧ Shows m (a + xs.length) ys := by
  constructor
  · refine fun h => ⟨fun k b hk => h k b ?_, fun k b hk => ?_⟩
    · have hlt : k < xs.length := (List.getElem?_eq_some_iff.mp hk).1
      rw [List.getElem?_append_left hlt]
      exact hk
    · rw [Nat.add_assoc]
      refine h _ b ?_
      rw [List.getElem?_append_right (Nat.le_add_right _ _), Nat.add_sub_cancel_left]
      exact hk
  · rintro ⟨hxs, hys⟩ k b hk
    by_cases hlt : k < xs.length
    · rw [List.getElem?_append_left hlt] at hk
      exact hxs k b hk
    · rw [List.getElem?_append_right (by omega)] at hk
      have hbyte := hys _ b hk
      rwa [Nat.add_assoc, Nat.add_sub_cancel' (by omega)] at hbyte

theorem Shows.byte {a k : Nat} {bs : List UInt8} (h : Shows m a (stored bs)) (hk : k < bs.length) :
    m (a + k) = bs.getD k 0 := by
  refine h k _ ?_
  unfold stored
  rw [List.getElem?_map, List.getElem?_eq_getElem hk, List.getD_eq_getElem?_getD,
    List.getElem?_eq_getElem hk]
  rfl

theorem shows_stored {a : Nat} {bs : List UInt8} (h : ∀ k < bs.length, m (a + k) = bs.getD k 0) :
    Shows m a (stored bs) := by
  intro k b hk
  unfold stored at hk
  rw [List.getElem?_map] at hk
  obtain ⟨b', hb', hsome⟩ := Option.map_eq_some_iff.mp hk
  obtain ⟨hlt, rfl⟩ := List.getElem?_eq_some_iff.mp hb'
  rw [h k hlt, List.getD_eq_getElem?_getD, List.getElem?_eq_getElem hlt]
  exact Option.some.inj hsome

/-- Another memory, or another address, with the same cells. -/
theorem Shows.congr {m' : Nat → UInt8} {a a' : Nat} {cells : Cells} (h : Shows m a cells)
    (heq : ∀ k < cells.length, m' (a' + k) = m (a + k)) : Shows m' a' cells := by
  intro k b hk
  rw [heq k (List.getElem?_eq_some_iff.mp hk).1]
  exact h k b hk

/-- Blanks at the end of a block show nothing. -/
theorem lt_of_blanks {front : Cells} {r k : Nat} {b : UInt8}
    (h : (front ++ blanks r)[k]? = some (some b)) : k < front.length := by
  by_contra hlate
  rw [List.getElem?_append_right (Nat.not_lt.mp hlate)] at h
  unfold blanks at h
  rw [List.getElem?_replicate] at h
  split at h <;> cases h

/-- A memory that shows a block is filled with it. -/
theorem map_of_shows {a : Nat} {cells : Cells} (h : Shows m a cells) :
    (List.range cells.length).map (fun k => m (a + k)) = fill m a cells := by
  induction cells generalizing a with
  | nil => rfl
  | cons c cs ih =>
    have hfirst : m (a + 0) = c.getD (m a) := by
      cases c with
      | none => rfl
      | some b => exact h 0 b rfl
    have hsplit : Shows m a ([c] ++ cs) := h
    have hrest := ih (shows_append.mp hsplit).2
    rw [List.length_cons, List.range_succ_eq_map, List.map_cons, List.map_map, hfirst, fill,
      show a + 1 = a + [c].length from rfl, ← hrest]
    congr 1
    apply List.map_congr_left
    intro k _
    change m (a + (k + 1)) = m (a + 1 + k)
    rw [Nat.add_assoc, Nat.add_comm 1]

/-- Stores that are a block where the block is show it. -/
theorem shows_onto {o o' : Overlay} {a : Nat} {cells : Cells}
    (h : ∀ i, a ≤ i → i < a + cells.length → o i = o'.lay a cells i) :
    Shows (o.onto m) a cells := by
  intro k b hk
  have hlt : k < cells.length := (List.getElem?_eq_some_iff.mp hk).1
  unfold Overlay.onto
  rw [h (a + k) (Nat.le_add_right _ _) (by omega), Overlay.lay_apply, cellAt_add, hk]
  rfl

end Universal7870.Lib
