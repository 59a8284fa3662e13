import Mathlib.Algebra.GroupWithZero.Nat
import Universal7870.Lib.Overlay

/-!
# Logs of stores

What a program that writes through several cursors has done, in order: its stores, the bytes it has
stepped over without a store, and notes of its own.  `replay` gives the memory behind the stores;
`touched` counts, for one address, how often it was stored or stepped over.  A program whose
cursors never meet touches every address between them once.
-/

namespace Universal7870.Lib

inductive LogEntry (ν : Type)
  | store (a : Nat) (bs : List UInt8)
  | skip (a n : Nat)
  | note (x : ν)

/-- One if `i` is an address from `a` up to `b`. -/
def between (a b i : Nat) : Nat := if a ≤ i ∧ i < b then 1 else 0

/-- Ranges that follow one another join. -/
theorem between_add {a b c : Nat} (hab : a ≤ b) (hbc : b ≤ c) (i : Nat) :
    between a b i + between b c i = between a c i := by
  unfold between
  split <;> split <;> split <;> omega

theorem between_self (a i : Nat) : between a a i = 0 := by
  unfold between
  rw [if_neg (by omega)]

namespace LogEntry

variable {ν : Type}

/-- How often the entry stores a byte at `i`. -/
def writes (i : Nat) : LogEntry ν → Nat
  | store a bs => between a (a + bs.length) i
  | skip .. => 0
  | note _ => 0

/-- How often the entry steps over `i`. -/
def skips (i : Nat) : LogEntry ν → Nat
  | store .. => 0
  | skip a n => between a (a + n) i
  | note _ => 0

def applyTo (o : Overlay) : LogEntry ν → Overlay
  | store a bs => o.put a bs
  | skip .. => o
  | note _ => o

end LogEntry

abbrev StoreLog (ν : Type) := List (LogEntry ν)

namespace StoreLog

variable {ν : Type}

def replay (o : Overlay) (log : StoreLog ν) : Overlay := log.foldl LogEntry.applyTo o

def writes (log : StoreLog ν) (i : Nat) : Nat := (log.map (LogEntry.writes i)).sum

def skips (log : StoreLog ν) (i : Nat) : Nat := (log.map (LogEntry.skips i)).sum

def touched (log : StoreLog ν) (i : Nat) : Nat := log.writes i + log.skips i

/-- Every note of the log is of the kind `P`. -/
def Notes (P : ν → Prop) (log : StoreLog ν) : Prop := ∀ x, .note x ∈ log → P x

theorem replay_append (o : Overlay) (log log' : StoreLog ν) :
    replay o (log ++ log') = replay (replay o log) log' := List.foldl_append

theorem touched_append (log log' : StoreLog ν) (i : Nat) :
    touched (log ++ log') i = touched log i + touched log' i := by
  unfold touched writes skips
  rw [List.map_append, List.map_append, List.sum_append, List.sum_append]
  omega

theorem touched_store (a : Nat) (bs : List UInt8) (i : Nat) :
    touched [(.store a bs : LogEntry ν)] i = between a (a + bs.length) i := rfl

theorem touched_note_store (x : ν) (a : Nat) (bs : List UInt8) (i : Nat) :
    touched [.note x, .store a bs] i = between a (a + bs.length) i := by
  change 0 + (between a (a + bs.length) i + 0) + 0 = _
  omega

/-- A store with the bytes behind it that are stepped over. -/
theorem touched_store_skip (a : Nat) (bs : List UInt8) (n i : Nat) :
    touched [(.store a bs : LogEntry ν), .skip (a + bs.length) n] i =
      between a (a + (bs.length + n)) i := by
  rw [← between_add (Nat.le_add_right a bs.length) (by omega : a + bs.length ≤ a + (bs.length + n)),
    ← Nat.add_assoc]
  change between a (a + bs.length) i + (0 + 0) +
    (0 + (between (a + bs.length) (a + bs.length + n) i + 0)) = _
  omega

theorem notes_append {P : ν → Prop} {log log' : StoreLog ν} (h : Notes P log) (h' : Notes P log') :
    Notes P (log ++ log') := fun x hx => (List.mem_append.mp hx).elim (h x) (h' x)

/-- Where every address of a range is touched once, it is either stored once or stepped over. -/
theorem writes_of_touched {log : StoreLog ν} {a b i : Nat} (h : touched log i = between a b i)
    (ha : a ≤ i) (hb : i < b) :
    log.writes i = 1 ∧ log.skips i = 0 ∨ log.writes i = 0 ∧ log.skips i = 1 := by
  unfold touched between at h
  rw [if_pos ⟨ha, hb⟩] at h
  omega

end StoreLog

end Universal7870.Lib
