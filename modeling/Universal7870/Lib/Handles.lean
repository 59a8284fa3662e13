import Mathlib.Data.List.Perm.Basic
import Mathlib.Tactic.Common

/-!
# Handles

A ledger of handles that a program is given and gives back: descriptors, devices, memory.  A number
may be handed out again once it was given back.  The ledger notes when a program uses a handle, or
gives it back, that is not open.
-/

namespace Universal7870.Lib

structure Handles (ι : Type*) where
  opened : List ι := []
  gained : List ι := []
  released : List ι := []
  fault : Bool := false
  deriving DecidableEq, Repr

namespace Handles

variable {ι : Type*}

def gain (h : Handles ι) (i : ι) : Handles ι :=
  { h with opened := i :: h.opened, gained := i :: h.gained }

section

variable [DecidableEq ι]

def access (h : Handles ι) (i : ι) : Handles ι :=
  if i ∈ h.opened then h else { h with fault := true }

def release (h : Handles ι) (i : ι) : Handles ι :=
  if i ∈ h.opened then { h with opened := h.opened.erase i, released := i :: h.released }
  else { h with fault := true }

end

/-- No handle was used or given back that was not open, and what was gained is open or was given
back once. -/
structure Sound (h : Handles ι) : Prop where
  fault : h.fault = false
  perm : h.gained.Perm (h.released ++ h.opened)

theorem sound_empty : ({} : Handles ι).Sound := ⟨rfl, .nil⟩

/-- Once none is open, each was given back as often as it was gained. -/
theorem Sound.perm_released {h : Handles ι} (hs : h.Sound) (hnone : h.opened = []) :
    h.gained.Perm h.released := by
  have hperm := hs.perm
  rw [hnone, List.append_nil] at hperm
  exact hperm

/-- Exactly the handles of the list are open, each of them once. -/
structure Owns (h : Handles ι) (l : List ι) : Prop where
  sound : h.Sound
  opened : h.opened.Perm l

theorem owns_empty : ({} : Handles ι).Owns [] := ⟨sound_empty, .nil⟩

section

variable {h : Handles ι} {i : ι} {l l' : List ι}

theorem Owns.perm (ho : h.Owns l) (hl : l.Perm l') : h.Owns l' := ⟨ho.sound, ho.opened.trans hl⟩

theorem Owns.mem (ho : h.Owns l) (hi : i ∈ l) : i ∈ h.opened := ho.opened.mem_iff.mpr hi

theorem Owns.opened_nil (ho : h.Owns []) : h.opened = [] := ho.opened.eq_nil

theorem Owns.gain (ho : h.Owns l) (i : ι) : (h.gain i).Owns (i :: l) where
  sound := ⟨ho.sound.fault, (ho.sound.perm.cons i).trans List.perm_middle.symm⟩
  opened := ho.opened.cons i

variable [DecidableEq ι]

theorem Owns.access (ho : h.Owns l) (hi : i ∈ l) : h.access i = h := if_pos (ho.mem hi)

theorem Owns.release (ho : h.Owns (i :: l)) : (h.release i).Owns l := by
  have hi := ho.mem List.mem_cons_self
  unfold Handles.release
  rw [if_pos hi]
  refine ⟨⟨ho.sound.fault, ho.sound.perm.trans ?_⟩, ?_⟩
  · exact ((List.perm_cons_erase hi).append_left h.released).trans List.perm_middle
  · exact (List.perm_cons_erase hi).symm.trans ho.opened |>.cons_inv

end

end Handles

end Universal7870.Lib
