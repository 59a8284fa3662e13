import Universal7870.Camera.CameraMetadata

/-!
# Who owns the metadata

Over every run of calls on any number of metadata objects: each buffer has one owner, nothing is used
after it was freed, and the packet of a locked object does not change.
-/

namespace Universal7870.Camera

open Lib

namespace MetadataStore

variable {ι M : Type*}

/-- The library returns a buffer that is not in use. -/
def Fresh (s : MetadataStore ι M) (alloc : Option Nat) : Prop := ∀ a ∈ alloc, s.live a = false

/-- What the code around the objects owes them: a constructor works on a new object, a buffer that
is read is there, one that is given away or freed is its own, and nothing is appended to itself. -/
def Legal (s : MetadataStore ι M) : MetadataOp ι M → Prop
  | .construct i _ _ alloc => s.mBuffer i = none ∧ s.mLocked i = false ∧ s.Fresh alloc
  | .copy _ _ alloc => s.Fresh alloc
  | .assign _ buffer alloc => s.live buffer = true ∧ s.Fresh alloc
  | .acquire _ buffer => s.holder buffer = some .caller
  | .append i other alloc => s.live other = true ∧ s.mBuffer i ≠ some other ∧ s.Fresh alloc
  | .update _ _ _ _ _ alloc => s.Fresh alloc
  | .callerAllocates a _ => s.Fresh (some a)
  | .callerFrees b => s.holder b = some .caller
  | _ => True

/-- No fault has happened, the buffers that are there are those that somebody holds, and an object
holds the buffer that it points to and no other. -/
structure Owned (s : MetadataStore ι M) : Prop where
  fault : s.fault = false
  live : ∀ b, s.live b = (s.holder b).isSome
  object : ∀ i b, s.mBuffer i = some b ↔ s.holder b = some (.object i)

/-- The object `i` is as before, and so is the packet in its buffer. -/
structure Kept (i : ι) (s t : MetadataStore ι M) : Prop where
  mBuffer : t.mBuffer i = s.mBuffer i
  mLocked : t.mLocked i = s.mLocked i
  packet : ∀ b, s.mBuffer i = some b → t.packet b = s.packet b

/-- A call that works on the objects `K` only. -/
structure Moves (K : ι → Prop) (s t : MetadataStore ι M) : Prop where
  owned : t.Owned
  kept : ∀ i, ¬K i → Kept i s t

/-! ## 1. What the parts of a call keep -/

section

variable {s t u : MetadataStore ι M} {K : ι → Prop} {i : ι} {a b : Nat} {m : M}

theorem Kept.refl (i : ι) (s : MetadataStore ι M) : Kept i s s := ⟨rfl, rfl, fun _ _ => rfl⟩

theorem Kept.trans (h : Kept i s t) (h' : Kept i t u) : Kept i s u where
  mBuffer := h'.mBuffer.trans h.mBuffer
  mLocked := h'.mLocked.trans h.mLocked
  packet b hb := (h'.packet b (h.mBuffer.trans hb)).trans (h.packet b hb)

theorem Moves.refl (K : ι → Prop) (hs : s.Owned) : Moves K s s := ⟨hs, fun i _ => Kept.refl i s⟩

theorem Moves.trans (h : Moves K s t) (h' : Moves K t u) : Moves K s u where
  owned := h'.owned
  kept i hi := (h.kept i hi).trans (h'.kept i hi)

theorem Moves.of_nothing (h : Moves (fun _ : ι => False) s t) :
    t.Owned ∧ ∀ i, s.mLocked i = true → Kept i s t := ⟨h.owned, fun i _ => h.kept i id⟩

theorem Owned.live_buffer (h : s.Owned) (hb : s.mBuffer i = some b) : s.live b = true := by
  rw [h.live, (h.object i b).mp hb]
  rfl

theorem touch_eq (h : s.live b = true) : s.touch b = s := by
  unfold touch
  rw [h]
  simp only [Bool.not_true, Bool.or_false]

/-- A write to a buffer that no object outside `K` points to. -/
theorem moves_write (hs : s.Owned) (hlive : s.live b = true) (hb : ∀ i, ¬K i → s.mBuffer i ≠ some b) :
    Moves K s (s.write b m) := by
  unfold write
  rw [touch_eq hlive]
  constructor
  · exact ⟨hs.fault, hs.live, hs.object⟩
  · intro i hi
    refine ⟨rfl, rfl, fun b' hb' => ?_⟩
    have hne : b' ≠ b := by
      rintro rfl
      exact hb i hi hb'
    exact Function.update_of_ne hne _ _

theorem moves_writeOwn (hs : s.Owned) (hi : K i) (hbuf : s.mBuffer i = some b) (m : M) :
    Moves K s (s.write b m) := by
  refine moves_write hs (hs.live_buffer hbuf) fun j hj h => ?_
  have hobject := (hs.object j b).mp h
  rw [(hs.object i b).mp hbuf] at hobject
  cases hobject
  exact hj hi

theorem moves_allocate (hs : s.Owned) (hfresh : s.live a = false) {h : Holder ι}
    (hloose : ∀ i, h ≠ .object i) :
    Moves K s (s.allocate a m h) := by
  -- a fresh buffer has no holder, so no object points to it
  have hnobody : s.holder a = none := by
    have hlive := hs.live a
    rw [hfresh] at hlive
    exact Option.isNone_iff_eq_none.mp (Option.isSome_eq_false_iff.mp hlive.symm)
  constructor
  · refine ⟨hs.fault, fun b => ?_, fun i b => ?_⟩
    · unfold allocate
      by_cases hb : b = a
      · simp only [hb, Function.update_self, Option.isSome_some]
      · simp only [Function.update_of_ne hb, hs.live b]
    · unfold allocate
      by_cases hb : b = a
      · simp only [hb, Function.update_self, hs.object i a, hnobody, Option.some.injEq]
        exact ⟨fun h => (by cases h), fun h' => absurd h' (hloose i)⟩
      · simp only [Function.update_of_ne hb, hs.object i b]
  · intro i _
    refine ⟨rfl, rfl, fun b hb => Function.update_of_ne ?_ _ _⟩
    -- the packet of an object is in a buffer that is there, so not in the fresh one
    rintro rfl
    rw [hs.live_buffer hb] at hfresh
    cases hfresh

/-- A buffer is freed that no object points to. -/
theorem moves_free (hs : s.Owned) (hlive : s.live b = true) (hb : ∀ i, s.holder b ≠ some (.object i)) :
    Moves K s (s.free b) := by
  unfold free
  rw [touch_eq hlive]
  constructor
  · refine ⟨hs.fault, fun b' => ?_, fun i b' => ?_⟩
    · by_cases hb' : b' = b
      · simp only [hb', Function.update_self, Option.isSome_none]
      · simp only [Function.update_of_ne hb', hs.live b']
    · by_cases hb' : b' = b
      · simp only [hb', Function.update_self, hs.object i b]
        exact ⟨fun h => absurd h (hb i), fun h => by cases h⟩
      · simp only [Function.update_of_ne hb', hs.object i b']
  · exact fun i _ => ⟨rfl, rfl, fun _ _ => rfl⟩

theorem moves_sort {lib : PacketLibrary M} (hs : s.Owned) (hi : K i) : Moves K s (s.sort lib i) := by
  unfold sort
  split
  · exact Moves.refl K hs
  · cases hbuf : s.mBuffer i with
    | none => exact Moves.refl K hs
    | some b => exact moves_writeOwn hs hi hbuf _

theorem moves_erase {lib : PacketLibrary M} (hs : s.Owned) (hi : K i) (tag : MetadataTag) :
    Moves K s (s.erase lib i tag) := by
  unfold erase
  split
  · exact Moves.refl K hs
  · cases hbuf : s.mBuffer i with
    | none => exact Moves.refl K hs
    | some b =>
      simp only
      split
      · rw [touch_eq (hs.live_buffer hbuf)]
        exact Moves.refl K hs
      · exact moves_writeOwn hs hi hbuf _

theorem owned_mLocked (hs : s.Owned) (mLocked : ι → Bool) :
    ({ s with mLocked } : MetadataStore ι M).Owned :=
  ⟨hs.fault, hs.live, hs.object⟩

variable [DecidableEq ι]

theorem moves_loosen (hs : s.Owned) (hi : K i) {h : Holder ι} (hloose : ∀ j, h ≠ .object j) :
    Moves K s (s.loosen i h) := by
  unfold loosen
  cases hbuf : s.mBuffer i with
  | none => exact Moves.refl K hs
  | some b =>
    constructor
    -- only the pointer of `i` and the holder of its buffer change
    · have hheld := (hs.object i b).mp hbuf
      refine ⟨hs.fault, fun b' => ?_, fun j b' => ?_⟩
      · by_cases hb' : b' = b
        · simp only [hb', Function.update_self, Option.isSome_some]
          exact hs.live_buffer hbuf
        · simp only [Function.update_of_ne hb', hs.live b']
      · by_cases hj : j = i
        · subst hj
          simp only [Function.update_self]
          by_cases hb' : b' = b
          · simp only [hb', Function.update_self, Option.some.injEq]
            exact ⟨fun h => (by cases h), fun h' => absurd h' (hloose j)⟩
          · simp only [Function.update_of_ne hb']
            refine ⟨fun h => (by cases h), fun h' => ?_⟩
            rw [← hs.object, hbuf] at h'
            exact absurd (Option.some.inj h').symm hb'
        · simp only [Function.update_of_ne hj]
          by_cases hb' : b' = b
          · simp only [hb', Function.update_self, Option.some.injEq, hs.object j b, hheld]
            refine ⟨fun h => ?_, fun h' => absurd h' (hloose j)⟩
            cases h
            exact absurd rfl hj
          · simp only [Function.update_of_ne hb', hs.object j b']
    · intro j hj
      have hne : j ≠ i := by
        rintro rfl
        exact hj hi
      exact ⟨Function.update_of_ne hne _ _, rfl, fun _ _ => rfl⟩

/-- An object without a buffer is given one that no object points to. -/
theorem moves_adopt (hs : s.Owned) (hi : K i) (hnone : s.mBuffer i = none)
    (hlive : s.live b = true) (hb : ∀ j, s.holder b ≠ some (.object j)) :
    Moves K s (s.adopt i (some b)) := by
  unfold adopt
  constructor
  · refine ⟨hs.fault, fun b' => ?_, fun j b' => ?_⟩
    · by_cases hb' : b' = b
      · simp only [hb', Function.update_self, Option.isSome_some, hlive]
      · simp only [Function.update_of_ne hb', hs.live b']
    · by_cases hj : j = i
      · subst hj
        simp only [Function.update_self]
        by_cases hb' : b' = b
        · simp only [hb', Function.update_self]
        · simp only [Function.update_of_ne hb', Option.some.injEq, Ne.symm hb', false_iff]
          rw [← hs.object, hnone]
          exact fun h => by cases h
      · simp only [Function.update_of_ne hj]
        by_cases hb' : b' = b
        · simp only [hb', Function.update_self, Option.some.injEq, hs.object j b]
          refine ⟨fun h => absurd h (hb j), fun h => ?_⟩
          cases h
          exact absurd rfl hj
        · simp only [Function.update_of_ne hb', hs.object j b']
  · intro j hj
    have hne : j ≠ i := by
      rintro rfl
      exact hj hi
    exact ⟨Function.update_of_ne hne _ _, rfl, fun _ _ => rfl⟩

end

/-! ## 2. What the member functions keep -/

section

variable [DecidableEq ι] {lib : PacketLibrary M} {s : MetadataStore ι M} {K : ι → Prop} {i : ι} {b : Nat}

theorem loosen_of_some {h : Holder ι} (hbuf : s.mBuffer i = some b) : s.loosen i h =
    { s with mBuffer := Function.update s.mBuffer i none,
             holder := Function.update s.holder b (some h) } := by
  unfold loosen
  rw [hbuf]

theorem loosen_of_none {h : Holder ι} (hbuf : s.mBuffer i = none) : s.loosen i h = s := by
  unfold loosen
  rw [hbuf]

theorem adopt_none (hnone : s.mBuffer i = none) : s.adopt i none = s := by
  unfold adopt
  simp only [← hnone, Function.update_eq_self]

theorem holder_loosen {h : Holder ι} (hbuf : s.mBuffer i = some b) :
    (s.loosen i h).holder b = some h := by
  rw [loosen_of_some hbuf]
  exact Function.update_self _ _ _

theorem moves_clear (hs : s.Owned) (hi : K i) : Moves K s (s.clear i) := by
  unfold clear
  split
  · exact Moves.refl K hs
  · cases hbuf : s.mBuffer i with
    | none => exact Moves.refl K hs
    | some b =>
      -- `free` needs a buffer that no object points to any more
      have hloose := moves_loosen (K := K) hs hi Holder.stray_ne
      refine hloose.trans (moves_free hloose.owned ?_ fun j => ?_)
      · rw [loosen_of_some hbuf]
        exact hs.live_buffer hbuf
      · rw [holder_loosen hbuf]
        exact fun h => by cases h

theorem clear_mBuffer (hlock : s.mLocked i = false) : (s.clear i).mBuffer i = none := by
  unfold clear
  rw [hlock]
  cases hbuf : s.mBuffer i with
  | none => exact hbuf
  | some b =>
    simp only [Bool.false_eq_true, if_false]
    rw [loosen_of_some hbuf]
    exact Function.update_self _ _ _

/-- What the object does not hold is as it was when the object is cleared. -/
theorem clear_frame (hs : s.Owned) (hb : s.holder b ≠ some (.object i)) :
    (s.clear i).holder b = s.holder b ∧ (s.clear i).live b = s.live b ∧
      (s.clear i).packet b = s.packet b := by
  unfold clear
  split
  · exact ⟨rfl, rfl, rfl⟩
  · cases hbuf : s.mBuffer i with
    | none => exact ⟨rfl, rfl, rfl⟩
    | some c =>
      have hne : b ≠ c := by
        rintro rfl
        exact hb ((hs.object i b).mp hbuf)
      simp only
      rw [loosen_of_some hbuf]
      unfold free
      refine ⟨?_, Function.update_of_ne hne _ _, rfl⟩
      simp only [Function.update_of_ne hne]

theorem moves_acquire (hs : s.Owned) (hi : K i) {buffer : Option Nat}
    (hbuffer : ∀ b ∈ buffer, s.holder b = some .caller) : Moves K s (s.acquire i buffer) := by
  unfold acquire
  cases hlock : s.mLocked i with
  | true => exact Moves.refl K hs
  | false =>
    simp only [Bool.false_eq_true, if_false]
    have hclear := moves_clear (K := K) hs hi
    have hnone := clear_mBuffer hlock
    cases buffer with
    | none =>
      rw [adopt_none hnone]
      exact hclear
    | some b =>
      have hheld := hbuffer b rfl
      have hloose : ∀ j, s.holder b ≠ some (.object j) := fun j h => by
        rw [hheld] at h
        cases h
      obtain ⟨hholder, hlive, -⟩ := clear_frame hs (hloose i)
      refine hclear.trans (moves_adopt hclear.owned hi hnone ?_ fun j => ?_)
      · rw [hlive, hs.live, hheld]
        rfl
      · rw [hholder]
        exact hloose j

theorem moves_release (hs : s.Owned) (hi : K i) : Moves K s (s.release i).1 := by
  unfold release
  split
  · exact Moves.refl K hs
  · exact moves_loosen hs hi Holder.caller_ne

/-- What `release` returns is the caller's. -/
theorem release_caller (s : MetadataStore ι M) (i : ι) :
    ∀ b ∈ (s.release i).2, (s.release i).1.holder b = some .caller := by
  intro b hb
  unfold release at hb ⊢
  split at hb
  · cases hb
  · rename_i hlock
    rw [if_neg hlock]
    exact holder_loosen hb

theorem moves_acquireFrom (hs : s.Owned) {j : ι} (hi : K i) (hj : K j) :
    Moves K s (s.acquireFrom i j) := by
  unfold acquireFrom
  split
  · exact Moves.refl K hs
  · have hrelease := moves_release (K := K) hs hj
    exact hrelease.trans (moves_acquire hrelease.owned hi (release_caller s j))

/-- A buffer that no object holds is given to an object without one. -/
theorem moves_adopt_stray (hs : s.Owned) (hi : K i) (hnone : s.mBuffer i = none)
    (hstray : s.holder b = some .stray) : Moves K s (s.adopt i (some b)) := by
  refine moves_adopt hs hi hnone ?_ fun j h => ?_
  · rw [hs.live, hstray]
    rfl
  · rw [hstray] at h
    cases h

/-- A new packet for an object without one. -/
theorem moves_takeNew (hs : s.Owned) (hi : K i) (hnone : s.mBuffer i = none) {a : Nat}
    (hfresh : s.live a = false) (m : M) :
    Moves K s ((s.allocate a m .stray).adopt i (some a)) := by
  have halloc := moves_allocate (K := K) (m := m) hs hfresh Holder.stray_ne
  exact halloc.trans (moves_adopt_stray halloc.owned hi hnone (Function.update_self _ _ _))

theorem moves_assign (hs : s.Owned) (hi : K i) {buffer alloc : Option Nat}
    (hbuffer : ∀ b ∈ buffer, s.live b = true) (hfresh : s.Fresh alloc) :
    Moves K s (s.assign lib i buffer alloc) := by
  unfold assign
  cases hlock : s.mLocked i with
  | true => exact Moves.refl K hs
  | false =>
    simp only [Bool.false_eq_true, if_false]
    split
    · exact Moves.refl K hs
    · have hnull : Moves K s ((s.clear i).adopt i none) := by
        rw [adopt_none (clear_mBuffer hlock)]
        exact moves_clear hs hi
      cases buffer with
      | none => exact hnull
      | some b =>
      cases alloc with
      | none => exact hnull
      | some a =>
        simp only [touch_eq (hbuffer b rfl)]
        -- while the old packet is freed, the clone is nobody's
        have halloc := moves_allocate (K := K) (m := lib.clone (s.packet b)) hs (hfresh a rfl)
          Holder.stray_ne
        have hclear := moves_clear (K := K) halloc.owned hi
        have hstray : (s.allocate a (lib.clone (s.packet b)) .stray).holder a = some .stray :=
          Function.update_self _ _ _
        have hframe := clear_frame (i := i) halloc.owned (b := a) fun h => by
          rw [hstray] at h
          cases h
        refine halloc.trans (hclear.trans ?_)
        exact moves_adopt_stray hclear.owned hi (clear_mBuffer hlock) (hframe.1.trans hstray)

theorem moves_resizeIfNeeded (hs : s.Owned) (hi : K i) (extraEntries extraData : Nat)
    {alloc : Option Nat} (hfresh : s.Fresh alloc) :
    Moves K s (s.resizeIfNeeded lib i extraEntries extraData alloc).1 := by
  unfold resizeIfNeeded
  cases hbuf : s.mBuffer i with
  | none =>
    cases alloc with
    | none => exact Moves.refl K hs
    | some a => exact moves_takeNew hs hi hbuf (hfresh a rfl) _
  | some b =>
    have hlive := hs.live_buffer hbuf
    simp only [touch_eq hlive]
    split
    · have hloose := moves_loosen (K := K) hs hi Holder.stray_ne
      have hstray : (s.loosen i .stray).holder b = some .stray := holder_loosen hbuf
      have hnone : (s.loosen i .stray).mBuffer i = none := by
        rw [loosen_of_some hbuf]
        exact Function.update_self _ _ _
      cases alloc with
      | none => exact hloose
      | some a =>
        have hfresh' : (s.loosen i .stray).live a = false := by
          rw [loosen_of_some hbuf]
          exact hfresh a rfl
        -- the new buffer is another one, so the old one is still there to be freed
        have hne : b ≠ a := by
          rintro rfl
          rw [hfresh b rfl] at hlive
          cases hlive
        have hnew := moves_takeNew (K := K) hloose.owned hi hnone hfresh'
        refine hloose.trans ((hnew _).trans (moves_free (hnew _).owned ?_ fun j h => ?_))
        · rw [loosen_of_some hbuf]
          exact (Function.update_of_ne hne _ _).trans hlive
        · change (Function.update (Function.update (s.loosen i .stray).holder a (some .stray)) a
            (some (.object i))) b = _ at h
          rw [Function.update_of_ne hne, Function.update_of_ne hne, hstray] at h
          cases h
    · exact Moves.refl K hs

/-- A resize frees no buffer but the object's own. -/
theorem resizeIfNeeded_live {extraEntries extraData : Nat} {alloc : Option Nat}
    (hb : s.mBuffer i ≠ some b) (hlive : s.live b = true) :
    (s.resizeIfNeeded lib i extraEntries extraData alloc).1.live b = true := by
  have hupdate : ∀ a, Function.update s.live a true b = true := by
    intro a
    by_cases hab : b = a
    · rw [hab, Function.update_self]
    · rw [Function.update_of_ne hab]
      exact hlive
  unfold resizeIfNeeded
  cases hbuf : s.mBuffer i with
  | none =>
    cases alloc with
    | none => exact hlive
    | some a => exact hupdate a
  | some c =>
    have hne : b ≠ c := by
      rintro rfl
      exact hb hbuf
    have hbuf' : (s.touch c).mBuffer i = some c := hbuf
    simp only
    split
    · cases alloc with
      | none =>
        simp only
        rw [loosen_of_some hbuf']
        exact hlive
      | some a =>
        simp only
        rw [loosen_of_some hbuf']
        exact (Function.update_of_ne hne _ _).trans (hupdate a)
    · exact hlive

theorem moves_append (hs : s.Owned) (hi : K i) {other : Nat} {alloc : Option Nat}
    (hlive : s.live other = true) (hother : s.mBuffer i ≠ some other) (hfresh : s.Fresh alloc) :
    Moves K s (s.append lib i other alloc) := by
  unfold append
  split
  · exact Moves.refl K hs
  · simp only [touch_eq hlive]
    generalize (lib.entries (s.packet other)).length = extraEntries
    generalize dataCount (lib.entries (s.packet other)) = extraData
    have hresize : Moves K s (s.resizeIfNeeded lib i extraEntries extraData alloc).1 :=
      moves_resizeIfNeeded hs hi extraEntries extraData hfresh
    -- what is appended is not the object's own packet, so the resize has not freed it
    have hlive' : (s.resizeIfNeeded lib i extraEntries extraData alloc).1.live other = true :=
      resizeIfNeeded_live hother hlive
    generalize (s.resizeIfNeeded lib i extraEntries extraData alloc).1 = t at hresize hlive' ⊢
    cases hbuf : t.mBuffer i with
    | none => exact hresize
    | some b =>
      simp only [touch_eq hlive']
      exact hresize.trans (moves_writeOwn hresize.owned hi hbuf _)

/-- A resize that makes room frees the object's old buffer. -/
theorem resizeIfNeeded_frees {extraEntries a : Nat} (extraData : Nat) (hbuf : s.mBuffer i = some b)
    (hfull : lib.entryCapacity (s.packet b) < (lib.entries (s.packet b)).length + extraEntries) :
    (s.resizeIfNeeded lib i extraEntries extraData (some a)).1.mBuffer i = some a ∧
      (s.resizeIfNeeded lib i extraEntries extraData (some a)).1.live b = false := by
  have hgrown : lib.entryCapacity (s.packet b) <
      grown (lib.entries (s.packet b)).length extraEntries (lib.entryCapacity (s.packet b)) := by
    unfold grown
    rw [if_pos hfull]
    omega
  unfold resizeIfNeeded
  rw [hbuf]
  dsimp only
  rw [if_pos (Or.inl hgrown)]
  exact ⟨Function.update_self _ _ _, Function.update_self _ _ _⟩

/-- A packet that is appended to itself, and for which its buffer is too small, is read behind the
resize, which has freed it. -/
theorem append_self_fault (hlock : s.mLocked i = false) (hbuf : s.mBuffer i = some b) (a : Nat)
    (hfull : lib.entryCapacity (s.packet b) <
      (lib.entries (s.packet b)).length + (lib.entries (s.packet b)).length) :
    (s.append lib i b (some a)).fault = true := by
  unfold append
  rw [if_neg (by rw [hlock]; exact Bool.false_ne_true)]
  obtain ⟨hnew, hfreed⟩ := resizeIfNeeded_frees (s := s.touch b) (a := a)
    (dataCount (lib.entries (s.packet b))) hbuf hfull
  dsimp only
  generalize ((s.touch b).resizeIfNeeded lib i _ _ (some a)).1 = t at hnew hfreed ⊢
  rw [hnew]
  show (t.fault || !t.live b || _) = true
  rw [hfreed, Bool.not_false, Bool.or_true, Bool.true_or]

theorem moves_update (hs : s.Owned) (hi : K i) {expectedType : TagType} {tag : MetadataTag}
    {data : List UInt8} {inside : Bool} {alloc : Option Nat} (hfresh : s.Fresh alloc) :
    Moves K s (s.update lib i expectedType tag data inside alloc) := by
  unfold update
  split
  · exact Moves.refl K hs
  · split
    · exact Moves.refl K hs
    · unfold updateImpl
      split
      · exact Moves.refl K hs
      · split
        · exact Moves.refl K hs
        · split
          · exact Moves.refl K hs
          · have hresize : Moves K s
                (s.resizeIfNeeded lib i 1 (entryDataSize data.length) alloc).1 :=
              moves_resizeIfNeeded hs hi 1 (entryDataSize data.length) hfresh
            generalize s.resizeIfNeeded lib i 1 (entryDataSize data.length) alloc = r at hresize ⊢
            simp only
            split
            · cases hbuf : r.1.mBuffer i with
              | none => exact hresize
              | some b =>
                simp only
                split
                · exact hresize.trans (moves_writeOwn hresize.owned hi hbuf _)
                · exact hresize.trans (moves_writeOwn hresize.owned hi hbuf _)
            · exact hresize

theorem adopt_self (hbuf : s.mBuffer i = some b) (hheld : s.holder b = some (.object i)) :
    s.adopt i (some b) = s := by
  unfold adopt
  simp only [← hbuf, ← hheld, Function.update_eq_self]

/-- A buffer that only the call points to goes to the object it is for, if there is one. -/
theorem moves_adopt_option (hs : s.Owned) (hi : K i) (hnone : s.mBuffer i = none) {buffer : Option Nat}
    (hstray : ∀ b ∈ buffer, s.holder b = some .stray) : Moves K s (s.adopt i buffer) := by
  cases buffer with
  | none =>
    rw [adopt_none hnone]
    exact Moves.refl K hs
  | some b => exact moves_adopt_stray hs hi hnone (hstray b rfl)

theorem adopt_mBuffer_of_ne {j : ι} (hij : i ≠ j) (buffer : Option Nat) :
    (s.adopt j buffer).mBuffer i = s.mBuffer i := by
  cases buffer <;> exact Function.update_of_ne hij _ _

theorem adopt_holder_of_ne {j : ι} {buffer : Option Nat} (hb : buffer ≠ some b) :
    (s.adopt j buffer).holder b = s.holder b := by
  cases buffer with
  | none => rfl
  | some c => exact Function.update_of_ne (fun h => hb (by rw [h])) _ _

theorem loosen_mBuffer (s : MetadataStore ι M) (i : ι) (h : Holder ι) :
    (s.loosen i h).mBuffer i = none := by
  cases hbuf : s.mBuffer i with
  | none => rw [loosen_of_none hbuf, hbuf]
  | some b =>
    rw [loosen_of_some hbuf]
    exact Function.update_self _ _ _

theorem loosen_mBuffer_of_ne {j : ι} (hij : i ≠ j) (h : Holder ι) :
    (s.loosen j h).mBuffer i = s.mBuffer i := by
  cases hbuf : s.mBuffer j with
  | none => rw [loosen_of_none hbuf]
  | some b =>
    rw [loosen_of_some hbuf]
    exact Function.update_of_ne hij _ _

theorem loosen_holder_of_ne {h : Holder ι} (hb : s.mBuffer i ≠ some b) :
    (s.loosen i h).holder b = s.holder b := by
  cases hbuf : s.mBuffer i with
  | none => rw [loosen_of_none hbuf]
  | some c =>
    rw [loosen_of_some hbuf]
    refine Function.update_of_ne (fun heq => hb ?_) _ _
    rw [hbuf, heq]

theorem moves_swap (hs : s.Owned) {j : ι} (hi : K i) (hj : K j) : Moves K s (s.swap i j) := by
  unfold swap
  split
  · exact Moves.refl K hs
  · split
    · exact Moves.refl K hs
    · simp only
      have hfirst := moves_loosen (K := K) hs hi Holder.stray_ne
      by_cases hij : i = j
      · subst hij
        -- a swap with itself gives the buffer back
        rw [loosen_of_none (loosen_mBuffer s i .stray)]
        have hback := moves_adopt_option (K := K) hfirst.owned hi (loosen_mBuffer s i .stray)
          fun b (hb : s.mBuffer i = some b) => holder_loosen hb
        cases hbuf : s.mBuffer i with
        | none =>
          rw [loosen_of_none hbuf, adopt_none hbuf, adopt_none hbuf]
          exact Moves.refl K hs
        | some b =>
          rw [hbuf] at hback
          rw [adopt_self (s := (s.loosen i .stray).adopt i (some b)) (Function.update_self _ _ _)
            (Function.update_self _ _ _)]
          exact hfirst.trans hback
      -- each buffer is for a moment nobody's, and then the other object's
      · have hsecond := moves_loosen (K := K) hfirst.owned hj Holder.stray_ne
        have hother : (s.loosen i .stray).mBuffer j = s.mBuffer j := loosen_mBuffer_of_ne (Ne.symm hij) _
        have hdiffer : ∀ b, s.mBuffer i = some b → s.mBuffer j ≠ some b := by
          intro b hb hb'
          have hobject := (hs.object i b).mp hb
          rw [(hs.object j b).mp hb'] at hobject
          cases hobject
          exact hij rfl
        have hthis : ∀ b ∈ s.mBuffer i, ((s.loosen i .stray).loosen j .stray).holder b = some .stray := by
          intro b hb
          rw [loosen_holder_of_ne (by rw [hother]; exact hdiffer b hb), holder_loosen hb]
        have hthat : ∀ b ∈ s.mBuffer j, ((s.loosen i .stray).loosen j .stray).holder b = some .stray := by
          intro b hb
          exact holder_loosen (hother.trans hb)
        have hthird := moves_adopt_option (K := K) hsecond.owned hj
          (loosen_mBuffer (s.loosen i .stray) j .stray) hthis
        refine hfirst.trans (hsecond.trans (hthird.trans ?_))
        refine moves_adopt_option hthird.owned hi ?_ fun b hb => ?_
        · rw [adopt_mBuffer_of_ne hij, loosen_mBuffer_of_ne hij, loosen_mBuffer]
        · rw [adopt_holder_of_ne (fun h => hdiffer b h hb)]
          exact hthat b hb

end

/-! ## 3. Runs -/

/-- The call ends the lock of the object. -/
def Ends (s : MetadataStore ι M) (i : ι) : MetadataOp ι M → Prop
  | .destroy j => j = i
  | .unlock j buffer => j = i ∧ buffer = s.mBuffer i
  | _ => False

section

variable [DecidableEq ι] {lib : PacketLibrary M} {s t : MetadataStore ι M} {i k : ι}

theorem Moves.of_locked (h : Moves (Eq k) s t) (hsame : s.mLocked k = true → t = s) :
    t.Owned ∧ ∀ i, s.mLocked i = true → Kept i s t := by
  refine ⟨h.owned, fun i hi => ?_⟩
  by_cases hik : k = i
  · rw [hsame (hik.symm ▸ hi)]
    exact Kept.refl i s
  · exact h.kept i hik

theorem acquireFrom_moves (hs : s.Owned) (j : ι) :
    (s.acquireFrom i j).Owned ∧ ∀ k, s.mLocked k = true → Kept k s (s.acquireFrom i j) := by
  have hmoves := moves_acquireFrom (K := fun k => k = i ∨ k = j) hs (Or.inl rfl) (Or.inr rfl)
  refine ⟨hmoves.owned, fun k hk => ?_⟩
  cases hi : s.mLocked i with
  | true =>
    rw [show s.acquireFrom i j = s from if_pos hi]
    exact Kept.refl k s
  | false =>
    have hki : k ≠ i := by
      rintro rfl
      rw [hi] at hk
      cases hk
    by_cases hkj : k = j
    · -- a locked object gives nothing away
      subst hkj
      have hnone : s.acquireFrom i k = s.acquire i none := by
        unfold acquireFrom release
        rw [hi, hk]
        rfl
      rw [hnone]
      exact (moves_acquire (K := Eq i) hs rfl fun b hb => by cases hb).kept k (Ne.symm hki)
    · exact hmoves.kept k fun h => h.elim hki hkj

theorem swap_moves (hs : s.Owned) (j : ι) :
    (s.swap i j).Owned ∧ ∀ k, s.mLocked k = true → Kept k s (s.swap i j) := by
  have hmoves := moves_swap (K := fun k => k = i ∨ k = j) hs (Or.inl rfl) (Or.inr rfl)
  refine ⟨hmoves.owned, fun k hk => ?_⟩
  by_cases hlock : s.mLocked i = true ∨ s.mLocked j = true
  · have hsame : s.swap i j = s := by
      unfold swap
      rcases hlock with h | h
      · rw [if_pos h]
      · rw [if_pos h, ite_self]
    rw [hsame]
    exact Kept.refl k s
  · refine hmoves.kept k fun h => hlock ?_
    rcases h with rfl | rfl
    · exact Or.inl hk
    · exact Or.inr hk

/-- What one call keeps: who holds which buffer, and the locked objects with their packets. -/
theorem step_owned (hs : s.Owned) {op : MetadataOp ι M} (hlegal : s.Legal op) :
    (step lib s op).Owned ∧
      ∀ i, s.mLocked i = true → ¬s.Ends i op → Kept i s (step lib s op) := by
  have hdrop : ∀ t : MetadataStore ι M, (t.Owned ∧ ∀ i, s.mLocked i = true → Kept i s t) →
      t.Owned ∧ ∀ i, s.mLocked i = true → ¬s.Ends i op → Kept i s t :=
    fun t h => ⟨h.1, fun i hi _ => h.2 i hi⟩
  cases op with
  | construct k entryCapacity dataCapacity alloc =>
    refine hdrop _ (Moves.of_locked (k := k) ?_ fun h => ?_)
    · change Moves _ s (s.construct lib k entryCapacity dataCapacity alloc)
      unfold construct
      cases alloc with
      | none => exact Moves.refl _ hs
      | some a => exact moves_takeNew hs rfl hlegal.1 (hlegal.2.2 a rfl) _
    · rw [hlegal.2.1] at h
      cases h
  | copy k j alloc =>
    refine hdrop _ (Moves.of_locked (k := k) (moves_assign hs rfl (fun b hb => ?_) hlegal)
      fun h => if_pos h)
    exact hs.live_buffer hb
  | assign k buffer alloc =>
    refine hdrop _ (Moves.of_locked (k := k) (moves_assign hs rfl (fun b hb => ?_) hlegal.2) fun h =>
      if_pos h)
    cases hb
    exact hlegal.1
  | destroy k =>
    -- a destructor does not look at the lock
    have hflag := owned_mLocked hs (Function.update s.mLocked k false)
    have hclear := moves_clear (K := Eq k) hflag rfl
    refine ⟨hclear.owned, fun i _ hend => ?_⟩
    have hik : i ≠ k := fun h => hend h.symm
    have hkept := hclear.kept i (Ne.symm hik)
    exact ⟨hkept.mBuffer, hkept.mLocked.trans (Function.update_of_ne hik _ _), hkept.packet⟩
  | getAndLock k =>
    refine hdrop _ ⟨owned_mLocked hs _, fun i hi => ⟨rfl, ?_, fun _ _ => rfl⟩⟩
    change Function.update s.mLocked k true i = s.mLocked i
    by_cases hik : i = k
    · rw [hik, Function.update_self, ← hik, hi]
    · exact Function.update_of_ne hik _ _
  | unlock k buffer =>
    change (s.unlock k buffer).Owned ∧ ∀ i, _ → _ → Kept i s (s.unlock k buffer)
    unfold unlock
    split
    · exact ⟨hs, fun i _ _ => Kept.refl i s⟩
    · split
      · exact ⟨hs, fun i _ _ => Kept.refl i s⟩
      · rename_i hbuf
        refine ⟨owned_mLocked hs _, fun i _ hend => ⟨rfl, Function.update_of_ne ?_ _ _, fun _ _ => rfl⟩⟩
        rintro rfl
        exact hend ⟨rfl, not_not.mp hbuf⟩
  | release k =>
    exact hdrop _ (Moves.of_locked (moves_release hs rfl) fun h => congrArg Prod.fst (if_pos h))
  | clear k => exact hdrop _ (Moves.of_locked (moves_clear hs rfl) fun h => if_pos h)
  | acquire k buffer =>
    refine hdrop _ (Moves.of_locked (moves_acquire hs rfl fun b hb => ?_) fun h => if_pos h)
    cases hb
    exact hlegal
  | acquireFrom k j => exact hdrop _ (acquireFrom_moves hs j)
  | append k other alloc =>
    exact hdrop _ (Moves.of_locked (moves_append hs rfl hlegal.1 hlegal.2.1 hlegal.2.2) fun h => if_pos h)
  | sort k => exact hdrop _ (Moves.of_locked (moves_sort hs rfl) fun h => if_pos h)
  | update k expectedType tag data inside alloc =>
    exact hdrop _ (Moves.of_locked (moves_update hs rfl hlegal) fun h => if_pos h)
  | erase k tag => exact hdrop _ (Moves.of_locked (moves_erase hs rfl tag) fun h => if_pos h)
  | swap k j => exact hdrop _ (swap_moves hs j)
  | callerAllocates a m =>
    exact hdrop _ (Moves.of_nothing (moves_allocate hs (hlegal a rfl) Holder.caller_ne))
  | callerFrees b =>
    have hheld : s.holder b = some .caller := hlegal
    refine hdrop _ (Moves.of_nothing (moves_free hs ?_ fun j h => ?_))
    · rw [hs.live, hheld]
      rfl
    · rw [hheld] at h
      cases h

/-- No object has a buffer, and nobody holds any. -/
def start (packet : Nat → M) : MetadataStore ι M where
  mBuffer := fun _ => none
  mLocked := fun _ => false
  live := fun _ => false
  packet := packet
  fault := false
  holder := fun _ => none

omit [DecidableEq ι] in
theorem owned_start (packet : Nat → M) : (start packet : MetadataStore ι M).Owned :=
  ⟨rfl, fun _ => rfl, fun _ _ => ⟨fun h => (by cases h), fun h => by cases h⟩⟩

theorem owned_run {ops : List (MetadataOp ι M)}
    (hrun : ExecWhere Legal (functional (step lib)) s ops t) (hs : s.Owned) : t.Owned :=
  ExecWhere.invariant (fun _ _ _ hs hlegal hstep => hstep ▸ (step_owned hs hlegal).1) hrun hs

/-- From the lock of an object to its end, whatever is called on any object, the object keeps its
buffer, the buffer is there, and the packet in it is the one that was locked. -/
theorem locked_packet_kept {ops : List (MetadataOp ι M)} {i : ι} {b : Nat} (hs : s.Owned)
    (hlock : s.mLocked i = true) (hbuf : s.mBuffer i = some b)
    (hrun : ExecWhere (fun s op => s.Legal op ∧ ¬s.Ends i op) (functional (step lib)) s ops t) :
    t.mLocked i = true ∧ t.mBuffer i = some b ∧ t.live b = true ∧ t.packet b = s.packet b := by
  have hkept : t.Owned ∧ t.mLocked i = true ∧ t.mBuffer i = some b ∧ t.packet b = s.packet b := by
    -- as long as no call ends the lock, one step after the other keeps the packet
    refine ExecWhere.invariant (I := fun t => t.Owned ∧ t.mLocked i = true ∧ t.mBuffer i = some b ∧
      t.packet b = s.packet b) (fun u op v hu hok hstep => ?_) hrun ⟨hs, hlock, hbuf, rfl⟩
    obtain ⟨howned, hlocked, hbuffer, hpacket⟩ := hu
    have hv : step lib u op = v := hstep
    obtain ⟨hnext, hkeep⟩ := hv ▸ step_owned howned hok.1
    have hkeep := hkeep i hlocked hok.2
    exact ⟨hnext, hkeep.mLocked.trans hlocked, hkeep.mBuffer.trans hbuffer,
      (hkeep.packet b hbuffer).trans hpacket⟩
  exact ⟨hkept.2.1, hkept.2.2.1, hkept.1.live_buffer hkept.2.2.1, hkept.2.2.2⟩

end

/-! ## 4. Lost buffers -/

section

variable {lib : PacketLibrary M} {s t : MetadataStore ι M} {i : ι} {a b c : Nat}

theorem stray_free (h : (s.free c).holder b = some .stray) : s.holder b = some .stray ∧ b ≠ c := by
  change Function.update s.holder c none b = some .stray at h
  by_cases hbc : b = c
  · rw [hbc, Function.update_self] at h
    cases h
  · rw [Function.update_of_ne hbc] at h
    exact ⟨h, hbc⟩

theorem stray_allocate {m : M} {h : Holder ι} (hb : (s.allocate a m h).holder b = some .stray) :
    s.holder b = some .stray ∨ (h = .stray ∧ b = a) := by
  change Function.update s.holder a (some h) b = some .stray at hb
  by_cases hba : b = a
  · rw [hba, Function.update_self] at hb
    exact Or.inr ⟨Option.some.inj hb, hba⟩
  · rw [Function.update_of_ne hba] at hb
    exact Or.inl hb

variable [DecidableEq ι]

theorem stray_adopt {buffer : Option Nat} (h : (s.adopt i buffer).holder b = some .stray) :
    s.holder b = some .stray ∧ buffer ≠ some b := by
  by_cases hb : buffer = some b
  · subst hb
    change Function.update s.holder b (some (.object i)) b = some .stray at h
    rw [Function.update_self] at h
    cases h
  · rw [adopt_holder_of_ne hb] at h
    exact ⟨h, hb⟩

theorem stray_loosen {h : Holder ι} (hb : (s.loosen i h).holder b = some .stray) :
    s.holder b = some .stray ∨ (h = .stray ∧ s.mBuffer i = some b) := by
  by_cases hbuf : s.mBuffer i = some b
  · rw [holder_loosen hbuf] at hb
    exact Or.inr ⟨Option.some.inj hb, hbuf⟩
  · rw [loosen_holder_of_ne hbuf] at hb
    exact Or.inl hb

theorem stray_clear (h : (s.clear i).holder b = some .stray) : s.holder b = some .stray := by
  unfold clear at h
  split at h
  · exact h
  · cases hbuf : s.mBuffer i with
    | none =>
      rw [hbuf] at h
      exact h
    | some c =>
      rw [hbuf] at h
      obtain ⟨hloose, hbc⟩ := stray_free h
      rcases stray_loosen hloose with h | h
      · exact h
      · rw [hbuf] at h
        exact absurd (Option.some.inj h.2).symm hbc

theorem stray_acquire {buffer : Option Nat} (h : (s.acquire i buffer).holder b = some .stray) :
    s.holder b = some .stray := by
  unfold acquire at h
  split at h
  · exact h
  · exact stray_clear (stray_adopt h).1

theorem stray_release (h : (s.release i).1.holder b = some .stray) : s.holder b = some .stray := by
  unfold release at h
  split at h
  · exact h
  · rcases stray_loosen h with h | h
    · exact h
    · cases h.1

theorem stray_takeNew {m : M} (h : ((s.allocate a m .stray).adopt i (some a)).holder b = some .stray) :
    s.holder b = some .stray := by
  obtain ⟨h, hne⟩ := stray_adopt h
  rcases stray_allocate h with h | h
  · exact h
  · exact absurd (congrArg some h.2.symm) hne

theorem stray_assign {buffer alloc : Option Nat}
    (h : (s.assign lib i buffer alloc).holder b = some .stray) : s.holder b = some .stray := by
  unfold assign at h
  split at h
  · exact h
  · split at h
    · exact h
    · split at h
      -- the clone is the object's at the end, and `clear` frees what it lets go
      · obtain ⟨hclear, hne⟩ := stray_adopt h
        rcases stray_allocate (stray_clear hclear) with h | h
        · exact h
        · exact absurd (congrArg some h.2.symm) hne
      · exact stray_clear (stray_adopt h).1

/-- A resize that is given memory loses nothing. -/
theorem stray_resizeIfNeeded {extraEntries extraData : Nat} {alloc : Option Nat}
    (halloc : alloc.isSome = true)
    (h : (s.resizeIfNeeded lib i extraEntries extraData alloc).1.holder b = some .stray) :
    s.holder b = some .stray := by
  obtain ⟨a, rfl⟩ := Option.isSome_iff_exists.mp halloc
  unfold resizeIfNeeded at h
  cases hbuf : s.mBuffer i with
  | none =>
    rw [hbuf] at h
    exact stray_takeNew h
  | some c =>
    rw [hbuf] at h
    simp only at h
    split at h
    -- the old buffer is freed, and the new one is the object's
    · obtain ⟨hnew, hbc⟩ := stray_free h
      rcases stray_loosen (stray_takeNew hnew) with h | h
      · exact h
      · have hsame : s.mBuffer i = some b := h.2
        rw [hbuf] at hsame
        exact absurd (Option.some.inj hsame).symm hbc
    · exact h

theorem stray_append {other : Nat} {alloc : Option Nat} (halloc : alloc.isSome = true)
    (h : (s.append lib i other alloc).holder b = some .stray) : s.holder b = some .stray := by
  unfold append at h
  split at h
  · exact h
  · simp only at h
    split at h
    · exact stray_resizeIfNeeded (s := s.touch other) halloc h
    · exact stray_resizeIfNeeded (s := s.touch other) halloc h

theorem stray_update {expectedType : TagType} {tag : MetadataTag} {data : List UInt8} {inside : Bool}
    {alloc : Option Nat} (halloc : alloc.isSome = true)
    (h : (s.update lib i expectedType tag data inside alloc).holder b = some .stray) :
    s.holder b = some .stray := by
  have hresize : ∀ t : MetadataStore ι M,
      t.holder = (s.resizeIfNeeded lib i 1 (entryDataSize data.length) alloc).1.holder →
        t.holder b = some .stray → s.holder b = some .stray :=
    fun t ht hb => stray_resizeIfNeeded halloc (by rw [← ht]; exact hb)
  unfold update at h
  split at h
  · exact h
  split at h
  · exact h
  unfold updateImpl at h
  split at h
  · exact h
  split at h
  · exact h
  split at h
  · exact h
  simp only at h
  split at h
  · split at h
    · exact hresize _ rfl h
    · split at h <;> exact hresize _ rfl h
  · exact hresize _ rfl h

theorem stray_swap {j : ι} (h : (s.swap i j).holder b = some .stray) : s.holder b = some .stray := by
  unfold swap at h
  split at h
  · exact h
  split at h
  · exact h
  obtain ⟨hthis, hi⟩ := stray_adopt h
  obtain ⟨hloose, hj⟩ := stray_adopt hthis
  rcases stray_loosen hloose with h | h
  · rcases stray_loosen h with h | h
    · exact h
    · exact absurd h.2 hj
  · -- the other object's buffer, which is its own again by now
    by_cases hij : j = i
    · subst hij
      rw [loosen_mBuffer] at h
      cases h.2
    · rw [loosen_mBuffer_of_ne hij] at h
      exact absurd h.2 hi

/-- The library has memory for the call's resize. -/
def HasRoom : MetadataOp ι M → Prop
  | .append _ _ alloc => alloc.isSome = true
  | .update _ _ _ _ _ alloc => alloc.isSome = true
  | _ => True

theorem step_stray {op : MetadataOp ι M} (hroom : HasRoom op)
    (h : (step lib s op).holder b = some .stray) : s.holder b = some .stray := by
  cases op with
  | construct k entryCapacity dataCapacity alloc =>
    change (s.construct lib k entryCapacity dataCapacity alloc).holder b = _ at h
    unfold construct at h
    cases alloc with
    | none => exact h
    | some a => exact stray_takeNew h
  | copy k j alloc => exact stray_assign h
  | assign k buffer alloc => exact stray_assign h
  | destroy k => exact stray_clear (s := { s with mLocked := Function.update s.mLocked k false }) h
  | getAndLock k => exact h
  | unlock k buffer =>
    change (s.unlock k buffer).holder b = _ at h
    unfold unlock at h
    split at h
    · exact h
    · split at h <;> exact h
  | release k => exact stray_release h
  | clear k => exact stray_clear h
  | acquire k buffer => exact stray_acquire h
  | acquireFrom k j =>
    change (s.acquireFrom k j).holder b = _ at h
    unfold acquireFrom at h
    split at h
    · exact h
    · exact stray_release (stray_acquire h)
  | append k other alloc => exact stray_append hroom h
  | sort k =>
    change (s.sort lib k).holder b = _ at h
    unfold sort at h
    split at h
    · exact h
    · split at h <;> exact h
  | update k expectedType tag data inside alloc => exact stray_update hroom h
  | erase k tag =>
    change (s.erase lib k tag).holder b = _ at h
    unfold erase at h
    split at h
    · exact h
    · split at h
      · exact h
      · split at h <;> exact h
  | swap k j => exact stray_swap h
  | callerAllocates a m =>
    rcases stray_allocate h with h | h
    · exact h
    · cases h.1
  | callerFrees c => exact (stray_free h).1

theorem run_stray {ops : List (MetadataOp ι M)} (hroom : ∀ op ∈ ops, HasRoom op)
    (hrun : ExecWhere Legal (functional (step lib)) s ops t) (h : t.holder b = some .stray) :
    s.holder b = some .stray := by
  unfold ExecWhere at hrun
  induction hrun with
  | nil => exact h
  | cons hstep _ ih =>
    have hops := List.forall_mem_cons.mp hroom
    exact step_stray hops.1 (hstep.2 ▸ ih hops.2 h)

/-- In every run no buffer is used or freed that is not there, and two objects never share one; where
no resize lacks memory, every buffer that is there is some object's or the caller's. -/
theorem metadata_owned {ops : List (MetadataOp ι M)} {packet : Nat → M}
    (hrun : ExecWhere Legal (functional (step lib)) (start packet) ops t) :
    t.fault = false ∧
      (∀ i b, t.mBuffer i = some b → t.live b = true ∧ ∀ j, t.mBuffer j = some b → j = i) ∧
      ((∀ op ∈ ops, HasRoom op) → ∀ b, t.live b = true →
        (∃ i, t.mBuffer i = some b) ∨ t.holder b = some .caller) := by
  have hs := owned_run hrun (owned_start packet)
  refine ⟨hs.fault, fun i b hb => ⟨hs.live_buffer hb, fun j hj => ?_⟩, fun hroom b hb => ?_⟩
  · have hobject := (hs.object j b).mp hj
    rw [(hs.object i b).mp hb] at hobject
    cases hobject
    rfl
  · rw [hs.live] at hb
    obtain ⟨holder, hholder⟩ := Option.isSome_iff_exists.mp hb
    cases holder with
    | object i => exact Or.inl ⟨i, (hs.object i b).mpr hholder⟩
    | caller => exact Or.inr hholder
    | stray => cases run_stray hroom hrun hholder

end

/-- The platform's library on the packets of the model, with one type for every tag. -/
def bytePackets : PacketLibrary Packet where
  toMetadataLibrary := Packet.library
  sort := id
  delete m _ := m
  tagType _ := some .byte

/-- A packet is made, passed to another object, and locked there. -/
def passAndLock : List (MetadataOp Bool Packet) :=
  [.construct true 1 0 (some 7), .acquireFrom false true, .getAndLock false]

def noPackets : MetadataStore Bool Packet := start fun _ => bytePackets.allocate 0 0

def passedAndLocked : MetadataStore Bool Packet := passAndLock.foldl (step bytePackets) noPackets

theorem passAndLock_run :
    ExecWhere Legal (functional (step bytePackets)) noPackets passAndLock passedAndLocked := by
  refine .cons ⟨⟨rfl, rfl, fun a ha => rfl⟩, rfl⟩ ?_
  refine .cons ⟨trivial, rfl⟩ ?_
  exact .cons ⟨trivial, rfl⟩ (.nil _)

theorem metadata_owned_passAndLock :
    passedAndLocked.fault = false ∧
      (∀ i b, passedAndLocked.mBuffer i = some b → passedAndLocked.live b = true ∧
        ∀ j, passedAndLocked.mBuffer j = some b → j = i) ∧
      ((∀ op ∈ passAndLock, HasRoom op) → ∀ b, passedAndLocked.live b = true →
        (∃ i, passedAndLocked.mBuffer i = some b) ∨ passedAndLocked.holder b = some .caller) :=
  metadata_owned passAndLock_run

theorem clear_locked_run :
    ExecWhere (fun s op => s.Legal op ∧ ¬s.Ends false op) (functional (step bytePackets)) passedAndLocked
      [.clear false] (step bytePackets passedAndLocked (.clear false)) :=
  .cons ⟨⟨trivial, id⟩, rfl⟩ (.nil _)

theorem locked_packet_kept_passAndLock :
    (step bytePackets passedAndLocked (.clear false)).mLocked false = true ∧
      (step bytePackets passedAndLocked (.clear false)).mBuffer false = some 7 ∧
      (step bytePackets passedAndLocked (.clear false)).live 7 = true ∧
      (step bytePackets passedAndLocked (.clear false)).packet 7 = passedAndLocked.packet 7 :=
  locked_packet_kept (owned_run passAndLock_run (owned_start _)) rfl rfl clear_locked_run

end MetadataStore

end Universal7870.Camera
