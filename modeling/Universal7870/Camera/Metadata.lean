import Mathlib.Data.List.Nodup
import Mathlib.Algebra.BigOperators.Group.List.Basic
import Mathlib.Algebra.GroupWithZero.Nat

/-!
# Camera metadata

A packet of metadata is a list of entries, each with a tag and its data, with a capacity for entries
and one for the data that do not fit into their entries.  The functions on packets are those of the
platform's library; they are known by what is documented of them.
-/

namespace Universal7870.Camera

/-- The tags that the wrapper names. -/
inductive MetadataTag
  | flashMode
  | flashColorTemperature
  | flashMaxEnergy
  | flashInfoAvailable
  | flashInfoChargeDuration
  | controlAeMode
  | controlAePrecaptureTrigger
  | controlCaptureIntent
  | controlAeAvailableModes
  | other (tag : Nat)
  deriving DecidableEq, Repr

/-- `camera_metadata_entry_t`, with the data as bytes. -/
structure MetadataEntry where
  tag : MetadataTag
  data : List UInt8
  deriving DecidableEq, Repr

/-- `calculate_camera_metadata_entry_data_size`. -/
def entryDataSize (bytes : Nat) : Nat := if bytes ≤ 4 then 0 else (bytes + 7) / 8 * 8

/-- What the data of the entries take. -/
def dataCount (es : List MetadataEntry) : Nat := (es.map fun e => entryDataSize e.data.length).sum

/-- The functions of the library on packets of the type `M`.  `find` returns the index of an entry
and its data. -/
structure MetadataLibrary (M : Type*) where
  entries : M → List MetadataEntry
  entryCapacity : M → Nat
  dataCapacity : M → Nat
  allocate : Nat → Nat → M
  clone : M → M
  append : M → M → Option M
  find : M → MetadataTag → Option (Nat × List UInt8)
  update : M → Nat → List UInt8 → M
  add : M → MetadataTag → List UInt8 → M

namespace MetadataLibrary

/-- What is documented of the library. -/
structure Documented {M : Type*} (lib : MetadataLibrary M) : Prop where
  fits : ∀ m, dataCount (lib.entries m) ≤ lib.dataCapacity m
  allocate : ∀ entryCapacity dataCapacity, lib.entries (lib.allocate entryCapacity dataCapacity) = [] ∧
    lib.entryCapacity (lib.allocate entryCapacity dataCapacity) = entryCapacity ∧
    lib.dataCapacity (lib.allocate entryCapacity dataCapacity) = dataCapacity
  clone : ∀ m, lib.entries (lib.clone m) = lib.entries m
  append : ∀ dst src m, lib.append dst src = some m → lib.entries m = lib.entries dst ++ lib.entries src ∧
    lib.entryCapacity m = lib.entryCapacity dst ∧ lib.dataCapacity m = lib.dataCapacity dst
  append_fits : ∀ dst src, (lib.entries dst).length + (lib.entries src).length ≤ lib.entryCapacity dst →
    dataCount (lib.entries dst ++ lib.entries src) ≤ lib.dataCapacity dst →
    (lib.append dst src).isSome = true
  find_some : ∀ m tag i data, lib.find m tag = some (i, data) → (lib.entries m)[i]? = some ⟨tag, data⟩
  find_none : ∀ m tag, lib.find m tag = none → ∀ e ∈ lib.entries m, e.tag ≠ tag
  update : ∀ m i tag old data, (lib.entries m)[i]? = some ⟨tag, old⟩ →
    dataCount ((lib.entries m).set i ⟨tag, data⟩) ≤ lib.dataCapacity m →
    lib.entries (lib.update m i data) = (lib.entries m).set i ⟨tag, data⟩ ∧
    lib.entryCapacity (lib.update m i data) = lib.entryCapacity m ∧
    lib.dataCapacity (lib.update m i data) = lib.dataCapacity m
  add : ∀ m tag data, (lib.entries m).length < lib.entryCapacity m →
    dataCount (lib.entries m ++ [⟨tag, data⟩]) ≤ lib.dataCapacity m →
    lib.entries (lib.add m tag data) = lib.entries m ++ [⟨tag, data⟩] ∧
    lib.entryCapacity (lib.add m tag data) = lib.entryCapacity m ∧
    lib.dataCapacity (lib.add m tag data) = lib.dataCapacity m

end MetadataLibrary

/-! ## 1. Entries with one tag -/

/-- The data of the entries with the tag are replaced. -/
def setData (es : List MetadataEntry) (tag : MetadataTag) (data : List UInt8) : List MetadataEntry :=
  es.map fun e => if e.tag = tag then ⟨tag, data⟩ else e

section

variable {es : List MetadataEntry} {tag : MetadataTag} {data : List UInt8}

theorem tags_setData (es : List MetadataEntry) (tag : MetadataTag) (data : List UInt8) :
    (setData es tag data).map MetadataEntry.tag = es.map MetadataEntry.tag := by
  unfold setData
  rw [List.map_map]
  apply List.map_congr_left
  intro e _
  rw [Function.comp_apply]
  split
  · rename_i htag
    exact htag.symm
  · rfl

/-- Where no tag occurs twice, to set the entry with a tag is to set its data. -/
theorem set_eq_setData (hnodup : (es.map MetadataEntry.tag).Nodup) {i : Nat} {old : List UInt8}
    (hi : es[i]? = some ⟨tag, old⟩) : es.set i ⟨tag, data⟩ = setData es tag data := by
  obtain ⟨hlt, hentry⟩ := List.getElem?_eq_some_iff.mp hi
  unfold setData
  apply List.ext_getElem
  · rw [List.length_set, List.length_map]
  · intro j hj _
    rw [List.length_set] at hj
    rw [List.getElem_set, List.getElem_map]
    by_cases hij : i = j
    · subst hij
      rw [if_pos rfl, hentry, if_pos rfl]
    · rw [if_neg hij, if_neg]
      intro htag
      have hlen : ∀ k, k < es.length → k < (es.map MetadataEntry.tag).length := fun k hk => by
        rw [List.length_map]
        exact hk
      have hsame : (es.map MetadataEntry.tag).get ⟨i, hlen i hlt⟩ =
          (es.map MetadataEntry.tag).get ⟨j, hlen j hj⟩ := by
        rw [List.get_eq_getElem, List.get_eq_getElem, List.getElem_map, List.getElem_map, hentry, htag]
      exact hij (Fin.mk.inj (List.nodup_iff_injective_get.mp hnodup hsame))

theorem dataCount_append (es es' : List MetadataEntry) :
    dataCount (es ++ es') = dataCount es + dataCount es' := by
  unfold dataCount
  rw [List.map_append, List.sum_append]

theorem dataCount_set {i : Nat} {e : MetadataEntry} (hi : es[i]? = some e) (e' : MetadataEntry) :
    dataCount (es.set i e') + entryDataSize e.data.length =
      dataCount es + entryDataSize e'.data.length := by
  have hcons (x : MetadataEntry) (xs : List MetadataEntry) :
      dataCount (x :: xs) = entryDataSize x.data.length + dataCount xs := rfl
  induction es generalizing i with
  | nil => cases hi
  | cons x xs ih =>
    cases i with
    | zero =>
      obtain rfl := Option.some.inj hi
      rw [List.set_cons_zero, hcons, hcons]
      omega
    | succ i =>
      have hrest := ih hi
      rw [List.set_cons_succ, hcons, hcons]
      omega

end

/-! ## 2. What is found of a tag -/

/-- The first value of the entry with the tag. -/
def firstValue (es : List MetadataEntry) (tag : MetadataTag) : Option UInt8 :=
  (es.find? fun e => e.tag = tag).map fun e => e.data.headD 0

/-- What is found once each entry has been rewritten under its tag. -/
theorem firstValue_map {f : MetadataEntry → MetadataEntry} {g : UInt8 → UInt8} {tag : MetadataTag}
    (htag : ∀ e, (f e).tag = e.tag)
    (hdata : ∀ e, e.tag = tag → (f e).data.headD 0 = g (e.data.headD 0)) (es : List MetadataEntry) :
    firstValue (es.map f) tag = (firstValue es tag).map g := by
  induction es with
  | nil => rfl
  | cons e es ih =>
    unfold firstValue at ih ⊢
    rw [List.map_cons, List.find?_cons, List.find?_cons, htag]
    by_cases heq : e.tag = tag
    · rw [decide_eq_true heq]
      exact congrArg some (hdata e heq)
    · rw [decide_eq_false heq]
      exact ih

theorem firstValue_of_absent {es : List MetadataEntry} {tag : MetadataTag}
    (h : ∀ e ∈ es, e.tag ≠ tag) : firstValue es tag = none := by
  unfold firstValue
  rw [List.find?_eq_none.mpr fun e he => by rw [decide_eq_true_eq]; exact h e he]
  rfl

theorem firstValue_of_getElem? {es : List MetadataEntry} {tag : MetadataTag} {data : List UInt8}
    (hnodup : (es.map MetadataEntry.tag).Nodup) {i : Nat} (hi : es[i]? = some ⟨tag, data⟩) :
    firstValue es tag = some (data.headD 0) := by
  unfold firstValue
  cases hfind : es.find? fun e => e.tag = tag with
  | none =>
    have habsent := List.find?_eq_none.mp hfind _ (List.mem_of_getElem? hi)
    exact absurd (decide_eq_true rfl) habsent
  | some e =>
    have hfound := List.find?_some hfind
    have htag : e.tag = tag := of_decide_eq_true hfound
    have heq : e = ⟨tag, data⟩ := List.inj_on_of_nodup_map hnodup
      (List.mem_of_find?_eq_some hfind) (List.mem_of_getElem? hi) htag
    rw [heq]
    rfl

/-! ## 3. Packets -/

/-- A packet whose data fit into it. -/
structure Packet where
  entries : List MetadataEntry
  entryCapacity : Nat
  dataCapacity : Nat
  fits : dataCount entries ≤ dataCapacity

namespace Packet

def find (m : Packet) (tag : MetadataTag) : Option (Nat × List UInt8) :=
  (m.entries.findIdx? fun e => e.tag = tag).bind fun i => m.entries[i]?.map fun e => (i, e.data)

def append (dst src : Packet) : Option Packet :=
  if h : dst.entries.length + src.entries.length ≤ dst.entryCapacity ∧
      dataCount (dst.entries ++ src.entries) ≤ dst.dataCapacity then
    some { dst with entries := dst.entries ++ src.entries, fits := h.2 }
  else none

def update (m : Packet) (i : Nat) (data : List UInt8) : Packet :=
  match m.entries[i]? with
  | none => m
  | some e =>
    if h : dataCount (m.entries.set i ⟨e.tag, data⟩) ≤ m.dataCapacity then
      { m with entries := m.entries.set i ⟨e.tag, data⟩, fits := h }
    else m

def add (m : Packet) (tag : MetadataTag) (data : List UInt8) : Packet :=
  if h : m.entries.length < m.entryCapacity ∧
      dataCount (m.entries ++ [⟨tag, data⟩]) ≤ m.dataCapacity then
    { m with entries := m.entries ++ [⟨tag, data⟩], fits := h.2 }
  else m

def library : MetadataLibrary Packet where
  entries := entries
  entryCapacity := entryCapacity
  dataCapacity := dataCapacity
  allocate entryCapacity dataCapacity := ⟨[], entryCapacity, dataCapacity, Nat.zero_le _⟩
  clone m := ⟨m.entries, m.entries.length, dataCount m.entries, Nat.le_refl _⟩
  append := append
  find := find
  update := update
  add := add

theorem documented : library.Documented where
  fits := fits
  allocate _ _ := ⟨rfl, rfl, rfl⟩
  clone _ := rfl
  append dst src m h := by
    change dst.append src = some m at h
    unfold append at h
    split at h
    · obtain rfl := Option.some.inj h
      exact ⟨rfl, rfl, rfl⟩
    · cases h
  append_fits dst src hentries hdata := by
    change (dst.append src).isSome = true
    unfold append
    rw [dif_pos ⟨hentries, hdata⟩]
    rfl
  find_some m tag i data h := by
    obtain ⟨j, hj, hfound⟩ := Option.bind_eq_some_iff.mp h
    obtain ⟨e, he, hpair⟩ := Option.map_eq_some_iff.mp hfound
    obtain ⟨rfl, rfl⟩ := Prod.mk.inj hpair
    obtain ⟨hlt, htag, -⟩ := List.findIdx?_eq_some_iff_getElem.mp hj
    have hentry : m.entries[j] = e := Option.some.inj ((List.getElem?_eq_getElem hlt).symm.trans he)
    rw [hentry] at htag
    rw [← of_decide_eq_true htag]
    exact he
  find_none m tag h := by
    change m.find tag = none at h
    intro e he htag
    cases hj : m.entries.findIdx? fun e => e.tag = tag with
    | none =>
      have hmissed := List.findIdx?_eq_none_iff.mp hj e he
      exact of_decide_eq_false hmissed htag
    | some j =>
      obtain ⟨hlt, -⟩ := List.findIdx?_eq_some_iff_getElem.mp hj
      unfold find at h
      rw [hj, Option.bind_some, List.getElem?_eq_getElem hlt] at h
      cases h
  update m i tag old data h hroom := by
    change (m.update i data).entries = _ ∧ (m.update i data).entryCapacity = _ ∧
      (m.update i data).dataCapacity = _
    have hentry : m.entries[i]? = some ⟨tag, old⟩ := h
    have hfits : dataCount (m.entries.set i ⟨tag, data⟩) ≤ m.dataCapacity := hroom
    unfold update
    rw [hentry]
    dsimp only
    rw [dif_pos hfits]
    exact ⟨rfl, rfl, rfl⟩
  add m tag data hentries hdata := by
    change (m.add tag data).entries = _ ∧ (m.add tag data).entryCapacity = _ ∧
      (m.add tag data).dataCapacity = _
    unfold add
    rw [dif_pos ⟨hentries, hdata⟩]
    exact ⟨rfl, rfl, rfl⟩

end Packet

end Universal7870.Camera
