import Universal7870.Camera.CaptureMetadata

/-!
# The characteristics of the front camera

The vendor's characteristics of the front camera know no flash.  The camera module shows a copy of
them that does.
-/

namespace Universal7870.Camera

/-! ## 1. The copy -/

def flashInfoAvailableTrue : UInt8 := 1

/-- What the copy says of the flash, in the order in which it is stored. -/
def flashEntries : List MetadataEntry :=
  [⟨.flashInfoAvailable, [flashInfoAvailableTrue]⟩,
    ⟨.flashInfoChargeDuration, [0, 0, 0, 0, 0, 0, 0, 0]⟩,
    ⟨.flashColorTemperature, [0]⟩, ⟨.flashMaxEnergy, [0]⟩]

/-- `aeModes` -/
def flashAeModes : List UInt8 := [aeModeOff, aeModeOn, aeModeOnAutoFlash, aeModeOnAlwaysFlash]

namespace MetadataLibrary

variable {M : Type*} (lib : MetadataLibrary M)

def updateOrAdd (m : M) (e : MetadataEntry) : M :=
  match lib.find m e.tag with
  | some (i, _) => lib.update m i e.data
  | none => lib.add m e.tag e.data

/-- The list of AE modes is replaced unless it has both modes with flash. -/
def ensureAeModes (m : M) : M :=
  match lib.find m .controlAeAvailableModes with
  | none => m
  | some (i, modes) =>
    if aeModeOnAutoFlash ∈ modes ∧ aeModeOnAlwaysFlash ∈ modes then m
    else lib.update m i flashAeModes

/-- What is made of a packet that holds the entries of the vendor's. -/
def augment (dst : M) : M := lib.ensureAeModes (flashEntries.foldl lib.updateOrAdd dst)

/-- `create_augmented_camera_info_metadata`, where `allocated` is the memory it gets: the address it
returns, and the packets behind it. -/
def createAugmentedCameraInfoMetadata (heap : Nat → Option M) (src allocated : Option Nat) :
    Option Nat × (Nat → Option M) :=
  match src.bind heap, allocated with
  | some m, some dst =>
    match lib.append (lib.allocate ((lib.entries m).length + 12) (dataCount (lib.entries m) + 256)) m with
    | none => (none, Function.update (Function.update heap dst (some m)) dst none)
    | some copy => (some dst, Function.update heap dst (some (lib.augment copy)))
  | _, _ => (none, heap)

end MetadataLibrary

/-! ## 2. What it is to be -/

def MetadataTag.IsAugmented (tag : MetadataTag) : Prop :=
  tag ∈ flashEntries.map MetadataEntry.tag ∨ tag = .controlAeAvailableModes

/-- The entries of the flash are those that are advertised, the AE modes are those there were and the
two with flash, and all else is as it was. -/
structure Augmented (src dst : List MetadataEntry) : Prop where
  nodup : (dst.map MetadataEntry.tag).Nodup
  flash : ∀ e ∈ flashEntries, e ∈ dst
  aeModes : ∀ modes, ⟨.controlAeAvailableModes, modes⟩ ∈ src →
    ∃ modes', ⟨.controlAeAvailableModes, modes'⟩ ∈ dst ∧
      ∀ mode, mode ∈ modes' ↔ mode ∈ modes ∨ mode = aeModeOnAutoFlash ∨ mode = aeModeOnAlwaysFlash
  unlisted : (∀ e ∈ src, e.tag ≠ .controlAeAvailableModes) →
    ∀ e ∈ dst, e.tag ≠ .controlAeAvailableModes
  others : ∀ e : MetadataEntry, ¬e.tag.IsAugmented → (e ∈ dst ↔ e ∈ src)

/-- Nothing is returned only if there is no memory, what is returned is the copy, and the packets
there were are as they were. -/
structure AugmentsRight {M : Type*} (lib : MetadataLibrary M) (heap : Nat → Option M) (m : M)
    (allocated : Option Nat) (r : Option Nat × (Nat → Option M)) : Prop where
  failed : r.1 = none → allocated = none
  copied : ∀ dst, r.1 = some dst →
    ∃ m', r.2 dst = some m' ∧ Augmented (lib.entries m) (lib.entries m')
  unmodified : ∀ p packet, heap p = some packet → r.2 p = some packet

/-- The modes have both that flash, or are those of the list they are replaced by, with or without
the two. -/
def FlashModesFit (modes : List UInt8) : Prop :=
  aeModeOnAutoFlash ∈ modes ∧ aeModeOnAlwaysFlash ∈ modes ∨
    aeModeOff ∈ modes ∧ aeModeOn ∈ modes ∧ ∀ mode ∈ modes, mode ∈ flashAeModes

/-! ## 3. Putting an entry -/

/-- The entry in place of the one with its tag, or at the end. -/
def putEntry (es : List MetadataEntry) (e : MetadataEntry) : List MetadataEntry :=
  if ∃ x ∈ es, x.tag = e.tag then setData es e.tag e.data else es ++ [e]

section

variable {es : List MetadataEntry} {e x : MetadataEntry}

theorem mem_putEntry : x ∈ putEntry es e ↔ x = e ∨ x ∈ es ∧ x.tag ≠ e.tag := by
  unfold putEntry
  by_cases hpresent : ∃ y ∈ es, y.tag = e.tag
  · rw [if_pos hpresent]
    unfold setData
    rw [List.mem_map]
    constructor
    · rintro ⟨y, hy, rfl⟩
      by_cases htag : y.tag = e.tag
      · rw [if_pos htag]
        exact .inl rfl
      · rw [if_neg htag]
        exact .inr ⟨hy, htag⟩
    · rintro (rfl | ⟨hx, htag⟩)
      · obtain ⟨y, hy, htag⟩ := hpresent
        exact ⟨y, hy, if_pos htag⟩
      · exact ⟨x, hx, if_neg htag⟩
  · rw [if_neg hpresent, List.mem_append, List.mem_singleton, or_comm]
    refine or_congr_right ⟨fun hx => ⟨hx, fun htag => hpresent ⟨x, hx, htag⟩⟩, And.left⟩

theorem nodup_putEntry (h : (es.map MetadataEntry.tag).Nodup) :
    ((putEntry es e).map MetadataEntry.tag).Nodup := by
  unfold putEntry
  split
  · rw [tags_setData]
    exact h
  · rename_i habsent
    rw [List.map_append]
    refine List.Nodup.append h (List.nodup_singleton _) ?_
    intro t hmem ht
    obtain ⟨x, hx, htag⟩ := List.mem_map.mp hmem
    exact habsent ⟨x, hx, htag.trans (List.mem_singleton.mp ht)⟩

theorem putEntry_of_mem {data : List UInt8} (h : ⟨e.tag, data⟩ ∈ es) :
    putEntry es e = setData es e.tag e.data := by
  unfold putEntry
  exact if_pos ⟨⟨e.tag, data⟩, h, rfl⟩

theorem putEntry_of_absent (h : ∀ x ∈ es, x.tag ≠ e.tag) : putEntry es e = es ++ [e] := by
  unfold putEntry
  exact if_neg fun ⟨x, hx, htag⟩ => h x hx htag

/-- What there is once entries with tags of their own are put. -/
theorem mem_foldl_putEntry {fs : List MetadataEntry} (h : (fs.map MetadataEntry.tag).Nodup) :
    x ∈ fs.foldl putEntry es ↔ x ∈ fs ∨ x ∈ es ∧ ∀ f ∈ fs, x.tag ≠ f.tag := by
  induction fs generalizing es with
  | nil => simp only [List.foldl_nil, List.not_mem_nil, false_or, false_implies, implies_true, and_true]
  | cons f fs ih =>
    obtain ⟨hnew, hrest⟩ := List.nodup_cons.mp (List.map_cons ▸ h)
    rw [List.foldl_cons, ih hrest, mem_putEntry, List.mem_cons]
    constructor
    · rintro (hx | ⟨rfl | ⟨hx, htag⟩, hothers⟩)
      · exact .inl (.inr hx)
      · exact .inl (.inl rfl)
      · exact .inr ⟨hx, List.forall_mem_cons.mpr ⟨htag, hothers⟩⟩
    · rintro ((rfl | hx) | ⟨hx, htags⟩)
      · exact .inr ⟨.inl rfl, fun _ hf htag => hnew (htag ▸ List.mem_map_of_mem hf)⟩
      · exact .inl hx
      · obtain ⟨htag, hothers⟩ := List.forall_mem_cons.mp htags
        exact .inr ⟨.inr ⟨hx, htag⟩, hothers⟩

theorem nodup_foldl_putEntry {fs : List MetadataEntry} (h : (es.map MetadataEntry.tag).Nodup) :
    ((fs.foldl putEntry es).map MetadataEntry.tag).Nodup := by
  induction fs generalizing es with
  | nil => exact h
  | cons f fs ih => exact ih (nodup_putEntry h)

end

/-! ## 4. There is room -/

namespace MetadataLibrary

variable {M : Type*} {lib : MetadataLibrary M} {m : M} {k : Nat}

/-- There is room for `k` more entries of eight bytes. -/
structure Room (lib : MetadataLibrary M) (m : M) (k : Nat) : Prop where
  nodup : ((lib.entries m).map MetadataEntry.tag).Nodup
  entries : (lib.entries m).length + k ≤ lib.entryCapacity m
  data : dataCount (lib.entries m) + 8 * k ≤ lib.dataCapacity m

theorem update_spec (h : lib.Documented) (hroom : lib.Room m (k + 1)) {e : MetadataEntry}
    (hsize : entryDataSize e.data.length ≤ 8) {i : Nat} {old : List UInt8}
    (hfind : lib.find m e.tag = some (i, old)) :
    lib.entries (lib.update m i e.data) = putEntry (lib.entries m) e ∧
      lib.Room (lib.update m i e.data) k := by
  have hi := h.find_some m e.tag i old hfind
  have hcount := dataCount_set hi e
  have hlen := hroom.entries
  have hdata := hroom.data
  have hput : (lib.entries m).set i e = putEntry (lib.entries m) e := by
    rw [putEntry_of_mem (List.mem_of_getElem? hi)]
    exact set_eq_setData hroom.nodup hi
  obtain ⟨hentries, hcap, hdatacap⟩ := h.update m i e.tag old e.data hi (by
    change dataCount ((lib.entries m).set i e) ≤ _
    omega)
  replace hentries : lib.entries (lib.update m i e.data) = (lib.entries m).set i e := hentries
  refine ⟨hentries.trans hput, ?_, ?_, ?_⟩
  · rw [hentries, hput]
    exact nodup_putEntry hroom.nodup
  · rw [hentries, hcap, List.length_set]
    omega
  · rw [hentries, hdatacap]
    omega

theorem updateOrAdd_spec (h : lib.Documented) (hroom : lib.Room m (k + 1)) {e : MetadataEntry}
    (hsize : entryDataSize e.data.length ≤ 8) :
    lib.entries (lib.updateOrAdd m e) = putEntry (lib.entries m) e ∧
      lib.Room (lib.updateOrAdd m e) k := by
  unfold updateOrAdd
  cases hfind : lib.find m e.tag with
  | some r => exact update_spec h hroom hsize hfind
  | none =>
    have hcount : dataCount (lib.entries m ++ [e]) =
        dataCount (lib.entries m) + entryDataSize e.data.length := dataCount_append _ _
    have hlen := hroom.entries
    have hdata := hroom.data
    have hput := putEntry_of_absent (h.find_none m e.tag hfind)
    obtain ⟨hentries, hcap, hdatacap⟩ := h.add m e.tag e.data (by omega) (by
      change dataCount (lib.entries m ++ [e]) ≤ _
      omega)
    replace hentries : lib.entries (lib.add m e.tag e.data) = lib.entries m ++ [e] := hentries
    refine ⟨hentries.trans hput.symm, ?_, ?_, ?_⟩
    · dsimp only
      rw [hentries, ← hput]
      exact nodup_putEntry hroom.nodup
    · dsimp only
      rw [hentries, hcap, List.length_append, List.length_singleton]
      omega
    · dsimp only
      rw [hentries, hdatacap]
      omega

theorem foldl_updateOrAdd_spec (h : lib.Documented) {fs : List MetadataEntry}
    (hroom : lib.Room m (fs.length + k)) (hsize : ∀ f ∈ fs, entryDataSize f.data.length ≤ 8) :
    lib.entries (fs.foldl lib.updateOrAdd m) = fs.foldl putEntry (lib.entries m) ∧
      lib.Room (fs.foldl lib.updateOrAdd m) k := by
  induction fs generalizing m with
  | nil =>
    rw [List.length_nil, Nat.zero_add] at hroom
    exact ⟨rfl, hroom⟩
  | cons f fs ih =>
    obtain ⟨hf, hfs⟩ := List.forall_mem_cons.mp hsize
    rw [List.length_cons, Nat.succ_add] at hroom
    obtain ⟨hentries, hrest⟩ := updateOrAdd_spec h hroom hf
    rw [List.foldl_cons, List.foldl_cons, ← hentries]
    exact ih hrest hfs

/-- The modes are there and replaced, or all stays as it is. -/
theorem ensureAeModes_spec (h : lib.Documented) (hroom : lib.Room m 1) :
    (lib.entries (lib.ensureAeModes m) = lib.entries m ∧
      ∀ modes, ⟨.controlAeAvailableModes, modes⟩ ∈ lib.entries m →
        aeModeOnAutoFlash ∈ modes ∧ aeModeOnAlwaysFlash ∈ modes) ∨
    (lib.entries (lib.ensureAeModes m) =
        putEntry (lib.entries m) ⟨.controlAeAvailableModes, flashAeModes⟩ ∧
      ∃ modes, ⟨.controlAeAvailableModes, modes⟩ ∈ lib.entries m ∧
        ¬(aeModeOnAutoFlash ∈ modes ∧ aeModeOnAlwaysFlash ∈ modes)) := by
  unfold ensureAeModes
  cases hfind : lib.find m .controlAeAvailableModes with
  | none =>
    exact .inl ⟨rfl, fun modes hmodes => absurd rfl (h.find_none m _ hfind _ hmodes)⟩
  | some r =>
    obtain ⟨i, modes⟩ := r
    have hmodes := List.mem_of_getElem? (h.find_some m _ i modes hfind)
    dsimp only
    by_cases hboth : aeModeOnAutoFlash ∈ modes ∧ aeModeOnAlwaysFlash ∈ modes
    · rw [if_pos hboth]
      refine .inl ⟨rfl, fun modes' hmodes' => ?_⟩
      obtain ⟨-, rfl⟩ := MetadataEntry.mk.inj
        (List.inj_on_of_nodup_map hroom.nodup hmodes hmodes' rfl)
      exact hboth
    · rw [if_neg hboth]
      have hsize : entryDataSize flashAeModes.length ≤ 8 := by decide
      exact .inr ⟨(update_spec (e := ⟨.controlAeAvailableModes, flashAeModes⟩) h hroom hsize
        hfind).1, modes, hmodes, hboth⟩

end MetadataLibrary

/-! ## 5. When the modes fit -/

/-- The entries with those of the flash. -/
def flashed (es : List MetadataEntry) : List MetadataEntry := flashEntries.foldl putEntry es

section

variable {es : List MetadataEntry} {e : MetadataEntry} {modes : List UInt8}

theorem mem_flashed : e ∈ flashed es ↔ e ∈ flashEntries ∨ e ∈ es ∧ ∀ f ∈ flashEntries, e.tag ≠ f.tag :=
  mem_foldl_putEntry (by decide)

theorem mem_flashed_of_tag (h : ∀ f ∈ flashEntries, e.tag ≠ f.tag) : e ∈ flashed es ↔ e ∈ es := by
  rw [mem_flashed]
  constructor
  · rintro (hflash | ⟨he, -⟩)
    · exact absurd rfl (h e hflash)
    · exact he
  · exact fun he => .inr ⟨he, h⟩

theorem mem_flashed_aeModes : ⟨.controlAeAvailableModes, modes⟩ ∈ flashed es ↔
    ⟨.controlAeAvailableModes, modes⟩ ∈ es := by
  apply mem_flashed_of_tag
  change ∀ f ∈ flashEntries, MetadataTag.controlAeAvailableModes ≠ f.tag
  decide

theorem mem_flashed_of_not_augmented (h : ¬e.tag.IsAugmented) : e ∈ flashed es ↔ e ∈ es :=
  mem_flashed_of_tag fun _ hf htag => h (.inl (htag ▸ List.mem_map_of_mem hf))

theorem tag_ne_of_not_augmented (h : ¬e.tag.IsAugmented) : e.tag ≠ .controlAeAvailableModes :=
  fun htag => h (.inr htag)

theorem augmented_flashed (hnodup : (es.map MetadataEntry.tag).Nodup)
    (hboth : ∀ modes, ⟨.controlAeAvailableModes, modes⟩ ∈ es →
      aeModeOnAutoFlash ∈ modes ∧ aeModeOnAlwaysFlash ∈ modes) :
    Augmented es (flashed es) where
  nodup := nodup_foldl_putEntry hnodup
  flash e he := mem_flashed.mpr (.inl he)
  aeModes modes hmodes := by
    obtain ⟨hauto, halways⟩ := hboth modes hmodes
    refine ⟨modes, mem_flashed_aeModes.mpr hmodes, fun mode => ⟨.inl, ?_⟩⟩
    rintro (hmode | rfl | rfl)
    · exact hmode
    · exact hauto
    · exact halways
  unlisted habsent e he htag := by
    obtain ⟨tag, modes⟩ := e
    obtain rfl : tag = .controlAeAvailableModes := htag
    exact habsent _ (mem_flashed_aeModes.mp he) rfl
  others e he := mem_flashed_of_not_augmented he

/-- The modes of the flash and those of the list are the modes of the table. -/
theorem flashAeModes_iff (hmissing : ¬(aeModeOnAutoFlash ∈ modes ∧ aeModeOnAlwaysFlash ∈ modes)) :
    (∀ mode, mode ∈ flashAeModes ↔
      mode ∈ modes ∨ mode = aeModeOnAutoFlash ∨ mode = aeModeOnAlwaysFlash) ↔
    FlashModesFit modes := by
  have hoff : aeModeOff ≠ aeModeOnAutoFlash ∧ aeModeOff ≠ aeModeOnAlwaysFlash := by decide
  have hon : aeModeOn ≠ aeModeOnAutoFlash ∧ aeModeOn ≠ aeModeOnAlwaysFlash := by decide
  constructor
  · intro hmodes
    refine .inr ⟨?_, ?_, fun mode hmode => (hmodes mode).mpr (.inl hmode)⟩
    · rcases (hmodes aeModeOff).mp (by decide) with hmode | heq | heq
      · exact hmode
      · exact absurd heq hoff.1
      · exact absurd heq hoff.2
    · rcases (hmodes aeModeOn).mp (by decide) with hmode | heq | heq
      · exact hmode
      · exact absurd heq hon.1
      · exact absurd heq hon.2
  · rintro (hboth | ⟨hoffMem, honMem, hsub⟩) mode
    · exact absurd hboth hmissing
    · constructor
      · intro hmode
        unfold flashAeModes at hmode
        simp only [List.mem_cons, List.not_mem_nil, or_false] at hmode
        rcases hmode with rfl | rfl | hflash
        · exact .inl hoffMem
        · exact .inl honMem
        · exact .inr hflash
      · rintro (hmode | rfl | rfl)
        · exact hsub mode hmode
        · decide
        · decide

theorem augmented_replaced_iff (hnodup : (es.map MetadataEntry.tag).Nodup)
    (hmem : ⟨.controlAeAvailableModes, modes⟩ ∈ es)
    (hmissing : ¬(aeModeOnAutoFlash ∈ modes ∧ aeModeOnAlwaysFlash ∈ modes)) :
    Augmented es (putEntry (flashed es) ⟨.controlAeAvailableModes, flashAeModes⟩) ↔
      FlashModesFit modes := by
  rw [← flashAeModes_iff hmissing]
  have hreplaced (modes' : List UInt8) : ⟨.controlAeAvailableModes, modes'⟩ ∈
      putEntry (flashed es) ⟨.controlAeAvailableModes, flashAeModes⟩ ↔ modes' = flashAeModes := by
    rw [mem_putEntry]
    constructor
    · rintro (heq | ⟨-, hne⟩)
      · exact (MetadataEntry.mk.inj heq).2
      · exact absurd rfl hne
    · rintro rfl
      exact .inl rfl
  constructor
  · intro haug
    obtain ⟨modes', hmodes', hiff⟩ := haug.aeModes modes hmem
    obtain rfl := (hreplaced modes').mp hmodes'
    exact hiff
  · intro hiff
    refine ⟨nodup_putEntry (nodup_foldl_putEntry hnodup), fun e he => ?_, fun modes' hmodes' => ?_,
      fun habsent => absurd rfl (habsent _ hmem), fun e he => ?_⟩
    · refine mem_putEntry.mpr (.inr ⟨mem_flashed.mpr (.inl he), ?_⟩)
      revert e
      decide
    · obtain ⟨-, rfl⟩ := MetadataEntry.mk.inj (List.inj_on_of_nodup_map hnodup hmem hmodes' rfl)
      exact ⟨flashAeModes, (hreplaced _).mpr rfl, hiff⟩
    · have hkept : e ∈ flashed es ↔ e ∈ es := mem_flashed_of_not_augmented he
      rw [mem_putEntry, ← hkept]
      constructor
      · rintro (rfl | ⟨hmem, -⟩)
        · exact absurd rfl (tag_ne_of_not_augmented he)
        · exact hmem
      · exact fun hmem => .inr ⟨hmem, tag_ne_of_not_augmented he⟩

end

/-! ## 6. The characteristics with flash -/

namespace MetadataLibrary

variable {M : Type*} {lib : MetadataLibrary M}

theorem augment_iff (h : lib.Documented) {copy : M} (hroom : lib.Room copy 5) :
    Augmented (lib.entries copy) (lib.entries (lib.augment copy)) ↔
      ∀ modes, ⟨.controlAeAvailableModes, modes⟩ ∈ lib.entries copy → FlashModesFit modes := by
  unfold augment
  have hsize : ∀ f ∈ flashEntries, entryDataSize f.data.length ≤ 8 := by decide
  obtain ⟨hentries, hrest⟩ := foldl_updateOrAdd_spec (k := 1) h hroom hsize
  replace hentries : lib.entries (flashEntries.foldl lib.updateOrAdd copy) =
    flashed (lib.entries copy) := hentries
  rcases ensureAeModes_spec h hrest with ⟨hkept, hboth⟩ | ⟨hreplaced, modes, hmem, hmissing⟩
  · rw [hentries] at hboth
    replace hboth : ∀ modes, ⟨.controlAeAvailableModes, modes⟩ ∈ lib.entries copy →
        aeModeOnAutoFlash ∈ modes ∧ aeModeOnAlwaysFlash ∈ modes :=
      fun modes hmodes => hboth modes (mem_flashed_aeModes.mpr hmodes)
    rw [hkept, hentries]
    exact iff_of_true (augmented_flashed hroom.nodup hboth)
      fun modes hmodes => .inl (hboth modes hmodes)
  · rw [hentries] at hreplaced hmem
    rw [hreplaced, augmented_replaced_iff hroom.nodup (mem_flashed_aeModes.mp hmem) hmissing]
    constructor
    · intro hfit modes' hmodes'
      obtain ⟨-, rfl⟩ := MetadataEntry.mk.inj
        (List.inj_on_of_nodup_map hroom.nodup (mem_flashed_aeModes.mp hmem) hmodes' rfl)
      exact hfit
    · exact fun hall => hall modes (mem_flashed_aeModes.mp hmem)

/-- The copy that there is room for. -/
theorem append_allocate (h : lib.Documented) {m : M}
    (hnodup : ((lib.entries m).map MetadataEntry.tag).Nodup) :
    ∃ copy, lib.append (lib.allocate ((lib.entries m).length + 12)
        (dataCount (lib.entries m) + 256)) m = some copy ∧
      lib.entries copy = lib.entries m ∧ lib.Room copy 5 := by
  obtain ⟨hempty, hcap, hdatacap⟩ :=
    h.allocate ((lib.entries m).length + 12) (dataCount (lib.entries m) + 256)
  obtain ⟨copy, hcopy⟩ := Option.isSome_iff_exists.mp (h.append_fits
    (lib.allocate ((lib.entries m).length + 12) (dataCount (lib.entries m) + 256)) m
    (by rw [hempty, hcap, List.length_nil]; omega)
    (by rw [hempty, hdatacap, List.nil_append]; omega))
  obtain ⟨hentries, hcap', hdatacap'⟩ := h.append _ _ _ hcopy
  rw [hempty, List.nil_append] at hentries
  refine ⟨copy, hcopy, hentries, ?_, ?_, ?_⟩
  · rw [hentries]
    exact hnodup
  · rw [hentries, hcap', hcap]
    omega
  · rw [hentries, hdatacap', hdatacap]
    omega

/-- The list of AE modes that the client is shown is the vendor's with the modes of the flash just
when the vendor's is one that the table stands for. -/
theorem createAugmentedCameraInfoMetadata_iff (h : lib.Documented) {heap : Nat → Option M}
    {src : Nat} {m : M} (hsrc : heap src = some m)
    (hnodup : ((lib.entries m).map MetadataEntry.tag).Nodup) {allocated : Option Nat}
    (hfresh : ∀ dst ∈ allocated, heap dst = none) :
    AugmentsRight lib heap m allocated
        (lib.createAugmentedCameraInfoMetadata heap (some src) allocated) ↔
      allocated = none ∨
        ∀ modes, ⟨.controlAeAvailableModes, modes⟩ ∈ lib.entries m → FlashModesFit modes := by
  unfold createAugmentedCameraInfoMetadata
  rw [Option.bind_some, hsrc]
  cases allocated with
  | none => exact iff_of_true ⟨fun _ => rfl, nofun, fun _ _ hp => hp⟩ (.inl rfl)
  | some dst =>
    obtain ⟨copy, hcopy, hentries, hroom⟩ := append_allocate h hnodup
    dsimp only
    rw [hcopy, ← hentries, ← augment_iff h hroom, hentries]
    constructor
    · intro hright
      obtain ⟨m', hm', haug⟩ := hright.copied dst rfl
      change Function.update heap dst (some (lib.augment copy)) dst = some m' at hm'
      rw [Function.update_self] at hm'
      obtain rfl := Option.some.inj hm'
      exact .inr haug
    · rintro (hnone | haug)
      · cases hnone
      · refine ⟨nofun, fun dst' hdst => ?_, fun p packet hp => ?_⟩
        · obtain rfl := Option.some.inj hdst
          exact ⟨lib.augment copy, Function.update_self .., haug⟩
        · have hne : p ≠ dst := by
            rintro rfl
            rw [hfresh p rfl] at hp
            cases hp
          exact (Function.update_of_ne hne ..).trans hp

end MetadataLibrary

/-- The vendor's characteristics of a front camera without flash. -/
def frontPacket (modes : List UInt8) : Packet where
  entries := [⟨.flashInfoAvailable, [0]⟩, ⟨.controlAeAvailableModes, modes⟩]
  entryCapacity := 2
  dataCapacity := 64 + entryDataSize modes.length
  fits := by
    change entryDataSize 1 + (entryDataSize modes.length + 0) ≤ _
    have hone : entryDataSize 1 = 0 := rfl
    omega

def frontHeap (modes : List UInt8) : Nat → Option Packet
  | 0 => some (frontPacket modes)
  | _ => none

theorem offOnAuto_augmented :
    AugmentsRight Packet.library (frontHeap [aeModeOff, aeModeOn, aeModeOnAutoFlash])
        (frontPacket [aeModeOff, aeModeOn, aeModeOnAutoFlash]) (some 1)
        (Packet.library.createAugmentedCameraInfoMetadata
          (frontHeap [aeModeOff, aeModeOn, aeModeOnAutoFlash]) (some 0) (some 1)) ↔
      some 1 = none ∨ ∀ modes, ⟨.controlAeAvailableModes, modes⟩ ∈
        Packet.library.entries (frontPacket [aeModeOff, aeModeOn, aeModeOnAutoFlash]) →
          FlashModesFit modes :=
  MetadataLibrary.createAugmentedCameraInfoMetadata_iff Packet.documented rfl (by decide)
    fun dst hdst => by
      obtain rfl := Option.some.inj hdst
      rfl

/-- The mode against red eyes is gone, and the mode without exposure is there. -/
theorem redeyeModes_lost :
    ¬AugmentsRight Packet.library (frontHeap [aeModeOn, aeModeOnAutoFlashRedeye])
        (frontPacket [aeModeOn, aeModeOnAutoFlashRedeye]) (some 1)
        (Packet.library.createAugmentedCameraInfoMetadata
          (frontHeap [aeModeOn, aeModeOnAutoFlashRedeye]) (some 0) (some 1)) := by
  intro hright
  obtain ⟨m', hm', haug⟩ := hright.copied 1 rfl
  obtain ⟨modes', hmem, hmodes⟩ :=
    haug.aeModes [aeModeOn, aeModeOnAutoFlashRedeye] (by decide)
  obtain rfl := Option.some.inj hm'
  have hredeye := (hmodes aeModeOnAutoFlashRedeye).mpr (.inl (by decide))
  have hall : ∀ e ∈ Packet.library.entries (Packet.library.augment
      (⟨(frontPacket [aeModeOn, aeModeOnAutoFlashRedeye]).entries, 14, 256, by decide⟩ : Packet)),
      e.tag = .controlAeAvailableModes → aeModeOnAutoFlashRedeye ∉ e.data := by decide
  exact hall _ hmem rfl hredeye

end Universal7870.Camera
