import Mathlib.Data.Finmap
import Universal7870.SecRil.TokenPool

/-!
# The handler tables as finite maps

`RegisterRequestCompleteHandler` and `RegisterUnsolicitedHandler` keep an array of slots each, with
holes where a handler was unregistered.  Seen from outside an array is a finite map that holds at
most as many ids as it has slots.
-/

namespace Universal7870.SecRil

/-! ## 1. The code -/

/-- A slot of the table of unsolicited handlers. -/
abbrev UnsolHandler := ReqRespHandler

def errResource : Nat := 6

theorem errSuccess_ne_errResource : errSuccess ≠ errResource := by decide

/-- `RegisterUnsolicitedHandler`, the same scan over the other table. -/
def registerUnsolicitedHandler (handlers : List UnsolHandler) (id : Nat)
    (handler : Option Handler) : Option (List UnsolHandler) :=
  registerRequestCompleteHandler handlers id handler

def findUnsolHandler (handlers : List UnsolHandler) (id : Nat) : Option Handler :=
  (handlers.find? fun h => h.id = id).bind (·.handler)

def findReqHandler (history : List ReqHistory) (handlers : List ReqRespHandler) (token : Token) :
    Option Handler :=
  (findReqSlot history handlers token).bind fun found => found.2.handler

structure HandlerTables where
  reqHandlers : List ReqRespHandler := List.replicate reqPoolSize {}
  unsolHandlers : List UnsolHandler := List.replicate reqPoolSize {}
  deriving DecidableEq

inductive HandlerTable
  | requestComplete
  | unsolicited
  deriving DecidableEq

/-- A call of one of the two functions; `none` is NULL. -/
structure Registration where
  table : HandlerTable
  id : Nat
  handler : Option Handler
  deriving DecidableEq

namespace HandlerTables

/-- The result of a call and the tables behind it. -/
def register (t : HandlerTables) (c : Registration) : Nat × HandlerTables :=
  match c.table with
  | .requestComplete =>
    match registerRequestCompleteHandler t.reqHandlers c.id c.handler with
    | some handlers => (errSuccess, { t with reqHandlers := handlers })
    | none => (errResource, t)
  | .unsolicited =>
    match registerUnsolicitedHandler t.unsolHandlers c.id c.handler with
    | some handlers => (errSuccess, { t with unsolHandlers := handlers })
    | none => (errResource, t)

/-- The calls one after the other: their results, and the tables in the end. -/
def registerAll (t : HandlerTables) : List Registration → List Nat × HandlerTables
  | [] => ([], t)
  | c :: cs =>
    let rest := (t.register c).2.registerAll cs
    ((t.register c).1 :: rest.1, rest.2)

end HandlerTables

/-! ## 2. Finite maps of a capacity -/

/-- A map of ids to handlers that holds at most `capacity` ids. -/
structure HandlerMap (capacity : Nat) where
  map : Finmap fun _ : Nat => Handler
  card_le : map.keys.card ≤ capacity

namespace HandlerMap

variable {capacity : Nat}

def empty : HandlerMap capacity where
  map := ∅
  card_le := by
    rw [Finmap.keys_empty]
    exact Nat.zero_le _

def lookup (m : HandlerMap capacity) (id : Nat) : Option Handler := m.map.lookup id

def unregister (m : HandlerMap capacity) (id : Nat) : HandlerMap capacity where
  map := m.map.erase id
  card_le := by
    rw [Finmap.keys_erase]
    exact Finset.card_erase_le.trans m.card_le

theorem keys_insert (m : Finmap fun _ : Nat => Handler) (id : Nat) (f : Handler) :
    (m.insert id f).keys = insert id m.keys := by
  ext k
  rw [Finset.mem_insert, Finmap.mem_keys, Finmap.mem_keys, Finmap.mem_insert]

/-- An id that is there keeps its place; another one needs a free place. -/
def HasRoom (m : HandlerMap capacity) (id : Nat) : Prop :=
  id ∈ m.map ∨ m.map.keys.card < capacity

instance (m : HandlerMap capacity) (id : Nat) : Decidable (m.HasRoom id) :=
  inferInstanceAs (Decidable (_ ∨ _))

def insert (m : HandlerMap capacity) (id : Nat) (f : Handler) (h : m.HasRoom id) :
    HandlerMap capacity where
  map := m.map.insert id f
  card_le := by
    rw [keys_insert]
    rcases h with hmem | hroom
    · rw [Finset.insert_eq_of_mem (Finmap.mem_keys.mpr hmem)]
      exact m.card_le
    · exact (Finset.card_insert_le _ _).trans hroom

/-- A registration in the map; it fails if it has no room. -/
def register (m : HandlerMap capacity) (id : Nat) : Option Handler → Option (HandlerMap capacity)
  | none => some (m.unregister id)
  | some f => if h : m.HasRoom id then some (m.insert id f h) else none

end HandlerMap

/-- The two maps behind the tables. -/
structure HandlerMaps where
  req : HandlerMap reqPoolSize
  unsol : HandlerMap reqPoolSize

namespace HandlerMaps

def empty : HandlerMaps := ⟨.empty, .empty⟩

def get (m : HandlerMaps) : HandlerTable → HandlerMap reqPoolSize
  | .requestComplete => m.req
  | .unsolicited => m.unsol

def set (m : HandlerMaps) (table : HandlerTable) (map : HandlerMap reqPoolSize) : HandlerMaps :=
  match table with
  | .requestComplete => { m with req := map }
  | .unsolicited => { m with unsol := map }

def register (m : HandlerMaps) (c : Registration) : Nat × HandlerMaps :=
  match (m.get c.table).register c.id c.handler with
  | some map => (errSuccess, m.set c.table map)
  | none => (errResource, m)

def registerAll (m : HandlerMaps) : List Registration → List Nat × HandlerMaps
  | [] => ([], m)
  | c :: cs =>
    let rest := (m.register c).2.registerAll cs
    ((m.register c).1 :: rest.1, rest.2)

end HandlerMaps

/-- What the last call for the id that succeeded has registered, where `old` was there before. -/
def latestHandler (table : HandlerTable) (id : Nat) :
    Option Handler → List (Registration × Nat) → Option Handler
  | old, [] => old
  | old, (c, result) :: rest =>
    latestHandler table id
      (if c.table = table ∧ c.id = id ∧ result = errSuccess then c.handler else old) rest

/-! ## 3. A scan of a table -/

/-- No id occupies two slots. -/
def IdsDistinct (slots : List ReqRespHandler) : Prop :=
  ∀ (i j : Nat) (s t : ReqRespHandler), slots[i]? = some s → slots[j]? = some t → s.id = t.id →
    s.id ≠ 0 → i = j

section

variable {slots : List ReqRespHandler} {id : Nat}

/-- The slot `match_slot` ends with. -/
def matchSlot (slots : List ReqRespHandler) (id : Nat) : Option Nat :=
  (List.range slots.length).reverse.find? fun i => (slots.getD i {}).id = id

def firstEmptySlot (slots : List ReqRespHandler) : Option Nat :=
  (List.range slots.length).find? fun i => (slots.getD i {}).id = 0

/-! What `RegisterRequestCompleteHandler` does with the two slots it has found. -/

theorem registerRequestCompleteHandler_clears {i : Nat} (h : matchSlot slots id = some i) :
    registerRequestCompleteHandler slots id none = some (slots.set i {}) := by
  unfold matchSlot at h
  simp only [registerRequestCompleteHandler, h]

theorem registerRequestCompleteHandler_skips (h : matchSlot slots id = none) :
    registerRequestCompleteHandler slots id none = some slots := by
  unfold matchSlot at h
  simp only [registerRequestCompleteHandler, h]

theorem registerRequestCompleteHandler_replaces {i : Nat} (h : matchSlot slots id = some i)
    (f : Handler) :
    registerRequestCompleteHandler slots id (some f) =
      some (slots.set i { slots.getD i {} with handler := some f }) := by
  unfold matchSlot at h
  simp only [registerRequestCompleteHandler, h]

theorem registerRequestCompleteHandler_adds {i : Nat} (h : matchSlot slots id = none)
    (hempty : firstEmptySlot slots = some i) (f : Handler) :
    registerRequestCompleteHandler slots id (some f) =
      some (slots.set i { id := id, handler := some f }) := by
  unfold matchSlot at h
  unfold firstEmptySlot at hempty
  simp only [registerRequestCompleteHandler, h, hempty]

theorem registerRequestCompleteHandler_fails (h : matchSlot slots id = none)
    (hempty : firstEmptySlot slots = none) (f : Handler) :
    registerRequestCompleteHandler slots id (some f) = none := by
  unfold matchSlot at h
  unfold firstEmptySlot at hempty
  simp only [registerRequestCompleteHandler, h, hempty]

theorem getD_eq {i : Nat} (h : i < slots.length) : slots[i]? = some (slots.getD i {}) := by
  rw [List.getD_eq_getElem?_getD, List.getElem?_eq_getElem h]
  rfl

theorem matchSlot_some {i : Nat} (h : matchSlot slots id = some i) :
    i < slots.length ∧ ∃ s, slots[i]? = some s ∧ s.id = id := by
  unfold matchSlot at h
  have hmem := List.mem_of_find?_eq_some h
  have hid := List.find?_some h
  rw [List.mem_reverse, List.mem_range] at hmem
  exact ⟨hmem, _, getD_eq hmem, of_decide_eq_true hid⟩

theorem matchSlot_none (h : matchSlot slots id = none) : ∀ s ∈ slots, s.id ≠ id := by
  intro s hs heq
  obtain ⟨i, hi, rfl⟩ := List.mem_iff_getElem.mp hs
  unfold matchSlot at h
  rw [List.find?_eq_none] at h
  apply h i (List.mem_reverse.mpr (List.mem_range.mpr hi))
  rw [decide_eq_true_iff, List.getD_eq_getElem?_getD, List.getElem?_eq_getElem hi]
  exact heq

theorem firstEmptySlot_some {i : Nat} (h : firstEmptySlot slots = some i) :
    i < slots.length ∧ ∃ s, slots[i]? = some s ∧ s.id = 0 := by
  unfold firstEmptySlot at h
  have hmem := List.mem_of_find?_eq_some h
  have hid := List.find?_some h
  rw [List.mem_range] at hmem
  exact ⟨hmem, _, getD_eq hmem, of_decide_eq_true hid⟩

theorem firstEmptySlot_none (h : firstEmptySlot slots = none) : ∀ s ∈ slots, s.id ≠ 0 := by
  intro s hs heq
  obtain ⟨i, hi, rfl⟩ := List.mem_iff_getElem.mp hs
  unfold firstEmptySlot at h
  rw [List.find?_eq_none] at h
  apply h i (List.mem_range.mpr hi)
  rw [decide_eq_true_iff, List.getD_eq_getElem?_getD, List.getElem?_eq_getElem hi]
  exact heq

end

/-! ## 4. A table holds a map -/

/-- The slots in use are the entries of the map; a free slot is zero. -/
structure Holds (slots : List ReqRespHandler) {capacity : Nat} (m : HandlerMap capacity) :
    Prop where
  size : slots.length = capacity
  distinct : IdsDistinct slots
  free : ∀ s ∈ slots, s.id = 0 → s.handler = none
  slot : ∀ s ∈ slots, s.id ≠ 0 → s.handler.isSome ∧ m.lookup s.id = s.handler
  found : ∀ id ∈ m.map, id ≠ 0 ∧ ∃ s ∈ slots, s.id = id

namespace Holds

variable {slots : List ReqRespHandler} {capacity : Nat} {m : HandlerMap capacity} {id : Nat}

theorem start : Holds (List.replicate capacity {}) (HandlerMap.empty : HandlerMap capacity) where
  size := List.length_replicate
  distinct i j s t hs _ _ hne := by
    obtain ⟨_, rfl⟩ := List.mem_replicate.mp (List.mem_of_getElem? hs)
    exact absurd rfl hne
  free s hs _ := by
    obtain ⟨_, rfl⟩ := List.mem_replicate.mp hs
    rfl
  slot s hs hne := by
    obtain ⟨_, rfl⟩ := List.mem_replicate.mp hs
    exact absurd rfl hne
  found id hid := absurd hid Finmap.notMem_empty

/-- An id that is in the map has a slot, and no other id has one. -/
theorem mem_iff (h : Holds slots m) (hid : id ≠ 0) : id ∈ m.map ↔ ∃ s ∈ slots, s.id = id := by
  constructor
  · exact fun hmem => (h.found id hmem).2
  · rintro ⟨s, hs, rfl⟩
    obtain ⟨hsome, hlookup⟩ := h.slot s hs hid
    rw [← Finmap.lookup_isSome]
    exact (congrArg Option.isSome hlookup).trans hsome

/-- The ids of a table without a free slot are as many as it has slots. -/
theorem card_eq_of_full (h : Holds slots m) (hfull : ∀ s ∈ slots, s.id ≠ 0) :
    m.map.keys.card = capacity := by
  have hnodup : (slots.map (·.id)).Nodup := by
    rw [List.nodup_iff_injective_getElem]
    intro i j hij
    have hi : i < slots.length := List.length_map (f := fun s : ReqRespHandler => s.id) ▸ i.isLt
    have hj : j < slots.length := List.length_map (f := fun s : ReqRespHandler => s.id) ▸ j.isLt
    dsimp only at hij
    rw [List.getElem_map, List.getElem_map] at hij
    apply Fin.ext
    exact h.distinct i j _ _ (List.getElem?_eq_getElem hi) (List.getElem?_eq_getElem hj) hij
      (hfull _ (List.getElem_mem hi))
  have hkeys : m.map.keys = (slots.map (·.id)).toFinset := by
    ext k
    rw [Finmap.mem_keys, List.mem_toFinset, List.mem_map]
    constructor
    · exact fun hk => (h.found k hk).2
    · rintro ⟨s, hs, rfl⟩
      exact (h.mem_iff (hfull s hs)).mpr ⟨s, hs, rfl⟩
  rw [hkeys, List.toFinset_card_of_nodup hnodup, List.length_map, h.size]

/-- With a free slot there are fewer. -/
theorem card_lt_of_free (h : Holds slots m) {i : Nat} {s : ReqRespHandler}
    (hi : slots[i]? = some s) (hs : s.id = 0) : m.map.keys.card < capacity := by
  have hlt : i < slots.length := (List.getElem?_eq_some_iff.mp hi).1
  have hsub : m.map.keys ⊆ ((slots.eraseIdx i).map (·.id)).toFinset := by
    intro k hk
    obtain ⟨hk0, t, ht, rfl⟩ := h.found k (Finmap.mem_keys.mp hk)
    rw [List.mem_toFinset, List.mem_map]
    obtain ⟨j, hj⟩ := List.getElem?_of_mem ht
    refine ⟨t, List.mem_eraseIdx_iff_getElem?.mpr ⟨j, ?_, hj⟩, rfl⟩
    rintro rfl
    obtain rfl := Option.some.inj (hi.symm.trans hj)
    exact hk0 hs
  have hcard := Finset.card_le_card hsub
  have hlen := List.toFinset_card_le ((slots.eraseIdx i).map (·.id))
  rw [List.length_map, List.length_eraseIdx_of_lt hlt, h.size] at hlen
  rw [h.size] at hlt
  omega

theorem getElem?_set_cases {i j : Nat} {x s : ReqRespHandler}
    (h : (slots.set i x)[j]? = some s) : (i = j ∧ s = x) ∨ (i ≠ j ∧ slots[j]? = some s) := by
  rw [List.getElem?_set] at h
  by_cases hij : i = j
  · rw [if_pos hij] at h
    split at h
    · exact .inl ⟨hij, (Option.some.inj h).symm⟩
    · cases h
  · rw [if_neg hij] at h
    exact .inr ⟨hij, h⟩

/-- A slot is cleared: the id of the slot leaves the map. -/
theorem unregister (h : Holds slots m) (hid : id ≠ 0) {i : Nat} {s : ReqRespHandler}
    (hi : slots[i]? = some s) (hs : s.id = id) : Holds (slots.set i {}) (m.unregister id) where
  size := by rw [List.length_set, h.size]
  distinct a b x y hx hy hxy hne := by
    rcases getElem?_set_cases hx with ⟨-, rfl⟩ | ⟨_, hx⟩
    · exact absurd rfl hne
    · rcases getElem?_set_cases hy with ⟨-, rfl⟩ | ⟨_, hy⟩
      · exact absurd hxy hne
      · exact h.distinct a b x y hx hy hxy hne
  free x hx hx0 := by
    rcases List.mem_or_eq_of_mem_set hx with hmem | rfl
    · exact h.free x hmem hx0
    · rfl
  slot x hx hne := by
    obtain ⟨k, hk⟩ := List.getElem?_of_mem hx
    rcases getElem?_set_cases hk with ⟨-, rfl⟩ | ⟨hik, hk⟩
    · exact absurd rfl hne
    · have hne' : x.id ≠ id := fun heq =>
        hik (h.distinct i k s x hi hk (hs.trans heq.symm) (hs ▸ hid))
      obtain ⟨hsome, hlookup⟩ := h.slot x (List.mem_of_getElem? hk) hne
      exact ⟨hsome, (Finmap.lookup_erase_ne hne').trans hlookup⟩
  found k hk := by
    obtain ⟨hne, hmem⟩ := Finmap.mem_erase.mp hk
    obtain ⟨hk0, x, hx, rfl⟩ := h.found k hmem
    obtain ⟨j, hj⟩ := List.getElem?_of_mem hx
    have hij : i ≠ j := by
      rintro rfl
      obtain rfl := Option.some.inj (hi.symm.trans hj)
      exact hne hs
    refine ⟨hk0, x, List.mem_of_getElem? (i := j) ?_, rfl⟩
    rw [List.getElem?_set_ne hij]
    exact hj

/-- A slot of the id, or a free one, is set: the map has the handler. -/
theorem insert (h : Holds slots m) (hid : id ≠ 0) {f : Handler} (hroom : m.HasRoom id) {i : Nat}
    {s : ReqRespHandler} (hi : slots[i]? = some s)
    (hs : s.id = id ∨ s.id = 0 ∧ ∀ t ∈ slots, t.id ≠ id) :
    Holds (slots.set i { id := id, handler := some f }) (m.insert id f hroom) where
  size := by rw [List.length_set, h.size]
  distinct a b x y hx hy hxy hne := by
    have hother : ∀ k z, i ≠ k → slots[k]? = some z → z.id ≠ id := by
      intro k z hik hz heq
      rcases hs with hs | ⟨_, hnew⟩
      · exact hik (h.distinct i k s z hi hz (hs.trans heq.symm) (hs ▸ hid))
      · exact hnew z (List.mem_of_getElem? hz) heq
    rcases getElem?_set_cases hx with ⟨rfl, rfl⟩ | ⟨hia, hx⟩
    · rcases getElem?_set_cases hy with ⟨rfl, -⟩ | ⟨hib, hy⟩
      · rfl
      · exact absurd hxy.symm (hother b y hib hy)
    · rcases getElem?_set_cases hy with ⟨rfl, rfl⟩ | ⟨hib, hy⟩
      · exact absurd hxy (hother a x hia hx)
      · exact h.distinct a b x y hx hy hxy hne
  free x hx hx0 := by
    rcases List.mem_or_eq_of_mem_set hx with hmem | rfl
    · exact h.free x hmem hx0
    · exact absurd hx0 hid
  slot x hx hne := by
    obtain ⟨k, hk⟩ := List.getElem?_of_mem hx
    rcases getElem?_set_cases hk with ⟨-, rfl⟩ | ⟨hik, hk⟩
    · exact ⟨rfl, Finmap.lookup_insert _⟩
    · have hne' : x.id ≠ id := by
        intro heq
        rcases hs with hs | ⟨_, hnew⟩
        · exact hik (h.distinct i k s x hi hk (hs.trans heq.symm) (hs ▸ hid))
        · exact hnew x (List.mem_of_getElem? hk) heq
      obtain ⟨hsome, hlookup⟩ := h.slot x (List.mem_of_getElem? hk) hne
      exact ⟨hsome, (Finmap.lookup_insert_of_ne _ hne').trans hlookup⟩
  found k hk := by
    have hlt : i < slots.length := (List.getElem?_eq_some_iff.mp hi).1
    by_cases hkid : k = id
    · refine ⟨hkid ▸ hid, _, List.mem_set hlt _, hkid.symm⟩
    · obtain ⟨hk0, x, hx, rfl⟩ := h.found k ((Finmap.mem_insert.mp hk).resolve_left hkid)
      obtain ⟨j, hj⟩ := List.getElem?_of_mem hx
      have hij : i ≠ j := by
        rintro rfl
        obtain rfl := Option.some.inj (hi.symm.trans hj)
        rcases hs with hs | ⟨hs, _⟩
        · exact hkid hs
        · exact hk0 hs
      refine ⟨hk0, x, List.mem_of_getElem? (i := j) ?_, rfl⟩
      rw [List.getElem?_set_ne hij]
      exact hj

/-! ## 5. Calls -/

/-- A call on the table and on the map fail together, and leave a table that holds the map. -/
theorem register (h : Holds slots m) (hid : id ≠ 0) (handler : Option Handler) :
    (registerRequestCompleteHandler slots id handler = none ∧ m.register id handler = none) ∨
    ∃ slots' m', registerRequestCompleteHandler slots id handler = some slots' ∧
      m.register id handler = some m' ∧ Holds slots' m' := by
  cases handler with
  | none =>
    refine .inr ?_
    cases hmatch : matchSlot slots id with
    | some i =>
      obtain ⟨_, s, hi, hs⟩ := matchSlot_some hmatch
      exact ⟨_, _, registerRequestCompleteHandler_clears hmatch, rfl, h.unregister hid hi hs⟩
    | none =>
      have hnone := matchSlot_none hmatch
      have hnot : id ∉ m.map := by
        intro hmem
        obtain ⟨_, s, hs, heq⟩ := h.found id hmem
        exact hnone s hs heq
      refine ⟨_, _, registerRequestCompleteHandler_skips hmatch, rfl, ?_⟩
      refine ⟨h.size, h.distinct, h.free, fun s hs hne => ?_, fun k hk => ?_⟩
      · obtain ⟨hsome, hlookup⟩ := h.slot s hs hne
        exact ⟨hsome, (Finmap.lookup_erase_ne (hnone s hs)).trans hlookup⟩
      · exact h.found k (Finmap.mem_erase.mp hk).2
  | some f =>
    cases hmatch : matchSlot slots id with
    | some i =>
      obtain ⟨hlt, s, hi, hs⟩ := matchSlot_some hmatch
      have hroom : m.HasRoom id :=
        .inl ((h.mem_iff hid).mpr ⟨s, List.mem_of_getElem? hi, hs⟩)
      have hslot : slots.getD i {} = s := Option.some.inj ((getD_eq hlt).symm.trans hi)
      refine .inr ⟨_, _, registerRequestCompleteHandler_replaces hmatch f, dif_pos hroom, ?_⟩
      have hset : { slots.getD i {} with handler := some f } = ReqRespHandler.mk id (some f) := by
        rw [hslot, ← hs]
      rw [hset]
      exact h.insert hid hroom hi (.inl hs)
    | none =>
      have hnone := matchSlot_none hmatch
      have hnot : id ∉ m.map := fun hmem =>
        let ⟨s, hs, heq⟩ := (h.found id hmem).2
        hnone s hs heq
      cases hempty : firstEmptySlot slots with
      | some i =>
        obtain ⟨_, s, hi, hs⟩ := firstEmptySlot_some hempty
        have hroom : m.HasRoom id := .inr (h.card_lt_of_free hi hs)
        exact .inr ⟨_, _, registerRequestCompleteHandler_adds hmatch hempty f, dif_pos hroom,
          h.insert hid hroom hi (.inr ⟨hs, hnone⟩)⟩
      | none =>
        have hfull := h.card_eq_of_full (firstEmptySlot_none hempty)
        have hroom : ¬m.HasRoom id := by
          rintro (hmem | hlt)
          · exact hnot hmem
          · exact Nat.lt_irrefl _ (hfull ▸ hlt)
        exact .inl ⟨registerRequestCompleteHandler_fails hmatch hempty f, dif_neg hroom⟩

theorem findUnsolHandler (h : Holds slots m) (hid : id ≠ 0) :
    findUnsolHandler slots id = m.lookup id := by
  unfold SecRil.findUnsolHandler
  cases hfind : slots.find? fun s => s.id = id with
  | some s =>
    have hfound := List.find?_some hfind
    have heq : s.id = id := of_decide_eq_true hfound
    have hslot := h.slot s (List.mem_of_find?_eq_some hfind) (heq ▸ hid)
    rw [heq] at hslot
    exact hslot.2.symm
  | none =>
    rw [List.find?_eq_none] at hfind
    have hnot : id ∉ m.map := by
      intro hmem
      obtain ⟨_, s, hs, heq⟩ := h.found id hmem
      exact hfind s hs (decide_eq_true heq)
    exact (Finmap.lookup_eq_none.mpr hnot).symm

end Holds

/-- The request with the token is one of this id: the entries with the token, one at least, have
it. -/
def IsRequest (history : List ReqHistory) (token : Token) (id : Nat) : Prop :=
  (∃ e ∈ history, e.token = token) ∧ ∀ e ∈ history, e.token = token → e.id = id

theorem TokensDistinct.isRequest {history : List ReqHistory} (h : TokensDistinct history)
    {e : ReqHistory} (he : e ∈ history) (htoken : e.token ≠ 0) :
    IsRequest history e.token e.id := by
  have hone := List.Pairwise.forall_of_forall_of_flip
    (R := fun a b : ReqHistory => a.token = b.token → a.token ≠ 0 → a.id = b.id) (l := history)
    (fun _ _ _ _ => rfl) (h.imp fun hab heq hne => absurd (hab heq) hne)
    (h.imp fun hab heq hne => absurd (heq.trans (hab heq.symm)) hne)
  exact ⟨⟨e, he, rfl⟩, fun e' he' heq => hone he' he heq (heq ▸ htoken)⟩

/-- `FindReqHandler` is the lookup of the id of the request. -/
theorem findReqHandler_eq {history : List ReqHistory} {token : Token} {id : Nat}
    (h : IsRequest history token id) (handlers : List ReqRespHandler) :
    findReqHandler history handlers token = findUnsolHandler handlers id := by
  obtain ⟨⟨e, he, htoken⟩, hall⟩ := h
  unfold findReqHandler findUnsolHandler findReqSlot
  cases hfind : handlers.find? fun s => s.id = id with
  | none =>
    have hnone : (history.findSome? fun e => if e.token = token then
        (handlers.find? fun h => h.id = e.id).map fun h => (e, h) else none) = none := by
      rw [List.findSome?_eq_none_iff]
      intro e' he'
      split
      · rename_i heq
        rw [hall e' he' heq, hfind]
        rfl
      · rfl
    rw [hnone]
    rfl
  | some s =>
    have hsome : ((history.findSome? fun e => if e.token = token then
        (handlers.find? fun h => h.id = e.id).map fun h => (e, h) else none)).isSome := by
      rw [List.isSome_findSome?, List.any_eq_true]
      refine ⟨e, he, ?_⟩
      rw [if_pos htoken, hall e he htoken, hfind]
      rfl
    obtain ⟨⟨e', s'⟩, hfound⟩ := Option.isSome_iff_exists.mp hsome
    obtain ⟨e'', he'', hslot⟩ := List.exists_of_findSome?_eq_some hfound
    rw [hfound]
    split at hslot
    · rename_i heq
      rw [hall e'' he'' heq, hfind] at hslot
      obtain ⟨_, rfl⟩ := Prod.mk.inj (Option.some.inj hslot)
      rfl
    · cases hslot

/-- Without a request there is no handler. -/
theorem findReqHandler_of_notMem {history : List ReqHistory} {token : Token}
    (h : ∀ e ∈ history, e.token ≠ token) (handlers : List ReqRespHandler) :
    findReqHandler history handlers token = none := by
  have hnone : findReqSlot history handlers token = none := by
    unfold findReqSlot
    rw [List.findSome?_eq_none_iff]
    exact fun e he => if_neg (h e he)
  unfold findReqHandler
  rw [hnone]
  rfl

/-! ## 6. Sequences of calls -/

namespace HandlerMap

variable {capacity : Nat} (m : HandlerMap capacity)

/-- A registration fails exactly when its id is new and the map is full. -/
theorem register_eq_none_iff (id : Nat) (f : Handler) :
    m.register id (some f) = none ↔ id ∉ m.map ∧ m.map.keys.card = capacity := by
  have hle := m.card_le
  change (if h : m.HasRoom id then some (m.insert id f h) else none) = none ↔ _
  by_cases hroom : m.HasRoom id
  · rw [dif_pos hroom]
    refine ⟨fun hnone => (nomatch hnone), fun ⟨hnew, hfull⟩ => ?_⟩
    rcases hroom with hmem | hlt
    · exact absurd hmem hnew
    · omega
  · rw [dif_neg hroom]
    obtain ⟨hnew, hfull⟩ := not_or.mp hroom
    exact ⟨fun _ => ⟨hnew, Nat.le_antisymm hle (Nat.not_lt.mp hfull)⟩, fun _ => rfl⟩

/-- A registration that succeeds is what is found for its id; the other ids keep theirs. -/
theorem lookup_register {m m' : HandlerMap capacity} {id : Nat} {handler : Option Handler}
    (h : m.register id handler = some m') (k : Nat) :
    m'.lookup k = if id = k then handler else m.lookup k := by
  cases handler with
  | none =>
    obtain rfl := Option.some.inj h
    by_cases hk : id = k
    · rw [if_pos hk, ← hk]
      exact Finmap.lookup_erase id m.map
    · rw [if_neg hk]
      exact Finmap.lookup_erase_ne (Ne.symm hk)
  | some f =>
    change (if hroom : m.HasRoom id then some (m.insert id f hroom) else none) = some m' at h
    split at h
    · obtain rfl := Option.some.inj h
      by_cases hk : id = k
      · rw [if_pos hk, ← hk]
        exact Finmap.lookup_insert _
      · rw [if_neg hk]
        exact Finmap.lookup_insert_of_ne _ (Ne.symm hk)
    · cases h

end HandlerMap

namespace HandlerMaps

theorem lookup_set (m : HandlerMaps) (table table' : HandlerTable) (map : HandlerMap reqPoolSize)
    (id : Nat) : ((m.set table map).get table').lookup id =
      if table = table' then map.lookup id else (m.get table').lookup id := by
  cases table <;> cases table' <;> rfl

/-- The maps know what was registered last. -/
theorem lookup_registerAll (m : HandlerMaps) (calls : List Registration) (table : HandlerTable)
    (id : Nat) : ((m.registerAll calls).2.get table).lookup id =
      latestHandler table id ((m.get table).lookup id) (calls.zip (m.registerAll calls).1) := by
  induction calls generalizing m with
  | nil => rfl
  | cons c cs ih =>
    have hstep : ((m.register c).2.get table).lookup id =
        if c.table = table ∧ c.id = id ∧ (m.register c).1 = errSuccess then c.handler
        else (m.get table).lookup id := by
      unfold register
      cases hregister : (m.get c.table).register c.id c.handler with
      | none => exact (if_neg fun h => errSuccess_ne_errResource h.2.2.symm).symm
      | some map =>
        dsimp only
        rw [lookup_set]
        by_cases htable : c.table = table
        · rw [if_pos htable, HandlerMap.lookup_register hregister, htable]
          by_cases hid : c.id = id
          · rw [if_pos hid, if_pos ⟨rfl, hid, rfl⟩]
          · rw [if_neg hid, if_neg fun h => hid h.2.1]
        · rw [if_neg htable, if_neg fun h => htable h.1]
    change (((m.register c).2.registerAll cs).2.get table).lookup id = _
    rw [ih, hstep]
    rfl

end HandlerMaps

/-- Both tables hold their maps. -/
structure HandlerTables.HoldsMaps (t : HandlerTables) (m : HandlerMaps) : Prop where
  req : Holds t.reqHandlers m.req
  unsol : Holds t.unsolHandlers m.unsol

namespace HandlerTables.HoldsMaps

variable {t : HandlerTables} {m : HandlerMaps}

theorem register (h : t.HoldsMaps m) {c : Registration} (hid : c.id ≠ 0) :
    (t.register c).1 = (m.register c).1 ∧ (t.register c).2.HoldsMaps (m.register c).2 := by
  obtain ⟨table, id, handler⟩ := c
  change id ≠ 0 at hid
  unfold HandlerTables.register HandlerMaps.register registerUnsolicitedHandler
  cases table with
  | requestComplete =>
    dsimp only [HandlerMaps.get]
    rcases h.req.register hid handler with ⟨htable, hmap⟩ | ⟨slots', m', htable, hmap, hholds⟩
    · rw [htable, hmap]
      exact ⟨rfl, h⟩
    · rw [htable, hmap]
      exact ⟨rfl, hholds, h.unsol⟩
  | unsolicited =>
    dsimp only [HandlerMaps.get]
    rcases h.unsol.register hid handler with ⟨htable, hmap⟩ | ⟨slots', m', htable, hmap, hholds⟩
    · rw [htable, hmap]
      exact ⟨rfl, h⟩
    · rw [htable, hmap]
      exact ⟨rfl, h.req, hholds⟩

theorem registerAll {calls : List Registration} (hids : ∀ c ∈ calls, c.id ≠ 0)
    (h : t.HoldsMaps m) : (t.registerAll calls).1 = (m.registerAll calls).1 ∧
      (t.registerAll calls).2.HoldsMaps (m.registerAll calls).2 := by
  induction calls generalizing t m with
  | nil => exact ⟨rfl, h⟩
  | cons c cs ih =>
    obtain ⟨hresult, hholds⟩ := h.register (hids c List.mem_cons_self)
    obtain ⟨hresults, hrest⟩ := ih (fun c' hc' => hids c' (List.mem_cons_of_mem _ hc')) hholds
    exact ⟨congrArg₂ List.cons hresult hresults, hrest⟩

/-- When a call fails, and that it changes nothing then. -/
theorem register_fails (h : t.HoldsMaps m) {c : Registration} (hid : c.id ≠ 0) :
    ((t.register c).1 = errResource ↔ c.handler.isSome ∧ c.id ∉ (m.get c.table).map ∧
      (m.get c.table).map.keys.card = reqPoolSize) ∧
    ((t.register c).1 = errResource → (t.register c).2 = t) := by
  constructor
  · rw [(h.register hid).1]
    unfold HandlerMaps.register
    cases hhandler : c.handler with
    | none =>
      change errSuccess = errResource ↔ _
      exact ⟨fun hbad => absurd hbad errSuccess_ne_errResource,
        fun hbad => absurd hbad.1 Bool.false_ne_true⟩
    | some f =>
      rw [← HandlerMap.register_eq_none_iff (m.get c.table) c.id f]
      cases (m.get c.table).register c.id (some f) with
      | none => exact ⟨fun _ => ⟨rfl, rfl⟩, fun _ => rfl⟩
      | some map =>
        exact ⟨fun hbad => absurd hbad errSuccess_ne_errResource, fun hbad => nomatch hbad.2⟩
  · unfold HandlerTables.register
    split
    · split
      · exact fun hbad => absurd hbad errSuccess_ne_errResource
      · exact fun _ => rfl
    · split
      · exact fun hbad => absurd hbad errSuccess_ne_errResource
      · exact fun _ => rfl

end HandlerTables.HoldsMaps

/-- Calls with ids that are not zero do to the tables what they do to finite maps of the capacity
`REQ_POOL_SIZE`, with the same results: an id is looked up as what was registered for it last. -/
theorem tables_refine_maps (calls : List Registration) (hids : ∀ c ∈ calls, c.id ≠ 0)
    (results : List Nat) (t : HandlerTables)
    (hrun : ({} : HandlerTables).registerAll calls = (results, t)) :
    ∃ m : HandlerMaps, HandlerMaps.empty.registerAll calls = (results, m) ∧
      (∀ id ≠ 0, findUnsolHandler t.unsolHandlers id = m.unsol.lookup id ∧
        m.unsol.lookup id = latestHandler .unsolicited id none (calls.zip results)) ∧
      (∀ history token id, id ≠ 0 → IsRequest history token id →
        findReqHandler history t.reqHandlers token = m.req.lookup id ∧
        m.req.lookup id = latestHandler .requestComplete id none (calls.zip results)) ∧
      (∀ history token, (∀ e ∈ history, e.token ≠ token) →
        findReqHandler history t.reqHandlers token = none) ∧
      IdsDistinct t.reqHandlers ∧ IdsDistinct t.unsolHandlers ∧
      ∀ c : Registration, c.id ≠ 0 →
        ((t.register c).1 = errResource ↔ c.handler.isSome ∧ c.id ∉ (m.get c.table).map ∧
          (m.get c.table).map.keys.card = reqPoolSize) ∧
        ((t.register c).1 = errResource → (t.register c).2 = t) := by
  have hstart : HandlerTables.HoldsMaps {} HandlerMaps.empty := ⟨Holds.start, Holds.start⟩
  obtain ⟨hresults, hholds⟩ := hstart.registerAll hids
  have hlatest := HandlerMaps.lookup_registerAll HandlerMaps.empty calls
  rw [← hresults, hrun] at hlatest
  rw [hrun] at hresults hholds
  refine ⟨_, Prod.ext hresults.symm rfl, ?_, ?_, ?_, hholds.req.distinct, hholds.unsol.distinct,
    fun c hid => hholds.register_fails hid⟩
  · intro id hid
    exact ⟨hholds.unsol.findUnsolHandler hid, hlatest .unsolicited id⟩
  · intro history token id hid hrequest
    rw [findReqHandler_eq hrequest]
    exact ⟨hholds.req.findUnsolHandler hid, hlatest .requestComplete id⟩
  · exact fun history token hnone => findReqHandler_of_notMem hnone _

/-- Registered, registered again, and unregistered with another one in its slot. -/
theorem tables_refine_maps_reused : ∃ m : HandlerMaps,
    HandlerMaps.empty.registerAll [⟨.unsolicited, 5, some 1⟩, ⟨.unsolicited, 6, some 2⟩,
      ⟨.unsolicited, 5, none⟩, ⟨.unsolicited, 7, some 3⟩] = ([0, 0, 0, 0], m) ∧
      m.unsol.lookup 7 = some 3 := by
  obtain ⟨m, hm, hunsol, _⟩ := tables_refine_maps [⟨.unsolicited, 5, some 1⟩,
    ⟨.unsolicited, 6, some 2⟩, ⟨.unsolicited, 5, none⟩, ⟨.unsolicited, 7, some 3⟩] (by decide)
    [0, 0, 0, 0] _ rfl
  exact ⟨m, hm, (hunsol 7 (by decide)).2⟩

end Universal7870.SecRil
