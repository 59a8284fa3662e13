import Universal7870.Jpeg.DebugReserve
import Universal7870.Jpeg.ExifRoundTrip
import Universal7870.Jpeg.FinishedImages

/-!
# Segments of the final stream

`FinishCompression` puts the thumbnail into the first segment of the header, in a place that was
reserved or in one that it makes by moving what follows.  Either way the bytes of the client's buffer
are marker segments whose length fields lead to their ends.
-/

namespace Universal7870.Jpeg

open Lib

/-! ## 1. The layout -/

def Memory.bytes (mem : Memory) (a n : Nat) : List UInt8 := (List.range n).map fun k => mem (a + k)

/-- A marker segment: its length field counts itself and the payload, and leads to its end. -/
structure Segment (marker : UInt8) (payload bs : List UInt8) : Prop where
  bytes : bs = [0xFF, marker] ++ be16 (payload.length + jpegSegmentLenfieldSize) ++ payload
  fits : payload.length + jpegSegmentLenfieldSize < 2 ^ 16

/-- The APP1 segment behind the SOI at `base`: the Exif data, the thumbnail and, where a place was
reserved for it, zeros.  The data reads as the attribute, and the thumbnail is where it says. -/
structure App1Layout (mem : Memory) (base : Nat) (e : ExifAttribute) (reserved : Bool)
    (thumb bs : List UInt8) : Prop where
  segment : ∃ exifData rest, Segment 0xE1 (exifData ++ thumb ++ rest) bs ∧
    exifData.length + jpegSegmentLenfieldSize = e.appLength ∧ (∀ b ∈ rest, b = 0) ∧
    (reserved = false → rest = [])
  reads : Tiff.readApp1 mem (base + 2) = some (e.attributes thumb.length)
  designated : mem.bytes (base + 12 + (e.appLength - 8)) thumb.length = thumb
  disabled : e.enableThumb = false → thumb = []

/-- The segment of the `i`-th entry, whose data the camera HAL stores later if HWFC is enabled. -/
def DebugSegment (d : DebugAttribute) (hwfc : Bool) (i : Nat) (bs : List UInt8) : Prop :=
  ∃ marker payload, Segment marker payload bs ∧ marker.toNat = 0xE0 + (d.idx i).toNat ∧
    payload.length = d.debugSize (d.idx i) ∧ (hwfc = false → payload = d.bytes (d.idx i))

/-- The debug segments. -/
def AppxLayout (d : DebugAttribute) (hwfc : Bool) (bs : List UInt8) : Prop :=
  ∃ segment : Nat → List UInt8, bs = (List.range d.numOfAppmarker.toNat).flatMap segment ∧
    ∀ i < d.numOfAppmarker.toNat, DebugSegment d hwfc i (segment i)

/-- The `n` bytes at `base`: SOI, the segments, and the main stream behind its SOI. -/
structure FinalLayout (mem : Memory) (base n : Nat) (exif : Option ExifAttribute)
    (debug : Option DebugAttribute) (hwfc reserved : Bool) (thumb main : List UInt8) : Prop where
  bytes : ∃ app1 appx app11, mem.bytes base n = [0xFF, 0xD8] ++ app1 ++ appx ++ app11 ++ main.drop 2 ∧
    (exif = none → app1 = [] ∧ thumb = []) ∧
    (∀ e ∈ exif, App1Layout mem base e reserved thumb app1) ∧
    (debug = none → appx = []) ∧ (∀ d ∈ debug, AppxLayout d hwfc appx) ∧
    (if exif.isNone ∧ debug.isNone then app11 = [] else ∃ payload, Segment 0xEB payload app11)

/-! ## 2. The thumbnail is embedded -/

/-- A store into a memory is a write. -/
theorem onto_put (mem : Memory) (a : Nat) (bs : List UInt8) :
    (Overlay.empty.put a bs).onto mem = mem.write a bs := by
  funext i
  unfold Memory.write
  by_cases hlt : i < a
  · rw [blit_outside (.inl hlt)]
    unfold Overlay.onto Overlay.put
    rw [Overlay.lay_of_lt _ hlt]
    rfl
  · by_cases hge : a + bs.length ≤ i
    · rw [blit_outside (.inr hge), onto_put_of_ge hge]
    · obtain ⟨k, rfl⟩ := Nat.exists_eq_add_of_le (Nat.not_lt.mp hlt)
      rw [blit_inside (by omega), Nat.zero_add]
      unfold Overlay.onto Overlay.put
      rw [Overlay.lay_apply, cellAt_stored (by omega) (by omega), Nat.add_sub_cancel_left]
      rfl

theorem Memory.write_inside {mem : Memory} {a k : Nat} {bs : List UInt8} (hk : k < bs.length) :
    mem.write a bs (a + k) = bs.getD k 0 := by
  unfold Memory.write
  rw [blit_inside hk, Nat.zero_add]

namespace StreamEncoder

variable {s : StreamEncoder} {mem mem' : Memory} {mainlen : Nat} {thumb : Nat × Memory}

theorem copyThumb_eq (hplace : s.appWriter.thumbSizePlaceholder ≠ 0) (mem : Memory)
    (thumb : Nat × Memory) : s.copyThumb mem thumb =
      if 0 < thumb.1 then
        Memory.write (blit mem s.appWriter.thumbBase thumb.2 0 thumb.1)
          s.appWriter.thumbSizePlaceholder (le32 thumb.1)
      else mem := by
  unfold copyThumb CAppMarkerWriter.finalize
  rw [if_pos hplace, onto_put]

theorem moveMain_eq (hbase : s.appWriter.appBase ≠ 0) (mem : Memory) (mainlen thumblen : Nat) :
    s.moveMain mem mainlen thumblen =
      Memory.write (blit mem (s.appWriter.app1End + thumblen) mem s.appWriter.app1End
          ((mainlen + sizeSub s.appWriter.mainBase s.appWriter.app1End) % 2 ^ 64))
        (s.appWriter.appBase + 2) (be16 (s.appWriter.szApp1 + thumblen)) := by
  unfold moveMain CAppMarkerWriter.updateApp1Size
  rw [if_pos hbase, onto_put]
  rfl

/-- How far what follows the first segment is moved. -/
def shift (s : StreamEncoder) (thumblen : Nat) : Nat :=
  if s.appWriter.isThumbSpaceReserved then 0 else thumblen

/-- The memory once the thumbnail is embedded: its bytes and its length, the length of the segment,
and everything else as it was, or moved. -/
structure Embedded (s : StreamEncoder) (mem mem' : Memory) (mainlen : Nat) (thumb : Nat × Memory) :
    Prop where
  kept : ∀ i, (i < s.appWriter.appBase + 2 ∨ s.appWriter.appBase + 4 ≤ i) →
    (i < s.appWriter.thumbSizePlaceholder ∨ s.appWriter.thumbSizePlaceholder + 4 ≤ i) →
    i < s.appWriter.thumbBase → mem' i = mem i
  length : ∀ k < 2, mem' (s.appWriter.appBase + 2 + k) =
    if s.appWriter.isThumbSpaceReserved then mem (s.appWriter.appBase + 2 + k)
    else (be16 (s.appWriter.szApp1 + thumb.1)).getD k 0
  size : ∀ k < 4, mem' (s.appWriter.thumbSizePlaceholder + k) =
    if 0 < thumb.1 then (le32 thumb.1).getD k 0
    else mem (s.appWriter.thumbSizePlaceholder + k)
  copied : ∀ k < thumb.1, mem' (s.appWriter.thumbBase + k) = thumb.2 k
  rest : s.appWriter.isThumbSpaceReserved → ∀ k, thumb.1 ≤ k → k < s.appWriter.maxThumbSize →
    mem' (s.appWriter.thumbBase + k) = 0
  moved : ∀ i, s.appWriter.app1End ≤ i → i < s.appWriter.mainBase + mainlen →
    mem' (i + s.shift thumb.1) = mem i

/-- Where the fields are that are written late. -/
structure LateFields (w : CAppMarkerWriter) : Prop where
  appBase : w.appBase ≠ 0
  placeholder : w.appBase + 4 ≤ w.thumbSizePlaceholder
  thumbBase : w.thumbSizePlaceholder + 8 = w.thumbBase
  app1End : w.app1End = w.thumbBase + if w.isThumbSpaceReserved then w.maxThumbSize else 0
  main : w.app1End + 2 ≤ w.mainBase

theorem copyThumb_kept (h : LateFields s.appWriter) (mem : Memory) (thumb : Nat × Memory) {i : Nat}
    (hplace : i < s.appWriter.thumbSizePlaceholder ∨ s.appWriter.thumbSizePlaceholder + 4 ≤ i)
    (hthumb : i < s.appWriter.thumbBase ∨ s.appWriter.thumbBase + thumb.1 ≤ i) :
    s.copyThumb mem thumb i = mem i := by
  have hfield := h.placeholder
  rw [copyThumb_eq (by omega)]
  split
  · rw [Memory.write_outside (by rw [length_le32]; exact hplace), blit_outside hthumb]
  · rfl

theorem copyThumb_size (h : LateFields s.appWriter) (mem : Memory) (thumb : Nat × Memory) {k : Nat}
    (hk : k < 4) : s.copyThumb mem thumb (s.appWriter.thumbSizePlaceholder + k) =
      if 0 < thumb.1 then (le32 thumb.1).getD k 0
      else mem (s.appWriter.thumbSizePlaceholder + k) := by
  have hfield := h.placeholder
  rw [copyThumb_eq (by omega)]
  split
  · exact Memory.write_inside hk
  · rfl

theorem copyThumb_thumb (h : LateFields s.appWriter) (mem : Memory) (thumb : Nat × Memory) {k : Nat}
    (hk : k < thumb.1) : s.copyThumb mem thumb (s.appWriter.thumbBase + k) = thumb.2 k := by
  have hfield := h.placeholder
  have hthumb := h.thumbBase
  rw [copyThumb_eq (by omega), if_pos (by omega), Memory.write_outside
    (.inr (by rw [length_le32]; omega)), blit_inside hk, Nat.zero_add]

/-- In a reserved place. -/
theorem embedded_reserved (h : LateFields s.appWriter)
    (hreserved : s.appWriter.isThumbSpaceReserved) (mem : Memory) (mainlen : Nat)
    (thumb : Nat × Memory) (hle : thumb.1 ≤ s.appWriter.maxThumbSize) :
    s.Embedded mem (s.clearRest (s.copyThumb mem thumb) thumb.1) mainlen thumb := by
  have hfield := h.placeholder
  have hthumb := h.thumbBase
  have hend := h.app1End
  rw [if_pos hreserved] at hend
  have hbefore : ∀ i, i < s.appWriter.thumbBase + thumb.1 →
      s.clearRest (s.copyThumb mem thumb) thumb.1 i = s.copyThumb mem thumb i := fun i hi =>
    blit_outside (.inl hi)
  -- the clearing of the rest begins behind the thumbnail
  refine ⟨fun i _ hplace hi => ?_, fun k hk => ?_, fun k hk => ?_, fun k hk => ?_,
    fun _ k hlo hhi => ?_, fun i hi _ => ?_⟩
  · rw [hbefore i (by omega), copyThumb_kept h mem thumb hplace (.inl hi)]
  · rw [if_pos hreserved, hbefore _ (by omega)]
    exact copyThumb_kept h mem thumb (.inl (by omega)) (.inl (by omega))
  · rw [hbefore _ (by omega), copyThumb_size h mem thumb hk]
  · rw [hbefore _ (by omega), copyThumb_thumb h mem thumb hk]
  · obtain ⟨j, rfl⟩ := Nat.exists_eq_add_of_le hlo
    unfold clearRest
    rw [← Nat.add_assoc, blit_inside (by omega)]
  · unfold shift
    rw [if_pos hreserved, Nat.add_zero, clearRest_of_ge _ hle (by omega)]
    exact copyThumb_kept h mem thumb (.inr (by omega)) (.inr (by omega))

/-- In a place that is made by moving what follows. -/
theorem embedded_moved (h : LateFields s.appWriter)
    (hreserved : ¬s.appWriter.isThumbSpaceReserved) (mem : Memory) {mainlen : Nat}
    (thumb : Nat × Memory) (hlen : s.appWriter.mainBase + mainlen < 2 ^ 64) :
    s.Embedded mem (s.copyThumb (s.moveMain mem mainlen thumb.1) thumb) mainlen thumb := by
  have hfield := h.placeholder
  have hthumb := h.thumbBase
  have hend := h.app1End
  have hmain := h.main
  have hbe (n : Nat) : (be16 n).length = 2 := length_be16 n
  rw [if_neg hreserved, Nat.add_zero] at hend
  -- the move only stores the length field and what is behind the segment
  have hkept : ∀ i, (i < s.appWriter.appBase + 2 ∨ s.appWriter.appBase + 4 ≤ i) →
      i < s.appWriter.thumbBase → s.moveMain mem mainlen thumb.1 i = mem i := by
    intro i hlength hi
    rw [moveMain_eq h.appBase, Memory.write_outside (by rw [hbe]; omega),
      blit_outside (.inl (by omega))]
  refine ⟨fun i hlength hplace hi => ?_, fun k hk => ?_, fun k hk => ?_, fun k hk => ?_,
    fun hres => absurd hres hreserved, fun i hi hlt => ?_⟩
  · rw [copyThumb_kept h _ thumb hplace (.inl hi), hkept i hlength hi]
  · rw [if_neg hreserved, copyThumb_kept h _ thumb (.inl (by omega)) (.inl (by omega)),
      moveMain_eq h.appBase, Memory.write_inside (by rw [hbe]; exact hk)]
  · rw [copyThumb_size h _ thumb hk, hkept _ (.inr (by omega)) (by omega)]
  · exact copyThumb_thumb h _ thumb hk
  · unfold shift
    rw [if_neg hreserved, copyThumb_kept h _ thumb (.inr (by omega)) (.inr (by omega)),
      moveMain_eq h.appBase, Memory.write_outside (.inr (by rw [hbe]; omega)),
      sizeSub_of_le (by omega) (by omega), Nat.mod_eq_of_lt (by omega)]
    obtain ⟨k, rfl⟩ := Nat.exists_eq_add_of_le hi
    -- the thumbnail is copied into the gap, so what was moved stays
    rw [show s.appWriter.app1End + k + thumb.1 = s.appWriter.app1End + thumb.1 + k by omega,
      blit_inside (by omega)]

theorem embedded_of_embedThumb (h : LateFields s.appWriter)
    (hle : thumb.1 ≤ s.appWriter.maxThumbSize) (hlen : s.appWriter.mainBase + mainlen < 2 ^ 64)
    (hembed : s.embedThumb mem mainlen thumb = some mem') : s.Embedded mem mem' mainlen thumb := by
  unfold embedThumb at hembed
  by_cases hreserved : s.appWriter.isThumbSpaceReserved
  · rw [if_pos hreserved] at hembed
    obtain rfl := Option.some.inj hembed
    exact embedded_reserved h hreserved mem mainlen thumb hle
  · rw [if_neg hreserved] at hembed
    split at hembed
    · cases hembed
    · obtain rfl := Option.some.inj hembed
      exact embedded_moved h hreserved mem thumb hlen

end StreamEncoder

/-! ## 3. The first segment -/

theorem Memory.length_bytes (mem : Memory) (a n : Nat) : (mem.bytes a n).length = n := by
  unfold Memory.bytes
  rw [List.length_map, List.length_range]

theorem Memory.bytes_add (mem : Memory) (a m n : Nat) :
    mem.bytes a (m + n) = mem.bytes a m ++ mem.bytes (a + m) n := by
  unfold Memory.bytes
  rw [List.range_add, List.map_append, List.map_map]
  congr 1
  apply List.map_congr_left
  intro k _
  exact congrArg mem (Nat.add_assoc a m k).symm

theorem Memory.bytes_congr {mem mem' : Memory} {a a' n : Nat}
    (h : ∀ k < n, mem' (a' + k) = mem (a + k)) : mem'.bytes a' n = mem.bytes a n := by
  unfold Memory.bytes
  apply List.map_congr_left
  exact fun k hk => h k (List.mem_range.mp hk)

theorem Memory.bytes_stored {mem : Memory} {a : Nat} {bs : List UInt8}
    (h : Shows mem a (stored bs)) : mem.bytes a bs.length = bs := by
  have hfill := map_of_shows h
  rw [length_stored, fill_stored] at hfill
  exact hfill

section

open ExifAttribute

variable {e : ExifAttribute}

theorem entry_thumbLengthField (off : Nat) (thumblen : UInt32) :
    (thumbLengthField thumblen).entry off =
      stored (le16 ExifTag.jpegInterchangeFormatLen ++ le16 ExifType.long.code ++ le32 1) ++
        stored (le32 thumblen.toNat) := by
  have hinline : ¬(thumbLengthField thumblen).atValue = true := Bool.false_ne_true
  unfold IfdField.entry
  rw [if_neg hinline]
  exact congrArg _ (List.append_nil _)

theorem table_append (off : Nat) (xs : List IfdField) (f : IfdField) :
    table off (xs ++ [f]) = table off xs ++ f.entry (off + (values xs).length) := by
  induction xs generalizing off with
  | nil => exact List.append_nil _
  | cons x xs ih =>
    rw [List.cons_append]
    unfold table
    rw [ih, length_values_cons, List.append_assoc, Nat.add_assoc]

/-- The fields that are written late, in the segment. -/
theorem finishedApp1Cells_split (henable : e.enableThumb = true) (offset : UInt32) :
    ∃ middle : Cells, middle.length + 10 = e.appLength ∧ ∀ length thumblen,
      e.finishedApp1Cells length offset thumblen = stored [0xFF, 0xE1] ++ stored (be16 length) ++
        middle ++ stored (le32 thumblen.toNat) ++ stored (le32 0) := by
  have hsplit : ∃ middle : Cells, ∀ length thumblen,
      e.finishedApp1Cells length offset thumblen = stored [0xFF, 0xE1] ++ stored (be16 length) ++
        middle ++ stored (le32 thumblen.toNat) ++ stored (le32 0) := by
    -- the length of the thumbnail is the value of the last field of the second directory
    refine ⟨stored (exifIdentifierCode ++ tiffHeader) ++
      (e.primaryCells (stored (le32 e.thumbOffset)) ++ (stored (le16 6) ++
        (table (behindTable e.thumbOffset 6) (e.thumbFields offset) ++
          stored (le16 ExifTag.jpegInterchangeFormatLen ++ le16 ExifType.long.code ++ le32 1)))),
      fun length thumblen => ?_⟩
    have hvalues : stored (values (e.thumbFields offset ++ [thumbLengthField thumblen])) = [] := rfl
    have hcount : (e.thumbFields offset ++ [thumbLengthField thumblen]).length = 6 := rfl
    unfold finishedApp1Cells app1Head leafIfd ifdCells
    rw [if_pos henable, hvalues, hcount, table_append, entry_thumbLengthField]
    simp only [List.append_assoc, List.append_nil]
  obtain ⟨middle, hmiddle⟩ := hsplit
  refine ⟨middle, ?_, hmiddle⟩
  have hlength := length_finishedApp1Cells e 0 offset 0
  rw [hmiddle] at hlength
  simp only [List.length_append, length_stored, length_be16, length_le32] at hlength
  change 2 + 2 + middle.length + 4 + 4 = 2 + e.appLength at hlength
  omega

/-- Embedding a thumbnail completes the segment. -/
theorem StreamEncoder.Embedded.shows {s : StreamEncoder} {mem mem' : Memory} {mainlen : Nat}
    {thumb : Nat × Memory} (h : s.Embedded mem mem' mainlen thumb)
    (hfields : LateFields s.appWriter) (henable : e.enableThumb = true)
    (hplace : s.appWriter.thumbBase = s.appWriter.appBase + 2 + e.appLength)
    (hthumb : thumb.1 < 2 ^ 32) {length : Nat} {offset : UInt32}
    (hshow : Shows mem s.appWriter.appBase (e.finishedApp1Cells length offset 0)) :
    Shows mem' s.appWriter.appBase (e.finishedApp1Cells
      (if s.appWriter.isThumbSpaceReserved then length else s.appWriter.szApp1 + thumb.1) offset
      (UInt32.ofNat thumb.1)) := by
  obtain ⟨middle, hlength, hsplit⟩ := finishedApp1Cells_split henable offset
  have hfield := hfields.placeholder
  have hbase := hfields.thumbBase
  have hvalue : (UInt32.ofNat thumb.1).toNat = thumb.1 :=
    UInt32.toNat_ofNat_of_lt hthumb
  rw [hsplit] at hshow ⊢
  simp only [shows_append, List.length_append, length_stored, length_be16, length_le32] at hshow ⊢
  have htwo : ([0xFF, 0xE1] : List UInt8).length = 2 := rfl
  rw [htwo] at hshow ⊢
  -- the length field and the size of the thumbnail are stored late, the rest is kept
  obtain ⟨⟨⟨⟨hmarker, hsize⟩, hmiddle⟩, hlast⟩, hnext⟩ := hshow
  refine ⟨⟨⟨⟨?_, ?_⟩, ?_⟩, ?_⟩, ?_⟩
  · refine hmarker.congr fun k hk => h.kept _ (.inl ?_) (.inl ?_) ?_
    all_goals
      change k < 2 at hk
      omega
  · refine shows_stored fun k hk => ?_
    rw [h.length k hk]
    split
    · exact hsize.byte hk
    · rfl
  · refine hmiddle.congr fun k hk => h.kept _ (.inr ?_) (.inl ?_) ?_
    all_goals omega
  · have haddress : s.appWriter.appBase + (2 + 2 + middle.length) =
        s.appWriter.thumbSizePlaceholder := by omega
    rw [haddress] at hlast ⊢
    refine shows_stored fun k hk => ?_
    rw [h.size k hk, hvalue]
    split
    · rfl
    · rename_i hnone
      -- without a thumbnail nothing is stored, and the field says 0
      rw [hlast.byte hk, show thumb.1 = 0 by omega]
      rfl
  · refine hnext.congr fun k hk => h.kept _ (.inr ?_) (.inr ?_) ?_
    all_goals
      change k < 4 at hk
      omega

/-- The segment of a memory that shows it, with the thumbnail and the zeros behind it. -/
theorem segment_of_shows {mem : Memory} {a length t r : Nat} {offset thumblen : UInt32}
    (h : Shows mem a (e.finishedApp1Cells length offset thumblen))
    (hlength : length = e.appLength + t + r) (hlt : length < 2 ^ 16) (htwo : 2 ≤ e.appLength) :
    Segment 0xE1 (mem.bytes (a + 4) (e.appLength - 2) ++ mem.bytes (a + 2 + e.appLength) t ++
        mem.bytes (a + 2 + e.appLength + t) r)
      (mem.bytes a (2 + e.appLength + t + r)) := by
  -- only the marker and the length field are looked at here
  have hhead : ∃ rest : Cells, e.finishedApp1Cells length offset thumblen =
      stored [0xFF, 0xE1] ++ stored (be16 length) ++ rest := by
    unfold finishedApp1Cells app1Head
    simp only [List.append_assoc]
    exact ⟨_, rfl⟩
  obtain ⟨rest, hrest⟩ := hhead
  rw [hrest, shows_append, shows_append] at h
  have hmarker := Memory.bytes_stored h.1.1
  have hsize := Memory.bytes_stored h.1.2
  have hpayload : (mem.bytes (a + 4) (e.appLength - 2) ++ mem.bytes (a + 2 + e.appLength) t ++
      mem.bytes (a + 2 + e.appLength + t) r).length + jpegSegmentLenfieldSize = length := by
    rw [List.length_append, List.length_append, Memory.length_bytes, Memory.length_bytes,
      Memory.length_bytes]
    unfold jpegSegmentLenfieldSize
    omega
  refine ⟨?_, by rw [hpayload]; exact hlt⟩
  rw [hpayload, show 2 + e.appLength + t + r = 2 + 2 + (e.appLength - 2) + t + r by omega,
    Memory.bytes_add, Memory.bytes_add, Memory.bytes_add, Memory.bytes_add]
  rw [show mem.bytes a 2 = [0xFF, 0xE1] from hmarker, show mem.bytes (a + 2) 2 = be16 length from hsize,
    show a + (2 + 2) = a + 4 from rfl,
    show a + (2 + 2 + (e.appLength - 2)) = a + 2 + e.appLength by omega,
    show a + (2 + 2 + (e.appLength - 2) + t) = a + 2 + e.appLength + t by omega]
  simp only [List.append_assoc]

theorem app1Layout_of_shows {mem : Memory} {base t r : Nat} {offset thumblen : UInt32}
    {reserved : Bool} {thumb : List UInt8}
    (h : Shows mem (base + 2) (e.finishedApp1Cells (e.appLength + t + r) offset thumblen))
    (hoffset : e.enableThumb = true → offset.toNat = e.appLength - 8) (hpos : 8 ≤ e.appLength)
    (hlt : e.appLength + t + r < 2 ^ 16) (hthumblen : thumblen.toNat = t)
    (hthumb : mem.bytes (base + 2 + 2 + e.appLength) t = thumb)
    (hrest : ∀ k < r, mem (base + 2 + 2 + e.appLength + t + k) = 0)
    (hreserved : reserved = false → r = 0) (hdisabled : e.enableThumb = false → t = 0) :
    App1Layout mem base e reserved thumb (mem.bytes (base + 2) (2 + e.appLength + t + r)) := by
  have hlength : thumb.length = t := by rw [← hthumb, Memory.length_bytes]
  refine ⟨⟨_, _, hthumb ▸ segment_of_shows h rfl hlt (by omega), ?_, fun b hb => ?_, fun hno => ?_⟩,
    ?_, ?_, fun hno => ?_⟩
  · rw [Memory.length_bytes]
    unfold jpegSegmentLenfieldSize
    omega
  · obtain ⟨k, hk, rfl⟩ := List.mem_map.mp hb
    exact hrest k (List.mem_range.mp hk)
  · rw [hreserved hno]
    rfl
  · rw [hlength, ← hthumblen]
    exact readApp1_finishedApp1Cells h hoffset (by omega) hlt
  · rw [hlength, show base + 12 + (e.appLength - 8) = base + 2 + 2 + e.appLength by omega]
    exact hthumb
  · rw [← List.length_eq_zero_iff, hlength, hdisabled hno]

end

/-! ## 4. The other segments -/

theorem toNat_debugMarker {appid : Int} (h : DebugAttribute.validAppid appid) :
    (debugMarker appid).toNat = 0xE0 + appid.toNat := by
  have hcases : appid = 4 ∨ appid = 5 ∨ appid = 6 ∨ appid = 7 ∨ appid = 8 ∨ appid = 9 := by
    unfold DebugAttribute.validAppid extraAppmarkerMin extraAppmarkerLimit at h
    omega
  rcases hcases with rfl | rfl | rfl | rfl | rfl | rfl <;> decide

theorem debugSegment_of_valid {d : DebugAttribute} {i : Nat}
    (hid : DebugAttribute.validAppid (d.idx i))
    (hsize : DebugAttribute.validSize (d.debugSize (d.idx i))) (mem : Memory) (hwfc : Bool)
    (a : Nat) : DebugSegment d hwfc i (segmentBytes d i (segmentPayload mem d hwfc a i)) := by
  have hlength := length_segmentPayload mem d hwfc a i
  refine ⟨_, _, ⟨?_, ?_⟩, toNat_debugMarker hid, hlength, fun hno => ?_⟩
  · rw [hlength]
    rfl
  · have hle := hsize.2
    rw [hlength]
    unfold jpegMaxSegmentSize at hle
    unfold jpegSegmentLenfieldSize at hle ⊢
    omega
  -- without HWFC the data of the attribute are written
  · rw [hno, segmentPayload_stored]

theorem appxLayout_of_shows {mem : Memory} {a : Nat} {d : DebugAttribute} (hd : d.Accepted)
    {hwfc : Bool} (h : Shows mem a (debugCells d hwfc)) :
    AppxLayout d hwfc (mem.bytes a (debugCells d hwfc).length) := by
  -- blanks are filled with what the memory shows, that is what the camera HAL stores
  have hfill : mem.bytes a (debugCells d hwfc).length = fill mem a (debugCells d hwfc) :=
    map_of_shows h
  unfold debugCells at hfill ⊢
  rw [fill_debugCells] at hfill
  refine ⟨_, hfill, fun i hi => ?_⟩
  obtain ⟨hid, hsize⟩ := hd.2 i (List.mem_range.mpr hi)
  exact debugSegment_of_valid hid hsize mem hwfc a

theorem app11Segment_of_shows {mem : Memory} {a len : Nat} (hlen : 2 ≤ len) (hlt : len < 2 ^ 16)
    (h : Shows mem a (app11Cells len)) :
    ∃ payload, Segment 0xEB payload (mem.bytes a (app11Cells len).length) := by
  have hhead := Memory.bytes_stored (shows_append.mp h).1
  have hfour : ([0xFF, 0xEB] ++ be16 len).length = 4 := rfl
  rw [hfour] at hhead
  have hlength : (mem.bytes (a + 4) (len - 2)).length + jpegSegmentLenfieldSize = len := by
    rw [Memory.length_bytes]
    unfold jpegSegmentLenfieldSize
    omega
  refine ⟨mem.bytes (a + 4) (len - 2), ?_, by rw [hlength]; exact hlt⟩
  rw [length_app11Cells hlen, hlength, show jpegMarkerSize + len = 4 + (len - 2) by
    unfold jpegMarkerSize; omega, Memory.bytes_add, hhead]

end Universal7870.Jpeg
