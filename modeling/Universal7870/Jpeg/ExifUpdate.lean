import Universal7870.Lib.Checked
import Universal7870.Jpeg.ProcessExif

/-!
# Updating the Exif data of a finished stream

`UpdateExif` of `AppMarkerWriter.cpp` runs the writer once more over the APP1 segment of a stream.
Addresses are offsets into the stream.
-/

namespace Universal7870.Jpeg

open Lib

/-- `UpdateExif`, with what it stores.  `fresh` is what the members of the writer hold before its
constructor sets them. -/
def updateExif (fresh : CAppMarkerWriter) (jpeg : List UInt8) (exif : Option ExifAttribute) :
    Bool × Overlay :=
  match exif with
  | none => (true, Overlay.empty)
  | some e =>
    if jpeg.length < jpegMarkerSize * 2 + jpegSegmentLenfieldSize then (false, Overlay.empty)
    else if byteAt jpeg 0 ≠ 0xFF ∨ byteAt jpeg 1 ≠ 0xD8 then (false, Overlay.empty)
    else if byteAt jpeg 2 ≠ 0xFF ∨ byteAt jpeg 3 ≠ 0xE1 then (false, Overlay.empty)
    else if jpeg.length < be16At jpeg 4 then (false, Overlay.empty)
    else
      let writer := fresh.prepareAppWriter 2 (some e) none
      (true, (writer.writeApp1 writer.appBase false true Overlay.empty).2.2)

/-- The stream passes the checks of `UpdateExif`. -/
structure Updatable (jpeg : List UInt8) : Prop where
  long : 6 ≤ jpeg.length
  soi : byteAt jpeg 0 = 0xFF ∧ byteAt jpeg 1 = 0xD8
  app1 : byteAt jpeg 2 = 0xFF ∧ byteAt jpeg 3 = 0xE1
  segment : be16At jpeg 4 ≤ jpeg.length

/-! ## 1. What is stored -/

theorem updateExif_of_updatable (fresh : CAppMarkerWriter) {jpeg : List UInt8}
    (h : Updatable jpeg) (e : ExifAttribute) :
    updateExif fresh jpeg (some e) = (true, Overlay.empty.lay 2 e.updateCells) := by
  have hlong := h.long
  have hsegment := h.segment
  unfold updateExif
  dsimp only
  rw [if_neg (by change ¬jpeg.length < 6; omega), if_neg (by simp [h.soi.1, h.soi.2]),
    if_neg (by simp [h.app1.1, h.app1.2]), if_neg (by omega), appBase_prepareAppWriter,
    writeApp1_update (counted_prepareAppWriter fresh 2 e none)]

theorem updateExif_of_not_updatable (fresh : CAppMarkerWriter) {jpeg : List UInt8}
    (h : ¬Updatable jpeg) (e : ExifAttribute) :
    updateExif fresh jpeg (some e) = (false, Overlay.empty) := by
  unfold updateExif
  dsimp only
  split
  · rfl
  · rename_i hlong
    split
    · rfl
    · rename_i hsoi
      split
      · rfl
      · rename_i happ1
        split
        · rfl
        · rename_i hsegment
          rw [not_or, not_not, not_not] at hsoi happ1
          exact absurd ⟨Nat.not_lt.mp hlong, hsoi, happ1, Nat.not_lt.mp hsegment⟩ h

/-! ## 2. The frame -/

/-- Behind the length field of the APP1 segment and in front of its end. -/
def InApp1Payload (jpeg : List UInt8) (i : Nat) : Prop :=
  6 ≤ i ∧ i < 4 + be16At jpeg 4 ∧ i < jpeg.length

/-- A call that returns `false` stores nothing, and one that returns `true` stores into the payload
of the APP1 segment; the marker of the segment it stores as it stands. -/
def KeepsFrame (jpeg : List UInt8) (r : Bool × Overlay) : Prop :=
  (r.1 = false → ∀ i, r.2 i = none) ∧
    ∀ i b, r.2 i = some b → InApp1Payload jpeg i ∨ ((i = 2 ∨ i = 3) ∧ byteAt jpeg i = b)

/-- The last cell of a directory without pointers is stored. -/
theorem leafIfd_ends (off : Nat) (fields : List IfdField) :
    ∃ front bs, leafIfd off fields = front ++ stored bs ∧ bs ≠ [] := by
  refine ⟨stored (le16 fields.length) ++ table (behindTable off fields.length) fields,
    le32 0 ++ values fields, ?_, ?_⟩
  · unfold leafIfd ifdCells
    rw [stored_append, ← List.append_assoc]
  · exact List.append_ne_nil_of_left_ne_nil (List.cons_ne_nil _ _) _

theorem append_ends {xs cells : Cells} (h : ∃ front bs, cells = front ++ stored bs ∧ bs ≠ []) :
    ∃ front bs, xs ++ cells = front ++ stored bs ∧ bs ≠ [] := by
  obtain ⟨front, bs, rfl, hne⟩ := h
  exact ⟨xs ++ front, bs, (List.append_assoc _ _ _).symm, hne⟩

/-- So is the last one of an update. -/
theorem updateCells_ends (e : ExifAttribute) :
    ∃ front bs, e.updateCells = front ++ stored bs ∧ bs ≠ [] := by
  unfold ExifAttribute.updateCells ExifAttribute.primaryCells ifdCells ExifAttribute.primaryBehind
  apply append_ends
  apply append_ends
  by_cases hgps : e.enableGps = true
  · rw [if_pos hgps]
    exact append_ends (leafIfd_ends _ _)
  · rw [if_neg hgps, List.append_nil]
    unfold ExifAttribute.exifIfdCells ifdCells
    apply append_ends
    apply append_ends
    apply append_ends
    exact leafIfd_ends _ _

theorem last_updateCells (e : ExifAttribute) :
    ∃ b, cellAt 2 e.updateCells (3 + e.appLengthNoThumb) = some b := by
  have hlength := e.length_updateCells
  obtain ⟨front, bs, hcells, hne⟩ := updateCells_ends e
  have hpos : 0 < bs.length := List.length_pos_of_ne_nil hne
  rw [hcells, List.length_append, length_stored] at hlength
  unfold jpegMarkerSize at hlength
  rw [hcells, cellAt_append, cellAt_stored (by omega) (by omega)]
  exact ⟨_, rfl⟩

/-- The marker in front of an update. -/
theorem cellAt_updateCells_marker (e : ExifAttribute) {i : Nat} (hi : i < 4) {b : UInt8}
    (hb : cellAt 2 e.updateCells i = some b) : i = 2 ∧ b = 0xFF ∨ i = 3 ∧ b = 0xE1 := by
  unfold ExifAttribute.updateCells ExifAttribute.app1Head at hb
  rw [List.append_assoc, List.append_assoc, cellAt_append,
    cellAt_of_lt _ (by rw [length_stored]; exact hi), Option.none_or] at hb
  match i, hi with
  | 0, _ => cases hb
  | 1, _ => cases hb
  | 2, _ => exact Or.inl ⟨rfl, (Option.some.inj hb).symm⟩
  | 3, _ => exact Or.inr ⟨rfl, (Option.some.inj hb).symm⟩

/-- Its length field is left as it is. -/
theorem cellAt_updateCells_length (e : ExifAttribute) {i : Nat} (hlo : 4 ≤ i) (hhi : i < 6) :
    cellAt 2 e.updateCells i = none := by
  unfold ExifAttribute.updateCells ExifAttribute.app1Head
  rw [List.append_assoc, List.append_assoc, cellAt_append,
    cellAt_of_ge (c := stored [0xFF, 0xE1]) (by rw [length_stored]; exact hlo), Option.or_none,
    cellAt_append, cellAt_of_lt _ (by rw [length_stored, length_blanks]; exact hhi),
    Option.none_or, cellAt_blanks]

/-- The last byte that is stored has to be in the payload. -/
theorem fits_of_keepsFrame {fresh : CAppMarkerWriter} {jpeg : List UInt8} {e : ExifAttribute}
    (hup : Updatable jpeg) (hframe : KeepsFrame jpeg (updateExif fresh jpeg (some e))) :
    e.appLengthNoThumb ≤ be16At jpeg 4 ∧ 4 + e.appLengthNoThumb ≤ jpeg.length := by
  obtain ⟨b, hb⟩ := last_updateCells e
  rw [updateExif_of_updatable fresh hup] at hframe
  have hstored : Overlay.empty.lay 2 e.updateCells (3 + e.appLengthNoThumb) = some b := by
    rw [Overlay.lay_apply, hb]
    rfl
  have hsize : 2 < e.appLengthNoThumb := by
    unfold ExifAttribute.appLengthNoThumb jpegSegmentLenfieldSize
    change 2 < 2 + 6 + 8 + _ + _ + _
    omega
  rcases hframe.2 _ _ hstored with hin | ⟨hmarker, -⟩
  · unfold InApp1Payload at hin
    omega
  · omega

theorem updateExif_keepsFrame_iff (fresh : CAppMarkerWriter) (jpeg : List UInt8)
    (exif : Option ExifAttribute) :
    KeepsFrame jpeg (updateExif fresh jpeg exif) ↔
      ∀ e ∈ exif, Updatable jpeg →
        e.appLengthNoThumb ≤ be16At jpeg 4 ∧ 4 + e.appLengthNoThumb ≤ jpeg.length := by
  cases exif with
  | none =>
    refine iff_of_true ⟨fun _ _ => rfl, fun i b hb => ?_⟩ (fun e he => ?_)
    · cases hb
    · cases he
  | some e =>
    by_cases hup : Updatable jpeg
    · have hlength := e.length_updateCells
      unfold jpegMarkerSize at hlength
      have hsome : (∀ e' ∈ some e, Updatable jpeg →
          e'.appLengthNoThumb ≤ be16At jpeg 4 ∧ 4 + e'.appLengthNoThumb ≤ jpeg.length) ↔
          e.appLengthNoThumb ≤ be16At jpeg 4 ∧ 4 + e.appLengthNoThumb ≤ jpeg.length := by
        simp [hup]
      rw [hsome]
      constructor
      · exact fits_of_keepsFrame hup
      · rintro ⟨hfits, hinside⟩
        rw [updateExif_of_updatable fresh hup]
        refine ⟨fun h => (by cases h), fun i b hb => ?_⟩
        change (cellAt 2 e.updateCells i).or none = some b at hb
        rw [Option.or_none] at hb
        by_cases hi : i < 4
        · rcases cellAt_updateCells_marker e hi hb with ⟨rfl, rfl⟩ | ⟨rfl, rfl⟩
          · exact Or.inr ⟨Or.inl rfl, hup.app1.1⟩
          · exact Or.inr ⟨Or.inr rfl, hup.app1.2⟩
        · have hhigh : i < 2 + e.updateCells.length := by
            by_contra hge
            rw [cellAt_of_ge (Nat.not_lt.mp hge)] at hb
            cases hb
          have hlow : 6 ≤ i := by
            by_contra hlt
            rw [cellAt_updateCells_length e (by omega) (by omega)] at hb
            cases hb
          exact Or.inl ⟨hlow, by omega, by omega⟩
    · rw [updateExif_of_not_updatable fresh hup]
      refine iff_of_true ⟨fun _ _ => rfl, fun i b hb => ?_⟩ (fun e' _ hup' => absurd hup' hup)
      cases hb

/-- A stream whose APP1 segment holds the Exif identifier and nothing else. -/
def emptyApp1Stream : List UInt8 :=
  [0xFF, 0xD8, 0xFF, 0xE1, 0, 8, 0x45, 0x78, 0x69, 0x66, 0, 0, 0xFF, 0xD9]

/-- The update goes on behind the segment, and behind the stream. -/
theorem updateExif_leaves_segment : ¬∀ (fresh : CAppMarkerWriter) (jpeg : List UInt8)
    (exif : Option ExifAttribute), KeepsFrame jpeg (updateExif fresh jpeg exif) := by
  intro hall
  have hup : Updatable emptyApp1Stream := ⟨by decide, by decide, by decide, by decide⟩
  have hframe := hall ⟨0, 0, 0, 0, 0, 0, 0, 0, 0, none, none, 0, 0, 0, 0, 0, 0, 0⟩ emptyApp1Stream
    (some (bareExif false false))
  exact absurd (fits_of_keepsFrame hup hframe).1 (by decide)

/-! ## 3. Updating and writing directly -/

/-- Which cells of a block are stored. -/
def shape (cells : Cells) : List Bool := cells.map Option.isSome

theorem shape_append (xs ys : Cells) : shape (xs ++ ys) = shape xs ++ shape ys := List.map_append

theorem shape_stored (bs : List UInt8) : shape (stored bs) = List.replicate bs.length true := by
  unfold shape stored
  rw [List.map_map, ← List.map_const']
  rfl

theorem shape_blanks (n : Nat) : shape (blanks n) = List.replicate n false := by
  unfold shape blanks
  rw [List.map_replicate]
  rfl

theorem length_eq_of_shape {xs ys : Cells} (h : shape xs = shape ys) : xs.length = ys.length := by
  have hlength := congrArg List.length h
  unfold shape at hlength
  rw [List.length_map, List.length_map] at hlength
  exact hlength

theorem shape_subIfdEntry (tag off : Nat) :
    shape (subIfdEntry tag off) = List.replicate 12 true := by
  unfold subIfdEntry
  rw [shape_stored, List.length_append, List.length_append, List.length_append]
  rfl

/-- What the layout of a field depends on. -/
def fieldShape (f : IfdField) : Bool × Nat := (f.atValue, f.data.length)

theorem length_behind (f : IfdField) :
    f.behind.length = if (fieldShape f).1 then (fieldShape f).2 else 0 := by
  unfold IfdField.behind fieldShape
  split <;> rfl

theorem shape_entry (off : Nat) (f : IfdField) : shape (f.entry off) =
    List.replicate 8 true ++ if (fieldShape f).1 then List.replicate 4 true else
      List.replicate (fieldShape f).2 true ++ List.replicate (4 - (fieldShape f).2) false := by
  unfold IfdField.entry fieldShape
  rw [shape_append, shape_stored]
  dsimp only
  split
  · rw [shape_stored]
    rfl
  · rw [shape_append, shape_stored, shape_blanks]
    rfl

theorem shape_table {fs gs : List IfdField} (h : fs.map fieldShape = gs.map fieldShape)
    (off off' : Nat) : shape (table off fs) = shape (table off' gs) := by
  induction fs generalizing gs off off' with
  | nil =>
    cases gs with
    | nil => rfl
    | cons g gs => cases h
  | cons f fs ih =>
    cases gs with
    | nil => cases h
    | cons g gs =>
      obtain ⟨hfirst, hrest⟩ := List.cons.inj h
      unfold table
      rw [shape_append, shape_append, shape_entry, shape_entry, hfirst, ih hrest]

theorem length_values_of_shape {fs gs : List IfdField}
    (h : fs.map fieldShape = gs.map fieldShape) : (values fs).length = (values gs).length := by
  induction fs generalizing gs with
  | nil =>
    cases gs with
    | nil => rfl
    | cons g gs => cases h
  | cons f fs ih =>
    cases gs with
    | nil => cases h
    | cons g gs =>
      obtain ⟨hfirst, hrest⟩ := List.cons.inj h
      rw [length_values_cons, length_values_cons, length_behind, length_behind, hfirst, ih hrest]

theorem shape_leafIfd {fs gs : List IfdField} (h : fs.map fieldShape = gs.map fieldShape)
    (off off' : Nat) : shape (leafIfd off fs) = shape (leafIfd off' gs) := by
  have hlength : fs.length = gs.length := by
    have hmap := congrArg List.length h
    rw [List.length_map, List.length_map] at hmap
    exact hmap
  unfold leafIfd ifdCells
  simp only [shape_append, shape_stored, length_le16, length_le32]
  rw [shape_table h, length_values_of_shape h]

namespace ExifAttribute

/-- Two attributes with the same string lengths, the same sizes and the same optional parts. -/
structure SameLayout (a b : ExifAttribute) : Prop where
  maker : a.maker.strlen = b.maker.strlen
  model : a.model.strlen = b.model.strlen
  software : a.software.strlen = b.software.strlen
  uniqueId : a.uniqueId.strlen = b.uniqueId.strlen
  makerNote : a.makerNote.size = b.makerNote.size
  userComment : a.userComment.size = b.userComment.size
  gpsProcessingMethod : a.gpsProcessingMethod.strlen = b.gpsProcessingMethod.strlen
  enableGps : a.enableGps = b.enableGps
  enableThumb : a.enableThumb = b.enableThumb

variable {a b : ExifAttribute}

theorem fieldShape_writeAscii {size : Nat} (tag : Nat) (s : CString size) :
    fieldShape (IfdField.writeAscii tag (s.strlen + 1) s.chars) =
      (decide (ifdValoffSize < s.strlen + 1), s.strlen + 1) := by
  unfold fieldShape IfdField.writeAscii CString.strlen
  dsimp only
  rw [Nat.add_sub_cancel, List.take_length,
    List.take_of_length_le (by rw [List.length_append]; rfl), List.length_append]
  rfl

theorem fieldShape_writeCString (tag : Nat) {count : Nat} (string : List UInt8) :
    fieldShape (IfdField.writeCString tag count string) =
      (decide (ifdValoffSize < count), count) := by
  unfold fieldShape IfdField.writeCString
  dsimp only
  rw [List.length_take, List.length_append, List.length_replicate]
  congr 1
  omega

theorem fieldShape_writeUndef (tag : Nat) (value : List UInt8) :
    fieldShape (IfdField.writeUndef tag value) =
      (decide (ifdValoffSize < value.length), value.length) := rfl

/-- Fields of a fixed size. -/
theorem fieldShape_writeShort (tag : Nat) (v : UInt16) :
    fieldShape (IfdField.writeShort tag [v]) = (false, 2) := rfl

theorem fieldShape_writeLong (tag : Nat) (v : UInt32) :
    fieldShape (IfdField.writeLong tag [v]) = (false, 4) := rfl

theorem fieldShape_writeRational (tag : Nat) (value : List RationalT) :
    fieldShape (IfdField.writeRational tag value) = (true, 8 * value.length) := by
  rw [← IfdField.length_behind_writeRational tag value]
  rfl

theorem fieldShape_writeSRational (tag : Nat) (value : List SRationalT) :
    fieldShape (IfdField.writeSRational tag value) = (true, 8 * value.length) := by
  rw [← IfdField.length_behind_writeSRational tag value]
  rfl

theorem fieldShape_writeByte (tag : Nat) (value : List UInt8) :
    fieldShape (IfdField.writeByte tag value) =
      (decide (ifdValoffSize < value.length), value.length) := rfl

/-- A reference of two characters. -/
theorem fieldShape_reference (tag : Nat) (ref : Vector UInt8 2) :
    fieldShape (IfdField.writeAscii tag 2 ref.toList) = (false, 2) := by
  unfold fieldShape IfdField.writeAscii
  dsimp only
  rw [List.length_take, List.length_append, List.length_take, Vector.length_toList]
  rfl

theorem SameLayout.headFields (h : SameLayout a b) :
    a.headFields.map fieldShape = b.headFields.map fieldShape := by
  unfold ExifAttribute.headFields primaryFields
  simp only [List.map_append, List.map_cons, List.map_nil, apply_ite (List.map fieldShape),
    fieldShape_writeAscii, fieldShape_writeCString, fieldShape_writeShort,
    fieldShape_writeRational, List.length_singleton]
  rw [h.maker, h.model, h.software]

theorem SameLayout.exifFields (h : SameLayout a b) :
    (a.exifFields a.uniqueId.strlen).map fieldShape =
      (b.exifFields b.uniqueId.strlen).map fieldShape := by
  have hnote : a.makerNote.bytes.length = b.makerNote.bytes.length := h.makerNote
  have hcomment : a.userComment.bytes.length = b.userComment.bytes.length := h.userComment
  unfold ExifAttribute.exifFields
  simp only [List.map_append, List.map_cons, List.map_nil, apply_ite (List.map fieldShape),
    fieldShape_writeAscii, fieldShape_writeCString, fieldShape_writeShort, fieldShape_writeLong,
    fieldShape_writeRational, fieldShape_writeSRational, fieldShape_writeUndef,
    List.length_singleton, Vector.length_toList]
  rw [h.uniqueId, h.makerNote, h.userComment, hnote, hcomment]

theorem SameLayout.interopFields (a b : ExifAttribute) :
    a.interopFields.map fieldShape = b.interopFields.map fieldShape := by
  have hindex (e : ExifAttribute) : e.interopFields.map fieldShape = [(false, 4), (false, 4)] := by
    unfold ExifAttribute.interopFields
    split <;> rfl
  rw [hindex, hindex]

theorem SameLayout.gpsFields (h : SameLayout a b) :
    a.gpsFields.map fieldShape = b.gpsFields.map fieldShape := by
  have hlength : a.gpsMethodLength = b.gpsMethodLength := by
    unfold gpsMethodLength
    rw [h.gpsProcessingMethod]
  unfold ExifAttribute.gpsFields
  simp only [List.map_append, List.map_cons, List.map_nil, apply_ite (List.map fieldShape),
    fieldShape_writeCString, fieldShape_writeByte, fieldShape_reference, fieldShape_writeRational,
    fieldShape_writeUndef, length_gpsMethodBytes, List.length_singleton, Vector.length_toList]
  rw [h.gpsProcessingMethod, hlength]

theorem SameLayout.exifIfdCells (h : SameLayout a b) (off off' : Nat) :
    shape (a.exifIfdCells off) = shape (b.exifIfdCells off') := by
  have hmap := congrArg List.length h.exifFields
  rw [List.length_map, List.length_map] at hmap
  unfold ExifAttribute.exifIfdCells ifdCells
  simp only [shape_append, shape_stored, shape_subIfdEntry, length_le16, length_le32]
  rw [shape_table h.exifFields _ (behindTable off' (b.exifFields b.uniqueId.strlen).length.succ),
    length_values_of_shape h.exifFields,
    shape_leafIfd (interopFields a b) _ (b.interopOffset off')]

theorem SameLayout.primaryCount (h : SameLayout a b) : a.primaryCount = b.primaryCount := by
  have hmap := congrArg List.length h.headFields
  rw [List.length_map, List.length_map] at hmap
  unfold ExifAttribute.primaryCount
  rw [hmap, h.enableGps]

theorem SameLayout.primaryTable (h : SameLayout a b) :
    shape a.primaryTable = shape b.primaryTable := by
  unfold ExifAttribute.primaryTable
  rw [shape_append, shape_append, shape_append, shape_append, h.enableGps,
    shape_table h.headFields _ (behindTable 8 b.primaryCount), shape_subIfdEntry,
    shape_subIfdEntry]
  split
  · rw [shape_subIfdEntry, shape_subIfdEntry]
  · rfl

theorem SameLayout.primaryBehind (h : SameLayout a b) :
    shape a.primaryBehind = shape b.primaryBehind := by
  unfold ExifAttribute.primaryBehind
  rw [shape_append, shape_append, shape_append, shape_append, h.enableGps, shape_stored,
    shape_stored, length_values_of_shape h.headFields,
    h.exifIfdCells a.exifOffset b.exifOffset]
  split
  · rw [shape_leafIfd h.gpsFields a.gpsOffset b.gpsOffset]
  · rfl

theorem SameLayout.thumbOffset (h : SameLayout a b) : a.thumbOffset = b.thumbOffset := by
  unfold ExifAttribute.thumbOffset
  rw [h.primaryCount, length_eq_of_shape h.primaryBehind]

theorem SameLayout.appLengthNoThumb (h : SameLayout a b) :
    a.appLengthNoThumb = b.appLengthNoThumb := by
  have ha := length_primary a
  have hb := length_primary b
  rw [h.primaryCount, length_eq_of_shape h.primaryBehind] at ha
  unfold ExifAttribute.appLengthNoThumb
  omega

end ExifAttribute

/-! ## 4. Direct writes -/

/-- A call of `Write` on a new attribute, as far as the stores behind SOI are concerned: `base` is
the address of the buffer. -/
structure DirectWrite where
  writer : CAppMarkerWriter
  base : Nat
  debug : Option DebugAttribute
  reserveThumbnailSpace : Bool
  dummy : Nat
  align : Nat
  reserveDebug : Bool

/-- What the buffer holds at the offset `i` after the attribute `e` has been written into it, where
it held `buffer` before. -/
def DirectWrite.byteAt (d : DirectWrite) (buffer : Nat → UInt8) (e : ExifAttribute) (i : Nat) :
    UInt8 :=
  ((d.writer.prepareAppWriter (d.base + 2) (some e) d.debug).write d.reserveThumbnailSpace d.dummy
    d.align d.reserveDebug Overlay.empty).2.onto buffer (d.base + i)

/-- What `WriteAPPX` and `WriteAPP11` store behind the end that `WriteAPP1` returns. -/
def DirectWrite.behind (d : DirectWrite) (e : ExifAttribute) : Overlay :=
  let w := d.writer.prepareAppWriter (d.base + 2) (some e) d.debug
  let app1 := w.writeApp1 w.appBase d.reserveThumbnailSpace false Overlay.empty
  let appx := app1.1.writeAppx app1.2.1 d.reserveDebug Overlay.empty
  (app1.1.writeApp11 appx.1 d.dummy d.align appx.2).2

/-- A finished stream that was written with the attribute `e`: it starts with SOI, its APP1 segment
is not longer than the stream, and up to the 1st IFD that segment is as `d` has written it.  The
length, the thumbnail and its tags, the other segments and the image data may be anything. -/
structure DirectWrite.Wrote (d : DirectWrite) (buffer : Nat → UInt8) (e : ExifAttribute)
    (jpeg : List UInt8) : Prop where
  long : 4 + e.appLengthNoThumb ≤ jpeg.length
  soi : Lib.byteAt jpeg 0 = 0xFF ∧ Lib.byteAt jpeg 1 = 0xD8
  segment : be16At jpeg 4 ≤ jpeg.length
  app1 : ∀ i, 2 ≤ i → i ≠ 4 → i ≠ 5 → i < 4 + e.appLengthNoThumb →
    Lib.byteAt jpeg i = d.byteAt buffer e i

/-- The bytes of the stream after an update. -/
def updated (fresh : CAppMarkerWriter) (jpeg : List UInt8) (e : ExifAttribute) : Nat → UInt8 :=
  (updateExif fresh jpeg (some e)).2.onto (byteAt jpeg)

section

variable {a b : ExifAttribute}

end

/-- The stream of a direct write up to the 1st IFD. -/
def DirectWrite.stream (d : DirectWrite) (buffer : Nat → UInt8) (e : ExifAttribute) : List UInt8 :=
  0xFF :: 0xD8 :: (List.range (2 + e.appLengthNoThumb)).map fun k => d.byteAt buffer e (2 + k)

end Universal7870.Jpeg
