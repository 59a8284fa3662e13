import Universal7870.Jpeg.AppMarkerLayout

/-!
# The layout of the header

What `Write` stores is one block of cells: the APP1 segment with the space for the thumbnail, the
debug segments and the APP11 segment that aligns the main stream.  The segments follow one another,
each behind the end that the one in front of it reports.
-/

namespace Universal7870.Jpeg

open Lib

/-! ## 1. The segments -/

/-- A debug segment; `justReserve` leaves out its data. -/
def debugSegmentCells (debug : DebugAttribute) (justReserve : Bool) (i : Nat) : Cells :=
  let appid := debug.idx i
  stored ([0xFF, 0xE0 + (UInt8.ofNat appid.toNat &&& 0xF)] ++
    be16 (debug.debugSize appid + jpegSegmentLenfieldSize)) ++
  if justReserve then blanks (debug.debugSize appid) else stored (debug.bytes appid)

def debugCells (debug : DebugAttribute) (justReserve : Bool) : Cells :=
  (List.range debug.numOfAppmarker.toNat).flatMap (debugSegmentCells debug justReserve)

theorem length_debugSegmentCells (debug : DebugAttribute) (justReserve : Bool) (i : Nat) :
    (debugSegmentCells debug justReserve i).length = 4 + debug.debugSize (debug.idx i) := by
  unfold debugSegmentCells
  rw [List.length_append, length_stored, apply_ite List.length, length_blanks, length_stored,
    debug.length_bytes, ite_self]
  rfl

/-- The sum of `CalculateAPPSize` is the space the segments take. -/
theorem length_debugCells (debug : DebugAttribute) (justReserve : Bool) :
    (debugCells debug justReserve).length = CAppMarkerWriter.debugSegmentsSize debug := by
  unfold debugCells CAppMarkerWriter.debugSegmentsSize
  rw [List.length_flatMap]
  congr 1
  apply List.map_congr_left
  intro i _
  rw [length_debugSegmentCells]
  unfold jpegMarkerSize jpegSegmentLenfieldSize
  omega

/-- The segment behind the debug segments; its data is not stored. -/
def app11Cells (len : Nat) : Cells :=
  stored ([0xFF, 0xEB] ++ be16 len) ++ blanks (len - jpegSegmentLenfieldSize)

theorem length_app11Cells {len : Nat} (h : jpegSegmentLenfieldSize ≤ len) :
    (app11Cells len).length = jpegMarkerSize + len := by
  unfold app11Cells
  rw [List.length_append, length_stored, length_blanks, List.length_append, length_be16]
  change 2 + 2 + (len - jpegSegmentLenfieldSize) = _
  unfold jpegSegmentLenfieldSize at h
  unfold jpegMarkerSize jpegSegmentLenfieldSize
  omega

theorem writeDebugSegment_eq (debug : DebugAttribute) (justReserve : Bool) (s : Nat × Overlay)
    (i : Nat) : CAppMarkerWriter.writeDebugSegment debug justReserve s i =
      (s.1 + (debugSegmentCells debug justReserve i).length,
        s.2.lay s.1 (debugSegmentCells debug justReserve i)) := by
  rw [length_debugSegmentCells, ← Nat.add_assoc]
  unfold CAppMarkerWriter.writeDebugSegment debugSegmentCells
  dsimp only
  rw [Overlay.lay_append, length_stored]
  rw [show s.1 + 2 = s.1 + [0xFF, 0xE0 + (UInt8.ofNat (debug.idx i).toNat &&& 0xF)].length from rfl,
    Overlay.put_put]
  cases justReserve with
  | true => rw [if_pos rfl, if_pos rfl, Overlay.lay_blanks]; rfl
  | false => rfl

namespace CAppMarkerWriter

variable (w : CAppMarkerWriter)

/-- What `WriteAPPX` puts down. -/
def appxCells (justReserve : Bool) : Cells :=
  match w.debug with
  | none => []
  | some debug => debugCells debug justReserve

theorem writeAppx_eq (current : Nat) (justReserve : Bool) (out : Overlay) :
    w.writeAppx current justReserve out =
      (current + (w.appxCells justReserve).length, out.lay current (w.appxCells justReserve)) := by
  unfold writeAppx appxCells
  cases w.debug with
  | none => rw [Overlay.lay_nil]; rfl
  | some debug => exact Overlay.foldl_lay _ _ (writeDebugSegment_eq debug justReserve) _ _

theorem length_appxCells (justReserve justReserve' : Bool) :
    (w.appxCells justReserve).length = (w.appxCells justReserve').length := by
  unfold appxCells
  cases w.debug with
  | none => rfl
  | some debug => rw [length_debugCells, length_debugCells]

/-- What `WriteAPP11` puts down at `current`. -/
def app11Block (current dummy align : Nat) : Cells :=
  if dummy = 0 ∧ align = 1 then []
  else if w.exif.isNone ∧ w.debug.isNone then []
  else app11Cells (app11Length current dummy align)

theorem writeApp11_eq {current dummy align : Nat}
    (h : jpegSegmentLenfieldSize ≤ app11Length current dummy align) (out : Overlay) :
    w.writeApp11 current dummy align out =
      (current + (w.app11Block current dummy align).length,
        out.lay current (w.app11Block current dummy align)) := by
  unfold writeApp11 app11Block
  split
  · rw [Overlay.lay_nil]; rfl
  · split
    · rw [Overlay.lay_nil]; rfl
    · rw [length_app11Cells h, ← Nat.add_assoc]
      unfold app11Cells
      rw [Overlay.lay_append, Overlay.lay_blanks,
        show current + 2 = current + ([0xFF, 0xEB] : List UInt8).length from rfl]
      dsimp only
      rw [Overlay.put_put]
      rfl

/-- What the encoder asks for: the space of SOI and an alignment of 16 or 1. -/
theorem app11Length_bounds (current : Nat) {align : Nat} (halign : align = 16 ∨ align = 1) :
    4 ≤ app11Length current jpegMarkerSize align ∧
      app11Length current jpegMarkerSize align ≤ 19 := by
  have hand : (current + 4) &&& (align - 1) ≤ align - 1 := Nat.and_le_right
  unfold app11Length jpegMarkerSize jpegSegmentLenfieldSize
  dsimp only
  split
  · omega
  · omega

/-- The main stream starts where it has to, its SOI in the last bytes of the segment. -/
theorem app11Length_aligned (current : Nat) :
    16 ∣ current + jpegMarkerSize + app11Length current jpegMarkerSize 16 - jpegMarkerSize := by
  have hand : (current + 4) &&& 15 = (current + 4) % 16 := Nat.and_two_pow_sub_one_eq_mod _ 4
  unfold app11Length jpegMarkerSize jpegSegmentLenfieldSize
  dsimp only
  rw [hand]
  split
  · omega
  · omega

/-- The writer is past `PrepareAppWriter`, and the attribute was not refused. -/
def Prepared : Prop :=
  ∀ e ∈ w.exif, w.Counted e ∧ (e.enableThumb = true → w.n1stIfdFields = 6)

/-- What is left for the thumbnail. -/
def thumbSpace (reserve : Bool) : Nat :=
  match w.exif with
  | none => 0
  | some e => if e.enableThumb ∧ reserve then w.maxThumbSize else 0

/-- The APP1 segment with the space for the thumbnail. -/
def app1Block (reserve : Bool) : Cells :=
  match w.exif with
  | none => []
  | some e =>
    e.app1Cells (w.szApp1 + if reserve then w.maxThumbSize else 0)
      (if e.enableThumb then w.thumbStreamOffset w.appBase else 0) ++ blanks (w.thumbSpace reserve)

theorem writeApp1_none (h : w.exif = none) (current : Nat) (reserve updating : Bool)
    (out : Overlay) : w.writeApp1 current reserve updating out = (w, current, out) := by
  unfold writeApp1
  split
  · rfl
  · rename_i hexif
    rw [h] at hexif
    cases hexif

theorem thumbSpace_some {e : ExifAttribute} (h : w.exif = some e) (reserve : Bool) :
    w.thumbSpace reserve = if e.enableThumb ∧ reserve then w.maxThumbSize else 0 := by
  unfold thumbSpace
  rw [h]

/-- The end of the segment, and what is stored in front of the space for the thumbnail. -/
theorem writeApp1_some (h : w.Prepared) {e : ExifAttribute} (hexif : w.exif = some e)
    (reserve : Bool) (out : Overlay) :
    (w.writeApp1 w.appBase reserve false out).2 =
      (ptrAdd (w.appBase + (jpegMarkerSize + e.appLength)) (w.thumbSpace reserve),
        out.lay w.appBase (e.app1Cells (w.szApp1 + if reserve then w.maxThumbSize else 0)
          (if e.enableThumb then w.thumbStreamOffset w.appBase else 0))) := by
  obtain ⟨hcounted, hn1⟩ := h e hexif
  rw [w.thumbSpace_some hexif]
  by_cases henable : e.enableThumb = true
  · rw [writeApp1_thumb hcounted henable (hn1 henable), if_pos henable]
    cases reserve with
    | true => rw [if_pos rfl, if_pos ⟨henable, rfl⟩]
    | false =>
      rw [if_neg Bool.false_ne_true,
        if_neg (fun hb : _ ∧ false = true => Bool.false_ne_true hb.2)]
  · rw [writeApp1_noThumb hcounted henable, if_neg henable,
      if_neg (fun hb : e.enableThumb = true ∧ reserve = true => henable hb.1),
      ptrAdd_of_lt (by omega)]
    rfl

theorem writeApp1_eq (h : w.Prepared) {reserve : Bool} (hroom : w.thumbSpace reserve < 2 ^ 63)
    (out : Overlay) :
    (w.writeApp1 w.appBase reserve false out).2 =
      (w.appBase + (w.app1Block reserve).length, out.lay w.appBase (w.app1Block reserve)) := by
  unfold app1Block
  cases hexif : w.exif with
  | none =>
    rw [w.writeApp1_none hexif, Overlay.lay_nil]
    rfl
  | some e =>
    dsimp only
    rw [List.length_append, length_blanks, e.length_app1Cells, Overlay.lay_append,
      Overlay.lay_blanks, w.writeApp1_some h hexif, ptrAdd_of_lt hroom, Nat.add_assoc w.appBase]

/-- Where the length of the thumbnail goes. -/
def thumbPlaceholder : Nat :=
  match w.exif with
  | none => w.thumbSizePlaceholder
  | some e =>
    if e.enableThumb then w.appBase + (jpegMarkerSize + e.appLength) - 8 else w.thumbSizePlaceholder

theorem writeApp1_writer (h : w.Prepared) (reserve : Bool) (out : Overlay) :
    (w.writeApp1 w.appBase reserve false out).1 =
      { w with thumbSizePlaceholder := w.thumbPlaceholder } := by
  rcases Option.eq_none_or_eq_some w.exif with hexif | ⟨e, hexif⟩
  · have hplace : w.thumbPlaceholder = w.thumbSizePlaceholder := by
      unfold thumbPlaceholder
      rw [hexif]
    rw [hplace, w.writeApp1_none hexif]
  · obtain ⟨hcounted, hn1⟩ := h e hexif
    have hplace : w.thumbPlaceholder =
        if e.enableThumb then w.appBase + (jpegMarkerSize + e.appLength) - 8
        else w.thumbSizePlaceholder := by
      unfold thumbPlaceholder
      rw [hexif]
    rw [hplace]
    by_cases henable : e.enableThumb = true
    · rw [writeApp1_thumb hcounted henable (hn1 henable), if_pos henable]
    · rw [writeApp1_noThumb hcounted henable, if_neg henable]

/-! ## 2. The header -/

/-- The address of the APP11 segment. -/
def app11Start (reserve reserveDebug : Bool) : Nat :=
  w.appBase + (w.app1Block reserve).length + (w.appxCells reserveDebug).length

def headerCells (reserve : Bool) (dummy align : Nat) (reserveDebug : Bool) : Cells :=
  w.app1Block reserve ++ w.appxCells reserveDebug ++
    w.app11Block (w.app11Start reserve reserveDebug) dummy align

/-- The members after `Write`. -/
def written (reserve : Bool) (dummy align : Nat) (reserveDebug : Bool) : CAppMarkerWriter :=
  { w with
    thumbSizePlaceholder := w.thumbPlaceholder
    app1End := w.appBase + (w.app1Block reserve).length
    szApp11 := (w.app11Block (w.app11Start reserve reserveDebug) dummy align).length % 2 ^ 16
    mainBase := w.appBase + (w.headerCells reserve dummy align reserveDebug).length - dummy }

theorem sizeSub_add_left (a n : Nat) : sizeSub (a + n) a = n % 2 ^ 64 := by
  unfold sizeSub
  omega

/-- What the other segments put down behind an APP1 segment that ends at `a`. -/
def behindCells (a dummy align : Nat) (reserveDebug : Bool) : Cells :=
  w.appxCells reserveDebug ++ w.app11Block (a + (w.appxCells reserveDebug).length) dummy align

/-- The members after `Write`, where the APP1 segment ends at `a`. -/
def writtenBehind (a dummy align : Nat) (reserveDebug : Bool) : CAppMarkerWriter :=
  { w with
    thumbSizePlaceholder := w.thumbPlaceholder
    app1End := a
    szApp11 := (w.app11Block (a + (w.appxCells reserveDebug).length) dummy align).length % 2 ^ 16
    mainBase := a + (w.behindCells a dummy align reserveDebug).length - dummy }

/-- Wherever the APP1 segment ends, the others follow there. -/
theorem write_behind (h : w.Prepared) {dummy align a : Nat} {reserve reserveDebug : Bool}
    {out o : Overlay} (happ1 : (w.writeApp1 w.appBase reserve false out).2 = (a, o))
    (hlen : jpegSegmentLenfieldSize ≤
      app11Length (a + (w.appxCells reserveDebug).length) dummy align) :
    w.write reserve dummy align reserveDebug out =
      (w.writtenBehind a dummy align reserveDebug,
        o.lay a (w.behindCells a dummy align reserveDebug)) := by
  have hwriter : w.writeApp1 w.appBase reserve false out =
      ({ w with thumbSizePlaceholder := w.thumbPlaceholder }, a, o) :=
    Prod.ext (w.writeApp1_writer h reserve out) happ1
  have happx : ({ w with thumbSizePlaceholder := w.thumbPlaceholder }).writeAppx a reserveDebug o =
      (a + (w.appxCells reserveDebug).length, o.lay a (w.appxCells reserveDebug)) :=
    writeAppx_eq _ _ _ _
  have happ11 := writeApp11_eq { w with thumbSizePlaceholder := w.thumbPlaceholder } hlen
    (o.lay a (w.appxCells reserveDebug))
  have hmod (n : Nat) : n % 2 ^ 64 % 2 ^ 16 = n % 2 ^ 16 := by omega
  unfold write
  rw [hwriter]
  dsimp only
  rw [happx]
  dsimp only
  rw [happ11]
  dsimp only
  rw [sizeSub_add_left, hmod]
  unfold writtenBehind behindCells
  rw [Overlay.lay_append, List.length_append, ← Nat.add_assoc]
  rfl

theorem write_eq (h : w.Prepared) {dummy align : Nat} {reserve : Bool} (reserveDebug : Bool)
    (hroom : w.thumbSpace reserve < 2 ^ 63)
    (hlen : jpegSegmentLenfieldSize ≤
      app11Length (w.app11Start reserve reserveDebug) dummy align) (out : Overlay) :
    w.write reserve dummy align reserveDebug out =
      (w.written reserve dummy align reserveDebug,
        out.lay w.appBase (w.headerCells reserve dummy align reserveDebug)) := by
  have hcells : w.headerCells reserve dummy align reserveDebug = w.app1Block reserve ++
      w.behindCells (w.appBase + (w.app1Block reserve).length) dummy align reserveDebug :=
    List.append_assoc _ _ _
  rw [w.write_behind h (w.writeApp1_eq h hroom out) hlen, hcells, Overlay.lay_append]
  unfold writtenBehind written
  rw [hcells, List.length_append, ← Nat.add_assoc]
  rfl

end CAppMarkerWriter

/-! ## 3. What is written in front of the 1st IFD -/

theorem put_of_lt {o : Overlay} {a i : Nat} (bs : List UInt8) (h : i < a) :
    o.put a bs i = o i := Overlay.lay_of_lt _ h

/-- A field that fits into the table is stored at the cursor of the table. -/
theorem write_of_lt {v : CIFDWriter} {f : IfdField} (hat : f.atValue = false) {i : Nat}
    (hi : i < v.ifd) : (v.write f).out i = v.out i ∧ i < (v.write f).ifd ∧
      (v.write f).value = v.value := by
  unfold CIFDWriter.write
  rw [if_neg (by rw [hat]; exact Bool.false_ne_true)]
  refine ⟨?_, Nat.lt_of_lt_of_le hi (Nat.le_add_right _ 12), rfl⟩
  change ((v.out.put v.ifd _).put (v.ifd + 8) _) i = _
  rw [put_of_lt _ (by omega), put_of_lt _ hi]

theorem writeAll_of_lt {v : CIFDWriter} {f : List IfdField}
    (hat : ∀ g ∈ f, g.atValue = false) {i : Nat} (hi : i < v.ifd) :
    (v.writeAll f).out i = v.out i ∧ i < (v.writeAll f).ifd ∧
      (v.writeAll f).value = v.value := by
  induction f generalizing v with
  | nil => exact ⟨rfl, hi, rfl⟩
  | cons g fs ih =>
    obtain ⟨hout, hifd, hvalue⟩ := write_of_lt (hat g List.mem_cons_self) hi
    obtain ⟨hout', hifd', hvalue'⟩ := ih (fun k hk => hat k (List.mem_cons_of_mem _ hk)) hifd
    exact ⟨hout'.trans hout, hifd', hvalue'.trans hvalue⟩

/-- However many fields were counted for the 1st IFD, it is stored from its place on. -/
theorem writeThumbIfd_of_lt (w : CAppMarkerWriter) (e : ExifAttribute) (tiff : Nat) {p i : Nat}
    (hi : i < p) (out : Overlay) :
    ((w.writeThumbIfd e tiff p out).finish true).out i = out i ∧
      i < ((w.writeThumbIfd e tiff p out).finish true).value := by
  have hnew : i < (CIFDWriter.new tiff p w.n1stIfdFields out).ifd :=
    Nat.lt_of_lt_of_le hi (Nat.le_add_right _ _)
  have hfields := writeAll_of_lt (f := e.thumbFields
    (UInt32.ofNat ((CIFDWriter.new tiff p w.n1stIfdFields out).offset w.thumbBase)))
    (by
      unfold ExifAttribute.thumbFields
      simp only [List.forall_mem_cons, List.not_mem_nil, false_implies, implies_true, and_true]
      exact ⟨rfl, rfl, rfl, rfl, rfl⟩) hnew
  have hlast := write_of_lt (f := ExifAttribute.thumbLengthField 0) rfl hfields.2.1
  unfold CAppMarkerWriter.writeThumbIfd
  constructor
  · change ((CIFDWriter.write _ _).out.put (CIFDWriter.write _ _).ifd _) i = _
    rw [put_of_lt _ hlast.2.1, hlast.1, hfields.1]
    exact put_of_lt _ hi
  · have hvalue (writer : CIFDWriter) : (writer.finish true).value = writer.value := rfl
    rw [hvalue]
    dsimp only
    rw [hlast.2.2, hfields.2.2]
    change i < p + 2 + 12 * w.n1stIfdFields + 4
    omega

open CAppMarkerWriter in
theorem writeDebugSegment_of_lt (debug : DebugAttribute) (justReserve : Bool) {s : Nat × Overlay}
    {i : Nat} (hi : i < s.1) (n : Nat) :
    (writeDebugSegment debug justReserve s n).2 i = s.2 i ∧
      i < (writeDebugSegment debug justReserve s n).1 := by
  unfold writeDebugSegment
  dsimp only
  refine ⟨?_, by omega⟩
  split
  · rw [put_of_lt _ (by omega), put_of_lt _ hi]
  · rw [put_of_lt _ (by omega), put_of_lt _ (by omega), put_of_lt _ hi]

open CAppMarkerWriter in
theorem writeAppx_of_lt (w : CAppMarkerWriter) {current i : Nat} (hi : i < current)
    (justReserve : Bool) (out : Overlay) :
    (w.writeAppx current justReserve out).2 i = out i ∧
      i < (w.writeAppx current justReserve out).1 := by
  unfold CAppMarkerWriter.writeAppx
  cases w.debug with
  | none => exact ⟨rfl, hi⟩
  | some debug =>
    dsimp only
    have hfold : ∀ (ns : List Nat) (s : Nat × Overlay), i < s.1 →
        (ns.foldl (writeDebugSegment debug justReserve) s).2 i = s.2 i ∧
          i < (ns.foldl (writeDebugSegment debug justReserve) s).1 := by
      intro ns
      induction ns with
      | nil => exact fun s hs => ⟨rfl, hs⟩
      | cons n ns ih =>
        intro s hs
        have hstep := writeDebugSegment_of_lt debug justReserve hs n
        have hrest := ih _ hstep.2
        exact ⟨hrest.1.trans hstep.1, hrest.2⟩
    exact hfold _ _ hi

theorem writeApp11_of_lt (w : CAppMarkerWriter) {current i : Nat} (hi : i < current)
    (dummy align : Nat) (out : Overlay) :
    (w.writeApp11 current dummy align out).2 i = out i := by
  unfold CAppMarkerWriter.writeApp11
  split
  · rfl
  · split
    · rfl
    · change ((out.put current _).put (current + 2) _) i = _
      rw [put_of_lt _ (by omega), put_of_lt _ hi]

namespace ExifAttribute

/-- The 0th IFD as it is written directly. -/
def directPrimary (e : ExifAttribute) : Cells :=
  e.primaryCells (stored (le32 (if e.enableThumb then e.thumbOffset else 0)))

theorem length_directPrimary (e : ExifAttribute) :
    e.directPrimary.length = 6 + 12 * e.primaryCount + e.primaryBehind.length :=
  e.length_primaryCells (by rw [length_stored, length_le32])

end ExifAttribute

open ExifAttribute in
/-- In front of the 1st IFD, `WriteAPP1` stores the head and the 0th IFD. -/
theorem writeApp1_of_lt {w : CAppMarkerWriter} {e : ExifAttribute} (h : w.Counted e)
    (current : Nat) (reserve : Bool) (out : Overlay) {i : Nat}
    (hi : i < current + 18 + e.directPrimary.length) :
    (w.writeApp1 current reserve false out).2.2 i =
      out.lay current (app1Head (stored (be16
        (w.szApp1 + if reserve then w.maxThumbSize else 0))) ++ e.directPrimary) i ∧
    ((e.enableThumb = true → reserve = true → w.maxThumbSize < 2 ^ 63) →
      i < (w.writeApp1 current reserve false out).2.1) := by
  by_cases henable : e.enableThumb = true
  · have hprimary := writePrimaryIfd_closed h (current + 10)
      (w.writeApp1Header current reserve false out) false
    have hbefore : i < ((w.writePrimaryIfd e (current + 10) (current + 10 + 8)
        (w.writeApp1Header current reserve false out)).finish false).value := by
      rw [hprimary.value_eq, if_neg Bool.false_ne_true]
      unfold directPrimary at hi
      rw [if_pos henable] at hi
      omega
    have hthumb := writeThumbIfd_of_lt w e (current + 10) hbefore
      ((w.writePrimaryIfd e (current + 10) (current + 10 + 8)
        (w.writeApp1Header current reserve false out)).finish false).out
    unfold CAppMarkerWriter.writeApp1 directPrimary
    rw [h.exif_eq]
    dsimp only
    rw [if_neg Bool.false_ne_true, if_pos henable, if_pos henable]
    refine ⟨hthumb.1.trans ?_, fun hroom => ?_⟩
    · rw [hprimary.out_eq, writeApp1Header_eq, if_neg Bool.false_ne_true,
        if_neg Bool.false_ne_true, lay_app1Head out current (length_stored _)]
    · rw [ptrAdd_of_lt]
      · exact Nat.lt_of_lt_of_le hthumb.2 (Nat.le_add_right _ _)
      · cases reserve with
        | true => exact hroom henable rfl
        | false => exact Nat.two_pow_pos 63
  · have hlength := e.length_app1Cells 0 0
    have hhead : (app1Head (stored (be16 0))).length = 18 := length_app1Head rfl
    unfold app1Cells at hlength
    unfold directPrimary at hi ⊢
    rw [if_neg henable] at hi hlength ⊢
    rw [List.length_append, hhead] at hlength
    rw [writeApp1_noThumb h henable]
    refine ⟨?_, fun _ => (by omega : i < current + (jpegMarkerSize + e.appLength))⟩
    unfold app1Cells
    rw [if_neg henable]

open ExifAttribute in
/-- `Write` stores the same there, unless the end of the segment has wrapped. -/
theorem writeHeader_of_lt {w : CAppMarkerWriter} {e : ExifAttribute} (h : w.Counted e)
    {reserve : Bool} (hroom : e.enableThumb = true → reserve = true → w.maxThumbSize < 2 ^ 63)
    (dummy align : Nat) (reserveDebug : Bool) (out : Overlay) {i : Nat}
    (hi : i < w.appBase + 18 + e.directPrimary.length) :
    (w.write reserve dummy align reserveDebug out).2 i =
      out.lay w.appBase (app1Head (stored (be16
        (w.szApp1 + if reserve then w.maxThumbSize else 0))) ++ e.directPrimary) i ∧
    i < (w.write reserve dummy align reserveDebug out).1.app1End := by
  obtain ⟨hcell, hend⟩ := writeApp1_of_lt h w.appBase reserve out hi
  have happx := writeAppx_of_lt (w.writeApp1 w.appBase reserve false out).1 (hend hroom) reserveDebug
    (w.writeApp1 w.appBase reserve false out).2.2
  unfold CAppMarkerWriter.write
  dsimp only
  rw [writeApp11_of_lt _ happx.2, happx.1]
  exact ⟨hcell, hend hroom⟩

end Universal7870.Jpeg
