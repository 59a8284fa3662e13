import Universal7870.Jpeg.HeaderLayout

/-!
# The header of the camera encoder

`ProcessExif` of `ExynosJpegEncoderForCamera.cpp` checks the length of the buffer and writes the
header into it.  The address of the buffer is a number, and so are those that the writer keeps.
-/

namespace Universal7870.Jpeg

open Lib

/-- `NECESSARY_JPEG_LENGTH` -/
def necessaryJpegLength : Nat := 0x24B + 2 * jpegMarkerSize

/-- The members of the encoder that `ProcessExif` reads. -/
structure CameraEncoder where
  width : UInt32
  height : UInt32
  thumbWidth : UInt32
  thumbHeight : UInt32
  /-- `V4L2_CAP_EXYNOS_JPEG_NO_STREAMBASE_ALIGN` -/
  noStreambaseAlign : Bool
  /-- `STATE_HWFC_ENABLED` -/
  hwfcEnabled : Bool
  appWriter : CAppMarkerWriter

namespace CameraEncoder

variable (s : CameraEncoder)

/-- The sizes in the attribute are those of the encoder. -/
def Consistent (exif : Option ExifAttribute) : Prop :=
  ∀ e ∈ exif, (e.width = s.width ∧ e.height = s.height) ∧
    (e.enableThumb = true → e.widthThumb = s.thumbWidth ∧ e.heightThumb = s.thumbHeight)

instance (exif : Option ExifAttribute) : Decidable (s.Consistent exif) :=
  match exif with
  | none => isTrue (fun _ he => nomatch he)
  | some e =>
    decidable_of_iff ((e.width = s.width ∧ e.height = s.height) ∧
        (e.enableThumb = true → e.widthThumb = s.thumbWidth ∧ e.heightThumb = s.thumbHeight))
      ⟨fun h _ he => Option.some.inj he ▸ h, fun h => h e rfl⟩

def align : Nat := if s.noStreambaseAlign then 1 else 16

/-- `reserve_thumbspace` -/
def reserveThumbspace (limit : Nat) (exif : Option ExifAttribute) : Bool :=
  match exif with
  | none => false
  | some e => e.enableThumb && !decide (limit < jpegMaxSegmentSize * 10)

/-- The writer behind `PrepareAppWriter`. -/
def prepared (base : Nat) (exif : Option ExifAttribute) (debug : Option DebugAttribute) :
    CAppMarkerWriter :=
  s.appWriter.prepareAppWriter (base + jpegMarkerSize) exif debug

/-- `ProcessExif`: its result, the writer it leaves and what it stores. -/
def processExif (base limit : Nat) (exif : Option ExifAttribute) (debug : Option DebugAttribute) :
    Bool × CAppMarkerWriter × Overlay :=
  if ¬s.Consistent exif then (false, s.appWriter, Overlay.empty)
  else if limit ≤ ((s.prepared base exif debug).calculateAppSize 0 + necessaryJpegLength) % 2 ^ 64
  then (false, s.prepared base exif debug, Overlay.empty)
  else (true, (s.prepared base exif debug).write (reserveThumbspace limit exif) jpegMarkerSize
    s.align s.hwfcEnabled Overlay.empty)

end CameraEncoder

/-! ## 1. The writers an encoder can have -/

namespace CAppMarkerWriter

/-- The constructor; the members it does not set are those of `fresh`. -/
def construct (fresh : CAppMarkerWriter) : CAppMarkerWriter :=
  { fresh.init 0 none with debug := none, szApp11 := fresh.szApp11 % 2 ^ 16 }

/-- What the calls of the public methods lead to. -/
inductive Reached : CAppMarkerWriter → Prop
  | construct (fresh : CAppMarkerWriter) : Reached (construct fresh)
  | prepareAppWriter {w : CAppMarkerWriter} (h : Reached w) (base : Nat)
      (exif : Option ExifAttribute) (debug : Option DebugAttribute) :
      Reached (w.prepareAppWriter base exif debug)
  | write {w : CAppMarkerWriter} (h : Reached w) (reserve : Bool) (dummy align : Nat)
      (reserveDebug : Bool) (out : Overlay) :
      Reached (w.write reserve dummy align reserveDebug out).1
  | finalize {w : CAppMarkerWriter} (h : Reached w) (thumbsize : Nat) (out : Overlay) :
      Reached (w.finalize thumbsize out).1

/-- The debug attribute a writer keeps has been accepted, now or in an earlier call. -/
structure Sound (w : CAppMarkerWriter) : Prop where
  accepted : ∀ d ∈ w.debug, d.Accepted
  szApp11_lt : w.szApp11 < 2 ^ 16

variable {w : CAppMarkerWriter}

theorem Sound.prepareDebug (h : w.Sound) (debug : Option DebugAttribute) :
    (w.prepareDebug debug).Sound := by
  unfold CAppMarkerWriter.prepareDebug
  cases debug with
  | none => exact ⟨fun _ hd => (nomatch hd), h.szApp11_lt⟩
  | some d =>
    dsimp only
    split
    · rename_i haccepted
      exact ⟨fun d' hd' => Option.some.inj hd' ▸ haccepted, h.szApp11_lt⟩
    · exact h

theorem Sound.measureApp1 (h : w.Sound) (e : ExifAttribute) : (w.measureApp1 e).Sound := by
  unfold CAppMarkerWriter.measureApp1
  split
  · exact ⟨h.accepted, h.szApp11_lt⟩
  · exact ⟨h.accepted, h.szApp11_lt⟩

theorem Sound.prepareAppWriter (h : w.Sound) (base : Nat) (exif : Option ExifAttribute)
    (debug : Option DebugAttribute) : (w.prepareAppWriter base exif debug).Sound := by
  have hinit : (w.init base exif).Sound := ⟨h.accepted, h.szApp11_lt⟩
  unfold CAppMarkerWriter.prepareAppWriter
  cases exif with
  | none => exact hinit.prepareDebug debug
  | some e =>
    have hcount : ((w.init base (some e)).countFields e).Sound := ⟨h.accepted, h.szApp11_lt⟩
    dsimp only
    split
    · exact hcount
    · exact (hcount.measureApp1 e).prepareDebug debug

theorem debug_writeApp1 (w : CAppMarkerWriter) (current : Nat) (reserve updating : Bool)
    (out : Overlay) : (w.writeApp1 current reserve updating out).1.debug = w.debug := by
  unfold writeApp1
  cases w.exif with
  | none => rfl
  | some e =>
    dsimp only
    split
    · rfl
    · split <;> rfl

theorem Sound.write (h : w.Sound) (reserve : Bool) (dummy align : Nat) (reserveDebug : Bool)
    (out : Overlay) : (w.write reserve dummy align reserveDebug out).1.Sound where
  accepted d hd := by
    have hdebug := debug_writeApp1 w w.appBase reserve false out
    exact h.accepted d (hdebug ▸ hd)
  szApp11_lt := Nat.mod_lt _ (by decide)

theorem Sound.finalize (h : w.Sound) (thumbsize : Nat) (out : Overlay) :
    (w.finalize thumbsize out).1.Sound := by
  unfold CAppMarkerWriter.finalize
  split
  · exact ⟨h.accepted, h.szApp11_lt⟩
  · exact h

theorem Reached.sound (h : w.Reached) : w.Sound := by
  induction h with
  | construct fresh => exact ⟨fun _ hd => (nomatch hd), Nat.mod_lt _ (by decide)⟩
  | prepareAppWriter _ base exif debug ih => exact ih.prepareAppWriter base exif debug
  | write _ reserve dummy align reserveDebug out ih =>
    exact ih.write reserve dummy align reserveDebug out
  | finalize _ thumbsize out ih => exact ih.finalize thumbsize out

end CAppMarkerWriter

/-! ## 2. Lengths in the header -/

/-- The two bytes at the address `a` are stored and hold the number `n`. -/
def LengthField (out : Overlay) (a n : Nat) : Prop :=
  ∃ high low : UInt8, out a = some high ∧ out (a + 1) = some low ∧ high.toNat * 256 + low.toNat = n

/-- The cells hold the number `n` at the offset `k`. -/
def HasField (cells : Cells) (k n : Nat) : Prop :=
  ∃ front back, cells = front ++ stored (be16 n) ++ back ∧ front.length = k

theorem HasField.append_left {cells : Cells} {k n : Nat} (h : HasField cells k n) (xs : Cells) :
    HasField (xs ++ cells) (xs.length + k) n := by
  obtain ⟨front, back, rfl, rfl⟩ := h
  exact ⟨xs ++ front, back, by simp only [List.append_assoc], List.length_append⟩

theorem HasField.append_right {cells : Cells} {k n : Nat} (h : HasField cells k n) (ys : Cells) :
    HasField (cells ++ ys) k n := by
  obtain ⟨front, back, rfl, hk⟩ := h
  exact ⟨front, back ++ ys, by simp only [List.append_assoc], hk⟩

theorem be16_value {n : Nat} (h : n < 2 ^ 16) :
    (UInt8.ofNat (n / 2 ^ 8)).toNat * 256 + (UInt8.ofNat n).toNat = n := by
  rw [UInt8.toNat_ofNat', UInt8.toNat_ofNat']
  omega

theorem HasField.lengthField {cells : Cells} {k n : Nat} (h : HasField cells k n) (hn : n < 2 ^ 16)
    (a : Nat) : LengthField (Overlay.empty.lay a cells) (a + k) n := by
  obtain ⟨front, back, rfl, rfl⟩ := h
  refine ⟨UInt8.ofNat (n / 2 ^ 8), UInt8.ofNat n, ?_, ?_, be16_value hn⟩
  · rw [Overlay.lay_apply, cellAt_add, List.append_assoc, List.getElem?_append_right (Nat.le_refl _),
      Nat.sub_self]
    rfl
  · rw [Overlay.lay_apply, Nat.add_assoc, cellAt_add, List.append_assoc,
      List.getElem?_append_right (Nat.le_add_right _ 1), Nat.add_sub_cancel_left]
    rfl

/-- The length of the first segment. -/
theorem hasField_app1Block {w : CAppMarkerWriter} {e : ExifAttribute} (h : w.exif = some e)
    (reserve : Bool) :
    HasField (w.app1Block reserve) 2 (w.szApp1 + if reserve then w.maxThumbSize else 0) := by
  unfold CAppMarkerWriter.app1Block
  rw [h]
  dsimp only
  apply HasField.append_right
  unfold ExifAttribute.app1Cells ExifAttribute.app1Head
  apply HasField.append_right
  apply HasField.append_right
  exact ⟨stored [0xFF, 0xE1], [], (List.append_nil _).symm, rfl⟩

theorem hasField_debugSegmentCells (debug : DebugAttribute) (justReserve : Bool) (i : Nat) :
    HasField (debugSegmentCells debug justReserve i) 2
      (debug.debugSize (debug.idx i) + jpegSegmentLenfieldSize) := by
  unfold debugSegmentCells
  dsimp only
  apply HasField.append_right
  rw [stored_append]
  exact ⟨stored [0xFF, _], [], (List.append_nil _).symm, rfl⟩

/-- The space of the first `k` debug segments. -/
def debugOffset (debug : DebugAttribute) (k : Nat) : Nat :=
  ((List.range k).map fun i =>
    debug.debugSize (debug.idx i) + jpegMarkerSize + jpegSegmentLenfieldSize).sum

theorem debugOffset_succ (debug : DebugAttribute) (k : Nat) :
    debugOffset debug (k + 1) = debugOffset debug k + (debug.debugSize (debug.idx k) + 4) := by
  unfold debugOffset
  rw [List.range_succ, List.map_append, List.sum_append, List.map_singleton, List.sum_singleton]
  rfl

theorem length_flatMap_debugSegmentCells (debug : DebugAttribute) (justReserve : Bool) (k : Nat) :
    ((List.range k).flatMap (debugSegmentCells debug justReserve)).length = debugOffset debug k := by
  induction k with
  | zero => rfl
  | succ k ih =>
    rw [List.range_succ, List.flatMap_append, List.length_append, ih, List.flatMap_singleton,
      length_debugSegmentCells, debugOffset_succ]
    omega

/-- The length of each debug segment. -/
theorem hasField_debugCells (debug : DebugAttribute) (justReserve : Bool) {k : Nat}
    (hk : k < debug.numOfAppmarker.toNat) :
    HasField (debugCells debug justReserve) (debugOffset debug k + 2)
      (debug.debugSize (debug.idx k) + jpegSegmentLenfieldSize) := by
  obtain ⟨r, hr⟩ := Nat.exists_eq_add_of_lt hk
  unfold debugCells
  rw [hr, Nat.add_assoc, List.range_add, List.flatMap_append, List.range_succ_eq_map,
    List.map_cons, List.flatMap_cons, ← length_flatMap_debugSegmentCells debug justReserve k]
  exact ((hasField_debugSegmentCells debug justReserve k).append_right _).append_left _

theorem hasField_app11Cells (len : Nat) : HasField (app11Cells len) 2 len := by
  unfold app11Cells
  apply HasField.append_right
  rw [stored_append]
  exact ⟨stored [0xFF, 0xEB], [], (List.append_nil _).symm, rfl⟩

/-! ## 3. The bounds -/

/-- The end of the header, behind the last segment. -/
def CAppMarkerWriter.headerEnd (w : CAppMarkerWriter) : Nat := w.mainBase + jpegMarkerSize

/-- The address of the `k`-th debug segment of a header. -/
def CAppMarkerWriter.debugStart (w : CAppMarkerWriter) (debug : DebugAttribute) (k : Nat) : Nat :=
  w.app1End + debugOffset debug k

/-- The address behind the debug segments. -/
def CAppMarkerWriter.appxEnd (w : CAppMarkerWriter) : Nat :=
  match w.debug with
  | none => w.app1End
  | some debug => w.debugStart debug debug.numOfAppmarker.toNat

/-- `prepared` has been written as `r` into the buffer of the length `limit` at `base`: all that is
stored or left free is inside, no size has wrapped, and each segment is as long as it says. -/
structure HeaderBounds (prepared : CAppMarkerWriter) (base limit : Nat)
    (r : CAppMarkerWriter × Overlay) : Prop where
  stores : ∀ i b, r.2 i = some b → base ≤ i ∧ i < base + limit
  ends : r.1.app1End ≤ base + limit ∧ r.1.appxEnd ≤ base + limit ∧ r.1.headerEnd ≤ base + limit
  appSize : prepared.appSizeSum 0 + necessaryJpegLength < 2 ^ 64
  szApp1 : ∀ e ∈ prepared.exif, ¬e.thumbTooSmall → prepared.szApp1 = e.appLength
  maxThumbSize : ∀ e ∈ prepared.exif, e.enableThumb = true → ¬e.thumbTooSmall →
    e.appLength + prepared.maxThumbSize = jpegMaxSegmentSize
  debugSize : ∀ d ∈ r.1.debug, ∀ k < d.numOfAppmarker.toNat,
    d.debugSize (d.idx k) + jpegSegmentLenfieldSize < 2 ^ 16
  szApp11 : r.1.appxEnd + r.1.szApp11 = r.1.headerEnd
  app1Length : prepared.exif.isSome →
    LengthField r.2 (prepared.appBase + 2) (r.1.app1End - (prepared.appBase + 2))
  debugLength : ∀ d ∈ r.1.debug, ∀ k < d.numOfAppmarker.toNat,
    LengthField r.2 (r.1.debugStart d k + 2) (r.1.debugStart d (k + 1) - (r.1.debugStart d k + 2))
  app11Length : prepared.exif.isSome ∨ r.1.debug.isSome →
    LengthField r.2 (r.1.appxEnd + 2) (r.1.headerEnd - (r.1.appxEnd + 2))

/-- The sizes that the segment of an attribute has room for. -/
def ExifAttribute.FitsApp1 (e : ExifAttribute) : Prop :=
  ¬e.thumbTooSmall ∧ e.appLength ≤ 0xFFFF ∧ (e.enableThumb = true → e.appLength ≤ jpegMaxSegmentSize)

/-- The distance from the length field to the end that `WriteAPP1` returns.  With the space for the
thumbnail it is the same for every attribute, even if the space has wrapped. -/
def ExifAttribute.app1Size (e : ExifAttribute) (reserve : Bool) : Nat :=
  if reserve = true ∧ e.enableThumb = true then jpegMaxSegmentSize else e.appLength

/-- The length field of the segment can hold its length. -/
def ExifAttribute.LengthKept (e : ExifAttribute) (reserve : Bool) : Prop :=
  e.app1Size reserve ≤ 0xFFFF

theorem ExifAttribute.appLength_lt (e : ExifAttribute) : e.appLength < 2 ^ 34 := by
  have hmaker := e.maker.fits
  have hmodel := e.model.fits
  have hsoftware := e.software.fits
  have huniqueId := e.uniqueId.fits
  have hnote := e.makerNote.size_lt
  have hcomment := e.userComment.size_lt
  have hstring (sz : Nat) : stringSize sz ≤ 13 + sz := by
    unfold stringSize ifdFieldSize
    split
    · split <;> omega
    · omega
  have hblob (sz : Nat) : blobSize sz ≤ 12 + sz := by
    unfold blobSize ifdFieldSize
    split
    · split <;> omega
    · omega
  have hmethod : e.gpsMethodLength ≤ 99 := Nat.min_le_right _ _
  have hgps : e.gpsIfdSize ≤ 1000 := by
    unfold gpsIfdSize
    change 2 + 4 + 12 * 8 + 8 * 10 + (12 + 11) +
      (if 0 < e.gpsMethodLength then 12 + e.gpsMethodLength + 8 + 1 else 0) ≤ _
    split <;> omega
  have hprimary : e.primarySize ≤ 1000 := by
    have h₁ := hstring e.maker.strlen
    have h₂ := hstring e.software.strlen
    have h₃ := hstring e.model.strlen
    unfold CString.strlen at h₁ h₂ h₃
    unfold primarySize CString.strlen
    change 2 + 4 + 12 * 7 + 8 * 2 + 20 + _ + _ + _ + (if e.enableGps then 12 else 0) ≤ _
    split <;> omega
  have hexif : e.exifIfdSize ≤ 1000 + 2 ^ 33 := by
    have h₁ := hstring e.uniqueId.strlen
    have h₂ := hblob e.makerNote.size
    have h₃ := hblob e.userComment.size
    unfold CString.strlen at h₁
    unfold Blob.size at h₂ h₃
    unfold exifIfdSize CString.strlen Blob.size
    change 2 + 4 + 12 * 20 + 8 * 8 + (12 + 20) * 2 + (12 + 5) * 3 + _ + _ + _ +
      (12 + 2 + 4 + 12 * 2) ≤ _
    omega
  unfold appLength appLengthNoThumb
  change 2 + 6 + 8 + _ + _ + (if e.enableGps then _ else 0) +
    (if e.enableThumb then 2 + 4 + 12 * 6 else 0) < _
  split <;> split <;> omega

namespace CAppMarkerWriter

/-- What `PrepareAppWriter` computes for an attribute it does not refuse. -/
structure Measured (w : CAppMarkerWriter) (e : ExifAttribute) : Prop where
  counted : w.Counted e
  n1st_eq : e.enableThumb = true → w.n1stIfdFields = 6
  szApp1_eq : w.szApp1 = e.appLength % 2 ^ 16
  maxThumbSize_eq : w.maxThumbSize =
    if e.enableThumb then sizeSub jpegMaxSegmentSize e.appLength else 0

theorem Measured.prepared {w : CAppMarkerWriter} {e : ExifAttribute} (h : w.Measured e) :
    w.Prepared := by
  intro e' he'
  have heq : e = e' := Option.some.inj (h.counted.exif_eq.symm.trans he')
  rw [← heq]
  exact ⟨h.counted, h.n1st_eq⟩

theorem measured_prepareAppWriter (w : CAppMarkerWriter) (base : Nat) {e : ExifAttribute}
    (debug : Option DebugAttribute) (h : ¬e.thumbTooSmall) :
    (w.prepareAppWriter base (some e) debug).Measured e := by
  have hdebug : ∀ v : CAppMarkerWriter, (v.prepareDebug debug).n1stIfdFields = v.n1stIfdFields ∧
      (v.prepareDebug debug).szApp1 = v.szApp1 ∧
      (v.prepareDebug debug).maxThumbSize = v.maxThumbSize := by
    intro v
    unfold prepareDebug
    cases debug with
    | none => exact ⟨rfl, rfl, rfl⟩
    | some d =>
      dsimp only
      split <;> exact ⟨rfl, rfl, rfl⟩
  have hcounted := counted_prepareAppWriter w base e debug
  unfold prepareAppWriter at hcounted ⊢
  dsimp only at hcounted ⊢
  rw [if_neg h] at hcounted ⊢
  obtain ⟨hn1, hsize, hmax⟩ := hdebug (((w.init base (some e)).countFields e).measureApp1 e)
  refine ⟨hcounted, fun henable => hn1.trans ?_, hsize.trans ?_, hmax.trans ?_⟩
  · unfold measureApp1
    rw [if_pos henable]
  · unfold measureApp1
    split <;> rfl
  · unfold measureApp1
    split <;> rfl

end CAppMarkerWriter

/-! The place of the thumbnail. -/

theorem thumbBase_prepareDebug (w : CAppMarkerWriter) (debug : Option DebugAttribute) :
    (w.prepareDebug debug).thumbBase = w.thumbBase := by
  unfold CAppMarkerWriter.prepareDebug
  cases debug with
  | none => rfl
  | some d =>
    dsimp only
    split <;> rfl

theorem thumbBase_prepareAppWriter_none (w : CAppMarkerWriter) (base : Nat)
    (debug : Option DebugAttribute) : (w.prepareAppWriter base none debug).thumbBase = 0 :=
  thumbBase_prepareDebug _ debug

theorem thumbBase_prepareAppWriter_some (w : CAppMarkerWriter) (base : Nat) {e : ExifAttribute}
    (debug : Option DebugAttribute) (h : ¬e.thumbTooSmall) :
    (w.prepareAppWriter base (some e) debug).thumbBase =
      if e.enableThumb then base + jpegMarkerSize + e.appLength else 0 := by
  unfold CAppMarkerWriter.prepareAppWriter
  dsimp only
  rw [if_neg h, thumbBase_prepareDebug]
  unfold CAppMarkerWriter.measureApp1
  by_cases henable : e.enableThumb = true
  · rw [if_pos henable, if_pos henable]
    rfl
  · rw [if_neg henable, if_neg henable]
    rfl

theorem debugOffset_le_mul {debug : DebugAttribute} (h : debug.Accepted) {k : Nat}
    (hk : k ≤ debug.numOfAppmarker.toNat) : debugOffset debug k ≤ k * 65437 := by
  induction k with
  | zero => exact Nat.le_refl 0
  | succ k ih =>
    have hsize := (h.2 k (List.mem_range.mpr hk)).2.2
    have hle := ih (Nat.le_of_succ_le hk)
    unfold jpegMaxSegmentSize jpegSegmentLenfieldSize at hsize
    rw [debugOffset_succ]
    omega

theorem debugOffset_le {debug : DebugAttribute} (h : debug.Accepted) :
    debugOffset debug debug.numOfAppmarker.toNat ≤ 6 * 65437 := by
  have hcount := h.1
  unfold extraAppmarkerLimit extraAppmarkerMin at hcount
  exact (debugOffset_le_mul h (Nat.le_refl _)).trans (Nat.mul_le_mul_right _ (by omega))

namespace CAppMarkerWriter

variable (w : CAppMarkerWriter)

theorem length_appxCells_of_debug {w : CAppMarkerWriter} {d : DebugAttribute} (h : w.debug = some d)
    (justReserve : Bool) :
    (w.appxCells justReserve).length = debugOffset d d.numOfAppmarker.toNat := by
  unfold appxCells
  rw [h]
  exact length_debugCells d justReserve

theorem appxEnd_written (reserve : Bool) (dummy align : Nat) (reserveDebug : Bool) :
    (w.written reserve dummy align reserveDebug).appxEnd = w.app11Start reserve reserveDebug := by
  unfold appxEnd app11Start debugStart
  change (match w.debug with | none => _ | some debug => _) = _
  cases hdebug : w.debug with
  | none =>
    unfold appxCells
    rw [hdebug]
    rfl
  | some d =>
    rw [length_appxCells_of_debug hdebug]
    rfl

/-- The APP11 segment is there unless there is nothing in front of it. -/
theorem app11Block_eq {w : CAppMarkerWriter} (h : w.exif.isSome ∨ w.debug.isSome) (current : Nat)
    (align : Nat) : w.app11Block current jpegMarkerSize align =
      app11Cells (app11Length current jpegMarkerSize align) := by
  unfold app11Block
  rw [if_neg (fun hzero => absurd hzero.1 (by decide)), if_neg]
  intro hnone
  rcases h with hsome | hsome
  · rw [Option.isNone_iff_eq_none.mp hnone.1] at hsome
    cases hsome
  · rw [Option.isNone_iff_eq_none.mp hnone.2] at hsome
    cases hsome

theorem length_app11Block_le (current : Nat) {align : Nat} (halign : align = 16 ∨ align = 1) :
    (w.app11Block current jpegMarkerSize align).length ≤ 21 := by
  have hbounds := app11Length_bounds current halign
  unfold app11Block
  split
  · exact Nat.zero_le _
  · split
    · exact Nat.zero_le _
    · rw [length_app11Cells (by unfold jpegSegmentLenfieldSize; omega)]
      unfold jpegMarkerSize at hbounds ⊢
      omega

end CAppMarkerWriter

section

variable {w : CAppMarkerWriter} {e : ExifAttribute}

/-- Where the sizes fit, none of them wraps. -/
theorem CAppMarkerWriter.Measured.szApp1 (h : w.Measured e) (hfits : e.FitsApp1) :
    w.szApp1 = e.appLength := by
  rw [h.szApp1_eq]
  exact Nat.mod_eq_of_lt (Nat.lt_succ_of_le hfits.2.1)

theorem CAppMarkerWriter.Measured.maxThumbSize (h : w.Measured e) (hfits : e.FitsApp1)
    (henable : e.enableThumb = true) : e.appLength + w.maxThumbSize = jpegMaxSegmentSize := by
  have hle := hfits.2.2 henable
  rw [h.maxThumbSize_eq, if_pos henable]
  unfold sizeSub
  unfold jpegMaxSegmentSize at hle ⊢
  omega

theorem length_app1Block (h : w.exif = some e) (reserve : Bool) :
    (w.app1Block reserve).length = jpegMarkerSize + e.appLength + w.thumbSpace reserve := by
  unfold CAppMarkerWriter.app1Block
  rw [h]
  dsimp only
  rw [List.length_append, e.length_app1Cells, length_blanks]

theorem thumbSpace_eq (h : w.Measured e) (reserve : Bool) : w.thumbSpace reserve =
    if reserve = true ∧ e.enableThumb = true then sizeSub jpegMaxSegmentSize e.appLength else 0 := by
  rw [w.thumbSpace_some h.counted.exif_eq, h.maxThumbSize_eq]
  by_cases hboth : reserve = true ∧ e.enableThumb = true
  · rw [if_pos hboth, if_pos hboth.symm, if_pos hboth.2]
  · rw [if_neg hboth, if_neg fun hb => hboth hb.symm]

/-- Only where the thumbnail has room is its space a distance. -/
theorem thumbSpace_lt (h : w.Measured e) {reserve : Bool}
    (hmax : reserve = true → e.enableThumb = true → e.appLength ≤ jpegMaxSegmentSize) :
    w.thumbSpace reserve < 2 ^ 63 := by
  rw [thumbSpace_eq h]
  split
  · rename_i hboth
    have hle := hmax hboth.1 hboth.2
    unfold sizeSub
    unfold jpegMaxSegmentSize at hle ⊢
    omega
  · omega

theorem thumbSpace_of_fits (hmeasured : ∀ e ∈ w.exif, w.Measured e)
    (hfits : ∀ e ∈ w.exif, e.FitsApp1) (reserve : Bool) : w.thumbSpace reserve < 2 ^ 63 := by
  cases hexif : w.exif with
  | none =>
    unfold CAppMarkerWriter.thumbSpace
    rw [hexif]
    exact Nat.two_pow_pos 63
  | some e => exact thumbSpace_lt (hmeasured e hexif) fun _ => (hfits e hexif).2.2

/-- The end of the segment, whatever its size. -/
theorem writeApp1_end (h : w.Measured e) (reserve : Bool) (out : Overlay) :
    (w.writeApp1 w.appBase reserve false out).2.1 =
      w.appBase + (jpegMarkerSize + e.app1Size reserve) := by
  have hlt := e.appLength_lt
  rw [w.writeApp1_some h.prepared h.counted.exif_eq, thumbSpace_eq h]
  unfold ExifAttribute.app1Size
  split
  · unfold jpegMarkerSize jpegMaxSegmentSize sizeSub ptrAdd
    split <;> omega
  · exact ptrAdd_of_lt (Nat.two_pow_pos 63)

/-- The length field of the first segment counts the space for the thumbnail. -/
theorem be16_app1Size (h : w.Measured e) (reserve : Bool) :
    be16 (w.szApp1 + if reserve then w.maxThumbSize else 0) = be16 (e.app1Size reserve) := by
  have hlt := e.appLength_lt
  have hmod : (w.szApp1 + if reserve then w.maxThumbSize else 0) % 2 ^ 16 =
      e.app1Size reserve % 2 ^ 16 := by
    rw [h.szApp1_eq, h.maxThumbSize_eq]
    unfold ExifAttribute.app1Size
    by_cases henable : e.enableThumb = true
    · cases reserve with
      | true =>
        rw [if_pos rfl, if_pos henable, if_pos ⟨rfl, henable⟩]
        unfold jpegMaxSegmentSize sizeSub
        omega
      | false =>
        rw [if_neg Bool.false_ne_true, if_neg fun hb => Bool.false_ne_true hb.1]
        omega
    · rw [if_neg henable, ite_self, if_neg fun hb => henable hb.2]
      omega
  exact be16_congr hmod

theorem app1Length_eq (h : w.Measured e) {reserve : Bool} (hle : e.appLength ≤ 0xFFFF)
    (hmax : reserve = true → e.enableThumb = true → e.appLength ≤ jpegMaxSegmentSize) :
    (w.szApp1 + if reserve then w.maxThumbSize else 0) = e.appLength + w.thumbSpace reserve ∧
      e.appLength + w.thumbSpace reserve < 2 ^ 16 := by
  have hmod : e.appLength % 2 ^ 16 = e.appLength := Nat.mod_eq_of_lt (Nat.lt_succ_of_le hle)
  rw [thumbSpace_eq h, h.szApp1_eq, hmod, h.maxThumbSize_eq]
  cases reserve with
  | true =>
    rw [if_pos rfl]
    by_cases henable : e.enableThumb = true
    · have hspace := hmax rfl henable
      rw [if_pos henable, if_pos ⟨rfl, henable⟩]
      unfold sizeSub
      unfold jpegMaxSegmentSize at hspace ⊢
      omega
    · rw [if_neg henable, if_neg (fun hb => henable hb.2)]
      omega
  | false =>
    rw [if_neg Bool.false_ne_true, if_neg (fun hb => Bool.false_ne_true hb.1)]
    omega

end

/-- The layout satisfies the bounds, once it ends inside the buffer. -/
theorem headerBounds_write {w : CAppMarkerWriter} {base limit align : Nat}
    {reserve reserveDebug : Bool} (hbase : w.appBase = base + 2) (halign : align = 16 ∨ align = 1)
    (hsound : w.Sound) (hmeasured : ∀ e ∈ w.exif, w.Measured e) (hfits : ∀ e ∈ w.exif, e.FitsApp1)
    (hsum : w.appSizeSum 0 + necessaryJpegLength < 2 ^ 64)
    (hend : w.appBase + (w.headerCells reserve jpegMarkerSize align reserveDebug).length ≤
      base + limit) :
    HeaderBounds w base limit
      (w.write reserve jpegMarkerSize align reserveDebug Overlay.empty) := by
  have hprepared : w.Prepared :=
    fun e he => ⟨(hmeasured e he).counted, (hmeasured e he).n1st_eq⟩
  have hbounds := CAppMarkerWriter.app11Length_bounds (w.app11Start reserve reserveDebug) halign
  have hblock := w.length_app11Block_le (w.app11Start reserve reserveDebug) halign
  have hlength : (w.headerCells reserve jpegMarkerSize align reserveDebug).length =
      (w.app1Block reserve).length + (w.appxCells reserveDebug).length +
        (w.app11Block (w.app11Start reserve reserveDebug) jpegMarkerSize align).length := by
    unfold CAppMarkerWriter.headerCells
    rw [List.length_append, List.length_append]
  have hstart : w.app11Start reserve reserveDebug =
      w.appBase + (w.app1Block reserve).length + (w.appxCells reserveDebug).length := rfl
  have happxEnd := w.appxEnd_written reserve jpegMarkerSize align reserveDebug
  have hheaderEnd : (w.written reserve jpegMarkerSize align reserveDebug).headerEnd =
      w.appBase + (w.headerCells reserve jpegMarkerSize align reserveDebug).length := by
    change w.appBase + _ - 2 + 2 = _
    omega
  have happ1End : (w.written reserve jpegMarkerSize align reserveDebug).app1End =
      w.appBase + (w.app1Block reserve).length := rfl
  have hroom := thumbSpace_of_fits hmeasured hfits reserve
  rw [w.write_eq hprepared reserveDebug hroom (by unfold jpegSegmentLenfieldSize; omega)]
  refine ⟨?_, ?_, hsum, ?_, ?_, ?_, ?_, ?_, ?_, ?_⟩
  · intro i b hb
    change (cellAt w.appBase _ i).or none = some b at hb
    rw [Option.or_none] at hb
    constructor
    · by_contra hlt
      rw [cellAt_of_lt _ (by omega)] at hb
      cases hb
    · by_contra hge
      rw [cellAt_of_ge (by omega)] at hb
      cases hb
  · dsimp only
    rw [happ1End, happxEnd, hheaderEnd]
    omega
  · intro e he _
    exact (hmeasured e he).szApp1 (hfits e he)
  · intro e he henable _
    exact (hmeasured e he).maxThumbSize (hfits e he) henable
  · intro d hd k hk
    have hsize := ((hsound.accepted d hd).2 k (List.mem_range.mpr hk)).2.2
    unfold jpegMaxSegmentSize at hsize
    unfold jpegSegmentLenfieldSize at hsize ⊢
    omega
  · rw [happxEnd, hheaderEnd]
    change _ + (w.app11Block _ jpegMarkerSize align).length % 2 ^ 16 = _
    omega
  · intro hsome
    obtain ⟨e, he⟩ := Option.isSome_iff_exists.mp hsome
    obtain ⟨hvalue, hlt⟩ := app1Length_eq (hmeasured e he) (hfits e he).2.1 fun _ => (hfits e he).2.2
    have hfield := hasField_app1Block he reserve
    rw [hvalue] at hfield
    dsimp only
    rw [happ1End, length_app1Block he]
    unfold jpegMarkerSize
    rw [show w.appBase + (2 + e.appLength + w.thumbSpace reserve) - (w.appBase + 2) =
      e.appLength + w.thumbSpace reserve by omega]
    unfold CAppMarkerWriter.headerCells
    exact ((hfield.append_right _).append_right _).lengthField hlt _
  · intro d hd k hk
    have hdebug : w.debug = some d := hd
    have hsize := ((hsound.accepted d hd).2 k (List.mem_range.mpr hk)).2.2
    unfold jpegMaxSegmentSize jpegSegmentLenfieldSize at hsize
    have hfield := hasField_debugCells d reserveDebug hk
    have hstarts (j : Nat) : (w.written reserve jpegMarkerSize align reserveDebug).debugStart d j =
        w.appBase + (w.app1Block reserve).length + debugOffset d j := rfl
    have happx : w.appxCells reserveDebug = debugCells d reserveDebug := by
      unfold CAppMarkerWriter.appxCells
      rw [hdebug]
    dsimp only
    rw [hstarts, hstarts, debugOffset_succ,
      show w.appBase + (w.app1Block reserve).length +
          (debugOffset d k + (d.debugSize (d.idx k) + 4)) -
          (w.appBase + (w.app1Block reserve).length + debugOffset d k + 2) =
        d.debugSize (d.idx k) + jpegSegmentLenfieldSize by
          unfold jpegSegmentLenfieldSize
          omega,
      Nat.add_assoc, Nat.add_assoc w.appBase]
    unfold CAppMarkerWriter.headerCells
    rw [happx]
    exact ((hfield.append_left _).append_right _).lengthField
      (by unfold jpegSegmentLenfieldSize; omega) _
  · intro hsome
    have hcells := CAppMarkerWriter.app11Block_eq hsome (w.app11Start reserve reserveDebug) align
    obtain ⟨len, hlen⟩ : ∃ len, CAppMarkerWriter.app11Length (w.app11Start reserve reserveDebug)
        jpegMarkerSize align = len := ⟨_, rfl⟩
    rw [hlen] at hcells hbounds
    rw [hcells, length_app11Cells (by unfold jpegSegmentLenfieldSize; omega)] at hlength
    have hfield : HasField (w.headerCells reserve jpegMarkerSize align reserveDebug)
        ((w.app1Block reserve).length + (w.appxCells reserveDebug).length + 2) len := by
      unfold CAppMarkerWriter.headerCells
      rw [hcells, ← List.length_append]
      exact (hasField_app11Cells len).append_left _
    have hstored := hfield.lengthField (by omega) w.appBase
    rw [show w.appBase + ((w.app1Block reserve).length + (w.appxCells reserveDebug).length + 2) =
      w.app11Start reserve reserveDebug + 2 by omega] at hstored
    have hactual : w.appBase + (w.headerCells reserve jpegMarkerSize align reserveDebug).length -
        (w.app11Start reserve reserveDebug + 2) = len := by
      rw [hlength, hstart]
      unfold jpegMarkerSize
      omega
    dsimp only
    rw [happxEnd, hheaderEnd, hactual]
    exact hstored

/-! ## 4. What `ProcessExif` checks -/

theorem exif_prepareAppWriter (w : CAppMarkerWriter) (base : Nat) (exif : Option ExifAttribute)
    (debug : Option DebugAttribute) : (w.prepareAppWriter base exif debug).exif = exif := by
  cases exif with
  | none => exact exif_prepareDebug _ debug
  | some e => exact (counted_prepareAppWriter w base e debug).exif_eq

theorem appSizeSum_eq (w : CAppMarkerWriter) (thumblen : Nat) (reserveDebug : Bool) :
    w.appSizeSum thumblen = (if 0 < w.szApp1 then w.szApp1 + jpegMarkerSize else 0) +
      (w.appxCells reserveDebug).length +
      (if w.isThumbSpaceReserved then w.maxThumbSize else min w.maxThumbSize thumblen) +
      w.szApp11 := by
  unfold CAppMarkerWriter.appSizeSum CAppMarkerWriter.appxCells
  cases w.debug with
  | none => rfl
  | some d =>
    dsimp only
    rw [length_debugCells]

theorem length_appxCells_le {w : CAppMarkerWriter} (h : w.Sound) (reserveDebug : Bool) :
    (w.appxCells reserveDebug).length ≤ 6 * 65437 := by
  cases hdebug : w.debug with
  | none =>
    unfold CAppMarkerWriter.appxCells
    rw [hdebug]
    exact Nat.zero_le _
  | some d =>
    rw [CAppMarkerWriter.length_appxCells_of_debug hdebug]
    exact debugOffset_le (h.accepted d hdebug)

/-- Without an attribute there is nothing to measure. -/
theorem sizes_prepareAppWriter_none (w : CAppMarkerWriter) (base : Nat)
    (debug : Option DebugAttribute) : (w.prepareAppWriter base none debug).szApp1 = 0 ∧
      (w.prepareAppWriter base none debug).maxThumbSize = 0 := by
  unfold CAppMarkerWriter.prepareAppWriter CAppMarkerWriter.prepareDebug
  cases debug with
  | none => exact ⟨rfl, rfl⟩
  | some d =>
    dsimp only
    split <;> exact ⟨rfl, rfl⟩

theorem sizes_of_thumbTooSmall (w : CAppMarkerWriter) (base : Nat) {e : ExifAttribute}
    (h : e.thumbTooSmall) (debug : Option DebugAttribute) :
    (w.prepareAppWriter base (some e) debug).szApp1 = 0 ∧
      (w.prepareAppWriter base (some e) debug).maxThumbSize = 0 := by
  unfold CAppMarkerWriter.prepareAppWriter
  dsimp only
  rw [if_pos h]
  exact ⟨rfl, rfl⟩

theorem debug_prepareAppWriter (w : CAppMarkerWriter) (base : Nat) {exif : Option ExifAttribute}
    (hexif : ∀ e ∈ exif, ¬e.thumbTooSmall) {d : DebugAttribute} (hd : d.Accepted) :
    (w.prepareAppWriter base exif (some d)).debug = some d := by
  have hprepare (v : CAppMarkerWriter) : (v.prepareDebug (some d)).debug = some d := by
    unfold CAppMarkerWriter.prepareDebug
    dsimp only
    rw [if_pos hd]
  unfold CAppMarkerWriter.prepareAppWriter
  cases exif with
  | none => exact hprepare _
  | some e =>
    dsimp only
    rw [if_neg (hexif e rfl)]
    exact hprepare _

/-- An attribute that `PrepareAppWriter` refuses is written all the same, with the length 0. -/
theorem not_lengthField_of_thumbTooSmall (w : CAppMarkerWriter) (base : Nat) {e : ExifAttribute}
    (h : e.thumbTooSmall) (debug : Option DebugAttribute) (reserve : Bool) (dummy align : Nat)
    (reserveDebug : Bool) {r : CAppMarkerWriter × Overlay}
    (hr : r = (w.prepareAppWriter base (some e) debug).write reserve dummy align reserveDebug
      Overlay.empty) : ¬LengthField r.2 (base + 2) (r.1.app1End - (base + 2)) := by
  intro hfield
  have hcounted := counted_prepareAppWriter w base e debug
  have hbase := appBase_prepareAppWriter w base debug (some e)
  obtain ⟨hsize, hmax⟩ := sizes_of_thumbTooSmall w base h debug
  have hlength := (e.length_directPrimary)
  have hroom : e.enableThumb = true → reserve = true →
      (w.prepareAppWriter base (some e) debug).maxThumbSize < 2 ^ 63 :=
    fun _ _ => hmax ▸ Nat.two_pow_pos 63
  have hread (k : Nat) (hk : k < 18) := writeHeader_of_lt hcounted hroom dummy align reserveDebug
    Overlay.empty (i := base + k) (by omega)
  rw [hbase, hsize, hmax, ite_self] at hread
  have hend := (hread 4 (by omega)).2
  have hhigh := (hread 2 (by omega)).1
  have hlow := (hread 3 (by omega)).1
  rw [← hr] at hend hhigh hlow
  rw [Overlay.lay_apply, cellAt_add] at hhigh hlow
  obtain ⟨high, low, hhigh', hlow', hvalue⟩ := hfield
  have hzeroHigh : (0 : UInt8) = high := Option.some.inj (hhigh.symm.trans hhigh')
  have hzeroLow : (0 : UInt8) = low := Option.some.inj (hlow.symm.trans hlow')
  rw [← hzeroHigh, ← hzeroLow] at hvalue
  have hzero : r.1.app1End - (base + 2) = 0 := hvalue.symm
  omega

namespace CameraEncoder

variable {s : CameraEncoder} {base limit : Nat} {exif : Option ExifAttribute}
  {debug : Option DebugAttribute}

theorem processExif_of_true (h : (s.processExif base limit exif debug).1 = true) :
    ((s.prepared base exif debug).calculateAppSize 0 + necessaryJpegLength) % 2 ^ 64 < limit ∧
      (s.processExif base limit exif debug).2 =
        (s.prepared base exif debug).write (reserveThumbspace limit exif) jpegMarkerSize s.align
          s.hwfcEnabled Overlay.empty := by
  unfold processExif at h ⊢
  split
  · rename_i hsize
    rw [if_pos hsize] at h
    cases h
  · rename_i hsize
    rw [if_neg hsize] at h
    split
    · rename_i hlimit
      rw [if_pos hlimit] at h
      cases h
    · rename_i hlimit
      exact ⟨Nat.not_le.mp hlimit, rfl⟩

theorem align_eq (s : CameraEncoder) : s.align = 16 ∨ s.align = 1 := by
  unfold align
  split
  · exact Or.inr rfl
  · exact Or.inl rfl

theorem reserveThumbspace_eq_true (h : reserveThumbspace limit exif = true) :
    jpegMaxSegmentSize * 10 ≤ limit ∧ ∀ e ∈ exif, e.enableThumb = true := by
  unfold reserveThumbspace at h
  cases exif with
  | none => cases h
  | some e =>
    rw [Bool.and_eq_true, Bool.not_eq_true', decide_eq_false_iff_not] at h
    exact ⟨Nat.not_lt.mp h.2, fun e' he' => Option.some.inj he' ▸ h.1⟩

theorem sound_prepared (hs : s.appWriter.Reached) : (s.prepared base exif debug).Sound :=
  hs.sound.prepareAppWriter _ _ _

theorem measured_prepared (hfits : ∀ e ∈ exif, e.FitsApp1) :
    ∀ e ∈ (s.prepared base exif debug).exif, (s.prepared base exif debug).Measured e := by
  intro e he
  unfold prepared at he ⊢
  rw [exif_prepareAppWriter] at he
  rw [Option.mem_def.mp he]
  exact CAppMarkerWriter.measured_prepareAppWriter _ _ debug (hfits e he).1

theorem thumbSpace_prepared (hfits : ∀ e ∈ exif, e.FitsApp1) (reserve : Bool) :
    (s.prepared base exif debug).thumbSpace reserve < 2 ^ 63 := by
  refine thumbSpace_of_fits (measured_prepared hfits) (fun e he => hfits e ?_) reserve
  unfold prepared at he
  rwa [exif_prepareAppWriter] at he

/-- The header ends inside the buffer. -/
theorem headerCells_le (hs : s.appWriter.Reached) (hfits : ∀ e ∈ exif, e.FitsApp1)
    (hresult : (s.processExif base limit exif debug).1 = true) :
    (s.prepared base exif debug).appSizeSum 0 + necessaryJpegLength < 2 ^ 64 ∧
      2 + ((s.prepared base exif debug).headerCells (reserveThumbspace limit exif) jpegMarkerSize
        s.align s.hwfcEnabled).length ≤ limit := by
  have hsound : (s.prepared base exif debug).Sound := sound_prepared hs
  have happx := length_appxCells_le hsound s.hwfcEnabled
  have h11 := hsound.szApp11_lt
  have hblock := (s.prepared base exif debug).length_app11Block_le
    ((s.prepared base exif debug).app11Start (reserveThumbspace limit exif) s.hwfcEnabled) s.align_eq
  have hlimit := (processExif_of_true hresult).1
  have hsum := appSizeSum_eq (s.prepared base exif debug) 0 s.hwfcEnabled
  have hlength : ((s.prepared base exif debug).headerCells (reserveThumbspace limit exif)
      jpegMarkerSize s.align s.hwfcEnabled).length =
      ((s.prepared base exif debug).app1Block (reserveThumbspace limit exif)).length +
        ((s.prepared base exif debug).appxCells s.hwfcEnabled).length +
        ((s.prepared base exif debug).app11Block ((s.prepared base exif debug).app11Start
          (reserveThumbspace limit exif) s.hwfcEnabled) jpegMarkerSize s.align).length := by
    unfold CAppMarkerWriter.headerCells
    rw [List.length_append, List.length_append]
  have hexif : (s.prepared base exif debug).exif = exif := exif_prepareAppWriter _ _ _ _
  have hmin : min (s.prepared base exif debug).maxThumbSize 0 = 0 := Nat.min_zero _
  unfold CAppMarkerWriter.calculateAppSize at hlimit
  unfold necessaryJpegLength jpegMarkerSize at hlimit ⊢
  unfold jpegMarkerSize at hsum hlength hblock
  rw [hmin] at hsum
  cases exif with
  | none =>
    obtain ⟨hszApp1, hmax⟩ := sizes_prepareAppWriter_none s.appWriter (base + jpegMarkerSize) debug
    have happ1 : (s.prepared base none debug).app1Block (reserveThumbspace limit none) = [] := by
      unfold CAppMarkerWriter.app1Block
      rw [hexif]
    rw [show (s.prepared base none debug).szApp1 = 0 from hszApp1,
      show (s.prepared base none debug).maxThumbSize = 0 from hmax, ite_self, if_neg (by omega)]
      at hsum
    rw [happ1, List.length_nil] at hlength
    omega
  | some e =>
    have hmeasured : (s.prepared base (some e) debug).Measured e := measured_prepared hfits e hexif
    have hfit := hfits e rfl
    have hszApp1 := hmeasured.szApp1 hfit
    have hpos : 0 < e.appLength := by
      unfold ExifAttribute.appLength ExifAttribute.appLengthNoThumb jpegSegmentLenfieldSize
      omega
    have hle := hfit.2.1
    have happ1 := length_app1Block hexif (reserveThumbspace limit (some e))
    have hmax : (s.prepared base (some e) debug).maxThumbSize ≤ 65435 ∧
        (e.enableThumb = true →
          e.appLength + (s.prepared base (some e) debug).maxThumbSize = 65435) := by
      by_cases henable : e.enableThumb = true
      · have hspace := hmeasured.maxThumbSize hfit henable
        unfold jpegMaxSegmentSize at hspace
        exact ⟨by omega, fun _ => hspace⟩
      · have hspace := hmeasured.maxThumbSize_eq
        rw [if_neg henable] at hspace
        exact ⟨by omega, fun henable' => absurd henable' henable⟩
    have hreserved : (if (s.prepared base (some e) debug).isThumbSpaceReserved then
        (s.prepared base (some e) debug).maxThumbSize else 0) ≤ 65435 := by
      split
      · exact hmax.1
      · exact Nat.zero_le _
    have hspace : (s.prepared base (some e) debug).thumbSpace (reserveThumbspace limit (some e)) = 0 ∨
        654350 ≤ limit ∧ e.appLength + (s.prepared base (some e) debug).thumbSpace
          (reserveThumbspace limit (some e)) ≤ 65435 := by
      unfold CAppMarkerWriter.thumbSpace
      rw [hexif]
      dsimp only
      by_cases hreserve : reserveThumbspace limit (some e) = true
      · obtain ⟨hlong, henable⟩ := reserveThumbspace_eq_true hreserve
        unfold jpegMaxSegmentSize at hlong
        rw [if_pos ⟨henable e rfl, hreserve⟩]
        exact Or.inr ⟨hlong, (hmax.2 (henable e rfl)).le⟩
      · rw [if_neg (fun hb : _ ∧ _ => hreserve hb.2)]
        exact Or.inl rfl
    unfold jpegMarkerSize at happ1
    rw [hszApp1, if_pos hpos] at hsum
    omega

theorem processExif_bounds_iff (hs : s.appWriter.Reached)
    (hresult : (s.processExif base limit exif debug).1 = true) :
    HeaderBounds (s.prepared base exif debug) base limit (s.processExif base limit exif debug).2 ↔
      ∀ e ∈ exif, e.FitsApp1 := by
  have hexif : (s.prepared base exif debug).exif = exif := exif_prepareAppWriter _ _ _ _
  have hbase : (s.prepared base exif debug).appBase = base + 2 := appBase_prepareAppWriter _ _ _ _
  have hwrite := (processExif_of_true hresult).2
  constructor
  · intro h e he
    have hmem : e ∈ (s.prepared base exif debug).exif := by
      rw [hexif]
      exact he
    have htoo : ¬e.thumbTooSmall := by
      intro htoo
      have hfield := h.app1Length (Option.isSome_of_mem hmem)
      rw [hbase, hwrite] at hfield
      subst he
      exact not_lengthField_of_thumbTooSmall s.appWriter (base + jpegMarkerSize) htoo debug _ _ _ _
        rfl hfield
    have hmeasured : (s.prepared base exif debug).Measured e := by
      unfold prepared
      rw [Option.mem_def.mp he]
      exact CAppMarkerWriter.measured_prepareAppWriter _ _ debug htoo
    have hszApp1 := h.szApp1 e hmem htoo
    rw [hmeasured.szApp1_eq] at hszApp1
    refine ⟨htoo, ?_, fun henable => ?_⟩
    · have hlt := Nat.mod_lt e.appLength (by decide : 0 < 2 ^ 16)
      omega
    · have hmax := h.maxThumbSize e hmem henable htoo
      omega
  · intro hfits
    obtain ⟨hsum, hend⟩ := headerCells_le hs hfits hresult
    rw [hwrite]
    apply headerBounds_write hbase s.align_eq (sound_prepared hs) (measured_prepared hfits)
    · rw [hexif]
      exact hfits
    · exact hsum
    · rw [hbase]
      omega

end CameraEncoder

/-- An encoder for images of 64 by 48, as it is constructed, so without a thumbnail size. -/
def newEncoder : CameraEncoder where
  width := 64
  height := 48
  thumbWidth := 0
  thumbHeight := 0
  noStreambaseAlign := false
  hwfcEnabled := false
  appWriter := CAppMarkerWriter.construct ⟨0, 0, 0, 0, 0, 0, 0, 0, 0, none, none, 0, 0, 0, 0, 0, 0, 0⟩

theorem processExif_bounds_iff_newEncoder :
    HeaderBounds (newEncoder.prepared 0x10000 (some (bareExif true false)) none) 0x10000 100000
        (newEncoder.processExif 0x10000 100000 (some (bareExif true false)) none).2 ↔
      ∀ e ∈ some (bareExif true false), e.FitsApp1 :=
  CameraEncoder.processExif_bounds_iff (.construct _) (by decide +kernel)

/-- A thumbnail of no size is consistent with such an encoder. -/
def noThumbSizeExif : ExifAttribute :=
  { bareExif false true with widthThumb := 0, heightThumb := 0 }

theorem processExif_not_bounded : ¬∀ (s : CameraEncoder) (base limit : Nat)
    (exif : Option ExifAttribute) (debug : Option DebugAttribute), s.appWriter.Reached →
    (s.processExif base limit exif debug).1 = true →
    HeaderBounds (s.prepared base exif debug) base limit
      (s.processExif base limit exif debug).2 := by
  intro hall
  have hresult : (newEncoder.processExif 0x10000 100000 (some noThumbSizeExif) none).1 = true := by
    decide +kernel
  have hbounds := hall newEncoder 0x10000 100000 (some noThumbSizeExif) none (.construct _) hresult
  have hfield := hbounds.app1Length rfl
  rw [(CameraEncoder.processExif_of_true hresult).2] at hfield
  exact not_lengthField_of_thumbTooSmall newEncoder.appWriter (0x10000 + jpegMarkerSize)
    (by decide) none _ _ _ _ rfl hfield

end Universal7870.Jpeg
