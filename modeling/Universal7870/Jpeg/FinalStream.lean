import Universal7870.Jpeg.FinalLayout

/-!
# The final stream

`ProcessExif` writes the header before the hardware writes the main stream behind it, and
`FinishCompression` then embeds the thumbnail.  The client's buffer holds one segment behind the
other, and the main stream behind them.
-/

namespace Universal7870.Jpeg

open Lib

/-! ## 1. Compressions -/

/-- A compression: the buffer of the client with its content, the metadata, what the memory is when
the hardware is done, the length of its stream, and how the calls for the thumbnail end. -/
structure Compression where
  encoder : CameraEncoder
  thumbGenerationNeeded : Bool
  btbSupported : Bool
  thumbQuality : Nat
  base : Nat
  limit : Nat
  exif : Option ExifAttribute
  debug : Option DebugAttribute
  buffer : Memory
  mem : Memory
  mainlen : Nat
  calls : FinishCalls

namespace Compression

variable (c : Compression)

def processExif : Bool × CAppMarkerWriter × Overlay :=
  c.encoder.processExif c.base c.limit c.exif c.debug

def writer : CAppMarkerWriter := c.processExif.2.1

def streamEncoder : StreamEncoder where
  streamBase := c.base
  streamSize := c.limit
  appWriter := c.writer
  thumbGenerationNeeded := c.thumbGenerationNeeded
  btbSupported := c.btbSupported
  thumbQuality := c.thumbQuality

def reserved : Bool := CameraEncoder.reserveThumbspace c.limit c.exif

/-- The main stream, cut behind its EOI. -/
def main : List UInt8 :=
  c.mem.bytes c.writer.mainBase (removeTrailingDummies c.mem c.writer.mainBase c.mainlen)

/-- The thumbnail that `FinishCompression` has for an image. -/
def fittedThumb : Option (Nat × Memory) :=
  (c.streamEncoder.thumbStream c.calls).bind fun thumb => c.streamEncoder.fitThumb c.calls
    (removeTrailingDummies c.mem c.writer.mainBase c.mainlen) thumb

def thumb : List UInt8 :=
  if c.writer.thumbBase ≠ 0 then (c.fittedThumb.map fun t => t.2.bytes 0 t.1).getD [] else []

/-- `FinishCompression` behind `ProcessExif` and the hardware. -/
def finish : Option Nat × Memory × CAppMarkerWriter :=
  c.streamEncoder.finishCompression c.calls c.mem c.mainlen

/-- `ProcessExif` returns true for the metadata, whose first segment is not too long.  The hardware
writes a stream with an EOI, possibly followed by padding, into the space it is given, and nothing
else. -/
structure Runs : Prop where
  reached : c.encoder.appWriter.Reached
  buffer_end : c.base + c.limit < 2 ^ 64
  accepted : c.processExif.1 = true
  size : ∀ e ∈ c.exif, e.appLength ≤ jpegMaxSegmentSize
  header : ∀ i < c.writer.mainBase, c.mem i = c.processExif.2.2.onto c.buffer i
  space : c.writer.mainBase + c.mainlen ≤ c.base + c.limit
  soi : c.mem c.writer.mainBase = 0xFF ∧ c.mem (c.writer.mainBase + 1) = 0xD8
  eoi : ∃ i, LastEoi c.mem c.writer.mainBase c.mainlen i

def Laid (n : Nat) : Prop :=
  FinalLayout c.finish.2.1 c.base n c.exif c.debug c.encoder.hwfcEnabled c.reserved c.thumb
    c.main

end Compression

/-! ## 2. The header in the buffer -/

namespace Compression

variable {c : Compression}

def prepared (c : Compression) : CAppMarkerWriter := c.encoder.prepared c.base c.exif c.debug

def app1Cells (c : Compression) : Cells := c.prepared.app1Block c.reserved

def appxCells (c : Compression) : Cells := c.prepared.appxCells c.encoder.hwfcEnabled

def app11Cells (c : Compression) : Cells :=
  c.prepared.app11Block (c.prepared.app11Start c.reserved c.encoder.hwfcEnabled) jpegMarkerSize
    c.encoder.align

def headerCells (c : Compression) : Cells := c.app1Cells ++ c.appxCells ++ c.app11Cells

/-- The memory once the SOI of the main stream is cleared. -/
def cleared (c : Compression) : Memory := c.mem.write c.writer.mainBase [0, 0]

theorem exif_prepared (c : Compression) : c.prepared.exif = c.exif := exif_prepareAppWriter _ _ _ _

theorem Runs.fits (h : c.Runs) (hlarge : ∀ e ∈ c.exif, ¬e.thumbTooSmall) :
    ∀ e ∈ c.exif, e.FitsApp1 := fun e he =>
  ⟨hlarge e he, Nat.le_trans (h.size e he) (by decide), fun _ => h.size e he⟩

/-- The writer behind `ProcessExif`, and what it has stored. -/
theorem Runs.written (h : c.Runs) (hlarge : ∀ e ∈ c.exif, ¬e.thumbTooSmall) :
    c.writer = c.prepared.written c.reserved jpegMarkerSize c.encoder.align c.encoder.hwfcEnabled ∧
      c.processExif.2.2 = Overlay.empty.lay (c.base + 2) c.headerCells := by
  have hprepared : c.prepared.Prepared := fun e he =>
    have hmeasured := CameraEncoder.measured_prepared (h.fits hlarge) e he
    ⟨hmeasured.counted, hmeasured.n1st_eq⟩
  have hbounds := CAppMarkerWriter.app11Length_bounds
    (c.prepared.app11Start c.reserved c.encoder.hwfcEnabled) c.encoder.align_eq
  have hbase : c.prepared.appBase = c.base + 2 := appBase_prepareAppWriter _ _ _ _
  have hresult : c.processExif.2 = _ := (CameraEncoder.processExif_of_true h.accepted).2
  have hlen : jpegSegmentLenfieldSize ≤ CAppMarkerWriter.app11Length
      (c.prepared.app11Start c.reserved c.encoder.hwfcEnabled) jpegMarkerSize c.encoder.align := by
    unfold jpegSegmentLenfieldSize
    omega
  have hwrite := CAppMarkerWriter.write_eq c.prepared hprepared c.encoder.hwfcEnabled
    (CameraEncoder.thumbSpace_prepared (h.fits hlarge) c.reserved) hlen Overlay.empty
  rw [hbase] at hwrite
  exact ⟨congrArg Prod.fst (hresult.trans hwrite), congrArg Prod.snd (hresult.trans hwrite)⟩

/-- No segment stores the last two bytes of the header, which are those of the main stream's SOI. -/
theorem stored_lt {k : Nat} {b : UInt8} (hk : c.headerCells[k]? = some (some b)) :
    k + 2 < c.headerCells.length := by
  have hlt : k < c.headerCells.length := (List.getElem?_eq_some_iff.mp hk).1
  have hbounds := CAppMarkerWriter.app11Length_bounds
    (c.prepared.app11Start c.reserved c.encoder.hwfcEnabled) c.encoder.align_eq
  by_cases hany : c.prepared.exif.isSome ∨ c.prepared.debug.isSome
  -- the last segment ends with blanks, two of which the SOI takes
  · have hcells : c.app11Cells = Jpeg.app11Cells (CAppMarkerWriter.app11Length
        (c.prepared.app11Start c.reserved c.encoder.hwfcEnabled) jpegMarkerSize c.encoder.align) :=
      CAppMarkerWriter.app11Block_eq hany _ _
    unfold headerCells at hk ⊢
    rw [hcells] at hk ⊢
    unfold Jpeg.app11Cells at hk ⊢
    rw [← List.append_assoc] at hk ⊢
    have hfront := lt_of_blanks hk
    rw [List.length_append, length_blanks]
    unfold jpegSegmentLenfieldSize
    omega
  · have hexif : c.prepared.exif = none := by
      by_contra hsome
      exact hany (.inl (Option.isSome_iff_ne_none.mpr hsome))
    have hdebug : c.prepared.debug = none := by
      by_contra hsome
      exact hany (.inr (Option.isSome_iff_ne_none.mpr hsome))
    -- without metadata there is no header
    have hnil : c.headerCells = [] := by
      unfold headerCells app1Cells appxCells app11Cells CAppMarkerWriter.app1Block
        CAppMarkerWriter.appxCells CAppMarkerWriter.app11Block
      rw [hexif, hdebug]
      rfl
    rw [hnil] at hlt
    exact absurd hlt (Nat.not_lt_zero k)

/-- What the header of the main stream's place is. -/
theorem Runs.mainBase_eq (h : c.Runs) (hlarge : ∀ e ∈ c.exif, ¬e.thumbTooSmall) :
    c.writer.mainBase = c.base + c.headerCells.length := by
  have hbase : c.prepared.appBase = c.base + 2 := appBase_prepareAppWriter _ _ _ _
  rw [(h.written hlarge).1]
  change c.prepared.appBase + c.headerCells.length - 2 = _
  rw [hbase]
  omega

/-- The hardware and the cleared SOI leave the header as it is. -/
theorem Runs.shows (h : c.Runs) (hlarge : ∀ e ∈ c.exif, ¬e.thumbTooSmall) :
    Shows c.cleared (c.base + 2) c.headerCells := by
  have hmain := h.mainBase_eq hlarge
  have hcell : ∀ i, c.base + 2 ≤ i → i < c.base + 2 + c.headerCells.length →
      c.processExif.2.2 i = Overlay.empty.lay (c.base + 2) c.headerCells i := fun i _ _ =>
    congrFun (h.written hlarge).2 i
  have hstored := shows_onto (m := c.buffer) hcell
  intro k b hk
  -- a byte of the header is below the SOI, where the hardware writes nothing
  have hlt := stored_lt hk
  unfold cleared
  rw [Memory.write_outside (.inl (by omega)), h.header _ (by omega)]
  exact hstored k b hk

/-! ## 3. The end of the compression -/

theorem length_main (c : Compression) :
    c.main.length = removeTrailingDummies c.mem c.writer.mainBase c.mainlen :=
  Memory.length_bytes _ _ _

theorem finishThumb_some {mem mem' : Memory} {thumblen : Nat}
    (h : c.streamEncoder.finishThumb c.calls mem c.main.length = some (thumblen, mem')) :
    (c.writer.thumbBase = 0 → c.thumb = [] ∧ thumblen = 0 ∧ mem' = mem) ∧
    (c.writer.thumbBase ≠ 0 → ∃ t : Nat × Memory, c.thumb = t.2.bytes 0 t.1 ∧ thumblen = t.1 ∧
      t.1 ≤ c.writer.maxThumbSize ∧
      c.streamEncoder.embedThumb mem c.main.length t = some mem') := by
  unfold StreamEncoder.finishThumb at h
  unfold thumb fittedThumb
  rw [← length_main]
  refine ⟨fun hthumb => ?_, fun hthumb => ?_⟩
  -- no place: the thumbnail is not looked at
  · have hnone : ¬c.streamEncoder.appWriter.thumbBase ≠ 0 := not_not.mpr hthumb
    rw [if_neg hnone] at h
    obtain ⟨hlength, hmem⟩ := Prod.mk.inj (Option.some.inj h)
    rw [if_neg (not_not.mpr hthumb)]
    exact ⟨rfl, hlength.symm, hmem.symm⟩
  · have hsome : c.streamEncoder.appWriter.thumbBase ≠ 0 := hthumb
    rw [if_pos hsome] at h
    rw [if_pos hthumb]
    cases hstream : c.streamEncoder.thumbStream c.calls with
    | none =>
      rw [hstream] at h
      cases h
    | some thumb =>
      rw [hstream] at h
      dsimp only at h
      cases hfit : c.streamEncoder.fitThumb c.calls c.main.length thumb with
      | none =>
        rw [hfit] at h
        cases h
      | some t =>
        rw [hfit] at h
        obtain ⟨mem'', hembed, hpair⟩ := Option.map_eq_some_iff.mp h
        obtain ⟨hlength, hmem⟩ := Prod.mk.inj hpair
        rw [Option.bind_some, hfit]
        exact ⟨t, rfl, hlength.symm,
          (StreamEncoder.fitThumb_le hfit).trans (StreamEncoder.maxThumb_le _), hmem ▸ hembed⟩

/-- How a compression ends that returns a length. -/
theorem finish_some {n : Nat} (hn : c.finish.1 = some n) : ∃ (thumblen : Nat) (mem' : Memory),
    c.streamEncoder.finishThumb c.calls c.cleared c.main.length = some (thumblen, mem') ∧
    c.finish.2.1 = mem'.write c.base [0xFF, 0xD8] ∧
    n = (c.writer.calculateAppSize thumblen + c.main.length) % 2 ^ 64 := by
  rw [length_main]
  unfold finish StreamEncoder.finishCompression at hn ⊢
  dsimp only at hn ⊢
  cases hfinish : c.streamEncoder.finishThumb c.calls
      (c.mem.write c.streamEncoder.appWriter.mainBase [0, 0])
      (removeTrailingDummies c.mem c.streamEncoder.appWriter.mainBase c.mainlen) with
  | none =>
    rw [hfinish] at hn
    cases hn
  | some r =>
    rw [hfinish] at hn
    exact ⟨r.1, r.2, hfinish, rfl, (Option.some.inj hn).symm⟩

theorem Runs.main_le (h : c.Runs) : c.writer.mainBase + c.main.length ≤ c.base + c.limit := by
  obtain ⟨i, hlast⟩ := h.eoi
  have hspace := h.space
  have hend := h.buffer_end
  have hinside := hlast.inside
  rw [length_main, hlast.removeTrailingDummies (by omega)]
  omega

theorem Runs.four_le (h : c.Runs) : 4 ≤ c.main.length := by
  obtain ⟨i, hlast⟩ := h.eoi
  have hspace := h.space
  have hend := h.buffer_end
  have hbehind := hlast.behind
  have hinside := hlast.inside
  rw [length_main, hlast.removeTrailingDummies (by omega)]
  omega

/-! ## 4. The segments of the finished stream -/

section

open ExifAttribute

variable (h : c.Runs) (hlarge : ∀ e ∈ c.exif, ¬e.thumbTooSmall)
include h hlarge

theorem Runs.placed : Placed c.writer c.base c.limit :=
  CameraEncoder.placed_processExif h.reached (h.fits hlarge) h.accepted

theorem Runs.appBase_eq : c.writer.appBase = c.base + 2 := (h.placed hlarge).appBase

theorem Runs.app1End_eq : c.writer.app1End = c.base + 2 + c.app1Cells.length := by
  have hbase : c.prepared.appBase = c.base + 2 := appBase_prepareAppWriter _ _ _ _
  rw [(h.written hlarge).1]
  change c.prepared.appBase + c.app1Cells.length = _
  rw [hbase]

theorem Runs.thumbBase_none (he : c.exif = none) : c.writer.thumbBase = 0 := by
  rw [(h.written hlarge).1]
  change c.prepared.thumbBase = 0
  unfold prepared CameraEncoder.prepared
  rw [he]
  exact thumbBase_prepareAppWriter_none _ _ _

theorem Runs.thumbBase_some {e : ExifAttribute} (he : c.exif = some e) :
    c.writer.thumbBase = if e.enableThumb then c.base + 2 + 2 + e.appLength else 0 := by
  rw [(h.written hlarge).1]
  change c.prepared.thumbBase = _
  unfold prepared CameraEncoder.prepared
  rw [he]
  exact thumbBase_prepareAppWriter_some _ _ _ (hlarge e he)

/-- A place for the thumbnail is there for an attribute that asks for one. -/
theorem Runs.enableThumb (hthumb : c.writer.thumbBase ≠ 0) :
    ∃ e, c.exif = some e ∧ e.enableThumb = true := by
  cases he : c.exif with
  | none => exact absurd (h.thumbBase_none hlarge he) hthumb
  | some e =>
    refine ⟨e, rfl, ?_⟩
    by_contra hnot
    have hzero := h.thumbBase_some hlarge he
    rw [if_neg hnot] at hzero
    exact hthumb hzero

theorem Runs.measured {e : ExifAttribute} (he : c.exif = some e) : c.prepared.Measured e :=
  CameraEncoder.measured_prepared (h.fits hlarge) e (c.exif_prepared.trans he)

/-- The first segment as `ProcessExif` has written it. -/
theorem Runs.app1Cells_eq {e : ExifAttribute} (he : c.exif = some e) : ∃ offset : UInt32,
    (e.enableThumb = true → offset.toNat = e.appLength - 8) ∧
    c.app1Cells = e.finishedApp1Cells (e.appLength + c.prepared.thumbSpace c.reserved) offset 0 ++
      blanks (c.prepared.thumbSpace c.reserved) := by
  have hmeasured := h.measured hlarge he
  have hsize := h.size e he
  have hpos : 8 ≤ e.appLength := by
    have hheaders : exifIdentifierCode.length + tiffHeader.length = 14 := rfl
    unfold appLength appLengthNoThumb
    omega
  unfold jpegMaxSegmentSize at hsize
  -- the offset that is written is the distance of `thumbBase` from the TIFF header
  have hthumb := h.thumbBase_some hlarge he
  rw [(h.written hlarge).1] at hthumb
  change c.prepared.thumbBase = _ at hthumb
  have hbase : c.prepared.appBase = c.base + 2 := appBase_prepareAppWriter _ _ _ _
  refine ⟨if e.enableThumb then c.prepared.thumbStreamOffset c.prepared.appBase else 0,
    fun henable => ?_, ?_⟩
  · rw [if_pos henable] at hthumb ⊢
    exact thumbStreamOffset_eq (hthumb.trans (by rw [hbase]; rfl)) hpos (by omega)
  · unfold app1Cells CAppMarkerWriter.app1Block
    rw [hmeasured.counted.exif_eq]
    dsimp only
    rw [(app1Length_eq hmeasured (by omega) fun _ _ => h.size e he).1]
    rfl

theorem Runs.lateFields {e : ExifAttribute} (he : c.exif = some e) (henable : e.enableThumb = true) :
    StreamEncoder.LateFields c.writer := by
  have hbase := h.appBase_eq hlarge
  have hthumb := h.thumbBase_some hlarge he
  rw [if_pos henable] at hthumb
  have hplaced := (h.placed hlarge).thumb (by omega)
  obtain ⟨middle, hlength, -⟩ := finishedApp1Cells_split henable 0
  have hplace : c.writer.thumbSizePlaceholder = c.base + 2 + (2 + e.appLength) - 8 := by
    have hprepared : c.prepared.appBase = c.base + 2 := appBase_prepareAppWriter _ _ _ _
    rw [(h.written hlarge).1]
    change c.prepared.thumbPlaceholder = _
    unfold CAppMarkerWriter.thumbPlaceholder
    rw [c.exif_prepared, he]
    dsimp only
    rw [if_pos henable, hprepared]
    rfl
  exact ⟨by omega, by omega, by omega, hplaced.app1End, hplaced.main⟩

theorem Runs.embedded {e : ExifAttribute} (he : c.exif = some e) (henable : e.enableThumb = true)
    {t : Nat × Memory} {mem' : Memory} (hle : t.1 ≤ c.writer.maxThumbSize)
    (hembed : c.streamEncoder.embedThumb c.cleared c.main.length t = some mem') :
    c.streamEncoder.Embedded c.cleared mem' c.main.length t := by
  have hstream : c.streamEncoder.appWriter = c.writer := rfl
  have hfields := h.lateFields hlarge he henable
  have hend : c.streamEncoder.appWriter.mainBase + c.main.length < 2 ^ 64 := by
    rw [hstream]
    exact Nat.lt_of_le_of_lt h.main_le h.buffer_end
  rw [← hstream] at hfields hle
  exact StreamEncoder.embedded_of_embedThumb hfields hle hend hembed

/-- What follows the first segment is where it was, or behind the thumbnail. -/
theorem Runs.moved {thumblen : Nat} {mem' : Memory}
    (hfinish : c.streamEncoder.finishThumb c.calls c.cleared c.main.length = some (thumblen, mem')) :
    c.thumb.length = thumblen ∧
      c.writer.calculateAppSize thumblen =
        c.writer.calculateAppSize 0 + c.streamEncoder.shift thumblen ∧
      ∀ i, c.writer.app1End ≤ i → i < c.writer.mainBase + c.main.length →
        mem' (i + c.streamEncoder.shift thumblen) = c.cleared i := by
  obtain ⟨hwithout, hwith⟩ := finishThumb_some hfinish
  by_cases hthumb : c.writer.thumbBase = 0
  · obtain ⟨hempty, rfl, rfl⟩ := hwithout hthumb
    have hshift : c.streamEncoder.shift 0 = 0 := ite_self 0
    rw [hempty, hshift]
    exact ⟨rfl, (Nat.add_zero _).symm, fun i _ _ => congrArg c.cleared (Nat.add_zero i)⟩
  · obtain ⟨t, hbytes, rfl, hle, hembed⟩ := hwith hthumb
    obtain ⟨e, he, henable⟩ := h.enableThumb hlarge hthumb
    have hembedded := h.embedded hlarge he henable hle hembed
    refine ⟨?_, ?_, hembedded.moved⟩
    · rw [hbytes, Memory.length_bytes]
    · rw [((h.placed hlarge).thumb hthumb).appSize _ hle]
      exact congrArg _ rfl

/-- The zeros behind the thumbnail. -/
theorem Runs.thumbRoom {e : ExifAttribute} (he : c.exif = some e) (henable : e.enableThumb = true)
    {t : Nat × Memory} {mem' : Memory} (hle : t.1 ≤ c.writer.maxThumbSize)
    (hembedded : c.streamEncoder.Embedded c.cleared mem' c.main.length t) : ∃ r,
    (if c.writer.isThumbSpaceReserved then e.appLength + c.prepared.thumbSpace c.reserved
      else c.writer.szApp1 + t.1) = e.appLength + t.1 + r ∧
    c.prepared.thumbSpace c.reserved + c.streamEncoder.shift t.1 = t.1 + r ∧
    (∀ k < r, mem' (c.writer.thumbBase + t.1 + k) = 0) ∧ (c.reserved = false → r = 0) ∧
    e.appLength + t.1 + r < 2 ^ 16 := by
  have hsize := h.size e he
  unfold jpegMaxSegmentSize at hsize
  have hmeasured := h.measured hlarge he
  have hfits := h.fits hlarge e he
  have hszApp1 : c.writer.szApp1 = e.appLength := by
    rw [(h.written hlarge).1]
    exact hmeasured.szApp1 hfits
  have hmax : e.appLength + c.writer.maxThumbSize = jpegMaxSegmentSize := by
    rw [(h.written hlarge).1]
    exact hmeasured.maxThumbSize hfits henable
  unfold jpegMaxSegmentSize at hmax
  have hplace := h.thumbBase_some hlarge he
  rw [if_pos henable] at hplace
  have hcells := h.app1End_eq hlarge
  have hlength : c.app1Cells.length = 2 + e.appLength + c.prepared.thumbSpace c.reserved := by
    obtain ⟨offset, -, hcells⟩ := h.app1Cells_eq hlarge he
    rw [hcells, List.length_append, length_finishedApp1Cells, length_blanks]
    rfl
  have hend := (h.lateFields hlarge he henable).app1End
  have hno : c.reserved = false → c.prepared.thumbSpace c.reserved = 0 := by
    intro hreserved
    unfold CAppMarkerWriter.thumbSpace
    rw [c.exif_prepared, he, hreserved]
    exact if_neg fun hboth => Bool.false_ne_true hboth.2
  by_cases hreserved : c.writer.isThumbSpaceReserved
  · rw [if_pos hreserved] at hend
    have hshift : c.streamEncoder.shift t.1 = 0 := if_pos hreserved
    -- the rest of the place is cleared
    refine ⟨c.writer.maxThumbSize - t.1, ?_, by omega, fun k hk => ?_, fun hfalse => ?_, by omega⟩
    · rw [if_pos hreserved]
      omega
    · rw [Nat.add_assoc]
      exact hembedded.rest hreserved _ (by omega) (show t.1 + k < c.writer.maxThumbSize by omega)
    · have hspace := hno hfalse
      omega
  · rw [if_neg hreserved] at hend
    have hshift : c.streamEncoder.shift t.1 = t.1 := if_neg hreserved
    -- the place is exactly that of the thumbnail
    refine ⟨0, ?_, by omega, fun k hk => absurd hk (Nat.not_lt_zero k), fun _ => rfl, by omega⟩
    rw [if_neg hreserved, hszApp1]
    rfl

/-- The first segment of the finished stream. -/
theorem Runs.app1Layout {e : ExifAttribute} (he : c.exif = some e) {thumblen : Nat} {mem' : Memory}
    (hfinish : c.streamEncoder.finishThumb c.calls c.cleared c.main.length = some (thumblen, mem')) :
    App1Layout (mem'.write c.base [0xFF, 0xD8]) c.base e c.reserved c.thumb
      ((mem'.write c.base [0xFF, 0xD8]).bytes (c.base + 2)
        (c.app1Cells.length + c.streamEncoder.shift thumblen)) := by
  obtain ⟨offset, hoffset, hcells⟩ := h.app1Cells_eq hlarge he
  have hsize := h.size e he
  have hmeasured := h.measured hlarge he
  have hpos : 8 ≤ e.appLength := by
    have hheaders : exifIdentifierCode.length + tiffHeader.length = 14 := rfl
    unfold appLength appLengthNoThumb
    omega
  have hlength : c.app1Cells.length = 2 + e.appLength + c.prepared.thumbSpace c.reserved := by
    rw [hcells, List.length_append, length_finishedApp1Cells, length_blanks]
    rfl
  have hcleared : Shows c.cleared (c.base + 2)
      (e.finishedApp1Cells (e.appLength + c.prepared.thumbSpace c.reserved) offset 0) := by
    have hshow := h.shows hlarge
    unfold headerCells at hshow
    rw [hcells, shows_append, shows_append, shows_append] at hshow
    exact hshow.1.1.1
  -- the SOI of the whole stream is written in front of the segment
  have hsoi : ∀ i, c.base + 2 ≤ i → mem'.write c.base [0xFF, 0xD8] i = mem' i := fun i hi =>
    Memory.write_outside (.inr hi)
  obtain ⟨hwithout, hwith⟩ := finishThumb_some hfinish
  have hplace := h.thumbBase_some hlarge he
  unfold jpegMaxSegmentSize at hsize
  by_cases henable : e.enableThumb = true
  · rw [if_pos henable] at hplace
    obtain ⟨t, hbytes, rfl, hle, hembed⟩ := hwith (by omega)
    have hfields := h.lateFields hlarge he henable
    have hembedded := h.embedded hlarge he henable hle hembed
    obtain ⟨r, hlen, hspace, hzeros, hnone, hlt⟩ := h.thumbRoom hlarge he henable hle hembedded
    have hroom := hmeasured.maxThumbSize (h.fits hlarge e he) henable
    have hstream : c.streamEncoder.appWriter = c.writer := rfl
    have happ := h.appBase_eq hlarge
    have hfinished := hembedded.shows hfields henable (by rw [hstream]; omega) (by omega)
      (by rw [hstream, happ]; exact hcleared)
    rw [hstream, happ, hlen] at hfinished
    rw [hlength, show 2 + e.appLength + c.prepared.thumbSpace c.reserved + c.streamEncoder.shift t.1 =
      2 + e.appLength + t.1 + r by omega]
    have hword : UInt32.size = 4294967296 := rfl
    have hvalue : (UInt32.ofNat t.1).toNat = t.1 := UInt32.toNat_ofNat_of_lt (by omega)
    refine app1Layout_of_shows (hfinished.congr fun k _ => hsoi _ (Nat.le_add_right _ _)) hoffset hpos
      hlt hvalue ?_ (fun k hk => ?_) hnone (fun hno => absurd (henable.symm.trans hno) nofun)
    · rw [hbytes]
      refine Memory.bytes_congr fun k hk => ?_
      rw [hsoi _ (by omega), ← hplace, Nat.zero_add]
      exact hembedded.copied k hk
    · rw [hsoi _ (by omega), ← hplace]
      exact hzeros k hk
  -- no thumbnail is asked for, and the segment stays as it was
  · have hzero : c.writer.thumbBase = 0 := by
      rw [if_neg henable] at hplace
      exact hplace
    obtain ⟨hempty, rfl, rfl⟩ := hwithout hzero
    have hspace : c.prepared.thumbSpace c.reserved = 0 := by
      unfold CAppMarkerWriter.thumbSpace
      rw [c.exif_prepared, he]
      exact if_neg fun hboth => henable hboth.1
    have hshift : c.streamEncoder.shift 0 = 0 := ite_self 0
    rw [hspace] at hlength hcleared
    rw [hlength, hshift, hempty]
    refine app1Layout_of_shows (t := 0) (r := 0)
      (hcleared.congr fun k _ => hsoi _ (Nat.le_add_right _ _)) hoffset hpos (by omega) rfl rfl
      (fun k hk => absurd hk (Nat.not_lt_zero k)) (fun _ => rfl) (fun _ => rfl)

/-- The segments behind the first one, and the main stream behind its SOI, are where they were, or
moved together. -/
theorem Runs.behind {thumblen : Nat} {mem' : Memory}
    (hfinish : c.streamEncoder.finishThumb c.calls c.cleared c.main.length = some (thumblen, mem')) :
    Shows (mem'.write c.base [0xFF, 0xD8])
        (c.base + 2 + (c.app1Cells.length + c.streamEncoder.shift thumblen))
        (c.appxCells ++ c.app11Cells) ∧
      (mem'.write c.base [0xFF, 0xD8]).bytes
        (c.base + 2 + (c.headerCells.length + c.streamEncoder.shift thumblen)) (c.main.length - 2) =
          c.main.drop 2 := by
  obtain ⟨-, -, hmoved⟩ := h.moved hlarge hfinish
  have hmain := h.mainBase_eq hlarge
  have hend := h.app1End_eq hlarge
  have hfour := h.four_le
  have hcells : c.headerCells.length =
      c.app1Cells.length + (c.appxCells ++ c.app11Cells).length := by
    unfold headerCells
    rw [List.append_assoc, List.length_append]
  -- both parts lie behind the first segment, where all is moved by one distance
  have hfinal : ∀ i, c.writer.app1End ≤ i → i < c.writer.mainBase + c.main.length →
      mem'.write c.base [0xFF, 0xD8] (i + c.streamEncoder.shift thumblen) = c.cleared i := by
    intro i hlo hhi
    rw [Memory.write_outside (.inr (show c.base + 2 ≤ _ by omega))]
    exact hmoved i hlo hhi
  constructor
  · have hshow := h.shows hlarge
    unfold headerCells at hshow
    rw [List.append_assoc, shows_append] at hshow
    refine hshow.2.congr fun k hk => ?_
    have hcell := hfinal (c.base + 2 + c.app1Cells.length + k) (by omega) (by omega)
    rw [← hcell]
    have haddress : c.base + 2 + (c.app1Cells.length + c.streamEncoder.shift thumblen) + k =
        c.base + 2 + c.app1Cells.length + k + c.streamEncoder.shift thumblen := by omega
    rw [haddress]
  · have htail : c.main = c.mem.bytes c.writer.mainBase 2 ++
        c.mem.bytes (c.writer.mainBase + 2) (c.main.length - 2) := by
      rw [← Memory.bytes_add, Nat.add_sub_cancel' (by omega), length_main]
      rfl
    have hdrop : c.main.drop 2 = c.mem.bytes (c.writer.mainBase + 2) (c.main.length - 2) :=
      (congrArg (List.drop 2) htail).trans (List.drop_left' (Memory.length_bytes _ _ _))
    rw [hdrop]
    refine Memory.bytes_congr fun k hk => ?_
    have hcleared : c.cleared (c.writer.mainBase + 2 + k) = c.mem (c.writer.mainBase + 2 + k) :=
      Memory.write_outside (.inr (show c.writer.mainBase + 2 ≤ _ by omega))
    rw [← hcleared, ← hfinal (c.writer.mainBase + 2 + k) (by omega) (by omega)]
    apply congrArg
    omega

end

/-! ## 5. The whole stream -/

section

variable (h : c.Runs) (hlarge : ∀ e ∈ c.exif, ¬e.thumbTooSmall) (hdebug : ∀ d ∈ c.debug, d.Accepted)
include hlarge

/-- The debug attribute of the call, where `PrepareAppWriter` takes it. -/
theorem debug_prepared (hdebug : ∀ d ∈ c.debug, d.Accepted) : c.prepared.debug = c.debug := by
  unfold prepared CameraEncoder.prepared
  cases hd : c.debug with
  | some d => exact debug_prepareAppWriter _ _ hlarge (hdebug d hd)
  | none =>
    unfold CAppMarkerWriter.prepareAppWriter
    cases he : c.exif with
    | none => rfl
    | some e =>
      dsimp only
      rw [if_neg (hlarge e he)]
      rfl

include h in
/-- What the compression returns is the length of the header, of a thumbnail that has moved the
header's end, and of the main stream. -/
theorem Runs.finish_length {n : Nat} (hn : c.finish.1 = some n) : ∃ (thumblen : Nat) (mem' : Memory),
    c.streamEncoder.finishThumb c.calls c.cleared c.main.length = some (thumblen, mem') ∧
      c.finish.2.1 = mem'.write c.base [0xFF, 0xD8] ∧
      n = c.headerCells.length + c.streamEncoder.shift thumblen + c.main.length ∧ n ≤ c.limit := by
  obtain ⟨thumblen, mem', hfinish, hmem, hlength⟩ := finish_some hn
  have hplaced := h.placed hlarge
  have hheader := h.mainBase_eq hlarge
  have hmain := h.main_le
  have hend := h.buffer_end
  obtain ⟨-, hsize, -⟩ := h.moved hlarge hfinish
  have happ0 := hplaced.main
  have hfits : c.writer.calculateAppSize thumblen + c.main.length ≤ c.limit := by
    have hstream : Placed c.streamEncoder.appWriter c.base c.streamEncoder.streamSize := hplaced
    exact StreamEncoder.finishThumb_size hstream (show c.limit < 2 ^ 64 by omega)
      (show c.writer.calculateAppSize 0 + c.main.length ≤ c.limit by omega) hfinish
  rw [Nat.mod_eq_of_lt (by omega)] at hlength
  exact ⟨thumblen, mem', hfinish, hmem, by omega, by omega⟩

include hdebug

theorem appxCells_eq : c.appxCells =
    match c.debug with
    | none => []
    | some d => debugCells d c.encoder.hwfcEnabled := by
  have hprepared := debug_prepared hlarge hdebug
  unfold appxCells CAppMarkerWriter.appxCells
  generalize c.prepared.debug = debug at hprepared ⊢
  subst hprepared
  cases c.debug <;> rfl

/-- The segment that aligns the main stream, with the two bytes of its SOI. -/
theorem app11Cells_eq : (c.exif = none ∧ c.debug = none ∧ c.app11Cells = []) ∨
    ¬(c.exif.isNone ∧ c.debug.isNone) ∧ ∃ len, 4 ≤ len ∧ len ≤ 19 ∧
      c.app11Cells = Jpeg.app11Cells len := by
  have hbounds := CAppMarkerWriter.app11Length_bounds
    (c.prepared.app11Start c.reserved c.encoder.hwfcEnabled) c.encoder.align_eq
  have hmarker : ¬(jpegMarkerSize = 0 ∧ c.encoder.align = 1) := fun h => by cases h.1
  unfold app11Cells CAppMarkerWriter.app11Block
  rw [if_neg hmarker, c.exif_prepared, debug_prepared hlarge hdebug]
  by_cases hnone : c.exif.isNone ∧ c.debug.isNone
  · rw [if_pos hnone]
    exact .inl ⟨Option.isNone_iff_eq_none.mp hnone.1, Option.isNone_iff_eq_none.mp hnone.2, rfl⟩
  · rw [if_neg hnone]
    exact .inr ⟨hnone, _, hbounds.1, hbounds.2, rfl⟩

include h

/-- The parts of the finished stream, one behind the other. -/
theorem Runs.laid {n : Nat} (hn : c.finish.1 = some n) : c.Laid n := by
  obtain ⟨thumblen, mem', hfinish, hmem, hlength, -⟩ := h.finish_length hlarge hn
  obtain ⟨hshow, hrest⟩ := h.behind hlarge hfinish
  have hfour := h.four_le
  have hcells : c.headerCells.length =
      c.app1Cells.length + (c.appxCells.length + c.app11Cells.length) := by
    unfold headerCells
    rw [List.length_append, List.length_append, Nat.add_assoc]
  unfold Laid
  rw [hmem]
  generalize hfinal : mem'.write c.base [0xFF, 0xD8] = final at *
  have hsoi : final.bytes c.base 2 = [0xFF, 0xD8] := by
    rw [← hfinal]
    exact congrArg₂ (fun a b => [a, b]) (Memory.write_inside (k := 0) (by decide))
      (Memory.write_inside (k := 1) (by decide))
  rw [shows_append] at hshow
  -- the parts meet, and their lengths add up to what is returned
  have htotal : n = 2 + (c.app1Cells.length + c.streamEncoder.shift thumblen) + c.appxCells.length +
      c.app11Cells.length + (c.main.length - 2) := by omega
  refine ⟨final.bytes (c.base + 2) (c.app1Cells.length + c.streamEncoder.shift thumblen),
    final.bytes (c.base + 2 + (c.app1Cells.length + c.streamEncoder.shift thumblen)) c.appxCells.length,
    final.bytes (c.base + 2 + (c.app1Cells.length + c.streamEncoder.shift thumblen) +
      c.appxCells.length) c.app11Cells.length, ?_, fun he => ?_, fun e he => ?_, fun hd => ?_,
    fun d hd => ?_, ?_⟩
  · have htail : c.base + (2 + (c.app1Cells.length + c.streamEncoder.shift thumblen) +
        c.appxCells.length + c.app11Cells.length) =
        c.base + 2 + (c.headerCells.length + c.streamEncoder.shift thumblen) := by omega
    rw [htotal, Memory.bytes_add, Memory.bytes_add, Memory.bytes_add, Memory.bytes_add, hsoi, htail, hrest]
    simp only [Nat.add_assoc]
  · have hthumbBase := h.thumbBase_none hlarge he
    obtain ⟨hempty, rfl, -⟩ := (finishThumb_some hfinish).1 hthumbBase
    have hshift : c.streamEncoder.shift 0 = 0 := ite_self 0
    have hcells : c.app1Cells = [] := by
      unfold app1Cells CAppMarkerWriter.app1Block
      rw [c.exif_prepared, he]
    rw [hcells, hshift]
    exact ⟨rfl, hempty⟩
  · rw [← hfinal]
    exact h.app1Layout hlarge he hfinish
  · rw [appxCells_eq hlarge hdebug, hd]
    rfl
  · have hcells : c.appxCells = debugCells d c.encoder.hwfcEnabled := by
      rw [appxCells_eq hlarge hdebug, hd]
    rw [hcells] at hshow ⊢
    exact appxLayout_of_shows (hdebug d hd) hshow.1
  · rcases app11Cells_eq hlarge hdebug with ⟨he, hd, hcells⟩ | ⟨hsome, len, hfour, hle, hcells⟩
    · rw [he, hd, hcells]
      exact rfl
    · have hsome' : ¬(c.exif.isNone ∧ c.debug.isNone) := hsome
      rw [if_neg hsome']
      rw [hcells] at hshow ⊢
      exact app11Segment_of_shows (by omega) (by omega) hshow.2

/-- A length that is returned is at most that of the buffer, and the bytes up to it are the segments
of the metadata and the main stream. -/
theorem finalStream_laid {n : Nat} (hn : c.finish.1 = some n) : n ≤ c.limit ∧ c.Laid n := by
  obtain ⟨_, _, -, -, -, hle⟩ := h.finish_length hlarge hn
  exact ⟨hle, h.laid hlarge hdebug hn⟩

end

/-- The frame header of an image of 16 by 24 pixels, and EOI. -/
def frameStream : List UInt8 :=
  [0xFF, 0xD8, 0xFF, 0xC0, 0, 17, 8, 0, 24, 0, 16, 3, 1, 0x21, 0, 2, 0x11, 1, 3, 0x11, 1, 0xFF, 0xD9]

/-- That stream behind the header of an attribute with a thumbnail, and three bytes of thumbnail. -/
def thumbCompression : Compression :=
  let encoder := { newEncoder with thumbWidth := 16, thumbHeight := 16 }
  let header := (encoder.processExif 0x10000 100000 (some (bareExif true true)) (some oneByteDebug)).2
  { encoder := encoder
    thumbGenerationNeeded := true
    btbSupported := false
    thumbQuality := 50
    base := 0x10000
    limit := 100000
    exif := some (bareExif true true)
    debug := some oneByteDebug
    buffer := fun _ => 0
    mem := fun i =>
      if i < header.1.mainBase then header.2.onto (fun _ => 0) i
      else frameStream.getD (i - header.1.mainBase) 0
    mainlen := 23
    calls := ⟨some (3, fun _ => 7), fun _ _ => none, fun _ _ => none, 0, fun _ => 0⟩ }

theorem thumbCompression_mem (k : Nat) :
    thumbCompression.mem (thumbCompression.writer.mainBase + k) = frameStream.getD k 0 := by
  refine (if_neg (Nat.not_lt.mpr (Nat.le_add_right _ _))).trans ?_
  exact congrArg (frameStream.getD · 0) (Nat.add_sub_cancel_left _ _)

theorem runs_thumbCompression : thumbCompression.Runs where
  reached := .construct _
  buffer_end := by decide
  accepted := by decide +kernel
  size := fun e he => by
    obtain rfl := Option.some.inj he
    decide
  header := fun i hi => if_pos hi
  space := by decide +kernel
  soi := ⟨thumbCompression_mem 0, thumbCompression_mem 1⟩
  eoi := by
    refine ⟨21, by decide, by decide, ?_, fun j hj hle => ?_⟩
    · unfold eoiAt
      rw [Nat.add_assoc, thumbCompression_mem, thumbCompression_mem]
      rfl
    · change j + 2 ≤ 23 at hle
      omega

theorem fits_thumbCompression :
    (∀ e ∈ thumbCompression.exif, ¬e.thumbTooSmall) ∧ ∀ d ∈ thumbCompression.debug, d.Accepted := by
  constructor
  · intro e he
    obtain rfl := Option.some.inj he
    decide
  · intro d hd
    obtain rfl := Option.some.inj hd
    exact accepted_oneByteDebug

theorem finish_thumbCompression : thumbCompression.finish.1 = some 954 := by decide +kernel

theorem finalStream_laid_thumbCompression :
    954 ≤ thumbCompression.limit ∧ thumbCompression.Laid 954 :=
  finalStream_laid runs_thumbCompression fits_thumbCompression.1 fits_thumbCompression.2
    finish_thumbCompression

end Compression

end Universal7870.Jpeg
