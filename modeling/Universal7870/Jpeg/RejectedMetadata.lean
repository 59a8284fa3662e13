import Universal7870.Jpeg.ProcessExif

/-!
# Metadata that is rejected

`PrepareAppWriter` returns early on a thumbnail or a debug attribute that it rejects, and
`ProcessExif` does not ask.  Runs of calls on one encoder: what a call stores is to come from its
own arguments, as on a new encoder, and a call with rejected arguments is to fail.
-/

namespace Universal7870.Jpeg

open Lib

/-- A call of `ProcessExif`. -/
structure ExifCall where
  base : Nat
  limit : Nat
  exif : Option ExifAttribute
  debug : Option DebugAttribute

namespace ExifCall

variable (c : ExifCall)

/-- `PrepareAppWriter` gives the arguments up part-way. -/
def Rejected : Prop := (∃ e ∈ c.exif, e.thumbTooSmall) ∨ ∃ d ∈ c.debug, ¬d.Accepted

/-- The APP1 segment that is counted in front of where the arguments are given up. -/
def countedApp1 : Nat :=
  match c.exif with
  | none => 0
  | some e => if e.thumbTooSmall then 0 else e.appLength % 2 ^ 16

/-- The space for the thumbnail that is counted by then. -/
def countedThumb : Nat :=
  match c.exif with
  | none => 0
  | some e =>
    if e.thumbTooSmall ∨ ¬e.enableThumb = true then 0 else sizeSub jpegMaxSegmentSize e.appLength

end ExifCall

namespace CameraEncoder

/-- What is done with an encoder between its calls and in them. -/
inductive EncoderAct
  | configure (width height thumbWidth thumbHeight : UInt32) (noStreambaseAlign hwfcEnabled : Bool)
  | processExif (c : ExifCall)
  | finalize (thumbsize : Nat)

def step (s : CameraEncoder) : EncoderAct → CameraEncoder
  | .configure width height thumbWidth thumbHeight noStreambaseAlign hwfcEnabled =>
    { s with
      width := width
      height := height
      thumbWidth := thumbWidth
      thumbHeight := thumbHeight
      noStreambaseAlign := noStreambaseAlign
      hwfcEnabled := hwfcEnabled }
  | .processExif c => { s with appWriter := (s.processExif c.base c.limit c.exif c.debug).2.1 }
  | .finalize thumbsize =>
    { s with appWriter := (s.appWriter.finalize thumbsize Overlay.empty).1 }

/-- The encoder with a new writer. -/
def renew (s : CameraEncoder) (fresh : CAppMarkerWriter) : CameraEncoder :=
  { s with appWriter := .construct fresh }

/-- What the call would store on an encoder that is new but for its configuration. -/
def ownStores (s : CameraEncoder) (fresh : CAppMarkerWriter) (c : ExifCall) : Overlay :=
  (((s.renew fresh).prepared c.base c.exif c.debug).write (reserveThumbspace c.limit c.exif)
    jpegMarkerSize s.align s.hwfcEnabled Overlay.empty).2

/-- A call with rejected arguments fails; what a call stores comes from its own arguments. -/
structure CallRight (s : CameraEncoder) (c : ExifCall) : Prop where
  rejected : c.Rejected → (s.processExif c.base c.limit c.exif c.debug).1 = false
  failed : (s.processExif c.base c.limit c.exif c.debug).1 = false →
    (s.processExif c.base c.limit c.exif c.debug).2.2 = Overlay.empty
  own : (s.processExif c.base c.limit c.exif c.debug).1 = true → ∀ fresh,
    (s.processExif c.base c.limit c.exif c.debug).2.2 = s.ownStores fresh c

/-- What the length check adds up for rejected arguments: what was counted of them, the debug
segments of the last attribute that was accepted, and the APP11 segment of the last stream.  Space
for a thumbnail counts only at an address that is as far from the end of the address space. -/
def leftSize (s : CameraEncoder) (c : ExifCall) : Nat :=
  (if 0 < c.countedApp1 then c.countedApp1 + jpegMarkerSize else 0) +
    (match s.appWriter.debug with
      | none => 0
      | some debug => CAppMarkerWriter.debugSegmentsSize debug) +
    (if sizeSub 0 (c.base + jpegMarkerSize) =
        (c.countedApp1 + c.countedThumb + jpegMarkerSize) % 2 ^ 64 then c.countedThumb else 0) +
    s.appWriter.szApp11

/-- The call fails for another reason: the sizes in the attribute are not those of the encoder, or
the buffer is too short for what was left. -/
def FailsOtherwise (s : CameraEncoder) (c : ExifCall) : Prop :=
  ¬s.Consistent c.exif ∨ c.limit ≤ (s.leftSize c % 2 ^ 64 + necessaryJpegLength) % 2 ^ 64

end CameraEncoder

/-! ## 1. Members that a call does not read -/

namespace CAppMarkerWriter

/-- The two members that only `Write` sets. -/
def withMain (w : CAppMarkerWriter) (szApp11 mainBase : Nat) : CAppMarkerWriter :=
  { w with szApp11 := szApp11, mainBase := mainBase }

variable (w : CAppMarkerWriter) (a b : Nat)

theorem writeApp1Header_withMain : (w.withMain a b).writeApp1Header = w.writeApp1Header := rfl

theorem writePrimaryIfd_withMain : (w.withMain a b).writePrimaryIfd = w.writePrimaryIfd := rfl

theorem writeThumbIfd_withMain : (w.withMain a b).writeThumbIfd = w.writeThumbIfd := rfl

theorem writeApp1_withMain (current : Nat) (reserve updating : Bool) (out : Overlay) :
    (w.withMain a b).writeApp1 current reserve updating out =
      ((w.writeApp1 current reserve updating out).1.withMain a b,
        (w.writeApp1 current reserve updating out).2) := by
  unfold writeApp1
  rw [writeApp1Header_withMain, writePrimaryIfd_withMain, writeThumbIfd_withMain]
  obtain ⟨_, _, _, _, _, _, _, _, _, exif, _, _, _, _, _, _, _, _⟩ := w
  cases exif with
  | none => rfl
  | some e =>
    dsimp only [withMain]
    by_cases hupdating : updating = true
    · rw [if_pos hupdating, if_pos hupdating]
    · rw [if_neg hupdating, if_neg hupdating]
      by_cases henable : e.enableThumb = true
      · rw [if_pos henable, if_pos henable]
      · rw [if_neg henable, if_neg henable]

theorem writeAppx_withMain : (w.withMain a b).writeAppx = w.writeAppx := rfl

theorem writeApp11_withMain : (w.withMain a b).writeApp11 = w.writeApp11 := rfl

/-- What `Write` stores does not depend on them. -/
theorem stores_withMain (reserve : Bool) (dummy align : Nat) (reserveDebug : Bool) (out : Overlay) :
    ((w.withMain a b).write reserve dummy align reserveDebug out).2 =
      (w.write reserve dummy align reserveDebug out).2 := by
  unfold write
  dsimp only
  rw [show (w.withMain a b).appBase = w.appBase from rfl, writeApp1_withMain]
  dsimp only
  rw [writeAppx_withMain, writeApp11_withMain]

/-- For arguments that it accepts, `PrepareAppWriter` sets all but these. -/
theorem prepareAppWriter_eq (v : CAppMarkerWriter) (base : Nat) {exif : Option ExifAttribute}
    {debug : Option DebugAttribute} (hexif : ∀ e ∈ exif, ¬e.thumbTooSmall)
    (hdebug : ∀ d ∈ debug, d.Accepted) :
    v.prepareAppWriter base exif debug =
      (w.prepareAppWriter base exif debug).withMain v.szApp11 v.mainBase := by
  have hset : ∀ u : CAppMarkerWriter, u.prepareDebug debug = { u with debug := debug } := by
    intro u
    cases debug with
    | none => rfl
    | some d => exact if_pos (hdebug d rfl)
  unfold prepareAppWriter
  cases exif with
  | none =>
    dsimp only
    rw [hset, hset]
    rfl
  | some e =>
    dsimp only
    rw [if_neg (hexif e rfl), if_neg (hexif e rfl), hset, hset]
    unfold measureApp1
    by_cases henable : e.enableThumb = true
    · rw [if_pos henable, if_pos henable]
      rfl
    · rw [if_neg henable, if_neg henable]
      rfl

/-- Where the arguments are given up, the debug attribute of an earlier call is left. -/
theorem prepared_of_rejected (c : ExifCall) (h : c.Rejected) (base : Nat) :
    (w.prepareAppWriter base c.exif c.debug).debug = w.debug ∧
      (w.prepareAppWriter base c.exif c.debug).szApp1 = c.countedApp1 ∧
      (w.prepareAppWriter base c.exif c.debug).maxThumbSize = c.countedThumb := by
  have hkept : (∀ e ∈ c.exif, ¬e.thumbTooSmall) →
      ∀ u : CAppMarkerWriter, u.prepareDebug c.debug = u := by
    intro hexif u
    rcases h with ⟨e, he, hsmall⟩ | ⟨d, hd, hnot⟩
    · exact absurd hsmall (hexif e he)
    · rw [hd]
      exact if_neg hnot
  unfold prepareAppWriter ExifCall.countedApp1 ExifCall.countedThumb
  cases hcall : c.exif with
  | none =>
    dsimp only
    rw [hkept fun e he => by rw [hcall] at he; cases he]
    exact ⟨rfl, rfl, rfl⟩
  | some e =>
    dsimp only
    by_cases hsmall : e.thumbTooSmall
    · rw [if_pos hsmall, if_pos hsmall, if_pos (Or.inl hsmall)]
      exact ⟨rfl, rfl, rfl⟩
    · rw [if_neg hsmall, if_neg hsmall, hkept fun e' he' => by
        obtain rfl := Option.some.inj (hcall.symm.trans he')
        exact hsmall]
      unfold measureApp1
      by_cases henable : e.enableThumb = true
      · rw [if_pos henable, if_neg (not_or.mpr ⟨hsmall, not_not_intro henable⟩)]
        exact ⟨rfl, rfl, rfl⟩
      · rw [if_neg henable, if_pos (Or.inr henable)]
        exact ⟨rfl, rfl, rfl⟩

theorem app1End_prepareAppWriter (base : Nat) (exif : Option ExifAttribute)
    (debug : Option DebugAttribute) :
    (w.prepareAppWriter base exif debug).app1End = 0 ∧
      (w.prepareAppWriter base exif debug).szApp11 = w.szApp11 := by
  have hdebug : ∀ u : CAppMarkerWriter, (u.prepareDebug debug).app1End = u.app1End ∧
      (u.prepareDebug debug).szApp11 = u.szApp11 := by
    intro u
    unfold prepareDebug
    cases debug with
    | none => exact ⟨rfl, rfl⟩
    | some d =>
      dsimp only
      split <;> exact ⟨rfl, rfl⟩
  unfold prepareAppWriter
  cases exif with
  | none => exact hdebug _
  | some e =>
    dsimp only
    split
    · exact ⟨rfl, rfl⟩
    · obtain ⟨hend, hsize⟩ := hdebug (((w.init base (some e)).countFields e).measureApp1 e)
      rw [hend, hsize]
      unfold measureApp1
      split <;> exact ⟨rfl, rfl⟩

end CAppMarkerWriter

/-! ## 2. One call -/

namespace CameraEncoder

variable {s : CameraEncoder} {c : ExifCall}

/-- What the length check adds up for rejected arguments. -/
theorem calculateAppSize_of_rejected (h : c.Rejected) :
    (s.prepared c.base c.exif c.debug).calculateAppSize 0 = s.leftSize c % 2 ^ 64 := by
  obtain ⟨hdebug, hsize, hthumb⟩ :=
    CAppMarkerWriter.prepared_of_rejected s.appWriter c h (c.base + jpegMarkerSize)
  obtain ⟨hend, happ11⟩ := CAppMarkerWriter.app1End_prepareAppWriter s.appWriter
    (c.base + jpegMarkerSize) c.exif c.debug
  have hbase := appBase_prepareAppWriter s.appWriter (c.base + jpegMarkerSize) c.debug c.exif
  have hreserved : (s.prepared c.base c.exif c.debug).isThumbSpaceReserved ↔
      sizeSub 0 (c.base + jpegMarkerSize) =
        (c.countedApp1 + c.countedThumb + jpegMarkerSize) % 2 ^ 64 := by
    unfold CAppMarkerWriter.isThumbSpaceReserved prepared
    rw [hsize, hthumb, hend, hbase]
  unfold CAppMarkerWriter.calculateAppSize CAppMarkerWriter.appSizeSum leftSize
  simp only [hreserved]
  unfold prepared
  rw [hsize, hthumb, happ11, Nat.min_zero]
  cases hkept : s.appWriter.debug with
  | none => rw [hdebug.trans hkept]
  | some debug => rw [hdebug.trans hkept]

/-- A call with rejected arguments fails for another reason, or not at all. -/
theorem processExif_of_rejected (h : c.Rejected) :
    (s.processExif c.base c.limit c.exif c.debug).1 = false ↔ s.FailsOtherwise c := by
  unfold processExif FailsOtherwise
  rw [calculateAppSize_of_rejected h]
  by_cases hconsistent : s.Consistent c.exif
  · rw [if_neg (not_not_intro hconsistent), or_iff_right (not_not_intro hconsistent)]
    by_cases hshort : c.limit ≤ (s.leftSize c % 2 ^ 64 + necessaryJpegLength) % 2 ^ 64
    · rw [if_pos hshort]
      exact iff_of_true rfl hshort
    · rw [if_neg hshort]
      exact iff_of_false Bool.false_ne_true.symm hshort
  · rw [if_pos hconsistent]
    exact iff_of_true rfl (.inl hconsistent)

/-- A call that fails stores nothing. -/
theorem stores_of_failed (h : (s.processExif c.base c.limit c.exif c.debug).1 = false) :
    (s.processExif c.base c.limit c.exif c.debug).2.2 = Overlay.empty := by
  unfold processExif at h ⊢
  by_cases hconsistent : ¬s.Consistent c.exif
  · rw [if_pos hconsistent]
  · rw [if_neg hconsistent] at h ⊢
    split
    · rfl
    · rename_i hlong
      rw [if_neg hlong] at h
      cases h

/-- A call whose arguments are accepted stores what it would store on a new encoder. -/
theorem stores_of_accepted (haccepted : ¬c.Rejected)
    (h : (s.processExif c.base c.limit c.exif c.debug).1 = true) (fresh : CAppMarkerWriter) :
    (s.processExif c.base c.limit c.exif c.debug).2.2 = s.ownStores fresh c := by
  have hexif : ∀ e ∈ c.exif, ¬e.thumbTooSmall := fun e he hsmall => haccepted (.inl ⟨e, he, hsmall⟩)
  have hdebug : ∀ d ∈ c.debug, d.Accepted :=
    fun d hd => Classical.byContradiction fun hnot => haccepted (.inr ⟨d, hd, hnot⟩)
  have hprepared : s.prepared c.base c.exif c.debug =
      ((s.renew fresh).prepared c.base c.exif c.debug).withMain s.appWriter.szApp11
        s.appWriter.mainBase :=
    CAppMarkerWriter.prepareAppWriter_eq (s.renew fresh).appWriter s.appWriter _ hexif hdebug
  rw [(processExif_of_true h).2, hprepared, CAppMarkerWriter.stores_withMain]
  rfl

/-- A call is right unless its arguments are rejected and nothing else is wrong with it. -/
theorem callRight_iff : s.CallRight c ↔ (c.Rejected → s.FailsOtherwise c) := by
  constructor
  · exact fun hright hrejected => (processExif_of_rejected hrejected).mp (hright.rejected hrejected)
  · intro hfails
    have hrejected : c.Rejected → (s.processExif c.base c.limit c.exif c.debug).1 = false :=
      fun h => (processExif_of_rejected h).mpr (hfails h)
    refine ⟨hrejected, stores_of_failed, fun hdone => stores_of_accepted (fun h => ?_) hdone⟩
    rw [hrejected h] at hdone
    cases hdone

/-! ## 3. Runs -/

/-- In every run on one encoder each call is right exactly if each call with rejected arguments
fails for another reason. -/
theorem allCallsRight_iff (s : CameraEncoder) (fresh : CAppMarkerWriter) (acts : List EncoderAct) :
    (∀ n c, acts[n]? = some (.processExif c) →
      ((acts.take n).foldl step (s.renew fresh)).CallRight c) ↔
    ∀ n c, acts[n]? = some (.processExif c) → c.Rejected →
      ((acts.take n).foldl step (s.renew fresh)).FailsOtherwise c :=
  forall_congr' fun _ => forall_congr' fun _ => forall_congr' fun _ => callRight_iff

/-- A thumbnail of no size is rejected, and its segment is written. -/
theorem not_allCallsRight : ¬∀ (s : CameraEncoder) (fresh : CAppMarkerWriter)
    (acts : List EncoderAct) (n : Nat) (c : ExifCall), acts[n]? = some (.processExif c) →
      ((acts.take n).foldl step (s.renew fresh)).CallRight c := by
  intro hall
  have hright := hall newEncoder newEncoder.appWriter
    [.processExif ⟨0x10000, 100000, some noThumbSizeExif, none⟩] 0
    ⟨0x10000, 100000, some noThumbSizeExif, none⟩ rfl
  have hfalse := hright.rejected (.inl ⟨noThumbSizeExif, rfl, by decide⟩)
  have htrue : ((newEncoder.renew newEncoder.appWriter).processExif 0x10000 100000
      (some noThumbSizeExif) none).1 = true := by decide +kernel
  exact absurd (hfalse.symm.trans htrue) Bool.false_ne_true

end CameraEncoder

end Universal7870.Jpeg
