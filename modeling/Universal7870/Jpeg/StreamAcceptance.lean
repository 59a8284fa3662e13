import Universal7870.Jpeg.StreamBounds

/-!
# Which streams the parser accepts

The grammar the parser is to recognise: behind SOI a chain of segments, each with a marker and a
length, which comes to a baseline frame header that the hardware supports.  On a stream whose chain
stays inside it the parser accepts exactly that, and reports the fields of that header.
-/

namespace Universal7870.Jpeg

open Lib

namespace CJpegStreamParser

variable {stream : List UInt8} {p : CJpegStreamParser} {pos addr : Nat}

/-! ## 1. The grammar -/

def nextSegment (stream : List UInt8) (pos : Nat) : Nat := pos + 2 + be16At stream (pos + 2)

/-- A segment that may stand in front of the frame header. -/
def Passed (stream : List UInt8) (pos : Nat) : Prop :=
  byteAt stream pos = 0xFF ∧ ¬isSOF (byteAt stream (pos + 1)) ∧ byteAt stream (pos + 1) ≠ 0xD9 ∧
    byteAt stream (pos + 1) ≠ 0xDC ∧ be16At stream (pos + 2) ≠ 0

/-- `Chain stream pos pos'`: the segments from `pos` on come to the one at `pos'`. -/
inductive Chain (stream : List UInt8) : Nat → Nat → Prop
  | here (pos : Nat) : Chain stream pos pos
  | next {pos pos' : Nat} : Passed stream pos → Chain stream (nextSegment stream pos) pos' →
      Chain stream pos pos'

/-- What ends the chain lies inside the stream: something other than a marker, a marker that is
rejected whatever its segment, a length of 0, or the segment of a baseline frame header. -/
def EndsInside (stream : List UInt8) (pos : Nat) : Prop :=
  pos < stream.length ∧ (byteAt stream pos = 0xFF → pos + 1 < stream.length ∧
    (isSOF (byteAt stream (pos + 1)) → byteAt stream (pos + 1) = 0xC0 →
      pos + 3 < stream.length ∧ nextSegment stream pos ≤ stream.length) ∧
    (¬isSOF (byteAt stream (pos + 1)) → byteAt stream (pos + 1) ≠ 0xD9 →
      byteAt stream (pos + 1) ≠ 0xDC → pos + 3 < stream.length ∧ be16At stream (pos + 2) = 0))

instance (stream : List UInt8) (pos : Nat) : Decidable (Passed stream pos) :=
  inferInstanceAs (Decidable (_ ∧ _))

instance (stream : List UInt8) (pos : Nat) : Decidable (EndsInside stream pos) :=
  inferInstanceAs (Decidable (_ ∧ (_ → _)))

/-- The chain behind SOI stays inside the stream up to what ends it. -/
def ChainInside (stream : List UInt8) : Prop :=
  StartsWithSOI stream → ∃ pos, Chain stream 2 pos ∧ EndsInside stream pos

/-- The frame header with its length field at `addr` has fields that the hardware supports. -/
def Supported (stream : List UInt8) (addr : Nat) : Prop :=
  17 ≤ be16At stream addr ∧ byteAt stream (addr + 2) = 8 ∧
    supportedSize (be16At stream (addr + 3)) ∧ supportedSize (be16At stream (addr + 5)) ∧
    byteAt stream (addr + 7) = 3 ∧ byteAt stream (addr + 9) ∈ lumaSampling

instance (stream : List UInt8) (addr : Nat) : Decidable (Supported stream addr) :=
  inferInstanceAs (Decidable (_ ∧ _))

/-- The chain behind SOI comes to a baseline frame header at `pos`. -/
def FrameAt (stream : List UInt8) (pos : Nat) : Prop :=
  StartsWithSOI stream ∧ Chain stream 2 pos ∧ byteAt stream pos = 0xFF ∧
    byteAt stream (pos + 1) = 0xC0

/-- The fields of the frame header with its length field at `addr`. -/
def frameOf (stream : List UInt8) (addr : Nat) : CJpegStreamParser where
  nComponents := byteAt stream (addr + 7)
  nWidth := be16At stream (addr + 5)
  nHeight := be16At stream (addr + 3)
  iHorizontalFactor := byteAt stream (addr + 9) >>> 4
  iVerticalFactor := byteAt stream (addr + 9) &&& 0xF

theorem isSOF_baseline : isSOF 0xC0 := by decide

theorem isSOF_dac : isSOF 0xCC := by decide

theorem not_passed_of_endsInside (h : EndsInside stream pos) : ¬Passed stream pos := by
  rintro ⟨hff, hsof, heoi, hdnl, hne⟩
  exact hne ((h.2 hff).2.2 hsof heoi hdnl).2

theorem not_passed_of_baseline (h : byteAt stream (pos + 1) = 0xC0) : ¬Passed stream pos :=
  fun hpassed => hpassed.2.1 (h ▸ isSOF_baseline)

/-- A chain comes to one end only. -/
theorem Chain.end_unique {a b : Nat} (ha : Chain stream pos a) (hb : Chain stream pos b)
    (hna : ¬Passed stream a) (hnb : ¬Passed stream b) : a = b := by
  induction ha with
  | here pos =>
    cases hb with
    | here => rfl
    | next hpassed _ => exact absurd hpassed hna
  | next hpassed _ ih =>
    cases hb with
    | here => exact absurd hpassed hnb
    | next _ hrest => exact ih hrest hna

theorem Chain.le {pos' : Nat} (h : Chain stream pos pos') : pos ≤ pos' := by
  induction h with
  | here => exact Nat.le_refl _
  | next _ _ ih =>
    unfold nextSegment at ih
    omega

/-! ## 2. The frame header -/

theorem getLength_eq (h : addr + 1 < stream.length) :
    getLength stream addr = .ok (be16At stream addr) := by
  unfold getLength
  rw [readByte_eq (show addr < stream.length by omega), readByte_eq h]
  rfl

/-- What `ParseFrame` returns for a frame header inside the stream. -/
theorem parseFrame_spec (hlen : addr + 1 < stream.length)
    (hinside : addr + be16At stream addr ≤ stream.length) :
    ∃ accepted p', parseFrame stream p addr = .ok (accepted, p') ∧
      (accepted = true ↔ Supported stream addr) ∧
      (accepted = true → p' = frameOf stream addr) := by
  unfold parseFrame Supported
  rw [getLength_eq hlen, ok_bind]
  by_cases hshort : be16At stream addr < 17
  · rw [if_pos hshort]
    exact ⟨false, p, rfl, iff_of_false nofun fun h => by omega, nofun⟩
  rw [if_neg hshort, readByte_eq (show addr + 2 < stream.length by omega), ok_bind]
  by_cases hbits : byteAt stream (addr + 2) = 8
  swap
  · rw [if_pos hbits]
    exact ⟨false, _, rfl, iff_of_false nofun fun h => hbits h.2.1, nofun⟩
  rw [if_neg (not_not_intro hbits), getLength_eq (show addr + 3 + 1 < stream.length by omega),
    ok_bind]
  by_cases hheight : supportedSize (be16At stream (addr + 3))
  swap
  · rw [if_pos hheight]
    exact ⟨false, _, rfl, iff_of_false nofun fun h => hheight h.2.2.1, nofun⟩
  rw [if_neg (not_not_intro hheight), getLength_eq (show addr + 5 + 1 < stream.length by omega),
    ok_bind]
  by_cases hwidth : supportedSize (be16At stream (addr + 5))
  swap
  · rw [if_pos hwidth]
    exact ⟨false, _, rfl, iff_of_false nofun fun h => hwidth h.2.2.2.1, nofun⟩
  rw [if_neg (not_not_intro hwidth), readByte_eq (show addr + 7 < stream.length by omega), ok_bind]
  by_cases hcomponents : byteAt stream (addr + 7) = 3
  swap
  · rw [if_pos hcomponents]
    exact ⟨false, _, rfl, iff_of_false nofun fun h => hcomponents h.2.2.2.2.1, nofun⟩
  rw [if_neg (not_not_intro hcomponents), readByte_eq (show addr + 9 < stream.length by omega),
    ok_bind]
  by_cases hsampling : byteAt stream (addr + 9) ∈ lumaSampling
  swap
  · rw [if_pos hsampling]
    exact ⟨false, _, rfl, iff_of_false nofun fun h => hsampling h.2.2.2.2.2, nofun⟩
  rw [if_neg (not_not_intro hsampling)]
  exact ⟨true, _, rfl, iff_of_true rfl
    ⟨by omega, hbits, hheight, hwidth, hcomponents, hsampling⟩, fun _ => rfl⟩

/-! ## 3. The walk -/

/-- One segment in front of the frame header.  `filelen` is at least what is left of the stream, so
a segment that ends inside the stream is not taken for a corrupted one. -/
theorem parseLoop_passed {filelen : Nat} (hpassed : Passed stream pos)
    (hinside : nextSegment stream pos < stream.length) (hlen : stream.length - pos ≤ filelen) :
    parseLoop stream p pos filelen =
      parseLoop stream p (nextSegment stream pos) (filelen - be16At stream (pos + 2)) := by
  obtain ⟨hff, hsof, heoi, hdnl, hne⟩ := hpassed
  have hdac : byteAt stream (pos + 1) ≠ 0xCC := fun h => hsof (h ▸ isSOF_dac)
  have hrejected : ¬(byteAt stream (pos + 1) = 0xD9 ∨ byteAt stream (pos + 1) = 0xCC ∨
      byteAt stream (pos + 1) = 0xDC) := by
    rintro (h | h | h)
    · exact heoi h
    · exact hdac h
    · exact hdnl h
  unfold nextSegment at hinside ⊢
  have hfits : ¬(filelen < be16At stream (pos + 2) ∨ be16At stream (pos + 2) = 0) := by omega
  rw [parseLoop, if_neg (by omega), readByte_eq (show pos < stream.length by omega), ok_bind,
    if_neg (not_not_intro hff), readByte_eq (show pos + 1 < stream.length by omega), ok_bind,
    if_neg hsof, if_neg hrejected, getLength_eq (show pos + 2 + 1 < stream.length by omega),
    ok_bind, if_neg hfits]

/-- The walk comes to the end of the chain, with as much left to it as there is at least. -/
theorem parseLoop_chain {pos' filelen : Nat} (hchain : Chain stream pos pos')
    (hend : EndsInside stream pos') (hlen : stream.length - pos ≤ filelen) :
    ∃ filelen', stream.length - pos' ≤ filelen' ∧
      parseLoop stream p pos filelen = parseLoop stream p pos' filelen' := by
  induction hchain generalizing filelen with
  | here pos => exact ⟨filelen, hlen, rfl⟩
  | @next pos pos' hpassed hrest ih =>
    have hinside : nextSegment stream pos < stream.length := Nat.lt_of_le_of_lt hrest.le hend.1
    have hlen' : stream.length - nextSegment stream pos ≤
        filelen - be16At stream (pos + 2) := by
      unfold nextSegment
      omega
    rw [parseLoop_passed hpassed hinside hlen]
    exact ih hend hlen'

/-- What the walk returns at the end of the chain. -/
theorem parseLoop_end {filelen : Nat} (hend : EndsInside stream pos)
    (hlen : stream.length - pos ≤ filelen) :
    ∃ accepted p', parseLoop stream p pos filelen = .ok (accepted, p') ∧
      (accepted = true ↔ byteAt stream pos = 0xFF ∧ byteAt stream (pos + 1) = 0xC0 ∧
        Supported stream (pos + 2)) ∧
      (accepted = true → p' = frameOf stream (pos + 2)) := by
  obtain ⟨hpos, hmarker⟩ := hend
  rw [parseLoop]
  by_cases hcount : filelen < 2
  · -- what is left is a single byte
    rw [if_pos hcount]
    refine ⟨false, p, rfl, iff_of_false Bool.false_ne_true fun h => ?_, fun hf => by cases hf⟩
    have := (hmarker h.1).1
    omega
  rw [if_neg hcount, readByte_eq hpos, ok_bind]
  by_cases hff : byteAt stream pos = 0xFF
  swap
  · rw [if_pos hff]
    exact ⟨false, p, rfl, iff_of_false Bool.false_ne_true fun h => hff h.1, fun hf => by cases hf⟩
  obtain ⟨hpos', hframe, hzero⟩ := hmarker hff
  rw [if_neg (not_not_intro hff), readByte_eq hpos', ok_bind]
  by_cases hsof : isSOF (byteAt stream (pos + 1))
  · rw [if_pos hsof]
    by_cases hbaseline : byteAt stream (pos + 1) = 0xC0
    swap
    · rw [if_pos hbaseline]
      exact ⟨false, p, rfl, iff_of_false Bool.false_ne_true fun h => hbaseline h.2.1, fun hf => by cases hf⟩
    obtain ⟨hheader, hinside⟩ := hframe hsof hbaseline
    unfold nextSegment at hinside
    rw [if_neg (not_not_intro hbaseline),
      getLength_eq (show pos + 2 + 1 < stream.length by omega), ok_bind, if_neg (by omega)]
    obtain ⟨accepted, p', hparse, hiff, hfields⟩ :=
      parseFrame_spec (p := p) (show pos + 2 + 1 < stream.length by omega) hinside
    refine ⟨accepted, p', hparse, hiff.trans ?_, hfields⟩
    exact ⟨fun h => ⟨hff, hbaseline, h⟩, fun h => h.2.2⟩
  have hnotFrame : byteAt stream (pos + 1) ≠ 0xC0 := fun h => hsof (h ▸ isSOF_baseline)
  rw [if_neg hsof]
  by_cases hrejected : byteAt stream (pos + 1) = 0xD9 ∨ byteAt stream (pos + 1) = 0xCC ∨
      byteAt stream (pos + 1) = 0xDC
  · rw [if_pos hrejected]
    exact ⟨false, p, rfl, iff_of_false Bool.false_ne_true fun h => hnotFrame h.2.1, fun hf => by cases hf⟩
  obtain ⟨heoi, -, hdnl⟩ : _ ∧ _ ∧ _ := by
    rw [not_or, not_or] at hrejected
    exact hrejected
  obtain ⟨hheader, hlength⟩ := hzero hsof heoi hdnl
  rw [if_neg hrejected, getLength_eq (show pos + 2 + 1 < stream.length by omega), ok_bind,
    if_pos (.inr hlength)]
  exact ⟨false, p, rfl, iff_of_false Bool.false_ne_true fun h => hnotFrame h.2.1, fun hf => by cases hf⟩

/-! ## 4. The parser -/

theorem parse_of_not_soi (hlen : 2 ≤ stream.length) (hsoi : ¬StartsWithSOI stream) :
    parse stream = .ok (false, {}) := by
  unfold parse
  rw [if_neg (by omega), readByte_eq (show 0 < stream.length by omega),
    readByte_eq (show 1 < stream.length by omega)]
  by_cases hfirst : byteAt stream 0 = 0xFF
  · have hsecond : (byteAt stream 1 == 0xD8) = false :=
      beq_eq_false_iff_ne.mpr fun h => hsoi ⟨hfirst, h⟩
    simp only [ok_bind, hfirst, hsecond, ne_eq, not_true, if_false, pure_bind, Bool.false_eq_true]
    rfl
  · simp only [ok_bind, hfirst, ne_eq, not_false_iff, if_true, pure_bind, Bool.false_eq_true,
      if_false]
    rfl

theorem length_of_soi (hsoi : StartsWithSOI stream) : 2 ≤ stream.length := by
  by_contra hshort
  have hzero : byteAt stream 1 = 0 := by
    unfold byteAt
    rw [List.getD_eq_getElem?_getD, List.getElem?_eq_none (by omega)]
    rfl
  rw [hsoi.2] at hzero
  exact absurd hzero (by decide)

theorem parse_of_soi (hsoi : StartsWithSOI stream) :
    parse stream = parseLoop stream {} 2 (stream.length - 2) := by
  have hlen := length_of_soi hsoi
  unfold parse
  rw [if_neg (by omega), readByte_eq (show 0 < stream.length by omega),
    readByte_eq (show 1 < stream.length by omega)]
  simp only [ok_bind, hsoi.1, hsoi.2, ne_eq, not_true, if_false, pure_bind, BEq.rfl, if_true]

/-- A stream too short for SOI is not accepted: the message about it reads behind its end. -/
theorem not_accepted_of_short (hlen : stream.length < 2) (p : CJpegStreamParser) :
    parse stream ≠ .ok (true, p) := by
  intro h
  have hfit := (parse_inBounds_iff stream).mp ⟨_, h⟩
  exact absurd hfit.1 (by omega)

/-- On a stream whose chain of segments stays inside it, `Parse` returns, and it accepts iff the
stream starts with SOI and the chain comes to a baseline frame header that is supported before
anything that ends it.  It reports the fields of that header. -/
theorem parse_accepts_iff (stream : List UInt8) (hinside : ChainInside stream) :
    (2 ≤ stream.length → ∃ accepted p, parse stream = .ok (accepted, p)) ∧
    ((∃ p, parse stream = .ok (true, p)) ↔
      ∃ pos, FrameAt stream pos ∧ Supported stream (pos + 2)) ∧
    ∀ p, parse stream = .ok (true, p) → ∃ pos, FrameAt stream pos ∧ p = frameOf stream (pos + 2) := by
  by_cases hsoi : StartsWithSOI stream
  · obtain ⟨e, hchain, hend⟩ := hinside hsoi
    obtain ⟨filelen, hleft, hwalk⟩ :=
      parseLoop_chain (p := {}) hchain hend (Nat.le_refl (stream.length - 2))
    obtain ⟨accepted, p', hparse, hiff, hfields⟩ := parseLoop_end (p := {}) hend hleft
    rw [parse_of_soi hsoi, hwalk, hparse]
    refine ⟨fun _ => ⟨accepted, p', rfl⟩, ⟨?_, ?_⟩, ?_⟩
    · rintro ⟨p, hp⟩
      obtain ⟨rfl, rfl⟩ := Prod.mk.inj (Except.ok.inj hp)
      obtain ⟨hff, hbaseline, hsupported⟩ := hiff.mp rfl
      exact ⟨e, ⟨hsoi, hchain, hff, hbaseline⟩, hsupported⟩
    · rintro ⟨pos, ⟨-, hreach, hff, hbaseline⟩, hsupported⟩
      obtain rfl := hreach.end_unique hchain (not_passed_of_baseline hbaseline)
        (not_passed_of_endsInside hend)
      rw [hiff.mpr ⟨hff, hbaseline, hsupported⟩]
      exact ⟨p', rfl⟩
    · intro p hp
      obtain ⟨rfl, rfl⟩ := Prod.mk.inj (Except.ok.inj hp)
      obtain ⟨hff, hbaseline, -⟩ := hiff.mp rfl
      exact ⟨e, ⟨hsoi, hchain, hff, hbaseline⟩, hfields rfl⟩
  · have hnone : ∀ p, parse stream ≠ .ok (true, p) := by
      intro p hp
      by_cases hlen : stream.length < 2
      · exact not_accepted_of_short hlen p hp
      · rw [parse_of_not_soi (by omega) hsoi] at hp
        cases hp
    refine ⟨fun hlen => ⟨false, {}, parse_of_not_soi hlen hsoi⟩, ?_, fun p hp => absurd hp (hnone p)⟩
    exact iff_of_false (fun ⟨p, hp⟩ => hnone p hp) fun ⟨_, hframe, _⟩ => hsoi hframe.1

/-- A comment segment and the frame header of an image of 16 by 24 pixels. -/
def smallStream : List UInt8 :=
  [0xFF, 0xD8, 0xFF, 0xFE, 0, 4, 0x61, 0x62,
    0xFF, 0xC0, 0, 17, 8, 0, 24, 0, 16, 3, 1, 0x21, 0, 2, 0x11, 1, 3, 0x11, 1]

theorem smallStream_accepted : ∃ p, parse smallStream = .ok (true, p) :=
  (parse_accepts_iff smallStream fun _ =>
      ⟨8, .next (by decide) (.here 8), by decide⟩).2.1.mpr
    ⟨8, ⟨⟨by decide, by decide⟩, .next (by decide) (.here 8), by decide, by decide⟩, by decide⟩

example : frameOf smallStream 10 =
    { nComponents := 3, nWidth := 16, nHeight := 24, iHorizontalFactor := 2,
      iVerticalFactor := 1 } := by decide

end CJpegStreamParser

end Universal7870.Jpeg
