import Universal7870.Lib.Checked
import Universal7870.Jpeg.DebugAttribute

/-!
# Updating the debug segments of a finished stream

`UpdateDebugData` of `AppMarkerWriter.cpp`.  Plain `char` is unsigned on the ARM targets this
library is built for, so the comparisons with marker bytes are those of unsigned bytes, and
`size_t` is 64 bits wide.
-/

namespace Universal7870.Jpeg

open Lib

/-- `GetSegLen`: the big-endian number in the two bytes at `p`. -/
def getSegLen (jpeg : List UInt8) (p : Nat) : Checked Nat := do
  let high ← readByte jpeg p
  let low ← readByte jpeg (p + 1)
  return high.toNat * 256 + low.toNat

/-- An APPn marker whose number is in the mask. -/
def isTarget (validappidBits : Nat) (marker : UInt8) : Prop :=
  marker &&& 0xF0 = 0xE0 ∧ validappidBits.testBit (marker &&& 0xF).toNat = true

instance (validappidBits : Nat) (marker : UInt8) : Decidable (isTarget validappidBits marker) :=
  inferInstanceAs (Decidable (_ ∧ _))

def appidOf (marker : UInt8) : Int := (marker &&& 0xF).toNat

/-- SOS and EOI: no metadata segment follows. -/
def endsMetadata (marker : UInt8) : Prop := marker = 0xDA ∨ marker = 0xD9

instance (marker : UInt8) : Decidable (endsMetadata marker) := inferInstanceAs (Decidable (_ ∨ _))

/-- The loop of `UpdateDebugData`, at the offset `pos` with the source's two counters: `jpeglen` for
what is left of the stream, `validlen` for what is still to be stored. -/
def updateDebugLoop (debug : DebugAttribute) (validappidBits : Nat) (jpeg : List UInt8)
    (pos jpeglen validlen : Nat) : Checked (Bool × List UInt8) := do
  let first ← readByte jpeg pos
  if ¬(first = 0xFF ∧ 0 < validlen ∧ validlen < jpeglen) then return (true, jpeg)
  else
    let marker ← readByte jpeg (pos + 1)
    if jpeglen < 2 then throw .wrap
    else if endsMetadata marker then return (false, jpeg)
    else if isTarget validappidBits marker then
      let applen := debug.debugSize (appidOf marker)
      let seglen ← getSegLen jpeg (pos + 2)
      if seglen < applen + jpegSegmentLenfieldSize then return (false, jpeg)
      else
        let jpeg ← writeBytes jpeg (pos + 2 + jpegSegmentLenfieldSize)
          (debug.bytes (appidOf marker))
        let validlen := sizeSub validlen (applen + jpegMarkerSize + jpegSegmentLenfieldSize)
        if jpeglen - 2 < seglen then throw .wrap
        else
          updateDebugLoop debug validappidBits jpeg (pos + 2 + seglen) (jpeglen - 2 - seglen)
            validlen
    else
      let seglen ← getSegLen jpeg (pos + 2)
      -- a length of 0 still moves on, and a length past the end moves to the end
      let seglen := min (max seglen 1) (jpeglen - 2)
      updateDebugLoop debug validappidBits jpeg (pos + 2 + seglen) (jpeglen - 2 - seglen) validlen
termination_by jpeglen
decreasing_by all_goals omega

/-- `UpdateDebugData`, with the bytes of the stream as it leaves them. -/
def updateDebugData (jpeg : List UInt8) (debug : Option DebugAttribute) :
    Checked (Bool × List UInt8) :=
  match debug with
  | none => .ok (true, jpeg)
  | some debug =>
    if extraAppmarkerLimit - extraAppmarkerMin < debug.numOfAppmarker then .ok (false, jpeg)
    else
      let extra := debug.getExtraAPPSize
      if jpeg.length < extra.1 + jpegMarkerSize then .ok (false, jpeg)
      else do
        let first ← readByte jpeg 0
        if first ≠ 0xFF then return (false, jpeg)
        let second ← readByte jpeg 1
        if second ≠ 0xD8 then return (false, jpeg)
        updateDebugLoop debug extra.2 jpeg 2 (jpeg.length - 2) extra.1

/-! ## 1. The segments the walk visits -/

section

variable (debug : DebugAttribute) (bits : Nat) (jpeg : List UInt8)

/-- The loop test holds at `pos` while `need` bytes are still to be stored. -/
def Continues (pos need : Nat) : Prop :=
  byteAt jpeg pos = 0xFF ∧ 0 < need ∧ need < jpeg.length - pos

/-- If the segment at `pos` is to be updated, it has room for the data. -/
def HasRoom (pos : Nat) : Prop :=
  isTarget bits (byteAt jpeg (pos + 1)) →
    debug.debugSize (appidOf (byteAt jpeg (pos + 1))) + jpegSegmentLenfieldSize ≤
      be16At jpeg (pos + 2)

/-- The walk goes over the segment at `pos`. -/
def StepsOver (pos need : Nat) : Prop :=
  Continues jpeg pos need ∧ ¬endsMetadata (byteAt jpeg (pos + 1)) ∧ HasRoom debug bits jpeg pos

/-- Where the segment at `pos` ends, by its own length field. -/
def segmentEnd (pos : Nat) : Nat := pos + 2 + max (be16At jpeg (pos + 2)) 1

/-- What is still to be stored behind the segment at `pos`. -/
def needAfter (pos need : Nat) : Nat :=
  if isTarget bits (byteAt jpeg (pos + 1)) then
    sizeSub need (debug.debugSize (appidOf (byteAt jpeg (pos + 1))) + jpegMarkerSize +
      jpegSegmentLenfieldSize)
  else need

/-- `VisitFrom debug bits jpeg pos need pos' need'`: the walk at `pos` comes to `pos'`. -/
inductive VisitFrom : Nat → Nat → Nat → Nat → Prop
  | here (pos need : Nat) : VisitFrom pos need pos need
  | next {pos need pos' need' : Nat} : StepsOver debug bits jpeg pos need →
      VisitFrom (segmentEnd jpeg pos) (needAfter debug bits jpeg pos need) pos' need' →
      VisitFrom pos need pos' need'

/-- The position is inside the stream; a segment there has its marker and length field inside, and
if the walk goes over it then it ends before the end of the stream. -/
def SegmentFits (pos need : Nat) : Prop :=
  pos < jpeg.length ∧
  (Continues jpeg pos need → ¬endsMetadata (byteAt jpeg (pos + 1)) →
    pos + 4 ≤ jpeg.length ∧
    (HasRoom debug bits jpeg pos → segmentEnd jpeg pos < jpeg.length))

end

theorem forall_visitFrom_iff {debug : DebugAttribute} {bits pos need : Nat} {jpeg : List UInt8}
    {P : Nat → Nat → Prop} :
    (∀ pos' need', VisitFrom debug bits jpeg pos need pos' need' → P pos' need') ↔
      P pos need ∧ (StepsOver debug bits jpeg pos need → ∀ pos' need',
        VisitFrom debug bits jpeg (segmentEnd jpeg pos) (needAfter debug bits jpeg pos need)
          pos' need' → P pos' need') := by
  refine ⟨fun h => ⟨h _ _ (.here pos need), fun hs pos' need' hv => h _ _ (.next hs hv)⟩, ?_⟩
  rintro ⟨hhere, hnext⟩ pos' need' hv
  cases hv with
  | here => exact hhere
  | next hs hv => exact hnext hs _ _ hv

/-! ## 2. One segment -/

/-- The stream is the original one from `pos` on, whatever was stored before. -/
def SameFrom (orig jpeg : List UInt8) (pos : Nat) : Prop :=
  jpeg.length = orig.length ∧ ∀ i, pos ≤ i → byteAt jpeg i = byteAt orig i

theorem succeeds_getSegLen_bind {β : Type} {jpeg : List UInt8} {p : Nat} {f : Nat → Checked β} :
    Succeeds (getSegLen jpeg p >>= f) ↔ p + 1 < jpeg.length ∧ Succeeds (f (be16At jpeg p)) := by
  unfold getSegLen be16At
  simp only [bind_assoc, pure_bind, succeeds_readByte_bind]
  constructor
  · exact fun ⟨_, h, hf⟩ => ⟨h, hf⟩
  · exact fun ⟨h, hf⟩ => ⟨by omega, h, hf⟩

/-- The stream behind the segment at `pos`: the one that was walked over, or the updated one. -/
def afterSegment (debug : DebugAttribute) (bits : Nat) (jpeg : List UInt8) (pos : Nat) :
    List UInt8 :=
  if isTarget bits (byteAt jpeg (pos + 1)) then
    splice jpeg (pos + 4) (debug.bytes (appidOf (byteAt jpeg (pos + 1))))
  else jpeg

/-- Where the loop test itself reads past the end. -/
theorem not_succeeds_updateDebugLoop {debug : DebugAttribute} {bits pos jpeglen need : Nat}
    {jpeg : List UInt8} (h : jpeg.length ≤ pos) :
    ¬Succeeds (updateDebugLoop debug bits jpeg pos jpeglen need) := by
  rw [updateDebugLoop, succeeds_readByte_bind]
  intro hs
  omega

theorem segmentEnd_of_room {jpeg : List UInt8} {pos n : Nat}
    (h : n + jpegSegmentLenfieldSize ≤ be16At jpeg (pos + 2)) :
    segmentEnd jpeg pos = pos + 2 + be16At jpeg (pos + 2) := by
  unfold segmentEnd
  unfold jpegSegmentLenfieldSize at h
  omega

theorem succeeds_updateDebugLoop_target {debug : DebugAttribute} {bits pos need : Nat}
    {jpeg : List UInt8} (hcont : Continues jpeg pos need)
    (hend : ¬endsMetadata (byteAt jpeg (pos + 1))) (htarget : isTarget bits (byteAt jpeg (pos + 1))) :
    Succeeds (updateDebugLoop debug bits jpeg pos (jpeg.length - pos) need) ↔
      pos + 4 ≤ jpeg.length ∧ (HasRoom debug bits jpeg pos → segmentEnd jpeg pos < jpeg.length ∧
        Succeeds (updateDebugLoop debug bits (afterSegment debug bits jpeg pos)
          (segmentEnd jpeg pos) (jpeg.length - segmentEnd jpeg pos)
          (needAfter debug bits jpeg pos need))) := by
  obtain ⟨hff, hneed, hlt⟩ := hcont
  have hpos : 2 ≤ jpeg.length - pos := by omega
  rw [updateDebugLoop]
  unfold HasRoom needAfter afterSegment
  simp only [succeeds_readByte_bind, succeeds_ite, succeeds_pure, succeeds_getSegLen_bind,
    succeeds_writeBytes_bind, not_succeeds_throw, hff, hneed, hlt, hend, htarget,
    DebugAttribute.length_bytes, if_true, and_self, not_true, true_implies,
    implies_true, not_false_iff, true_and, and_true, imp_false, Nat.not_lt, hpos]
  constructor
  · rintro ⟨-, -, hhdr, hroom⟩
    refine ⟨by omega, fun hlen => ?_⟩
    obtain ⟨hcopy, hwrap, hloop⟩ := hroom hlen
    have hseg : segmentEnd jpeg pos = pos + 2 + be16At jpeg (pos + 2) := segmentEnd_of_room hlen
    rw [hseg, show jpeg.length - (pos + 2 + be16At jpeg (pos + 2)) =
      jpeg.length - pos - 2 - be16At jpeg (pos + 2) by omega]
    refine ⟨?_, hloop hwrap⟩
    -- an update that ends where the stream ends reads its next marker behind it
    by_contra hover
    refine not_succeeds_updateDebugLoop ?_ (hloop hwrap)
    rw [length_splice (by rw [DebugAttribute.length_bytes]; exact hcopy)]
    omega
  · rintro ⟨hfour, hroom⟩
    refine ⟨by omega, by omega, by omega, fun hlen => ?_⟩
    obtain ⟨hfits, hloop⟩ := hroom hlen
    have hseg : segmentEnd jpeg pos = pos + 2 + be16At jpeg (pos + 2) := segmentEnd_of_room hlen
    rw [hseg, show jpeg.length - (pos + 2 + be16At jpeg (pos + 2)) =
      jpeg.length - pos - 2 - be16At jpeg (pos + 2) by omega] at hloop
    rw [hseg] at hfits
    unfold jpegSegmentLenfieldSize at hlen ⊢
    exact ⟨by omega, by omega, fun _ => hloop⟩

theorem succeeds_updateDebugLoop_other {debug : DebugAttribute} {bits pos need : Nat}
    {jpeg : List UInt8} (hcont : Continues jpeg pos need)
    (hend : ¬endsMetadata (byteAt jpeg (pos + 1)))
    (htarget : ¬isTarget bits (byteAt jpeg (pos + 1))) :
    Succeeds (updateDebugLoop debug bits jpeg pos (jpeg.length - pos) need) ↔
      pos + 4 ≤ jpeg.length ∧ segmentEnd jpeg pos < jpeg.length ∧
        Succeeds (updateDebugLoop debug bits jpeg (segmentEnd jpeg pos)
          (jpeg.length - segmentEnd jpeg pos) need) := by
  obtain ⟨hff, hneed, hlt⟩ := hcont
  have hpos : 2 ≤ jpeg.length - pos := by omega
  rw [updateDebugLoop]
  simp only [succeeds_readByte_bind, succeeds_ite, succeeds_getSegLen_bind, not_succeeds_throw,
    hff, hneed, hlt, hend, htarget, if_false, and_self, not_true, true_implies,
    true_and, imp_false, Nat.not_lt, hpos]
  constructor
  · rintro ⟨-, -, hhdr, hloop⟩
    by_cases hfits : segmentEnd jpeg pos < jpeg.length
    · have hclamp : min (max (be16At jpeg (pos + 2)) 1) (jpeg.length - pos - 2) =
          max (be16At jpeg (pos + 2)) 1 := by
        unfold segmentEnd at hfits
        omega
      rw [hclamp] at hloop
      refine ⟨by omega, hfits, ?_⟩
      unfold segmentEnd
      rw [show jpeg.length - (pos + 2 + max (be16At jpeg (pos + 2)) 1) =
        jpeg.length - pos - 2 - max (be16At jpeg (pos + 2)) 1 by omega]
      exact hloop
    · -- a segment cut to the end of the stream is followed by one more loop test
      refine absurd hloop (not_succeeds_updateDebugLoop ?_)
      unfold segmentEnd at hfits
      omega
  · rintro ⟨hfour, hfits, hloop⟩
    refine ⟨by omega, by omega, by omega, ?_⟩
    unfold segmentEnd at hfits hloop
    have hclamp : min (max (be16At jpeg (pos + 2)) 1) (jpeg.length - pos - 2) =
        max (be16At jpeg (pos + 2)) 1 := by omega
    rw [hclamp, show jpeg.length - pos - 2 - max (be16At jpeg (pos + 2)) 1 =
      jpeg.length - (pos + 2 + max (be16At jpeg (pos + 2)) 1) by omega]
    exact hloop

/-- One segment: it fits, and if the walk goes over it the rest of the walk succeeds. -/
theorem succeeds_updateDebugLoop_step {debug : DebugAttribute} {bits pos need : Nat}
    {jpeg : List UInt8} :
    Succeeds (updateDebugLoop debug bits jpeg pos (jpeg.length - pos) need) ↔
      SegmentFits debug bits jpeg pos need ∧ (StepsOver debug bits jpeg pos need →
        Succeeds (updateDebugLoop debug bits (afterSegment debug bits jpeg pos)
          (segmentEnd jpeg pos) (jpeg.length - segmentEnd jpeg pos)
          (needAfter debug bits jpeg pos need))) := by
  unfold SegmentFits StepsOver
  by_cases hcont : Continues jpeg pos need
  · obtain ⟨hff, hneed, hlt⟩ := hcont
    have hcont : Continues jpeg pos need := ⟨hff, hneed, hlt⟩
    by_cases hend : endsMetadata (byteAt jpeg (pos + 1))
    · have hloop : Succeeds (updateDebugLoop debug bits jpeg pos (jpeg.length - pos) need) := by
        rw [updateDebugLoop]
        simp only [succeeds_readByte_bind, succeeds_ite, succeeds_pure, not_succeeds_throw, hff,
          hneed, hlt, hend, and_self, not_true, false_implies, and_true, imp_false, Nat.not_lt,
          true_and, implies_true]
        omega
      exact iff_of_true hloop
        ⟨⟨by omega, fun _ h => absurd hend h⟩, fun h => absurd hend h.2.1⟩
    · by_cases htarget : isTarget bits (byteAt jpeg (pos + 1))
      · rw [succeeds_updateDebugLoop_target hcont hend htarget]
        constructor
        · rintro ⟨hfour, hroom⟩
          exact ⟨⟨by omega, fun _ _ => ⟨hfour, fun h => (hroom h).1⟩⟩, fun h => (hroom h.2.2).2⟩
        · rintro ⟨⟨-, hfits⟩, hloop⟩
          obtain ⟨hfour, hroom⟩ := hfits hcont hend
          exact ⟨hfour, fun h => ⟨hroom h, hloop ⟨hcont, hend, h⟩⟩⟩
      · rw [succeeds_updateDebugLoop_other hcont hend htarget]
        have hroom : HasRoom debug bits jpeg pos := fun h => absurd h htarget
        unfold needAfter afterSegment
        rw [if_neg htarget, if_neg htarget]
        constructor
        · rintro ⟨hfour, hfits, hloop⟩
          exact ⟨⟨by omega, fun _ _ => ⟨hfour, fun _ => hfits⟩⟩, fun _ => hloop⟩
        · rintro ⟨⟨-, hfits⟩, hloop⟩
          obtain ⟨hfour, hend'⟩ := hfits hcont hend
          exact ⟨hfour, hend' hroom, hloop ⟨hcont, hend, hroom⟩⟩
  · have hstop : ¬(byteAt jpeg pos = 0xFF ∧ 0 < need ∧ need < jpeg.length - pos) := hcont
    rw [updateDebugLoop]
    simp only [succeeds_readByte_bind, succeeds_ite, succeeds_pure, hcont, hstop, not_true,
      not_false_iff, true_implies, false_implies, false_and, and_true]

/-! ## 3. The walk

What the walk has stored lies behind it: the segments it still visits are those of the stream it
was given. -/

theorem stepsOver_congr {debug : DebugAttribute} {bits pos need : Nat} {orig jpeg : List UInt8}
    (h : SameFrom orig jpeg pos) :
    StepsOver debug bits jpeg pos need ↔ StepsOver debug bits orig pos need := by
  unfold StepsOver Continues HasRoom be16At
  rw [h.1, h.2 pos (by omega), h.2 (pos + 1) (by omega), h.2 (pos + 2) (by omega),
    h.2 (pos + 2 + 1) (by omega)]

theorem segmentFits_congr {debug : DebugAttribute} {bits pos need : Nat} {orig jpeg : List UInt8}
    (h : SameFrom orig jpeg pos) :
    SegmentFits debug bits jpeg pos need ↔ SegmentFits debug bits orig pos need := by
  unfold SegmentFits Continues HasRoom segmentEnd be16At
  rw [h.1, h.2 pos (by omega), h.2 (pos + 1) (by omega), h.2 (pos + 2) (by omega),
    h.2 (pos + 2 + 1) (by omega)]

theorem segmentEnd_congr {pos : Nat} {orig jpeg : List UInt8} (h : SameFrom orig jpeg pos) :
    segmentEnd jpeg pos = segmentEnd orig pos := by
  unfold segmentEnd be16At
  rw [h.2 (pos + 2) (by omega), h.2 (pos + 2 + 1) (by omega)]

theorem needAfter_congr {debug : DebugAttribute} {bits pos need : Nat} {orig jpeg : List UInt8}
    (h : SameFrom orig jpeg pos) :
    needAfter debug bits jpeg pos need = needAfter debug bits orig pos need := by
  unfold needAfter
  rw [h.2 (pos + 1) (by omega)]

theorem afterSegment_same {debug : DebugAttribute} {bits pos need : Nat} {orig jpeg : List UInt8}
    (h : SameFrom orig jpeg pos) (hfits : SegmentFits debug bits jpeg pos need)
    (hstep : StepsOver debug bits jpeg pos need) :
    SameFrom orig (afterSegment debug bits jpeg pos) (segmentEnd jpeg pos) := by
  have hend := (hfits.2 hstep.1 hstep.2.1).2 hstep.2.2
  unfold afterSegment
  split
  · rename_i htarget
    have hroom := hstep.2.2 htarget
    have hseg : segmentEnd jpeg pos = pos + 2 + be16At jpeg (pos + 2) := segmentEnd_of_room hroom
    unfold jpegSegmentLenfieldSize at hroom
    have hcopy : pos + 4 + (debug.bytes (appidOf (byteAt jpeg (pos + 1)))).length ≤
        segmentEnd jpeg pos := by
      rw [DebugAttribute.length_bytes]
      omega
    refine ⟨(length_splice (by omega)).trans h.1, fun i hi => ?_⟩
    rw [byteAt_splice_after (by omega) (by omega)]
    exact h.2 i (by omega)
  · refine ⟨h.1, fun i hi => h.2 i ?_⟩
    unfold segmentEnd at hi
    omega

theorem succeeds_updateDebugLoop_iff {debug : DebugAttribute} {bits pos need : Nat}
    {orig jpeg : List UInt8} (hsame : SameFrom orig jpeg pos) :
    Succeeds (updateDebugLoop debug bits jpeg pos (jpeg.length - pos) need) ↔
      ∀ pos' need', VisitFrom debug bits orig pos need pos' need' →
        SegmentFits debug bits orig pos' need' := by
  induction hn : orig.length - pos using Nat.strongRecOn generalizing pos need jpeg with
  | ind n ih =>
    rw [succeeds_updateDebugLoop_step, forall_visitFrom_iff, segmentFits_congr hsame,
      stepsOver_congr hsame]
    refine and_congr_right fun hfits => forall_congr' fun hstep => ?_
    have hsame' := afterSegment_same hsame ((segmentFits_congr hsame).mpr hfits)
      ((stepsOver_congr hsame).mpr hstep)
    have hdecr : orig.length - segmentEnd jpeg pos < n := by
      have hcont := hstep.1
      unfold Continues at hcont
      unfold segmentEnd
      omega
    rw [hsame.1, needAfter_congr hsame, ← hsame'.1, ih _ hdecr hsame' rfl, segmentEnd_congr hsame]

/-- Every position the walk over a stream that is long enough comes to fits into the stream. -/
def SegmentsFit (jpeg : List UInt8) (debug : DebugAttribute) : Prop :=
  debug.numOfAppmarker ≤ extraAppmarkerLimit - extraAppmarkerMin →
    debug.getExtraAPPSize.1 + jpegMarkerSize ≤ jpeg.length →
    byteAt jpeg 0 = 0xFF → byteAt jpeg 1 = 0xD8 →
    ∀ pos need, VisitFrom debug debug.getExtraAPPSize.2 jpeg 2 debug.getExtraAPPSize.1 pos need →
      SegmentFits debug debug.getExtraAPPSize.2 jpeg pos need

/-- `UpdateDebugData` stays inside the stream, and does not wrap its counter, iff every segment it
walks over has its marker and length field inside the stream and ends before the stream does. -/
theorem updateDebugData_inBounds_iff (jpeg : List UInt8) (debug : Option DebugAttribute) :
    Succeeds (updateDebugData jpeg debug) ↔ ∀ d ∈ debug, SegmentsFit jpeg d := by
  cases debug with
  | none =>
    unfold updateDebugData
    simp
  | some d =>
    unfold updateDebugData SegmentsFit
    have hself : SameFrom jpeg jpeg 2 := ⟨rfl, fun _ _ => rfl⟩
    simp only [succeeds_ite, succeeds_ok, succeeds_pure, succeeds_readByte_bind,
      succeeds_updateDebugLoop_iff hself, Nat.not_lt,
      ne_eq, not_not, implies_true, true_and, Option.mem_some_iff, forall_eq', Int.not_lt]
    unfold jpegMarkerSize
    constructor
    · exact fun h hnum hlen hfirst hsecond => ((h hnum hlen).2 hfirst).2 hsecond
    · exact fun h hnum hlen =>
        ⟨by omega, fun hfirst => ⟨by omega, fun hsecond => h hnum hlen hfirst hsecond⟩⟩

/-- No debug data to store, and a stream that ends behind its SOI: the loop test reads behind it. -/
theorem updateDebugData_reads_past_end :
    ¬∀ (jpeg : List UInt8) (debug : Option DebugAttribute),
      Succeeds (updateDebugData jpeg debug) := by
  intro hall
  have hloop : Succeeds (updateDebugLoop ⟨0, fun _ => 0, fun _ _ => 0, fun _ => 0⟩ 0 [0xFF, 0xD8] 2
      0 0) := hall [0xFF, 0xD8] (some ⟨0, fun _ => 0, fun _ _ => 0, fun _ => 0⟩)
  exact not_succeeds_updateDebugLoop (by decide) hloop

end Universal7870.Jpeg
