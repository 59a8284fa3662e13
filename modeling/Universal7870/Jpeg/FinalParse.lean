import Universal7870.Jpeg.FinalStream
import Universal7870.Jpeg.StreamAcceptance

/-!
# The parser on the final stream

The parser steps over the metadata of the header, so what it finds in the final stream is the frame
header of the main stream.
-/

namespace Universal7870.Jpeg

open Lib

namespace CJpegStreamParser

/-! ## 1. The same bytes further on -/

section

variable {rest : List UInt8} {i j : Nat} (pre : List UInt8)

theorem byteAt_behind (rest : List UInt8) (i : Nat) :
    byteAt (pre ++ rest) (pre.length + i) = byteAt rest i := by
  unfold byteAt
  rw [List.getD_eq_getElem?_getD, List.getD_eq_getElem?_getD, List.getElem?_append_right
    (Nat.le_add_right _ _), Nat.add_sub_cancel_left]

theorem be16At_behind (rest : List UInt8) (i : Nat) :
    be16At (pre ++ rest) (pre.length + i) = be16At rest i := by
  unfold be16At
  rw [Nat.add_assoc, byteAt_behind, byteAt_behind]

theorem nextSegment_behind (rest : List UInt8) (i : Nat) :
    nextSegment (pre ++ rest) (pre.length + i) = pre.length + nextSegment rest i := by
  have hlength := be16At_behind pre rest (i + 2)
  rw [← Nat.add_assoc] at hlength
  unfold nextSegment
  rw [hlength]
  omega

theorem passed_behind : Passed (pre ++ rest) (pre.length + i) ↔ Passed rest i := by
  unfold Passed
  rw [Nat.add_assoc, Nat.add_assoc, byteAt_behind, byteAt_behind, be16At_behind]

theorem Chain.behind (h : Chain rest i j) : Chain (pre ++ rest) (pre.length + i) (pre.length + j) := by
  induction h with
  | here => exact .here _
  | next hpassed _ ih =>
    rw [← nextSegment_behind] at ih
    exact .next ((passed_behind pre).mpr hpassed) ih

theorem Chain.trans {stream : List UInt8} {a b c : Nat} (hab : Chain stream a b)
    (hbc : Chain stream b c) : Chain stream a c := by
  induction hab with
  | here => exact hbc
  | next hpassed _ ih => exact .next hpassed (ih hbc)

end

/-! ## 2. Segments in front of the frame header -/

/-- The marker of a segment that the parser steps over. -/
def Skippable (marker : UInt8) : Prop := ¬isSOF marker ∧ marker ≠ 0xD9 ∧ marker ≠ 0xDC

instance (marker : UInt8) : Decidable (Skippable marker) := inferInstanceAs (Decidable (_ ∧ _))

/-- Marker segments, one behind the other. -/
inductive Segments : List UInt8 → Prop
  | nil : Segments []
  | cons {marker : UInt8} {payload bs rest : List UInt8} : Segment marker payload bs →
      Skippable marker → Segments rest → Segments (bs ++ rest)

theorem Segments.append {xs ys : List UInt8} (hx : Segments xs) (hy : Segments ys) :
    Segments (xs ++ ys) := by
  induction hx with
  | nil => exact hy
  | cons hs hm _ ih =>
    rw [List.append_assoc]
    exact .cons hs hm ih

theorem Segments.single {marker : UInt8} {payload bs : List UInt8} (hs : Segment marker payload bs)
    (hm : Skippable marker) : Segments bs := by
  rw [← List.append_nil bs]
  exact .cons hs hm .nil

theorem Segments.flatMap {is : List Nat} {segment : Nat → List UInt8}
    (h : ∀ i ∈ is, Segments (segment i)) : Segments (is.flatMap segment) := by
  induction is with
  | nil => exact .nil
  | cons i is ih =>
    have his := List.forall_mem_cons.mp h
    rw [List.flatMap_cons]
    exact his.1.append (ih his.2)

/-- The length field of a segment leads to what follows it. -/
theorem passed_segment {marker : UInt8} {payload bs : List UInt8} (hs : Segment marker payload bs)
    (hm : Skippable marker) (tail : List UInt8) :
    Passed (bs ++ tail) 0 ∧ nextSegment (bs ++ tail) 0 = bs.length := by
  have hfits := hs.fits
  rw [hs.bytes]
  generalize hlen : payload.length + jpegSegmentLenfieldSize = len at hfits
  -- the length field, read in the order of the network
  have hvalue : be16At ([0xFF, marker] ++ be16 len ++ payload ++ tail) 2 = len := by
    change (UInt8.ofNat (len / 2 ^ 8)).toNat * 256 + (UInt8.ofNat len).toNat = len
    rw [UInt8.toNat_ofNat', UInt8.toNat_ofNat']
    omega
  unfold jpegSegmentLenfieldSize at hlen
  refine ⟨⟨rfl, hm.1, hm.2.1, hm.2.2, ?_⟩, ?_⟩
  · rw [hvalue]
    omega
  · unfold nextSegment
    rw [hvalue, List.length_append, List.length_append, length_be16]
    change 0 + 2 + len = 2 + 2 + payload.length
    omega

theorem Segments.chain {segs : List UInt8} (h : Segments segs) (tail : List UInt8) :
    Chain (segs ++ tail) 0 segs.length := by
  induction h with
  | nil => exact .here 0
  | @cons marker payload bs rest hs hm _ ih =>
    obtain ⟨hpassed, hnext⟩ := passed_segment hs hm (rest ++ tail)
    have hrest := ih.behind bs
    rw [Nat.add_zero] at hrest
    rw [List.append_assoc, List.length_append]
    refine .next hpassed ?_
    rw [hnext]
    exact hrest

variable {c : Compression}

end CJpegStreamParser

end Universal7870.Jpeg
