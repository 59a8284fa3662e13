import Universal7870.Jpeg.DebugUpdate

/-!
# What an update of the debug segments leaves behind

A stream that is a chain of segments up to SOS or EOI.  The walk of `UpdateDebugData` ends at one
position of the chain; the segments of listed markers in front of it hold the new data then, and
every other byte is the old one.  Whether that is all of the data or none of it depends on where
the walk ends.
-/

namespace Universal7870.Jpeg

open Lib

namespace UpdateDebugData

/-! ## 1. Chains of segments -/

section

variable (jpeg : List UInt8)

/-- A chain of segments from `pos` on whose lengths stay inside the stream, up to SOS or EOI. -/
inductive Chain : Nat → Prop
  | last {pos : Nat} : pos + 2 ≤ jpeg.length → byteAt jpeg pos = 0xFF →
      endsMetadata (byteAt jpeg (pos + 1)) → Chain pos
  | segment {pos : Nat} : pos + 4 ≤ jpeg.length → byteAt jpeg pos = 0xFF →
      ¬endsMetadata (byteAt jpeg (pos + 1)) → Chain (pos + 2 + be16At jpeg (pos + 2)) → Chain pos

/-- `SegmentFrom jpeg pos q`: the chain from `pos` on comes to the segment at `q`. -/
inductive SegmentFrom : Nat → Nat → Prop
  | here (pos : Nat) : SegmentFrom pos pos
  | next {pos q : Nat} : ¬endsMetadata (byteAt jpeg (pos + 1)) →
      SegmentFrom (pos + 2 + be16At jpeg (pos + 2)) q → SegmentFrom pos q

structure WellFormed : Prop where
  soi : 2 ≤ jpeg.length ∧ byteAt jpeg 0 = 0xFF ∧ byteAt jpeg 1 = 0xD8
  chain : Chain jpeg 2

variable (debug : DebugAttribute)

/-- The payload of the segment at `q` begins with the data of the marker it has. -/
def BeginsWithData (q : Nat) : Prop :=
  ∀ i, i < debug.debugSize (appidOf (byteAt jpeg (q + 1))) →
    byteAt jpeg (q + 4 + i) = debug.debugData (appidOf (byteAt jpeg (q + 1))) i

/-- The stream has a segment of an application marker with room for its data, and the payload of
that segment begins with them. -/
def Holds (appid : Int) : Prop :=
  ∃ q, SegmentFrom jpeg 2 q ∧ byteAt jpeg (q + 1) &&& 0xF0 = 0xE0 ∧
    appidOf (byteAt jpeg (q + 1)) = appid ∧
    debug.debugSize appid + jpegSegmentLenfieldSize ≤ be16At jpeg (q + 2) ∧
    BeginsWithData jpeg debug q

/-- The walk from `pos` on goes over a segment of a listed marker at `q`. -/
def UpdatesFrom (bits pos need q : Nat) : Prop :=
  ∃ need', VisitFrom debug bits jpeg pos need q need' ∧ StepsOver debug bits jpeg q need' ∧
    isTarget bits (byteAt jpeg (q + 1))

end

/-- All data are stored if the update returns true, and none if it returns false. -/
def AllOrNothing (jpeg : List UInt8) (debug : Option DebugAttribute) : Prop :=
  ∃ done out, updateDebugData jpeg debug = .ok (done, out) ∧
    (done = true → ∀ d ∈ debug, ∀ i < d.numOfAppmarker.toNat, Holds out d (d.idx i)) ∧
    (done = false → out = jpeg)

/-- Where the walk ends.  If SOS, EOI or a segment that is too small stops it, each listed segment in
front of that already began with its data.  If there is nothing left to store, or not enough of the
stream left, each listed marker is that of a segment the walk went over, or of a segment with room
that already began with its data. -/
def EndsRight (jpeg : List UInt8) (d : DebugAttribute) : Prop :=
  d.numOfAppmarker ≤ extraAppmarkerLimit - extraAppmarkerMin →
    d.getExtraAPPSize.1 + jpegMarkerSize ≤ jpeg.length →
    ∀ pos need, VisitFrom d d.getExtraAPPSize.2 jpeg 2 d.getExtraAPPSize.1 pos need →
      ¬StepsOver d d.getExtraAPPSize.2 jpeg pos need →
      (Continues jpeg pos need →
        ∀ q, UpdatesFrom jpeg d d.getExtraAPPSize.2 2 d.getExtraAPPSize.1 q →
          BeginsWithData jpeg d q) ∧
      (¬Continues jpeg pos need →
        ∀ i < d.numOfAppmarker.toNat,
          (∃ q, UpdatesFrom jpeg d d.getExtraAPPSize.2 2 d.getExtraAPPSize.1 q ∧
            appidOf (byteAt jpeg (q + 1)) = d.idx i) ∨ Holds jpeg d (d.idx i))

variable {jpeg orig out : List UInt8} {d : DebugAttribute} {bits pos need q : Nat}

theorem Chain.header (h : Chain jpeg pos) : pos + 2 ≤ jpeg.length ∧ byteAt jpeg pos = 0xFF := by
  cases h with
  | last hlen hff _ => exact ⟨hlen, hff⟩
  | segment hlen hff _ _ => exact ⟨by omega, hff⟩

/-- A length below 2 would have the next segment begin in the length field itself, which then does
not hold 0xFF. -/
theorem two_le_length {p : Nat} (hnext : byteAt jpeg (p + be16At jpeg p) = 0xFF) :
    2 ≤ be16At jpeg p := by
  by_contra hsmall
  have hhigh : byteAt jpeg p = 0 := by
    have hzero : (byteAt jpeg p).toNat = 0 := by
      unfold be16At at hsmall
      omega
    exact UInt8.toNat_inj.mp hzero
  have hvalue : be16At jpeg p = (byteAt jpeg (p + 1)).toNat := by
    unfold be16At
    rw [hhigh]
    exact Nat.zero_add _
  rcases Nat.lt_or_ge 0 (be16At jpeg p) with hone | hnull
  · have h1 : be16At jpeg p = 1 := by omega
    rw [h1] at hnext hvalue
    rw [hnext] at hvalue
    exact absurd hvalue (by decide)
  · have h0 : be16At jpeg p = 0 := by omega
    rw [h0] at hnext
    rw [Nat.add_zero, hhigh] at hnext
    exact absurd hnext (by decide)

theorem Chain.next (h : Chain jpeg pos) (hend : ¬endsMetadata (byteAt jpeg (pos + 1))) :
    pos + 4 ≤ jpeg.length ∧ 2 ≤ be16At jpeg (pos + 2) ∧ Chain jpeg (segmentEnd jpeg pos) := by
  cases h with
  | last _ _ hends => exact absurd hends hend
  | segment hlen _ _ hnext =>
    have htwo := two_le_length hnext.header.2
    refine ⟨hlen, htwo, ?_⟩
    unfold segmentEnd
    rw [max_eq_left (by omega)]
    exact hnext

theorem segmentEnd_eq (h : 2 ≤ be16At jpeg (pos + 2)) :
    segmentEnd jpeg pos = pos + 2 + be16At jpeg (pos + 2) := by
  unfold segmentEnd
  rw [max_eq_left (by omega)]

/-! ## 2. What the walk updates -/

theorem sameFrom_symm (h : SameFrom orig jpeg pos) : SameFrom jpeg orig pos :=
  ⟨h.1.symm, fun i hi => (h.2 i hi).symm⟩

theorem sameFrom_mono (h : SameFrom orig jpeg pos) (hle : pos ≤ q) : SameFrom orig jpeg q :=
  ⟨h.1, fun i hi => h.2 i (Nat.le_trans hle hi)⟩

theorem lt_segmentEnd (jpeg : List UInt8) (pos : Nat) : pos + 2 < segmentEnd jpeg pos := by
  unfold segmentEnd
  omega

theorem le_of_visitFrom {need' : Nat} (h : VisitFrom d bits jpeg pos need q need') : pos ≤ q := by
  induction h with
  | here => exact Nat.le_refl _
  | @next pos _ _ _ _ _ ih =>
    have := lt_segmentEnd jpeg pos
    omega

theorem visitFrom_congr {need' : Nat} (h : VisitFrom d bits jpeg pos need q need')
    (hsame : SameFrom orig jpeg pos) : VisitFrom d bits orig pos need q need' := by
  induction h with
  | here => exact .here _ _
  | @next pos need _ _ hstep _ ih =>
    have hnext := ih (sameFrom_mono hsame (by have := lt_segmentEnd jpeg pos; omega))
    rw [segmentEnd_congr hsame, needAfter_congr hsame] at hnext
    exact .next ((stepsOver_congr hsame).mp hstep) hnext

/-- The walk comes to one end only. -/
theorem end_unique {a b m n : Nat} (ha : VisitFrom d bits jpeg pos need a m)
    (hb : VisitFrom d bits jpeg pos need b n) (hna : ¬StepsOver d bits jpeg a m)
    (hnb : ¬StepsOver d bits jpeg b n) : a = b ∧ m = n := by
  induction ha with
  | here =>
    cases hb with
    | here => exact ⟨rfl, rfl⟩
    | next hstep _ => exact absurd hstep hna
  | next hstep _ ih =>
    cases hb with
    | here => exact absurd hstep hnb
    | next _ hrest => exact ih hrest hna

theorem updatesFrom_iff : UpdatesFrom jpeg d bits pos need q ↔
    StepsOver d bits jpeg pos need ∧ (q = pos ∧ isTarget bits (byteAt jpeg (pos + 1)) ∨
      UpdatesFrom jpeg d bits (segmentEnd jpeg pos) (needAfter d bits jpeg pos need) q) := by
  constructor
  · rintro ⟨need', hvisit, hstep, htarget⟩
    cases hvisit with
    | here => exact ⟨hstep, .inl ⟨rfl, htarget⟩⟩
    | next hfirst hrest => exact ⟨hfirst, .inr ⟨need', hrest, hstep, htarget⟩⟩
  · rintro ⟨hfirst, ⟨rfl, htarget⟩ | ⟨need', hrest, hstep, htarget⟩⟩
    · exact ⟨need, .here _ _, hfirst, htarget⟩
    · exact ⟨need', .next hfirst hrest, hstep, htarget⟩

theorem updatesFrom_congr (hsame : SameFrom orig jpeg pos) :
    UpdatesFrom jpeg d bits pos need q ↔ UpdatesFrom orig d bits pos need q := by
  have hone : ∀ {orig jpeg : List UInt8}, SameFrom orig jpeg pos →
      UpdatesFrom jpeg d bits pos need q → UpdatesFrom orig d bits pos need q := by
    rintro orig jpeg hsame ⟨need', hvisit, hstep, htarget⟩
    have hle := le_of_visitFrom hvisit
    refine ⟨need', visitFrom_congr hvisit hsame, (stepsOver_congr (sameFrom_mono hsame hle)).mp hstep, ?_⟩
    rwa [← hsame.2 (q + 1) (by omega)]
  exact ⟨hone hsame, hone (sameFrom_symm hsame)⟩

theorem le_of_updatesFrom (h : UpdatesFrom jpeg d bits pos need q) : pos ≤ q := by
  obtain ⟨need', hvisit, _, _⟩ := h
  exact le_of_visitFrom hvisit

theorem Chain.congr (h : Chain orig pos) (hsame : SameFrom orig jpeg pos) : Chain jpeg pos := by
  induction h with
  | @last pos hlen hff hend =>
    refine .last ?_ ?_ ?_
    · rwa [hsame.1]
    · rwa [hsame.2 pos (Nat.le_refl _)]
    · rwa [hsame.2 (pos + 1) (by omega)]
  | @segment pos hlen hff hend _ ih =>
    have hlength : be16At jpeg (pos + 2) = be16At orig (pos + 2) := by
      unfold be16At
      rw [hsame.2 (pos + 2) (by omega), hsame.2 (pos + 2 + 1) (by omega)]
    refine .segment ?_ ?_ ?_ ?_
    · rwa [hsame.1]
    · rwa [hsame.2 pos (Nat.le_refl _)]
    · rwa [hsame.2 (pos + 1) (by omega)]
    · rw [hlength]
      exact ih (sameFrom_mono hsame (by omega))

/-! ## 3. The walk -/

/-- The stream `out` holds the data of the segments that the walk from `pos` on updates, and is the
old one elsewhere. -/
structure Stored (jpeg : List UInt8) (d : DebugAttribute) (bits pos need : Nat) (out : List UInt8) :
    Prop where
  length : out.length = jpeg.length
  data : ∀ q, UpdatesFrom jpeg d bits pos need q →
    ∀ i < d.debugSize (appidOf (byteAt jpeg (q + 1))),
      byteAt out (q + 4 + i) = d.debugData (appidOf (byteAt jpeg (q + 1))) i
  same : ∀ i, (∀ q, UpdatesFrom jpeg d bits pos need q →
    i < q + 4 ∨ q + 4 + d.debugSize (appidOf (byteAt jpeg (q + 1))) ≤ i) →
      byteAt out i = byteAt jpeg i

/-- A walk that ends where it begins stores nothing. -/
theorem stored_of_end (h : ¬StepsOver d bits jpeg pos need) : Stored jpeg d bits pos need jpeg where
  length := rfl
  data := fun _ hq => absurd (updatesFrom_iff.mp hq).1 h
  same := fun _ _ => rfl

theorem updateDebugLoop_stop (hlen : pos < jpeg.length) (h : ¬Continues jpeg pos need) :
    updateDebugLoop d bits jpeg pos (jpeg.length - pos) need = .ok (true, jpeg) := by
  unfold Continues at h
  rw [updateDebugLoop, readByte_eq hlen, ok_bind, if_pos h]
  rfl

theorem updateDebugLoop_last (hlen : pos + 2 ≤ jpeg.length) (h : Continues jpeg pos need)
    (hend : endsMetadata (byteAt jpeg (pos + 1))) :
    updateDebugLoop d bits jpeg pos (jpeg.length - pos) need = .ok (false, jpeg) := by
  unfold Continues at h
  rw [updateDebugLoop, readByte_eq (by omega), ok_bind, if_neg (not_not_intro h),
    readByte_eq (by omega), ok_bind, if_neg (by omega), if_pos hend]
  rfl

theorem getSegLen_eq {p : Nat} (h : p + 1 < jpeg.length) :
    getSegLen jpeg p = .ok (be16At jpeg p) := by
  unfold getSegLen
  rw [readByte_eq (by omega), ok_bind, readByte_eq h, ok_bind]
  rfl

theorem updateDebugLoop_tooSmall (hlen : pos + 4 ≤ jpeg.length) (h : Continues jpeg pos need)
    (hend : ¬endsMetadata (byteAt jpeg (pos + 1))) (hroom : ¬HasRoom d bits jpeg pos) :
    updateDebugLoop d bits jpeg pos (jpeg.length - pos) need = .ok (false, jpeg) := by
  obtain ⟨htarget, hsmall⟩ := Classical.not_imp.mp hroom
  unfold Continues at h
  rw [updateDebugLoop, readByte_eq (by omega), ok_bind, if_neg (not_not_intro h),
    readByte_eq (by omega), ok_bind, if_neg (by omega), if_neg hend, if_pos htarget]
  dsimp only
  rw [getSegLen_eq (by omega), ok_bind, if_pos (Nat.not_le.mp hsmall)]
  rfl

theorem updateDebugLoop_over (hlen : pos + 4 ≤ jpeg.length)
    (hfits : segmentEnd jpeg pos < jpeg.length) (h : StepsOver d bits jpeg pos need) :
    updateDebugLoop d bits jpeg pos (jpeg.length - pos) need =
      updateDebugLoop d bits (afterSegment d bits jpeg pos) (segmentEnd jpeg pos)
        (jpeg.length - segmentEnd jpeg pos) (needAfter d bits jpeg pos need) := by
  obtain ⟨hcont, hend, hroom⟩ := h
  unfold Continues at hcont
  rw [updateDebugLoop, readByte_eq (by omega), ok_bind, if_neg (not_not_intro hcont),
    readByte_eq (by omega), ok_bind, if_neg (by omega), if_neg hend]
  unfold needAfter afterSegment
  by_cases htarget : isTarget bits (byteAt jpeg (pos + 1))
  · have hspace := hroom htarget
    have hseg : segmentEnd jpeg pos = pos + 2 + be16At jpeg (pos + 2) := segmentEnd_of_room hspace
    rw [hseg] at hfits
    unfold jpegSegmentLenfieldSize at hspace
    rw [if_pos htarget, if_pos htarget, if_pos htarget]
    dsimp only
    rw [getSegLen_eq (by omega), ok_bind,
      if_neg (by unfold jpegSegmentLenfieldSize; omega)]
    unfold writeBytes
    rw [if_pos (by rw [DebugAttribute.length_bytes]; unfold jpegSegmentLenfieldSize; omega), ok_bind,
      if_neg (by omega), hseg]
    congr 1
    omega
  · unfold segmentEnd at hfits ⊢
    rw [if_neg htarget, if_neg htarget, if_neg htarget, getSegLen_eq (by omega), ok_bind]
    dsimp only
    rw [min_eq_left (by omega)]
    congr 1
    omega

theorem byteAt_bytes {appid : Int} {i : Nat} (h : i < d.debugSize appid) :
    byteAt (d.bytes appid) i = d.debugData appid i := by
  unfold byteAt DebugAttribute.bytes
  rw [List.getD_eq_getElem?_getD, List.getElem?_map, List.getElem?_range h]
  rfl

/-- The data that are stored into a segment end in front of the next one. -/
theorem data_le_segmentEnd (hroom : HasRoom d bits jpeg pos)
    (htarget : isTarget bits (byteAt jpeg (pos + 1))) :
    pos + 4 + d.debugSize (appidOf (byteAt jpeg (pos + 1))) ≤ segmentEnd jpeg pos := by
  have hspace := hroom htarget
  rw [segmentEnd_of_room hspace]
  unfold jpegSegmentLenfieldSize at hspace
  omega

theorem byteAt_afterSegment_inside (hfits : segmentEnd jpeg pos < jpeg.length)
    (hroom : HasRoom d bits jpeg pos) (htarget : isTarget bits (byteAt jpeg (pos + 1))) {i : Nat}
    (hi : i < d.debugSize (appidOf (byteAt jpeg (pos + 1)))) :
    byteAt (afterSegment d bits jpeg pos) (pos + 4 + i) =
      d.debugData (appidOf (byteAt jpeg (pos + 1))) i := by
  have hle := data_le_segmentEnd hroom htarget
  unfold afterSegment
  rw [if_pos htarget, byteAt_splice_inside (by rw [DebugAttribute.length_bytes]; omega)
    (by rw [DebugAttribute.length_bytes]; exact hi)]
  exact byteAt_bytes hi

theorem byteAt_afterSegment_outside (hfits : segmentEnd jpeg pos < jpeg.length)
    (hroom : HasRoom d bits jpeg pos) {i : Nat}
    (hi : isTarget bits (byteAt jpeg (pos + 1)) →
      i < pos + 4 ∨ pos + 4 + d.debugSize (appidOf (byteAt jpeg (pos + 1))) ≤ i) :
    byteAt (afterSegment d bits jpeg pos) i = byteAt jpeg i := by
  unfold afterSegment
  by_cases htarget : isTarget bits (byteAt jpeg (pos + 1))
  · have hle := data_le_segmentEnd hroom htarget
    have hlen : pos + 4 + (d.bytes (appidOf (byteAt jpeg (pos + 1)))).length ≤ jpeg.length := by
      rw [DebugAttribute.length_bytes]
      omega
    rw [if_pos htarget]
    rcases hi htarget with hbefore | hafter
    · exact byteAt_splice_before hlen hbefore
    · exact byteAt_splice_after hlen (by rw [DebugAttribute.length_bytes]; exact hafter)
  · rw [if_neg htarget]

theorem segmentFits_of_chain (hchain : Chain jpeg pos) : SegmentFits d bits jpeg pos need := by
  refine ⟨by have := hchain.header; omega, fun _ hend => ?_⟩
  obtain ⟨hlen, -, hnext⟩ := hchain.next hend
  exact ⟨hlen, fun _ => by have := hnext.header; omega⟩

/-- One segment that the walk goes over, and what the rest of the walk stores. -/
theorem stored_over (hchain : Chain jpeg pos) (hstep : StepsOver d bits jpeg pos need)
    (hrest : Stored (afterSegment d bits jpeg pos) d bits (segmentEnd jpeg pos)
      (needAfter d bits jpeg pos need) out) : Stored jpeg d bits pos need out := by
  have hsame : SameFrom jpeg (afterSegment d bits jpeg pos) (segmentEnd jpeg pos) :=
    afterSegment_same ⟨rfl, fun _ _ => rfl⟩ (segmentFits_of_chain hchain) hstep
  have hfits : segmentEnd jpeg pos < jpeg.length := by
    have := (hchain.next hstep.2.1).2.2.header
    omega
  have hroom := hstep.2.2
  have hlt := lt_segmentEnd jpeg pos
  refine ⟨hrest.length.trans hsame.1, fun q hq i hi => ?_, fun i hout => ?_⟩
  · obtain ⟨-, ⟨rfl, htarget⟩ | hq⟩ := updatesFrom_iff.mp hq
    · -- what is updated later lies behind this segment
      have hle := data_le_segmentEnd hroom htarget
      rw [hrest.same _ fun u hu => .inl (by have := le_of_updatesFrom hu; omega)]
      exact byteAt_afterSegment_inside hfits hroom htarget hi
    · have hle := le_of_updatesFrom hq
      have hbyte := hsame.2 (q + 1) (by omega)
      have hdata := hrest.data q ((updatesFrom_congr hsame).mpr hq)
      rw [hbyte] at hdata
      exact hdata i hi
  · rw [hrest.same i ?_]
    · exact byteAt_afterSegment_outside hfits hroom fun htarget =>
        hout pos (updatesFrom_iff.mpr ⟨hstep, .inl ⟨rfl, htarget⟩⟩)
    · intro q hq
      have hle := le_of_updatesFrom hq
      rw [hsame.2 (q + 1) (by omega)]
      exact hout q (updatesFrom_iff.mpr ⟨hstep, .inr ((updatesFrom_congr hsame).mp hq)⟩)

/-- The loop comes to the end of the walk, has stored what the walk updates, and returns false if
it was still to go on there. -/
theorem updateDebugLoop_spec (hchain : Chain jpeg pos) :
    ∃ done out pos' need',
      updateDebugLoop d bits jpeg pos (jpeg.length - pos) need = .ok (done, out) ∧
      VisitFrom d bits jpeg pos need pos' need' ∧ ¬StepsOver d bits jpeg pos' need' ∧
      (done = true ↔ ¬Continues jpeg pos' need') ∧ Stored jpeg d bits pos need out := by
  induction hn : jpeg.length - pos using Nat.strongRecOn generalizing pos need jpeg with
  | ind n ih =>
    rw [← hn]
    have hheader := hchain.header
    by_cases hcont : Continues jpeg pos need
    swap
    · have hstop : ¬StepsOver d bits jpeg pos need := fun h => hcont h.1
      exact ⟨true, jpeg, pos, need, updateDebugLoop_stop (by omega) hcont, .here _ _, hstop,
        iff_of_true rfl hcont, stored_of_end hstop⟩
    by_cases hend : endsMetadata (byteAt jpeg (pos + 1))
    · have hstop : ¬StepsOver d bits jpeg pos need := fun h => h.2.1 hend
      exact ⟨false, jpeg, pos, need, updateDebugLoop_last hheader.1 hcont hend, .here _ _, hstop,
        iff_of_false Bool.false_ne_true (not_not_intro hcont), stored_of_end hstop⟩
    obtain ⟨hlen, -, hnext⟩ := hchain.next hend
    by_cases hroom : HasRoom d bits jpeg pos
    swap
    · have hstop : ¬StepsOver d bits jpeg pos need := fun h => hroom h.2.2
      exact ⟨false, jpeg, pos, need, updateDebugLoop_tooSmall hlen hcont hend hroom, .here _ _,
        hstop, iff_of_false Bool.false_ne_true (not_not_intro hcont), stored_of_end hstop⟩
    have hstep : StepsOver d bits jpeg pos need := ⟨hcont, hend, hroom⟩
    have hsame : SameFrom jpeg (afterSegment d bits jpeg pos) (segmentEnd jpeg pos) :=
      afterSegment_same ⟨rfl, fun _ _ => rfl⟩ (segmentFits_of_chain hchain) hstep
    have hnextHeader := hnext.header
    have hlt := lt_segmentEnd jpeg pos
    obtain ⟨done, out, pos', need', hloop, hvisit, hstop, hdone, hstored⟩ :=
      @ih ((afterSegment d bits jpeg pos).length - segmentEnd jpeg pos)
        (by rw [hsame.1]; omega) _ _ (needAfter d bits jpeg pos need) (hnext.congr hsame) rfl
    have hback := le_of_visitFrom hvisit
    have hvisit' := visitFrom_congr hvisit hsame
    have hsame' := sameFrom_mono hsame hback
    refine ⟨done, out, pos', need', ?_, .next hstep hvisit', ?_, ?_, stored_over hchain hstep hstored⟩
    · rw [updateDebugLoop_over hlen (by omega) hstep, ← hloop, hsame.1]
    · rwa [← stepsOver_congr hsame']
    · rw [hdone]
      unfold Continues
      rw [hsame'.1, hsame'.2 pos' (Nat.le_refl _)]

/-! ## 4. The segments of the updated stream -/

theorem le_of_segmentFrom (h : SegmentFrom jpeg pos q) : pos ≤ q := by
  induction h with
  | here => exact Nat.le_refl _
  | next _ _ ih => omega

/-- Two segments of a chain are the same, or one ends in front of the other. -/
theorem segmentFrom_apart {a b : Nat} (hchain : Chain jpeg pos) (ha : SegmentFrom jpeg pos a)
    (hb : SegmentFrom jpeg pos b) :
    a = b ∨ ¬endsMetadata (byteAt jpeg (a + 1)) ∧ segmentEnd jpeg a ≤ b ∨
      ¬endsMetadata (byteAt jpeg (b + 1)) ∧ segmentEnd jpeg b ≤ a := by
  induction ha with
  | here =>
    cases hb with
    | here => exact .inl rfl
    | next hend hrest =>
      have hle := le_of_segmentFrom hrest
      rw [← segmentEnd_eq (hchain.next hend).2.1] at hle
      exact .inr (.inl ⟨hend, hle⟩)
  | next hend hrest ih =>
    obtain ⟨-, htwo, hnext⟩ := hchain.next hend
    cases hb with
    | here =>
      have hle := le_of_segmentFrom hrest
      rw [← segmentEnd_eq htwo] at hle
      exact .inr (.inr ⟨hend, hle⟩)
    | next _ hrest' =>
      rw [segmentEnd_eq htwo] at hnext
      exact ih hnext hrest'

theorem chain_of_segmentFrom (h : SegmentFrom jpeg pos q) (hchain : Chain jpeg pos) :
    Chain jpeg q := by
  induction h with
  | here => exact hchain
  | next hend _ ih =>
    obtain ⟨-, htwo, hnext⟩ := hchain.next hend
    rw [segmentEnd_eq htwo] at hnext
    exact ih hnext

theorem segmentFrom_of_visitFrom {need' : Nat} (h : VisitFrom d bits jpeg pos need q need')
    (hchain : Chain jpeg pos) : SegmentFrom jpeg pos q := by
  induction h with
  | here => exact .here _
  | next hstep _ ih =>
    obtain ⟨-, htwo, hnext⟩ := hchain.next hstep.2.1
    have hrest := ih hnext
    rw [segmentEnd_eq htwo] at hrest
    exact .next hstep.2.1 hrest

theorem segmentFrom_congr {a b : List UInt8} (h : SegmentFrom a pos q)
    (hheader : ∀ p, SegmentFrom a pos p → SegmentFrom b pos p →
      ∀ k < 4, byteAt b (p + k) = byteAt a (p + k)) : SegmentFrom b pos q := by
  induction h with
  | here => exact .here _
  | @next pos q hend _ ih =>
    have hhere := hheader pos (.here pos) (.here pos)
    have hlength : be16At b (pos + 2) = be16At a (pos + 2) := by
      unfold be16At
      rw [hhere 2 (by omega), hhere 3 (by omega)]
    have hend' : ¬endsMetadata (byteAt b (pos + 1)) := by rwa [hhere 1 (by omega)]
    refine .next hend' ?_
    rw [hlength]
    refine ih fun p hpa hpb => hheader p (.next hend hpa) (.next hend' ?_)
    rwa [hlength]

theorem not_endsMetadata_of_app {marker : UInt8} (h : marker &&& 0xF0 = 0xE0) :
    ¬endsMetadata marker := by
  rintro (rfl | rfl) <;> exact absurd h (by decide)

section

variable (hchain : Chain jpeg pos) (hstored : Stored jpeg d bits pos need out)
include hchain hstored

/-- A byte of a segment that lies in its header, or in a segment that is not updated, is the old
one. -/
theorem byteAt_stored {i : Nat} (hq : SegmentFrom jpeg pos q) (hle : q ≤ i)
    (hi : i < q + 4 ∨ ¬UpdatesFrom jpeg d bits pos need q ∧
      ¬endsMetadata (byteAt jpeg (q + 1)) ∧ i < segmentEnd jpeg q) :
    byteAt out i = byteAt jpeg i := by
  refine hstored.same i fun u hu => ?_
  obtain ⟨need', hvisit, hstep, htarget⟩ := id hu
  have hdata := data_le_segmentEnd hstep.2.2 htarget
  rcases segmentFrom_apart hchain hq (segmentFrom_of_visitFrom hvisit hchain) with
    rfl | ⟨hend, hbefore⟩ | ⟨-, hbehind⟩
  · rcases hi with hheader | ⟨hnot, -⟩
    · exact .inl hheader
    · exact absurd hu hnot
  · have hend4 : q + 4 ≤ segmentEnd jpeg q := by
      have htwo := ((chain_of_segmentFrom hq hchain).next hend).2.1
      rw [segmentEnd_eq htwo]
      omega
    rcases hi with hheader | ⟨-, -, hinside⟩
    · exact .inl (by omega)
    · exact .inl (by omega)
  · exact .inr (by omega)

theorem segmentFrom_stored : SegmentFrom out pos q ↔ SegmentFrom jpeg pos q := by
  have hheader : ∀ p, SegmentFrom jpeg pos p → ∀ k < 4, byteAt out (p + k) = byteAt jpeg (p + k) :=
    fun p hp k hk => byteAt_stored hchain hstored hp (by omega) (.inl (by omega))
  exact ⟨fun h => segmentFrom_congr h fun p _ hp k hk => (hheader p hp k hk).symm,
    fun h => segmentFrom_congr h fun p hp _ k hk => hheader p hp k hk⟩

end

variable (hchain : Chain jpeg 2) (hstored : Stored jpeg d bits 2 need out)
include hchain hstored

/-- The updated stream holds the data of a marker if a segment of it was updated, or the old stream
holds them already. -/
theorem holds_stored_iff {appid : Int} :
    Holds out d appid ↔ (∃ q, UpdatesFrom jpeg d bits 2 need q ∧
      appidOf (byteAt jpeg (q + 1)) = appid) ∨ Holds jpeg d appid := by
  have hheader : ∀ {q : Nat}, SegmentFrom jpeg 2 q → ∀ k < 4, byteAt out (q + k) = byteAt jpeg (q + k) :=
    fun hq k hk => byteAt_stored hchain hstored hq (by omega) (.inl (by omega))
  have hlength : ∀ {q : Nat}, SegmentFrom jpeg 2 q → be16At out (q + 2) = be16At jpeg (q + 2) := by
    intro q hq
    unfold be16At
    rw [hheader hq 2 (by omega), hheader hq 3 (by omega)]
  -- a segment with room that is not updated keeps the bytes the data would take
  have hkept : ∀ {q : Nat}, SegmentFrom jpeg 2 q → ¬UpdatesFrom jpeg d bits 2 need q →
      byteAt jpeg (q + 1) &&& 0xF0 = 0xE0 →
      d.debugSize (appidOf (byteAt jpeg (q + 1))) + jpegSegmentLenfieldSize ≤ be16At jpeg (q + 2) →
      (BeginsWithData out d q ↔ BeginsWithData jpeg d q) := by
    intro q hq hnot hmarker hroom
    have hend := not_endsMetadata_of_app hmarker
    unfold BeginsWithData
    rw [hheader hq 1 (by omega)]
    refine forall_congr' fun i => forall_congr' fun hi => ?_
    unfold jpegSegmentLenfieldSize at hroom
    rw [byteAt_stored hchain hstored hq (by omega) (.inr ⟨hnot, hend, ?_⟩)]
    rw [segmentEnd_eq (by omega)]
    omega
  constructor
  · rintro ⟨q, hq, hmarker, happid, hroom, hdata⟩
    have hq' := (segmentFrom_stored hchain hstored).mp hq
    rw [hheader hq' 1 (by omega)] at hmarker happid
    rw [hlength hq'] at hroom
    by_cases hu : UpdatesFrom jpeg d bits 2 need q
    · exact .inl ⟨q, hu, happid⟩
    · refine .inr ⟨q, hq', hmarker, happid, hroom, ?_⟩
      rw [← happid] at hroom
      exact (hkept hq' hu hmarker hroom).mp hdata
  · have hupdated : ∀ {q : Nat}, UpdatesFrom jpeg d bits 2 need q →
        Holds out d (appidOf (byteAt jpeg (q + 1))) := by
      intro q hu
      obtain ⟨need', hvisit, hstep, htarget⟩ := id hu
      have hq := segmentFrom_of_visitFrom hvisit hchain
      refine ⟨q, (segmentFrom_stored hchain hstored).mpr hq, ?_, ?_, ?_, ?_⟩
      · rw [hheader hq 1 (by omega)]
        exact htarget.1
      · rw [hheader hq 1 (by omega)]
      · rw [hlength hq]
        exact hstep.2.2 htarget
      · unfold BeginsWithData
        rw [hheader hq 1 (by omega)]
        exact hstored.data q hu
    rintro (⟨q, hu, rfl⟩ | ⟨q, hq, hmarker, happid, hroom, hdata⟩)
    · exact hupdated hu
    · by_cases hu : UpdatesFrom jpeg d bits 2 need q
      · rw [← happid]
        exact hupdated hu
      · refine ⟨q, (segmentFrom_stored hchain hstored).mpr hq, ?_, ?_, ?_, ?_⟩
        · rwa [hheader hq 1 (by omega)]
        · rwa [hheader hq 1 (by omega)]
        · rwa [hlength hq]
        · rw [← happid] at hroom
          exact (hkept hq hu hmarker hroom).mpr hdata

omit hchain in
/-- The updated stream is the old one if every updated segment already began with its data. -/
theorem eq_stored_iff :
    out = jpeg ↔ ∀ q, UpdatesFrom jpeg d bits 2 need q → BeginsWithData jpeg d q := by
  constructor
  · rintro rfl q hu i hi
    exact hstored.data q hu i hi
  · intro hsame
    refine ext_byteAt hstored.length fun i _ => ?_
    by_cases hout : ∀ q, UpdatesFrom jpeg d bits 2 need q →
        i < q + 4 ∨ q + 4 + d.debugSize (appidOf (byteAt jpeg (q + 1))) ≤ i
    · exact hstored.same i hout
    · simp only [not_forall, not_or, Nat.not_lt, Nat.not_le] at hout
      obtain ⟨q, hu, hlo, hhi⟩ := hout
      have hdata := hstored.data q hu (i - (q + 4)) (by omega)
      have hold := hsame q hu (i - (q + 4)) (by omega)
      rw [Nat.add_sub_cancel' hlo] at hdata hold
      rw [hdata, hold]

omit hchain hstored

/-- A walk has one end, so it ends right if it does so at that end. -/
theorem endsRight_iff {need' : Nat}
    (hnum : d.numOfAppmarker ≤ extraAppmarkerLimit - extraAppmarkerMin)
    (hlen : d.getExtraAPPSize.1 + jpegMarkerSize ≤ jpeg.length)
    (hvisit : VisitFrom d d.getExtraAPPSize.2 jpeg 2 d.getExtraAPPSize.1 pos need')
    (hstop : ¬StepsOver d d.getExtraAPPSize.2 jpeg pos need') :
    EndsRight jpeg d ↔
      (Continues jpeg pos need' →
        ∀ q, UpdatesFrom jpeg d d.getExtraAPPSize.2 2 d.getExtraAPPSize.1 q →
          BeginsWithData jpeg d q) ∧
      (¬Continues jpeg pos need' →
        ∀ i < d.numOfAppmarker.toNat,
          (∃ q, UpdatesFrom jpeg d d.getExtraAPPSize.2 2 d.getExtraAPPSize.1 q ∧
            appidOf (byteAt jpeg (q + 1)) = d.idx i) ∨ Holds jpeg d (d.idx i)) := by
  constructor
  · exact fun h => h hnum hlen pos need' hvisit hstop
  · intro h _ _ pos₂ need₂ hvisit₂ hstop₂
    obtain ⟨rfl, rfl⟩ := end_unique hvisit hvisit₂ hstop hstop₂
    exact h

/-- On a stream that is a chain of segments, `UpdateDebugData` stores all of the data or nothing
exactly if its walk over the stream ends right. -/
theorem allOrNothing_iff (hjpeg : WellFormed jpeg) (debug : Option DebugAttribute) :
    AllOrNothing jpeg debug ↔ ∀ d ∈ debug, EndsRight jpeg d := by
  cases debug with
  | none => exact iff_of_true ⟨true, jpeg, rfl, fun _ => nofun, nofun⟩ nofun
  | some d =>
    simp only [Option.mem_some_iff, forall_eq']
    by_cases hnum : d.numOfAppmarker ≤ extraAppmarkerLimit - extraAppmarkerMin
    swap
    · refine iff_of_true ⟨false, jpeg, ?_, nofun, fun _ => rfl⟩ fun h => absurd h hnum
      unfold updateDebugData
      dsimp only
      rw [if_pos (Int.not_le.mp hnum)]
    by_cases hlen : d.getExtraAPPSize.1 + jpegMarkerSize ≤ jpeg.length
    swap
    · refine iff_of_true ⟨false, jpeg, ?_, nofun, fun _ => rfl⟩ fun _ h => absurd h hlen
      unfold updateDebugData
      dsimp only
      rw [if_neg (Int.not_lt.mpr hnum), if_pos (Nat.not_le.mp hlen)]
    obtain ⟨hsoiLen, hfirst, hsecond⟩ := hjpeg.soi
    obtain ⟨done, out, pos, need, hloop, hvisit, hstop, hdone, hstored⟩ :=
      @updateDebugLoop_spec jpeg d d.getExtraAPPSize.2 2 d.getExtraAPPSize.1 hjpeg.chain
    have hrun : updateDebugData jpeg (some d) = .ok (done, out) := by
      unfold updateDebugData
      dsimp only
      rw [if_neg (Int.not_lt.mpr hnum), if_neg (Nat.not_lt.mpr hlen), readByte_eq (by omega), ok_bind,
        hfirst,
        if_neg (not_not_intro rfl), readByte_eq (by omega), ok_bind, hsecond,
        if_neg (not_not_intro rfl)]
      exact hloop
    rw [endsRight_iff hnum hlen hvisit hstop, ← hdone]
    have hcont : Continues jpeg pos need ↔ done = false := by
      rw [← Bool.not_eq_true, hdone, not_not]
    rw [hcont, ← eq_stored_iff hstored]
    simp only [← holds_stored_iff hjpeg.chain hstored]
    constructor
    · rintro ⟨done', out', hrun', hall, hnothing⟩
      obtain ⟨rfl, rfl⟩ := Prod.mk.inj (Except.ok.inj (hrun.symm.trans hrun'))
      exact ⟨hnothing, fun htrue => hall htrue d rfl⟩
    · rintro ⟨hnothing, hall⟩
      refine ⟨done, out, hrun, fun htrue d' hd' => ?_, hnothing⟩
      obtain rfl := Option.some.inj hd'
      exact hall htrue

/-- One byte for APP4, and a stream with a segment of that size. -/
def smallDebug (numOfAppmarker : Int) : DebugAttribute where
  numOfAppmarker := numOfAppmarker
  idx i := i + 4
  debugData _ _ := 7
  debugSize _ := 1

def smallJpeg : List UInt8 :=
  [0xFF, 0xD8, 0xFF, 0xE4, 0, 3, 0, 0xFF, 0xDA, 0, 0, 0, 0, 0, 0]

theorem smallJpeg_wellFormed : WellFormed smallJpeg where
  soi := by decide
  chain := by
    have hlast : Chain smallJpeg 7 := .last (by decide) (by decide) (by decide)
    have hnext : 2 + 2 + be16At smallJpeg (2 + 2) = 7 := by decide
    rw [← hnext] at hlast
    exact .segment (by decide) (by decide) (by decide) hlast

theorem smallJpeg_stepsOver : StepsOver (smallDebug 2) 48 smallJpeg 2 10 :=
  ⟨⟨by decide, by decide, by decide⟩, by decide, fun _ => by decide⟩

theorem smallJpeg_allOrNothing : AllOrNothing smallJpeg (some (smallDebug 1)) := by
  have hstep : StepsOver (smallDebug 1) 16 smallJpeg 2 5 :=
    ⟨⟨by decide, by decide, by decide⟩, by decide, fun _ => by decide⟩
  have hvisit : VisitFrom (smallDebug 1) 16 smallJpeg 2 5 7 0 := .next hstep (.here _ _)
  have hdone : ¬Continues smallJpeg 7 0 := fun h => absurd h.2.1 (by decide)
  refine (allOrNothing_iff smallJpeg_wellFormed _).mpr fun d hd => ?_
  obtain rfl := Option.some.inj hd
  refine (endsRight_iff (by decide) (by decide) hvisit fun h => hdone h.1).mpr
    ⟨fun h => absurd h hdone, fun _ i hi => .inl ⟨2, ⟨5, .here _ _, hstep, by decide⟩, ?_⟩⟩
  obtain rfl : i = 0 := Nat.lt_one_iff.mp hi
  rfl

/-- With APP5 to be stored as well the walk comes to SOS behind the update of APP4. -/
theorem not_allOrNothing_partial :
    ¬∀ (jpeg : List UInt8) (debug : Option DebugAttribute), WellFormed jpeg →
      AllOrNothing jpeg debug := by
  intro hall
  obtain ⟨done, out, hrun, -, hnothing⟩ := hall smallJpeg (some (smallDebug 2)) smallJpeg_wellFormed
  have hloop : updateDebugData smallJpeg (some (smallDebug 2)) =
      .ok (false, [0xFF, 0xD8, 0xFF, 0xE4, 0, 3, 7, 0xFF, 0xDA, 0, 0, 0, 0, 0, 0]) :=
    (updateDebugLoop_over (by decide) (by decide) smallJpeg_stepsOver).trans
      (updateDebugLoop_last (by decide) ⟨by decide, by decide, by decide⟩ (by decide))
  obtain ⟨rfl, rfl⟩ := Prod.mk.inj (Except.ok.inj (hloop.symm.trans hrun))
  exact absurd (hnothing rfl) (by decide)

end UpdateDebugData

end Universal7870.Jpeg
