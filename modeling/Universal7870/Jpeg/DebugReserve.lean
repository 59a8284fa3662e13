import Universal7870.Jpeg.DebugUpdate
import Universal7870.Jpeg.ProcessExif

/-!
# Debug segments that are stored late

The camera HAL writes the header with empty debug segments and stores their data once it is known.
`updateDebugData` walks over the stream again, so it has to find the segments where `writeAppx` has
put them.
-/

namespace Universal7870.Jpeg

open Lib

/-! ## 1. Markers -/

/-- The marker byte that `WriteAPPX` stores. -/
def debugMarker (appid : Int) : UInt8 := 0xE0 + (UInt8.ofNat appid.toNat &&& 0xF)

theorem debugMarker_spec {appid : Int} (h : DebugAttribute.validAppid appid) :
    debugMarker appid &&& 0xF0 = 0xE0 ∧ (debugMarker appid &&& 0xF).toNat = appid.toNat ∧
      appidOf (debugMarker appid) = appid ∧ ¬endsMetadata (debugMarker appid) := by
  have hcases : appid = 4 ∨ appid = 5 ∨ appid = 6 ∨ appid = 7 ∨ appid = 8 ∨ appid = 9 := by
    unfold DebugAttribute.validAppid extraAppmarkerMin extraAppmarkerLimit at h
    omega
  rcases hcases with rfl | rfl | rfl | rfl | rfl | rfl <;> decide

namespace DebugAttribute

variable {debug : DebugAttribute}

/-- The entries at the indices are valid. -/
def ValidAt (debug : DebugAttribute) (is : List Nat) : Prop :=
  ∀ i ∈ is, validAppid (debug.idx i) ∧ validSize (debug.debugSize (debug.idx i))

/-- The space of the segments at the indices. -/
def segmentsSize (debug : DebugAttribute) (is : List Nat) : Nat :=
  (is.map fun i => debug.debugSize (debug.idx i) + jpegMarkerSize + jpegSegmentLenfieldSize).sum

theorem extraAPPSizeLoop_of_valid {is : List Nat} (h : debug.ValidAt is) (len bits : Nat) :
    (debug.extraAPPSizeLoop is len bits).1 = len + debug.segmentsSize is ∧
      ∀ n, (debug.extraAPPSizeLoop is len bits).2.testBit n =
        (bits.testBit n || is.any fun i => (debug.idx i).toNat = n) := by
  induction is generalizing len bits with
  | nil => exact ⟨rfl, fun n => (Bool.or_false _).symm⟩
  | cons i is ih =>
    obtain ⟨hid, hsize⟩ := h i List.mem_cons_self
    obtain ⟨hlen, hbits⟩ := ih (fun j hj => h j (List.mem_cons_of_mem i hj))
      (len + (debug.debugSize (debug.idx i) + jpegMarkerSize + jpegSegmentLenfieldSize))
      (bits ||| 1 <<< (debug.idx i).toNat)
    unfold extraAPPSizeLoop
    dsimp only
    rw [if_neg (not_not.mpr hid), if_neg (not_not.mpr hsize)]
    refine ⟨?_, fun n => ?_⟩
    · rw [hlen]
      unfold segmentsSize
      rw [List.map_cons, List.sum_cons, Nat.add_assoc]
    · rw [hbits, Nat.testBit_or, Nat.one_shiftLeft, Nat.testBit_two_pow, List.any_cons,
        Bool.or_assoc]

/-- What `GetExtraAPPSize` finds for an attribute that has been accepted. -/
theorem getExtraAPPSize_of_accepted (h : debug.Accepted) :
    debug.getExtraAPPSize.1 = debugOffset debug debug.numOfAppmarker.toNat ∧
      (∀ i ∈ List.range debug.numOfAppmarker.toNat,
        debug.getExtraAPPSize.2.testBit (debug.idx i).toNat = true) ∧
      debug.getExtraAPPSize.2.testBit 1 = false := by
  obtain ⟨hlen, hbits⟩ := extraAPPSizeLoop_of_valid (fun i hi => h.2 i hi) 0 0
  refine ⟨hlen.trans (Nat.zero_add _), fun i hi => ?_, ?_⟩
  · unfold getExtraAPPSize
    rw [hbits, List.any_eq_true.mpr ⟨i, hi, decide_eq_true rfl⟩, Bool.or_true]
  · unfold getExtraAPPSize
    rw [hbits, Nat.zero_testBit, Bool.false_or, List.any_eq_false]
    intro i hi
    have hid := (h.2 i hi).1
    unfold validAppid extraAppmarkerMin at hid
    rw [decide_eq_true_eq]
    omega

end DebugAttribute

/-! ## 2. The walk -/

/-- A debug segment with the data `payload`. -/
def segmentBytes (debug : DebugAttribute) (i : Nat) (payload : List UInt8) : List UInt8 :=
  [0xFF, debugMarker (debug.idx i)] ++
    be16 (debug.debugSize (debug.idx i) + jpegSegmentLenfieldSize) ++ payload

theorem getSegLen_append {pre tail : List UInt8} {marker : List UInt8} (hmarker : marker.length = 2)
    {n : Nat} (hn : n < 2 ^ 16) :
    getSegLen (pre ++ (marker ++ be16 n ++ tail)) (pre.length + 2) = .ok n := by
  have hread (k : Nat) (hk : k < 2) :
      readByte (pre ++ (marker ++ be16 n ++ tail)) (pre.length + (2 + k)) =
        .ok (byteAt (be16 n ++ tail) k) := by
    rw [readByte_append (by
      rw [List.length_append, List.length_append, hmarker, length_be16]
      omega), List.append_assoc, ← hmarker, byteAt_append]
  unfold getSegLen
  rw [hread 0 (by omega), ok_bind, Nat.add_assoc, hread 1 (by omega), ok_bind]
  exact congrArg Except.ok (be16_value hn)

/-- The walk stores the data of the segment it is at and goes on behind it. -/
theorem updateDebugLoop_target {debug : DebugAttribute} {bits i need : Nat}
    {pre payload tail : List UInt8} (hid : DebugAttribute.validAppid (debug.idx i))
    (hsize : DebugAttribute.validSize (debug.debugSize (debug.idx i)))
    (hbit : bits.testBit (debug.idx i).toNat = true)
    (hpayload : payload.length = debug.debugSize (debug.idx i)) (htail : need < tail.length)
    (hneed : need < 2 ^ 63) :
    updateDebugLoop debug bits (pre ++ (segmentBytes debug i payload ++ tail)) pre.length
        (4 + debug.debugSize (debug.idx i) + tail.length)
        (debug.debugSize (debug.idx i) + jpegMarkerSize + jpegSegmentLenfieldSize + need) =
      updateDebugLoop debug bits
        (pre ++ (segmentBytes debug i (debug.bytes (debug.idx i)) ++ tail))
        (pre.length + (4 + debug.debugSize (debug.idx i))) tail.length need := by
  obtain ⟨hmarker, hnumber, happid, hend⟩ := debugMarker_spec hid
  have hsmall := hsize.2
  unfold jpegMaxSegmentSize jpegSegmentLenfieldSize at hsmall
  have hcells (data : List UInt8) : segmentBytes debug i data ++ tail =
      [0xFF, debugMarker (debug.idx i)] ++
        be16 (debug.debugSize (debug.idx i) + jpegSegmentLenfieldSize) ++ (data ++ tail) := by
    unfold segmentBytes
    rw [List.append_assoc]
  have hfirst : readByte (pre ++ (segmentBytes debug i payload ++ tail)) pre.length = .ok 0xFF :=
    readByte_append (i := 0) (Nat.zero_lt_succ _)
  have hsecond : readByte (pre ++ (segmentBytes debug i payload ++ tail)) (pre.length + 1) =
      .ok (debugMarker (debug.idx i)) :=
    readByte_append (i := 1) (Nat.succ_lt_succ (Nat.zero_lt_succ _))
  have hlen : getSegLen (pre ++ (segmentBytes debug i payload ++ tail)) (pre.length + 2) =
      .ok (debug.debugSize (debug.idx i) + jpegSegmentLenfieldSize) := by
    rw [hcells]
    exact getSegLen_append rfl (by unfold jpegSegmentLenfieldSize; omega)
  have htarget : isTarget bits (debugMarker (debug.idx i)) := ⟨hmarker, by rw [hnumber, hbit]⟩
  have hstore : writeBytes (pre ++ (segmentBytes debug i payload ++ tail))
      (pre.length + 2 + jpegSegmentLenfieldSize) (debug.bytes (debug.idx i)) =
      .ok (pre ++ (segmentBytes debug i (debug.bytes (debug.idx i)) ++ tail)) := by
    have hsame : payload.length = (debug.bytes (debug.idx i)).length := by
      rw [debug.length_bytes, hpayload]
    have hwrite := writeBytes_append (pre ++ ([0xFF, debugMarker (debug.idx i)] ++
      be16 (debug.debugSize (debug.idx i) + jpegSegmentLenfieldSize))) hsame tail
    rw [List.append_assoc, ← hcells, List.append_assoc, ← hcells, List.length_append] at hwrite
    exact hwrite
  have hwrap : sizeSub (debug.debugSize (debug.idx i) + jpegMarkerSize + jpegSegmentLenfieldSize +
      need) (debug.debugSize (debug.idx i) + jpegMarkerSize + jpegSegmentLenfieldSize) = need := by
    rw [CAppMarkerWriter.sizeSub_add_left]
    omega
  rw [updateDebugLoop, hfirst, ok_bind]
  unfold jpegMarkerSize jpegSegmentLenfieldSize at *
  rw [if_neg (not_not.mpr ⟨rfl, by omega, by omega⟩), hsecond, ok_bind, if_neg (by omega),
    if_neg hend, if_pos htarget, happid]
  dsimp only
  rw [hlen, ok_bind, if_neg (Nat.lt_irrefl _), hstore, ok_bind, if_neg (by omega), hwrap]
  rw [show pre.length + 2 + (debug.debugSize (debug.idx i) + 2) =
      pre.length + (4 + debug.debugSize (debug.idx i)) by omega,
    show 4 + debug.debugSize (debug.idx i) + tail.length - 2 - (debug.debugSize (debug.idx i) + 2) =
      tail.length by omega]

/-- With nothing left to be stored, the walk stops. -/
theorem updateDebugLoop_done (debug : DebugAttribute) (bits jpeglen : Nat) {jpeg : List UInt8}
    {pos : Nat} (h : pos < jpeg.length) :
    updateDebugLoop debug bits jpeg pos jpeglen 0 = .ok (true, jpeg) := by
  rw [updateDebugLoop, readByte_eq h, ok_bind, if_pos (fun hb => Nat.lt_irrefl 0 hb.2.1)]
  rfl

theorem length_segmentBytes (debug : DebugAttribute) (i : Nat) {payload : List UInt8}
    (h : payload.length = debug.debugSize (debug.idx i)) :
    (segmentBytes debug i payload).length = 4 + debug.debugSize (debug.idx i) := by
  unfold segmentBytes
  rw [List.length_append, h]
  rfl

theorem segmentsSize_cons (debug : DebugAttribute) (i : Nat) (is : List Nat) :
    debug.segmentsSize (i :: is) = debug.debugSize (debug.idx i) + jpegMarkerSize +
      jpegSegmentLenfieldSize + debug.segmentsSize is := by
  unfold DebugAttribute.segmentsSize
  rw [List.map_cons, List.sum_cons]

theorem length_flatMap_segmentBytes {debug : DebugAttribute} {is : List Nat}
    {payload : Nat → List UInt8}
    (h : ∀ i ∈ is, (payload i).length = debug.debugSize (debug.idx i)) :
    (is.flatMap fun i => segmentBytes debug i (payload i)).length = debug.segmentsSize is := by
  induction is with
  | nil => rfl
  | cons i is ih =>
    rw [List.flatMap_cons, List.length_append, ih (fun j hj => h j (List.mem_cons_of_mem i hj)),
      length_segmentBytes debug i (h i List.mem_cons_self), segmentsSize_cons]
    unfold jpegMarkerSize jpegSegmentLenfieldSize
    omega

/-- The walk over all debug segments. -/
theorem updateDebugLoop_segments {debug : DebugAttribute} {bits : Nat} {is : List Nat}
    (hvalid : debug.ValidAt is) (hbits : ∀ i ∈ is, bits.testBit (debug.idx i).toNat = true)
    {payload : Nat → List UInt8}
    (hpayload : ∀ i ∈ is, (payload i).length = debug.debugSize (debug.idx i))
    (hsize : debug.segmentsSize is < 2 ^ 63) (pre : List UInt8) {tail : List UInt8}
    (htail : tail ≠ []) :
    updateDebugLoop debug bits
        (pre ++ (is.flatMap (fun i => segmentBytes debug i (payload i)) ++ tail)) pre.length
        (debug.segmentsSize is + tail.length) (debug.segmentsSize is) =
      .ok (true, pre ++
        (is.flatMap (fun i => segmentBytes debug i (debug.bytes (debug.idx i))) ++ tail)) := by
  induction is generalizing pre with
  | nil =>
    have hpos : 0 < tail.length := List.length_pos_of_ne_nil htail
    exact updateDebugLoop_done debug bits _ (by
      rw [List.length_append, List.flatMap_nil, List.nil_append]
      omega)
  | cons i is ih =>
    obtain ⟨hid, hvsize⟩ := hvalid i List.mem_cons_self
    have hsum := segmentsSize_cons debug i is
    have hlength : (is.flatMap (fun j => segmentBytes debug j (payload j)) ++ tail).length =
        debug.segmentsSize is + tail.length := by
      rw [List.length_append,
        length_flatMap_segmentBytes fun j hj => hpayload j (List.mem_cons_of_mem i hj)]
    have hpos : 0 < tail.length := List.length_pos_of_ne_nil htail
    have hrest := ih (fun j hj => hvalid j (List.mem_cons_of_mem i hj))
      (fun j hj => hbits j (List.mem_cons_of_mem i hj))
      (fun j hj => hpayload j (List.mem_cons_of_mem i hj)) (by omega)
      (pre ++ segmentBytes debug i (debug.bytes (debug.idx i)))
    have hstep := @updateDebugLoop_target debug bits i (debug.segmentsSize is) pre (payload i)
      (is.flatMap (fun j => segmentBytes debug j (payload j)) ++ tail) hid hvsize
      (hbits i List.mem_cons_self) (hpayload i List.mem_cons_self) (by omega) (by omega)
    rw [List.length_append, length_segmentBytes debug i (debug.length_bytes _),
      List.append_assoc, List.append_assoc] at hrest
    rw [hlength, hrest] at hstep
    rw [List.flatMap_cons, List.flatMap_cons, List.append_assoc, List.append_assoc, hsum, ← hstep]
    congr 1
    unfold jpegMarkerSize jpegSegmentLenfieldSize
    omega

/-- Any other segment is passed over by its length. -/
theorem updateDebugLoop_skip {debug : DebugAttribute} {bits need len : Nat}
    {pre payload tail : List UInt8} {marker : UInt8} (hmarker : ¬isTarget bits marker)
    (hend : ¬endsMetadata marker) (hlen : len < 2 ^ 16) (hpayload : payload.length + 2 = len)
    (hpos : 0 < need) (hneed : need < tail.length) :
    updateDebugLoop debug bits (pre ++ ([0xFF, marker] ++ be16 len ++ (payload ++ tail))) pre.length
        (2 + len + tail.length) need =
      updateDebugLoop debug bits (pre ++ ([0xFF, marker] ++ be16 len ++ (payload ++ tail)))
        (pre.length + (2 + len)) tail.length need := by
  have hfirst : readByte (pre ++ ([0xFF, marker] ++ be16 len ++ (payload ++ tail))) pre.length =
      .ok 0xFF :=
    readByte_append (i := 0) (Nat.zero_lt_succ _)
  have hsecond : readByte (pre ++ ([0xFF, marker] ++ be16 len ++ (payload ++ tail)))
      (pre.length + 1) = .ok marker :=
    readByte_append (i := 1) (Nat.succ_lt_succ (Nat.zero_lt_succ _))
  have hseglen : getSegLen (pre ++ ([0xFF, marker] ++ be16 len ++ (payload ++ tail)))
      (pre.length + 2) = .ok len := getSegLen_append rfl hlen
  rw [updateDebugLoop, hfirst, ok_bind, if_neg (not_not.mpr ⟨rfl, by omega, by omega⟩), hsecond,
    ok_bind, if_neg (by omega), if_neg hend, if_neg hmarker, hseglen, ok_bind]
  dsimp only
  rw [show min (max len 1) (2 + len + tail.length - 2) = len by omega,
    show pre.length + 2 + len = pre.length + (2 + len) by omega,
    show 2 + len + tail.length - 2 - len = tail.length by omega]

/-- A stream of SOI, an optional APP1 segment, the debug segments and more. -/
theorem updateDebugData_eq {debug : DebugAttribute} (haccepted : debug.Accepted)
    {front : List UInt8} (hfront : debug.numOfAppmarker ≤ 0 ∨ front = [] ∨
      ∃ len payload, len < 2 ^ 16 ∧ payload.length + 2 = len ∧
        front = [0xFF, 0xE1] ++ be16 len ++ payload)
    {payload : Nat → List UInt8}
    (hpayload : ∀ i ∈ List.range debug.numOfAppmarker.toNat,
      (payload i).length = debug.debugSize (debug.idx i))
    {tail : List UInt8} (htail : tail ≠ []) :
    updateDebugData ([0xFF, 0xD8] ++ front ++ ((List.range debug.numOfAppmarker.toNat).flatMap
        (fun i => segmentBytes debug i (payload i)) ++ tail)) (some debug) =
      .ok (true, [0xFF, 0xD8] ++ front ++ ((List.range debug.numOfAppmarker.toNat).flatMap
        (fun i => segmentBytes debug i (debug.bytes (debug.idx i))) ++ tail)) := by
  obtain ⟨hsize, hbits, hbit⟩ := DebugAttribute.getExtraAPPSize_of_accepted haccepted
  have hle := debugOffset_le haccepted
  have hpos : 0 < tail.length := List.length_pos_of_ne_nil htail
  have hdebugs := length_flatMap_segmentBytes hpayload
  have hloop := updateDebugLoop_segments (fun i hi => haccepted.2 i hi) hbits hpayload
    (Nat.lt_of_le_of_lt hle (by decide)) ([0xFF, 0xD8] ++ front) htail
  have hextra : debug.getExtraAPPSize.1 =
      debug.segmentsSize (List.range debug.numOfAppmarker.toNat) := hsize
  have hlength : ([0xFF, 0xD8] ++ front ++ ((List.range debug.numOfAppmarker.toNat).flatMap
      (fun i => segmentBytes debug i (payload i)) ++ tail)).length =
      2 + front.length + (debug.segmentsSize (List.range debug.numOfAppmarker.toNat) +
        tail.length) := by
    rw [List.length_append, List.length_append, List.length_append, hdebugs]
    rfl
  have hfirst : readByte ([0xFF, 0xD8] ++ front ++ ((List.range debug.numOfAppmarker.toNat).flatMap
      (fun i => segmentBytes debug i (payload i)) ++ tail)) 0 = .ok 0xFF := readByte_eq (by omega)
  have hsecond : readByte ([0xFF, 0xD8] ++ front ++ ((List.range debug.numOfAppmarker.toNat).flatMap
      (fun i => segmentBytes debug i (payload i)) ++ tail)) 1 = .ok 0xD8 := readByte_eq (by omega)
  unfold updateDebugData
  dsimp only
  rw [if_neg (by exact Int.not_lt.mpr haccepted.1), hextra, if_neg (by
      unfold jpegMarkerSize
      omega), hfirst, ok_bind, if_neg (fun hne => hne rfl), hsecond, ok_bind,
    if_neg (fun hne => hne rfl), hlength]
  by_cases hnum : debug.numOfAppmarker ≤ 0
  · -- nothing to store, so the streams are the same
    have hzero : debug.numOfAppmarker.toNat = 0 := by omega
    rw [hzero] at hlength ⊢
    exact updateDebugLoop_done debug _ _ (by omega)
  · rcases hfront with hnone | rfl | ⟨len, body, hlen, hbody, rfl⟩
    · exact absurd hnone hnum
    · rw [List.append_nil] at hloop ⊢
      rw [show 2 + [].length + (debug.segmentsSize (List.range debug.numOfAppmarker.toNat) +
        tail.length) - 2 = debug.segmentsSize (List.range debug.numOfAppmarker.toNat) +
          tail.length by rw [List.length_nil]; omega]
      exact hloop
    · have hneed : 0 < debug.segmentsSize (List.range debug.numOfAppmarker.toNat) := by
        obtain ⟨n, hn⟩ : ∃ n, debug.numOfAppmarker.toNat = n + 1 :=
          Nat.exists_eq_succ_of_ne_zero (by omega)
        rw [hn, List.range_succ_eq_map, segmentsSize_cons]
        unfold jpegMarkerSize
        omega
      have happ1 : ¬isTarget debug.getExtraAPPSize.2 0xE1 := by
        intro htarget
        have hset : debug.getExtraAPPSize.2.testBit 1 = true := htarget.2
        rw [hbit] at hset
        cases hset
      have hlater : ((List.range debug.numOfAppmarker.toNat).flatMap
          (fun i => segmentBytes debug i (payload i)) ++ tail).length =
          debug.segmentsSize (List.range debug.numOfAppmarker.toNat) + tail.length := by
        rw [List.length_append, hdebugs]
      have hskip := @updateDebugLoop_skip debug debug.getExtraAPPSize.2
        (debug.segmentsSize (List.range debug.numOfAppmarker.toNat)) len [0xFF, 0xD8] body
        ((List.range debug.numOfAppmarker.toNat).flatMap
          (fun i => segmentBytes debug i (payload i)) ++ tail) 0xE1 happ1 (by decide) hlen hbody
        hneed (by omega)
      have hbefore : ([0xFF, 0xD8] ++ ([0xFF, 0xE1] ++ be16 len ++ body) : List UInt8).length =
          2 + (2 + len) := by
        rw [List.length_append, List.length_append, List.length_append, length_be16]
        change 2 + (2 + 2 + body.length) = _
        omega
      have happ1Length : ([0xFF, 0xE1] ++ be16 len ++ body : List UInt8).length = 2 + len := by
        rw [List.length_append] at hbefore
        exact Nat.add_left_cancel hbefore
      rw [hbefore] at hloop
      rw [happ1Length, show 2 + (2 + len) + (debug.segmentsSize
        (List.range debug.numOfAppmarker.toNat) + tail.length) - 2 = 2 + len +
          (debug.segmentsSize (List.range debug.numOfAppmarker.toNat) + tail.length) by omega,
        ← hloop]
      rw [hlater] at hskip
      simp only [List.append_assoc] at hskip ⊢
      exact hskip

/-! ## 3. The finished stream -/

/-- The stream behind `Write`: SOI, what the memory then holds up to the place of the main stream,
and the main stream. -/
def finishedStream (w : CAppMarkerWriter) (reserve : Bool) (align : Nat) (reserveDebug : Bool)
    (buffer : Nat → UInt8) (main : List UInt8) : List UInt8 :=
  let r := w.write reserve jpegMarkerSize align reserveDebug Overlay.empty
  [0xFF, 0xD8] ++
    (List.range (r.1.mainBase - w.appBase)).map (fun i => r.2.onto buffer (w.appBase + i)) ++ main

section

variable (buffer : Nat → UInt8)

/-- What the buffer shows as the data of the `i`-th debug segment, where the first one is at `a`. -/
def segmentPayload (debug : DebugAttribute) (justReserve : Bool) (a i : Nat) : List UInt8 :=
  if justReserve then
    fill buffer (a + debugOffset debug i + 4) (blanks (debug.debugSize (debug.idx i)))
  else debug.bytes (debug.idx i)

theorem length_segmentPayload (debug : DebugAttribute) (justReserve : Bool) (a i : Nat) :
    (segmentPayload buffer debug justReserve a i).length = debug.debugSize (debug.idx i) := by
  unfold segmentPayload
  split
  · rw [length_fill, length_blanks]
  · exact debug.length_bytes _

theorem fill_debugSegmentCells (debug : DebugAttribute) (justReserve : Bool) (a i : Nat) :
    fill buffer (a + debugOffset debug i) (debugSegmentCells debug justReserve i) =
      segmentBytes debug i (segmentPayload buffer debug justReserve a i) := by
  unfold debugSegmentCells segmentBytes segmentPayload
  dsimp only
  rw [fill_append, fill_stored, length_stored]
  cases justReserve with
  | true => rfl
  | false =>
    rw [if_neg Bool.false_ne_true, if_neg Bool.false_ne_true, fill_stored]
    rfl

theorem fill_debugCells (debug : DebugAttribute) (justReserve : Bool) (a n : Nat) :
    fill buffer a ((List.range n).flatMap (debugSegmentCells debug justReserve)) =
      (List.range n).flatMap fun i =>
        segmentBytes debug i (segmentPayload buffer debug justReserve a i) := by
  induction n with
  | zero => rfl
  | succ n ih =>
    rw [List.range_succ, List.flatMap_append, List.flatMap_append, fill_append, ih,
      length_flatMap_debugSegmentCells, List.flatMap_singleton, List.flatMap_singleton,
      fill_debugSegmentCells]

theorem segmentPayload_stored (debug : DebugAttribute) (a i : Nat) :
    segmentPayload buffer debug false a i = debug.bytes (debug.idx i) := if_neg Bool.false_ne_true

/-- The bytes behind the debug segments, where the APP1 segment ends at `a`. -/
def streamTail (w : CAppMarkerWriter) (a align : Nat) (main : List UInt8) : List UInt8 :=
  (fill buffer (a + (w.appxCells false).length)
    (w.app11Block (a + (w.appxCells false).length) jpegMarkerSize align)).take
      ((w.app11Block (a + (w.appxCells false).length) jpegMarkerSize align).length -
        jpegMarkerSize) ++
    main

/-- The memory behind `WriteAPP1`. -/
def app1Memory (w : CAppMarkerWriter) (reserve : Bool) : Nat → UInt8 :=
  (w.writeApp1 w.appBase reserve false Overlay.empty).2.2.onto buffer

theorem fill_behindCells (w : CAppMarkerWriter) {d : DebugAttribute} (hd : w.debug = some d)
    (a align : Nat) (reserveDebug : Bool) :
    fill buffer a (w.behindCells a jpegMarkerSize align reserveDebug) =
      ((List.range d.numOfAppmarker.toNat).flatMap fun i =>
        segmentBytes d i (segmentPayload buffer d reserveDebug a i)) ++
      fill buffer (a + (w.appxCells false).length)
        (w.app11Block (a + (w.appxCells false).length) jpegMarkerSize align) := by
  have happx : w.appxCells reserveDebug = debugCells d reserveDebug := by
    unfold CAppMarkerWriter.appxCells
    rw [hd]
  unfold CAppMarkerWriter.behindCells
  rw [fill_append, w.length_appxCells reserveDebug false, happx]
  exact congrArg (· ++ _) (fill_debugCells buffer d reserveDebug a _)

/-- The other segments follow the APP1 segment, even where that one goes on behind its end. -/
theorem finishedStream_eq {w : CAppMarkerWriter} (hw : w.Prepared) {align : Nat}
    (halign : align = 16 ∨ align = 1) {d : DebugAttribute} (hd : w.debug = some d) {reserve : Bool}
    {n : Nat} (hend : (w.writeApp1 w.appBase reserve false Overlay.empty).2.1 = w.appBase + n)
    (reserveDebug : Bool) (main : List UInt8) :
    finishedStream w reserve align reserveDebug buffer main =
      [0xFF, 0xD8] ++ fill (app1Memory buffer w reserve) w.appBase (blanks n) ++
        ((List.range d.numOfAppmarker.toNat).flatMap (fun i => segmentBytes d i
          (segmentPayload (app1Memory buffer w reserve) d reserveDebug (w.appBase + n) i)) ++
          streamTail (app1Memory buffer w reserve) w (w.appBase + n) align main) := by
  obtain ⟨cells, hcells⟩ : ∃ cells,
      w.behindCells (w.appBase + n) jpegMarkerSize align reserveDebug = cells := ⟨_, rfl⟩
  have hbounds := CAppMarkerWriter.app11Length_bounds
    (w.appBase + n + (w.appxCells reserveDebug).length) halign
  have hblock : jpegMarkerSize ≤ (w.app11Block (w.appBase + n + (w.appxCells false).length)
      jpegMarkerSize align).length := by
    have hbounds := CAppMarkerWriter.app11Length_bounds
      (w.appBase + n + (w.appxCells false).length) halign
    rw [CAppMarkerWriter.app11Block_eq (w := w) (Or.inr (by rw [hd]; rfl)),
      length_app11Cells (by unfold jpegSegmentLenfieldSize; omega)]
    exact Nat.le_add_right _ _
  have hlen : jpegSegmentLenfieldSize ≤ CAppMarkerWriter.app11Length
      (w.appBase + n + (w.appxCells reserveDebug).length) jpegMarkerSize align := by
    unfold jpegSegmentLenfieldSize
    omega
  have hwrite := w.write_behind hw (Prod.ext hend rfl) hlen
  have hmemory := map_onto_lay (app1Memory buffer w reserve) Overlay.empty w.appBase
    (blanks n ++ cells) (fun _ _ => rfl)
  rw [Overlay.lay_append, Overlay.lay_blanks, length_blanks, List.length_append, length_blanks]
    at hmemory
  have hprefix : (List.range (n + cells.length - jpegMarkerSize)).map (fun i =>
      ((w.writeApp1 w.appBase reserve false Overlay.empty).2.2.lay (w.appBase + n) cells).onto buffer
        (w.appBase + i)) =
      (fill (app1Memory buffer w reserve) w.appBase (blanks n ++ cells)).take
        (n + cells.length - jpegMarkerSize) := by
    rw [onto_lay, ← hmemory, ← List.map_take, List.take_range, Nat.min_eq_left (Nat.sub_le _ _)]
    rfl
  have hsegments := fill_behindCells (app1Memory buffer w reserve) w hd (w.appBase + n) align
    reserveDebug
  have hlength := congrArg List.length hsegments
  rw [hcells, length_fill, List.length_append, length_fill] at hlength
  unfold finishedStream
  rw [hwrite]
  dsimp only
  rw [hcells, show (w.writtenBehind (w.appBase + n) jpegMarkerSize align reserveDebug).mainBase -
      w.appBase = n + cells.length - jpegMarkerSize by
    change w.appBase + n + (w.behindCells _ _ _ _).length - jpegMarkerSize - w.appBase = _
    rw [hcells]
    omega, hprefix, fill_append, length_blanks, ← hcells, hsegments, ← List.append_assoc (fill _ _ _),
    hcells, hlength, Nat.add_sub_assoc (by omega), Nat.add_sub_assoc hblock, ← Nat.add_assoc]
  rw [show n + ((List.range d.numOfAppmarker.toNat).flatMap fun i => segmentBytes d i
      (segmentPayload (app1Memory buffer w reserve) d reserveDebug (w.appBase + n) i)).length =
      (fill (app1Memory buffer w reserve) w.appBase (blanks n) ++
        (List.range d.numOfAppmarker.toNat).flatMap fun i => segmentBytes d i
          (segmentPayload (app1Memory buffer w reserve) d reserveDebug (w.appBase + n) i)).length by
    rw [List.length_append, length_fill, length_blanks], List.take_length_add_append]
  unfold streamTail
  simp only [List.append_assoc]

/-- The APP1 segment in the stream. -/
theorem fill_app1Memory {w : CAppMarkerWriter} {e : ExifAttribute} (hw : w.Measured e)
    (reserve : Bool) : ∃ body, body.length + 2 = e.app1Size reserve ∧
      fill (app1Memory buffer w reserve) w.appBase (blanks (jpegMarkerSize + e.app1Size reserve)) =
        [0xFF, 0xE1] ++ be16 (e.app1Size reserve) ++ body := by
  have hsize : 2 ≤ e.app1Size reserve := by
    unfold ExifAttribute.app1Size
    split
    · decide
    · unfold ExifAttribute.appLength ExifAttribute.appLengthNoThumb jpegSegmentLenfieldSize
      omega
  obtain ⟨k, hk⟩ := Nat.exists_eq_add_of_le hsize
  have hcell (i : Nat) (hi : i < 4) : app1Memory buffer w reserve (w.appBase + i) =
      byteAt ([0xFF, 0xE1] ++ be16 (e.app1Size reserve)) i := by
    have hfront := (writeApp1_of_lt hw.counted w.appBase reserve Overlay.empty
      (i := w.appBase + i) (by omega)).1
    rw [be16_app1Size hw] at hfront
    unfold app1Memory Overlay.onto
    rw [hfront, Overlay.lay_apply, cellAt_add]
    match i, hi with
    | 0, _ => rfl
    | 1, _ => rfl
    | 2, _ => rfl
    | 3, _ => rfl
  refine ⟨fill (app1Memory buffer w reserve) (w.appBase + 4) (blanks k), ?_, ?_⟩
  · rw [length_fill, length_blanks, hk, Nat.add_comm]
  · have hsplit : blanks (jpegMarkerSize + e.app1Size reserve) = blanks 4 ++ blanks k := by
      unfold blanks jpegMarkerSize
      rw [hk, List.replicate_append_replicate]
      congr 1
      omega
    rw [hsplit, fill_append, length_blanks]
    refine congrArg (· ++ _) ?_
    change [app1Memory buffer w reserve (w.appBase + 0), app1Memory buffer w reserve (w.appBase + 1),
      app1Memory buffer w reserve (w.appBase + 2), app1Memory buffer w reserve (w.appBase + 3)] = _
    rw [hcell 0 (by omega), hcell 1 (by omega), hcell 2 (by omega), hcell 3 (by omega)]
    rfl

end

/-- Where the APP1 segment is as long as it says, an update of the stream that was written with
empty debug segments gives the one that is written directly, and leaves that one alone. -/
theorem updateDebugData_finishedStream (w : CAppMarkerWriter) (base : Nat)
    {exif : Option ExifAttribute} {d : DebugAttribute} (hd : d.Accepted) {reserve : Bool}
    (hkept : ∀ e ∈ exif, ¬e.thumbTooSmall ∧ (d.numOfAppmarker ≤ 0 ∨ e.LengthKept reserve))
    {align : Nat} (halign : align = 16 ∨ align = 1) (buffer : Nat → UInt8) {main : List UInt8}
    (hmain : main ≠ []) (reserveDebug : Bool) :
    updateDebugData (finishedStream (w.prepareAppWriter base exif (some d)) reserve align
        reserveDebug buffer main) (some d) =
      .ok (true, finishedStream (w.prepareAppWriter base exif (some d)) reserve align false buffer
        main) := by
  have hdebug := debug_prepareAppWriter w base (fun e he => (hkept e he).1) hd
  have hexif := exif_prepareAppWriter w base exif (some d)
  have hmeasured : ∀ e ∈ exif, (w.prepareAppWriter base exif (some d)).Measured e := by
    intro e he
    rw [Option.mem_def.mp he]
    exact CAppMarkerWriter.measured_prepareAppWriter w base (some d) (hkept e he).1
  have hprepared : (w.prepareAppWriter base exif (some d)).Prepared := by
    intro e he
    rw [hexif] at he
    exact (hmeasured e he).prepared e (by rw [hexif]; exact he)
  obtain ⟨n, hend, hfront⟩ : ∃ n, ((w.prepareAppWriter base exif (some d)).writeApp1
      (w.prepareAppWriter base exif (some d)).appBase reserve false Overlay.empty).2.1 =
        (w.prepareAppWriter base exif (some d)).appBase + n ∧
      (d.numOfAppmarker ≤ 0 ∨
        fill (app1Memory buffer (w.prepareAppWriter base exif (some d)) reserve)
          (w.prepareAppWriter base exif (some d)).appBase (blanks n) = [] ∨
        ∃ len payload, len < 2 ^ 16 ∧ payload.length + 2 = len ∧
          fill (app1Memory buffer (w.prepareAppWriter base exif (some d)) reserve)
            (w.prepareAppWriter base exif (some d)).appBase (blanks n) =
            [0xFF, 0xE1] ++ be16 len ++ payload) := by
    cases exif with
    | none =>
      refine ⟨0, ?_, Or.inr (Or.inl rfl)⟩
      rw [CAppMarkerWriter.writeApp1_none _ hexif]
      rfl
    | some e =>
      refine ⟨_, writeApp1_end (hmeasured e rfl) reserve _, ?_⟩
      rcases (hkept e rfl).2 with hnone | hlength
      · exact Or.inl hnone
      · obtain ⟨body, hbody, hcells⟩ := fill_app1Memory buffer (hmeasured e rfl) reserve
        exact Or.inr (Or.inr ⟨_, body, Nat.lt_succ_of_le hlength, hbody, hcells⟩)
  have htail : streamTail (app1Memory buffer (w.prepareAppWriter base exif (some d)) reserve)
      (w.prepareAppWriter base exif (some d))
      ((w.prepareAppWriter base exif (some d)).appBase + n) align main ≠ [] :=
    List.append_ne_nil_of_right_ne_nil _ hmain
  rw [finishedStream_eq buffer hprepared halign hdebug hend,
    finishedStream_eq buffer hprepared halign hdebug hend,
    updateDebugData_eq hd hfront (fun i _ => length_segmentPayload _ d _ _ i) htail]
  simp only [segmentPayload_stored]

/-- A late update gives the stream that is written directly, and changes nothing there. -/
def LateUpdateIsDirect (w : CAppMarkerWriter) (base : Nat) (exif : Option ExifAttribute)
    (d : DebugAttribute) (reserve : Bool) (align : Nat) (buffer : Nat → UInt8)
    (main : List UInt8) : Prop :=
  let prepared := w.prepareAppWriter base exif (some d)
  let direct := finishedStream prepared reserve align false buffer main
  updateDebugData (finishedStream prepared reserve align true buffer main) (some d) =
    .ok (true, direct) ∧ updateDebugData direct (some d) = .ok (true, direct)

theorem lateUpdate_isDirect (w : CAppMarkerWriter) (base : Nat) {exif : Option ExifAttribute}
    {d : DebugAttribute} (hd : d.Accepted) {reserve : Bool}
    (hkept : ∀ e ∈ exif, ¬e.thumbTooSmall ∧ (d.numOfAppmarker ≤ 0 ∨ e.LengthKept reserve))
    {align : Nat} (halign : align = 16 ∨ align = 1) (buffer : Nat → UInt8) {main : List UInt8}
    (hmain : main ≠ []) : LateUpdateIsDirect w base exif d reserve align buffer main :=
  ⟨updateDebugData_finishedStream w base hd hkept halign buffer hmain true,
    updateDebugData_finishedStream w base hd hkept halign buffer hmain false⟩

/-- One segment with one byte of data. -/
def oneByteDebug : DebugAttribute := ⟨1, fun _ => 4, fun _ _ => 1, fun _ => 1⟩

theorem accepted_oneByteDebug : oneByteDebug.Accepted := by decide

theorem lateUpdate_isDirect_oneByteDebug :
    LateUpdateIsDirect newEncoder.appWriter 0x10002 (some (bareExif true false)) oneByteDebug false
      16 (fun _ => 0) [0xFF, 0xD8, 0xFF, 0xD9] :=
  lateUpdate_isDirect _ _ accepted_oneByteDebug
    (fun _ he => Option.some.inj he ▸ ⟨by decide, Or.inr (Nat.le_of_ble_eq_true rfl)⟩) (Or.inl rfl) _
    (List.cons_ne_nil _ _)

/-- A segment of the length 0 makes the walk stop in its length field. -/
theorem updateDebugLoop_zeroLength {debug : DebugAttribute} {bits jpeglen need : Nat}
    {pre tail : List UInt8} {marker : UInt8} (hmarker : ¬isTarget bits marker)
    (hend : ¬endsMetadata marker) (hpos : 0 < need) (hneed : need < jpeglen) (hlong : 4 ≤ jpeglen) :
    updateDebugLoop debug bits (pre ++ ([0xFF, marker] ++ be16 0 ++ tail)) pre.length jpeglen need =
      .ok (true, pre ++ ([0xFF, marker] ++ be16 0 ++ tail)) := by
  have hfirst : readByte (pre ++ ([0xFF, marker] ++ be16 0 ++ tail)) pre.length = .ok 0xFF :=
    readByte_append (i := 0) (Nat.zero_lt_succ _)
  have hsecond : readByte (pre ++ ([0xFF, marker] ++ be16 0 ++ tail)) (pre.length + 1) =
      .ok marker :=
    readByte_append (i := 1) (Nat.succ_lt_succ (Nat.zero_lt_succ _))
  have hnext : readByte (pre ++ ([0xFF, marker] ++ be16 0 ++ tail)) (pre.length + 3) = .ok 0 :=
    readByte_append (i := 3) (by
      simp only [List.length_append, length_be16, List.length_cons, List.length_nil]
      omega)
  have hseglen : getSegLen (pre ++ ([0xFF, marker] ++ be16 0 ++ tail)) (pre.length + 2) = .ok 0 :=
    getSegLen_append rfl (by decide)
  rw [updateDebugLoop, hfirst, ok_bind, if_neg (not_not.mpr ⟨rfl, by omega, by omega⟩), hsecond,
    ok_bind, if_neg (by omega), if_neg hend, if_neg hmarker, hseglen, ok_bind]
  dsimp only
  rw [show min (max 0 1) (jpeglen - 2) = 1 by omega, show pre.length + 2 + 1 = pre.length + 3 from rfl,
    updateDebugLoop, hnext, ok_bind, if_pos (fun hb => absurd hb.1 (by decide))]
  rfl

theorem updateDebugData_zeroLength {d : DebugAttribute} (hd : d.Accepted) {rest : List UInt8}
    (hpos : 0 < d.getExtraAPPSize.1) (hlong : d.getExtraAPPSize.1 < 4 + rest.length) :
    updateDebugData ([0xFF, 0xD8] ++ ([0xFF, 0xE1] ++ be16 0 ++ rest)) (some d) =
      .ok (true, [0xFF, 0xD8] ++ ([0xFF, 0xE1] ++ be16 0 ++ rest)) := by
  obtain ⟨-, -, hbit⟩ := DebugAttribute.getExtraAPPSize_of_accepted hd
  have happ1 : ¬isTarget d.getExtraAPPSize.2 0xE1 := by
    intro htarget
    have hset : d.getExtraAPPSize.2.testBit 1 = true := htarget.2
    rw [hbit] at hset
    cases hset
  have hlength : ([0xFF, 0xD8] ++ ([0xFF, 0xE1] ++ be16 0 ++ rest) : List UInt8).length =
      6 + rest.length := by
    rw [List.length_append, List.length_append, ← Nat.add_assoc]
    rfl
  have hfirst : readByte ([0xFF, 0xD8] ++ ([0xFF, 0xE1] ++ be16 0 ++ rest)) 0 = .ok 0xFF :=
    readByte_eq (by omega)
  have hsecond : readByte ([0xFF, 0xD8] ++ ([0xFF, 0xE1] ++ be16 0 ++ rest)) 1 = .ok 0xD8 :=
    readByte_eq (by omega)
  unfold updateDebugData
  dsimp only
  rw [if_neg (by exact Int.not_lt.mpr hd.1), if_neg (by unfold jpegMarkerSize; omega), hfirst,
    ok_bind, if_neg (fun hne => hne rfl), hsecond, ok_bind, if_neg (fun hne => hne rfl), hlength]
  exact @updateDebugLoop_zeroLength d _ _ _ [0xFF, 0xD8] rest 0xE1 happ1 (by decide) hpos
    (by omega) (by omega)

/-- A maker note that makes the segment 65536 bytes long. -/
def wrappedExif : ExifAttribute :=
  { bareExif false false with
    makerNote := ⟨List.replicate 64915 0, by rw [List.length_replicate]; decide⟩ }

theorem appLength_makerNote (note : Blob) :
    ExifAttribute.appLength { bareExif false false with makerNote := note } =
      609 + blobSize note.size := by
  have hexif : ExifAttribute.exifIfdSize { bareExif false false with makerNote := note } =
      425 + blobSize note.size + 42 := rfl
  unfold ExifAttribute.appLength ExifAttribute.appLengthNoThumb
  rw [hexif]
  show 2 + 6 + 8 + 126 + (425 + blobSize note.size + 42) + 0 + 0 = _
  omega

theorem appLength_wrappedExif : wrappedExif.appLength = 65536 := by
  have hsize : wrappedExif.makerNote.size = 64915 := List.length_replicate
  rw [show wrappedExif.appLength = 609 + blobSize wrappedExif.makerNote.size from
    appLength_makerNote wrappedExif.makerNote, hsize]
  rfl

/-- Behind a segment of such a length the walk does not find the debug segment, and says that it has
been updated. -/
theorem not_lateUpdate_of_zeroLength (w : CAppMarkerWriter) (base : Nat) {e : ExifAttribute}
    (htoo : ¬e.thumbTooSmall) (hlength : e.appLength % 2 ^ 16 = 0) (main : List UInt8) :
    ¬LateUpdateIsDirect w base (some e) oneByteDebug false 16 (fun _ => 0) main := by
  intro hdirect
  have hdebug : (w.prepareAppWriter base (some e) (some oneByteDebug)).debug =
      some oneByteDebug :=
    debug_prepareAppWriter w base (fun _ he => Option.some.inj he ▸ htoo) accepted_oneByteDebug
  have hmeasured := CAppMarkerWriter.measured_prepareAppWriter w base (some oneByteDebug) htoo
  obtain ⟨body, -, hbody⟩ := fill_app1Memory (fun _ => 0) hmeasured false
  have hzero : be16 (e.app1Size false) = be16 0 := by
    refine be16_congr ?_
    unfold ExifAttribute.app1Size
    rw [if_neg fun hb => Bool.false_ne_true hb.1, hlength]
    rfl
  rw [hzero] at hbody
  have hstream (reserveDebug : Bool) := finishedStream_eq (fun _ => 0) hmeasured.prepared
    (Or.inl rfl : 16 = 16 ∨ 16 = 1) hdebug (writeApp1_end hmeasured false _) reserveDebug main
  rw [hbody, show oneByteDebug.numOfAppmarker.toNat = 1 from rfl] at hstream
  obtain ⟨m, hm⟩ : ∃ m, app1Memory (fun _ => 0)
      (w.prepareAppWriter base (some e) (some oneByteDebug)) false = m := ⟨_, rfl⟩
  obtain ⟨a, ha⟩ : ∃ a, (w.prepareAppWriter base (some e) (some oneByteDebug)).appBase +
      (jpegMarkerSize + e.app1Size false) = a := ⟨_, rfl⟩
  obtain ⟨tail, htail⟩ : ∃ tail, streamTail m
      (w.prepareAppWriter base (some e) (some oneByteDebug)) a 16 main = tail := ⟨_, rfl⟩
  rw [hm, ha, htail] at hstream
  have hbehind : m (a + 4) = 0 := by
    rw [← hm, ← ha]
    unfold app1Memory Overlay.onto
    rw [CAppMarkerWriter.writeApp1_some _ hmeasured.prepared hmeasured.counted.exif_eq]
    dsimp only
    rw [Overlay.lay_of_ge (by
      rw [e.length_app1Cells]
      unfold ExifAttribute.app1Size
      rw [if_neg fun hb => Bool.false_ne_true hb.1]
      exact Nat.le_add_right _ 4)]
    rfl
  have hsegment (reserveDebug : Bool) : (List.range 1).flatMap (fun i => segmentBytes oneByteDebug i
      (segmentPayload m oneByteDebug reserveDebug a i)) =
      [0xFF, 0xE4, 0, 3, if reserveDebug then 0 else 1] := by
    cases reserveDebug with
    | true =>
      change [0xFF, 0xE4, 0, 3, m (a + 4)] = _
      rw [hbehind]
      rfl
    | false => rfl
  have hwalk : updateDebugData ([0xFF, 0xD8] ++ ([0xFF, 0xE1] ++ be16 0 ++
      (body ++ ([0xFF, 0xE4, 0, 3, 0] ++ tail)))) (some oneByteDebug) = .ok (true, _) :=
    updateDebugData_zeroLength accepted_oneByteDebug (by decide) (by
      rw [List.length_append, List.length_append]
      change 5 < 4 + (_ + (5 + _))
      omega)
  have hupdate := hdirect.1
  rw [hstream true, hstream false, hsegment, hsegment, if_pos rfl, if_neg Bool.false_ne_true]
    at hupdate
  simp only [List.append_assoc] at hwalk hupdate
  rw [hwalk] at hupdate
  have hsame := congrArg Prod.snd (Except.ok.inj hupdate)
  dsimp only at hsame
  have hcells := List.append_cancel_left (List.append_cancel_left (List.append_cancel_left
    (List.append_cancel_left hsame)))
  have hbyte := congrArg (fun bytes : List UInt8 => bytes[4]?) hcells
  change some (0 : UInt8) = some 1 at hbyte
  exact absurd hbyte (by decide)

/-- The maker note is too long by one byte. -/
theorem lateUpdate_lost : ¬∀ (w : CAppMarkerWriter) (base : Nat) (exif : Option ExifAttribute)
    (d : DebugAttribute), d.Accepted → (w.prepareAppWriter base exif (some d)).debug = some d →
    ∀ (reserve : Bool) (align : Nat), align = 16 ∨ align = 1 → ∀ (buffer : Nat → UInt8)
      (main : List UInt8), main ≠ [] → LateUpdateIsDirect w base exif d reserve align buffer main := by
  intro hall
  have htoo : ¬wrappedExif.thumbTooSmall := fun htoo => Bool.false_ne_true htoo.1
  have hdebug : (newEncoder.appWriter.prepareAppWriter 0x10002 (some wrappedExif)
      (some oneByteDebug)).debug = some oneByteDebug :=
    debug_prepareAppWriter newEncoder.appWriter 0x10002 (fun _ he => Option.some.inj he ▸ htoo)
      accepted_oneByteDebug
  have hlength : wrappedExif.appLength % 2 ^ 16 = 0 := by
    rw [appLength_wrappedExif]
    decide
  exact not_lateUpdate_of_zeroLength newEncoder.appWriter 0x10002 htoo hlength
    [0xFF, 0xD8] (hall newEncoder.appWriter 0x10002 (some wrappedExif)
      oneByteDebug accepted_oneByteDebug hdebug false 16 (Or.inl rfl) (fun _ => 0) [0xFF, 0xD8]
      (List.cons_ne_nil _ _))

end Universal7870.Jpeg
