import Universal7870.Jpeg.ProcessExif
import Universal7870.Lib.BlockCopy

/-!
# The end of a compression

`FinishCompression` of `ExynosJpegEncoderForCamera.cpp` trims the stream of the main image, and
embeds that of the thumbnail in the header in front of it.
-/

namespace Universal7870.Jpeg

open Lib

abbrev Memory := Nat → UInt8

/-- Bytes are written at an address. -/
def Memory.write (mem : Memory) (a : Nat) (bs : List UInt8) : Memory :=
  blit mem a (fun i => bs.getD i 0) 0 bs.length

/-! ## 1. Trimming -/

def eoiAt (mem : Memory) (base i : Nat) : Bool := mem (base + i) == 0xFF && mem (base + i + 1) == 0xD9

/-- The loop of `RemoveTrailingDummies`, from `riter` down. -/
def findEoi (mem : Memory) (base : Nat) : Nat → Nat
  | 0 => 0
  | riter + 1 => if eoiAt mem base (riter + 1) then riter + 1 + 2 else findEoi mem base riter

/-- `RemoveTrailingDummies`. -/
def removeTrailingDummies (mem : Memory) (base len : Nat) : Nat := findEoi mem base (sizeSub len 2)

/-- The compressions of the thumbnail on its own: the stream and its length for the number of the
attempt and the quality, unless it fails. -/
abbrev ThumbCompressor := Nat → Nat → Option (Memory × Nat)

/-- The loop of `CompressThumbnailOnly`; the quality falls with every turn. -/
def compressThumbnailLoop (compress : ThumbCompressor) (limit attempt : Nat) :
    Nat → Nat → Nat × Memory
  | 0, _ => (0, fun _ => 0)
  | turns + 1, quality =>
    match compress attempt quality with
    | none => (0, fun _ => 0)
    | some (mem, len) =>
      let thumbsize := removeTrailingDummies mem 0 len
      if limit < thumbsize then
        if 20 ≤ min 50 (quality - 10) then
          compressThumbnailLoop compress limit (attempt + 1) turns (min 50 (quality - 10))
        else (0, mem)
      else (thumbsize, mem)

/-- `CompressThumbnailOnly`: the length of the stream, and the buffer it is in. -/
def compressThumbnailOnly (compress : ThumbCompressor) (limit quality : Nat) : Nat × Memory :=
  compressThumbnailLoop compress limit 0 (quality + 1) quality

/-! ## 2. The code -/

/-- The members of the encoder for the end of a compression. -/
structure StreamEncoder where
  streamBase : Nat
  streamSize : Nat
  appWriter : CAppMarkerWriter
  thumbGenerationNeeded : Bool
  btbSupported : Bool
  thumbQuality : Nat

/-- How the calls end: the thread that makes the thumbnail, unless it cannot be joined; the
compressor of the thumbnail, and that of a thumbnail that is too large; and the thumbnail that was
compressed back to back. -/
structure FinishCalls where
  join : Option (Nat × Memory)
  compressor : ThumbCompressor
  recompressor : ThumbCompressor
  thumblen : Nat
  thumbJpegBuffer : Memory

namespace StreamEncoder

variable (s : StreamEncoder)

/-- The length of the thumbnail and its stream. -/
def thumbStream (calls : FinishCalls) : Option (Nat × Memory) :=
  if s.thumbGenerationNeeded then calls.join
  else if s.btbSupported = false then
    some (compressThumbnailOnly calls.compressor s.appWriter.maxThumbSize s.thumbQuality)
  else some (calls.thumblen, calls.thumbJpegBuffer)

/-- `max_thumb` -/
def maxThumb (mainlen : Nat) : Nat :=
  min s.appWriter.maxThumbSize
    (sizeSub (sizeSub s.streamSize (s.appWriter.calculateAppSize 0)) mainlen)

/-- A thumbnail that is too large is compressed again; with no result there is no image. -/
def fitThumb (calls : FinishCalls) (mainlen : Nat) (thumb : Nat × Memory) :
    Option (Nat × Memory) :=
  if s.maxThumb mainlen < thumb.1 then
    let again := compressThumbnailOnly calls.recompressor (s.maxThumb mainlen) 50
    if again.1 = 0 then none else some again
  else some thumb

/-- The stream of the main image is moved behind the thumbnail. -/
def moveMain (mem : Memory) (mainlen thumblen : Nat) : Memory :=
  (s.appWriter.updateApp1Size thumblen Overlay.empty).onto
    (blit mem (s.appWriter.app1End + thumblen) mem s.appWriter.app1End
      ((mainlen + sizeSub s.appWriter.mainBase s.appWriter.app1End) % 2 ^ 64))

/-- The stream of the thumbnail is copied to its place, and its length is written. -/
def copyThumb (mem : Memory) (thumb : Nat × Memory) : Memory :=
  if 0 < thumb.1 then
    (s.appWriter.finalize thumb.1 Overlay.empty).2.onto
      (blit mem s.appWriter.thumbBase thumb.2 0 thumb.1)
  else mem

/-- The rest of the place is cleared. -/
def clearRest (mem : Memory) (thumblen : Nat) : Memory :=
  blit mem (s.appWriter.thumbBase + thumblen) (fun _ => 0) 0 (s.appWriter.maxThumbSize - thumblen)

/-- The thumbnail is embedded, if there is room. -/
def embedThumb (mem : Memory) (mainlen : Nat) (thumb : Nat × Memory) : Option Memory :=
  if s.appWriter.isThumbSpaceReserved then some (s.clearRest (s.copyThumb mem thumb) thumb.1)
  else if s.streamBase + s.streamSize <
      s.appWriter.mainBase + mainlen + thumb.1 - jpegMarkerSize then none
  else some (s.copyThumb (s.moveMain mem mainlen thumb.1) thumb)

/-- The part of `FinishCompression` for the thumbnail: its length and the memory. -/
def finishThumb (calls : FinishCalls) (mem : Memory) (mainlen : Nat) : Option (Nat × Memory) :=
  if s.appWriter.thumbBase ≠ 0 then
    match s.thumbStream calls with
    | none => none
    | some thumb =>
      match s.fitThumb calls mainlen thumb with
      | none => none
      | some thumb => (s.embedThumb mem mainlen thumb).map fun mem => (thumb.1, mem)
  else some (0, mem)

/-- The writer once the length of the thumbnail is written. -/
def finishedWriter (thumblen : Nat) : CAppMarkerWriter :=
  if s.appWriter.thumbBase ≠ 0 ∧ 0 < thumblen then
    (s.appWriter.finalize thumblen Overlay.empty).1
  else s.appWriter

/-- `FinishCompression`: the length of the image, `none` for a negative value, the memory and the
writer. -/
def finishCompression (calls : FinishCalls) (mem : Memory) (mainlen : Nat) :
    Option Nat × Memory × CAppMarkerWriter :=
  let len := removeTrailingDummies mem s.appWriter.mainBase mainlen
  let cleared := mem.write s.appWriter.mainBase [0, 0]
  match s.finishThumb calls cleared len with
  | none => (none, cleared, s.appWriter)
  | some (thumblen, mem) =>
    (some ((s.appWriter.calculateAppSize thumblen + len) % 2 ^ 64),
      mem.write s.streamBase [0xFF, 0xD8], s.finishedWriter thumblen)

end StreamEncoder

/-! ## 3. Trimmed streams -/

/-- The last EOI of a stream, behind its SOI. -/
structure LastEoi (mem : Memory) (base len i : Nat) : Prop where
  behind : 2 ≤ i
  inside : i + 2 ≤ len
  at_index : eoiAt mem base i = true
  last : ∀ j, i < j → j + 2 ≤ len → eoiAt mem base j = false

theorem findEoi_of_last {mem : Memory} {base i n : Nat} (hpos : 0 < i) (hle : i ≤ n)
    (hat : eoiAt mem base i = true) (hlast : ∀ j, i < j → j ≤ n → eoiAt mem base j = false) :
    findEoi mem base n = i + 2 := by
  induction n with
  | zero => omega
  | succ n ih =>
    unfold findEoi
    rcases Nat.lt_or_ge n i with hlt | hge
    · obtain rfl : i = n + 1 := by omega
      rw [if_pos hat]
    · have hnot := hlast (n + 1) (by omega) (Nat.le_refl _)
      rw [if_neg (by simp [hnot])]
      exact ih hge fun j hij hj => hlast j hij (by omega)

theorem sizeSub_of_le {a b : Nat} (hle : b ≤ a) (ha : a < 2 ^ 64) : sizeSub a b = a - b := by
  unfold sizeSub
  omega

theorem LastEoi.removeTrailingDummies {mem : Memory} {base len i : Nat}
    (h : LastEoi mem base len i) (hlen : len < 2 ^ 64) :
    removeTrailingDummies mem base len = i + 2 := by
  have hinside := h.inside
  have hbehind := h.behind
  unfold Jpeg.removeTrailingDummies
  have hsub : sizeSub len 2 = len - 2 := sizeSub_of_le (Nat.le_trans (by omega) hinside) hlen
  rw [hsub]
  exact findEoi_of_last (by omega) (by omega) h.at_index fun j hij hj =>
    h.last j hij (by omega)

/-- The thumbnail's own compression keeps to the limit. -/
theorem compressThumbnailLoop_le (compress : ThumbCompressor) (limit attempt turns quality : Nat) :
    (compressThumbnailLoop compress limit attempt turns quality).1 ≤ limit := by
  induction turns generalizing attempt quality with
  | zero => exact Nat.zero_le _
  | succ turns ih =>
    unfold compressThumbnailLoop
    cases compress attempt quality with
    | none => exact Nat.zero_le _
    | some stream =>
      dsimp only
      generalize removeTrailingDummies stream.1 0 stream.2 = thumbsize
      by_cases hlarge : limit < thumbsize
      · rw [if_pos hlarge]
        split
        · exact ih _ _
        · exact Nat.zero_le _
      · rw [if_neg hlarge]
        exact Nat.not_lt.mp hlarge

theorem compressThumbnailOnly_le (compress : ThumbCompressor) (limit quality : Nat) :
    (compressThumbnailOnly compress limit quality).1 ≤ limit :=
  compressThumbnailLoop_le compress limit _ _ _

/-! ## 4. The header in front of the stream -/

/-- The header for a thumbnail: the place is behind the fields of the first segment, and what it
may take counts for the length of the header unless it was reserved. -/
structure ThumbPlaced (w : CAppMarkerWriter) (base : Nat) : Prop where
  app1End : w.app1End = w.thumbBase + if w.isThumbSpaceReserved then w.maxThumbSize else 0
  main : w.app1End + 2 ≤ w.mainBase
  length : base + 6 ≤ w.thumbBase
  placeholder : w.thumbSizePlaceholder + 4 ≤ w.thumbBase
  appSize : ∀ t ≤ w.maxThumbSize, w.calculateAppSize t =
    w.calculateAppSize 0 + if w.isThumbSpaceReserved then 0 else t

/-- The header of the writer `w` is in the buffer of the length `limit` at `base`, and the stream of
the main image behind it. -/
structure Placed (w : CAppMarkerWriter) (base limit : Nat) : Prop where
  appBase : w.appBase = base + 2
  main : w.mainBase = base + w.calculateAppSize 0
  inside : w.calculateAppSize 0 ≤ limit
  thumb : w.thumbBase ≠ 0 → ThumbPlaced w base

theorem Memory.write_outside {mem : Memory} {a i : Nat} {bs : List UInt8}
    (h : i < a ∨ a + bs.length ≤ i) : mem.write a bs i = mem i := blit_outside h

theorem onto_put_of_ge {mem : Memory} {a i : Nat} {bs : List UInt8} (h : a + bs.length ≤ i) :
    (Overlay.empty.put a bs).onto mem i = mem i := by
  unfold Overlay.onto Overlay.put
  rw [Overlay.lay_of_ge (by rw [length_stored]; exact h)]
  rfl

namespace StreamEncoder

variable {s : StreamEncoder} {base limit : Nat}

theorem copyThumb_of_ge (h : ThumbPlaced s.appWriter base) (mem : Memory) (thumb : Nat × Memory)
    {i : Nat} (hi : s.appWriter.thumbBase + thumb.1 ≤ i) : s.copyThumb mem thumb i = mem i := by
  have hplace := h.placeholder
  unfold copyThumb
  split
  · have hfinal : ∀ m : Memory,
        (s.appWriter.finalize thumb.1 Overlay.empty).2.onto m i = m i := by
      intro m
      unfold CAppMarkerWriter.finalize
      split
      · refine onto_put_of_ge ?_
        show s.appWriter.thumbSizePlaceholder + 4 ≤ i
        omega
      · rfl
    rw [hfinal, blit_outside (.inr hi)]
  · rfl

theorem clearRest_of_ge (mem : Memory) {thumblen i : Nat}
    (hle : thumblen ≤ s.appWriter.maxThumbSize)
    (hi : s.appWriter.thumbBase + s.appWriter.maxThumbSize ≤ i) :
    s.clearRest mem thumblen i = mem i := by
  unfold clearRest
  exact blit_outside (.inr (by omega))

/-- The main image behind its place is moved by the length of the thumbnail. -/
theorem moveMain_apply (hplaced : Placed s.appWriter base limit)
    (h : ThumbPlaced s.appWriter base) (mem : Memory) {mainlen thumblen i : Nat}
    (hlen : s.appWriter.mainBase + mainlen < 2 ^ 64) (hreserved : ¬s.appWriter.isThumbSpaceReserved)
    (hi : i < mainlen) :
    s.moveMain mem mainlen thumblen (s.appWriter.mainBase + thumblen + i) =
      mem (s.appWriter.mainBase + i) := by
  have hend := h.app1End
  have hmain := h.main
  have hlength := h.length
  rw [if_neg hreserved] at hend
  have hupdate : ∀ m : Memory, ∀ k, s.appWriter.app1End ≤ k →
      (s.appWriter.updateApp1Size thumblen Overlay.empty).onto m k = m k := by
    intro m k hk
    unfold CAppMarkerWriter.updateApp1Size
    split
    · refine onto_put_of_ge ?_
      show s.appWriter.appBase + 2 + 2 ≤ k
      rw [hplaced.appBase]
      omega
    · rfl
  unfold moveMain
  rw [hupdate _ _ (by omega), sizeSub_of_le (by omega) (by omega),
    Nat.mod_eq_of_lt (by omega)]
  obtain ⟨k, hk⟩ := Nat.exists_eq_add_of_le (show s.appWriter.app1End ≤ s.appWriter.mainBase by omega)
  rw [show s.appWriter.mainBase + thumblen + i = s.appWriter.app1End + thumblen + (k + i) by omega,
    blit_inside (by omega), show s.appWriter.app1End + (k + i) = s.appWriter.mainBase + i by omega]

theorem maxThumb_le (mainlen : Nat) : s.maxThumb mainlen ≤ s.appWriter.maxThumbSize :=
  Nat.min_le_left _ _

theorem fitThumb_le {calls : FinishCalls} {mainlen : Nat} {thumb fitted : Nat × Memory}
    (h : s.fitThumb calls mainlen thumb = some fitted) : fitted.1 ≤ s.maxThumb mainlen := by
  unfold fitThumb at h
  split at h
  · dsimp only at h
    split at h
    · cases h
    · obtain rfl := Option.some.inj h
      exact compressThumbnailOnly_le _ _ _
  · rename_i hfits
    obtain rfl := Option.some.inj h
    exact Nat.not_lt.mp hfits

/-- With the thumbnail embedded the main image is where the length of the header says. -/
theorem embedThumb_apply (hplaced : Placed s.appWriter base limit)
    (hthumb : s.appWriter.thumbBase ≠ 0) {mem mem' : Memory} {mainlen : Nat}
    {thumb : Nat × Memory} (hle : thumb.1 ≤ s.appWriter.maxThumbSize)
    (hlen : s.appWriter.mainBase + mainlen < 2 ^ 64)
    (h : s.embedThumb mem mainlen thumb = some mem') {i : Nat} (hi : i < mainlen) :
    mem' (base + s.appWriter.calculateAppSize thumb.1 + i) = mem (s.appWriter.mainBase + i) := by
  have hplace := hplaced.thumb hthumb
  have hend := hplace.app1End
  have hmain := hplace.main
  unfold embedThumb at h
  rw [hplace.appSize _ hle, ← Nat.add_assoc, ← hplaced.main]
  by_cases hreserved : s.appWriter.isThumbSpaceReserved
  · rw [if_pos hreserved] at h hend
    obtain rfl := Option.some.inj h
    rw [if_pos hreserved, Nat.add_zero, clearRest_of_ge _ hle (by omega),
      copyThumb_of_ge hplace _ _ (by omega)]
  · rw [if_neg hreserved] at h hend
    rw [if_neg hreserved]
    split at h
    · cases h
    · obtain rfl := Option.some.inj h
      rw [copyThumb_of_ge hplace _ _ (by omega)]
      exact moveMain_apply hplaced hplace mem hlen hreserved hi

theorem finishThumb_apply (hplaced : Placed s.appWriter base limit) {calls : FinishCalls}
    {mem mem' : Memory} {mainlen thumblen : Nat} (hlen : s.appWriter.mainBase + mainlen < 2 ^ 64)
    (h : s.finishThumb calls mem mainlen = some (thumblen, mem')) {i : Nat} (hi : i < mainlen) :
    mem' (base + s.appWriter.calculateAppSize thumblen + i) = mem (s.appWriter.mainBase + i) := by
  unfold finishThumb at h
  by_cases hthumb : s.appWriter.thumbBase ≠ 0
  · rw [if_pos hthumb] at h
    cases hstream : s.thumbStream calls with
    | none =>
      rw [hstream] at h
      cases h
    | some thumb =>
      rw [hstream] at h
      dsimp only at h
      cases hfit : s.fitThumb calls mainlen thumb with
      | none =>
        rw [hfit] at h
        cases h
      | some fitted =>
        rw [hfit] at h
        obtain ⟨mem'', hembed, hpair⟩ := Option.map_eq_some_iff.mp h
        obtain ⟨rfl, rfl⟩ := Prod.mk.inj hpair
        exact embedThumb_apply hplaced hthumb ((fitThumb_le hfit).trans (maxThumb_le _)) hlen
          hembed hi
  · rw [if_neg hthumb] at h
    obtain ⟨rfl, rfl⟩ := Prod.mk.inj (Option.some.inj h)
    rw [← hplaced.main]

/-- A thumbnail that is embedded leaves room for the main image. -/
theorem maxThumb_le_room {mainlen : Nat} (hinside : s.appWriter.calculateAppSize 0 ≤ s.streamSize)
    (hsize : s.streamSize < 2 ^ 64)
    (hlen : s.appWriter.calculateAppSize 0 + mainlen ≤ s.streamSize) :
    s.maxThumb mainlen ≤ s.streamSize - s.appWriter.calculateAppSize 0 - mainlen := by
  have hrest : sizeSub (sizeSub s.streamSize (s.appWriter.calculateAppSize 0)) mainlen =
      s.streamSize - s.appWriter.calculateAppSize 0 - mainlen := by
    rw [sizeSub_of_le hinside hsize]
    exact sizeSub_of_le (Nat.le_sub_of_add_le' hlen) (Nat.lt_of_le_of_lt (Nat.sub_le _ _) hsize)
  unfold maxThumb
  rw [hrest]
  exact Nat.min_le_right _ _

/-- The header with the thumbnail, and the main image, fit into the buffer. -/
theorem finishThumb_size (hplaced : Placed s.appWriter base s.streamSize) {calls : FinishCalls}
    {mem mem' : Memory} {mainlen thumblen : Nat} (hsize : s.streamSize < 2 ^ 64)
    (hlen : s.appWriter.calculateAppSize 0 + mainlen ≤ s.streamSize)
    (h : s.finishThumb calls mem mainlen = some (thumblen, mem')) :
    s.appWriter.calculateAppSize thumblen + mainlen ≤ s.streamSize := by
  have hroom := maxThumb_le_room hplaced.inside hsize hlen
  unfold finishThumb at h
  by_cases hthumb : s.appWriter.thumbBase ≠ 0
  · have happSize := (hplaced.thumb hthumb).appSize
    have hmax := s.maxThumb_le mainlen
    rw [if_pos hthumb] at h
    cases hstream : s.thumbStream calls with
    | none =>
      rw [hstream] at h
      cases h
    | some thumb =>
      rw [hstream] at h
      dsimp only at h
      cases hfit : s.fitThumb calls mainlen thumb with
      | none =>
        rw [hfit] at h
        cases h
      | some fitted =>
        rw [hfit] at h
        obtain ⟨mem'', hembed, hpair⟩ := Option.map_eq_some_iff.mp h
        have hlength : fitted.1 = thumblen := congrArg Prod.fst hpair
        have hle := fitThumb_le hfit
        rw [hlength] at hle
        rw [happSize _ (hle.trans hmax)]
        have hspace : (if s.appWriter.isThumbSpaceReserved then 0 else thumblen) ≤ thumblen := by
          by_cases hreserved : s.appWriter.isThumbSpaceReserved
          · rw [if_pos hreserved]
            exact Nat.zero_le _
          · rw [if_neg hreserved]
        generalize (if s.appWriter.isThumbSpaceReserved then 0 else thumblen) = space at *
        generalize s.appWriter.calculateAppSize 0 = size at *
        omega
  · rw [if_neg hthumb] at h
    have hlength : 0 = thumblen := congrArg Prod.fst (Option.some.inj h)
    rw [← hlength]
    exact hlen

/-! ## 5. Images -/

end StreamEncoder

/-- The `n` bytes at `base` are inside the buffer, begin with SOI and end with EOI. -/
structure Image (mem : Memory) (base size n : Nat) : Prop where
  inside : n ≤ size
  soi : mem base = 0xFF ∧ mem (base + 1) = 0xD8
  eoi : ∃ k, n = k + 2 ∧ mem (base + k) = 0xFF ∧ mem (base + k + 1) = 0xD9

namespace StreamEncoder

variable {s : StreamEncoder}

/-- A stream with an EOI becomes an image. -/
theorem image_finishCompression (hplaced : Placed s.appWriter s.streamBase s.streamSize)
    (hend : s.streamBase + s.streamSize < 2 ^ 64) {calls : FinishCalls} {mem : Memory}
    {mainlen i n : Nat} (hlast : LastEoi mem s.appWriter.mainBase mainlen i)
    (hlen : s.appWriter.calculateAppSize 0 + mainlen ≤ s.streamSize)
    (h : (s.finishCompression calls mem mainlen).1 = some n) :
    Image (s.finishCompression calls mem mainlen).2.1 s.streamBase s.streamSize n := by
  have hinside := hlast.inside
  have hbehind := hlast.behind
  have hmain := hplaced.main
  have hat := hlast.at_index
  unfold eoiAt at hat
  rw [Bool.and_eq_true, beq_iff_eq, beq_iff_eq] at hat
  have hsize : s.streamSize < 2 ^ 64 := Nat.lt_of_le_of_lt (Nat.le_add_left _ _) hend
  unfold finishCompression at h ⊢
  dsimp only at h ⊢
  rw [hlast.removeTrailingDummies
    (Nat.lt_of_le_of_lt ((Nat.le_add_left _ _).trans hlen) hsize)] at h ⊢
  cases hfinish : s.finishThumb calls (mem.write s.appWriter.mainBase [0, 0]) (i + 2) with
  | none =>
    rw [hfinish] at h
    cases h
  | some r =>
    obtain ⟨thumblen, mem'⟩ := r
    rw [hfinish] at h
    dsimp only at h ⊢
    have hn := Option.some.inj h
    have hfits := finishThumb_size hplaced hsize (by omega) hfinish
    rw [Nat.mod_eq_of_lt (Nat.lt_of_le_of_lt hfits hsize)] at hn
    have happly : ∀ k < i + 2,
        mem' (s.streamBase + s.appWriter.calculateAppSize thumblen + k) =
          mem.write s.appWriter.mainBase [0, 0] (s.appWriter.mainBase + k) := fun k hk =>
      finishThumb_apply hplaced (by omega) hfinish hk
    refine ⟨by omega, ⟨?_, ?_⟩, s.appWriter.calculateAppSize thumblen + i, by omega, ?_, ?_⟩
    · exact (congrArg _ (Nat.add_zero _).symm).trans (blit_inside (by decide))
    · exact blit_inside (by decide)
    · rw [Memory.write_outside (.inr (by show s.streamBase + 2 ≤ _; omega)), ← Nat.add_assoc,
        happly _ (by omega),
        Memory.write_outside (.inr (by show s.appWriter.mainBase + 2 ≤ _; omega))]
      exact hat.1
    · rw [Memory.write_outside (.inr (by show s.streamBase + 2 ≤ _; omega)), ← Nat.add_assoc,
        Nat.add_assoc _ i 1, happly _ (by omega),
        Memory.write_outside (.inr (by show s.appWriter.mainBase + 2 ≤ _; omega)), ← Nat.add_assoc]
      exact hat.2

/-- The thumbnail is wanted, but its thread cannot be joined, or it is too large and cannot be
compressed again. -/
def ThumbFails (s : StreamEncoder) (calls : FinishCalls) (mainlen : Nat) : Prop :=
  s.appWriter.thumbBase ≠ 0 ∧
    ∀ thumb, s.thumbStream calls = some thumb → s.fitThumb calls mainlen thumb = none

theorem ThumbFails.finishCompression {calls : FinishCalls} {mem : Memory} {mainlen : Nat}
    (h : s.ThumbFails calls (removeTrailingDummies mem s.appWriter.mainBase mainlen)) :
    (s.finishCompression calls mem mainlen).1 = none := by
  have hnone : ∀ m : Memory, s.finishThumb calls m
      (removeTrailingDummies mem s.appWriter.mainBase mainlen) = none := by
    intro m
    unfold finishThumb
    rw [if_pos h.1]
    cases hstream : s.thumbStream calls with
    | none => rfl
    | some thumb =>
      dsimp only
      rw [h.2 thumb hstream]
  unfold StreamEncoder.finishCompression
  dsimp only
  rw [hnone]

end StreamEncoder

end Universal7870.Jpeg
