import Universal7870.Jpeg.StreamParser

/-!
# Which streams the parser reads inside their bounds

The parser counts down what is left by the segment lengths alone, so after `k` segments it takes
the stream to be `2 * k` bytes longer than it is.  The segment headers it then looks at are the
chain below, and the reads stay inside the stream exactly when none of them is cut off.
-/

namespace Universal7870.Jpeg

open Lib

namespace CJpegStreamParser

/-! ## 1. The chain of segment headers -/

/-- What the parser takes to be left of the stream at the segment number `k`, at offset `pos`. -/
def leftAt (stream : List UInt8) (k pos : Nat) : Nat := stream.length + 2 * k - pos

/-- The markers that end the walk without a look at their segment. -/
def endsWalk (marker : UInt8) : Prop := marker = 0xD9 ∨ marker = 0xCC ∨ marker = 0xDC

instance (marker : UInt8) : Decidable (endsWalk marker) := inferInstanceAs (Decidable (_ ∨ _))

/-- The segment number `k`, at `pos`, is one the walk steps over. -/
def Skipped (stream : List UInt8) (k pos : Nat) : Prop :=
  2 ≤ leftAt stream k pos ∧ byteAt stream pos = 0xFF ∧ ¬isSOF (byteAt stream (pos + 1)) ∧
    ¬endsWalk (byteAt stream (pos + 1)) ∧ be16At stream (pos + 2) ≤ leftAt stream k pos ∧
    be16At stream (pos + 2) ≠ 0

/-- `SegmentFrom stream k pos k' pos'`: the walk that is at the segment number `k`, at `pos`, comes
to the segment number `k'`, at `pos'`. -/
inductive SegmentFrom (stream : List UInt8) : Nat → Nat → Nat → Nat → Prop
  | here (k pos : Nat) : SegmentFrom stream k pos k pos
  | next {k pos k' pos' : Nat} : Skipped stream k pos →
      SegmentFrom stream (k + 1) (pos + 2 + be16At stream (pos + 2)) k' pos' →
      SegmentFrom stream k pos k' pos'

/-- The frame header whose length field is at `pos` is not cut off before the first of its fields
that is out of range. -/
def FrameFits (stream : List UInt8) (pos : Nat) : Prop :=
  pos + 1 < stream.length ∧
  (17 ≤ be16At stream pos → pos + 2 < stream.length ∧
  (byteAt stream (pos + 2) = 8 → pos + 4 < stream.length ∧
  (supportedSize (be16At stream (pos + 3)) → pos + 6 < stream.length ∧
  (supportedSize (be16At stream (pos + 5)) → pos + 7 < stream.length ∧
  (byteAt stream (pos + 7) = 3 → pos + 9 < stream.length)))))

/-- The header of the segment number `k`, at `pos`, is not cut off by the end of the stream: the
marker, the length of a segment that is stepped over, the fields of a frame header. -/
def HeaderFits (stream : List UInt8) (k pos : Nat) : Prop :=
  2 ≤ leftAt stream k pos → pos < stream.length ∧
  (byteAt stream pos = 0xFF → pos + 1 < stream.length ∧
    (isSOF (byteAt stream (pos + 1)) → byteAt stream (pos + 1) = 0xC0 →
      pos + 3 < stream.length ∧
      (be16At stream (pos + 2) ≤ leftAt stream k pos → FrameFits stream (pos + 2))) ∧
    (¬isSOF (byteAt stream (pos + 1)) → ¬endsWalk (byteAt stream (pos + 1)) →
      pos + 3 < stream.length))

def StartsWithSOI (stream : List UInt8) : Prop :=
  byteAt stream 0 = 0xFF ∧ byteAt stream 1 = 0xD8

/-- The stream has two bytes at least, and if they are SOI then no segment header that the walk
from there comes to is cut off. -/
def HeadersFit (stream : List UInt8) : Prop :=
  2 ≤ stream.length ∧
  (StartsWithSOI stream → ∀ k pos, SegmentFrom stream 0 2 k pos → HeaderFits stream k pos)

theorem forall_segmentFrom_iff {stream : List UInt8} {k pos : Nat} {P : Nat → Nat → Prop} :
    (∀ k' pos', SegmentFrom stream k pos k' pos' → P k' pos') ↔
      P k pos ∧ (Skipped stream k pos → ∀ k' pos',
        SegmentFrom stream (k + 1) (pos + 2 + be16At stream (pos + 2)) k' pos' → P k' pos') := by
  refine ⟨fun h => ⟨h _ _ (.here k pos), fun hs k' pos' hf => h _ _ (.next hs hf)⟩, ?_⟩
  rintro ⟨hhere, hnext⟩ k' pos' hf
  cases hf with
  | here => exact hhere
  | next hs hf => exact hnext hs _ _ hf

/-! ## 2. What each function needs -/

theorem succeeds_getLength_bind {β : Type} {stream : List UInt8} {addr : Nat}
    {f : Nat → Checked β} :
    Succeeds (getLength stream addr >>= f) ↔
      addr + 1 < stream.length ∧ Succeeds (f (be16At stream addr)) := by
  unfold getLength be16At
  simp only [bind_assoc, pure_bind, succeeds_readByte_bind]
  constructor
  · exact fun ⟨_, h, hf⟩ => ⟨h, hf⟩
  · exact fun ⟨h, hf⟩ => ⟨by omega, h, hf⟩

theorem succeeds_parseFrame {stream : List UInt8} {p : CJpegStreamParser} {addr : Nat} :
    Succeeds (parseFrame stream p addr) ↔ FrameFits stream addr := by
  unfold parseFrame FrameFits
  simp only [succeeds_getLength_bind, succeeds_readByte_bind, succeeds_ite, succeeds_pure,
    Nat.not_lt, ne_eq, not_not, implies_true, true_and, and_true]

/-- One segment: its header fits, and if the walk steps over it the rest of the walk succeeds. -/
theorem succeeds_parseLoop_step {stream : List UInt8} {p : CJpegStreamParser} {k pos : Nat} :
    Succeeds (parseLoop stream p pos (leftAt stream k pos)) ↔
      HeaderFits stream k pos ∧ (Skipped stream k pos →
        Succeeds (parseLoop stream p (pos + 2 + be16At stream (pos + 2))
          (leftAt stream k pos - be16At stream (pos + 2)))) := by
  rw [parseLoop]
  unfold HeaderFits Skipped
  simp only [succeeds_getLength_bind, succeeds_readByte_bind, succeeds_ite, succeeds_pure,
    succeeds_ok, succeeds_parseFrame, Nat.not_lt, ne_eq, not_not, implies_true, true_and, not_or]
  by_cases hleft : 2 ≤ leftAt stream k pos
  · by_cases hff : byteAt stream pos = 0xFF
    · by_cases hsof : isSOF (byteAt stream (pos + 1))
      · simp only [hleft, hff, hsof, true_implies, not_true, false_implies, and_true, true_and,
          false_and]
      · by_cases hend : endsWalk (byteAt stream (pos + 1))
        · have hend' := hend
          unfold endsWalk at hend'
          simp only [hleft, hff, hsof, hend, hend', true_implies, not_true, not_false_iff,
            false_implies, and_true, false_and, and_false, ← not_or]
        · have hend' := hend
          unfold endsWalk at hend'
          simp only [hleft, hff, hsof, hend, hend', true_implies, not_false_iff,
            false_implies, true_and, ← not_or]
          constructor
          · rintro ⟨h₁, h₂, h₃, h₄⟩
            exact ⟨⟨h₁, h₂, h₃⟩, fun hboth => h₄ hboth⟩
          · rintro ⟨⟨h₁, h₂, h₃⟩, h₄⟩
            exact ⟨h₁, h₂, h₃, fun hboth => h₄ hboth⟩
    · simp only [hleft, hff, true_implies, false_implies, and_true, false_and, and_false]
  · simp only [hleft, false_implies, false_and, and_true]

/-- The walk from a segment stays inside the stream iff no header it comes to is cut off. -/
theorem succeeds_parseLoop_iff {stream : List UInt8} {p : CJpegStreamParser} {k pos : Nat}
    (hpos : pos ≤ stream.length + 2 * k) :
    Succeeds (parseLoop stream p pos (leftAt stream k pos)) ↔
      ∀ k' pos', SegmentFrom stream k pos k' pos' → HeaderFits stream k' pos' := by
  induction hn : leftAt stream k pos using Nat.strongRecOn generalizing k pos with
  | ind n ih =>
    subst hn
    rw [succeeds_parseLoop_step, forall_segmentFrom_iff]
    refine and_congr_right fun _ => forall_congr' fun hskip => ?_
    obtain ⟨-, -, -, -, hle, hne⟩ := hskip
    have hnext : leftAt stream (k + 1) (pos + 2 + be16At stream (pos + 2)) =
        leftAt stream k pos - be16At stream (pos + 2) := by
      unfold leftAt
      omega
    have hpos' : pos + 2 + be16At stream (pos + 2) ≤ stream.length + 2 * (k + 1) := by
      unfold leftAt at hle
      omega
    rw [← ih _ (by omega) hpos' hnext]

/-- `Parse` reads inside the stream iff the stream holds two bytes and no segment header that the
walk over it comes to is cut off. -/
theorem parse_inBounds_iff (stream : List UInt8) :
    Succeeds (parse stream) ↔ HeadersFit stream := by
  unfold parse HeadersFit
  by_cases hlen : stream.length < 2
  · -- the message about a stream this short reads bytes that are not there
    rw [if_pos hlen]
    simp only [pure_bind, Bool.false_eq_true, if_false, succeeds_readByte_bind]
    constructor
    · exact fun ⟨_, h, _⟩ => absurd h (by omega)
    · exact fun ⟨h, _⟩ => absurd h (by omega)
  · rw [if_neg hlen, readByte_eq (show 0 < stream.length by omega),
      readByte_eq (show 1 < stream.length by omega)]
    have hstart : 2 ≤ stream.length + 2 * 0 := by omega
    have hloop : Succeeds (parseLoop stream {} 2 (stream.length - 2)) ↔ _ :=
      succeeds_parseLoop_iff hstart
    unfold StartsWithSOI
    by_cases hfirst : byteAt stream 0 = 0xFF
    · by_cases hsecond : byteAt stream 1 = 0xD8
      · simp only [ok_bind, hfirst, hsecond, ne_eq, not_true, if_false, pure_bind, BEq.rfl, if_true,
          true_implies, and_self]
        rw [← hloop]
        exact ⟨fun h => ⟨by omega, h⟩, fun h => h.2⟩
      · simp only [ok_bind, hfirst, hsecond, ne_eq, not_true, if_false, pure_bind, and_false,
          false_implies, and_true, beq_eq_false_iff_ne.mpr hsecond, Bool.false_eq_true,
          succeeds_pure, true_iff]
        omega
    · simp only [ok_bind, hfirst, ne_eq, not_false_iff, if_true, if_false, pure_bind, false_and,
        false_implies, and_true, Bool.false_eq_true, succeeds_pure, true_iff]
      omega

/-- A stream that ends behind the marker of its first segment: the length field is read there. -/
theorem parse_reads_past_end : ¬∀ stream : List UInt8, Succeeds (parse stream) := by
  intro hall
  have hloop : Succeeds (parseLoop [0xFF, 0xD8, 0xFF, 0xE0] {} 2
      (leftAt [0xFF, 0xD8, 0xFF, 0xE0] 0 2)) := hall [0xFF, 0xD8, 0xFF, 0xE0]
  have hheader := (succeeds_parseLoop_step.mp hloop).1
  have hlength : 2 + 3 < 4 := ((hheader (by decide)).2 (by decide)).2.2 (by decide) (by decide)
  omega

end CJpegStreamParser

end Universal7870.Jpeg
