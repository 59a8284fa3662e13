import Mathlib.Data.Nat.Bitwise
import Universal7870.Lib.Run

/-!
# Image formats of the codec device

`SetImageFormat` of the compressor and of the decompressor.  Both keep the format they asked the
driver for last, before they know its answer, and ask for no format twice in a row.
-/

namespace Universal7870.Jpeg

open Lib

/-- The fields of `v4l2_format` the codec sets. -/
structure PixFormat where
  pixelformat : BitVec 32
  width : BitVec 32
  height : BitVec 32
  deriving DecidableEq, Repr

/-- The format kept of a device, and the requests the driver got with its answers, newest first. -/
structure FormatDevice where
  v4l2Format : Option PixFormat
  requests : List (PixFormat × Bool)
  deriving DecidableEq, Repr

namespace FormatDevice

/-- `SetImageFormat`; `accepts` is what the driver says if it is asked. -/
def setFormat (d : FormatDevice) (p : PixFormat) (accepts : Bool) : Bool × FormatDevice :=
  if d.v4l2Format = some p then (true, d)
  else (accepts, ⟨some p, (p, accepts) :: d.requests⟩)

theorem setFormat_reports_iff (d : FormatDevice) (p : PixFormat) (accepts : Bool) :
    (d.setFormat p accepts).1 = true ↔ d.v4l2Format = some p ∨ accepts = true := by
  unfold setFormat
  split
  · rename_i hsame
    exact ⟨fun _ => .inl hsame, fun _ => rfl⟩
  · rename_i hnew
    exact ⟨.inr, fun hor => hor.resolve_left hnew⟩

theorem setFormat_v4l2Format (d : FormatDevice) (p : PixFormat) (accepts : Bool) :
    (d.setFormat p accepts).2.v4l2Format = some p := by
  unfold setFormat
  split
  · rename_i hsame
    exact hsame
  · rfl

/-- The driver has accepted `p`, and was asked for no other format since. -/
def Accepted (d : FormatDevice) (p : PixFormat) : Prop :=
  ∃ later earlier, d.requests = later ++ (p, true) :: earlier ∧ ∀ r ∈ later, r.1 = p

/-- What was kept is what was asked for last, and every request differs from the one before. -/
structure Kept (d : FormatDevice) : Prop where
  last : ∀ r rest, d.requests = r :: rest → d.v4l2Format = some r.1
  changes : d.requests.IsChain (·.1 ≠ ·.1)

theorem Kept.setFormat {d : FormatDevice} (h : d.Kept) (p : PixFormat) (accepts : Bool) :
    (d.setFormat p accepts).2.Kept := by
  unfold FormatDevice.setFormat
  split
  · exact h
  · rename_i hnew
    constructor
    · intro r rest hreq
      rw [← (List.cons.inj hreq).1]
    · show List.IsChain _ ((p, accepts) :: d.requests)
      cases hreq : d.requests with
      | nil => exact .singleton _
      | cons r rest =>
        refine .cons_cons ?_ (hreq ▸ h.changes)
        intro heq
        exact hnew ((h.last r rest hreq).trans (congrArg some heq.symm))

/-- The driver accepted what it was asked for last. -/
def LastAccepted (d : FormatDevice) (p : PixFormat) : Prop := d.requests.head? = some (p, true)

instance (d : FormatDevice) (p : PixFormat) : Decidable (d.LastAccepted p) :=
  inferInstanceAs (Decidable (_ = _))

theorem Kept.accepted_iff {d : FormatDevice} (h : d.Kept) (p : PixFormat) :
    d.Accepted p ↔ d.LastAccepted p := by
  constructor
  · rintro ⟨later, earlier, hreq, hlater⟩
    have hchain := h.changes
    rw [hreq] at hchain
    unfold LastAccepted
    rw [hreq]
    -- a later request for the same format would follow one for it
    cases later with
    | nil => rfl
    | cons r later =>
      have hr : r.1 = p := hlater r List.mem_cons_self
      cases later with
      | nil => exact absurd hr (List.isChain_cons_cons.mp hchain).1
      | cons r' later =>
        have hr' : r'.1 = p := hlater r' (List.mem_cons_of_mem _ List.mem_cons_self)
        exact absurd (hr.trans hr'.symm) (List.isChain_cons_cons.mp hchain).1
  · intro hlast
    unfold LastAccepted at hlast
    obtain ⟨earlier, hreq⟩ := List.head?_eq_some_iff.mp hlast
    exact ⟨[], earlier, hreq, nofun⟩

/-- A format that is reported as configured was accepted, unless it is the one that was refused
last. -/
theorem Kept.setFormat_accepted_iff {d : FormatDevice} (h : d.Kept) (p : PixFormat)
    (accepts : Bool) :
    ((d.setFormat p accepts).1 = true → (d.setFormat p accepts).2.Accepted p) ↔
      (d.v4l2Format = some p → d.LastAccepted p) := by
  have hkept := h.setFormat p accepts
  unfold FormatDevice.setFormat at hkept ⊢
  split
  · rename_i hsame
    rw [← h.accepted_iff p]
    exact ⟨fun hacc _ => hacc rfl, fun hacc _ => hacc hsame⟩
  · rename_i hnew
    rw [if_neg hnew] at hkept
    constructor
    · exact fun _ hsame => absurd hsame hnew
    · intro _ hok
      have hok' : accepts = true := hok
      apply (hkept.accepted_iff p).mpr
      show some (p, accepts) = some (p, true)
      rw [hok']

end FormatDevice

/-! ## 1. Sizes -/

/-- `TO_MAIN_SIZE`. -/
def toMainSize (size : BitVec 32) : BitVec 32 := size &&& 0xFFFF

/-- `TO_THUMB_SIZE`. -/
def toThumbSize (size : BitVec 32) : BitVec 32 := (size &&& 0xFFFF) <<< 16

/-- `TO_IMAGE_SIZE`. -/
def toImageSize (main thumb : BitVec 32) : BitVec 32 := toMainSize main ||| toThumbSize thumb

theorem toNat_toMainSize (size : BitVec 32) : (toMainSize size).toNat = size.toNat % 2 ^ 16 := by
  show size.toNat &&& (2 ^ 16 - 1) = _
  rw [Nat.and_two_pow_sub_one_eq_mod]

theorem toNat_toThumbSize (size : BitVec 32) :
    (toThumbSize size).toNat = size.toNat % 2 ^ 16 * 2 ^ 16 := by
  show ((toMainSize size) <<< 16).toNat = _
  rw [BitVec.toNat_shiftLeft, toNat_toMainSize, Nat.shiftLeft_eq]
  omega

theorem toNat_toImageSize (main thumb : BitVec 32) :
    (toImageSize main thumb).toNat = thumb.toNat % 2 ^ 16 * 2 ^ 16 + main.toNat % 2 ^ 16 := by
  have hlow : main.toNat % 2 ^ 16 < 2 ^ 16 := Nat.mod_lt _ (by decide)
  unfold toImageSize
  rw [BitVec.toNat_or, toNat_toMainSize, toNat_toThumbSize, Nat.or_comm, ← Nat.shiftLeft_eq,
    ← Nat.shiftLeft_add_eq_or_of_lt hlow]

/-! ## 2. The compressor -/

/-- The arguments of the compressor's `SetImageFormat`: the size of the image and that of the
thumbnail. -/
structure ImageFormat where
  v4l2Fmt : BitVec 32
  width : BitVec 32
  height : BitVec 32
  width2 : BitVec 32
  height2 : BitVec 32
  deriving DecidableEq, Repr

def v4l2PixFmtRgb24 : BitVec 32 := 0x33424752

namespace CHWJpegV4L2Compressor

/-- The constructor's format, for which the driver was not asked. -/
def created : FormatDevice where
  v4l2Format := some ⟨v4l2PixFmtRgb24, toImageSize 16 0, toImageSize 16 0⟩
  requests := []

def pixFormat (q : ImageFormat) : PixFormat where
  pixelformat := q.v4l2Fmt
  width := toImageSize q.width q.width2
  height := toImageSize q.height q.height2

def setImageFormat (d : FormatDevice) (q : ImageFormat) (accepts : Bool) : Bool × FormatDevice :=
  d.setFormat (pixFormat q) accepts

/-- What the driver was asked for is the very format of the call: it takes a size apart again. -/
structure Designates (p : PixFormat) (q : ImageFormat) : Prop where
  pixelformat : p.pixelformat = q.v4l2Fmt
  width : p.width.toNat % 2 ^ 16 = q.width.toNat
  width2 : p.width.toNat / 2 ^ 16 = q.width2.toNat
  height : p.height.toNat % 2 ^ 16 = q.height.toNat
  height2 : p.height.toNat / 2 ^ 16 = q.height2.toNat

/-- The sizes survive `TO_IMAGE_SIZE`. -/
def Fits (q : ImageFormat) : Prop :=
  q.width.toNat < 2 ^ 16 ∧ q.width2.toNat < 2 ^ 16 ∧ q.height.toNat < 2 ^ 16 ∧
    q.height2.toNat < 2 ^ 16

instance (q : ImageFormat) : Decidable (Fits q) := inferInstanceAs (Decidable (_ ∧ _))

theorem designates_pixFormat {q : ImageFormat} (hfits : Fits q) : Designates (pixFormat q) q := by
  obtain ⟨hw, hw2, hh, hh2⟩ := hfits
  have hwidth := toNat_toImageSize q.width q.width2
  have hheight := toNat_toImageSize q.height q.height2
  constructor
  · rfl
  · show (toImageSize q.width q.width2).toNat % 2 ^ 16 = _
    omega
  · show (toImageSize q.width q.width2).toNat / 2 ^ 16 = _
    omega
  · show (toImageSize q.height q.height2).toNat % 2 ^ 16 = _
    omega
  · show (toImageSize q.height q.height2).toNat / 2 ^ 16 = _
    omega

theorem Designates.eq_pixFormat {p : PixFormat} {q : ImageFormat} (h : Designates p q) :
    p = pixFormat q ∧ Fits q := by
  have hw := h.width
  have hw2 := h.width2
  have hh := h.height
  have hh2 := h.height2
  have hwlt := p.width.isLt
  have hhlt := p.height.isLt
  constructor
  · have hwidth : p.width = toImageSize q.width q.width2 := by
      apply BitVec.eq_of_toNat_eq
      rw [toNat_toImageSize]
      omega
    have hheight : p.height = toImageSize q.height q.height2 := by
      apply BitVec.eq_of_toNat_eq
      rw [toNat_toImageSize]
      omega
    unfold pixFormat
    rw [← hwidth, ← hheight, ← h.pixelformat]
  · unfold Fits
    omega

/-- A call that reports success leaves the driver with that very format. -/
def Honest (d : FormatDevice) (q : ImageFormat) (accepts : Bool) : Prop :=
  (setImageFormat d q accepts).1 = true →
    ∃ p, Designates p q ∧ (setImageFormat d q accepts).2.Accepted p

theorem honest_iff {d : FormatDevice} (h : d.Kept) (q : ImageFormat) (accepts : Bool) :
    Honest d q accepts ↔
      (d.v4l2Format = some (pixFormat q) → d.LastAccepted (pixFormat q)) ∧
        (d.v4l2Format = some (pixFormat q) ∨ accepts = true → Fits q) := by
  have hok : (setImageFormat d q accepts).1 = true ↔
      d.v4l2Format = some (pixFormat q) ∨ accepts = true :=
    d.setFormat_reports_iff (pixFormat q) accepts
  rw [← h.setFormat_accepted_iff (pixFormat q) accepts, ← hok]
  constructor
  · intro hhonest
    constructor
    · intro hret
      obtain ⟨p, hp, hacc⟩ := hhonest hret
      rwa [hp.eq_pixFormat.1] at hacc
    · intro hret
      obtain ⟨p, hp, _⟩ := hhonest hret
      exact hp.eq_pixFormat.2
  · intro hboth hret
    exact ⟨pixFormat q, designates_pixFormat (hboth.2 hret), hboth.1 hret⟩

end CHWJpegV4L2Compressor

/-! ## 3. The decompressor -/

namespace CHWJpegV4L2Decompressor

/-- No format is kept while `m_v4l2Format.type` is 0. -/
def created : FormatDevice := ⟨none, []⟩

/-- The decompressor's `SetImageFormat`, where the format is asked for as it is given. -/
def setImageFormat (d : FormatDevice) (p : PixFormat) (accepts : Bool) : Bool × FormatDevice :=
  d.setFormat p accepts

def Honest (d : FormatDevice) (p : PixFormat) (accepts : Bool) : Prop :=
  (setImageFormat d p accepts).1 = true → (setImageFormat d p accepts).2.Accepted p

end CHWJpegV4L2Decompressor

/-! ## 4. Runs -/

/-- Calls, each with what the driver says if it is asked. -/
def CHWJpegV4L2Compressor.next (d : FormatDevice) (call : ImageFormat × Bool) : FormatDevice :=
  (CHWJpegV4L2Compressor.setImageFormat d call.1 call.2).2

def CHWJpegV4L2Decompressor.next (d : FormatDevice) (call : PixFormat × Bool) : FormatDevice :=
  (CHWJpegV4L2Decompressor.setImageFormat d call.1 call.2).2

theorem CHWJpegV4L2Compressor.kept_of_run {calls : List (ImageFormat × Bool)} {d : FormatDevice}
    (run : Exec (functional next) created calls d) : d.Kept := by
  apply run.invariant (I := FormatDevice.Kept)
  · rintro s call t hs rfl
    exact hs.setFormat _ call.2
  · exact ⟨nofun, .nil⟩

theorem CHWJpegV4L2Decompressor.kept_of_run {calls : List (PixFormat × Bool)} {d : FormatDevice}
    (run : Exec (functional next) created calls d) : d.Kept := by
  apply run.invariant (I := FormatDevice.Kept)
  · rintro s call t hs rfl
    exact hs.setFormat call.1 call.2
  · exact ⟨nofun, .nil⟩

/-- After any calls, a call that reports success is right exactly when it does not repeat a format
that the driver refused (or was never asked for), and, on the compressor, its sizes fit. -/
theorem setImageFormat_honest_iff {calls : List (ImageFormat × Bool)} {d : FormatDevice}
    (run : Exec (functional CHWJpegV4L2Compressor.next) CHWJpegV4L2Compressor.created calls d)
    (q : ImageFormat) {calls' : List (PixFormat × Bool)} {d' : FormatDevice}
    (run' : Exec (functional CHWJpegV4L2Decompressor.next) CHWJpegV4L2Decompressor.created calls' d')
    (p : PixFormat) (accepts : Bool) :
    (CHWJpegV4L2Compressor.Honest d q accepts ↔
      (d.v4l2Format = some (CHWJpegV4L2Compressor.pixFormat q) →
        d.LastAccepted (CHWJpegV4L2Compressor.pixFormat q)) ∧
      (d.v4l2Format = some (CHWJpegV4L2Compressor.pixFormat q) ∨ accepts = true →
        CHWJpegV4L2Compressor.Fits q)) ∧
    (CHWJpegV4L2Decompressor.Honest d' p accepts ↔
      (d'.v4l2Format = some p → d'.LastAccepted p)) :=
  ⟨CHWJpegV4L2Compressor.honest_iff (CHWJpegV4L2Compressor.kept_of_run run) q accepts,
    (CHWJpegV4L2Decompressor.kept_of_run run').setFormat_accepted_iff p accepts⟩

/-- The driver accepts 640x480 of both. -/
theorem setImageFormat_honest_accepted :
    CHWJpegV4L2Compressor.Honest
      (CHWJpegV4L2Compressor.next CHWJpegV4L2Compressor.created (⟨1, 640, 480, 0, 0⟩, true))
      ⟨1, 640, 480, 0, 0⟩ false ∧
    CHWJpegV4L2Decompressor.Honest
      (CHWJpegV4L2Decompressor.next CHWJpegV4L2Decompressor.created (⟨1, 640, 480⟩, true))
      ⟨1, 640, 480⟩ false := by
  have hiff := @setImageFormat_honest_iff [(⟨1, 640, 480, 0, 0⟩, true)] _ (.cons rfl (.nil _))
    ⟨1, 640, 480, 0, 0⟩ [(⟨1, 640, 480⟩, true)] _ (.cons rfl (.nil _)) ⟨1, 640, 480⟩ false
  constructor
  · apply hiff.1.mpr
    decide
  · apply hiff.2.mpr
    decide

/-- The driver refuses 640x480, and the second call says it is set. -/
theorem setImageFormat_reports_refused :
    ¬∀ (calls : List (ImageFormat × Bool)) (d : FormatDevice) (q : ImageFormat) (accepts : Bool),
      Exec (functional CHWJpegV4L2Compressor.next) CHWJpegV4L2Compressor.created calls d →
      CHWJpegV4L2Compressor.Honest d q accepts := by
  intro hall
  have hhonest := hall [(⟨1, 640, 480, 0, 0⟩, false)] _ ⟨1, 640, 480, 0, 0⟩ true
    (.cons rfl (.nil _))
  obtain ⟨p, _, later, earlier, hreq, _⟩ := hhonest (by decide)
  have hmem : (p, true) ∈ (CHWJpegV4L2Compressor.setImageFormat
      (CHWJpegV4L2Compressor.next CHWJpegV4L2Compressor.created (⟨1, 640, 480, 0, 0⟩, false))
      ⟨1, 640, 480, 0, 0⟩ true).2.requests := by
    rw [hreq]
    simp
  have hone : (CHWJpegV4L2Compressor.setImageFormat
      (CHWJpegV4L2Compressor.next CHWJpegV4L2Compressor.created (⟨1, 640, 480, 0, 0⟩, false))
      ⟨1, 640, 480, 0, 0⟩ true).2.requests.all (·.2 = false) = true := by decide
  have := List.all_eq_true.mp hone _ hmem
  simp at this

end Universal7870.Jpeg
