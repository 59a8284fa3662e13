import Mathlib.Algebra.Group.Nat.Defs
import Universal7870.Lib.Run
import Mathlib.Tactic.Common

/-!
# The buffers of the thumbnail

The camera encoder keeps an ION buffer for the image of the thumbnail and one for its JPEG stream.
A buffer is modelled by its length in bytes.
-/

namespace Universal7870.Jpeg

open Lib

/-! ## 1. Sizes -/

/-- The formats of `GetImageLength` that take two bytes a pixel: `YUYV`, `YVYU`, `UYVY`, `VYUY`,
`NV16`, `NV61` and `YUV422P`. -/
def formats422 : List UInt32 :=
  [0x56595559, 0x55595659, 0x59565955, 0x59555956, 0x3631564E, 0x3136564E, 0x50323234]

/-- `NV12`, `NV21`, `NV12M`, `NV21M` and `YUV420`. -/
def formats420 : List UInt32 := [0x3231564E, 0x3132564E, 0x32314D4E, 0x31324D4E, 0x32315559]

/-- `GetImageLength`; the product of the sizes is an `unsigned int`. -/
def getImageLength (width height : Nat) (v4l2Format : UInt32) : Nat :=
  let size := width * height % 2 ^ 32
  if v4l2Format ∈ formats422 then size * 2
  else if v4l2Format ∈ formats420 then size + size / 4 * 2
  else 0

/-- The length of the buffer for the stream: a product of `int`s that is taken for a `size_t`. -/
def jpegBufferLength (width height : Nat) : Nat :=
  let product := height * width * 3 % 2 ^ 32
  if product < 2 ^ 31 then product else 2 ^ 64 - 2 ^ 32 + product

/-! ## 2. The code -/

/-- The members for the two buffers.  A descriptor is the length of its buffer, a pointer that of
the memory it maps; `none` is -1 and `NULL`. -/
structure ThumbBuffers where
  ionClient : Bool
  thumbWidth : Nat
  thumbHeight : Nat
  colorFormat : UInt32
  fdThumbImgBuffer : Option Nat
  pThumbImgBuffer : Option Nat
  szThumbImgBuffer : Nat
  fdThumbJpegBuffer : Option Nat
  pThumbJpegBuffer : Option Nat
  szThumbJpegBuffer : Nat
  deriving DecidableEq, Repr

namespace ThumbBuffers

/-- `setThumbnailSize`; 0 x 0 resets the size. -/
def setThumbnailSize (s : ThumbBuffers) (w h : Int) : Int × ThumbBuffers :=
  if s.thumbWidth = w ∧ s.thumbHeight = h then (0, s)
  else if ¬(w = 0 ∧ h = 0) ∧ (w < 16 ∨ h < 16) then (-1, s)
  else (0, { s with thumbWidth := w.toNat, thumbHeight := h.toNat })

def setColorFormat (s : ThumbBuffers) (v4l2Format : UInt32) : ThumbBuffers :=
  { s with colorFormat := v4l2Format }

/-- The buffer of the stream is long enough to be kept. -/
def KeepsJpeg (s : ThumbBuffers) : Prop :=
  s.pThumbJpegBuffer.isSome ∧
    jpegBufferLength s.thumbWidth s.thumbHeight ≤ s.szThumbJpegBuffer

/-- The buffer of the image is long enough to be kept. -/
def KeepsImage (s : ThumbBuffers) (v4l2Format : UInt32) : Prop :=
  s.fdThumbImgBuffer.isSome ∧
    getImageLength s.thumbWidth s.thumbHeight v4l2Format ≤ s.szThumbImgBuffer

instance (s : ThumbBuffers) : Decidable s.KeepsJpeg := inferInstanceAs (Decidable (_ ∧ _))

instance (s : ThumbBuffers) (v4l2Format : UInt32) : Decidable (s.KeepsImage v4l2Format) :=
  inferInstanceAs (Decidable (_ ∧ _))

/-- The buffer of the stream is unmapped and closed if it was mapped. -/
def dropJpeg (s : ThumbBuffers) : ThumbBuffers :=
  if s.pThumbJpegBuffer.isSome then
    { s with szThumbJpegBuffer := 0, pThumbJpegBuffer := none, fdThumbJpegBuffer := none }
  else s

/-- The buffer of the image is unmapped and closed. -/
def dropImage (s : ThumbBuffers) : ThumbBuffers :=
  if s.fdThumbImgBuffer.isSome then
    { s with fdThumbImgBuffer := none, pThumbImgBuffer := none, szThumbImgBuffer := 0 }
  else s

/-- `AllocThumbJpegBuffer`, where the allocation and the mapping may fail. -/
def allocThumbJpegBuffer (s : ThumbBuffers) (alloc mmap : Bool) : Bool × ThumbBuffers :=
  if s.ionClient = false then (false, s)
  else
    let thumbbufsize := jpegBufferLength s.thumbWidth s.thumbHeight
    if s.KeepsJpeg then (true, s)
    else
      let s := s.dropJpeg
      if alloc = false then (false, { s with fdThumbJpegBuffer := none })
      -- a buffer that cannot be mapped keeps its descriptor
      else if mmap = false then (false, { s with fdThumbJpegBuffer := some thumbbufsize })
      else (true, { s with
        fdThumbJpegBuffer := some thumbbufsize
        pThumbJpegBuffer := some thumbbufsize
        szThumbJpegBuffer := thumbbufsize })

/-- `AllocThumbBuffer`. -/
def allocThumbBuffer (s : ThumbBuffers) (v4l2Format : UInt32) (allocImg alloc mmap : Bool) :
    Bool × ThumbBuffers :=
  if s.ionClient = false then (false, s)
  else
    let thumbbufsize := getImageLength s.thumbWidth s.thumbHeight v4l2Format
    if thumbbufsize = 0 then (false, s)
    else if s.KeepsImage v4l2Format then (true, s)
    else
      let s := s.dropImage
      if allocImg = false then (false, { s with fdThumbImgBuffer := none })
      else allocThumbJpegBuffer { s with
        fdThumbImgBuffer := some thumbbufsize, szThumbImgBuffer := thumbbufsize } alloc mmap

/-- What `GetThumbnailImage` does: its result, and, if it comes to the copy, how many bytes it
copies and how many the mapping it reads from has. -/
structure ThumbnailCopy where
  result : Nat
  copied : Option (Nat × Nat)
  deriving DecidableEq, Repr

/-- `GetThumbnailImage` into a buffer of `buflen` bytes. -/
def getThumbnailImage (s : ThumbBuffers) (buflen : Nat) (mmap : Bool) :
    ThumbnailCopy × ThumbBuffers :=
  let thumbbufsize := getImageLength s.thumbWidth s.thumbHeight s.colorFormat
  if s.fdThumbImgBuffer.isNone then (⟨0, none⟩, s)
  else if buflen < thumbbufsize then (⟨0, none⟩, s)
  else
    match s.pThumbImgBuffer with
    | some mapped => (⟨s.szThumbImgBuffer, some (thumbbufsize, mapped)⟩, s)
    | none =>
      if mmap = false then (⟨0, none⟩, s)
      else (⟨s.szThumbImgBuffer, some (thumbbufsize, s.szThumbImgBuffer)⟩,
        { s with pThumbImgBuffer := some s.szThumbImgBuffer })

/-- The constructor's members. -/
def initial (ionClient : Bool) (colorFormat : UInt32) : ThumbBuffers :=
  ⟨ionClient, 0, 0, colorFormat, none, none, 0, none, none, 0⟩

end ThumbBuffers

/-- The calls, with the allocations and mappings that succeed. -/
inductive ThumbBufferCall
  | setThumbnailSize (w h : Int)
  | setColorFormat (v4l2Format : UInt32)
  | allocThumbBuffer (v4l2Format : UInt32) (allocImg alloc mmap : Bool)
  | allocThumbJpegBuffer (alloc mmap : Bool)
  | getThumbnailImage (buflen : Nat) (mmap : Bool)
  deriving DecidableEq, Repr

namespace ThumbBuffers

def step (s : ThumbBuffers) : ThumbBufferCall → ThumbBuffers
  | .setThumbnailSize w h => (s.setThumbnailSize w h).2
  | .setColorFormat v4l2Format => s.setColorFormat v4l2Format
  | .allocThumbBuffer v4l2Format allocImg alloc mmap =>
    (s.allocThumbBuffer v4l2Format allocImg alloc mmap).2
  | .allocThumbJpegBuffer alloc mmap => (s.allocThumbJpegBuffer alloc mmap).2
  | .getThumbnailImage buflen mmap => (s.getThumbnailImage buflen mmap).2

/-! ## 3. What the members tell of the buffers -/

/-- The recorded sizes are those of the buffers and of the mappings. -/
structure Recorded (s : ThumbBuffers) : Prop where
  img : ∀ n, s.fdThumbImgBuffer = some n → s.szThumbImgBuffer = n
  imgMapped : ∀ n, s.pThumbImgBuffer = some n → s.fdThumbImgBuffer = some n
  jpegMapped : ∀ n, s.pThumbJpegBuffer = some n →
    s.fdThumbJpegBuffer = some n ∧ s.szThumbJpegBuffer = n

variable {s : ThumbBuffers}

theorem Recorded.dropJpeg (h : s.Recorded) :
    s.dropJpeg.Recorded ∧ s.dropJpeg.pThumbJpegBuffer = none := by
  unfold ThumbBuffers.dropJpeg
  cases hp : s.pThumbJpegBuffer with
  | none => exact ⟨h, hp⟩
  | some n => exact ⟨⟨h.img, h.imgMapped, nofun⟩, rfl⟩

theorem Recorded.dropImage (h : s.Recorded) :
    s.dropImage.Recorded ∧ s.dropImage.pThumbImgBuffer = none := by
  unfold ThumbBuffers.dropImage
  cases hfd : s.fdThumbImgBuffer with
  | none =>
    refine ⟨h, ?_⟩
    cases hp : s.pThumbImgBuffer with
    | none => exact hp
    | some n => exact absurd ((h.imgMapped n hp).symm.trans hfd) nofun
  | some n => exact ⟨⟨nofun, nofun, h.jpegMapped⟩, rfl⟩

theorem dropJpeg_same : s.dropJpeg.fdThumbImgBuffer = s.fdThumbImgBuffer ∧
    s.dropJpeg.thumbWidth = s.thumbWidth ∧ s.dropJpeg.thumbHeight = s.thumbHeight := by
  unfold dropJpeg
  split <;> exact ⟨rfl, rfl, rfl⟩

theorem dropImage_same : s.dropImage.ionClient = s.ionClient ∧
    s.dropImage.thumbWidth = s.thumbWidth ∧ s.dropImage.thumbHeight = s.thumbHeight ∧
    s.dropImage.fdThumbJpegBuffer = s.fdThumbJpegBuffer ∧
    s.dropImage.pThumbJpegBuffer = s.pThumbJpegBuffer ∧
    s.dropImage.szThumbJpegBuffer = s.szThumbJpegBuffer := by
  unfold dropImage
  split <;> exact ⟨rfl, rfl, rfl, rfl, rfl, rfl⟩

theorem Recorded.allocThumbJpegBuffer (h : s.Recorded) (alloc mmap : Bool) :
    (s.allocThumbJpegBuffer alloc mmap).2.Recorded := by
  unfold ThumbBuffers.allocThumbJpegBuffer
  split
  · exact h
  · dsimp only
    split
    · exact h
    · obtain ⟨hdrop, hnull⟩ := h.dropJpeg
      cases alloc with
      | false => exact ⟨hdrop.img, hdrop.imgMapped, by simp [hnull]⟩
      | true =>
        cases mmap with
        | false => exact ⟨hdrop.img, hdrop.imgMapped, by simp [hnull]⟩
        | true =>
          exact ⟨hdrop.img, hdrop.imgMapped, fun n hn => ⟨hn, Option.some.inj hn⟩⟩

theorem Recorded.allocThumbBuffer (h : s.Recorded) (v4l2Format : UInt32)
    (allocImg alloc mmap : Bool) :
    (s.allocThumbBuffer v4l2Format allocImg alloc mmap).2.Recorded := by
  unfold ThumbBuffers.allocThumbBuffer
  split
  · exact h
  · dsimp only
    split
    · exact h
    · split
      · exact h
      · obtain ⟨hdrop, hnull⟩ := h.dropImage
        cases allocImg with
        | false => exact ⟨nofun, by simp [hnull], hdrop.jpegMapped⟩
        | true =>
          apply Recorded.allocThumbJpegBuffer
          exact ⟨fun n hn => Option.some.inj hn, by simp [hnull], hdrop.jpegMapped⟩

theorem Recorded.getThumbnailImage (h : s.Recorded) (buflen : Nat) (mmap : Bool) :
    (s.getThumbnailImage buflen mmap).2.Recorded := by
  unfold ThumbBuffers.getThumbnailImage
  dsimp only
  split
  · exact h
  · rename_i hfd
    split
    · exact h
    · cases hp : s.pThumbImgBuffer with
      | some mapped => exact h
      | none =>
        cases mmap with
        | false => exact h
        | true =>
          refine ⟨h.img, fun n hn => ?_, h.jpegMapped⟩
          obtain ⟨k, hk⟩ := Option.ne_none_iff_exists'.mp (by simpa using hfd)
          have hn : s.szThumbImgBuffer = n := Option.some.inj hn
          exact hk.trans (congrArg some ((h.img k hk).symm.trans hn))

theorem Recorded.step (h : s.Recorded) (c : ThumbBufferCall) : (s.step c).Recorded := by
  cases c with
  | setThumbnailSize w h' =>
    show (s.setThumbnailSize w h').2.Recorded
    unfold ThumbBuffers.setThumbnailSize
    split
    · exact h
    · split
      · exact h
      · exact ⟨h.img, h.imgMapped, h.jpegMapped⟩
  | setColorFormat v4l2Format => exact ⟨h.img, h.imgMapped, h.jpegMapped⟩
  | allocThumbBuffer v4l2Format allocImg alloc mmap =>
    exact h.allocThumbBuffer v4l2Format allocImg alloc mmap
  | allocThumbJpegBuffer alloc mmap => exact h.allocThumbJpegBuffer alloc mmap
  | getThumbnailImage buflen mmap => exact h.getThumbnailImage buflen mmap

theorem recorded_of_run {ionClient : Bool} {colorFormat : UInt32} {calls : List ThumbBufferCall}
    (run : Exec (functional step) (initial ionClient colorFormat) calls s) : s.Recorded := by
  apply run.invariant (I := Recorded)
  · rintro s c t hs rfl
    exact hs.step c
  · exact ⟨nofun, nofun, nofun⟩

/-! ## 4. Capacities -/

/-- The buffer of the image holds an image of the current size. -/
def ImageRoom (s : ThumbBuffers) (v4l2Format : UInt32) : Prop :=
  ∃ n, s.fdThumbImgBuffer = some n ∧ getImageLength s.thumbWidth s.thumbHeight v4l2Format ≤ n

/-- The buffer of the stream is mapped and has three bytes for each pixel. -/
def JpegRoom (s : ThumbBuffers) : Prop :=
  ∃ n, s.fdThumbJpegBuffer = some n ∧ s.pThumbJpegBuffer = some n ∧
    3 * s.thumbWidth * s.thumbHeight ≤ n

/-- `AllocThumbJpegBuffer` is right where it keeps the buffer, or its product has not overflowed. -/
def JpegAllocRight (s : ThumbBuffers) (alloc mmap : Bool) : Prop :=
  (s.KeepsJpeg → s.JpegRoom) ∧ (¬s.KeepsJpeg → alloc = true → mmap = true →
    3 * s.thumbWidth * s.thumbHeight ≤ jpegBufferLength s.thumbWidth s.thumbHeight)

/-- `AllocThumbBuffer` is right where the buffer of the stream is large enough when that of the
image is kept, and `AllocThumbJpegBuffer` is right when it is not. -/
def AllocRight (s : ThumbBuffers) (v4l2Format : UInt32) (allocImg alloc mmap : Bool) : Prop :=
  s.ionClient = true → getImageLength s.thumbWidth s.thumbHeight v4l2Format ≠ 0 →
    (s.KeepsImage v4l2Format → s.JpegRoom) ∧
      (¬s.KeepsImage v4l2Format → allocImg = true → s.JpegAllocRight alloc mmap)

theorem allocThumbJpegBuffer_img (alloc mmap : Bool) :
    (s.allocThumbJpegBuffer alloc mmap).2.fdThumbImgBuffer = s.fdThumbImgBuffer ∧
      (s.allocThumbJpegBuffer alloc mmap).2.thumbWidth = s.thumbWidth ∧
      (s.allocThumbJpegBuffer alloc mmap).2.thumbHeight = s.thumbHeight := by
  unfold allocThumbJpegBuffer
  split
  · exact ⟨rfl, rfl, rfl⟩
  · dsimp only
    split
    · exact ⟨rfl, rfl, rfl⟩
    · cases alloc <;> cases mmap <;> exact dropJpeg_same

theorem allocThumbJpegBuffer_room_iff (hion : s.ionClient = true) (alloc mmap : Bool) :
    ((s.allocThumbJpegBuffer alloc mmap).1 = true →
      (s.allocThumbJpegBuffer alloc mmap).2.JpegRoom) ↔ s.JpegAllocRight alloc mmap := by
  unfold allocThumbJpegBuffer JpegAllocRight
  rw [if_neg (by simp [hion])]
  dsimp only
  by_cases hkeep : s.KeepsJpeg
  · rw [if_pos hkeep]
    exact ⟨fun h => ⟨fun _ => h rfl, fun hnew => absurd hkeep hnew⟩, fun h _ => h.1 hkeep⟩
  · rw [if_neg hkeep]
    cases alloc with
    | false => exact ⟨fun _ => ⟨fun h => absurd h hkeep, fun _ => nofun⟩, fun _ => nofun⟩
    | true =>
      cases mmap with
      | false => exact ⟨fun _ => ⟨fun h => absurd h hkeep, fun _ _ => nofun⟩, fun _ => nofun⟩
      | true =>
        -- a new buffer has the length that was computed
        constructor
        · intro h
          obtain ⟨n, hn, _, hroom⟩ := h rfl
          refine ⟨fun hk => absurd hk hkeep, fun _ _ _ => ?_⟩
          obtain rfl := Option.some.inj hn
          simpa [dropJpeg_same] using hroom
        · intro h _
          refine ⟨_, rfl, rfl, ?_⟩
          simpa [dropJpeg_same] using h.2 hkeep rfl rfl

/-- After a successful `AllocThumbBuffer` both buffers have room, exactly under `AllocRight`. -/
theorem Recorded.allocThumbBuffer_room_iff (h : s.Recorded) (v4l2Format : UInt32)
    (allocImg alloc mmap : Bool) :
    ((s.allocThumbBuffer v4l2Format allocImg alloc mmap).1 = true →
      (s.allocThumbBuffer v4l2Format allocImg alloc mmap).2.ImageRoom v4l2Format ∧
        (s.allocThumbBuffer v4l2Format allocImg alloc mmap).2.JpegRoom) ↔
      s.AllocRight v4l2Format allocImg alloc mmap := by
  unfold ThumbBuffers.allocThumbBuffer AllocRight
  by_cases hion : s.ionClient = true
  · rw [if_neg (by simp [hion]), forall_prop_of_true hion]
    dsimp only
    by_cases hzero : getImageLength s.thumbWidth s.thumbHeight v4l2Format = 0
    · rw [if_pos hzero]
      exact ⟨fun _ hne => absurd hzero hne, fun _ => nofun⟩
    · rw [if_neg hzero, forall_prop_of_true hzero]
      by_cases hkeep : s.KeepsImage v4l2Format
      · rw [if_pos hkeep]
        refine ⟨fun hroom => ⟨fun _ => (hroom rfl).2, fun hnew => absurd hkeep hnew⟩,
          fun hright _ => ⟨?_, hright.1 hkeep⟩⟩
        obtain ⟨n, hn⟩ := Option.isSome_iff_exists.mp hkeep.1
        exact ⟨n, hn, h.img n hn ▸ hkeep.2⟩
      · rw [if_neg hkeep]
        cases allocImg with
        | false => exact ⟨fun _ => ⟨fun hk => absurd hk hkeep, fun _ => nofun⟩, fun _ => nofun⟩
        | true =>
          -- a new buffer for the image, then the one for the stream
          rw [if_neg (by decide)]
          let s' : ThumbBuffers := { s.dropImage with
            fdThumbImgBuffer := some (getImageLength s.thumbWidth s.thumbHeight v4l2Format)
            szThumbImgBuffer := getImageLength s.thumbWidth s.thumbHeight v4l2Format }
          obtain ⟨hion', hw, hh, hfd, hp, hsz⟩ := s.dropImage_same
          obtain ⟨himg', hw', hh'⟩ := s'.allocThumbJpegBuffer_img alloc mmap
          have hiff := @allocThumbJpegBuffer_room_iff s' (hion'.trans hion) alloc mmap
          have hright : s'.JpegAllocRight alloc mmap ↔ s.JpegAllocRight alloc mmap := by
            simp only [JpegAllocRight, KeepsJpeg, JpegRoom, s', hw, hh, hfd, hp, hsz]
          constructor
          · intro hroom
            exact ⟨fun hk => absurd hk hkeep,
              fun _ _ => hright.mp (hiff.mp fun hok => (hroom hok).2)⟩
          · intro hboth hok
            refine ⟨⟨_, himg', ?_⟩, hiff.mpr (hright.mpr (hboth.2 hkeep rfl)) hok⟩
            exact Nat.le_of_eq (by rw [hw', hh', hw, hh])
  · rw [if_pos (by simpa using hion)]
    exact ⟨fun _ hon => absurd hon hion, fun _ => nofun⟩

/-- What is copied lies in the buffer of the image, and no more is reported. -/
structure CopyRight (s : ThumbBuffers) (r : ThumbnailCopy) : Prop where
  inside : ∀ n mapped, r.copied = some (n, mapped) →
    s.fdThumbImgBuffer = some mapped ∧ n ≤ mapped
  reported : r.result ≤ (r.copied.map (·.1)).getD 0

/-- It comes to the copy. -/
def Copies (s : ThumbBuffers) (buflen : Nat) (mmap : Bool) : Prop :=
  s.fdThumbImgBuffer.isSome = true ∧
    getImageLength s.thumbWidth s.thumbHeight s.colorFormat ≤ buflen ∧
    (s.pThumbImgBuffer.isSome = true ∨ mmap = true)

/-- The buffer of the image is as long as an image of the current size and format. -/
def ImageExact (s : ThumbBuffers) : Prop :=
  getImageLength s.thumbWidth s.thumbHeight s.colorFormat = s.szThumbImgBuffer

instance (s : ThumbBuffers) : Decidable s.ImageExact := inferInstanceAs (Decidable (_ = _))

theorem Recorded.getThumbnailImage_iff (h : s.Recorded) (buflen : Nat) (mmap : Bool) :
    CopyRight (s.getThumbnailImage buflen mmap).2 (s.getThumbnailImage buflen mmap).1 ↔
      (s.Copies buflen mmap → s.ImageExact) := by
  have hnone : ∀ t : ThumbBuffers, CopyRight t ⟨0, none⟩ := fun t => ⟨nofun, Nat.zero_le _⟩
  have hcopy : ∀ t : ThumbBuffers, t.fdThumbImgBuffer = some s.szThumbImgBuffer →
      (CopyRight t ⟨s.szThumbImgBuffer,
        some (getImageLength s.thumbWidth s.thumbHeight s.colorFormat, s.szThumbImgBuffer)⟩ ↔
        s.ImageExact) := by
    intro t ht
    constructor
    · intro hright
      exact Nat.le_antisymm (hright.inside _ _ rfl).2 hright.reported
    · intro hexact
      refine ⟨fun n mapped heq => ?_, ?_⟩
      · obtain ⟨rfl, rfl⟩ := Prod.mk.inj (Option.some.inj heq)
        exact ⟨ht, Nat.le_of_eq hexact⟩
      · exact Nat.le_of_eq hexact.symm
  unfold ThumbBuffers.getThumbnailImage Copies
  dsimp only
  by_cases hfd : s.fdThumbImgBuffer.isNone = true
  · rw [if_pos hfd]
    refine iff_of_true (hnone s) fun hc => ?_
    rw [Option.isNone_iff_eq_none.mp hfd] at hc
    cases hc.1
  · rw [if_neg hfd]
    obtain ⟨k, hk⟩ := Option.ne_none_iff_exists'.mp (by simpa using hfd)
    have hsz := h.img k hk
    by_cases hlen : buflen < getImageLength s.thumbWidth s.thumbHeight s.colorFormat
    · rw [if_pos hlen]
      exact iff_of_true (hnone s) fun hc => absurd hlen (Nat.not_lt.mpr hc.2.1)
    · rw [if_neg hlen]
      have hfdSome : s.fdThumbImgBuffer.isSome = true := by rw [hk]; rfl
      cases hp : s.pThumbImgBuffer with
      | some mapped =>
        have hm : mapped = s.szThumbImgBuffer := (h.img mapped (h.imgMapped mapped hp)).symm
        have hiff := hcopy s (hk.trans (congrArg some hsz.symm))
        dsimp only
        rw [hm, hiff]
        exact ⟨fun hexact _ => hexact, fun hc => hc ⟨hfdSome, Nat.not_lt.mp hlen, .inl rfl⟩⟩
      | none =>
        cases mmap with
        | false => exact iff_of_true (hnone s) fun hc => absurd hc.2.2 (by decide)
        | true =>
          have hiff := hcopy { s with pThumbImgBuffer := some s.szThumbImgBuffer }
            (hk.trans (congrArg some hsz.symm))
          exact hiff.trans
            ⟨fun hexact _ => hexact, fun hc => hc ⟨hfdSome, Nat.not_lt.mp hlen, .inr rfl⟩⟩

/-- After any calls: `AllocThumbBuffer` is right about both buffers, and `GetThumbnailImage` about
its copy, exactly under these conditions. -/
theorem capacities_iff {ionClient : Bool} {colorFormat : UInt32} {calls : List ThumbBufferCall}
    (run : Exec (functional step) (initial ionClient colorFormat) calls s) :
    (∀ v4l2Format allocImg alloc mmap,
      ((s.allocThumbBuffer v4l2Format allocImg alloc mmap).1 = true →
        (s.allocThumbBuffer v4l2Format allocImg alloc mmap).2.ImageRoom v4l2Format ∧
          (s.allocThumbBuffer v4l2Format allocImg alloc mmap).2.JpegRoom) ↔
        s.AllocRight v4l2Format allocImg alloc mmap) ∧
    (∀ buflen mmap,
      CopyRight (s.getThumbnailImage buflen mmap).2 (s.getThumbnailImage buflen mmap).1 ↔
        (s.Copies buflen mmap → s.ImageExact)) :=
  ⟨(recorded_of_run run).allocThumbBuffer_room_iff, (recorded_of_run run).getThumbnailImage_iff⟩

/-- A thumbnail of 320 x 240 pixels in `NV21`. -/
def thumbCalls : List ThumbBufferCall :=
  [.setThumbnailSize 320 240, .allocThumbBuffer 0x3132564E true true true]

theorem capacities_iff_thumb :
    (((thumbCalls.foldl step (initial true 0x3132564E)).allocThumbBuffer 0x3132564E true true
      true).1 = true ∧
    ((thumbCalls.foldl step (initial true 0x3132564E)).allocThumbBuffer 0x3132564E true true
      true).2.JpegRoom) ∧
    CopyRight ((thumbCalls.foldl step (initial true 0x3132564E)).getThumbnailImage 115200 true).2
      ((thumbCalls.foldl step (initial true 0x3132564E)).getThumbnailImage 115200 true).1 := by
  have hiff := capacities_iff (Exec.folded step (initial true 0x3132564E) thumbCalls)
  refine ⟨⟨by decide, ((hiff.1 _ _ _ _).mpr ?_ (by decide)).2⟩, (hiff.2 _ _).mpr fun _ => by decide⟩
  exact fun _ _ => ⟨fun _ => ⟨230400, by decide, by decide, by decide⟩,
    fun hnew => absurd (by decide) hnew⟩

/-- The image of a larger size in a smaller format fits, and its stream does not. -/
theorem not_capacities_after_format :
    ¬ ∀ (ionClient : Bool) (colorFormat : UInt32) (calls : List ThumbBufferCall)
      (s : ThumbBuffers), Exec (functional step) (initial ionClient colorFormat) calls s →
      (∀ v4l2Format allocImg alloc mmap,
        (s.allocThumbBuffer v4l2Format allocImg alloc mmap).1 = true →
          (s.allocThumbBuffer v4l2Format allocImg alloc mmap).2.ImageRoom v4l2Format ∧
            (s.allocThumbBuffer v4l2Format allocImg alloc mmap).2.JpegRoom) ∧
      (∀ buflen mmap,
        CopyRight (s.getThumbnailImage buflen mmap).2 (s.getThumbnailImage buflen mmap).1) := by
  intro h
  have hroom := (h true 0x56595559 _ _ (Exec.folded step (initial true 0x56595559)
    [.setThumbnailSize 160 120, .allocThumbBuffer 0x56595559 true true true,
      .setThumbnailSize 176 144])).1 0x3132564E true true true (by decide)
  obtain ⟨n, hn, _, hlong⟩ := hroom.2
  obtain rfl := Option.some.inj (hn.symm.trans (show _ = some 57600 by decide))
  exact absurd hlong (by decide)

end ThumbBuffers

end Universal7870.Jpeg
