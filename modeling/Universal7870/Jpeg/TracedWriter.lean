import Universal7870.Lib.StoreLog
import Universal7870.Jpeg.ProcessExif

/-!
# What is written where

`CIFDWriter` with its tag budget `m_nTags` and with a log of its stores.  Forgetting the log gives
the writer of `IfdWriter.h`, and replaying it gives the stores of `WriteAPP1`.  The size that
`PrepareAppWriter` predicts is the end of the segment, no tag is written over budget, and every byte
in between is written once, unless it is left unused by a short value.
-/

namespace Universal7870.Jpeg

open Lib

/-- `m_nTags` in front of a tag, and where a directory is finished. -/
inductive TagBudget
  | tag (nTags : Nat)
  | finished (nTags : Nat)

/-- A tag is written while tags are left, and a directory is finished when none is. -/
def TagBudget.Right : TagBudget → Prop
  | .tag nTags => 0 < nTags
  | .finished nTags => nTags = 0

abbrev SegmentLog := StoreLog TagBudget

structure TracedWriter extends CIFDWriter where
  nTags : Nat
  log : SegmentLog

/-! ## 1. The methods -/

namespace TracedWriter

def new (offsetBase ifdbase tagcount : Nat) (out : Overlay) (log : SegmentLog) : TracedWriter where
  toCIFDWriter := CIFDWriter.new offsetBase ifdbase tagcount out
  nTags := tagcount
  log := log ++ [.store ifdbase (le16 tagcount)]

def writeTagTypeCount (t : TracedWriter) (tag : Nat) (type : ExifType) (count : Nat) :
    TracedWriter where
  toCIFDWriter := t.toCIFDWriter.writeTagTypeCount tag type count
  nTags := (t.nTags + 2 ^ 32 - 1) % 2 ^ 32
  log := t.log ++
    [.note (.tag t.nTags), .store t.ifd (le16 tag ++ le16 type.code ++ le32 count)]

def writeOffset (t : TracedWriter) (addr : Nat) : TracedWriter :=
  { t with
    toCIFDWriter := t.toCIFDWriter.writeOffset addr
    log := t.log ++ [.store t.ifd (le32 (t.offset addr))] }

def writeValue (t : TracedWriter) (data : List UInt8) : TracedWriter :=
  { t with
    toCIFDWriter := t.toCIFDWriter.writeValue data
    log := t.log ++ [.store t.value data] }

def writeInline (t : TracedWriter) (data : List UInt8) : TracedWriter :=
  { t with
    toCIFDWriter := t.toCIFDWriter.writeInline data
    log := t.log ++ [.store t.ifd data, .skip (t.ifd + data.length) (ifdValoffSize - data.length)] }

def write (t : TracedWriter) (f : IfdField) : TracedWriter :=
  let t := t.writeTagTypeCount f.tag f.type f.count
  if f.atValue then (t.writeOffset t.value).writeValue f.data else t.writeInline f.data

def writeAll (t : TracedWriter) (fields : List IfdField) : TracedWriter := fields.foldl write t

def beginSubIfd (t : TracedWriter) (tag : Nat) : TracedWriter :=
  let t := t.writeTagTypeCount tag .long 1
  t.writeOffset t.value

def endSubIfd (t sub : TracedWriter) : TracedWriter :=
  { t with toCIFDWriter := t.toCIFDWriter.endSubIfd sub.toCIFDWriter, log := sub.log }

def finish (t : TracedWriter) (last : Bool) : TracedWriter :=
  { t with
    toCIFDWriter := t.toCIFDWriter.finish last
    log := t.log ++ [.note (.finished t.nTags),
      .store t.ifd (le32 (if last then 0 else t.offset t.value))] }

end TracedWriter

namespace CAppMarkerWriter

variable (w : CAppMarkerWriter) (e : ExifAttribute)

def traceInteropIfd (tiff p : Nat) (out : Overlay) (log : SegmentLog) : TracedWriter :=
  ((TracedWriter.new tiff p 2 out log).writeAll e.interopFields).finish true

def traceExifIfd (tiff p : Nat) (out : Overlay) (log : SegmentLog) : TracedWriter :=
  let exifwriter :=
    (TracedWriter.new tiff p w.nExifIfdFields out log).writeAll (e.exifFields w.szUniqueId)
  let exifwriter := exifwriter.beginSubIfd ExifTag.interoperability
  (exifwriter.endSubIfd
    (traceInteropIfd e tiff exifwriter.value exifwriter.out exifwriter.log)).finish true

def traceGpsIfd (tiff p : Nat) (out : Overlay) (log : SegmentLog) : TracedWriter :=
  ((TracedWriter.new tiff p w.nGpsIfdFields out log).writeAll e.gpsFields).finish true

def tracePrimaryIfd (tiff p : Nat) (out : Overlay) (log : SegmentLog) : TracedWriter :=
  let writer := (TracedWriter.new tiff p w.n0thIfdFields out log).writeAll
    (e.primaryFields w.szMake w.szModel w.szSoftware)
  let writer := writer.beginSubIfd ExifTag.exifIfdPointer
  let writer := writer.endSubIfd (w.traceExifIfd e tiff writer.value writer.out writer.log)
  if e.enableGps then
    let writer := writer.beginSubIfd ExifTag.gpsIfdPointer
    writer.endSubIfd (w.traceGpsIfd e tiff writer.value writer.out writer.log)
  else writer

def traceThumbIfd (tiff p : Nat) (out : Overlay) (log : SegmentLog) : TracedWriter :=
  let thumbwriter := TracedWriter.new tiff p w.n1stIfdFields out log
  let offset := UInt32.ofNat (thumbwriter.offset w.thumbBase)
  (thumbwriter.writeAll (e.thumbFields offset)).write (ExifAttribute.thumbLengthField 0)

def traceApp1Header (current : Nat) (reserveThumbnailSpace : Bool) : SegmentLog :=
  [.store current [0xFF, 0xE1],
    .store (current + 2) (be16 (w.szApp1 + if reserveThumbnailSpace then w.maxThumbSize else 0)),
    .store (current + 4) exifIdentifierCode,
    .store (current + 10) tiffHeader]

/-- The writer of the last directory of `WriteAPP1`, finished, with the log of the whole segment. -/
def traceApp1 (current : Nat) (reserveThumbnailSpace : Bool) (out : Overlay) : TracedWriter :=
  let tiff := current + 10
  let writer := w.tracePrimaryIfd e tiff (tiff + 8)
    (w.writeApp1Header current reserveThumbnailSpace false out)
    (w.traceApp1Header current reserveThumbnailSpace)
  if e.enableThumb then
    let writer := writer.finish false
    (w.traceThumbIfd e tiff writer.value writer.out writer.log).finish true
  else writer.finish true

end CAppMarkerWriter

/-! ## 2. Forgetting the log -/

namespace TracedWriter

variable (t : TracedWriter)

@[simp] theorem toCIFDWriter_write (f : IfdField) :
    (t.write f).toCIFDWriter = t.toCIFDWriter.write f := by
  unfold write CIFDWriter.write
  dsimp only
  split <;> rfl

@[simp] theorem toCIFDWriter_writeAll (fields : List IfdField) :
    (t.writeAll fields).toCIFDWriter = t.toCIFDWriter.writeAll fields := by
  induction fields generalizing t with
  | nil => rfl
  | cons f fs ih =>
    have hrest := ih (t.write f)
    rw [toCIFDWriter_write] at hrest
    exact hrest

end TracedWriter

namespace CAppMarkerWriter

variable (w : CAppMarkerWriter) (e : ExifAttribute) (tiff p : Nat) (out : Overlay) (log : SegmentLog)

theorem traceInteropIfd_eq :
    (traceInteropIfd e tiff p out log).toCIFDWriter = writeInteropIfd e tiff p out :=
  congrArg (CIFDWriter.finish · true) (TracedWriter.toCIFDWriter_writeAll _ _)

theorem traceExifIfd_eq :
    (w.traceExifIfd e tiff p out log).toCIFDWriter = w.writeExifIfd e tiff p out := by
  have hfields := TracedWriter.toCIFDWriter_writeAll
    (TracedWriter.new tiff p w.nExifIfdFields out log) (e.exifFields w.szUniqueId)
  unfold traceExifIfd writeExifIfd
  change (CIFDWriter.endSubIfd (CIFDWriter.beginSubIfd (TracedWriter.writeAll _ _).toCIFDWriter _)
    (traceInteropIfd ..).toCIFDWriter).finish true = _
  rw [traceInteropIfd_eq]
  change (CIFDWriter.endSubIfd (CIFDWriter.beginSubIfd (TracedWriter.writeAll _ _).toCIFDWriter _)
    (writeInteropIfd e tiff (CIFDWriter.beginSubIfd (TracedWriter.writeAll _ _).toCIFDWriter _).value
      (CIFDWriter.beginSubIfd (TracedWriter.writeAll _ _).toCIFDWriter _).out)).finish true = _
  rw [hfields]
  rfl

theorem traceGpsIfd_eq :
    (w.traceGpsIfd e tiff p out log).toCIFDWriter = w.writeGpsIfd e tiff p out :=
  congrArg (CIFDWriter.finish · true) (TracedWriter.toCIFDWriter_writeAll _ _)

theorem traceThumbIfd_eq :
    (w.traceThumbIfd e tiff p out log).toCIFDWriter = w.writeThumbIfd e tiff p out := by
  unfold traceThumbIfd writeThumbIfd
  dsimp only
  rw [TracedWriter.toCIFDWriter_write, TracedWriter.toCIFDWriter_writeAll]
  rfl

theorem tracePrimaryIfd_eq :
    (w.tracePrimaryIfd e tiff p out log).toCIFDWriter = w.writePrimaryIfd e tiff p out := by
  have hfields := TracedWriter.toCIFDWriter_writeAll
    (TracedWriter.new tiff p w.n0thIfdFields out log)
    (e.primaryFields w.szMake w.szModel w.szSoftware)
  -- the writer behind the pointer to the Exif IFD
  have hexif (writer : TracedWriter) :
      (writer.endSubIfd (w.traceExifIfd e tiff writer.value writer.out writer.log)).toCIFDWriter =
        writer.toCIFDWriter.endSubIfd (w.writeExifIfd e tiff writer.value writer.out) :=
    congrArg (CIFDWriter.endSubIfd _) (w.traceExifIfd_eq e tiff _ _ _)
  have hgps (writer : TracedWriter) :
      (writer.endSubIfd (w.traceGpsIfd e tiff writer.value writer.out writer.log)).toCIFDWriter =
        writer.toCIFDWriter.endSubIfd (w.writeGpsIfd e tiff writer.value writer.out) :=
    congrArg (CIFDWriter.endSubIfd _) (w.traceGpsIfd_eq e tiff _ _ _)
  have hbegin (writer : TracedWriter) (tag : Nat) :
      (writer.beginSubIfd tag).toCIFDWriter = writer.toCIFDWriter.beginSubIfd tag := rfl
  unfold tracePrimaryIfd writePrimaryIfd
  dsimp only
  split
  · rw [hgps, hbegin, hexif, hbegin, hfields]
    rfl
  · rw [hexif, hbegin, hfields]
    rfl

/-- The end of the last directory, and the stores, of `WriteAPP1`. -/
theorem writeApp1_eq_trace {w : CAppMarkerWriter} {e : ExifAttribute} (h : w.exif = some e)
    (current : Nat) (reserve : Bool) (out : Overlay) :
    (w.writeApp1 current reserve false out).2 =
      (ptrAdd (w.traceApp1 e current reserve out).value
        (if e.enableThumb ∧ reserve then w.maxThumbSize else 0),
        (w.traceApp1 e current reserve out).out) := by
  have hprimary := w.tracePrimaryIfd_eq e (current + 10) (current + 10 + 8)
    (w.writeApp1Header current reserve false out) (w.traceApp1Header current reserve)
  have hfinish (writer : TracedWriter) (last : Bool) :
      (writer.finish last).toCIFDWriter = writer.toCIFDWriter.finish last := rfl
  unfold writeApp1 traceApp1
  rw [h]
  dsimp only
  rw [if_neg Bool.false_ne_true, ← hprimary]
  by_cases henable : e.enableThumb = true
  · rw [if_pos henable, if_pos henable, hfinish, traceThumbIfd_eq]
    cases reserve with
    | true =>
      rw [if_pos rfl, if_pos ⟨henable, rfl⟩]
      rfl
    | false =>
      rw [if_neg Bool.false_ne_true, if_neg fun hboth => Bool.false_ne_true hboth.2]
      rfl
  · rw [if_neg henable, if_neg henable, if_neg fun hboth => henable hboth.1]
    rfl

end CAppMarkerWriter

/-! ## 3. One directory -/

/-- The writer of the directory at `p` for `n` tags has written `k` of them: its cursors have
touched each address between where they began and where they are once, the log `before` aside. -/
structure TracedWriter.Tracks (t : TracedWriter) (o : Overlay) (before : SegmentLog) (p n k : Nat) :
    Prop where
  small : n < 2 ^ 16
  ifd_eq : t.ifd = p + 2 + ifdFieldSize * k
  tags_eq : t.nTags + k = n
  value_le : p + (6 + ifdFieldSize * n) ≤ t.value
  touched_eq : ∀ i, t.log.touched i =
    before.touched i + between p t.ifd i + between (p + (6 + ifdFieldSize * n)) t.value i
  out_eq : t.out = StoreLog.replay o t.log
  budgets : t.log.Notes TagBudget.Right

/-- The directory at `p` is finished. -/
structure TracedWriter.Finished (t : TracedWriter) (o : Overlay) (before : SegmentLog) (p : Nat) :
    Prop where
  value_le : p ≤ t.value
  touched_eq : ∀ i, t.log.touched i = before.touched i + between p t.value i
  out_eq : t.out = StoreLog.replay o t.log
  budgets : t.log.Notes TagBudget.Right

namespace TracedWriter

variable {t : TracedWriter} {o out : Overlay} {before : SegmentLog} {p n k : Nat}

theorem tracks_new (hn : n < 2 ^ 16) (hout : out = StoreLog.replay o before)
    (hbudgets : before.Notes TagBudget.Right) (offsetBase : Nat) :
    (new offsetBase p n out before).Tracks o before p n 0 where
  small := hn
  ifd_eq := rfl
  tags_eq := rfl
  value_le := by
    change _ ≤ p + 2 + ifdFieldSize * n + 4
    omega
  touched_eq i := by
    have hvalue : (new offsetBase p n out before).value = p + (6 + ifdFieldSize * n) := by
      change p + 2 + ifdFieldSize * n + 4 = _
      omega
    rw [hvalue, between_self]
    exact StoreLog.touched_append before _ i
  out_eq := by
    change out.put p (le16 n) = StoreLog.replay o (before ++ [.store p (le16 n)])
    rw [StoreLog.replay_append, ← hout]
    rfl
  budgets := StoreLog.notes_append hbudgets fun x hx => by cases List.mem_singleton.mp hx

/-- One more tag: its field in the table, and what it has put behind the table. -/
theorem Tracks.tag (h : t.Tracks o before p n k) (hk : k < n) {t' : TracedWriter}
    (hifd : t'.ifd = t.ifd + ifdFieldSize) (htags : t'.nTags = (t.nTags + 2 ^ 32 - 1) % 2 ^ 32)
    (hvalue : t.value ≤ t'.value)
    (htouched : ∀ i, t'.log.touched i =
      t.log.touched i + between t.ifd (t.ifd + ifdFieldSize) i + between t.value t'.value i)
    (hout : t'.out = StoreLog.replay o t'.log) (hbudgets : t'.log.Notes TagBudget.Right) :
    t'.Tracks o before p n (k + 1) where
  small := h.small
  ifd_eq := by
    rw [hifd, h.ifd_eq, Nat.mul_succ]
    omega
  tags_eq := by
    have hsmall := h.small
    have hleft := h.tags_eq
    omega
  value_le := Nat.le_trans h.value_le hvalue
  touched_eq i := by
    have htable : between p t.ifd i + between t.ifd (t.ifd + ifdFieldSize) i = between p t'.ifd i := by
      rw [hifd]
      exact between_add (by rw [h.ifd_eq]; omega) (Nat.le_add_right _ _) i
    have hvalues := between_add h.value_le hvalue i
    rw [htouched, h.touched_eq]
    omega
  out_eq := hout
  budgets := hbudgets

/-- The budget is not used up in front of one of the `n` tags. -/
theorem Tracks.right_tag (h : t.Tracks o before p n k) (hk : k < n) :
    TagBudget.Right (.tag t.nTags) := by
  have hleft := h.tags_eq
  change 0 < t.nTags
  omega

theorem notes_singleton {b : TagBudget} (hb : b.Right) (a : Nat) (bs : List UInt8) :
    StoreLog.Notes TagBudget.Right [.note b, .store a bs] := by
  intro x hx
  cases hx with
  | head => exact hb
  | tail _ hx => cases List.mem_singleton.mp hx

theorem notes_stores {log : SegmentLog} (h : ∀ x, LogEntry.note x ∉ log) :
    log.Notes TagBudget.Right := fun x hx => absurd hx (h x)

theorem Tracks.write (h : t.Tracks o before p n k) (hk : k < n) (f : IfdField) :
    (t.write f).Tracks o before p n (k + 1) := by
  have htag := h.right_tag hk
  have hhead : (le16 f.tag ++ le16 f.type.code ++ le32 f.count).length = 8 := rfl
  have hjoin (i : Nat) : between t.ifd (t.ifd + 8) i + between (t.ifd + 8) (t.ifd + 8 + 4) i =
      between t.ifd (t.ifd + ifdFieldSize) i :=
    between_add (Nat.le_add_right _ _) (Nat.le_add_right _ _) i
  unfold TracedWriter.write
  dsimp only
  cases hat : f.atValue with
  | true =>
    rw [if_pos rfl]
    have hlog : (((t.writeTagTypeCount f.tag f.type f.count).writeOffset
        (t.writeTagTypeCount f.tag f.type f.count).value).writeValue f.data).log = t.log ++
          [.note (.tag t.nTags), .store t.ifd (le16 f.tag ++ le16 f.type.code ++ le32 f.count)] ++
          [.store (t.ifd + 8) (le32 (t.offset t.value))] ++ [.store t.value f.data] := rfl
    refine h.tag hk rfl rfl (Nat.le_add_right _ _) (fun i => ?_) ?_ ?_
    · rw [hlog, StoreLog.touched_append, StoreLog.touched_append, StoreLog.touched_append,
        StoreLog.touched_note_store, StoreLog.touched_store, StoreLog.touched_store, hhead,
        length_le32, Nat.add_assoc (t.log.touched i), hjoin]
      rfl
    · rw [hlog, StoreLog.replay_append, StoreLog.replay_append, StoreLog.replay_append, ← h.out_eq]
      rfl
    · rw [hlog]
      refine StoreLog.notes_append (StoreLog.notes_append (StoreLog.notes_append h.budgets
        (notes_singleton htag _ _)) ?_) ?_
      · exact notes_stores fun x hx => by cases List.mem_singleton.mp hx
      · exact notes_stores fun x hx => by cases List.mem_singleton.mp hx
  | false =>
    rw [if_neg Bool.false_ne_true]
    have hfits : f.data.length ≤ 4 := f.fits hat
    have hlog : ((t.writeTagTypeCount f.tag f.type f.count).writeInline f.data).log = t.log ++
        [.note (.tag t.nTags), .store t.ifd (le16 f.tag ++ le16 f.type.code ++ le32 f.count)] ++
        [.store (t.ifd + 8) f.data, .skip (t.ifd + 8 + f.data.length)
          (ifdValoffSize - f.data.length)] := rfl
    have hvalue : ((t.writeTagTypeCount f.tag f.type f.count).writeInline f.data).value = t.value :=
      rfl
    refine h.tag hk rfl rfl (Nat.le_refl _) (fun i => ?_) ?_ ?_
    · rw [hlog, hvalue, between_self, StoreLog.touched_append, StoreLog.touched_append,
        StoreLog.touched_note_store, StoreLog.touched_store_skip, hhead,
        show f.data.length + (ifdValoffSize - f.data.length) = 4 from Nat.add_sub_cancel' hfits,
        Nat.add_assoc (t.log.touched i), hjoin]
      rfl
    · rw [hlog, StoreLog.replay_append, StoreLog.replay_append, ← h.out_eq]
      rfl
    · rw [hlog]
      refine StoreLog.notes_append (StoreLog.notes_append h.budgets (notes_singleton htag _ _)) ?_
      exact notes_stores fun x hx => by
        simp only [List.mem_cons, reduceCtorEq, List.not_mem_nil, or_self] at hx

theorem Tracks.writeAll (h : t.Tracks o before p n k) (fields : List IfdField)
    (hroom : k + fields.length ≤ n) :
    (t.writeAll fields).Tracks o before p n (k + fields.length) := by
  induction fields generalizing t k with
  | nil => exact h
  | cons f fs ih =>
    rw [List.length_cons] at hroom ⊢
    have hrest := ih (h.write (by omega) f) (by omega)
    rw [show k + 1 + fs.length = k + (fs.length + 1) by omega] at hrest
    exact hrest

/-- A tag for a subdirectory, and the subdirectory, which begins where the values end. -/
theorem Tracks.addDirectory (h : t.Tracks o before p n k) (hk : k < n) (tag : Nat)
    {writeSub : Nat → Overlay → SegmentLog → TracedWriter}
    (hsub : ∀ q out log, out = StoreLog.replay o log → log.Notes TagBudget.Right →
      (writeSub q out log).Finished o log q) :
    ((t.beginSubIfd tag).endSubIfd (writeSub (t.beginSubIfd tag).value (t.beginSubIfd tag).out
      (t.beginSubIfd tag).log)).Tracks o before p n (k + 1) := by
  have hlog : (t.beginSubIfd tag).log = t.log ++
      [.note (.tag t.nTags), .store t.ifd (le16 tag ++ le16 ExifType.long.code ++ le32 1)] ++
      [.store (t.ifd + 8) (le32 (t.offset t.value))] := rfl
  have hhead : (le16 tag ++ le16 ExifType.long.code ++ le32 1).length = 8 := rfl
  have hjoin (i : Nat) : between t.ifd (t.ifd + 8) i + between (t.ifd + 8) (t.ifd + 8 + 4) i =
      between t.ifd (t.ifd + ifdFieldSize) i :=
    between_add (Nat.le_add_right _ _) (Nat.le_add_right _ _) i
  have hout : (t.beginSubIfd tag).out = StoreLog.replay o (t.beginSubIfd tag).log := by
    rw [hlog, StoreLog.replay_append, StoreLog.replay_append, ← h.out_eq]
    rfl
  have hbudgets : (t.beginSubIfd tag).log.Notes TagBudget.Right := by
    rw [hlog]
    refine StoreLog.notes_append (StoreLog.notes_append h.budgets
      (notes_singleton (h.right_tag hk) _ _)) ?_
    exact notes_stores fun x hx => by cases List.mem_singleton.mp hx
  have hfinished := hsub (t.beginSubIfd tag).value _ _ hout hbudgets
  refine h.tag hk rfl rfl hfinished.value_le (fun i => ?_) hfinished.out_eq hfinished.budgets
  change (writeSub _ _ _).log.touched i = _
  rw [hfinished.touched_eq, hlog, StoreLog.touched_append, StoreLog.touched_append,
    StoreLog.touched_note_store, StoreLog.touched_store, hhead, length_le32,
    Nat.add_assoc (t.log.touched i), hjoin]
  rfl

/-- All tags are written. -/
theorem Tracks.finish (h : t.Tracks o before p n n) (last : Bool) :
    (t.finish last).Finished o before p where
  value_le := Nat.le_trans (Nat.le_add_right _ _) h.value_le
  touched_eq i := by
    have htable : between p t.ifd i + between t.ifd (t.ifd + 4) i =
        between p (p + (6 + ifdFieldSize * n)) i := by
      rw [show p + (6 + ifdFieldSize * n) = t.ifd + 4 by rw [h.ifd_eq]; omega]
      exact between_add (by rw [h.ifd_eq]; omega) (Nat.le_add_right _ _) i
    have hall := between_add (Nat.le_add_right p _) h.value_le i
    change StoreLog.touched (t.log ++ [.note _, .store t.ifd _]) i =
      before.touched i + between p t.value i
    rw [StoreLog.touched_append, StoreLog.touched_note_store, length_le32, h.touched_eq]
    omega
  out_eq := by
    change t.out.put t.ifd _ = StoreLog.replay o (t.log ++ [.note _, .store t.ifd _])
    rw [StoreLog.replay_append, ← h.out_eq]
    rfl
  budgets := by
    refine StoreLog.notes_append h.budgets (notes_singleton ?_ _ _)
    have hleft := h.tags_eq
    change t.nTags = 0
    omega

end TracedWriter

/-! ## 4. The directories of the segment -/

namespace CAppMarkerWriter

variable {w : CAppMarkerWriter} {e : ExifAttribute} {tiff p : Nat} {o out : Overlay}
  {before : SegmentLog}

theorem optionalField_le (sz : Nat) : optionalField sz ≤ 1 := by
  unfold optionalField
  split <;> omega

/-- The fields of a directory in front of its subdirectories. -/
theorem tracks_fields (fields : List IfdField) {n : Nat} (hn : n < 2 ^ 16) (hroom : fields.length ≤ n)
    (hout : out = StoreLog.replay o before) (hbudgets : before.Notes TagBudget.Right)
    (tiff p : Nat) :
    ((TracedWriter.new tiff p n out before).writeAll fields).Tracks o before p n fields.length := by
  have hnew : (TracedWriter.new tiff p n out before).Tracks o before p n 0 :=
    TracedWriter.tracks_new hn hout hbudgets tiff
  have hall := hnew.writeAll fields (by omega)
  rw [Nat.zero_add] at hall
  exact hall

theorem traceInteropIfd_finished (hout : out = StoreLog.replay o before)
    (hbudgets : before.Notes TagBudget.Right) (tiff p : Nat) :
    (traceInteropIfd e tiff p out before).Finished o before p :=
  (tracks_fields e.interopFields (by decide : 2 < 2 ^ 16) (Nat.le_refl 2) hout hbudgets tiff
    p).finish true

theorem traceExifIfd_finished (h : w.Counted e) (hout : out = StoreLog.replay o before)
    (hbudgets : before.Notes TagBudget.Right) (tiff p : Nat) :
    (w.traceExifIfd e tiff p out before).Finished o before p := by
  have hcount := nExifIfdFields_eq e
  have hsmall : (e.exifFields e.uniqueId.strlen).length.succ < 2 ^ 16 := by
    have hid := optionalField_le e.uniqueId.strlen
    have hnote := optionalField_le e.makerNote.size
    have hcomment := optionalField_le e.userComment.size
    rw [← hcount]
    unfold ExifAttribute.nExifIfdFields
    omega
  have hfields := tracks_fields (e.exifFields e.uniqueId.strlen) hsmall (Nat.le_succ _) hout
    hbudgets tiff p
  have hadd := hfields.addDirectory (Nat.lt_succ_self _) ExifTag.interoperability
    (fun q out log hout hbudgets => traceInteropIfd_finished (e := e) hout hbudgets tiff q)
  unfold traceExifIfd
  rw [h.nExif_eq, hcount, h.szUniqueId_eq]
  exact hadd.finish true

theorem traceGpsIfd_finished (h : w.Counted e) (hgps : e.enableGps = true)
    (hout : out = StoreLog.replay o before) (hbudgets : before.Notes TagBudget.Right)
    (tiff p : Nat) : (w.traceGpsIfd e tiff p out before).Finished o before p := by
  have hcount := nGpsIfdFields_eq e
  have hsmall : e.gpsFields.length < 2 ^ 16 := by
    have hmethod := optionalField_le e.gpsMethodLength
    rw [← hcount]
    unfold ExifAttribute.nGpsIfdFields
    omega
  unfold traceGpsIfd
  rw [h.nGps_eq hgps, hcount]
  exact (tracks_fields e.gpsFields hsmall (Nat.le_refl _) hout hbudgets tiff p).finish true

/-- The 0th IFD has all its tags when its subdirectories are written. -/
theorem tracePrimaryIfd_tracks (h : w.Counted e) (hout : out = StoreLog.replay o before)
    (hbudgets : before.Notes TagBudget.Right) (tiff p : Nat) :
    (w.tracePrimaryIfd e tiff p out before).Tracks o before p e.primaryCount e.primaryCount := by
  have hcount : e.primaryCount = e.headFields.length + 1 + if e.enableGps then 1 else 0 := rfl
  have hsmall : e.primaryCount < 2 ^ 16 := by
    have hmake := optionalField_le e.maker.strlen
    have hsoftware := optionalField_le e.software.strlen
    have hmodel := optionalField_le e.model.strlen
    rw [← n0thIfdFields_eq]
    unfold ExifAttribute.n0thIfdFields
    split <;> omega
  have hhead : e.primaryFields w.szMake w.szModel w.szSoftware = e.headFields := by
    rw [h.szMake_eq, h.szModel_eq, h.szSoftware_eq]
    rfl
  have hfields := tracks_fields e.headFields hsmall (by omega) hout hbudgets tiff p
  have hexif := hfields.addDirectory (by omega) ExifTag.exifIfdPointer
    (fun q out log hout hbudgets => traceExifIfd_finished h hout hbudgets tiff q)
  unfold tracePrimaryIfd
  rw [h.n0th_eq, n0thIfdFields_eq, hhead]
  dsimp only
  by_cases hgps : e.enableGps = true
  · rw [if_pos hgps] at hcount ⊢
    have hadd := hexif.addDirectory (by omega) ExifTag.gpsIfdPointer
      (fun q out log hout hbudgets => traceGpsIfd_finished h hgps hout hbudgets tiff q)
    rw [show e.headFields.length + 1 + 1 = e.primaryCount from hcount.symm] at hadd
    exact hadd
  · rw [if_neg hgps] at hcount ⊢
    rw [show e.headFields.length + 1 = e.primaryCount from hcount.symm] at hexif
    exact hexif

theorem traceThumbIfd_finished (hn1 : w.n1stIfdFields = 6) (hout : out = StoreLog.replay o before)
    (hbudgets : before.Notes TagBudget.Right) (tiff p : Nat) :
    ((w.traceThumbIfd e tiff p out before).finish true).Finished o before p := by
  have hfields := tracks_fields (e.thumbFields
    (UInt32.ofNat ((TracedWriter.new tiff p 6 out before).offset w.thumbBase)))
    (by decide : 6 < 2 ^ 16) (by decide : 5 ≤ 6) hout hbudgets tiff p
  unfold traceThumbIfd
  rw [hn1]
  exact (hfields.write (by decide : 5 < 6) (ExifAttribute.thumbLengthField 0)).finish true

/-- The segment: its header, the 0th IFD, and the 1st IFD if there is a thumbnail. -/
theorem traceApp1_finished (h : w.Counted e) (hn1 : e.enableThumb = true → w.n1stIfdFields = 6)
    (current : Nat) (reserve : Bool) (out : Overlay) :
    (w.traceApp1 e current reserve out).Finished out [] current := by
  have hheader : w.writeApp1Header current reserve false out =
      StoreLog.replay out (w.traceApp1Header current reserve) := rfl
  have hnotes : (w.traceApp1Header current reserve).Notes TagBudget.Right := by
    intro x hx
    unfold traceApp1Header at hx
    simp only [List.mem_cons, reduceCtorEq, List.not_mem_nil, or_self] at hx
  have htouched (i : Nat) : StoreLog.touched (w.traceApp1Header current reserve) i =
      between current (current + 18) i := by
    unfold traceApp1Header
    rw [← between_add (by omega : current ≤ current + 2) (by omega : current + 2 ≤ current + 18),
      ← between_add (by omega : current + 2 ≤ current + 4) (by omega : current + 4 ≤ current + 18),
      ← between_add (by omega : current + 4 ≤ current + 10)
        (by omega : current + 10 ≤ current + 18)]
    rfl
  have hprimary := tracePrimaryIfd_tracks h hheader hnotes (current + 10) (current + 10 + 8)
  -- behind the header the segment is one range
  have hwhole {t : TracedWriter} (hrange : t.Finished out (w.traceApp1Header current reserve)
      (current + 10 + 8)) : t.Finished out [] current :=
    { value_le := Nat.le_trans (by omega) hrange.value_le
      touched_eq := fun i => by
        have hempty : StoreLog.touched ([] : SegmentLog) i = 0 := rfl
        rw [hrange.touched_eq, htouched, hempty, Nat.zero_add]
        exact between_add (Nat.le_add_right current 18) hrange.value_le i
      out_eq := hrange.out_eq
      budgets := hrange.budgets }
  unfold traceApp1
  dsimp only
  by_cases henable : e.enableThumb = true
  · rw [if_pos henable]
    have hfinished := hprimary.finish false
    have hthumb := traceThumbIfd_finished (e := e) (hn1 henable) hfinished.out_eq hfinished.budgets
      (current + 10) ((w.tracePrimaryIfd e (current + 10) (current + 10 + 8)
        (w.writeApp1Header current reserve false out)
        (w.traceApp1Header current reserve)).finish false).value
    refine hwhole ⟨Nat.le_trans hfinished.value_le hthumb.value_le, fun i => ?_, hthumb.out_eq,
      hthumb.budgets⟩
    rw [hthumb.touched_eq, hfinished.touched_eq, Nat.add_assoc,
      between_add hfinished.value_le hthumb.value_le]
  · rw [if_neg henable]
    exact hwhole (hprimary.finish true)

/-! ## 5. The prediction -/

/-- The writing pass comes out as the counting pass has predicted. -/
structure AsPredicted (w : CAppMarkerWriter) (e : ExifAttribute) (out : Overlay) : Prop where
  /-- The trace is that of the run. -/
  traced : ∀ reserve, (w.writeApp1 w.appBase reserve false out).2 =
    ((w.traceApp1 e w.appBase reserve out).value +
      (if e.enableThumb ∧ reserve then w.maxThumbSize else 0),
      (w.traceApp1 e w.appBase reserve out).out)
  replayed : ∀ reserve, (w.traceApp1 e w.appBase reserve out).out =
    StoreLog.replay out (w.traceApp1 e w.appBase reserve out).log
  endsAt : (w.writeApp1 w.appBase false false out).2.1 = w.appBase + jpegMarkerSize + w.szApp1
  thumbBase : e.enableThumb = true → ∀ reserve,
    w.thumbBase = (w.traceApp1 e w.appBase reserve out).value
  budgets : ∀ reserve, (w.traceApp1 e w.appBase reserve out).log.Notes TagBudget.Right
  writtenOnce : ∀ reserve i, w.appBase ≤ i → i < w.appBase + jpegMarkerSize + w.szApp1 →
    (w.traceApp1 e w.appBase reserve out).log.writes i = 1 ∧
      (w.traceApp1 e w.appBase reserve out).log.skips i = 0 ∨
    (w.traceApp1 e w.appBase reserve out).log.writes i = 0 ∧
      (w.traceApp1 e w.appBase reserve out).log.skips i = 1
  notBeyond : ∀ reserve i, i < w.appBase ∨ w.appBase + jpegMarkerSize + w.szApp1 ≤ i →
    (w.traceApp1 e w.appBase reserve out).log.writes i = 0

theorem thumbBase_prepareDebug (debug : Option DebugAttribute) (w : CAppMarkerWriter) :
    (w.prepareDebug debug).thumbBase = w.thumbBase := by
  unfold prepareDebug
  cases debug with
  | none => rfl
  | some d =>
    dsimp only
    split <;> rfl

/-- Where `PrepareAppWriter` expects the thumbnail. -/
theorem thumbBase_prepareAppWriter (w : CAppMarkerWriter) (base : Nat) {e : ExifAttribute}
    (debug : Option DebugAttribute) (haccepted : ¬e.thumbTooSmall) (henable : e.enableThumb = true) :
    (w.prepareAppWriter base (some e) debug).thumbBase = base + jpegMarkerSize + e.appLength := by
  unfold prepareAppWriter
  dsimp only
  rw [if_neg haccepted, thumbBase_prepareDebug]
  unfold measureApp1
  rw [if_pos henable]
  rfl

/-- The end of the last directory. -/
theorem value_traceApp1 (h : w.Counted e) (hn1 : e.enableThumb = true → w.n1stIfdFields = 6)
    (hmax : w.maxThumbSize < 2 ^ 63) (current : Nat) (reserve : Bool) (out : Overlay) :
    (w.traceApp1 e current reserve out).value = current + (jpegMarkerSize + e.appLength) := by
  have hspace (p : Prop) [Decidable p] : (if p then w.maxThumbSize else 0) < 2 ^ 63 := by
    split
    · exact hmax
    · exact Nat.two_pow_pos 63
  have htraced := congrArg Prod.fst (writeApp1_eq_trace h.exif_eq current reserve out)
  dsimp only at htraced
  rw [ptrAdd_of_lt (hspace _)] at htraced
  by_cases henable : e.enableThumb = true
  · rw [writeApp1_thumb h henable (hn1 henable)] at htraced
    dsimp only at htraced
    rw [ptrAdd_of_lt (hspace _)] at htraced
    cases reserve with
    | true =>
      rw [if_pos rfl, if_pos ⟨henable, rfl⟩] at htraced
      exact (Nat.add_right_cancel htraced).symm
    | false =>
      rw [if_neg Bool.false_ne_true, if_neg fun hboth => Bool.false_ne_true hboth.2] at htraced
      exact (Nat.add_right_cancel htraced).symm
  · rw [writeApp1_noThumb h henable,
      if_neg (fun hboth : e.enableThumb = true ∧ reserve = true => henable hboth.1)] at htraced
    exact htraced.symm

/-- Whatever attribute `PrepareAppWriter` accepts, `WriteAPP1` writes the segment it has predicted,
with no byte left out and none written twice. -/
theorem writeApp1_asPredicted (w : CAppMarkerWriter) (base : Nat) (e : ExifAttribute)
    (debug : Option DebugAttribute) (out : Overlay) (haccepted : ¬e.thumbTooSmall)
    (hsize : e.appLength ≤ jpegMaxSegmentSize) :
    (w.prepareAppWriter base (some e) debug).AsPredicted e out := by
  have hmeasured := measured_prepareAppWriter w base debug haccepted
  have hbase := appBase_prepareAppWriter w base debug (some e)
  have hthumb := thumbBase_prepareAppWriter w base debug haccepted
  generalize w.prepareAppWriter base (some e) debug = w at hmeasured hbase hthumb ⊢
  obtain ⟨hcounted, hn1, hszApp1, hmaxThumb⟩ := hmeasured
  have hmax : w.maxThumbSize < 2 ^ 63 := by
    rw [hmaxThumb]
    unfold jpegMaxSegmentSize at hsize
    unfold jpegMaxSegmentSize sizeSub
    split <;> omega
  unfold jpegMaxSegmentSize at hsize
  rw [Nat.mod_eq_of_lt (by omega)] at hszApp1
  have hfinished (reserve : Bool) := traceApp1_finished hcounted hn1 w.appBase reserve out
  have hvalue (reserve : Bool) : (w.traceApp1 e w.appBase reserve out).value =
      w.appBase + jpegMarkerSize + w.szApp1 := by
    rw [value_traceApp1 hcounted hn1 hmax, hszApp1, Nat.add_assoc]
  have htouched (reserve : Bool) (i : Nat) :
      (w.traceApp1 e w.appBase reserve out).log.touched i =
        between w.appBase (w.appBase + jpegMarkerSize + w.szApp1) i := by
    rw [(hfinished reserve).touched_eq, hvalue]
    exact Nat.zero_add _
  have htraced (reserve : Bool) : (w.writeApp1 w.appBase reserve false out).2 =
      ((w.traceApp1 e w.appBase reserve out).value +
        (if e.enableThumb ∧ reserve then w.maxThumbSize else 0),
        (w.traceApp1 e w.appBase reserve out).out) := by
    rw [writeApp1_eq_trace hcounted.exif_eq, ptrAdd_of_lt]
    split <;> omega
  refine ⟨htraced, fun reserve => (hfinished reserve).out_eq, ?_, ?_,
    fun reserve => (hfinished reserve).budgets,
    fun reserve i hlo hhi => StoreLog.writes_of_touched (htouched reserve i) hlo hhi, ?_⟩
  · rw [htraced, hvalue, if_neg fun hboth => Bool.false_ne_true hboth.2]
    exact Nat.add_zero _
  · intro henable reserve
    rw [hvalue, hthumb henable, hbase, hszApp1]
  · intro reserve i hout
    have hcount := htouched reserve i
    unfold StoreLog.touched between at hcount
    rw [if_neg (by omega)] at hcount
    exact (Nat.add_eq_zero_iff.mp hcount).1

theorem writeApp1_asPredicted_bareExif :
    ((⟨0, 0, 0, 0, 0, 0, 0, 0, 0, none, none, 0, 0, 0, 0, 0, 0, 0⟩ :
      CAppMarkerWriter).prepareAppWriter 0x10002 (some (bareExif true true)) none).AsPredicted
        (bareExif true true) Overlay.empty :=
  writeApp1_asPredicted _ 0x10002 (bareExif true true) none Overlay.empty (by decide)
    (by decide +kernel)

end CAppMarkerWriter

end Universal7870.Jpeg
