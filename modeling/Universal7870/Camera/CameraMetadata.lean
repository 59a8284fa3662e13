import Mathlib.Logic.Function.Basic
import Universal7870.Camera.Metadata
import Universal7870.Lib.Run

/-!
# Camera metadata objects

`CameraMetadata.cpp`: objects that each own a packet of the platform's library, hand it out, take
others in, and may be locked while somebody reads their packet.  A packet lies in a buffer with an
address; `alloc` is the address that the library returns for a new one, none where it returns null.
-/

namespace Universal7870.Camera

/-- The types of an entry's data. -/
inductive TagType
  | byte
  | int32
  | float
  | int64
  | double
  | rational
  deriving DecidableEq, Repr

/-- What the objects use of the library beside the functions on single packets. -/
structure PacketLibrary (M : Type*) extends MetadataLibrary M where
  sort : M → M
  delete : M → Nat → M
  tagType : MetadataTag → Option TagType

/-- Who frees a buffer: an object, the code around the objects, or only a call that is under way. -/
inductive Holder (ι : Type*)
  | object (i : ι)
  | caller
  | stray
  deriving DecidableEq, Repr

theorem Holder.caller_ne {ι : Type*} (i : ι) : (.caller : Holder ι) ≠ .object i := fun h => by cases h

theorem Holder.stray_ne {ι : Type*} (i : ι) : (.stray : Holder ι) ≠ .object i := fun h => by cases h

/-- The objects and the buffers.  `fault` notes a buffer read, written or freed that is not there,
and `holder` who is to free each of them. -/
structure MetadataStore (ι M : Type*) where
  mBuffer : ι → Option Nat
  mLocked : ι → Bool
  live : Nat → Bool
  packet : Nat → M
  fault : Bool
  holder : Nat → Option (Holder ι)

namespace MetadataStore

variable {ι M : Type*}

/-! ## 1. Buffers -/

def touch (s : MetadataStore ι M) (b : Nat) : MetadataStore ι M := { s with fault := s.fault || !s.live b }

/-- Write a packet over the one in a buffer. -/
def write (s : MetadataStore ι M) (b : Nat) (m : M) : MetadataStore ι M :=
  { s.touch b with packet := Function.update s.packet b m }

def allocate (s : MetadataStore ι M) (a : Nat) (m : M) (h : Holder ι) : MetadataStore ι M :=
  { s with live := Function.update s.live a true, packet := Function.update s.packet a m,
           holder := Function.update s.holder a (some h) }

/-- `free_camera_metadata` -/
def free (s : MetadataStore ι M) (b : Nat) : MetadataStore ι M :=
  { s.touch b with live := Function.update s.live b false, holder := Function.update s.holder b none }

variable [DecidableEq ι]

/-- An assignment to `mBuffer`, of a buffer that the object holds from then on. -/
def adopt (s : MetadataStore ι M) (i : ι) (buffer : Option Nat) : MetadataStore ι M :=
  match buffer with
  | none => { s with mBuffer := Function.update s.mBuffer i none }
  | some b => { s with mBuffer := Function.update s.mBuffer i (some b),
                       holder := Function.update s.holder b (some (.object i)) }

/-- The object's buffer passes to somebody else. -/
def loosen (s : MetadataStore ι M) (i : ι) (h : Holder ι) : MetadataStore ι M :=
  match s.mBuffer i with
  | none => s
  | some b => { s with mBuffer := Function.update s.mBuffer i none,
                       holder := Function.update s.holder b (some h) }

/-! ## 2. The member functions -/

def clear (s : MetadataStore ι M) (i : ι) : MetadataStore ι M :=
  if s.mLocked i then s
  else
    match s.mBuffer i with
    | none => s
    | some b => (s.loosen i .stray).free b

/-- `acquire` of a buffer, which may be null. -/
def acquire (s : MetadataStore ι M) (i : ι) (buffer : Option Nat) : MetadataStore ι M :=
  if s.mLocked i then s else (s.clear i).adopt i buffer

def release (s : MetadataStore ι M) (i : ι) : MetadataStore ι M × Option Nat :=
  if s.mLocked i then (s, none) else (s.loosen i .caller, s.mBuffer i)

/-- `acquire` from another object. -/
def acquireFrom (s : MetadataStore ι M) (i j : ι) : MetadataStore ι M :=
  if s.mLocked i then s else (s.release j).1.acquire i (s.release j).2

def getAndLock (s : MetadataStore ι M) (i : ι) : MetadataStore ι M :=
  { s with mLocked := Function.update s.mLocked i true }

def unlock (s : MetadataStore ι M) (i : ι) (buffer : Option Nat) : MetadataStore ι M :=
  if ¬s.mLocked i then s
  else if buffer ≠ s.mBuffer i then s
  else { s with mLocked := Function.update s.mLocked i false }

/-- `~CameraMetadata`; the object is then as a new one. -/
def destroy (s : MetadataStore ι M) (i : ι) : MetadataStore ι M :=
  { s with mLocked := Function.update s.mLocked i false }.clear i

def swap (s : MetadataStore ι M) (i j : ι) : MetadataStore ι M :=
  if s.mLocked i then s
  else if s.mLocked j then s
  else
    let thisBuf := s.mBuffer i
    let otherBuf := s.mBuffer j
    -- both buffers are the call's until they are stored
    ((s.loosen i .stray).loosen j .stray |>.adopt j thisBuf).adopt i otherBuf

variable (lib : PacketLibrary M)

/-- The constructor with capacities. -/
def construct (s : MetadataStore ι M) (i : ι) (entryCapacity dataCapacity : Nat) (alloc : Option Nat) :
    MetadataStore ι M :=
  match alloc with
  | none => s
  | some a => (s.allocate a (lib.allocate entryCapacity dataCapacity) .stray).adopt i (some a)

/-- `operator=` of a buffer, and the copy constructor. -/
def assign (s : MetadataStore ι M) (i : ι) (buffer alloc : Option Nat) : MetadataStore ι M :=
  if s.mLocked i then s
  else if buffer = s.mBuffer i then s
  else
    match buffer, alloc with
    | some b, some a =>
      -- the clone is made before the object's own packet is freed
      (((s.touch b).allocate a (lib.clone (s.packet b)) .stray).clear i).adopt i (some a)
    | _, _ => (s.clear i).adopt i none

/-- The counts that `resizeIfNeeded` asks of a packet: what is there and what is to come, doubled
where it does not fit. -/
def grown (count extra capacity : Nat) : Nat :=
  if capacity < count + extra then (count + extra) * 2 else capacity

/-- `resizeIfNeeded`, and whether it returned `OK`. -/
def resizeIfNeeded (s : MetadataStore ι M) (i : ι) (extraEntries extraData : Nat) (alloc : Option Nat) :
    MetadataStore ι M × Bool :=
  match s.mBuffer i with
  | none =>
    match alloc with
    | none => (s, false)
    | some a =>
      ((s.allocate a (lib.allocate (extraEntries * 2) (extraData * 2)) .stray).adopt i (some a), true)
  | some b =>
    let m := s.packet b
    let newEntryCount := grown (lib.entries m).length extraEntries (lib.entryCapacity m)
    let newDataCount := grown (dataCount (lib.entries m)) extraData (lib.dataCapacity m)
    if lib.entryCapacity m < newEntryCount ∨ lib.dataCapacity m < newDataCount then
      match alloc with
      -- `mBuffer` was overwritten with NULL, and nothing points to the old buffer
      | none => ((s.touch b).loosen i .stray, false)
      | some a =>
        -- the old packet is appended to the new one, and freed
        let room := lib.allocate newEntryCount newDataCount
        ((((s.touch b).loosen i .stray).allocate a ((lib.append room m).getD room) .stray).adopt i
          (some a) |>.free b, true)
    else (s.touch b, true)

/-- `append` of a buffer.  What `resizeIfNeeded` returns is not looked at. -/
def append (s : MetadataStore ι M) (i : ι) (other : Nat) (alloc : Option Nat) : MetadataStore ι M :=
  if s.mLocked i then s
  else
    let es := lib.entries (s.packet other)
    let s := ((s.touch other).resizeIfNeeded lib i es.length (dataCount es) alloc).1
    match s.mBuffer i with
    | none => s
    | some b => (s.touch other).write b ((lib.append (s.packet b) (s.packet other)).getD (s.packet b))

def sort (s : MetadataStore ι M) (i : ι) : MetadataStore ι M :=
  if s.mLocked i then s
  else
    match s.mBuffer i with
    | none => s
    | some b => s.write b (lib.sort (s.packet b))

/-- `updateImpl`, with `inside` for data that lie in the object's own buffer. -/
def updateImpl (s : MetadataStore ι M) (i : ι) (tag : MetadataTag) (data : List UInt8) (inside : Bool)
    (alloc : Option Nat) : MetadataStore ι M :=
  if s.mLocked i then s
  else if (lib.tagType tag).isNone then s
  -- "Update attempted with data from the same metadata buffer!"
  else if inside then s
  else
    let resized := s.resizeIfNeeded lib i 1 (entryDataSize data.length) alloc
    if resized.2 then
      match resized.1.mBuffer i with
      | none => resized.1
      | some b =>
        let m := resized.1.packet b
        match lib.find m tag with
        | none => resized.1.write b (lib.add m tag data)
        | some (index, _) => resized.1.write b (lib.update m index data)
    else resized.1

/-- The overloads of `update`, which differ in the type that they expect of the tag; a string is
given with its NUL. -/
def update (s : MetadataStore ι M) (i : ι) (expectedType : TagType) (tag : MetadataTag)
    (data : List UInt8) (inside : Bool) (alloc : Option Nat) : MetadataStore ι M :=
  if s.mLocked i then s
  else if lib.tagType tag ≠ some expectedType then s
  else s.updateImpl lib i tag data inside alloc

def erase (s : MetadataStore ι M) (i : ι) (tag : MetadataTag) : MetadataStore ι M :=
  if s.mLocked i then s
  else
    match s.mBuffer i with
    | none => s
    | some b =>
      match lib.find (s.packet b) tag with
      | none => s.touch b
      | some (index, _) => s.write b (lib.delete (s.packet b) index)

end MetadataStore

/-- The calls, and what the code around the objects does with the buffers it holds itself. -/
inductive MetadataOp (ι M : Type*)
  | construct (i : ι) (entryCapacity dataCapacity : Nat) (alloc : Option Nat)
  | copy (i j : ι) (alloc : Option Nat)
  | assign (i : ι) (buffer : Nat) (alloc : Option Nat)
  | destroy (i : ι)
  | getAndLock (i : ι)
  | unlock (i : ι) (buffer : Option Nat)
  | release (i : ι)
  | clear (i : ι)
  | acquire (i : ι) (buffer : Nat)
  | acquireFrom (i j : ι)
  | append (i : ι) (other : Nat) (alloc : Option Nat)
  | sort (i : ι)
  | update (i : ι) (expectedType : TagType) (tag : MetadataTag) (data : List UInt8) (inside : Bool)
      (alloc : Option Nat)
  | erase (i : ι) (tag : MetadataTag)
  | swap (i j : ι)
  | callerAllocates (a : Nat) (m : M)
  | callerFrees (b : Nat)

namespace MetadataStore

variable {ι M : Type*}

def step [DecidableEq ι] (lib : PacketLibrary M) (s : MetadataStore ι M) :
    MetadataOp ι M → MetadataStore ι M
  | .construct i entryCapacity dataCapacity alloc => s.construct lib i entryCapacity dataCapacity alloc
  | .copy i j alloc => s.assign lib i (s.mBuffer j) alloc
  | .assign i buffer alloc => s.assign lib i (some buffer) alloc
  | .destroy i => s.destroy i
  | .getAndLock i => s.getAndLock i
  | .unlock i buffer => s.unlock i buffer
  | .release i => (s.release i).1
  | .clear i => s.clear i
  | .acquire i buffer => s.acquire i (some buffer)
  | .acquireFrom i j => s.acquireFrom i j
  | .append i other alloc => s.append lib i other alloc
  | .sort i => s.sort lib i
  | .update i expectedType tag data inside alloc => s.update lib i expectedType tag data inside alloc
  | .erase i tag => s.erase lib i tag
  | .swap i j => s.swap i j
  | .callerAllocates a m => s.allocate a m .caller
  | .callerFrees b => s.free b

end MetadataStore

end Universal7870.Camera
