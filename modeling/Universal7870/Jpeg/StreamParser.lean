import Universal7870.Lib.Checked

/-!
# The JPEG stream parser

`CJpegStreamParser` of `libhwjpeg-exynos.cpp`: the walk over the marker segments in front of the
frame header, and the checks on the baseline frame header.  Offsets are relative to the stream
base, and every byte the parser looks at goes through `readByte`.
-/

namespace Universal7870.Jpeg

open Lib

structure CJpegStreamParser where
  nComponents : UInt8 := 0
  nWidth : Nat := 0
  nHeight : Nat := 0
  iHorizontalFactor : UInt8 := 1
  iVerticalFactor : UInt8 := 1
  deriving DecidableEq, Repr

namespace CJpegStreamParser

/-- `GetLength`: the big-endian number in the two bytes at `addr`. -/
def getLength (stream : List UInt8) (addr : Nat) : Checked Nat := do
  let high ← readByte stream addr
  let low ← readByte stream (addr + 1)
  return high.toNat * 0x100 + low.toNat

def supportedSize (n : Nat) : Prop := 8 ≤ n ∧ n ≤ 16383

instance (n : Nat) : Decidable (supportedSize n) := inferInstanceAs (Decidable (_ ∧ _))

def lumaSampling : List UInt8 := [0x11, 0x21, 0x12, 0x22]

/-- `ParseFrame`, with `addr` at the length field of the segment.  A rejected field is already
stored in the parser where the source stores it before the check. -/
def parseFrame (stream : List UInt8) (p : CJpegStreamParser) (addr : Nat) :
    Checked (Bool × CJpegStreamParser) := do
  let len ← getLength stream addr
  if len < 17 then return (false, p)
  let bits ← readByte stream (addr + 2)
  if bits ≠ 8 then return (false, p)
  let height ← getLength stream (addr + 3)
  let p := { p with nHeight := height }
  if ¬supportedSize height then return (false, p)
  let width ← getLength stream (addr + 5)
  let p := { p with nWidth := width }
  if ¬supportedSize width then return (false, p)
  let components ← readByte stream (addr + 7)
  let p := { p with nComponents := components }
  if components ≠ 3 then return (false, p)
  -- the component identifier at addr + 8 is skipped
  let sampling ← readByte stream (addr + 9)
  if sampling ∉ lumaSampling then return (false, p)
  return (true, { p with iHorizontalFactor := sampling >>> 4, iVerticalFactor := sampling &&& 0xF })

/-- SOFn; the code 0xC4 in the middle of them is DHT. -/
def isSOF (marker : UInt8) : Prop := marker ≠ 0xC4 ∧ marker &&& 0xF0 = 0xC0

instance (marker : UInt8) : Decidable (isSOF marker) := inferInstanceAs (Decidable (_ ∧ _))

/-- The loop of `Parse`.  `filelen` is the source's own count of what is left: it is reduced by the
segment lengths, and not by the two bytes of each marker. -/
def parseLoop (stream : List UInt8) (p : CJpegStreamParser) (addr filelen : Nat) :
    Checked (Bool × CJpegStreamParser) :=
  if filelen < 2 then .ok (false, p)
  else do
    let first ← readByte stream addr
    if first ≠ 0xFF then return (false, p)
    let marker ← readByte stream (addr + 1)
    if isSOF marker then
      if marker ≠ 0xC0 then return (false, p)
      let len ← getLength stream (addr + 2)
      if filelen < len then return (false, p)
      parseFrame stream p (addr + 2)
    else if marker = 0xD9 ∨ marker = 0xCC ∨ marker = 0xDC then return (false, p)
    else
      let len ← getLength stream (addr + 2)
      if filelen < len ∨ len = 0 then return (false, p)
      else parseLoop stream p (addr + 2 + len) (filelen - len)
termination_by filelen
decreasing_by omega

/-- `Parse`.  A stream that does not begin with SOI is rejected, and the message about it names
the first two bytes whatever the length. -/
def parse (stream : List UInt8) : Checked (Bool × CJpegStreamParser) := do
  let soi ← if stream.length < 2 then pure false else do
    let first ← readByte stream 0
    if first ≠ 0xFF then pure false
    else
      let second ← readByte stream 1
      pure (second == 0xD8)
  if soi then parseLoop stream {} 2 (stream.length - 2)
  else
    let _ ← readByte stream 0
    let _ ← readByte stream 1
    return (false, {})

end CJpegStreamParser

end Universal7870.Jpeg
