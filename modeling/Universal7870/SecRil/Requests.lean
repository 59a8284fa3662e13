import Universal7870.Lib.Records
import Universal7870.SecRil.Messages

/-!
# Requests on the socket

The functions of `secril-client.h` that send a request, and the bytes that `SendOemRequestHookRaw`
puts on the socket, while other threads call the same functions and the reader closes the socket.
`Parcel` is not part of the sources: its writes are a parameter like its reads.  A request without
`RIL_CALL_AUDIO_PATH_EXTRAVOLUME`, and with the audio paths of a modem that is not of the next
generation.
-/

namespace Universal7870.SecRil

open Lib

/-! ## 1. The functions of the library -/

def errConnect : Nat := 4

def reqOemHookRaw : Nat := 59

def oemFuncSound : UInt8 := 0x08

def oemFuncPdn : UInt8 := 0x53

/-- What a function passes to `SendOemRequestHookRaw`, whether it accepts its arguments, and the
handler it registers under the id before; that of `GetMute` is unregistered when it was called. -/
structure OemRequest where
  reqId : Nat
  data : List UInt8
  valid : Bool := true
  registers : Bool := true
  handler : Option Handler := none
  setsDelHandler : Bool := false
  deriving DecidableEq, Repr

def isValidSoundType (type : Nat) : Bool := type ≤ 3

def isValidAudioPath (path : Nat) : Bool :=
  path ≤ 14 ∨ (30 ≤ path ∧ path ≤ 42) ∨ (50 ≤ path ∧ path ≤ 53)

def isValidSoundClockCondition (condition : Nat) : Bool := condition ≤ 1

def isValidCallRecCondition (condition : Nat) : Bool := condition ≤ 1

def isValidMuteCondition (condition : Nat) : Bool := condition ≤ 5

def isValidTwoMicCtrl (device report : Nat) : Bool := device ≤ 1 ∧ report ≤ 1

def convertSoundType : Nat → UInt8
  | 0 => 0x01
  | 1 => 0x11
  | 2 => 0x31
  | 3 => 0x41
  | _ => 0x01

def convertAudioPath : Nat → UInt8
  | 0 => 0x01
  | 1 => 0x02
  | 2 => 0x06
  | 3 => 0x04
  | 4 => 0x05
  | 5 => 0x07
  | 6 => 0x08
  | 7 => 0x09
  | 8 => 0x0A
  | 9 => 0x0B
  | 10 => 0x0C
  | 11 => 0x0D
  | 12 => 0x17
  | 13 => 0x18
  | 14 => 0x0E
  | 30 => 0x1F
  | 31 => 0x20
  | 32 => 0x24
  | 33 => 0x22
  | 34 => 0x23
  | 35 => 0x25
  | 36 => 0x26
  | 37 => 0x09
  | 38 => 0x0A
  | 39 => 0x27
  | 40 => 0x28
  | 41 => 0x29
  | 42 => 0x2A
  | 50 => 0x32
  | 51 => 0x33
  | 52 => 0x34
  | 53 => 0x35
  | _ => 0x01

def setCallVolume (type : Nat) (volLevel : Int) : OemRequest where
  reqId := 101
  data := [oemFuncSound, 0x03, 0x00, 0x06, convertSoundType type, UInt8.ofInt volLevel]
  valid := isValidSoundType type

def setCallAudioPath (path : Nat) : OemRequest where
  reqId := 102
  data := [oemFuncSound, 0x05, 0x00, 0x06, convertAudioPath path, 0]
  valid := isValidAudioPath path

def setCallClockSync (condition : Nat) : OemRequest where
  reqId := 103
  data := [oemFuncSound, 0x0A, 0x00, 0x05, UInt8.ofNat condition]
  valid := isValidSoundClockCondition condition

def setCallRecord (condition : Nat) : OemRequest where
  reqId := 104
  data := [oemFuncSound, 0x09, 0x00, 0x05, UInt8.ofNat condition]
  valid := isValidCallRecCondition condition

def setMute (condition : Nat) : OemRequest where
  reqId := 105
  data := [oemFuncSound, 0x0B, 0x00, 0x05, UInt8.ofNat condition]
  valid := isValidMuteCondition condition

def getMute (handler : Option Handler) : OemRequest where
  reqId := 106
  data := [oemFuncSound, 0x0C, 0x00, 0x04]
  handler := handler
  setsDelHandler := true

def setVideoCallClockSync (condition : Nat) : OemRequest where
  reqId := 107
  data := [oemFuncSound, 0x07, 0x00, 0x05, UInt8.ofNat condition]
  valid := isValidSoundClockCondition condition

def setTwoMicControl (device report : Nat) : OemRequest where
  reqId := 108
  data := [oemFuncSound, 0x0D, 0x00, 0x06, UInt8.ofNat device, UInt8.ofNat report]
  valid := isValidTwoMicCtrl device report

def setDhaSolution (mode select : Nat) (parameter : Vector UInt8 24) : OemRequest where
  reqId := 109
  data := [oemFuncSound, 0x0E, 0x00, 0x1E, UInt8.ofNat mode, UInt8.ofNat select] ++ parameter.toList

def setLoopbackTest (mode path : Nat) : OemRequest where
  reqId := 110
  data := [oemFuncSound, 0x08, 0x00, 0x06, UInt8.ofNat mode, convertAudioPath path]

def setAudioMode (mode select : UInt32) : OemRequest where
  reqId := 112
  data := [oemFuncSound, 0x10, 0x00, 0x06, if mode = 1 then 1 else 0, select.toUInt8]

def setSoundClockMode (mode : UInt32) : OemRequest where
  reqId := 113
  data := [oemFuncSound, 0x11, 0x00, 0x05, mode.toUInt8]
  valid := mode ≤ 6

/-- The handler that is passed to `SetupPublicSafetyPdn` is not registered. -/
def setupPublicSafetyPdn (value : UInt8) : OemRequest where
  reqId := 114
  data := [oemFuncPdn, 0x02, 0x00, 0x05, value]

def invokeOemRequestHookRaw (data : List UInt8) : OemRequest where
  reqId := reqOemHookRaw
  data := data
  registers := false

/-- A call of one of these functions. -/
inductive ApiCall
  | setCallVolume (type : Nat) (volLevel : Int)
  | setCallAudioPath (path : Nat)
  | setCallClockSync (condition : Nat)
  | setCallRecord (condition : Nat)
  | setMute (condition : Nat)
  | getMute (handler : Option Handler)
  | setVideoCallClockSync (condition : Nat)
  | setTwoMicControl (device report : Nat)
  | setDhaSolution (mode select : Nat) (parameter : Vector UInt8 24)
  | setLoopbackTest (mode path : Nat)
  | setAudioMode (mode select : UInt32)
  | setSoundClockMode (mode : UInt32)
  | setupPublicSafetyPdn (value : UInt8)
  | invokeOemRequestHookRaw (data : List UInt8)
  deriving DecidableEq, Repr

def ApiCall.request : ApiCall → OemRequest
  | .setCallVolume type volLevel => SecRil.setCallVolume type volLevel
  | .setCallAudioPath path => SecRil.setCallAudioPath path
  | .setCallClockSync condition => SecRil.setCallClockSync condition
  | .setCallRecord condition => SecRil.setCallRecord condition
  | .setMute condition => SecRil.setMute condition
  | .getMute handler => SecRil.getMute handler
  | .setVideoCallClockSync condition => SecRil.setVideoCallClockSync condition
  | .setTwoMicControl device report => SecRil.setTwoMicControl device report
  | .setDhaSolution mode select parameter => SecRil.setDhaSolution mode select parameter
  | .setLoopbackTest mode path => SecRil.setLoopbackTest mode path
  | .setAudioMode mode select => SecRil.setAudioMode mode select
  | .setSoundClockMode mode => SecRil.setSoundClockMode mode
  | .setupPublicSafetyPdn value => SecRil.setupPublicSafetyPdn value
  | .invokeOemRequestHookRaw data => SecRil.invokeOemRequestHookRaw data

/-- `Parcel::writeInt32` and `Parcel::write` at the end of a parcel. -/
structure ParcelWrites where
  writeInt32 : List UInt8 → Int32 → List UInt8
  write : List UInt8 → List UInt8 → List UInt8

/-- What is written can be read where it was written, and data is padded to a multiple of four. -/
structure ParcelWrites.Documented (writes : ParcelWrites) (reads : ParcelReads) : Prop where
  writeInt32_append : ∀ parcel v, ∃ bytes, bytes.length = 4 ∧
    writes.writeInt32 parcel v = parcel ++ bytes
  readInt32_writeInt32 : ∀ parcel v rest,
    reads.readInt32 (writes.writeInt32 parcel v ++ rest) parcel.length = some v
  write_append : ∀ parcel data, ∃ pad, pad.length < 4 ∧ writes.write parcel data = parcel ++ data ++ pad

/-- The parcel of `SendOemRequestHookRaw`. -/
def requestBody (writes : ParcelWrites) (token : Token) (data : List UInt8) : List UInt8 :=
  let p := writes.writeInt32 [] (Int32.ofNat reqOemHookRaw)
  let p := writes.writeInt32 p (Int32.ofBitVec token)
  let p := writes.writeInt32 p (Int32.ofNat data.length)
  writes.write p data

section

variable {writes : ParcelWrites} {reads : ParcelReads}

theorem length_requestBody (h : writes.Documented reads) (token : Token) (data : List UInt8) :
    (requestBody writes token data).length < 16 + data.length := by
  unfold requestBody
  obtain ⟨b₁, h₁, hp₁⟩ := h.writeInt32_append [] (Int32.ofNat reqOemHookRaw)
  obtain ⟨b₂, h₂, hp₂⟩ := h.writeInt32_append ([] ++ b₁) (Int32.ofBitVec token)
  obtain ⟨b₃, h₃, hp₃⟩ := h.writeInt32_append ([] ++ b₁ ++ b₂) (Int32.ofNat data.length)
  obtain ⟨pad, hpad, hp₄⟩ := h.write_append ([] ++ b₁ ++ b₂ ++ b₃) data
  dsimp only
  rw [hp₁, hp₂, hp₃, hp₄]
  simp only [List.length_append, List.length_nil]
  omega

end

end Universal7870.SecRil
