import Universal7870.Camera.MetadataOwnership

/-!
# Updates of a metadata object

`update` finds room for what it is given: the object's packet is moved to a larger buffer where the
entry does not fit, and the entry is found in it afterwards.
-/

namespace Universal7870.Camera

open Lib

namespace MetadataStore

variable {ι M : Type*} [DecidableEq ι] {lib : PacketLibrary M} {s : MetadataStore ι M} {i : ι}

/-- The packet that `updateImpl` leaves, once there is room for the entry. -/
def stored (lib : PacketLibrary M) (m : M) (tag : MetadataTag) (data : List UInt8) : M :=
  match lib.find m tag with
  | none => lib.add m tag data
  | some (index, _) => lib.update m index data

end MetadataStore

end Universal7870.Camera
