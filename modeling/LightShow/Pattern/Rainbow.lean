import LightShow.Color.Spectrum
import LightShow.Logarithm
import LightShow.Exact
import LightShow.Strip

/-! The rainbow: the visible spectrum along a strip, from violet at the first pixel. Pixels are
spaced by the logarithm of their distance from the end. -/

namespace LightShow

namespace Rainbow

/-- The wavelength at a pixel of a strip, in nanometres. -/
def wavelength (length pixel : Nat) : Int :=
  let step := 1.0 / (UInt64.ofNat length).toFloat32
  let distance := (UInt64.ofNat (length - pixel - 1)).toFloat32 * step
  let position := Logarithm.onePlus distance / Logarithm.two
  let exact := Exact.ofSingle (380.0 + 401.0 * (1.0 - position))
  exact.floorWithin Int32.minValue.toInt Int32.maxValue.toInt

def pixels (length : Nat) : Strip :=
  (List.range length).map fun pixel => Spectrum.color (wavelength length pixel)

end Rainbow

end LightShow
