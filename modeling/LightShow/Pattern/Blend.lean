import LightShow.Curve.Basic
import LightShow.Strip

/-! Blends of two strips: along the strip for a gradient, and in time for a fade. -/

namespace LightShow

namespace Blend

/-- The weight of the right side at a pixel of a gradient. A single pixel is its middle. -/
def slope (curve : Curve) (length pixel : Nat) : Level :=
  if length = 1 then curve.weight 32767
  else curve.weight (UInt16.ofNat (pixel * 65535 / (length - 1)))

/-- Every pixel blended by the place where it stands. -/
def gradient (curve : Curve) (left right : Strip) : Strip :=
  let length := left.length
  (List.zip left right).mapIdx fun pixel (first, second) =>
    first.blend second (slope curve length pixel)

/-- The weight of the new side of a fade that has run for `elapsed` milliseconds, in exact
numbers. -/
def weight (curve : Curve) (elapsed duration : Nat) : Level :=
  curve.weight (Progress.through (.ofMillis elapsed) (.ofMillis duration))

end Blend

end LightShow
