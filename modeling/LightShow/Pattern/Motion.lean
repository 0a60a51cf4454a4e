import LightShow.Time
import LightShow.Exact
import LightShow.Strip

/-! Patterns in motion: how far a pattern has moved at a time, and what a trail looks like that
runs to the end of a strip and back. -/

namespace LightShow

namespace Motion

/-- Whole moves made until a time, at a number of moves each second. A rate below zero moves the
other way. -/
def moves (now : Time) (rate : Float32) : Int :=
  let exact := (UInt64.ofNat now.millis).toFloat32 * rate / 1000.0
  (Exact.ofSingle exact).floorWithin Int64.minValue.toInt Int64.maxValue.toInt

/-- The place reached after a number of moves around a ring of `length` places. -/
def place (moves : Int) (length : Nat) : Nat := (moves % (length : Int)).toNat

/-- Which pixel of the trail is seen at a pixel of the strip, while the head is at a place of its
way: `length - 1` places out, and as many back. -/
def age (length place pixel : Nat) : Nat :=
  if length - 1 ≤ place then
    let back := place + 1 - length
    let limit := length - back - 1
    if pixel < limit then length - pixel + back - 1 else pixel - limit
  else if pixel ≤ place then place - pixel
  else place + pixel

/-- The trail folded over a strip of `length` pixels; the head is its first pixel. -/
def bounce (trail : Strip) (length : Nat) (moves : Int) : Strip :=
  let pixels := trail.toArray
  let head := place moves (2 * (length - 1))
  (List.range length).map fun pixel => pixels.getD (age length head pixel) Color.black

theorem natCast_place (moves : Int) {length : Nat} (positive : 0 < length) :
    (place moves length : Int) = moves % length :=
  Int.toNat_of_nonneg (Int.emod_nonneg moves (by omega))

theorem place_lt (moves : Int) {length : Nat} (positive : 0 < length) :
    place moves length < length := by
  have whole := natCast_place moves positive
  have high := Int.emod_lt_of_pos moves (Int.ofNat_lt.mpr positive)
  omega

end Motion

end LightShow
