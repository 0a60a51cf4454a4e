/-! Cubic bezier curves through the corners `(0, 0)` and `(1, 1)` of the unit square. Each axis is
a cubic polynomial of a parameter; the height over a given place is found by solving the first
axis for the parameter and reading the second. -/

namespace LightShow

namespace Bezier

/-- How close a solution has to come. -/
def tolerance : Float := 1e-7

/-- One axis, `((cubic * t + square) * t + linear) * t`. -/
structure Axis where
  cubic : Float
  square : Float
  linear : Float

namespace Axis

/-- The axis with the control values `first` and `second`. -/
def ofControls (first second : Float) : Axis :=
  let linear := 3.0 * first
  let square := 3.0 * (second - first) - linear
  ⟨1.0 - linear - square, square, linear⟩

def value (axis : Axis) (parameter : Float) : Float :=
  ((axis.cubic * parameter + axis.square) * parameter + axis.linear) * parameter

def slope (axis : Axis) (parameter : Float) : Float :=
  (3.0 * axis.cubic * parameter + 2.0 * axis.square) * parameter + axis.linear

/-- Steps along the tangent. Gives up on a flat tangent, or when the steps are used up. -/
def newton (axis : Axis) (goal : Float) : (steps : Nat) → (parameter : Float) → Option Float
  | 0, _ => none
  | steps + 1, parameter =>
      let error := axis.value parameter - goal
      if error.abs < tolerance then some parameter
      else
        let slope := axis.slope parameter
        if slope.abs < tolerance then none
        else newton axis goal steps (parameter - error / slope)

/-- Halves the interval from `low` to `high` until the parameter is close enough, or the steps
are used up. -/
def bisect (axis : Axis) (goal : Float) : (steps : Nat) → (low high parameter : Float) → Float
  | 0, _, _, parameter => parameter
  | steps + 1, low, high, parameter =>
      let value := axis.value parameter
      if (value - goal).abs < tolerance then parameter
      else if value < goal then
        bisect axis goal steps parameter high ((parameter + high) / 2.0)
      else
        bisect axis goal steps low parameter ((low + parameter) / 2.0)

/-- A parameter at which the axis reaches `goal`: eight steps along the tangent, and if they do
not arrive, 32 halvings. Both start at `goal` itself. -/
def solve (axis : Axis) (goal : Float) : Float :=
  match axis.newton goal 8 goal with
  | some parameter => parameter
  | none => axis.bisect goal 32 0.0 1.0 goal

end Axis

/-- The height of the curve with the control points `(x₁, y₁)` and `(x₂, y₂)` over a place, both
as 16-bit fractions. -/
def height (x₁ y₁ x₂ y₂ : Float) (place : UInt16) : UInt16 :=
  let parameter := (Axis.ofControls x₁ x₂).solve (place.toFloat / 65535.0)
  let height := (Axis.ofControls y₁ y₂).value parameter
  let bounded := if height < 0.0 then 0.0 else if 1.0 < height then 1.0 else height
  (bounded * 65535.0 + 0.5).toUInt16

end Bezier

end LightShow
