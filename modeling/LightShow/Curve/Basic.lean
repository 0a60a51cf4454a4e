import LightShow.Curve.Bezier
import LightShow.Progress

/-! Easing curves. A curve maps how far a change has run to how much of it is seen, and leaves
the two ends where they are. -/

namespace LightShow

inductive Curve where
  | ease
  | easeIn
  | easeOut
  | easeInOut
  | linear
  | stepStart
  | stepMiddle
  | stepEnd
deriving DecidableEq

namespace Curve

/-- Every curve, from the smooth ones to the steps. -/
def all : List Curve :=
  [.ease, .easeIn, .easeOut, .easeInOut, .linear, .stepStart, .stepMiddle, .stepEnd]

/-- The curve used where none is named. -/
def usual : Curve := .easeOut

def name : Curve → String
  | .ease => "ease"
  | .easeIn => "ease-in"
  | .easeOut => "ease-out"
  | .easeInOut => "ease-in-out"
  | .linear => "linear"
  | .stepStart => "step-start"
  | .stepMiddle => "step-middle"
  | .stepEnd => "step-end"

/-- The names that are read, in the order in which they are listed to a reader. The linear curve
has two. -/
def names : List (String × Curve) :=
  [("ease", .ease), ("ease-in", .easeIn), ("ease-out", .easeOut), ("ease-in-out", .easeInOut),
    ("direct", .linear), ("linear", .linear), ("step-start", .stepStart),
    ("step-middle", .stepMiddle), ("step-end", .stepEnd)]

/-- The curve between the two ends of a change. -/
def between : Curve → Progress → Progress
  | .ease, progress => Bezier.height 0.25 0.1 0.25 1.0 progress
  | .easeIn, progress => Bezier.height 0.42 0.0 1.0 1.0 progress
  | .easeOut, progress => Bezier.height 0.0 0.0 0.58 1.0 progress
  | .easeInOut, progress => Bezier.height 0.42 0.0 0.58 1.0 progress
  | .linear, progress => progress
  | .stepStart, _ => 65535
  | .stepMiddle, progress => if progress < 32768 then 0 else 65535
  | .stepEnd, _ => 0

/-- The part of a change that is seen after the part `progress` of it has run. -/
def scale (curve : Curve) (progress : Progress) : Progress :=
  if progress = 0 then 0
  else if progress = 65535 then 65535
  else curve.between progress

/-- The same as a blend weight. -/
def weight (curve : Curve) (progress : Progress) : Level := (curve.scale progress).level

theorem scale_zero (curve : Curve) : curve.scale 0 = 0 := rfl

theorem scale_full (curve : Curve) : curve.scale 65535 = 65535 := rfl

theorem weight_zero (curve : Curve) : curve.weight 0 = 0 := by
  rw [weight, scale_zero]
  decide

theorem weight_full (curve : Curve) : curve.weight 65535 = 255 := by
  rw [weight, scale_full]
  decide

end Curve

end LightShow
