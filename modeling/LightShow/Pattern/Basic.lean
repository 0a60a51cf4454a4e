import LightShow.Curve.Basic
import LightShow.Sampling
import LightShow.Segment

/-! Pattern trees. A pattern says what a strip shows at each time; some draw pixels themselves,
the others combine what their children draw. A child that is missing draws nothing. Stretches of
time are whole milliseconds. -/

namespace LightShow

inductive Kind where
  | color
  | frame
  | rainbow
  | repeated
  | gradient
  | transition
  | cycle
  | loop
  | rotate
  | pingPong
  | chronometer
  | crop
  | scale
  | mixer
deriving DecidableEq

namespace Kind

def all : List Kind :=
  [.color, .frame, .rainbow, .repeated, .gradient, .transition, .cycle, .loop, .rotate, .pingPong,
    .chronometer, .crop, .scale, .mixer]

/-- The name in documents. -/
def name : Kind → String
  | .color => "Color"
  | .frame => "Frame"
  | .rainbow => "Rainbow"
  | .repeated => "Repeated"
  | .gradient => "Gradient"
  | .transition => "Transition"
  | .cycle => "Cycle"
  | .loop => "Loop"
  | .rotate => "Rotate"
  | .pingPong => "PingPong"
  | .chronometer => "Chronometer"
  | .crop => "Crop"
  | .scale => "Scale"
  | .mixer => "Mixer"

def ofName? (text : String) : Option Kind := all.find? (·.name = text)

theorem ofName?_name : ∀ kind : Kind, ofName? kind.name = some kind := by
  intro kind
  cases kind <;> rfl

end Kind

inductive Pattern where
  /-- One color everywhere. -/
  | color (ink : Color)
  /-- Fixed pixels from the start of the strip; what they do not cover is dark. -/
  | frame (pixels : Strip)
  /-- The visible spectrum along the strip. -/
  | rainbow
  /-- Fixed pixels, again and again. -/
  | repeated (base : Strip)
  /-- From the left pattern at the first pixel to the right one at the last. -/
  | gradient (left right : Option Pattern) (curve : Curve)
  /-- One pattern until `offset`, then a fade over `duration` into another one, for which time
  starts with the fade. -/
  | transition (before after : Option Pattern) (offset duration : UInt64) (curve : Curve)
  /-- One pattern after the other, each for the same time. -/
  | cycle (frames : List Pattern) (duration : UInt64)
  /-- One pattern after the other, each shown for a while and then faded into the next. -/
  | loop (patterns : List Pattern) (hold fade : UInt64) (curve : Curve)
  /-- A pattern that runs around the strip, by a number of pixels each second. -/
  | rotate (child : Option Pattern) (rate : Float32)
  /-- A trail that runs to the end of the strip and back. -/
  | pingPong (child : Option Pattern) (rate : Float32)
  /-- A clock face: seconds, minutes and hours on a background. -/
  | chronometer (child : Option Pattern)
  /-- A pattern on a part of the strip. -/
  | crop (child : Option Pattern) (segment : Segment)
  /-- A pattern drawn at another length, either a fixed one or, if that is zero, a multiple of
  the length of the strip. -/
  | scale (child : Option Pattern) (method : Sampling) (length : UInt64) (ratio : Float32)
  /-- The sum of some patterns, each with its weight. -/
  | mixer (patterns : List Pattern) (weights : List Float32)

namespace Pattern

def kind : Pattern → Kind
  | .color .. => .color
  | .frame .. => .frame
  | .rainbow => .rainbow
  | .repeated .. => .repeated
  | .gradient .. => .gradient
  | .transition .. => .transition
  | .cycle .. => .cycle
  | .loop .. => .loop
  | .rotate .. => .rotate
  | .pingPong .. => .pingPong
  | .chronometer .. => .chronometer
  | .crop .. => .crop
  | .scale .. => .scale
  | .mixer .. => .mixer

end Pattern

end LightShow
