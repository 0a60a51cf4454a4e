import LightShow.Time
import LightShow.Strip

/-! A clock face on a strip. A palette of four pixels gives the background and the colors of the
hands for seconds, minutes and hours. The hand for hours moves one pixel each hour. -/

namespace LightShow

namespace Clock

/-- The number of pixels in a palette. -/
def paletteSize : Nat := 4

/-- The place of a hand that shows `value` out of `whole`, rounded to the nearest pixel. It may
be one past the end. -/
def hand (length value whole : Nat) : Nat := (length * (value % whole) + whole / 2) / whole

/-- The strip with one pixel painted, if it has such a pixel. -/
def paint (strip : Strip) (place : Nat) (color : Color) : Strip := strip.set place color

/-- The face at a time. Seconds are painted over minutes, and minutes over hours. -/
def face (palette : Strip) (length : Nat) (now : Time) : Strip :=
  let seconds := now.millis / 1000
  let minutes := seconds / 60
  let hours := minutes / 60
  let ink := fun index => palette.getD index Color.black
  let empty := List.replicate length (ink 0)
  let hour := paint empty (hand length hours length) (ink 3)
  let minute := paint hour (hand length minutes 60) (ink 2)
  paint minute (hand length seconds 60) (ink 1)

end Clock

end LightShow
