import LightShow.Failure
import LightShow.Settings
import LightShow.Show.Live

/-! Previews: a pattern sampled at a fixed rate, as a picture that repeats forever, one pixel
high and as wide as the strip. -/

namespace LightShow

structure Animation where
  width : Nat
  /-- Hundredths of a second from one frame to the next. -/
  delay : Nat
  frames : List Strip
deriving DecidableEq

namespace Animation

/-- The widest picture. -/
def mostWidth : Nat := 65535

/-- The time at which a frame is sampled. -/
def sampleTime (rate index : Nat) : Time := .ofMillis (index * 1000 / rate)

/-- Draws frame after frame, each on a dark strip. -/
def sample (width rate : Nat) : (count index : Nat) → Live → List Strip
  | 0, _, _ => []
  | count + 1, index, live =>
      let (strip, live) := live.render (sampleTime rate index) (Strip.dark width)
      strip :: sample width rate count (index + 1) live

/-- The preview of a pattern. A width that no picture can have matters only if there are
frames. -/
def ofPattern (settings : PreviewSettings) (pattern : Pattern) : Except Failure Animation :=
  let width := settings.pixels.toNat
  let rate := settings.rate.toNat
  let count := settings.frameCount.toNat
  if rate = 0 then .error (.refused .noRate)
  else if UInt32.size ≤ width then .error (.refused .tooWide)
  else if mostWidth < width && 0 < count then .error .pictureSize
  else .ok ⟨width, 1000 / rate / 10, sample width rate count 0 (.start pattern)⟩

end Animation

end LightShow
