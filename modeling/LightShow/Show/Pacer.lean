import LightShow.Show.Player

/-! Pacing the frames of a show. Deadlines follow each other at a fixed distance; after a stall of
more than two frames the backlog is skipped. Lateness and sleep are reckoned in whole
milliseconds. A show breaks off where a deadline would lie behind the last time of its clock. -/

namespace LightShow

structure Pacer where
  player : Player
  /-- When the next frame is due. -/
  deadline : Time
  frameTime : Time

/-- When the next frame is due, and how long to wait for it. -/
structure Pause where
  deadline : Time
  sleep : Time
deriving DecidableEq

namespace Pacer

/-- The time of one frame at sixty frames a second, in whole milliseconds. -/
def usualFrameTime : Time := .ofMillis 16

def start (player : Player) (frameTime : Time) : Pacer := ⟨player, .ofMillis 0, frameTime⟩

/-- The deadline from which the next one is counted. -/
def resume (pacer : Pacer) (now : Time) : Time :=
  if pacer.deadline.millis + pacer.frameTime.millis * 2 < now.millis then now else pacer.deadline

/-- Plays one frame. The strip of the new player is the frame that is to be written out; it is
played also where no clock reaches the next deadline, so that there is no pause. -/
def tick (pacer : Pacer) (now : Time) : Pacer × Option Pause :=
  let resumed := pacer.resume now
  let played := { pacer with player := pacer.player.render now, deadline := resumed }
  match resumed.add? pacer.frameTime with
  | none => (played, none)
  | some deadline =>
      let sleep := Time.ofMillis (deadline.millis - now.millis)
      ({ played with deadline := deadline }, some ⟨deadline, sleep⟩)

end Pacer

/-- A pacer, and the lights to which its frames are written. -/
structure Broadcast (Lights : Type) where
  pacer : Pacer
  lights : Lights

/-- Plays one frame and writes it out, whether or not there is a pause. -/
def Broadcast.tick {Lights : Type} (write : Lights → Strip → Lights) (broadcast : Broadcast Lights)
    (now : Time) : Broadcast Lights × Option Pause :=
  let (pacer, pause) := broadcast.pacer.tick now
  (⟨pacer, write broadcast.lights pacer.player.strip⟩, pause)

end LightShow
