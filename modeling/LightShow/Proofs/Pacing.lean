import LightShow.Proofs.Timeline
import LightShow.Show.Pacer

/-! Frames over a whole show. Deadlines count microseconds, while lateness and sleep are reckoned in
whole milliseconds; what is rounded off in one tick is not carried over to the next, however many
ticks there are and whenever they come. A tick has a pause if the clock reaches the deadline after
it, and plays its frame in any case. -/

namespace LightShow

/-- What is done with a player, and the time of the tick that comes after it. -/
structure Beat where
  acts : List Act
  now : Time

/-- A tick as it happened: when it was due, when it came, and what it returned. -/
structure Tick where
  due : Time
  now : Time
  pause : Option Pause

/-- The time from which the deadline after a tick is counted: when the tick was due, or when it
came, if that was more than two frames later. -/
def Tick.base (tick : Tick) (frameTime : Time) : Time :=
  if tick.now.millis ≤ tick.due.millis + 2 * frameTime.millis then tick.due else tick.now

/-- The deadline that a tick sets, if it sets one. -/
def Tick.next? (tick : Tick) : Option Time := tick.pause.map (·.deadline)

/-- The frames that a player shows if it is drawn once after the acts of each beat. -/
def Player.frames (player : Player) : List Beat → List Strip
  | [] => []
  | beat :: rest =>
      let next := (player.run beat.acts).render beat.now
      next.strip :: next.frames rest

namespace Pacer

variable (pacer : Pacer) (now : Time)

section Pause

variable {pacer : Pacer} {now : Time} {pause : Pause} (told : pause ∈ (pacer.tick now).2)
include told

end Pause

example :
    let player : Player := .start (.empty 1) ⟨1, .ofMillis 500, .linear⟩
    let pacer : Pacer := .start player (.ofMillis 16)
    (pacer.tick (.ofMillis 32)).2.map (·.deadline) = some (.ofMillis 16) ∧
    (pacer.tick (.ofMillis 33)).2.map (·.deadline) = some (.ofMillis 49) := by
  decide

end Pacer

namespace Broadcast

variable {Lights : Type} (write : Lights → Strip → Lights)

/-- A broadcast whose player has carried out some acts. -/
def after (broadcast : Broadcast Lights) (acts : List Act) : Broadcast Lights :=
  { broadcast with
    pacer := { broadcast.pacer with player := broadcast.pacer.player.run acts } }

/-- A show, and its ticks. It goes on after a tick without a pause too, as that tick left it. -/
def run (broadcast : Broadcast Lights) : List Beat → Broadcast Lights × List Tick
  | [] => (broadcast, [])
  | beat :: rest =>
      let next := (broadcast.after beat.acts).tick write beat.now
      let later := next.1.run rest
      (later.1, ⟨broadcast.pacer.deadline, beat.now, next.2⟩ :: later.2)

end Broadcast

end LightShow
