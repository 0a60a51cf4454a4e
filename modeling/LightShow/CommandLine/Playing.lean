import LightShow.Show.Pacer

/-! Playing a show on a terminal for a while: what is written for each frame, and when the show
is over. -/

namespace LightShow

structure Playing where
  pacer : Pacer
  /-- When the show is over. -/
  ending : Time

namespace Playing

/-- A row of blocks in the colors of the pixels, over the row before. -/
def rowText (strip : Strip) : String :=
  let block := fun (color : Color) =>
    s!"\x1b[38;2;{color.red.toNat};{color.green.toNat};{color.blue.toNat}m█"
  "\r" ++ String.join (strip.map block) ++ "\x1b[0m"

/-- What is written behind the last row. -/
def closing : String := "\n"

/-- The exit code of a show that breaks off. -/
def brokenOff : UInt32 := 101

/-- A show of one pattern, which is either shown at once or faded in from black. -/
def start (pattern : Pattern) (pixels rate seconds : Nat) (fade : Bool) : Playing :=
  let settings := { PlayerSettings.usual with pixels := UInt64.ofNat pixels }
  let command := if fade then Command.fade (.start pattern) else Command.cut (.start pattern)
  let player := Player.start ⟨4, [command]⟩ settings
  let player := if fade then player.cut (.start (.color .black)) (.ofMillis 0) else player
  ⟨.start player (.ofMillis (1000 / max rate 1)), .ofSeconds (.ofNat seconds)⟩

/-- The next frame, unless the show is over: its row, and how long to wait for the show after it,
unless the show breaks off there. -/
def next? (playing : Playing) (now : Time) : Option (String × Option (Time × Playing)) :=
  if playing.ending.micros ≤ now.micros then none
  else
    let (pacer, pause?) := playing.pacer.tick now
    let later? := pause?.map fun pause => (pause.sleep, { playing with pacer := pacer })
    some (rowText pacer.player.strip, later?)

end Playing

end LightShow
