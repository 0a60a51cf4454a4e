import LightShow.Settings
import LightShow.Show.Mailbox

/-! The player of a live show. It holds the pattern being shown, when that pattern's clock
started, and the strip. A new pattern is faded in by wrapping the one shown; when the fade is
over the wrapper is dropped and the clock moves on to the start of the new pattern. -/

namespace LightShow

structure Player where
  mailbox : Mailbox
  settings : PlayerSettings
  shown : Option Live
  /-- The millisecond at which the clock of the shown pattern reads zero. -/
  origin : Nat
  strip : Strip

namespace Player

def start (mailbox : Mailbox) (settings : PlayerSettings) : Player :=
  ⟨mailbox, settings, none, 0, Strip.dark settings.pixels.toNat⟩

/-- The time on the clock of the shown pattern. -/
def showTime (player : Player) (now : Time) : Time := now.since player.origin

/-- Shows a pattern from now on, with its clock at zero. -/
def cut (player : Player) (pattern : Live) (now : Time) : Player :=
  { player with shown := some pattern, origin := now.millis }

/-- Fades from the shown pattern, if there is one, to another. -/
def fade (player : Player) (pattern : Live) (now : Time) : Player :=
  match player.shown with
  | none => player.cut pattern now
  | some current =>
      let offset := UInt64.ofNat (player.showTime now).millis
      let duration := UInt64.ofNat player.settings.fade.millis
      { player with shown := some (current.fade pattern offset duration player.settings.curve) }

/-- Shows nothing more; the strip keeps what it shows. -/
def clear (player : Player) : Player := { player with shown := none }

def apply (player : Player) (now : Time) : Command → Player
  | .fade pattern => player.fade pattern now
  | .cut pattern => player.cut pattern now
  | .clear => player.clear

/-- Carries out every command that waits, in order. -/
def drain (player : Player) (now : Time) : Player :=
  let waiting := player.mailbox.queue
  waiting.foldl (fun player command => player.apply now command)
    { player with mailbox := { player.mailbox with queue := [] } }

/-- Drops the wrapper of a fade that is over. -/
def settle (player : Player) (now : Time) : Player :=
  match player.shown with
  | none => player
  | some live =>
      match live.fadeTarget? (player.showTime now) with
      | none => player
      | some (offset, target) =>
          { player with shown := target, origin := player.origin + offset.toNat }

/-- Draws what is shown now. -/
def draw (player : Player) (now : Time) : Player :=
  match player.shown with
  | none => player
  | some live =>
      let (strip, live) := live.render (player.showTime now) player.strip
      { player with shown := some live, strip := strip }

/-- One frame of the show; the strip of the result is what is to be seen. -/
def render (player : Player) (now : Time) : Player :=
  ((player.drain now).settle now).draw now

/-- A fade is shown. -/
def isFading (player : Player) : Bool :=
  match player.shown with
  | some live =>
      match live.pattern with
      | .transition .. => true
      | _ => false
  | none => false

end Player

end LightShow
