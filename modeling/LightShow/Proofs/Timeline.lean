import LightShow.Proofs.Picture
import LightShow.Show.Player

/-! The timeline of a live show: what was cut to, and what was faded in after it, each with the
millisecond at which it came. A script is a show as it is meant, with a timeline in place of the
tree, the clock and the strip of a player. -/

namespace LightShow

inductive Timeline where
  | cut (pattern : Pattern) (start : Nat)
  | fade (earlier : Timeline) (pattern : Pattern) (start : Nat)

namespace Timeline

/-- What is to be seen at a millisecond. Every pattern runs on a clock that starts with it. -/
def frame (settings : PlayerSettings) : Timeline → (millis : Nat) → Strip
  | .cut pattern start, millis =>
      pattern.picture settings.pixels.toNat (.ofMillis (millis - start))
  | .fade earlier pattern start, millis =>
      let next := pattern.picture settings.pixels.toNat (.ofMillis (millis - start))
      if millis ≤ start then earlier.frame settings millis
      else if start + settings.fade.millis ≤ millis then next
      else
        (earlier.frame settings millis).mix next
          (settings.curve.weight (.through (.ofMillis (millis - start)) settings.fade))

/-- The timeline after a command that is carried out at a millisecond. The first pattern that
is faded in comes as a cut. -/
def follow (millis : Nat) : Option Timeline → Command → Option Timeline
  | some earlier, .fade live => some (.fade earlier live.pattern millis)
  | none, .fade live => some (.cut live.pattern millis)
  | _, .cut live => some (.cut live.pattern millis)
  | _, .clear => none

end Timeline

/-- The pattern that comes with a command. -/
def Command.live? : Command → Option Live
  | .fade live => some live
  | .cut live => some live
  | .clear => none

/-- What may be done with a player. -/
inductive Act where
  | fade (live : Live) (now : Time)
  | cut (live : Live) (now : Time)
  | clear
  | send (command : Command)
  | drain (now : Time)
  | render (now : Time)

namespace Act

def time? : Act → Option Time
  | .fade _ now => some now
  | .cut _ now => some now
  | .drain now => some now
  | .render now => some now
  | _ => none

/-- The pattern that comes with an act. -/
def live? : Act → Option Live
  | .fade live _ => some live
  | .cut live _ => some live
  | .send command => command.live?
  | _ => none

/-- The times of some acts never go back. -/
def InOrder (acts : List Act) : Prop :=
  acts.Pairwise fun earlier later =>
    ∀ before ∈ earlier.time?, ∀ after ∈ later.time?, before.micros ≤ after.micros

instance (acts : List Act) : Decidable (InOrder acts) :=
  inferInstanceAs (Decidable (acts.Pairwise _))

/-- The millisecond that a clock shows after an act. -/
def clock (act : Act) (reached : Nat) : Nat :=
  match act.time? with
  | none => reached
  | some now => now.millis

/-- What every act keeps up to its own time is kept by a run, of whatever is run beside a meaning
of it, until the last of some acts in order and on to any millisecond that is not before it. -/
theorem keeps_run {State Meaning : Type} {step : State → Act → State}
    {follow : Meaning → Act → Meaning} (Keeps : Nat → State → Meaning → Prop) {acts : List Act}
    (mono : ∀ {clock state meaning}, Keeps clock state meaning → ∀ {later}, clock ≤ later →
      Keeps later state meaning)
    (perform : ∀ act ∈ acts, ∀ {clock state meaning}, Keeps clock state meaning →
      (∀ now ∈ act.time?, clock ≤ now.millis) →
      Keeps (act.clock clock) (step state act) (follow meaning act))
    (ordered : InOrder acts) {clock : Nat} {state : State} {meaning : Meaning}
    (keeps : Keeps clock state meaning)
    (reached : ∀ act ∈ acts, ∀ now ∈ act.time?, clock ≤ now.millis) {last : Nat}
    (order : clock ≤ last) (before : ∀ act ∈ acts, ∀ now ∈ act.time?, now.millis ≤ last) :
    Keeps last (acts.foldl step state) (acts.foldl follow meaning) := by
  -- Every act moves `clock` on to its own time, and no later act comes before that.
  induction acts generalizing clock state meaning with
  | nil => exact mono keeps order
  | cons act rest ih =>
      obtain ⟨first, ordered⟩ := List.pairwise_cons.mp ordered
      obtain ⟨performed, others⟩ := List.forall_mem_cons.mp perform
      obtain ⟨started, reached⟩ := List.forall_mem_cons.mp reached
      obtain ⟨ended, before⟩ := List.forall_mem_cons.mp before
      refine ih others ordered (performed keeps started) ?_ ?_ before
      · intro other present now timed
        unfold Act.clock
        split
        · exact reached other present now timed
        · next start begun =>
            exact Nat.div_le_div_right (first other present start begun now timed)
      · unfold Act.clock
        split
        · exact order
        · next start begun => exact ended start begun

end Act

/-- A mailbox after a command was sent to it, whether it was taken or not. -/
def Mailbox.offer (mailbox : Mailbox) (command : Command) : Mailbox :=
  match mailbox.send command with
  | .ok sent => sent
  | .error _ => mailbox

theorem Mailbox.mem_offer {mailbox : Mailbox} {command other : Command}
    (present : other ∈ (mailbox.offer command).queue) :
    other ∈ mailbox.queue ∨ other = command := by
  unfold Mailbox.offer at present
  cases sent : mailbox.send command with
  | error refused =>
      rw [sent] at present
      exact .inl present
  | ok filled =>
      rw [sent] at present
      rw [(Mailbox.queue_send sent).1] at present
      exact (List.mem_append.mp present).imp_right List.mem_singleton.mp

namespace Player

def perform (player : Player) : Act → Player
  | .fade live now => player.fade live now
  | .cut live now => player.cut live now
  | .clear => player.clear
  | .send command => { player with mailbox := player.mailbox.offer command }
  | .drain now => player.drain now
  | .render now => player.render now

def run (player : Player) (acts : List Act) : Player := acts.foldl perform player

end Player

/-- A show as it is meant: the commands that wait, and the timeline of those carried out. -/
structure Script where
  mailbox : Mailbox
  shown : Option Timeline

namespace Script

def start (mailbox : Mailbox) : Script := ⟨mailbox, none⟩

def drain (script : Script) (now : Time) : Script :=
  ⟨{ script.mailbox with queue := [] },
    script.mailbox.queue.foldl (Timeline.follow now.millis) script.shown⟩

def perform (script : Script) : Act → Script
  | .fade live now => { script with shown := Timeline.follow now.millis script.shown (.fade live) }
  | .cut live now => { script with shown := Timeline.follow now.millis script.shown (.cut live) }
  | .clear => { script with shown := none }
  | .send command => { script with mailbox := script.mailbox.offer command }
  | .drain now => script.drain now
  | .render now => script.drain now

def run (script : Script) (acts : List Act) : Script := acts.foldl perform script

end Script

/-- A pattern fit to be shown: it draws every pixel, and is no fade itself. -/
def Live.Suits (length : Nat) (live : Live) : Prop :=
  live.pattern.FullyDraws length ∧ live.pattern.kind ≠ .transition

instance (length : Nat) (live : Live) : Decidable (live.Suits length) :=
  inferInstanceAs (Decidable (_ ∧ _))

end LightShow
