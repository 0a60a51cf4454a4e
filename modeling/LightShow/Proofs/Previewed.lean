import LightShow.Preview.Animation
import LightShow.Proofs.Dropped

/-! Previews beside live shows. A preview draws its frames at a fixed rate, each on a dark strip. A
player draws over what it showed before, and drops the fades at the root of its tree as they end,
moving its clock. Of a tree that draws every pixel both show the same. -/

namespace LightShow

namespace Time

/-- The time some whole milliseconds after another. -/
def later (time : Time) (count : Nat) : Time := ⟨time.micros + count * 1000⟩

end Time

namespace Pattern

/-- No fade without duration is to be found at the root of a pattern, at the root of what it fades
to, and so on: a player that holds the pattern never comes to hold such a fade. -/
inductive Lasting : Pattern → Prop
  | single {pattern : Pattern} (single : pattern.kind ≠ .transition) : Lasting pattern
  | fade {before after : Option Pattern} {offset duration : UInt64} {curve : Curve}
      (takes : duration ≠ 0) (target : ∀ inner ∈ after, Lasting inner) :
      Lasting (.transition before after offset duration curve)

/-- A tree that shows the pictures of a pattern: what the pattern shows on a clock that starts at
the millisecond `start` is what the tree shows on one that starts at `origin`, from the millisecond
`clock` on. -/
structure Stands (pattern : Pattern) (length start clock origin : Nat) (held : Pattern) : Prop where
  draws : held.FullyDraws length
  lasting : held.Lasting
  begun : origin ≤ clock
  seen : ∀ millis, clock ≤ millis →
    held.picture length (.ofMillis (millis - origin)) =
      pattern.picture length (.ofMillis (millis - start))

namespace Stands

variable {pattern held : Pattern} {length start clock origin : Nat}

theorem refl (draws : pattern.FullyDraws length) (lasting : pattern.Lasting) (start : Nat) :
    Stands pattern length start start start pattern :=
  ⟨draws, lasting, Nat.le_refl start, fun _ _ => rfl⟩

theorem mono (stands : Stands pattern length start clock origin held) {later : Nat}
    (order : clock ≤ later) : Stands pattern length start later origin held :=
  { stands with
    begun := Nat.le_trans stands.begun order
    seen := fun millis reached => stands.seen millis (Nat.le_trans order reached) }

/-- A fade that is over shows the pictures of its target, on the clock of the target. -/
theorem target {before after : Pattern} {offset duration : UInt64} {curve : Curve} {now : Time}
    (stands : Stands pattern length start now.millis origin
      (.transition (some before) (some after) offset duration curve))
    (fits : now.micros < UInt64.size)
    (finished : fadeEnd offset duration ≤ (now.since origin).millis) :
    Stands pattern length start now.millis (origin + offset.toNat) after := by
  obtain ⟨⟨beforeDraws, afterDraws⟩, lasting, begun, seen⟩ := stands
  cases lasting with
  | single single => exact absurd rfl single
  | fade takes lasting =>
      have inside : (now.since origin).micros < UInt64.size := by
        change (now.micros / 1000 - origin) * 1000 < UInt64.size
        omega
      have started := (Live.begun_of_over inside finished).resolve_right fun none => takes none.1
      rw [Time.millis_since] at finished started
      refine ⟨afterDraws, lasting after rfl, by omega, fun millis reached => ?_⟩
      have shown := seen millis reached
      rw [picture_transition (settled_of_fullyDraws before beforeDraws)
        (settled_of_fullyDraws after afterDraws)] at shown
      simp only [Time.millis_ofMillis, Time.since] at shown
      rw [if_neg (by omega), if_pos (by omega), Nat.sub_sub] at shown
      exact shown

end Stands

end Pattern

/-- A player some time after it cut to a pattern, with nothing else to do. -/
structure Plays (pattern : Pattern) (length start clock : Nat) (player : Player) : Prop where
  idle : player.mailbox.queue = []
  fits : player.strip.length = length
  holds : ∃ live, player.shown = some live ∧
    pattern.Stands length start clock player.origin live.pattern

namespace Plays

variable {pattern : Pattern} {length start clock : Nat} {player : Player} {now : Time}

theorem cut (idle : player.mailbox.queue = []) (fits : player.strip.length = length)
    (draws : pattern.FullyDraws length) (lasting : pattern.Lasting) (scratch : Scratch)
    (now : Time) : Plays pattern length now.millis now.millis (player.cut ⟨pattern, scratch⟩ now) :=
  ⟨idle, fits, ⟨pattern, scratch⟩, rfl, .refl draws lasting now.millis⟩

theorem mono (plays : Plays pattern length start clock player) {later : Nat}
    (order : clock ≤ later) : Plays pattern length start later player := by
  obtain ⟨idle, fits, live, shown, stands⟩ := plays
  exact ⟨idle, fits, live, shown, stands.mono order⟩

theorem drain_eq (plays : Plays pattern length start clock player) (now : Time) :
    player.drain now = player := by
  obtain ⟨⟨capacity, queue⟩, settings, shown, origin, strip⟩ := player
  obtain rfl : queue = [] := plays.idle
  rfl

/-- Whether or not a fade ends, what the player holds goes on to show the pattern's pictures. -/
theorem settle (plays : Plays pattern length start now.millis player)
    (fits : now.micros < UInt64.size) :
    Plays pattern length start now.millis (player.settle now) := by
  obtain ⟨idle, same, live, shown, stands⟩ := plays
  simp only [Player.settle, shown]
  cases dropped : live.fadeTarget? (player.showTime now) with
  | none => exact ⟨idle, same, live, shown, stands⟩
  | some place =>
      obtain ⟨before, after, duration, curve, shape, finished, target⟩ :=
        Live.over_of_fadeTarget? dropped
      rw [shape] at stands
      obtain ⟨first, rfl, -⟩ := stands.draws.1.present
      obtain ⟨second, rfl, -⟩ := stands.draws.2.present
      exact ⟨idle, same, _, target, stands.target fits finished⟩

/-- A frame of the player is the picture of the pattern on the clock that started with the cut. -/
theorem draw (plays : Plays pattern length start now.millis player) :
    Plays pattern length start now.millis (player.draw now) ∧
      (player.draw now).strip = pattern.picture length (.ofMillis (now.millis - start)) := by
  obtain ⟨mailbox, settings, held, origin, strip⟩ := player
  obtain ⟨idle, same, ⟨tree, scratch⟩, shown, stands⟩ := plays
  obtain rfl : held = some ⟨tree, scratch⟩ := shown
  have settled := Pattern.settled_of_fullyDraws tree stands.draws
  have drawn := (settled.render_eq (now.since origin) scratch same).trans
    (stands.seen now.millis (Nat.le_refl _))
  exact ⟨⟨idle, (Pattern.length_render tree _ _ strip).trans same, _, rfl, stands⟩, drawn⟩

theorem render (plays : Plays pattern length start clock player) (reached : clock ≤ now.millis)
    (fits : now.micros < UInt64.size) :
    Plays pattern length start now.millis (player.render now) ∧
      (player.render now).strip = pattern.picture length (.ofMillis (now.millis - start)) := by
  rw [Player.render, plays.drain_eq]
  exact ((plays.mono reached).settle fits).draw

/-- Frames that are drawn on the way, at any times that do not go back, change nothing. -/
theorem run (plays : Plays pattern length start clock player) {times : List Time}
    (ordered : times.Pairwise fun earlier later => earlier.micros ≤ later.micros)
    (reached : ∀ time ∈ times, clock ≤ time.millis) (order : clock ≤ now.millis)
    (before : ∀ time ∈ times, time.micros ≤ now.micros) (fits : now.micros < UInt64.size) :
    Plays pattern length start now.millis (player.run (times.map .render)) := by
  induction times generalizing clock player with
  | nil => exact plays.mono order
  | cons time rest ih =>
      obtain ⟨after, ordered⟩ := List.pairwise_cons.mp ordered
      obtain ⟨inTime, others⟩ := List.forall_mem_cons.mp before
      have drawn := plays.render (reached time List.mem_cons_self) (Nat.lt_of_le_of_lt inTime fits)
      exact ih drawn.1 ordered (fun other here => Nat.div_le_div_right (after other here))
        (Nat.div_le_div_right inTime) others

end Plays

namespace Animation

end Animation

end LightShow
