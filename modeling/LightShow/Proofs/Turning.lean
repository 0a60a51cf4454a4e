import LightShow.Proofs.Composed
import Mathlib.Data.List.Rotate

/-! Patterns that run around the strip. Every pixel of the frame is seen once, as many places
further on as moves were made, and behind the last pixel comes the first one again. A turn of a turn
is a turn by the moves of both. -/

namespace LightShow

namespace Motion

variable {length : Nat}

theorem toNat_add_emod (moves : Int) (positive : 0 < length) (source : Nat) :
    ((source + moves) % length).toNat = (source + place moves length) % length := by
  have reached : (((source + place moves length) % length : Nat) : Int) =
      (source + moves) % length := by
    rw [Int.natCast_emod, Int.natCast_add, natCast_place moves positive, Int.add_emod_emod]
  rw [← reached, Int.toNat_natCast]

/-- A place on a ring is reached from one place only, whatever the number of moves. -/
theorem existsUnique_source (moves : Int) {target : Nat} (inside : target < length) :
    ∃! source, source < length ∧ ((source + moves) % length).toNat = target := by
  have positive : 0 < length := Nat.zero_lt_of_lt inside
  have back := natCast_place (target - moves) positive
  refine ⟨place (target - moves) length, ⟨place_lt _ positive, ?_⟩, ?_⟩
  · rw [back, Int.emod_add_emod, Int.sub_add_cancel, Int.emod_eq_of_lt (by omega) (by omega),
      Int.toNat_natCast]
  · rintro source ⟨within, rfl⟩
    have reached := natCast_place (source + moves) positive
    change source = place ((place (source + moves) length : Int) - moves) length
    rw [place, reached, Int.emod_sub_emod, Int.add_sub_cancel,
      Int.emod_eq_of_lt (by omega) (by omega), Int.toNat_natCast]

end Motion

namespace Strip

/-- The strip shows the pixels of a frame some places further on around the ring; with a number
below zero, further back. -/
structure Turned (frame : Strip) (moves : Int) (strip : Strip) : Prop where
  long : strip.length = frame.length
  pixel : ∀ source < frame.length,
    strip[((source + moves) % frame.length).toNat]? = frame[source]?

theorem turn_eq_rotate (strip : Strip) (offset : Nat) :
    strip.turn offset = strip.rotate (strip.length - offset) :=
  (List.rotate_eq_drop_append_take (Nat.sub_le ..)).symm

theorem turn_perm (strip : Strip) (offset : Nat) : (strip.turn offset).Perm strip := by
  rw [turn_eq_rotate]
  exact strip.rotate_perm _

theorem turned_turn (frame : Strip) (moves : Int) :
    frame.Turned moves (frame.turn (Motion.place moves frame.length)) where
  long := length_turn ..
  pixel := by
    intro source inside
    have positive := Nat.zero_lt_of_lt inside
    have offset := Motion.place_lt moves positive
    -- What is turned on by the offset is looked up by what is left of the ring.
    have round : source + Motion.place moves frame.length +
        (frame.length - Motion.place moves frame.length) = source + frame.length := by omega
    rw [Motion.toNat_add_emod moves positive, turn_eq_rotate,
      List.getElem?_rotate (Nat.mod_lt _ positive), Nat.mod_add_mod, round, Nat.add_mod_right,
      Nat.mod_eq_of_lt inside]

/-- What was turned is turned on from where it is. -/
theorem Turned.trans {frame middle strip : Strip} {moves further : Int}
    (first : frame.Turned moves middle) (second : middle.Turned further strip) :
    frame.Turned (moves + further) strip where
  long := second.long.trans first.long
  pixel := by
    intro source inside
    have positive := Nat.zero_lt_of_lt inside
    have reached := Motion.natCast_place (source + moves) positive
    have within := Motion.place_lt (source + moves) positive
    have seen := second.pixel (Motion.place (source + moves) frame.length) (by rwa [first.long])
    rw [first.long, reached, Int.emod_add_emod, Int.add_assoc] at seen
    exact seen.trans (first.pixel source inside)

end Strip

namespace Pattern

theorem render_rotate_some (child : Pattern) (rate : Float32) (now : Time) (scratch : Scratch)
    {strip : Strip} (filled : 0 < strip.length) :
    let inner := child.render now (scratch.child 0) (scratch.strip.reset strip.length)
    render (.rotate (some child) rate) now scratch strip =
      (inner.1.turn (Motion.place (Motion.moves now rate) strip.length),
        .node [inner.1] [inner.2]) := by
  rw [render_rotate, if_neg (not_isEmpty rfl filled)]
  rfl

/-- A pattern that runs around the strip shows every pixel of its frame once, as many places
further on as it has made moves, in either direction; of what was drawn nothing is lost and nothing
comes twice. One that runs around inside of another one runs by the moves of both. -/
theorem rotate_turns_ring (child : Pattern) (rate : Float32) (now : Time) {strip : Strip}
    (filled : 0 < strip.length) :
    let length := strip.length
    let moves := Motion.moves now rate
    (∀ scratch : Scratch,
      let drawn := render (.rotate (some child) rate) now scratch strip
      let frame := drawn.2.strip
      frame = (child.render now (scratch.child 0) (scratch.strip.reset length)).1 ∧
        frame.length = length ∧ frame.Turned moves drawn.1 ∧ drawn.1.Perm frame) ∧
    (∀ target < length,
      ∃! source, source < length ∧ ((source + moves) % length).toNat = target) ∧
    (child.FullyDraws length → ∀ (further : Float32) (scratch : Scratch),
      (child.picture length now).Turned (moves + Motion.moves now further)
        (render (.rotate (some (.rotate (some child) rate)) further) now scratch strip).1) := by
  intro length moves
  refine ⟨fun scratch => ?_, fun target => Motion.existsUnique_source moves, ?_⟩
  · have long : (child.render now (scratch.child 0) (scratch.strip.reset length)).1.length =
        length := by rw [length_render, Strip.length_reset]
    have turned := Strip.turned_turn
      (child.render now (scratch.child 0) (scratch.strip.reset length)).1 moves
    rw [long] at turned
    rw [render_rotate_some child rate now scratch filled]
    exact ⟨rfl, long, turned, Strip.turn_perm _ _⟩
  · intro full further scratch
    have settled := settled_of_fullyDraws child full
    have first := Strip.turned_turn (child.picture length now) moves
    have second := Strip.turned_turn ((Pattern.rotate (some child) rate).picture length now)
      (Motion.moves now further)
    rw [length_picture] at first second
    rw [← picture_rotate now filled settled rate] at first
    rw [← picture_rotate now filled (settled.rotate rate) further,
      ← ((settled.rotate rate).rotate further).render_eq now scratch rfl] at second
    exact first.trans second

/-- Two moves back and fourteen forth on five pixels. -/
theorem rotate_turns_ring_both_ways :
    let pixels : Strip := [⟨1, 0, 0⟩, ⟨2, 0, 0⟩, ⟨3, 0, 0⟩, ⟨4, 0, 0⟩, ⟨5, 0, 0⟩]
    let back : Pattern := .rotate (some (.frame pixels)) (-1.0)
    let traces : Scratch := .node [[⟨9, 9, 9⟩]] []
    let shown := (render (.rotate (some back) 7.0) (.ofMillis 2000) traces (Strip.dark 5)).1
    0 < (Strip.dark 5).length ∧ (Pattern.frame pixels).FullyDraws 5 ∧
      Motion.moves (.ofMillis 2000) (-1.0) = -2 ∧ Motion.moves (.ofMillis 2000) 7.0 = 14 ∧
      (back.render (.ofMillis 2000) traces (Strip.dark 5)).1.Perm pixels ∧
      pixels.Turned 12 shown ∧
      shown = [⟨4, 0, 0⟩, ⟨5, 0, 0⟩, ⟨1, 0, 0⟩, ⟨2, 0, 0⟩, ⟨3, 0, 0⟩] := by
  intro pixels back traces shown
  have filled : 0 < (Strip.dark 5).length := by decide
  have full : (Pattern.frame pixels).FullyDraws 5 := by decide
  obtain ⟨once, -, twice⟩ := rotate_turns_ring (.frame pixels) (-1.0) (.ofMillis 2000) filled
  obtain ⟨frame, -, -, perm⟩ := once traces
  refine ⟨filled, full, by decide, by decide, ?_, twice full 7.0 traces, by decide⟩
  rw [frame] at perm
  exact perm

end Pattern

end LightShow
