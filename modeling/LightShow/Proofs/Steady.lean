import LightShow.Pattern.Validate
import LightShow.Proofs.Repeatable

/-! Trees that hide no animation state. It is enough to look at every frame of the tree, at the
times at which it is drawn in; trees that draw every pixel are among them. -/

namespace LightShow

namespace Pattern

/-- Trees whose frames hide nothing at the times at which they may be drawn on strips of a length:
in each frame, the second of two drawings leaves what it leaves without the first. -/
inductive Steady : Pattern → (due : Time → Prop) → (length : Nat) → Prop
  | idle {pattern : Pattern} {due : Time → Prop} {length : Nat}
      (still : ∀ now scratch strip, strip.length = length →
        (pattern.render now scratch strip).1 = strip) : Steady pattern due length
  | color {due : Time → Prop} {length : Nat} (ink : Color) : Steady (.color ink) due length
  | frame {due : Time → Prop} {length : Nat} (pixels : Strip) : Steady (.frame pixels) due length
  | rainbow {due : Time → Prop} {length : Nat} : Steady .rainbow due length
  | repeated {due : Time → Prop} {length : Nat} (base : Strip) :
      Steady (.repeated base) due length
  | gradient {left right : Option Pattern} {due : Time → Prop} {length : Nat}
      (leftSteady : ∀ inner ∈ left, Steady inner due length)
      (rightSteady : ∀ inner ∈ right, Steady inner due length)
      (repaints : Repaints (alone right due) length) (curve : Curve) :
      Steady (.gradient left right curve) due length
  | transition {before after : Option Pattern} {offset duration : UInt64} {due : Time → Prop}
      {length : Nat}
      (beforeSteady : ∀ inner ∈ before, Steady inner (beforeDue after offset duration due) length)
      (afterSteady : ∀ inner ∈ after, Steady inner (afterDue offset due) length)
      (repaints : Repaints (alone before (fadeDue after offset duration due)) length)
      (curve : Curve) : Steady (.transition before after offset duration curve) due length
  | cycle {frames : List Pattern} {duration : UInt64} {due : Time → Prop} {length : Nat}
      (steady : ∀ (index : Nat) child, frames[index]? = some child →
        Steady child (fun now => due now ∧ cycleIndex frames.length duration now = index) length) :
      Steady (.cycle frames duration) due length
  | loop {patterns : List Pattern} {hold fade : UInt64} {due : Time → Prop} {length : Nat}
      (steady : ∀ (index : Nat) child, patterns[index]? = some child →
        Steady child (loopDue patterns.length hold fade due index) length)
      (repaints : Repaints (loopBrush patterns hold fade due) length) (curve : Curve) :
      Steady (.loop patterns hold fade curve) due length
  | rotate {child : Option Pattern} {due : Time → Prop} {length : Nat}
      (steady : ∀ inner ∈ child, Steady inner due length)
      (repaints : Repaints (alone child due) length) (rate : Float32) :
      Steady (.rotate child rate) due length
  | pingPong {child : Option Pattern} {due : Time → Prop} {length : Nat}
      (steady : ∀ inner ∈ child, Steady inner due (length * 2 - 1))
      (repaints : Repaints (alone child due) (length * 2 - 1)) (rate : Float32) :
      Steady (.pingPong child rate) due length
  | chronometer {child : Option Pattern} {due : Time → Prop} {length : Nat}
      (steady : ∀ inner ∈ child, Steady inner due Clock.paletteSize)
      (repaints : Repaints (alone child due) Clock.paletteSize) :
      Steady (.chronometer child) due length
  | crop {child : Option Pattern} {segment : Segment} {due : Time → Prop} {length : Nat}
      (fits : segment.Fits length)
      (steady : ∀ inner ∈ child, Steady inner due (segment.stop.toNat - segment.start.toNat)) :
      Steady (.crop child segment) due length
  | scale {child : Option Pattern} {method : Sampling} {size : UInt64} {ratio : Float32}
      {due : Time → Prop} {length scaled : Nat}
      (usable : scaledLength? size ratio length = some scaled)
      (steady : ∀ inner ∈ child, Steady inner due scaled)
      (repaints : Repaints (alone child due) scaled) :
      Steady (.scale child method size ratio) due length
  | mixer {patterns : List Pattern} {due : Time → Prop} {length : Nat}
      (steady : ∀ child ∈ patterns, Steady child due length)
      (repaints : ∀ child ∈ patterns, Repaints (alone (some child) due) length)
      (weights : List Float32) : Steady (.mixer patterns weights) due length

theorem ChildDraws.of_mem {child : Option Pattern} {length : Nat} (draws : ChildDraws child length)
    {inner : Pattern} (here : inner ∈ child) : inner.FullyDraws length := by
  obtain ⟨present, rfl, full⟩ := draws.present
  rwa [← Option.mem_some.mp here]

theorem ChildDraws.repaints {child : Option Pattern} {length : Nat}
    (draws : ChildDraws child length) (due : Time → Prop) : Repaints (alone child due) length :=
  .of_settled fun pattern _ drawn => settled_of_fullyDraws pattern (draws.of_mem drawn.1)

/-- Trees that draw every pixel at every node are steady at all times. -/
theorem Steady.of_fullyDraws (pattern : Pattern) {due : Time → Prop} {length : Nat}
    (full : pattern.FullyDraws length) : Steady pattern due length := by
  induction pattern using induct generalizing due length with
  | color ink => exact .color ink
  | frame pixels => exact .frame pixels
  | rainbow => exact .rainbow
  | repeated base => exact .repeated base
  | gradient left right curve leftSteady rightSteady =>
      exact .gradient (fun inner here => leftSteady inner here (full.1.of_mem here))
        (fun inner here => rightSteady inner here (full.2.of_mem here)) (full.2.repaints due) curve
  | transition before after offset duration curve beforeSteady afterSteady =>
      exact .transition (fun inner here => beforeSteady inner here (full.1.of_mem here))
        (fun inner here => afterSteady inner here (full.2.of_mem here)) (full.1.repaints _) curve
  | cycle frames duration steady =>
      apply Steady.cycle
      intro index child found
      have here := List.mem_of_getElem? found
      exact steady child here (full.2.of_mem here)
  | loop patterns hold fade curve steady =>
      refine .loop ?_ (.of_settled ?_) curve
      · intro index child found
        have here := List.mem_of_getElem? found
        exact steady child here (full.2.of_mem here)
      · intro child now drawn
        exact settled_of_fullyDraws child (full.2.of_mem (List.mem_of_getElem? drawn.2.2))
  | rotate child rate steady =>
      exact .rotate (fun inner here => steady inner here (full.of_mem here)) (full.repaints due)
        rate
  | pingPong child rate steady =>
      exact .pingPong (fun inner here => steady inner here (full.of_mem here)) (full.repaints due)
        rate
  | chronometer child steady =>
      exact .chronometer (fun inner here => steady inner here (full.of_mem here))
        (full.repaints due)
  | crop child segment steady =>
      obtain ⟨starts, stops, draws⟩ := full
      refine .crop ⟨by omega, by omega⟩ fun inner here => ?_
      rw [starts, stops]
      exact steady inner here (draws.of_mem here)
  | scale child method size ratio steady =>
      unfold FullyDraws at full
      split at full
      · exact full.elim
      · next scaled usable =>
          exact .scale usable (fun inner here => steady inner here (full.2.of_mem here))
            (full.2.repaints due)
  | mixer patterns weights steady =>
      refine .mixer (fun child here => steady child here (full.2.of_mem here)) ?_ weights
      intro child here
      have draws : ChildDraws (some child) length := full.2.of_mem here
      exact draws.repaints due

theorem Steady.repeatable {pattern : Pattern} {due : Time → Prop} {length : Nat}
    (steady : Steady pattern due length) : Repeatable pattern due length := by
  induction steady with
  | idle still => exact .idle still
  | color ink => exact fun _ _ _ _ _ _ => rfl
  | frame pixels => exact fun _ _ _ _ _ _ => rfl
  | rainbow => exact fun _ _ _ _ _ _ => rfl
  | repeated base => exact fun _ _ _ _ _ _ => rfl
  | gradient _ _ repaints curve left right => exact .gradient left right repaints curve
  | transition _ _ repaints curve before after => exact .transition before after repaints curve
  | cycle _ each => exact .cycle each
  | loop _ repaints curve each => exact .loop each repaints curve
  | rotate _ repaints rate child => exact .rotate child repaints rate
  | pingPong _ repaints rate child => exact .pingPong child repaints rate
  | chronometer _ repaints child => exact .chronometer child repaints
  | crop fits _ child => exact .crop fits child
  | scale usable _ repaints child => exact .scale usable child repaints
  | mixer _ repaints weights each => exact .mixer each repaints weights

theorem render_rotate_dark (child : Pattern) (rate : Float32) (now : Time) (scratch : Scratch)
    {length : Nat} (positive : 0 < length) :
    render (.rotate (some child) rate) now scratch (Strip.dark length) =
      let drawn := child.render now (scratch.child 0) (scratch.strip.reset length)
      (drawn.1.turn (Motion.place (Motion.moves now rate) length), .node [drawn.1] [drawn.2]) := by
  have dark := Strip.length_dark length
  rw [render_rotate, if_neg (not_isEmpty dark positive), dark]
  rfl

/-- A frame that is only turned hides nothing, so that it has to be repainted. -/
theorem Repeatable.repaints {child : Pattern} {due : Time → Prop} {length : Nat}
    (repeatable : Repeatable child due length) (positive : 0 < length) {rate : Float32}
    (turned : Repeatable (.rotate (some child) rate) due length) :
    Repaints (alone (some child) due) length := by
  intro first earlier ⟨one, before⟩ second later ⟨other, after⟩
  obtain rfl := Option.mem_some.mp one
  obtain rfl := Option.mem_some.mp other
  have dark := Strip.length_dark length
  have fresh : Scratch.fresh.strip.reset length = Strip.dark length := by
    cases length <;> rfl
  have held : (child.once earlier (Strip.dark length)).length = length :=
    (length_once child earlier _).trans dark
  -- The rotation keeps its frame in its scratch, so that drawing it twice draws the child twice.
  have inner : Reached child due (child.render earlier .fresh (Strip.dark length)).2 :=
    Reached.fresh.render before _
  have outer : Reached (.rotate (some child) rate) due
      (render (.rotate (some child) rate) earlier .fresh (Strip.dark length)).2 :=
    Reached.fresh.render before _
  have seen := turned _ outer later after (Strip.dark length) dark
  rw [once, render_rotate_dark child rate earlier _ positive, fresh,
    render_rotate_dark child rate later _ positive,
    render_rotate_dark child rate later _ positive, fresh] at seen
  have alike := Strip.turn_inj (by simp only [length_render, Strip.length_reset, dark]) seen
  calc child.once later (child.once earlier (Strip.dark length))
      = (child.render later (child.render earlier .fresh (Strip.dark length)).2
          (child.once earlier (Strip.dark length))).1 :=
        (repeatable _ inner later after _ held).symm
    _ = (child.render later (child.render earlier .fresh (Strip.dark length)).2
          ((child.once earlier (Strip.dark length)).reset length)).1 := by
        rw [Strip.reset_of_length held]
    _ = child.once later (Strip.dark length) := alike

/-- Steady trees hide no animation state. In a frame of its own such a tree hides none exactly if,
of two drawings in the dark frame, the second leaves what it leaves without the first. -/
theorem repeatable_of_steady {pattern : Pattern} {length : Nat}
    (steady : Steady pattern (fun _ => True) length) :
    Repeatable pattern (fun _ => True) length ∧
      (0 < length → ∀ rate, Repeatable (.rotate (some pattern) rate) (fun _ => True) length ↔
        Repaints (alone (some pattern) fun _ => True) length) := by
  refine ⟨steady.repeatable, ?_⟩
  intro positive rate
  constructor
  · exact steady.repeatable.repaints positive
  · intro repaints
    apply Repeatable.rotate _ repaints
    intro inner here
    rw [← Option.mem_some.mp here]
    exact steady.repeatable

/-- The fully drawn child of a rotation, seen through a crop that leaves a pixel of the strip to
whatever was there. -/
theorem repeatable_of_steady_crop :
    let ink : Color := ⟨10, 20, 30⟩
    let child : Pattern := .loop [.color ink, .rainbow, .color .black] 70 30 .ease
    let pattern : Pattern := .crop (some (.rotate (some child) 4)) ⟨0, 2⟩
    Steady pattern (fun _ => True) 3 ∧ ¬pattern.FullyDraws 3 ∧
      Repeatable pattern (fun _ => True) 3 := by
  intro ink child pattern
  have full : (Pattern.rotate (some child) 4).FullyDraws 2 := by decide
  have steady : Steady pattern (fun _ => True) 3 := by
    apply Steady.crop (by decide)
    intro inner here
    rw [← Option.mem_some.mp here]
    exact .of_fullyDraws _ full
  exact ⟨steady, by decide, (repeatable_of_steady steady).1⟩

/-- A cycle of a color and a shorter crop: what the color left in the frame is seen again beside
the crop, where a fresh copy stays dark. -/
theorem not_repeatable_rotate_cycle :
    let crop : Pattern := .crop (some (.color ⟨0, 0, 255⟩)) ⟨0, 1⟩
    let pattern : Pattern := .rotate (some (.cycle [.color ⟨255, 0, 0⟩, crop] 1000)) 0
    pattern.validate 3 = .ok () ∧ ¬Repeatable pattern (fun _ => True) 3 := by
  intro crop pattern
  refine ⟨rfl, ?_⟩
  intro repeatable
  have drawn : Reached pattern (fun _ => True)
      (pattern.render (.ofMillis 0) .fresh (Strip.dark 3)).2 := .render .fresh trivial _
  have differs := repeatable _ drawn (.ofMillis 1000) trivial (Strip.dark 3) rfl
  revert differs
  decide

end Pattern

end LightShow
