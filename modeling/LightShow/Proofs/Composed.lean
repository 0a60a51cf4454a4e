import LightShow.Proofs.Picture
import LightShow.Proofs.Stencil

/-! The picture of a node composed from the pictures of its children, one rule for each kind of
node. Where the children draw every pixel, scratch and strip do not come up any more. -/

namespace LightShow

namespace Pattern

variable {length : Nat} (now : Time)

theorem not_isEmpty_dark (positive : 0 < length) : ¬(Strip.dark length).isEmpty = true :=
  not_isEmpty (Strip.length_dark length) positive

theorem picture_color (ink : Color) :
    (Pattern.color ink).picture length now = List.replicate length ink := by
  rw [picture, render, Strip.fill, Strip.length_dark]

theorem picture_gradient {left right : Pattern} (positive : 0 < length)
    (leftSettled : Settled left length) (rightSettled : Settled right length) (curve : Curve) :
    (Pattern.gradient (some left) (some right) curve).picture length now =
      Blend.gradient curve (left.picture length now) (right.picture length now) := by
  have dark := Strip.length_dark length
  have framed := Strip.length_reset Scratch.fresh.strip length
  rw [picture, render_gradient]
  simp only [Option.isNone_some, Bool.false_or, if_neg (not_isEmpty_dark positive), dark,
    renderChild, leftSettled.render_eq now _ dark, rightSettled.render_eq now _ framed]

theorem picture_cycle {frames : List Pattern} (settled : ∀ child ∈ frames, Settled child length)
    {duration : UInt64} {shown : Pattern}
    (here : frames[cycleIndex frames.length duration now]? = some shown) :
    (Pattern.cycle frames duration).picture length now = shown.picture length now := by
  rw [picture, render_cycle]
  exact renderNth_eq_picture settled here now _ (Strip.length_dark length)

section Loop

variable {patterns : List Pattern} {hold fade : UInt64} {curve : Curve} {current next : Pattern}
  {now}

theorem picture_loop_of_resting (settled : ∀ child ∈ patterns, Settled child length)
    (resting : ¬loopFades hold fade now)
    (shown : patterns[loopIndex patterns.length hold fade now]? = some current) :
    (Pattern.loop patterns hold fade curve).picture length now = current.picture length now := by
  have still : loopPeriod hold fade = 0 ∨ patterns = [] ∨
      now.millis % loopPeriod hold fade < hold.toNat := by
    by_cases moving : loopPeriod hold fade = 0
    · exact .inl moving
    · exact .inr (.inr (Nat.lt_of_not_le fun late => resting ⟨moving, late⟩))
  rw [picture, render_loop]
  dsimp only
  rw [if_pos still]
  exact renderNth_eq_picture settled shown now _ (Strip.length_dark length)

theorem picture_loop_of_fading (settled : ∀ child ∈ patterns, Settled child length)
    (fading : loopFades hold fade now)
    (shown : patterns[loopIndex patterns.length hold fade now]? = some current)
    (following : patterns[(loopIndex patterns.length hold fade now + 1) % patterns.length]? =
      some next) :
    (Pattern.loop patterns hold fade curve).picture length now =
      (current.picture length now).mix (next.picture length now)
        (loopWeight hold fade curve now) := by
  have moving : ¬(loopPeriod hold fade = 0 ∨ patterns = [] ∨
      now.millis % loopPeriod hold fade < hold.toNat) := by
    rintro (none | rfl | held)
    · exact fading.1 none
    · cases shown
    · exact Nat.not_lt_of_le fading.2 held
  have first := renderNth_eq_picture settled shown now Scratch.fresh.children
    (Strip.length_dark length)
  rw [picture, render_loop]
  dsimp only
  rw [if_neg moving, first, length_picture,
    renderNth_eq_picture settled following now _ (Strip.length_reset _ _), loopWeight]

end Loop

section Frames

variable {child : Pattern} {size : Nat}

/-- What is drawn in a frame is laid over the strip as a picture. -/
theorem throughFrame_eq_picture (settled : Settled child size) (lay : Strip → Strip)
    (scratch : Scratch) (strip : Strip) :
    (throughFrame (some child) size lay now scratch strip).1 = lay (child.picture size now) := by
  rw [← settled.render_eq now (scratch.child 0) (Strip.length_reset scratch.strip size)]
  rfl

theorem picture_rotate (positive : 0 < length) (settled : Settled child length) (rate : Float32) :
    (Pattern.rotate (some child) rate).picture length now =
      (child.picture length now).turn (Motion.place (Motion.moves now rate) length) := by
  rw [picture, render_rotate, if_neg (not_isEmpty_dark positive), Strip.length_dark,
    throughFrame_eq_picture now settled]

theorem picture_pingPong (positive : 0 < length) (settled : Settled child (length * 2 - 1))
    (rate : Float32) :
    (Pattern.pingPong (some child) rate).picture length now =
      if length = 1 then child.picture (length * 2 - 1) now
      else Motion.bounce (child.picture (length * 2 - 1) now) length (Motion.moves now rate) := by
  rw [picture, render_pingPong, if_neg (not_isEmpty_dark positive), Strip.length_dark,
    throughFrame_eq_picture now settled]

theorem picture_chronometer (positive : 0 < length) (settled : Settled child Clock.paletteSize) :
    (Pattern.chronometer (some child)).picture length now =
      Clock.face (child.picture Clock.paletteSize now) length now := by
  rw [picture, render_chronometer, if_neg (not_isEmpty_dark positive), Strip.length_dark,
    throughFrame_eq_picture now settled]

theorem picture_scale {method : Sampling} {scale : UInt64} {ratio : Float32}
    (usable : scaledLength? scale ratio length = some size) (settled : Settled child size) :
    (Pattern.scale (some child) method scale ratio).picture length now =
      method.resample (child.picture size now) (Strip.dark length) := by
  rw [picture, render_scale, Strip.length_dark, usable]
  exact throughFrame_eq_picture now settled _ _ _

end Frames

/-- A crop that covers its whole strip shows what its child shows. -/
theorem picture_crop {child : Pattern} {segment : Segment} (starts : segment.start.toNat = 0)
    (stops : segment.stop.toNat = length) (settled : Settled child length) :
    (Pattern.crop (some child) segment).picture length now = child.picture length now := by
  have dark := Strip.length_dark length
  have fits : segment.Fits (Strip.dark length).length := ⟨by omega, by omega⟩
  rw [picture, render_crop, if_pos fits]
  dsimp only
  rw [starts, stops, Nat.sub_zero, List.drop_zero, List.take_zero, List.nil_append,
    List.take_of_length_le (Nat.le_of_eq dark), List.drop_of_length_le (Nat.le_of_eq dark),
    List.append_nil]
  exact settled.render_eq now _ dark

end Pattern

end LightShow
