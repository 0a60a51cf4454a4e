import LightShow.Proofs.Composed
import LightShow.Proofs.SureSteps
import Mathlib.Data.List.Basic

/-! The clock face. The hands for seconds and minutes stand at the pixel nearest to their part of
the way around, and the hand for hours moves on by a pixel each hour. Where hands meet, seconds are
seen before minutes and minutes before hours. -/

namespace LightShow

namespace Clock

variable {length : Nat}

/-- The hand that shows hours out of as many as there are pixels falls on a pixel exactly. -/
theorem hand_length (value : Nat) (filled : 0 < length) :
    hand length value length = value % length := by
  have half : length / 2 / length = 0 := Nat.div_eq_of_lt (Nat.div_lt_self filled (by decide))
  rw [hand, Nat.mul_add_div filled, half, Nat.add_zero]

/-- Out of sixty, fifty-nine is the furthest that is shown. -/
theorem scaled_le (length value : Nat) : length * (value % 60) ≤ length * 59 :=
  Nat.mul_le_mul_left length (Nat.le_of_lt_succ (Nat.mod_lt value (by decide)))

theorem hand_le (length value : Nat) : hand length value 60 ≤ length := by
  have furthest := scaled_le length value
  unfold hand
  omega

/-- On a short strip, and on no other, the hand may be rounded to one past the end. -/
theorem exists_hand_eq_iff (length : Nat) :
    (∃ value, hand length value 60 = length) ↔ length ≤ 30 := by
  constructor
  · rintro ⟨value, past⟩
    have furthest := scaled_le length value
    unfold hand at past
    omega
  · intro short
    refine ⟨59, ?_⟩
    change (length * 59 + 30) / 60 = length
    omega

example : hand 30 59 60 = 30 ∧ hand 31 59 60 = 30 := by decide

theorem hand_lt (value : Nat) (long : 30 < length) : hand length value 60 < length := by
  apply Nat.lt_of_le_of_ne (hand_le length value)
  intro past
  exact Nat.not_le_of_lt long ((exists_hand_eq_iff length).mp ⟨value, past⟩)

/-- A palette has a pixel for the ground and one for each hand. -/
theorem exists_inks {palette : Strip} (full : palette.length = paletteSize) :
    ∃ ground seconds minutes hours, palette = [ground, seconds, minutes, hours] := by
  obtain ⟨ground, inks, rfl⟩ := List.exists_cons_of_length_eq_add_one full
  obtain ⟨seconds, minutes, hours, rfl⟩ := List.length_eq_three.mp (Nat.succ.inj full)
  exact ⟨ground, seconds, minutes, hours, rfl⟩

theorem length_paint (strip : Strip) (place : Nat) (ink : Color) :
    (paint strip place ink).length = strip.length := List.length_set

theorem getElem?_paint {strip : Strip} {pixel : Nat} (inside : pixel < strip.length) (place : Nat)
    (ink : Color) :
    (paint strip place ink)[pixel]? = if pixel = place then some ink else strip[pixel]? := by
  by_cases here : pixel = place
  · subst here
    rw [if_pos rfl, paint, List.getElem?_set_self inside]
  · rw [if_neg here, paint, List.getElem?_set_ne (Ne.symm here)]

/-- Each hand is painted over the ones before it. -/
theorem getElem?_face (ground seconds minutes hours : Color) (now : Time) {pixel : Nat}
    (inside : pixel < length) :
    (face [ground, seconds, minutes, hours] length now)[pixel]? =
      some (if pixel = hand length (now.millis / 1000) 60 then seconds
        else if pixel = hand length (now.millis / 1000 / 60) 60 then minutes
        else if pixel = hand length (now.millis / 1000 / 60 / 60) length then hours
        else ground) := by
  have empty : pixel < (List.replicate length ground).length := by rwa [List.length_replicate]
  unfold face
  rw [getElem?_paint (by rwa [length_paint, length_paint]), getElem?_paint (by rwa [length_paint]),
    getElem?_paint (by exact empty), List.getElem?_replicate, if_pos inside, apply_ite some,
    apply_ite some, apply_ite some]
  rfl

end Clock

namespace Pattern

theorem render_chronometer_some (child : Pattern) (now : Time) (scratch : Scratch) {strip : Strip}
    (filled : 0 < strip.length) :
    let inner := child.render now (scratch.child 0) (scratch.strip.reset Clock.paletteSize)
    render (.chronometer (some child)) now scratch strip =
      (Clock.face inner.1 strip.length now, .node [inner.1] [inner.2]) := by
  rw [render_chronometer, if_neg (not_isEmpty rfl filled)]
  rfl

/-- A clock shows the time. Of the four pixels that its child leaves in the palette, the second is
seen where the hand for seconds stands, the third where the hand for minutes does, the fourth
where the hand for hours does, in this order where hands meet, and the first everywhere else. The
hand for hours is always on the strip. The other two are at most one pixel behind its end, and
that only on strips of up to thirty pixels. Where the pixels can be counted in 32 bits, every step
on the way to the face fits in words of 64. -/
theorem chronometer_shows_time (child : Pattern) (now : Time) (scratch : Scratch) {strip : Strip}
    (filled : 0 < strip.length) :
    let length := strip.length
    let second := (length * (now.millis / 1000 % 60) + 30) / 60
    let minute := (length * (now.millis / 60000 % 60) + 30) / 60
    let hour := now.millis / 3600000 % length
    let drawn := render (.chronometer (some child)) now scratch strip
    let palette := drawn.2.strip
    let steps := Step.face palette length now
    (palette = (child.render now (scratch.child 0) (scratch.strip.reset 4)).1 ∧
      drawn.1.length = length ∧
      ∃ ground seconds minutes hours, palette = [ground, seconds, minutes, hours] ∧
        ∀ pixel < length, drawn.1[pixel]? =
          some (if pixel = second then seconds else if pixel = minute then minutes
            else if pixel = hour then hours else ground)) ∧
    (second ≤ length ∧ minute ≤ length ∧ hour < length) ∧
    (second = length ∨ minute = length → length ≤ 30) ∧
    (30 < length → second < length ∧ minute < length) ∧
    steps.value = drawn.1 ∧ (length < UInt32.size → Logged.Quiet steps) := by
  intro length second minute hour drawn palette steps
  have whole : drawn = _ := render_chronometer_some child now scratch filled
  have kept : palette = (child.render now (scratch.child 0) (scratch.strip.reset 4)).1 :=
    congrArg (·.2.strip) whole
  have shown : drawn.1 = Clock.face palette length now := kept ▸ congrArg Prod.fst whole
  have full : palette.length = Clock.paletteSize := by
    rw [kept, length_render, Strip.length_reset]
    rfl
  have short : ∀ value, Clock.hand length value 60 = length → length ≤ 30 :=
    fun value past => (Clock.exists_hand_eq_iff length).mp ⟨value, past⟩
  have bounds : second ≤ length ∧ minute ≤ length :=
    ⟨Clock.hand_le length (now.millis / 1000), Clock.hand_le length (now.millis / 60000)⟩
  refine ⟨⟨kept, length_render .., ?_⟩, ⟨bounds.1, bounds.2, Nat.mod_lt _ filled⟩, ?_,
    fun long => ⟨Clock.hand_lt _ long, Clock.hand_lt _ long⟩,
    (Step.value_face palette length now).trans shown.symm,
    fun narrow => Step.quiet_face full filled narrow now⟩
  · obtain ⟨ground, seconds, minutes, hours, inks⟩ := Clock.exists_inks full
    refine ⟨ground, seconds, minutes, hours, inks, fun pixel inside => ?_⟩
    -- Whole minutes and hours are counted in whole seconds and minutes.
    rw [shown, inks, Clock.getElem?_face _ _ _ _ _ inside, Clock.hand_length _ filled,
      Nat.div_div_eq_div_mul, Nat.div_div_eq_div_mul]
    rfl
  · rintro (past | past)
    · exact short _ past
    · exact short _ past

/-- Five past thirteen o'clock and 59 seconds on twelve pixels: the hand for seconds is past the
end, and the one for minutes hides the one for hours. The child leaves the last pixel of the palette
as it was. -/
theorem chronometer_shows_time_hidden :
    let inks : Strip := [⟨9, 9, 9⟩, ⟨255, 0, 0⟩, ⟨0, 255, 0⟩]
    let child : Pattern := .crop (some (.frame inks)) ⟨0, 3⟩
    let traces : Scratch := .node [[.black, .black, .black, ⟨0, 0, 255⟩]] []
    let drawn := render (.chronometer (some child)) (.ofMillis 47159999) traces (Strip.dark 12)
    0 < (Strip.dark 12).length ∧ drawn.2.strip = inks ++ [⟨0, 0, 255⟩] ∧
      drawn.1[0]? = some ⟨9, 9, 9⟩ ∧ drawn.1[1]? = some ⟨0, 255, 0⟩ ∧
      drawn.1[11]? = some ⟨9, 9, 9⟩ ∧
      Logged.Quiet (Step.face drawn.2.strip 12 (.ofMillis 47159999)) := by
  intro inks child traces drawn
  have filled : 0 < (Strip.dark 12).length := by decide
  have palette : drawn.2.strip = inks ++ [⟨0, 0, 255⟩] := by decide
  obtain ⟨⟨-, -, ground, seconds, minutes, hours, same, shown⟩, -, -, -, -, quiet⟩ :=
    chronometer_shows_time child (.ofMillis 47159999) traces filled
  obtain ⟨rfl, rfl, rfl, rfl⟩ : ground = _ ∧ seconds = _ ∧ minutes = _ ∧ hours = _ := by
    simpa only [inks, List.cons_append, List.nil_append, List.cons.injEq, and_true] using
      same.symm.trans palette
  refine ⟨filled, palette, (shown 0 (by decide)).trans (by decide),
    (shown 1 (by decide)).trans (by decide), (shown 11 (by decide)).trans (by decide),
    quiet (by decide)⟩

end Pattern

end LightShow
