import LightShow.Proofs.Settled

/-! The picture of a tree. A tree that draws every pixel at every node shows the same picture
whatever its scratch and the strip held before: it depends on the tree, the length of the strip
and the whole milliseconds of the time alone. -/

namespace LightShow

theorem Strip.mix_flip (first second : Strip) (weight : Level)
    (same : first.length = second.length) :
    Strip.mix second first (255 - weight) = Strip.mix first second weight := by
  induction first generalizing second with
  | nil =>
      cases second with
      | nil => rfl
      | cons target targets => cases same
  | cons pixel rest ih =>
      cases second with
      | nil => cases same
      | cons target targets =>
          rw [Strip.mix, Strip.mix, ih targets (Nat.succ.inj same), Color.blend, Color.blend,
            Level.blend_flip, Level.blend_flip, Level.blend_flip]

namespace Pattern

/-- What a tree shows at a time when it is drawn for the first time, on a dark strip. -/
def picture (pattern : Pattern) (length : Nat) (now : Time) : Strip :=
  (pattern.render now .fresh (Strip.dark length)).1

theorem length_picture (pattern : Pattern) (length : Nat) (now : Time) :
    (pattern.picture length now).length = length := by
  rw [picture, length_render, Strip.length_dark]

/-- Pictures for one strip are of one length. -/
theorem length_picture_eq (one other : Pattern) (length : Nat) (now later : Time) :
    (one.picture length now).length = (other.picture length later).length := by
  rw [length_picture, length_picture]

theorem Settled.render_eq {pattern : Pattern} {length : Nat} (settled : Settled pattern length)
    (now : Time) (scratch : Scratch) {strip : Strip} (same : strip.length = length) :
    (pattern.render now scratch strip).1 = pattern.picture length now :=
  settled now scratch .fresh strip (Strip.dark length) same (Strip.length_dark length)

theorem renderNth_eq_picture {patterns : List Pattern} {length : Nat}
    (settled : ∀ child ∈ patterns, Settled child length) {index : Nat} {pattern : Pattern}
    (found : patterns[index]? = some pattern) (now : Time) (scratches : List Scratch)
    {strip : Strip} (same : strip.length = length) :
    (renderNth patterns index now scratches strip).1 = pattern.picture length now := by
  rw [renderNth_fst, found]
  exact (settled pattern (List.mem_of_getElem? found)).render_eq now _ same

/-- A fade shows the pattern before it, then the blend of both, then the pattern after it. -/
theorem picture_transition {before after : Pattern} {length : Nat}
    (beforeSettled : Settled before length) (afterSettled : Settled after length)
    (offset duration : UInt64) (curve : Curve) (now : Time) :
    (Pattern.transition (some before) (some after) offset duration curve).picture length now =
      if now.millis ≤ offset.toNat then before.picture length now
      else if fadeEnd offset duration ≤ now.millis then
        after.picture length (now.since offset.toNat)
      else
        (before.picture length now).mix (after.picture length (now.since offset.toNat))
          (Blend.weight curve (now.millis - offset.toNat) duration.toNat) := by
  have dark := Strip.length_dark length
  have framed := Strip.length_reset (Scratch.fresh.strip) length
  change (render _ now .fresh (Strip.dark length)).1 = _
  rw [render_transition]
  simp only [renderChild, Option.isNone_some, Bool.false_eq_true, ↓reduceIte,
    beforeSettled.render_eq _ _ dark, afterSettled.render_eq _ _ dark, length_picture,
    beforeSettled.render_eq _ _ framed]
  split
  · rfl
  split
  · rfl
  · exact Strip.mix_flip _ _ _ (length_picture_eq ..)

/-- The drawing of a tree that draws every pixel depends on nothing but the tree, the length of
the strip and the whole milliseconds of the time. -/
theorem render_eq_of_fullyDraws {pattern : Pattern} {length : Nat}
    (full : pattern.FullyDraws length) {now later : Time} (same : now.millis = later.millis)
    (one other : Scratch) {left right : Strip} (leftLength : left.length = length)
    (rightLength : right.length = length) :
    (pattern.render now one left).1 = (pattern.render later other right).1 ∧
      (pattern.render now one left).1.length = length := by
  constructor
  · rw [render_congr pattern same]
    exact settled_of_fullyDraws pattern full later one other left right leftLength rightLength
  · rw [length_render, leftLength]

/-- A mixer over a running fade and a trail, with and without traces of other drawings. -/
theorem render_eq_of_fullyDraws_mixer :
    let ink : Color := ⟨10, 20, 30⟩
    let fade : Pattern := .transition (some (.color ink)) (some .rainbow) 1 8 .linear
    let loop : Pattern := .loop [.color ink, .repeated [ink, .black]] 2 6 .ease
    let trail : Pattern := .pingPong (some loop) 3
    let pattern : Pattern := .mixer [.rotate (some fade) (-2), trail] [0.5, 0.75]
    let traces : Scratch :=
      .node [[ink, ink, ink], [ink]] [.node [[ink, .black, ink]] [], .node [[ink]] []]
    pattern.FullyDraws 3 ∧
      (pattern.render ⟨5999⟩ .fresh (Strip.dark 3)).1 =
        (pattern.render ⟨5001⟩ traces [ink, .black, ink]).1 := by
  intro ink fade loop trail pattern traces
  have full : pattern.FullyDraws 3 := by decide
  have same : (Time.mk 5999).millis = (Time.mk 5001).millis := by decide
  exact ⟨full, (render_eq_of_fullyDraws full same _ _ rfl rfl).1⟩

end Pattern

end LightShow
