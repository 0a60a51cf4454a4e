import LightShow.Pattern.Render

/-! Induction over pattern trees, and the drawing of a node in terms of the drawings of its
children: what each pattern of a list leaves on its strip and in its scratch. -/

namespace LightShow

namespace Pattern

/-- A property of all trees, proved for a node from the same property of its children. -/
@[elab_as_elim]
theorem induct {motive : Pattern → Prop}
    (color : ∀ ink, motive (.color ink))
    (frame : ∀ pixels, motive (.frame pixels))
    (rainbow : motive .rainbow)
    (repeated : ∀ base, motive (.repeated base))
    (gradient : ∀ left right curve, (∀ child ∈ left, motive child) →
      (∀ child ∈ right, motive child) → motive (.gradient left right curve))
    (transition : ∀ before after offset duration curve, (∀ child ∈ before, motive child) →
      (∀ child ∈ after, motive child) → motive (.transition before after offset duration curve))
    (cycle : ∀ frames duration, (∀ child ∈ frames, motive child) → motive (.cycle frames duration))
    (loop : ∀ patterns hold fade curve, (∀ child ∈ patterns, motive child) →
      motive (.loop patterns hold fade curve))
    (rotate : ∀ child rate, (∀ inner ∈ child, motive inner) → motive (.rotate child rate))
    (pingPong : ∀ child rate, (∀ inner ∈ child, motive inner) → motive (.pingPong child rate))
    (chronometer : ∀ child, (∀ inner ∈ child, motive inner) → motive (.chronometer child))
    (crop : ∀ child segment, (∀ inner ∈ child, motive inner) → motive (.crop child segment))
    (scale : ∀ child method length ratio, (∀ inner ∈ child, motive inner) →
      motive (.scale child method length ratio))
    (mixer : ∀ patterns weights, (∀ child ∈ patterns, motive child) →
      motive (.mixer patterns weights))
    (pattern : Pattern) : motive pattern := by
  refine @Pattern.rec motive (fun child => ∀ inner ∈ child, motive inner)
    (fun children => ∀ child ∈ children, motive child)
    color frame rainbow repeated gradient transition cycle loop rotate pingPong chronometer crop
    scale mixer ?_ ?_ ?_ ?_ pattern
  · intro inner present
    cases present
  · intro child holds inner present
    cases present
    exact holds
  · intro child present
    cases present
  · intro head tail headHolds tailHolds child present
    rcases List.mem_cons.mp present with rfl | later
    · exact headHolds
    · exact tailHolds child later

/-- Draws a child in a scratch frame of its own length and lays the frame over the strip. -/
def throughFrame (child : Option Pattern) (size : Nat) (lay : Strip → Strip) (now : Time)
    (scratch : Scratch) (strip : Strip) : Strip × Scratch :=
  let drawn := renderChild child now (scratch.child 0) (scratch.strip.reset size)
  (if child.isNone then strip else lay drawn.1, .node [drawn.1] [drawn.2])

/-- The time after which a loop turns to its next pattern. -/
def loopPeriod (hold fade : UInt64) : Nat := min (hold.toNat + fade.toNat) most

/-- Which pattern of a loop is shown, or fades out. -/
def loopIndex (count : Nat) (hold fade : UInt64) (now : Time) : Nat :=
  if loopPeriod hold fade = 0 then 0 else now.millis / loopPeriod hold fade % count

section Equations

variable (now : Time) (scratch : Scratch) (strip : Strip)

theorem render_gradient (left right : Option Pattern) (curve : Curve) :
    render (.gradient left right curve) now scratch strip =
      if left.isNone || right.isNone || strip.isEmpty then (strip, scratch)
      else
        let first := renderChild left now (scratch.child 0) strip
        let second := renderChild right now (scratch.child 1) (scratch.strip.reset strip.length)
        (Blend.gradient curve first.1 second.1, .node [second.1] [first.2, second.2]) := rfl

theorem render_transition (before after : Option Pattern) (offset duration : UInt64)
    (curve : Curve) :
    render (.transition before after offset duration curve) now scratch strip =
      if now.millis ≤ offset.toNat then
        let first := renderChild before now (scratch.child 0) strip
        (first.1, .node scratch.strips [first.2, scratch.child 1])
      else if after.isNone then (strip, scratch)
      else
        let second := renderChild after (now.since offset.toNat) (scratch.child 1) strip
        if fadeEnd offset duration ≤ now.millis then
          (second.1, .node [] [scratch.child 0, second.2])
        else
          let first := renderChild before now (scratch.child 0)
            (scratch.strip.reset second.1.length)
          let weight := Blend.weight curve (now.millis - offset.toNat) duration.toNat
          (if before.isNone then second.1 else second.1.mix first.1 (255 - weight),
            .node [first.1] [first.2, second.2]) := by
  cases before with
  | none => rfl
  | some child => rfl

theorem render_cycle (frames : List Pattern) (duration : UInt64) :
    render (.cycle frames duration) now scratch strip =
      let index := cycleIndex frames.length duration now
      let drawn := renderNth frames index now scratch.children strip
      (drawn.1, .node [] drawn.2) := rfl

theorem render_loop (patterns : List Pattern) (hold fade : UInt64) (curve : Curve) :
    render (.loop patterns hold fade curve) now scratch strip =
      let period := loopPeriod hold fade
      let index := loopIndex patterns.length hold fade now
      let first := renderNth patterns index now scratch.children strip
      if period = 0 ∨ patterns = [] ∨ now.millis % period < hold.toNat then
        (first.1, .node scratch.strips first.2)
      else
        let second := renderNth patterns ((index + 1) % patterns.length) now first.2
          (scratch.strip.reset first.1.length)
        (first.1.mix second.1 (Blend.weight curve (now.millis % period - hold.toNat) fade.toNat),
          .node [second.1] second.2) := by
  rw [render]
  by_cases still : min (hold.toNat + fade.toNat) most = 0
  · simp only [loopIndex, loopPeriod, still, ↓reduceIte, true_or]
  · simp only [loopIndex, loopPeriod, still, ↓reduceIte, false_or, Bool.or_eq_true,
      List.isEmpty_iff, decide_eq_true_eq]

theorem render_rotate (child : Option Pattern) (rate : Float32) :
    render (.rotate child rate) now scratch strip =
      if strip.isEmpty then (strip, scratch)
      else
        throughFrame child strip.length
          (fun frame => frame.turn (Motion.place (Motion.moves now rate) strip.length))
          now scratch strip := by
  cases child <;> rfl

theorem render_pingPong (child : Option Pattern) (rate : Float32) :
    render (.pingPong child rate) now scratch strip =
      if strip.isEmpty then (strip, scratch)
      else
        throughFrame child (strip.length * 2 - 1)
          (fun frame => if strip.length = 1 then frame
            else Motion.bounce frame strip.length (Motion.moves now rate))
          now scratch strip := by
  rw [render]
  cases child with
  | none => rfl
  | some inner =>
      by_cases single : strip.length = 1
      · simp only [throughFrame, Option.isNone_some, Bool.false_eq_true, single, ↓reduceIte]
      · simp only [throughFrame, Option.isNone_some, Bool.false_eq_true, single, ↓reduceIte]

theorem render_chronometer (child : Option Pattern) :
    render (.chronometer child) now scratch strip =
      if strip.isEmpty then (strip, scratch)
      else
        throughFrame child Clock.paletteSize (fun frame => Clock.face frame strip.length now)
          now scratch strip := by
  cases child <;> rfl

theorem render_crop (child : Option Pattern) (segment : Segment) :
    render (.crop child segment) now scratch strip =
      if segment.Fits strip.length then
        let start := segment.start.toNat
        let stop := segment.stop.toNat
        let part := (strip.drop start).take (stop - start)
        let drawn := renderChild child now (scratch.child 0) part
        (strip.take start ++ drawn.1 ++ strip.drop stop, .node [] [drawn.2])
      else (strip, scratch) := rfl

theorem render_scale (child : Option Pattern) (method : Sampling) (length : UInt64)
    (ratio : Float32) :
    render (.scale child method length ratio) now scratch strip =
      match scaledLength? length ratio strip.length with
      | none => (strip, scratch)
      | some size => throughFrame child size (method.resample · strip) now scratch strip := by
  rw [render]
  cases scaledLength? length ratio strip.length with
  | none => rfl
  | some size => cases child <;> rfl

theorem render_mixer (patterns : List Pattern) (weights : List Float32) :
    render (.mixer patterns weights) now scratch strip =
      if patterns.length ≠ weights.length then (strip, scratch)
      else
        let strips := if scratch.strips.length = patterns.length then scratch.strips
          else List.replicate patterns.length []
        let drawn := renderEach patterns now scratch.children strips strip.length
        (Light.mixture strip.length (drawn.1.zip weights), .node drawn.1 drawn.2) := rfl

end Equations

theorem renderNth_fst (patterns : List Pattern) (index : Nat) (now : Time)
    (scratches : List Scratch) (strip : Strip) :
    (renderNth patterns index now scratches strip).1 =
      match patterns[index]? with
      | none => strip
      | some pattern => (pattern.render now (scratches.getD index .fresh) strip).1 := by
  induction patterns generalizing index scratches with
  | nil => rfl
  | cons pattern rest ih =>
      cases index with
      | zero => cases scratches <;> rfl
      | succ index =>
          rw [renderNth]
          refine (ih index scratches.tail).trans ?_
          cases scratches <;> rfl

theorem renderNth_snd (patterns : List Pattern) (index place : Nat) (now : Time)
    (scratches : List Scratch) (strip : Strip) :
    (renderNth patterns index now scratches strip).2.getD place .fresh =
      match patterns[index]? with
      | none => scratches.getD place .fresh
      | some pattern =>
          if place = index then (pattern.render now (scratches.getD index .fresh) strip).2
          else scratches.getD place .fresh := by
  induction patterns generalizing index place scratches with
  | nil => rfl
  | cons pattern rest ih =>
      cases index with
      | zero => cases scratches <;> cases place <;> rfl
      | succ index =>
          rw [renderNth]
          cases place with
          | zero => cases scratches <;> simp <;> split <;> rfl
          | succ place =>
              refine (ih index place scratches.tail).trans ?_
              cases scratches <;> simp

theorem renderEach_fst (patterns : List Pattern) (place : Nat) (now : Time)
    (scratches : List Scratch) (strips : List Strip) (length : Nat) :
    (renderEach patterns now scratches strips length).1[place]? =
      patterns[place]?.map fun pattern =>
        (pattern.render now (scratches.getD place .fresh)
          ((strips.getD place []).reset length)).1 := by
  induction patterns generalizing place scratches strips with
  | nil => rfl
  | cons pattern rest ih =>
      rw [renderEach]
      cases place with
      | zero => cases scratches <;> cases strips <;> rfl
      | succ place =>
          refine (ih place scratches.tail strips.tail).trans ?_
          cases scratches <;> cases strips <;> rfl

theorem renderEach_snd (patterns : List Pattern) (place : Nat) (now : Time)
    (scratches : List Scratch) (strips : List Strip) (length : Nat) :
    (renderEach patterns now scratches strips length).2[place]? =
      patterns[place]?.map fun pattern =>
        (pattern.render now (scratches.getD place .fresh)
          ((strips.getD place []).reset length)).2 := by
  induction patterns generalizing place scratches strips with
  | nil => rfl
  | cons pattern rest ih =>
      rw [renderEach]
      cases place with
      | zero => cases scratches <;> cases strips <;> rfl
      | succ place =>
          refine (ih place scratches.tail strips.tail).trans ?_
          cases scratches <;> cases strips <;> rfl

end Pattern

end LightShow
