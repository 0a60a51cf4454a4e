import LightShow.Proofs.Residue

/-! What each kind asks of its children to hide no animation state itself: they hide none at the
times at which they are drawn, and what is drawn through a frame is repainted. -/

namespace LightShow

namespace Pattern

theorem afterDue_since {offset : UInt64} {due : Time → Prop} {now : Time} (timely : due now)
    (started : ¬now.millis ≤ offset.toNat) : afterDue offset due (now.since offset.toNat) :=
  ⟨now, timely, Nat.lt_of_not_le started, rfl⟩

theorem fadeDue_of_running {after : Option Pattern} {offset duration : UInt64}
    {due : Time → Prop} {now : Time} (timely : due now) (present : ¬after.isNone = true)
    (started : ¬now.millis ≤ offset.toNat) (running : ¬fadeEnd offset duration ≤ now.millis) :
    fadeDue after offset duration due now :=
  ⟨timely, Bool.eq_false_iff.mpr present, Nat.lt_of_not_le started, Nat.lt_of_not_le running⟩

theorem loopFades_of_moving {patterns : List Pattern} {hold fade : UInt64} {now : Time}
    (moving : ¬(loopPeriod hold fade = 0 ∨ patterns = [] ∨
      now.millis % loopPeriod hold fade < hold.toNat)) :
    patterns ≠ [] ∧ loopFades hold fade now := by
  simp only [not_or, Nat.not_lt] at moving
  exact ⟨moving.2.1, moving.1, moving.2.2⟩

/-- What the scratch of a fade keeps from one drawing to the next. -/
structure FadeKept (before after : Option Pattern) (offset duration : UInt64) (due : Time → Prop)
    (length : Nat) (scratch : Scratch) : Prop where
  first : ReachedChild before (beforeDue after offset duration due) (scratch.child 0)
  second : ReachedChild after (afterDue offset due) (scratch.child 1)
  blank : Blank (alone before (fadeDue after offset duration due)) length scratch.strip

/-- What a fresh copy of a fade draws. -/
def onceFade (before after : Option Pattern) (offset duration : UInt64) (curve : Curve)
    (length : Nat) (now : Time) (strip : Strip) : Strip :=
  if now.millis ≤ offset.toNat then onceChild before now strip
  else if after.isNone then strip
  else
    let second := onceChild after (now.since offset.toNat) strip
    if fadeEnd offset duration ≤ now.millis then second
    else if before.isNone then second
    else second.mix (onceChild before now (Strip.dark length))
      (255 - Blend.weight curve (now.millis - offset.toNat) duration.toNat)

namespace FadeKept

variable {before after : Option Pattern} {offset duration : UInt64} {due : Time → Prop}
  {length : Nat} {scratch : Scratch}

theorem render (kept : FadeKept before after offset duration due length scratch)
    (repeatable : ∀ inner ∈ before,
      Repeatable inner (beforeDue after offset duration due) length)
    (repaints : Repaints (alone before (fadeDue after offset duration due)) length)
    {now : Time} (timely : due now) (curve : Curve) (strip : Strip) :
    FadeKept before after offset duration due length
      (Pattern.render (.transition before after offset duration curve) now scratch strip).2 := by
  obtain ⟨first, second, blank⟩ := kept
  rw [render_transition]
  split
  · next waiting =>
      exact ⟨first.render (fun _ _ => .inl ⟨timely, waiting⟩) strip, second, blank⟩
  next started =>
  split
  · exact ⟨first, second, blank⟩
  next present =>
  have late := afterDue_since timely started
  have shown := second.render (fun _ _ => late) strip
  dsimp only
  split
  · exact ⟨first, shown, Blank.empty⟩
  next running =>
  have fading := fadeDue_of_running timely present started running
  constructor
  · exact first.render (fun _ _ => .inr fading) _
  · exact shown
  · exact blank.renderChild repaints repeatable first (fun _ _ => .inr fading)
      (fun inner here => ⟨here, fading⟩) _

theorem shown (kept : FadeKept before after offset duration due length scratch)
    (beforeRepeatable : ∀ inner ∈ before,
      Repeatable inner (beforeDue after offset duration due) length)
    (afterRepeatable : ∀ inner ∈ after, Repeatable inner (afterDue offset due) length)
    {now : Time} (timely : due now) (curve : Curve) {strip : Strip}
    (same : strip.length = length) :
    (Pattern.render (.transition before after offset duration curve) now scratch strip).1 =
      onceFade before after offset duration curve length now strip := by
  obtain ⟨first, second, blank⟩ := kept
  rw [render_transition, onceFade]
  split
  · next waiting =>
      exact renderChild_eq beforeRepeatable first (fun _ _ => .inl ⟨timely, waiting⟩) same
  next started =>
  split
  · rfl
  next present =>
  have late := afterDue_since timely started
  have target := renderChild_eq afterRepeatable second (fun _ _ => late) same
  have size : (onceChild after (now.since offset.toNat) strip).length = length :=
    (length_renderChild (fun inner _ => length_render inner) _ _ strip).trans same
  dsimp only
  rw [target]
  split
  · rfl
  next running =>
  have fading := fadeDue_of_running timely present started running
  dsimp only
  cases here : before.isNone with
  | true => rfl
  | false =>
      rw [size, blank.renderChild_eq beforeRepeatable first (fun _ _ => .inr fading)
        (fun inner here => ⟨here, fading⟩) here]

end FadeKept

/-- What the scratch of a loop keeps from one drawing to the next. -/
structure LoopKept (patterns : List Pattern) (hold fade : UInt64) (due : Time → Prop)
    (length : Nat) (scratch : Scratch) : Prop where
  reached : ReachedEach patterns (loopDue patterns.length hold fade due) scratch.children
  blank : Blank (loopBrush patterns hold fade due) length scratch.strip

/-- What a fresh copy of a loop draws. -/
def onceLoop (patterns : List Pattern) (hold fade : UInt64) (curve : Curve) (length : Nat)
    (now : Time) (strip : Strip) : Strip :=
  let period := loopPeriod hold fade
  let index := loopIndex patterns.length hold fade now
  let first := onceNth patterns index now strip
  if period = 0 ∨ patterns = [] ∨ now.millis % period < hold.toNat then first
  else first.mix (onceNth patterns ((index + 1) % patterns.length) now (Strip.dark length))
    (Blend.weight curve (now.millis % period - hold.toNat) fade.toNat)

namespace LoopKept

variable {patterns : List Pattern} {hold fade : UInt64} {due : Time → Prop} {length : Nat}
  {scratch : Scratch}

theorem render (kept : LoopKept patterns hold fade due length scratch)
    (repeatable : ∀ (index : Nat) child, patterns[index]? = some child →
      Repeatable child (loopDue patterns.length hold fade due index) length)
    (repaints : Repaints (loopBrush patterns hold fade due) length) {now : Time}
    (timely : due now) (curve : Curve) (strip : Strip) :
    LoopKept patterns hold fade due length
      (Pattern.render (.loop patterns hold fade curve) now scratch strip).2 := by
  obtain ⟨reached, blank⟩ := kept
  have current : loopDue patterns.length hold fade due _ now := ⟨timely, .inl rfl⟩
  have first := reached.renderNth current strip
  rw [render_loop]
  dsimp only
  split
  · exact ⟨first, blank⟩
  next moving =>
  obtain ⟨-, fading⟩ := loopFades_of_moving moving
  have next : loopDue patterns.length hold fade due _ now := ⟨timely, .inr ⟨fading, rfl⟩⟩
  constructor
  · exact first.renderNth next _
  · exact blank.renderNth repaints repeatable first next
      (fun child found => ⟨timely, fading, found⟩) _

theorem shown (kept : LoopKept patterns hold fade due length scratch)
    (repeatable : ∀ (index : Nat) child, patterns[index]? = some child →
      Repeatable child (loopDue patterns.length hold fade due index) length)
    {now : Time} (timely : due now) (curve : Curve) {strip : Strip}
    (same : strip.length = length) :
    (Pattern.render (.loop patterns hold fade curve) now scratch strip).1 =
      onceLoop patterns hold fade curve length now strip := by
  obtain ⟨reached, blank⟩ := kept
  have current : loopDue patterns.length hold fade due _ now := ⟨timely, .inl rfl⟩
  have first := reached.renderNth current strip
  have drawn := renderNth_eq repeatable reached current same
  have size : (onceNth patterns (loopIndex patterns.length hold fade now) now strip).length =
      length := by
    rw [← drawn, length_renderNth (fun child _ => length_render child), same]
  rw [render_loop, onceLoop]
  dsimp only
  rw [drawn]
  split
  · rfl
  next moving =>
  obtain ⟨present, fading⟩ := loopFades_of_moving moving
  have next : loopDue patterns.length hold fade due _ now := ⟨timely, .inr ⟨fading, rfl⟩⟩
  have inside := Nat.mod_lt (loopIndex patterns.length hold fade now + 1)
    (List.length_pos_iff.mpr present)
  dsimp only
  rw [size, blank.renderNth_eq repeatable first next
    (fun child found => ⟨timely, fading, found⟩) inside]

end LoopKept

/-- One law for all kinds: what holds of a fresh scratch and is kept by every drawing holds after
all of them, so that it is enough to say what is drawn from such a scratch. -/
theorem Repeatable.of_invariant {pattern : Pattern} {due : Time → Prop} {length : Nat}
    (kept : Scratch → Prop) (shown : Time → Strip → Strip) (fresh : kept .fresh)
    (step : ∀ scratch, kept scratch → ∀ now, due now → ∀ strip,
      kept (pattern.render now scratch strip).2)
    (drawing : ∀ scratch, kept scratch → ∀ now, due now → ∀ strip : Strip,
      strip.length = length → (pattern.render now scratch strip).1 = shown now strip) :
    Repeatable pattern due length := by
  intro scratch reached now timely strip same
  have holds : kept scratch := by
    induction reached with
    | fresh => exact fresh
    | render _ timely strip ih => exact step _ ih _ timely strip
  exact (drawing scratch holds now timely strip same).trans
    (drawing .fresh fresh now timely strip same).symm

namespace Repeatable

variable {due : Time → Prop} {length : Nat}

/-- A pattern that draws nothing on strips of a length has nothing to hide there. -/
theorem idle {pattern : Pattern}
    (still : ∀ now scratch strip, strip.length = length →
      (pattern.render now scratch strip).1 = strip) : Repeatable pattern due length := by
  intro scratch _ now _ strip same
  rw [once, still now scratch strip same, still now .fresh strip same]

theorem gradient {left right : Option Pattern}
    (leftRepeatable : ∀ inner ∈ left, Repeatable inner due length)
    (rightRepeatable : ∀ inner ∈ right, Repeatable inner due length)
    (repaints : Repaints (alone right due) length) (curve : Curve) :
    Repeatable (.gradient left right curve) due length := by
  apply of_invariant
    (fun scratch => ReachedChild left due (scratch.child 0) ∧
      ReachedChild right due (scratch.child 1) ∧ Blank (alone right due) length scratch.strip)
    (fun now strip => if left.isNone || right.isNone || strip.isEmpty then strip
      else Blend.gradient curve (onceChild left now strip)
        (onceChild right now (Strip.dark length)))
  · exact ⟨fun _ _ => .fresh, fun _ _ => .fresh, Blank.empty⟩
  · rintro scratch ⟨first, second, blank⟩ now timely strip
    rw [render_gradient]
    split
    · exact ⟨first, second, blank⟩
    · exact ⟨first.render (fun _ _ => timely) strip, second.render (fun _ _ => timely) _,
        blank.renderChild repaints rightRepeatable second (fun _ _ => timely)
          (fun inner present => ⟨present, timely⟩) strip.length⟩
  · rintro scratch ⟨first, second, blank⟩ now timely strip same
    rw [render_gradient]
    split
    · rfl
    · next present =>
        simp only [Bool.or_eq_true, not_or, Bool.not_eq_true] at present
        simp only [renderChild_eq leftRepeatable first (fun _ _ => timely) same]
        rw [same, blank.renderChild_eq rightRepeatable second (fun _ _ => timely)
          (fun inner here => ⟨here, timely⟩) present.1.2]

/-- Patterns that draw their child in one frame, of a length that goes with the length of the
strip, and lay the frame over the strip. -/
theorem framed {pattern : Pattern} {child : Option Pattern} {size : Nat} (room : Nat → Option Nat)
    (lay : Time → Strip → Strip → Strip)
    (draws : ∀ now scratch strip, pattern.render now scratch strip =
      match room strip.length with
      | none => (strip, scratch)
      | some size => throughFrame child size (lay now strip) now scratch strip)
    (fits : room length = some size)
    (repeatable : ∀ inner ∈ child, Repeatable inner due size)
    (repaints : Repaints (alone child due) size) : Repeatable pattern due length := by
  apply of_invariant
    (fun scratch => ReachedChild child due (scratch.child 0) ∧
      Blank (alone child due) size scratch.strip)
    (fun now strip => if child.isNone then strip
      else lay now strip (onceChild child now (Strip.dark size)))
  · exact ⟨fun _ _ => .fresh, Blank.empty⟩
  · rintro scratch ⟨reached, blank⟩ now timely strip
    rw [draws]
    split
    · exact ⟨reached, blank⟩
    · next other here =>
        exact ⟨reached.render (fun _ _ => timely) _,
          blank.renderChild repaints repeatable reached (fun _ _ => timely)
            (fun inner present => ⟨present, timely⟩) other⟩
  · rintro scratch ⟨reached, blank⟩ now timely strip same
    rw [draws, same, fits]
    dsimp only [throughFrame]
    cases present : child.isNone with
    | true => rfl
    | false =>
        rw [blank.renderChild_eq repeatable reached (fun _ _ => timely)
          (fun inner here => ⟨here, timely⟩) present]

theorem crop {child : Option Pattern} {segment : Segment} (fits : segment.Fits length)
    (repeatable : ∀ inner ∈ child,
      Repeatable inner due (segment.stop.toNat - segment.start.toNat)) :
    Repeatable (.crop child segment) due length := by
  obtain ⟨ordered, inside⟩ := fits
  apply of_invariant (fun scratch => ReachedChild child due (scratch.child 0))
    (fun now strip => strip.take segment.start.toNat ++
      onceChild child now ((strip.drop segment.start.toNat).take
        (segment.stop.toNat - segment.start.toNat)) ++ strip.drop segment.stop.toNat)
  · exact fun _ _ => .fresh
  · intro scratch reached now timely strip
    rw [render_crop]
    split
    · exact reached.render (fun _ _ => timely) _
    · exact reached
  · intro scratch reached now timely strip same
    rw [render_crop, if_pos (by rw [same]; exact ⟨ordered, inside⟩)]
    dsimp only
    rw [renderChild_eq repeatable reached (fun _ _ => timely)]
    simp only [List.length_take, List.length_drop, same]
    omega

theorem cycle {frames : List Pattern} {duration : UInt64}
    (repeatable : ∀ (index : Nat) child, frames[index]? = some child → Repeatable child
      (fun now => due now ∧ cycleIndex frames.length duration now = index) length) :
    Repeatable (.cycle frames duration) due length := by
  apply of_invariant
    (fun scratch => ReachedEach frames
      (fun index now => due now ∧ cycleIndex frames.length duration now = index) scratch.children)
    (fun now strip => onceNth frames (cycleIndex frames.length duration now) now strip)
  · exact ReachedEach.fresh _ _
  · intro scratch reached now timely strip
    rw [render_cycle]
    exact reached.renderNth ⟨timely, rfl⟩ strip
  · intro scratch reached now timely strip same
    rw [render_cycle]
    exact renderNth_eq repeatable reached ⟨timely, rfl⟩ same

theorem transition {before after : Option Pattern} {offset duration : UInt64}
    (beforeRepeatable : ∀ inner ∈ before,
      Repeatable inner (beforeDue after offset duration due) length)
    (afterRepeatable : ∀ inner ∈ after, Repeatable inner (afterDue offset due) length)
    (repaints : Repaints (alone before (fadeDue after offset duration due)) length)
    (curve : Curve) : Repeatable (.transition before after offset duration curve) due length := by
  apply of_invariant (FadeKept before after offset duration due length)
    (onceFade before after offset duration curve length)
  · exact ⟨fun _ _ => .fresh, fun _ _ => .fresh, Blank.empty⟩
  · intro scratch kept now timely strip
    exact kept.render beforeRepeatable repaints timely curve strip
  · intro scratch kept now timely strip same
    exact kept.shown beforeRepeatable afterRepeatable timely curve same

theorem loop {patterns : List Pattern} {hold fade : UInt64}
    (repeatable : ∀ (index : Nat) child, patterns[index]? = some child →
      Repeatable child (loopDue patterns.length hold fade due index) length)
    (repaints : Repaints (loopBrush patterns hold fade due) length) (curve : Curve) :
    Repeatable (.loop patterns hold fade curve) due length := by
  apply of_invariant (LoopKept patterns hold fade due length)
    (onceLoop patterns hold fade curve length)
  · exact ⟨ReachedEach.fresh _ _, Blank.empty⟩
  · intro scratch kept now timely strip
    exact kept.render repeatable repaints timely curve strip
  · intro scratch kept now timely strip same
    exact kept.shown repeatable timely curve same

theorem mixer {patterns : List Pattern}
    (repeatable : ∀ child ∈ patterns, Repeatable child due length)
    (repaints : ∀ child ∈ patterns, Repaints (alone (some child) due) length)
    (weights : List Float32) : Repeatable (.mixer patterns weights) due length := by
  apply of_invariant
    (fun scratch => ReachedEach patterns (fun _ => due) scratch.children ∧
      ∀ (index : Nat) child, patterns[index]? = some child →
        Blank (alone (some child) due) length (scratch.strips.getD index []))
    (fun now strip => if patterns.length ≠ weights.length then strip
      else Light.mixture length ((patterns.map (·.once now (Strip.dark length))).zip weights))
  · exact ⟨ReachedEach.fresh _ _, fun _ _ _ => Blank.empty⟩
  · rintro scratch ⟨reached, blank⟩ now timely strip
    rw [render_mixer]
    split
    · exact ⟨reached, blank⟩
    · constructor
      · intro index child found
        change Reached child due (List.getD (renderEach _ _ _ _ _).2 index .fresh)
        rw [List.getD_eq_getElem?_getD, renderEach_snd, found]
        exact (reached index child found).render timely _
      · intro index child found
        have present := List.mem_of_getElem? found
        change Blank _ length (List.getD (renderEach _ _ _ (layers patterns scratch) _).1 index [])
        rw [List.getD_eq_getElem?_getD, renderEach_fst, found]
        exact ((blank index child found).layers patterns).render (repaints child present)
          (repeatable child present) (reached index child found) timely ⟨rfl, timely⟩ _
  · rintro scratch ⟨reached, blank⟩ now timely strip same
    rw [render_mixer, same]
    split
    · rfl
    · have drawn : (renderEach patterns now scratch.children (layers patterns scratch) length).1 =
          patterns.map (·.once now (Strip.dark length)) := by
        apply List.ext_getElem?
        intro index
        rw [renderEach_fst, List.getElem?_map]
        cases found : patterns[index]? with
        | none => rfl
        | some child =>
            exact congrArg some (((blank index child found).layers patterns).render_eq
              (repeatable child (List.mem_of_getElem? found)) (reached index child found) timely
              ⟨rfl, timely⟩)
      exact congrArg (fun frames : List Strip => Light.mixture length (frames.zip weights)) drawn

/-- The same for patterns that draw on every strip with a pixel. -/
theorem framed_of_filled {pattern : Pattern} {child : Option Pattern} (size : Nat → Nat)
    (lay : Time → Strip → Strip → Strip)
    (draws : ∀ now scratch strip, pattern.render now scratch strip =
      if strip.isEmpty then (strip, scratch)
      else throughFrame child (size strip.length) (lay now strip) now scratch strip)
    (repeatable : ∀ inner ∈ child, Repeatable inner due (size length))
    (repaints : Repaints (alone child due) (size length)) : Repeatable pattern due length := by
  rcases Nat.eq_zero_or_pos length with none | positive
  · apply idle
    intro now scratch strip same
    rw [draws, List.eq_nil_of_length_eq_zero (same.trans none)]
    rfl
  · refine framed (fun length => if length = 0 then none else some (size length)) lay ?_
      (if_neg (Nat.ne_of_gt positive)) repeatable repaints
    intro now scratch strip
    rw [draws]
    cases strip <;> rfl

theorem rotate {child : Option Pattern} (repeatable : ∀ inner ∈ child, Repeatable inner due length)
    (repaints : Repaints (alone child due) length) (rate : Float32) :
    Repeatable (.rotate child rate) due length :=
  framed_of_filled (fun length => length) _
    (fun now scratch strip => render_rotate now scratch strip child rate) repeatable repaints

theorem pingPong {child : Option Pattern}
    (repeatable : ∀ inner ∈ child, Repeatable inner due (length * 2 - 1))
    (repaints : Repaints (alone child due) (length * 2 - 1)) (rate : Float32) :
    Repeatable (.pingPong child rate) due length :=
  framed_of_filled (fun length => length * 2 - 1) _
    (fun now scratch strip => render_pingPong now scratch strip child rate) repeatable repaints

theorem chronometer {child : Option Pattern}
    (repeatable : ∀ inner ∈ child, Repeatable inner due Clock.paletteSize)
    (repaints : Repaints (alone child due) Clock.paletteSize) :
    Repeatable (.chronometer child) due length :=
  framed_of_filled (fun _ => Clock.paletteSize) _
    (fun now scratch strip => render_chronometer now scratch strip child) repeatable repaints

theorem scale {child : Option Pattern} {method : Sampling} {size : UInt64} {ratio : Float32}
    {scaled : Nat} (usable : scaledLength? size ratio length = some scaled)
    (repeatable : ∀ inner ∈ child, Repeatable inner due scaled)
    (repaints : Repaints (alone child due) scaled) :
    Repeatable (.scale child method size ratio) due length :=
  framed (scaledLength? size ratio) (fun _ strip frame => method.resample frame strip)
    (fun now scratch strip => render_scale now scratch strip child method size ratio)
    usable repeatable repaints

end Repeatable

end Pattern

end LightShow
