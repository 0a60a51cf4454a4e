import LightShow.Proofs.Stencil

/-! What each kind asks of its children to paint the same over and over, at one time and on strips
of one length: that they do so themselves, and, where a node blends in place, that the blend is
grounded. -/

namespace LightShow

namespace Pattern

/-- Whatever the scratch is at first, drawings at this time paint the same over and over. -/
def Stencils (pattern : Pattern) (now : Time) (length : Nat) : Prop :=
  ∀ start, ∃ shown, Paints (pattern.render now) (Again (pattern.render now) length start)
    (pattern.covers now length) length shown

/-- The drawings of a child, which may be missing. -/
theorem paints_child {child : Option Pattern} {now : Time} {length : Nat}
    (stencils : ∀ inner ∈ child, inner.Stencils now length) (start : Scratch) :
    ∃ shown, Paints (renderChild child now) (Again (renderChild child now) length start)
      (childCovers child now length) length shown := by
  cases child with
  | none =>
      have size := Strip.length_dark length
      refine ⟨Strip.dark length, size, fun _ _ strip same => ?_⟩
      exact (Strip.overlay_of_uncovered (size.trans same.symm) fun _ => rfl).symm
  | some inner => exact stencils inner rfl start

/-- The scratches of some patterns after any number of drawings of any of them. -/
def AgainEach (patterns : List Pattern) (now : Time) (length : Nat) (start later : List Scratch) :
    Prop :=
  ∀ (place : Nat) child, patterns[place]? = some child →
    Again (child.render now) length (start.getD place .fresh) (later.getD place .fresh)

namespace AgainEach

variable {patterns : List Pattern} {now : Time} {length : Nat} {start later : List Scratch}

theorem refl : AgainEach patterns now length start start := fun _ _ _ => .start

theorem renderNth (again : AgainEach patterns now length start later) (index : Nat)
    {strip : Strip} (same : strip.length = length) :
    AgainEach patterns now length start (renderNth patterns index now later strip).2 := by
  intro place child found
  rw [renderNth_snd]
  split
  · exact again place child found
  · next pattern here =>
      split
      · next reached =>
          subst reached
          obtain rfl : pattern = child := Option.some.inj (here.symm.trans found)
          exact (again place pattern found).draw same
      · exact again place child found

theorem renderEach (again : AgainEach patterns now length start later) (strips : List Strip) :
    AgainEach patterns now length start
      (renderEach patterns now later strips length).2 := by
  intro place child found
  simp only [List.getD_eq_getElem?_getD, renderEach_snd, found]
  exact (again place child found).draw (Strip.length_reset _ length)

end AgainEach

theorem length_renderEach (patterns : List Pattern) (now : Time) (scratches : List Scratch)
    (strips : List Strip) (length : Nat) :
    (renderEach patterns now scratches strips length).1.length = patterns.length := by
  induction patterns generalizing scratches strips with
  | nil => rfl
  | cons pattern rest ih => exact congrArg (· + 1) (ih scratches.tail strips.tail)

/-- The drawings of one pattern of a list, between drawings of the others. -/
theorem paints_nth {patterns : List Pattern} {index : Nat} {now : Time} {length : Nat}
    (stencils : ∀ inner ∈ patterns[index]?, inner.Stencils now length) (start : List Scratch) :
    ∃ shown, Paints (renderNth patterns index now) (AgainEach patterns now length start)
      (nthCovers patterns index now length) length shown := by
  obtain ⟨shown, size, drawn⟩ := paints_child stencils (start.getD index .fresh)
  refine ⟨shown, size, fun later again strip same => ?_⟩
  rw [renderNth_fst, nthCovers_eq]
  cases found : patterns[index]? with
  | none =>
      rw [found] at drawn
      exact drawn _ .start strip same
  | some child =>
      rw [found] at drawn
      exact drawn _ (again index child found) strip same

/-- A blend in place: over and over the drawings at this time take what a paint leaves of the
strip, and blend it with what one frame holds. -/
def Blending (pattern : Pattern) (now : Time) (length : Nat) (covered : Nat → Bool)
    (weight : Nat → Level) (frame : Scratch → Strip) : Prop :=
  ∀ start, (frame start).length = length ∧ ∃ (kept : Scratch → Prop) (shown : Strip),
    kept start ∧ shown.length = length ∧
    ∀ scratch, kept scratch → ∀ strip : Strip, strip.length = length →
      kept (pattern.render now scratch strip).2 ∧
      (pattern.render now scratch strip).1 =
        Blend.along weight (strip.overlay covered shown) (frame start)

namespace Blending

variable {now : Time} {length : Nat}

/-- Two children, each with a scratch of its own: one is drawn on the strip, the other one in the
frame. -/
theorem of_children {pattern first second : Pattern} {one other : Time} (place side : Nat)
    {weight : Nat → Level} (firstStencils : Stencils first one length)
    (secondStencils : Stencils second other length)
    (draws : ∀ scratch (strip : Strip), strip.length = length →
      let drawn := first.render one (scratch.child place) strip
      let filled := second.render other (scratch.child side) (scratch.strip.reset length)
      let next := pattern.render now scratch strip
      next.1 = Blend.along weight drawn.1 filled.1 ∧ next.2.child place = drawn.2 ∧
        next.2.child side = filled.2 ∧ next.2.strip = filled.1) :
    Blending pattern now length (first.covers one length) weight
      fun start => (second.render other (start.child side) (start.strip.reset length)).1 := by
  intro start
  obtain ⟨shown, paints⟩ := firstStencils (start.child place)
  obtain ⟨_, frames⟩ := secondStencils (start.child side)
  let filled := (second.render other (start.child side) (start.strip.reset length)).1
  refine ⟨frames.length_drawn .start (Strip.length_reset _ length),
    fun later => Again (first.render one) length (start.child place) (later.child place) ∧
      Again (second.render other) length (start.child side) (later.child side) ∧
      (later.strip = start.strip ∨ later.strip = filled),
    shown, ⟨.start, .start, .inl rfl⟩, paints.size, ?_⟩
  rintro later ⟨again, beside, left⟩ strip same
  obtain ⟨blend, kept, keptBeside, keptFrame⟩ := draws later strip same
  have frame := frames.frame .start beside left
  refine ⟨⟨?_, ?_, .inr (keptFrame.trans frame)⟩, ?_⟩
  · rw [kept]
    exact again.draw same
  · rw [keptBeside]
    exact beside.draw (Strip.length_reset _ length)
  · rw [blend, frame, paints.drawn _ again strip same]

/-- A gradient draws its right side in its frame, and blends along the strip. -/
theorem gradient {first second : Pattern} (positive : 0 < length)
    (firstStencils : Stencils first now length) (secondStencils : Stencils second now length)
    (curve : Curve) :
    Blending (.gradient (some first) (some second) curve) now length (first.covers now length)
      (Blend.slope curve length)
      fun start => (second.render now (start.child 1) (start.strip.reset length)).1 := by
  apply of_children 0 1 firstStencils secondStencils
  intro scratch strip same
  have size := (length_render first now (scratch.child 0) strip).trans same
  simp only [render_gradient, Option.isNone_some, Bool.false_or,
    if_neg (not_isEmpty same positive), renderChild, same]
  exact ⟨by rw [Blend.gradient_eq_along, size], rfl, rfl, rfl⟩

/-- A fade under way draws the pattern after it on the strip, and the one before it in its
frame. -/
theorem transition {first second : Pattern} {offset duration : UInt64}
    (begun : ¬now.millis ≤ offset.toNat) (going : ¬fadeEnd offset duration ≤ now.millis)
    (firstStencils : Stencils first now length)
    (secondStencils : Stencils second (now.since offset.toNat) length) (curve : Curve) :
    Blending (.transition (some first) (some second) offset duration curve) now length
      (second.covers (now.since offset.toNat) length)
      (fun _ => fadeWeight offset duration curve now)
      fun start => (first.render now (start.child 0) (start.strip.reset length)).1 := by
  apply of_children 1 0 secondStencils firstStencils
  intro scratch strip same
  have size := (length_render second (now.since offset.toNat) (scratch.child 1) strip).trans same
  have frame := (length_render first now (scratch.child 0) (scratch.strip.reset length)).trans
    (Strip.length_reset _ length)
  simp only [render_transition, if_neg begun, if_neg going, Option.isNone_some,
    Bool.false_eq_true, ↓reduceIte, renderChild, size]
  exact ⟨Blend.mix_eq_along (size.trans frame.symm) _, rfl, rfl, rfl⟩

/-- A loop draws the pattern that it shows on the strip, and the one that it fades in in its
frame. -/
theorem loop {patterns : List Pattern} {hold fade : UInt64}
    (moving : ¬(loopPeriod hold fade = 0 ∨ patterns = [] ∨
      now.millis % loopPeriod hold fade < hold.toNat))
    (stencils : ∀ inner ∈ patterns[loopIndex patterns.length hold fade now]?,
      Stencils inner now length)
    (others : ∀ inner ∈ patterns[(loopIndex patterns.length hold fade now + 1) % patterns.length]?,
      Stencils inner now length) (curve : Curve) :
    Blending (.loop patterns hold fade curve) now length
      (nthCovers patterns (loopIndex patterns.length hold fade now) now length)
      (fun _ => loopWeight hold fade curve now)
      fun start => (renderNth patterns
        ((loopIndex patterns.length hold fade now + 1) % patterns.length) now start.children
        (start.strip.reset length)).1 := by
  intro start
  obtain ⟨shown, paints⟩ := paints_nth stencils start.children
  obtain ⟨_, frames⟩ := paints_nth others start.children
  let next := (loopIndex patterns.length hold fade now + 1) % patterns.length
  let filled := (renderNth patterns next now start.children (start.strip.reset length)).1
  have full : filled.length = length := frames.length_drawn .refl (Strip.length_reset _ length)
  refine ⟨full, fun later => AgainEach patterns now length start.children later.children ∧
    (later.strip = start.strip ∨ later.strip = filled), shown, ⟨.refl, .inl rfl⟩, paints.size, ?_⟩
  rintro later ⟨again, left⟩ strip same
  have size := paints.length_drawn again same
  -- The pattern that is faded in may be the one that has just been drawn.
  have after := again.renderNth (loopIndex patterns.length hold fade now) same
  have frame := frames.frame .refl after left
  simp only [render_loop, if_neg moving, size]
  refine ⟨⟨after.renderNth _ (Strip.length_reset _ length), .inr frame⟩, ?_⟩
  rw [frame, Blend.mix_eq_along (size.trans full.symm), paints.drawn _ again strip same]
  rfl

end Blending

namespace Stencils

variable {now : Time} {length : Nat}

/-- One law for all kinds: it is enough to say what is drawn from the scratches that the drawings
at one time lead to. -/
theorem of_kept {pattern : Pattern}
    (each : ∀ start, ∃ (kept : Scratch → Prop) (shown : Strip), kept start ∧
      shown.length = length ∧
      ∀ scratch, kept scratch → ∀ strip : Strip, strip.length = length →
        kept (pattern.render now scratch strip).2 ∧
        (pattern.render now scratch strip).1 = strip.overlay (pattern.covers now length) shown) :
    Stencils pattern now length := by
  intro start
  obtain ⟨kept, shown, first, size, step⟩ := each start
  have holds : ∀ scratch, Again (pattern.render now) length start scratch → kept scratch := by
    intro scratch again
    induction again with
    | start => exact first
    | draw _ same ih => exact (step _ ih _ same).1
  exact ⟨shown, size, fun scratch again strip same => (step scratch (holds scratch again) strip
    same).2⟩

/-- A blend that is grounded paints what it blends. -/
theorem of_blending {pattern : Pattern} {covered : Nat → Bool} {weight : Nat → Level}
    {frame : Scratch → Strip} (blending : Blending pattern now length covered weight frame)
    (grounded : Blend.grounds covered weight length = true)
    (covers : ∀ pixel, pattern.covers now length pixel = (covered pixel || weight pixel == 255)) :
    Stencils pattern now length := by
  apply of_kept
  intro start
  obtain ⟨full, kept, shown, first, size, step⟩ := blending start
  refine ⟨kept, Blend.along weight shown (frame start), first,
    (Blend.length_along _ (size.trans full.symm)).trans size, fun scratch holds strip same => ?_⟩
  obtain ⟨later, drawn⟩ := step scratch holds strip same
  refine ⟨later, ?_⟩
  rw [drawn, Blend.along_overlay same size full grounded, funext covers]

/-- Every pixel is covered by a drawing that shows nothing of the scratch or of the strip. -/
theorem of_settled {pattern : Pattern} (settled : Settled pattern length)
    (all : ∀ pixel, pattern.covers now length pixel = true) : Stencils pattern now length := by
  have dark := Strip.length_dark length
  have size : (pattern.once now (Strip.dark length)).length = length :=
    (length_once pattern now _).trans dark
  intro start
  refine ⟨pattern.once now (Strip.dark length), size, fun scratch _ strip same => ?_⟩
  rw [Strip.overlay_of_covered (size.trans same.symm) all]
  exact settled now scratch .fresh strip _ same dark

/-- No pixel is covered where nothing is drawn. -/
theorem idle {pattern : Pattern}
    (still : ∀ scratch strip, strip.length = length →
      (pattern.render now scratch strip).1 = strip)
    (none : ∀ pixel, pattern.covers now length pixel = false) : Stencils pattern now length := by
  have dark := Strip.length_dark length
  intro start
  refine ⟨Strip.dark length, dark, fun scratch _ strip same => ?_⟩
  rw [still scratch strip same, Strip.overlay_of_uncovered (dark.trans same.symm) none]

/-- Nothing can differ on a strip without pixels. -/
theorem of_filled {pattern : Pattern} (stencils : 0 < length → Stencils pattern now length) :
    Stencils pattern now length := by
  rcases Nat.eq_zero_or_pos length with rfl | positive
  · intro start
    refine ⟨[], rfl, fun scratch _ strip same => ?_⟩
    rw [List.eq_nil_of_length_eq_zero same]
    exact List.eq_nil_of_length_eq_zero (length_render pattern now scratch [])
  · exact stencils positive

section Fade

variable {before after : Option Pattern} {offset duration : UInt64} {curve : Curve}

theorem waiting (early : now.millis ≤ offset.toNat)
    (stencils : ∀ inner ∈ before, Stencils inner now length) :
    Stencils (.transition before after offset duration curve) now length := by
  apply of_kept
  intro start
  obtain ⟨shown, paints⟩ := paints_child stencils (start.child 0)
  refine ⟨fun later => Again (renderChild before now) length (start.child 0) (later.child 0),
    shown, .start, paints.size, fun later again strip same => ?_⟩
  simp only [render_transition, if_pos early, covers]
  exact ⟨again.draw same, paints.drawn _ again strip same⟩

/-- Where nothing is blended, only the pattern after the fade is drawn on the strip. -/
theorem passed (begun : ¬now.millis ≤ offset.toNat)
    (alone : (fadeEnd offset duration ≤ now.millis || before.isNone || after.isNone) = true)
    (stencils : ∀ inner ∈ after, Stencils inner (now.since offset.toNat) length) :
    Stencils (.transition before after offset duration curve) now length := by
  apply of_kept
  intro start
  obtain ⟨shown, paints⟩ := paints_child stencils (start.child 1)
  refine ⟨fun later => Again (renderChild after (now.since offset.toNat)) length (start.child 1)
    (later.child 1), shown, .start, paints.size, fun later again strip same => ?_⟩
  have drawn := paints.drawn _ again strip same
  simp only [render_transition, if_neg begun, covers, if_pos alone]
  split
  · next missing =>
      obtain rfl : after = none := Option.isNone_iff_eq_none.mp missing
      exact ⟨again, drawn⟩
  next present =>
  split
  · exact ⟨again.draw same, drawn⟩
  next going =>
  have missing : before.isNone = true := by
    simpa only [going, present, decide_false, Bool.false_or, Bool.or_false] using alone
  rw [if_pos missing]
  exact ⟨again.draw same, drawn⟩

end Fade

theorem cycle {frames : List Pattern} {duration : UInt64}
    (stencils : ∀ inner ∈ frames[cycleIndex frames.length duration now]?,
      Stencils inner now length) :
    Stencils (.cycle frames duration) now length := by
  apply of_kept
  intro start
  obtain ⟨shown, paints⟩ := paints_nth stencils start.children
  refine ⟨fun later => AgainEach frames now length start.children later.children, shown, .refl,
    paints.size, fun later again strip same => ?_⟩
  rw [render_cycle]
  exact ⟨again.renderNth _ same, paints.drawn _ again strip same⟩

section Loop

variable {patterns : List Pattern} {hold fade : UInt64} {curve : Curve}

theorem resting (still : loopPeriod hold fade = 0 ∨ patterns = [] ∨
      now.millis % loopPeriod hold fade < hold.toNat)
    (stencils : ∀ inner ∈ patterns[loopIndex patterns.length hold fade now]?,
      Stencils inner now length) :
    Stencils (.loop patterns hold fade curve) now length := by
  apply of_kept
  intro start
  obtain ⟨shown, paints⟩ := paints_nth stencils start.children
  refine ⟨fun later => AgainEach patterns now length start.children later.children, shown, .refl,
    paints.size, fun later again strip same => ?_⟩
  simp only [render_loop, covers, if_pos still]
  exact ⟨again.renderNth _ same, paints.drawn _ again strip same⟩

end Loop

/-- Patterns that draw their child in a frame and lay the frame over the strip. -/
theorem framed {pattern child : Pattern} {size : Nat} (lay : Strip → Strip → Strip)
    (draws : ∀ scratch strip, strip.length = length → pattern.render now scratch strip =
      throughFrame (some child) size (lay strip) now scratch strip)
    (laid : ∀ frame, frame.length = size → ∃ shown : Strip, shown.length = length ∧
      ∀ strip : Strip, strip.length = length →
        lay strip frame = strip.overlay (pattern.covers now length) shown)
    (stencils : Stencils child now size) : Stencils pattern now length := by
  apply of_kept
  intro start
  obtain ⟨_, frames⟩ := stencils (start.child 0)
  let filled := (child.render now (start.child 0) (start.strip.reset size)).1
  obtain ⟨shown, same, lies⟩ := laid filled
    (frames.length_drawn .start (Strip.length_reset _ size))
  refine ⟨fun later => Again (child.render now) size (start.child 0) (later.child 0) ∧
    (later.strip = start.strip ∨ later.strip = filled), shown, ⟨.start, .inl rfl⟩, same, ?_⟩
  rintro later ⟨again, left⟩ strip held
  have frame : (child.render now (later.child 0) (later.strip.reset size)).1 = filled :=
    frames.frame .start again left
  simp only [draws _ _ held, throughFrame, renderChild, Option.isNone_some, Bool.false_eq_true,
    ↓reduceIte]
  refine ⟨⟨again.draw (Strip.length_reset _ size), .inr frame⟩, ?_⟩
  rw [frame]
  exact lies strip held

/-- The same for patterns that cover every strip with a pixel, if they have a child, and look at
its length only. -/
theorem framed_of_filled {pattern : Pattern} {child : Option Pattern} (size : Nat → Nat)
    (lay : Nat → Strip → Strip)
    (draws : ∀ scratch strip, pattern.render now scratch strip =
      if strip.isEmpty then (strip, scratch)
      else throughFrame child (size strip.length) (lay strip.length) now scratch strip)
    (fits : ∀ frame, frame.length = size length → (lay length frame).length = length)
    (all : ∀ pixel, pattern.covers now length pixel = child.isSome)
    (stencils : ∀ inner ∈ child, Stencils inner now (size length)) :
    Stencils pattern now length := by
  apply of_filled
  intro positive
  cases child with
  | none =>
      refine idle (fun scratch strip same => ?_) all
      rw [draws, if_neg (not_isEmpty same positive)]
      rfl
  | some inner =>
      refine framed (fun strip => lay strip.length) ?_ ?_ (stencils inner rfl)
      · intro scratch strip same
        rw [draws, if_neg (not_isEmpty same positive), same]
      · intro frame held
        refine ⟨lay length frame, fits frame held, fun strip same => ?_⟩
        rw [Strip.overlay_of_covered ((fits frame held).trans same.symm) all, same]

theorem rotate {child : Option Pattern} (stencils : ∀ inner ∈ child, Stencils inner now length)
    (rate : Float32) : Stencils (.rotate child rate) now length :=
  framed_of_filled (fun length => length)
    (fun length frame => frame.turn (Motion.place (Motion.moves now rate) length))
    (fun scratch strip => render_rotate now scratch strip child rate)
    (fun frame held => (Strip.length_turn frame _).trans held) (fun _ => rfl) stencils

theorem pingPong {child : Option Pattern}
    (stencils : ∀ inner ∈ child, Stencils inner now (length * 2 - 1)) (rate : Float32) :
    Stencils (.pingPong child rate) now length := by
  refine framed_of_filled (fun length => length * 2 - 1)
    (fun length frame => if length = 1 then frame
      else Motion.bounce frame length (Motion.moves now rate))
    (fun scratch strip => render_pingPong now scratch strip child rate) ?_ (fun _ => rfl) stencils
  intro frame held
  split
  · omega
  · exact Motion.length_bounce frame length _

theorem chronometer {child : Option Pattern}
    (stencils : ∀ inner ∈ child, Stencils inner now Clock.paletteSize) :
    Stencils (.chronometer child) now length :=
  framed_of_filled (fun _ => Clock.paletteSize) (fun length frame => Clock.face frame length now)
    (fun scratch strip => render_chronometer now scratch strip child)
    (fun frame _ => Clock.length_face frame length now) (fun _ => rfl) stencils

theorem scale {child : Option Pattern} {method : Sampling} {size : UInt64} {ratio : Float32}
    {scaled : Nat} (usable : scaledLength? size ratio length = some scaled)
    (stencils : ∀ inner ∈ child, Stencils inner now scaled) :
    Stencils (.scale child method size ratio) now length := by
  have covered : ∀ pixel, covers (.scale child method size ratio) now length pixel =
      (scaled != 0 && child.isSome) := by
    intro pixel
    simp only [covers, usable]
  cases child with
  | none =>
      refine idle (fun scratch strip same => ?_)
        fun pixel => (covered pixel).trans (Bool.and_false _)
      rw [render_scale, same, usable]
      rfl
  | some inner =>
      refine framed (fun strip frame => method.resample frame strip) ?_ ?_ (stencils inner rfl)
      · intro scratch strip same
        rw [render_scale, same, usable]
      intro frame held
      have dark := Strip.length_dark length
      have size := (method.length_resample frame (Strip.dark length)).trans dark
      refine ⟨method.resample frame (Strip.dark length), size, fun strip same => ?_⟩
      cases frame with
      | nil =>
          -- A frame without pixels leaves the strip as it was.
          rw [Strip.overlay_of_uncovered (size.trans same.symm) fun pixel =>
            (covered pixel).trans (by rw [← held]; rfl)]
          rfl
      | cons first rest =>
          rw [Strip.overlay_of_covered (size.trans same.symm) fun pixel =>
            (covered pixel).trans (by rw [← held]; rfl)]
          exact Settled.resample_congr (List.cons_ne_nil _ _) (same.trans dark.symm)

theorem crop {child : Option Pattern} {segment : Segment} (fits : segment.Fits length)
    (stencils : ∀ inner ∈ child,
      Stencils inner now (segment.stop.toNat - segment.start.toNat)) :
    Stencils (.crop child segment) now length := by
  obtain ⟨ordered, inside⟩ := fits
  apply of_kept
  intro start
  obtain ⟨shown, paints⟩ := paints_child stencils (start.child 0)
  refine ⟨fun later => Again (renderChild child now)
      (segment.stop.toNat - segment.start.toNat) (start.child 0) (later.child 0),
    Strip.dark segment.start.toNat ++ shown ++ Strip.dark (length - segment.stop.toNat), .start,
    ?_, ?_⟩
  · simp only [List.length_append, Strip.length_dark, paints.size]
    omega
  intro later again strip same
  have part : ((strip.drop segment.start.toNat).take
      (segment.stop.toNat - segment.start.toNat)).length =
        segment.stop.toNat - segment.start.toNat := by
    rw [List.length_take, List.length_drop]
    omega
  have fits : segment.Fits length := ⟨ordered, inside⟩
  simp only [render_crop, same, if_pos fits]
  refine ⟨again.draw part, ?_⟩
  rw [paints.drawn _ again _ part, Strip.splice_overlay ordered (same ▸ inside) paints.size, same]
  congr 1
  funext pixel
  simp only [covers, fits, decide_true, Bool.true_and]

theorem mixer {patterns : List Pattern} {weights : List Float32}
    (paired : patterns.length = weights.length)
    (stencils : ∀ child ∈ patterns, Stencils child now length) :
    Stencils (.mixer patterns weights) now length := by
  apply of_kept
  intro start
  let filled := (renderEach patterns now start.children (layers patterns start) length).1
  have full : filled.length = patterns.length := length_renderEach _ _ _ _ _
  have drawn : ∀ later : Scratch, AgainEach patterns now length start.children later.children →
      later.strips = start.strips ∨ later.strips = filled →
      (renderEach patterns now later.children (layers patterns later) length).1 = filled := by
    intro later again left
    apply List.ext_getElem?
    intro place
    rw [renderEach_fst, renderEach_fst]
    cases found : patterns[place]? with
    | none => rfl
    | some child =>
        obtain ⟨_, paints⟩ := stencils child (List.mem_of_getElem? found)
          (start.children.getD place .fresh)
        refine congrArg some (paints.frame .start (again place child found) ?_)
        rcases left with same | same
        · exact .inl (by rw [layers, layers, same])
        · refine .inr ?_
          rw [layers, if_pos (same ▸ full), same, List.getD_eq_getElem?_getD, renderEach_fst, found]
          rfl
  have size : (Light.mixture length (filled.zip weights)).length = length := by
    rw [Light.mixture, List.length_map]
    apply Light.length_sum
    intro layer present
    exact length_of_mem_renderEach (fun child _ => length_render child) (List.of_mem_zip present).1
  refine ⟨fun later => AgainEach patterns now length start.children later.children ∧
    (later.strips = start.strips ∨ later.strips = filled),
    Light.mixture length (filled.zip weights), ⟨.refl, .inl rfl⟩, size, ?_⟩
  rintro later ⟨again, left⟩ strip same
  have filling := drawn later again left
  have covered : ∀ pixel, covers (.mixer patterns weights) now length pixel = true := by
    intro pixel
    simp only [covers, beq_iff_eq, paired]
  rw [render_mixer, if_neg (not_not_intro paired), same,
    Strip.overlay_of_covered (size.trans same.symm) covered]
  exact ⟨⟨again.renderEach _, .inr filling⟩,
    congrArg (fun frames : List Strip => Light.mixture length (frames.zip weights)) filling⟩

end Stencils

end Pattern

end LightShow
