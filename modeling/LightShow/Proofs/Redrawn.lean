import LightShow.Pattern.Validate
import LightShow.Proofs.Painted

/-! Drawing the same time twice. A blend in place takes what its first pattern leaves of the strip
as if it belonged to that pattern. Where it takes from both sides and its first pattern covers
nothing, each drawing takes in what the drawing before it has made. Wherever the first pattern
covers what is blended, drawing a time again changes nothing. -/

namespace LightShow

namespace Pattern

mutual

/-- Every blend in place that a drawing makes at this time, at any node of the tree, is covered by
its first pattern wherever it takes from both sides. -/
def grounded : Pattern → Time → (length : Nat) → Bool
  | .color _, _, _ => true
  | .frame _, _, _ => true
  | .rainbow, _, _ => true
  | .repeated _, _, _ => true
  | .gradient left right curve, now, length =>
      left.isNone || right.isNone || childGrounded left now length &&
        childGrounded right now length &&
        Blend.grounds (childCovers left now length) (Blend.slope curve length) length
  | .transition before after offset duration curve, now, length =>
      if now.millis ≤ offset.toNat then childGrounded before now length
      else if fadeEnd offset duration ≤ now.millis || before.isNone || after.isNone then
        childGrounded after (now.since offset.toNat) length
      else
        childGrounded before now length && childGrounded after (now.since offset.toNat) length &&
          Blend.grounds (childCovers after (now.since offset.toNat) length)
            (fun _ => fadeWeight offset duration curve now) length
  | .cycle frames duration, now, length =>
      nthGrounded frames (cycleIndex frames.length duration now) now length
  | .loop patterns hold fade curve, now, length =>
      let index := loopIndex patterns.length hold fade now
      if loopPeriod hold fade = 0 ∨ patterns = [] ∨
          now.millis % loopPeriod hold fade < hold.toNat then
        nthGrounded patterns index now length
      else
        nthGrounded patterns index now length &&
          nthGrounded patterns ((index + 1) % patterns.length) now length &&
          Blend.grounds (nthCovers patterns index now length)
            (fun _ => loopWeight hold fade curve now) length
  | .rotate child _, now, length => childGrounded child now length
  | .pingPong child _, now, length => childGrounded child now (length * 2 - 1)
  | .chronometer child, now, _ => childGrounded child now Clock.paletteSize
  | .crop child segment, now, length =>
      !decide (segment.Fits length) ||
        childGrounded child now (segment.stop.toNat - segment.start.toNat)
  | .scale child _ size ratio, now, length =>
      match scaledLength? size ratio length with
      | none => true
      | some scaled => childGrounded child now scaled
  | .mixer patterns weights, now, length =>
      patterns.length != weights.length || eachGrounded patterns now length

def childGrounded : Option Pattern → Time → (length : Nat) → Bool
  | none, _, _ => true
  | some child, now, length => grounded child now length

def nthGrounded : List Pattern → (index : Nat) → Time → (length : Nat) → Bool
  | [], _, _, _ => true
  | pattern :: _, 0, now, length => grounded pattern now length
  | _ :: patterns, index + 1, now, length => nthGrounded patterns index now length

def eachGrounded : List Pattern → Time → (length : Nat) → Bool
  | [], _, _ => true
  | pattern :: patterns, now, length =>
      grounded pattern now length && eachGrounded patterns now length

end

/-- What holds of every child that is grounded holds of the one that is drawn, if it is there. -/
theorem of_childGrounded {child : Option Pattern} {now : Time} {length : Nat}
    {motive : Pattern → Prop} (sound : childGrounded child now length = true)
    (holds : ∀ inner ∈ child, inner.grounded now length = true → motive inner) :
    ∀ inner ∈ child, motive inner := by
  rintro inner rfl
  exact holds inner rfl sound

theorem of_nthGrounded {patterns : List Pattern} {index : Nat} {now : Time} {length : Nat}
    {motive : Pattern → Prop} (sound : nthGrounded patterns index now length = true)
    (holds : ∀ child ∈ patterns, child.grounded now length = true → motive child) :
    ∀ inner ∈ patterns[index]?, motive inner := by
  induction patterns generalizing index with
  | nil => rintro inner ⟨⟩
  | cons pattern rest ih =>
      cases index with
      | zero =>
          rintro inner ⟨⟩
          exact holds pattern List.mem_cons_self sound
      | succ index =>
          exact ih sound fun child present => holds child (List.mem_cons_of_mem _ present)

theorem of_eachGrounded {patterns : List Pattern} {now : Time} {length : Nat}
    {motive : Pattern → Prop} (sound : eachGrounded patterns now length = true)
    (holds : ∀ child ∈ patterns, child.grounded now length = true → motive child) :
    ∀ child ∈ patterns, motive child := by
  induction patterns with
  | nil => rintro child ⟨⟩
  | cons pattern rest ih =>
      obtain ⟨first, others⟩ := Bool.and_eq_true_iff.mp sound
      exact List.forall_mem_cons.mpr ⟨holds pattern List.mem_cons_self first,
        ih others fun child present => holds child (List.mem_cons_of_mem _ present)⟩

/-- A tree all of whose blends are grounded paints the same over and over. -/
theorem stencils_of_grounded (pattern : Pattern) {now : Time} {length : Nat}
    (sound : pattern.grounded now length = true) : pattern.Stencils now length := by
  induction pattern using induct generalizing now length with
  | color ink => exact .of_settled (.color ink length) fun _ => rfl
  | frame pixels => exact .of_settled (.fixed pixels length) fun _ => rfl
  | rainbow => exact .of_settled (.rainbow length) fun _ => rfl
  | repeated base =>
      cases base with
      | nil => exact .idle (fun _ _ _ => rfl) fun _ => rfl
      | cons first rest => exact .of_settled (.repeated (List.cons_ne_nil _ _) length) fun _ => rfl
  | gradient left right curve leftStencils rightStencils =>
      cases left with
      | none => exact .idle (fun _ _ _ => rfl) fun _ => rfl
      | some first =>
          cases right with
          | none => exact .idle (fun _ _ _ => rfl) fun _ => rfl
          | some second =>
              simp only [grounded, childGrounded, Option.isNone_some, Bool.false_or,
                Bool.and_eq_true] at sound
              obtain ⟨⟨one, other⟩, blend⟩ := sound
              refine .of_filled fun positive => ?_
              exact .of_blending (.gradient positive (leftStencils first rfl one)
                (rightStencils second rfl other) curve) blend fun _ => rfl
  | transition before after offset duration curve beforeStencils afterStencils =>
      simp only [grounded] at sound
      split at sound
      · next early => exact .waiting early (of_childGrounded sound fun _ => (beforeStencils _ ·))
      next begun =>
      split at sound
      · next alone =>
          exact .passed begun alone (of_childGrounded sound fun _ => (afterStencils _ ·))
      next both =>
      cases before with
      | none => simp only [Option.isNone_none, Bool.or_true, Bool.true_or, not_true] at both
      | some first =>
          cases after with
          | none => simp only [Option.isNone_none, Bool.or_true, not_true] at both
          | some second =>
              simp only [Bool.and_eq_true] at sound
              obtain ⟨⟨one, other⟩, blend⟩ := sound
              have going : ¬fadeEnd offset duration ≤ now.millis := fun ended =>
                both (by simp only [ended, decide_true, Bool.true_or])
              refine .of_blending (.transition begun going (beforeStencils first rfl one)
                (afterStencils second rfl other) curve) blend fun pixel => ?_
              simp only [covers, if_neg begun, if_neg both]
              rfl
  | cycle frames duration stencils =>
      exact .cycle (of_nthGrounded sound fun _ => (stencils _ ·))
  | loop patterns hold fade curve stencils =>
      simp only [grounded] at sound
      split at sound
      · next still => exact .resting still (of_nthGrounded sound fun _ => (stencils _ ·))
      · next moving =>
          simp only [Bool.and_eq_true] at sound
          obtain ⟨⟨one, other⟩, blend⟩ := sound
          refine .of_blending (.loop moving (of_nthGrounded one fun _ => (stencils _ ·))
            (of_nthGrounded other fun _ => (stencils _ ·)) curve) blend fun pixel => ?_
          simp only [covers, if_neg moving]
  | rotate child rate stencils =>
      exact .rotate (of_childGrounded sound fun _ => (stencils _ ·)) rate
  | pingPong child rate stencils =>
      exact .pingPong (of_childGrounded sound fun _ => (stencils _ ·)) rate
  | chronometer child stencils =>
      exact .chronometer (of_childGrounded sound fun _ => (stencils _ ·))
  | crop child segment stencils =>
      by_cases fits : segment.Fits length
      · simp only [grounded, fits, decide_true, Bool.not_true, Bool.false_or] at sound
        exact .crop fits (of_childGrounded sound fun _ => (stencils _ ·))
      · refine .idle (fun scratch strip same => ?_) fun pixel => ?_
        · rw [render_crop, same, if_neg fits]
        · simp only [covers, fits, decide_false, Bool.false_and]
  | scale child method size ratio stencils =>
      cases usable : scaledLength? size ratio length with
      | none =>
          refine .idle (fun scratch strip same => ?_) fun pixel => ?_
          · rw [render_scale, same, usable]
          · simp only [covers, usable]
      | some scaled =>
          simp only [grounded, usable] at sound
          exact .scale usable (of_childGrounded sound fun _ => (stencils _ ·))
  | mixer patterns weights stencils =>
      by_cases paired : patterns.length = weights.length
      · simp only [grounded, paired, bne_self_eq_false, Bool.false_or] at sound
        exact .mixer paired (of_eachGrounded sound fun _ => (stencils _ ·))
      · refine .idle (fun scratch strip _ => ?_) fun pixel => ?_
        · rw [render_mixer, if_pos paired]
        · simp only [covers, beq_eq_false_iff_ne, ne_eq, paired, not_false_eq_true]

theorem childGrounded_of_draws {child : Option Pattern} (now : Time) {length : Nat}
    (draws : ChildDraws child length)
    (holds : ∀ inner ∈ child, inner.FullyDraws length → inner.grounded now length = true) :
    childGrounded child now length = true := by
  obtain ⟨inner, rfl, full⟩ := draws.present
  exact holds inner rfl full

theorem nthGrounded_of_draws {patterns : List Pattern} (now : Time) {length : Nat}
    (draws : EachDraws patterns length)
    (holds : ∀ child ∈ patterns, child.FullyDraws length → child.grounded now length = true)
    (index : Nat) : nthGrounded patterns index now length = true := by
  induction patterns generalizing index with
  | nil => rfl
  | cons pattern rest ih =>
      cases index with
      | zero => exact holds pattern List.mem_cons_self draws.1
      | succ index =>
          exact ih draws.2 (fun child present => holds child (List.mem_cons_of_mem _ present)) index

theorem eachGrounded_of_draws {patterns : List Pattern} (now : Time) {length : Nat}
    (draws : EachDraws patterns length)
    (holds : ∀ child ∈ patterns, child.FullyDraws length → child.grounded now length = true) :
    eachGrounded patterns now length = true := by
  induction patterns with
  | nil => rfl
  | cons pattern rest ih =>
      exact Bool.and_eq_true_iff.mpr ⟨holds pattern List.mem_cons_self draws.1,
        ih draws.2 fun child present => holds child (List.mem_cons_of_mem _ present)⟩

/-- A tree that draws every pixel at every node is grounded at any time. -/
theorem grounded_of_fullyDraws (pattern : Pattern) (now : Time) {length : Nat}
    (full : pattern.FullyDraws length) : pattern.grounded now length = true := by
  induction pattern using induct generalizing now length with
  | color ink => rfl
  | frame pixels => rfl
  | rainbow => rfl
  | repeated base => rfl
  | gradient left right curve leftGrounded rightGrounded =>
      have first := childGrounded_of_draws now full.1 fun _ present => leftGrounded _ present now
      have second := childGrounded_of_draws now full.2 fun _ present => rightGrounded _ present now
      have blend := Blend.grounds_of_covers (Blend.slope curve length) fun pixel =>
        childCovers_of_draws now full.1 fun inner _ draws => covers_of_fullyDraws inner draws
      simp only [grounded, first, second, blend, Bool.and_self, Bool.or_true]
  | transition before after offset duration curve beforeGrounded afterGrounded =>
      have first := childGrounded_of_draws now full.1 fun _ present => beforeGrounded _ present now
      have second := childGrounded_of_draws (now.since offset.toNat) full.2
        fun _ present => afterGrounded _ present (now.since offset.toNat)
      have blend := Blend.grounds_of_covers (fun _ => fadeWeight offset duration curve now)
        fun pixel => childCovers_of_draws (now.since offset.toNat) full.2 fun inner _ draws =>
          covers_of_fullyDraws inner draws
      simp only [grounded, first, second, blend, Bool.and_self, ite_self]
  | cycle frames duration each =>
      exact nthGrounded_of_draws now full.2 (fun _ present => each _ present now) _
  | loop patterns hold fade curve each =>
      have drawn := nthGrounded_of_draws now full.2 fun _ present => each _ present now
      have inside := loopIndex_lt (List.length_pos_iff.mpr full.1) hold fade now
      have blend := Blend.grounds_of_covers (fun _ => loopWeight hold fade curve now) fun pixel =>
        nthCovers_of_draws now full.2 inside fun child _ draws => covers_of_fullyDraws child draws
      simp only [grounded, drawn, blend, Bool.and_self, ite_self]
  | rotate child rate inner =>
      exact childGrounded_of_draws now full fun _ present => inner _ present now
  | pingPong child rate inner =>
      exact childGrounded_of_draws now full fun _ present => inner _ present now
  | chronometer child inner =>
      exact childGrounded_of_draws now full fun _ present => inner _ present now
  | crop child segment inner =>
      obtain ⟨starts, stops, draws⟩ := full
      have drawn := childGrounded_of_draws now draws fun _ present => inner _ present now
      simp only [grounded, starts, stops, Nat.sub_zero, drawn, Bool.or_true]
  | scale child method size ratio inner =>
      simp only [FullyDraws] at full
      split at full
      · exact full.elim
      · next scaled usable =>
          simp only [grounded, usable]
          exact childGrounded_of_draws now full.2 fun _ present => inner _ present now
  | mixer patterns weights each =>
      have drawn := eachGrounded_of_draws now full.2 fun _ present => each _ present now
      simp only [grounded, drawn, Bool.or_true]

/-- To draw a second time on what has just been drawn changes nothing. -/
def Redrawn (pattern : Pattern) (now : Time) (length : Nat) : Prop :=
  ∀ (scratch : Scratch) (strip : Strip), strip.length = length →
    let first := pattern.render now scratch strip
    (pattern.render now first.2 first.1).1 = first.1

theorem Stencils.redrawn {pattern : Pattern} {now : Time} {length : Nat}
    (stencils : pattern.Stencils now length) : pattern.Redrawn now length := by
  intro scratch strip same
  obtain ⟨shown, paints⟩ := stencils scratch
  have drawn := paints.drawn scratch .start strip same
  have size := paints.length_drawn .start same
  dsimp only
  rw [paints.drawn _ (Again.start.draw same) _ size, drawn,
    Strip.overlay_again (paints.size.trans same.symm)]

/-- Where every node draws every pixel, no blend takes in what the strip held. -/
theorem redrawn_of_fullyDraws {pattern : Pattern} {length : Nat} (full : pattern.FullyDraws length)
    (now : Time) : pattern.Redrawn now length :=
  (stencils_of_grounded pattern (grounded_of_fullyDraws pattern now full)).redrawn

namespace Blending

variable {pattern : Pattern} {now : Time} {length : Nat} {covered : Nat → Bool}
  {weight : Nat → Level} {frame : Scratch → Strip}

/-- Over a dark frame a blend has to be grounded: a lit pixel that is neither covered nor left nor
put out gets darker with each drawing. -/
theorem grounds_of_redrawn (blending : Blending pattern now length covered weight frame)
    (dark : frame .fresh = Strip.dark length) (redrawn : Redrawn pattern now length) :
    Blend.grounds covered weight length = true := by
  obtain ⟨-, kept, shown, first, size, step⟩ := blending .fresh
  have lit : (Strip.lit length).length = length := List.length_replicate
  obtain ⟨holds, drawn⟩ := step .fresh first (Strip.lit length) lit
  have same := redrawn .fresh (Strip.lit length) lit
  have reached := (length_render pattern now .fresh (Strip.lit length)).trans lit
  have again := (step _ holds _ reached).2
  dsimp only at same
  rw [again, drawn, dark] at same
  exact Blend.grounds_of_same size same

/-- Over a dark frame a blend is redrawn as it is exactly if it is grounded. -/
theorem redrawn_iff (blending : Blending pattern now length covered weight frame)
    (dark : frame .fresh = Strip.dark length)
    (covers : ∀ pixel, pattern.covers now length pixel = (covered pixel || weight pixel == 255)) :
    Redrawn pattern now length ↔ Blend.grounds covered weight length = true :=
  ⟨blending.grounds_of_redrawn dark,
    fun sound => (Stencils.of_blending blending sound covers).redrawn⟩

end Blending

/-- A tree all of whose blends in place are grounded is redrawn as it is: the second drawing of a
time leaves exactly the pixels of the first, from any scratch and on any strip. Each way to blend
the tree with a pattern that is dark, beside it in a gradient, after it in a loop or before it in a
fade, is redrawn as it is only if that blend is grounded as well. -/
theorem redrawn_of_grounded {pattern : Pattern} {now : Time} {length : Nat}
    (sound : pattern.grounded now length = true) :
    pattern.Redrawn now length ∧
    (∀ curve, Redrawn (.gradient (some pattern) (some (.color .black)) curve) now length ↔
      Blend.grounds (pattern.covers now length) (Blend.slope curve length) length = true) ∧
    (∀ hold fade curve, loopFades hold fade now → loopIndex 2 hold fade now = 0 →
      (Redrawn (.loop [pattern, .color .black] hold fade curve) now length ↔
        Blend.grounds (pattern.covers now length) (fun _ => loopWeight hold fade curve now)
          length = true)) ∧
    ∀ offset duration curve (later : Time), later.since offset.toNat = now →
      offset.toNat < later.millis → later.millis < fadeEnd offset duration →
      (Redrawn (.transition (some (.color .black)) (some pattern) offset duration curve) later
          length ↔
        Blend.grounds (pattern.covers now length) (fun _ => fadeWeight offset duration curve later)
          length = true) := by
  have stencils := stencils_of_grounded pattern sound
  have black : ∀ time, Stencils (.color .black) time length :=
    fun _ => .of_settled (.color .black length) fun _ => rfl
  have dark : ∀ time scratch (strip : Strip),
      (render (.color .black) time scratch (strip.reset length)).1 = Strip.dark length := by
    intro time scratch strip
    rw [render, Strip.fill, Strip.length_reset, Strip.dark]
  refine ⟨stencils.redrawn, fun curve => ?_, fun hold fade curve fading shown => ?_,
    fun offset duration curve later clock begun going => ?_⟩
  · rcases Nat.eq_zero_or_pos length with rfl | positive
    · have empty : Stencils (.gradient (some pattern) (some (.color .black)) curve) now 0 :=
        .of_filled fun some => absurd some (Nat.lt_irrefl 0)
      exact ⟨fun _ => rfl, fun _ => empty.redrawn⟩
    · exact (Blending.gradient positive stencils (black now) curve).redrawn_iff
        (dark now _ _) fun _ => rfl
  · have moving : ¬(loopPeriod hold fade = 0 ∨ [pattern, .color .black] = [] ∨
        now.millis % loopPeriod hold fade < hold.toNat) := by
      rintro (none | none | held)
      · exact fading.1 none
      · cases none
      · exact Nat.not_lt_of_le fading.2 held
    have index : loopIndex [pattern, Pattern.color .black].length hold fade now = 0 := shown
    have blending : Blending (.loop [pattern, .color .black] hold fade curve) now length _ _ _ :=
      .loop moving (by rw [index]; rintro inner ⟨⟩; exact stencils)
        (by rw [index]; rintro inner ⟨⟩; exact black now) curve
    rw [index] at blending
    refine blending.redrawn_iff (dark now .fresh _) fun pixel => ?_
    simp only [covers, if_neg moving, index]
  · subst clock
    refine (Blending.transition (Nat.not_le_of_lt begun) (Nat.not_le_of_lt going) (black later)
      stencils curve).redrawn_iff (dark later _ _) fun pixel => ?_
    simp only [covers, if_neg (Nat.not_le_of_lt begun), Nat.not_le_of_lt going, decide_false,
      Option.isNone_some, Bool.or_false, Bool.false_eq_true, ↓reduceIte]
    rfl

/-- A gradient whose left side is one pixel in the middle. At its ends it takes from one side
only, so that it is redrawn as it is, beside a dark pattern too. In the middle of a fade to or from
a dark pattern its first pixel, which it leaves alone, gets darker. -/
theorem redrawn_of_grounded_crop :
    let crop : Pattern := .crop (some (.color ⟨255, 0, 0⟩)) ⟨1, 2⟩
    let tree : Pattern := .gradient (some crop) (some (.color ⟨0, 0, 255⟩)) .linear
    let now : Time := .ofMillis 500
    tree.validate 3 = .ok () ∧ tree.grounded now 3 = true ∧ tree.Redrawn now 3 ∧
      Redrawn (.gradient (some tree) (some (.color .black)) .linear) now 3 ∧
      ¬Redrawn (.loop [tree, .color .black] 0 1000 .linear) now 3 ∧
      ¬Redrawn (.transition (some (.color .black)) (some tree) 100 1000 .linear) (.ofMillis 600)
        3 := by
  intro crop tree now
  have sound : tree.grounded now 3 = true := by decide
  obtain ⟨redrawn, beside, turned, faded⟩ := redrawn_of_grounded sound
  refine ⟨rfl, sound, redrawn, (beside .linear).mpr (by decide), fun again => ?_, fun again => ?_⟩
  · have blend := (turned 0 1000 .linear ⟨by decide, by decide⟩ (by decide)).mp again
    revert blend
    decide
  · have blend := (faded 100 1000 .linear (.ofMillis 600) (by decide) (by decide)
      (by decide)).mp again
    revert blend
    decide

/-- A gradient whose left side is a crop of one pixel: in the middle the second drawing takes in
the blend that the first one has made. -/
theorem not_redrawn_gradient_crop :
    let crop : Pattern := .crop (some (.color ⟨0, 0, 255⟩)) ⟨0, 1⟩
    let pattern : Pattern := .gradient (some crop) (some (.color ⟨255, 0, 0⟩)) .linear
    pattern.validate 3 = .ok () ∧ ¬pattern.Redrawn (.ofMillis 0) 3 := by
  intro crop pattern
  refine ⟨rfl, fun redrawn => ?_⟩
  have same := redrawn .fresh (Strip.dark 3) rfl
  revert same
  decide

end Pattern

end LightShow
