import LightShow.Proofs.Drawing

/-! Trees that draw every pixel at every node. Whatever their scratch and the strip held before is
drawn over, kind by kind. -/

namespace LightShow

namespace Pattern

mutual

/-- Every node of the tree draws every pixel of the strip that it is given, when the whole tree is
given a strip of this length: nothing is missing, a crop covers its strip, and a scaled
pattern has pixels to be scaled from. -/
def FullyDraws : Pattern → (length : Nat) → Prop
  | .color _, _ => True
  | .frame _, _ => True
  | .rainbow, _ => True
  | .repeated base, _ => base ≠ []
  | .gradient left right _, length => ChildDraws left length ∧ ChildDraws right length
  | .transition before after _ _ _, length => ChildDraws before length ∧ ChildDraws after length
  | .cycle frames _, length => frames ≠ [] ∧ EachDraws frames length
  | .loop patterns _ _ _, length => patterns ≠ [] ∧ EachDraws patterns length
  | .rotate child _, length => ChildDraws child length
  | .pingPong child _, length => ChildDraws child (length * 2 - 1)
  | .chronometer child, _ => ChildDraws child Clock.paletteSize
  | .crop child segment, length =>
      segment.start.toNat = 0 ∧ segment.stop.toNat = length ∧ ChildDraws child length
  | .scale child _ size ratio, length =>
      match scaledLength? size ratio length with
      | none => False
      | some scaled => (scaled = 0 → length = 0) ∧ ChildDraws child scaled
  | .mixer patterns weights, length =>
      patterns.length = weights.length ∧ EachDraws patterns length

def ChildDraws : Option Pattern → (length : Nat) → Prop
  | none, _ => False
  | some child, length => child.FullyDraws length

def EachDraws : List Pattern → (length : Nat) → Prop
  | [], _ => True
  | pattern :: patterns, length => pattern.FullyDraws length ∧ EachDraws patterns length

end

mutual

def decideFullyDraws : (pattern : Pattern) → (length : Nat) →
    Decidable (pattern.FullyDraws length)
  | .color _, _ => isTrue trivial
  | .frame _, _ => isTrue trivial
  | .rainbow, _ => isTrue trivial
  | .repeated base, _ => inferInstanceAs (Decidable (base ≠ []))
  | .gradient left right _, length =>
      @instDecidableAnd _ _ (decideChildDraws left length) (decideChildDraws right length)
  | .transition before after _ _ _, length =>
      @instDecidableAnd _ _ (decideChildDraws before length) (decideChildDraws after length)
  | .cycle frames _, length =>
      @instDecidableAnd (frames ≠ []) _ _ (decideEachDraws frames length)
  | .loop patterns _ _ _, length =>
      @instDecidableAnd (patterns ≠ []) _ _ (decideEachDraws patterns length)
  | .rotate child _, length => decideChildDraws child length
  | .pingPong child _, length => decideChildDraws child (length * 2 - 1)
  | .chronometer child, _ => decideChildDraws child Clock.paletteSize
  | .crop child segment, length =>
      @instDecidableAnd (segment.start.toNat = 0) _ _
        (@instDecidableAnd (segment.stop.toNat = length) _ _ (decideChildDraws child length))
  | .scale child _ size ratio, length =>
      match usable : scaledLength? size ratio length with
      | none => isFalse (by simp only [FullyDraws, usable, not_false_eq_true])
      | some scaled =>
          @decidable_of_iff _ _ (by simp only [FullyDraws, usable])
            (@instDecidableAnd (scaled = 0 → length = 0) _ _ (decideChildDraws child scaled))
  | .mixer patterns weights, length =>
      @instDecidableAnd (patterns.length = weights.length) _ _ (decideEachDraws patterns length)

def decideChildDraws : (child : Option Pattern) → (length : Nat) →
    Decidable (ChildDraws child length)
  | none, _ => isFalse id
  | some child, length => decideFullyDraws child length

def decideEachDraws : (patterns : List Pattern) → (length : Nat) →
    Decidable (EachDraws patterns length)
  | [], _ => isTrue trivial
  | pattern :: patterns, length =>
      @instDecidableAnd _ _ (decideFullyDraws pattern length) (decideEachDraws patterns length)

end

instance (pattern : Pattern) (length : Nat) : Decidable (pattern.FullyDraws length) :=
  decideFullyDraws pattern length

theorem EachDraws.of_mem {patterns : List Pattern} {length : Nat}
    (each : EachDraws patterns length) {child : Pattern} (present : child ∈ patterns) :
    child.FullyDraws length := by
  induction patterns with
  | nil => cases present
  | cons pattern rest ih =>
      rcases List.mem_cons.mp present with rfl | later
      · exact each.1
      · exact ih each.2 later

theorem ChildDraws.present {child : Option Pattern} {length : Nat}
    (draws : ChildDraws child length) : ∃ inner, child = some inner ∧ inner.FullyDraws length := by
  cases child with
  | none => exact draws.elim
  | some inner => exact ⟨inner, rfl, draws⟩

/-- The drawing on a strip of this length does not depend on the scratch or on the strip. -/
def Settled (pattern : Pattern) (length : Nat) : Prop :=
  ∀ (now : Time) (one other : Scratch) (left right : Strip), left.length = length →
    right.length = length → (pattern.render now one left).1 = (pattern.render now other right).1

theorem not_isEmpty {strip : Strip} {length : Nat} (same : strip.length = length)
    (positive : 0 < length) : ¬strip.isEmpty = true := by
  rw [List.isEmpty_iff]
  rintro rfl
  exact absurd same (Nat.ne_of_lt positive)

theorem cycleIndex_lt {count : Nat} (positive : 0 < count) (duration : UInt64) (now : Time) :
    cycleIndex count duration now < count := by
  unfold cycleIndex
  split
  · exact positive
  · exact Nat.mod_lt _ positive

theorem loopIndex_lt {count : Nat} (positive : 0 < count) (hold fade : UInt64) (now : Time) :
    loopIndex count hold fade now < count := by
  unfold loopIndex
  split
  · exact positive
  · exact Nat.mod_lt _ positive

namespace Settled

/-- Nothing can differ on a strip without pixels. -/
theorem of_filled {pattern : Pattern} {length : Nat}
    (settled : 0 < length → Settled pattern length) : Settled pattern length := by
  intro now one other left right leftLength rightLength
  rcases Nat.eq_zero_or_pos length with empty | positive
  · rw [List.eq_nil_of_length_eq_zero ((length_render pattern now one left).trans
        (leftLength.trans empty)),
      List.eq_nil_of_length_eq_zero ((length_render pattern now other right).trans
        (rightLength.trans empty))]
  · exact settled positive now one other left right leftLength rightLength

theorem frame {child : Pattern} {length : Nat} (settled : Settled child length)
    (now : Time) (one other : Scratch) (left right : Strip) :
    (child.render now one (left.reset length)).1 =
      (child.render now other (right.reset length)).1 :=
  settled now one other _ _ (Strip.length_reset left length) (Strip.length_reset right length)

theorem throughFrame {child : Pattern} {size : Nat} (settled : Settled child size)
    (lay : Strip → Strip) (now : Time) (one other : Scratch) (left right : Strip) :
    (throughFrame (some child) size lay now one left).1 =
      (throughFrame (some child) size lay now other right).1 := by
  simp only [Pattern.throughFrame, renderChild, Option.isNone_some, Bool.false_eq_true, ↓reduceIte]
  rw [settled.frame now (one.child 0) (other.child 0) one.strip other.strip]

theorem renderNth {patterns : List Pattern} {length : Nat}
    (settled : ∀ child ∈ patterns, Settled child length) {index : Nat}
    (inside : index < patterns.length) (now : Time) (one other : List Scratch)
    {left right : Strip} (leftLength : left.length = length) (rightLength : right.length = length) :
    (renderNth patterns index now one left).1 = (renderNth patterns index now other right).1 := by
  rw [renderNth_fst, renderNth_fst, List.getElem?_eq_getElem inside]
  exact settled _ (List.getElem_mem inside) now _ _ left right leftLength rightLength

theorem renderEach {patterns : List Pattern} {length : Nat}
    (settled : ∀ child ∈ patterns, Settled child length) (now : Time)
    (one other : List Scratch) (left right : List Strip) :
    (renderEach patterns now one left length).1 =
      (renderEach patterns now other right length).1 := by
  apply List.ext_getElem?
  intro place
  rw [renderEach_fst, renderEach_fst]
  cases found : patterns[place]? with
  | none => rfl
  | some pattern =>
      exact congrArg some ((settled pattern (List.mem_of_getElem? found)).frame now _ _ _ _)

theorem color (ink : Color) (length : Nat) : Settled (.color ink) length := by
  intro now one other left right leftLength rightLength
  simp only [render, Strip.fill, leftLength, rightLength]

theorem fixed (pixels : Strip) (length : Nat) : Settled (.frame pixels) length := by
  intro now one other left right leftLength rightLength
  simp only [render, leftLength, rightLength]

theorem rainbow (length : Nat) : Settled .rainbow length := by
  intro now one other left right leftLength rightLength
  simp only [render, leftLength, rightLength]

theorem repeated {base : Strip} (present : base ≠ []) (length : Nat) :
    Settled (.repeated base) length := by
  intro now one other left right leftLength rightLength
  have some : ¬base.isEmpty = true := by rwa [List.isEmpty_iff]
  simp only [render, leftLength, rightLength, if_neg some]

theorem gradient {first second : Pattern} {length : Nat} (firstSettled : Settled first length)
    (secondSettled : Settled second length) (curve : Curve) :
    Settled (.gradient (some first) (some second) curve) length := by
  apply of_filled
  intro positive now one other left right leftLength rightLength
  simp only [render_gradient, Option.isNone_some, Bool.false_or,
    if_neg (not_isEmpty leftLength positive), if_neg (not_isEmpty rightLength positive),
    renderChild, leftLength, rightLength]
  rw [firstSettled now _ (other.child 0) left right leftLength rightLength,
    secondSettled.frame now _ (other.child 1) _ other.strip]

theorem transition {before after : Pattern} {length : Nat} (beforeSettled : Settled before length)
    (afterSettled : Settled after length) (offset duration : UInt64) (curve : Curve) :
    Settled (.transition (some before) (some after) offset duration curve) length := by
  intro now one other left right leftLength rightLength
  have ended := afterSettled (now.since offset.toNat) (one.child 1) (other.child 1) left right
    leftLength rightLength
  simp only [render_transition, Option.isNone_some, Bool.false_eq_true, ↓reduceIte,
    renderChild, length_render, leftLength, rightLength]
  split
  · exact beforeSettled now _ _ left right leftLength rightLength
  split
  · exact ended
  · rw [ended, beforeSettled.frame now _ (other.child 0) _ other.strip]

theorem cycle {frames : List Pattern} {length : Nat} (present : frames ≠ [])
    (settled : ∀ child ∈ frames, Settled child length) (duration : UInt64) :
    Settled (.cycle frames duration) length := by
  intro now one other left right leftLength rightLength
  rw [render_cycle, render_cycle]
  have inside := cycleIndex_lt (List.length_pos_iff.mpr present) duration now
  exact renderNth settled inside now one.children other.children leftLength rightLength

theorem loop {patterns : List Pattern} {length : Nat} (present : patterns ≠ [])
    (settled : ∀ child ∈ patterns, Settled child length) (hold fade : UInt64) (curve : Curve) :
    Settled (.loop patterns hold fade curve) length := by
  have count := List.length_pos_iff.mpr present
  intro now one other left right leftLength rightLength
  rw [render_loop, render_loop]
  have shown := renderNth settled (loopIndex_lt count hold fade now) now one.children
    other.children leftLength rightLength
  dsimp only
  split
  · exact shown
  · dsimp only
    rw [shown, length_renderNth fun child _ => length_render child, rightLength]
    exact congrArg (Strip.mix _ · _) (renderNth settled (Nat.mod_lt _ count) now _ _
      (Strip.length_reset _ length) (Strip.length_reset _ length))

theorem rotate {child : Pattern} {length : Nat} (settled : Settled child length) (rate : Float32) :
    Settled (.rotate (some child) rate) length := by
  apply of_filled
  intro positive now one other left right leftLength rightLength
  rw [render_rotate, render_rotate, if_neg (not_isEmpty leftLength positive),
    if_neg (not_isEmpty rightLength positive), leftLength, rightLength]
  exact settled.throughFrame _ now one other left right

theorem pingPong {child : Pattern} {length : Nat} (settled : Settled child (length * 2 - 1))
    (rate : Float32) : Settled (.pingPong (some child) rate) length := by
  apply of_filled
  intro positive now one other left right leftLength rightLength
  rw [render_pingPong, render_pingPong, if_neg (not_isEmpty leftLength positive),
    if_neg (not_isEmpty rightLength positive), leftLength, rightLength]
  exact settled.throughFrame _ now one other left right

theorem chronometer {child : Pattern} (settled : Settled child Clock.paletteSize) (length : Nat) :
    Settled (.chronometer (some child)) length := by
  apply of_filled
  intro positive now one other left right leftLength rightLength
  rw [render_chronometer, render_chronometer, if_neg (not_isEmpty leftLength positive),
    if_neg (not_isEmpty rightLength positive), leftLength, rightLength]
  exact settled.throughFrame _ now one other left right

theorem crop {child : Pattern} {segment : Segment} {length : Nat}
    (starts : segment.start.toNat = 0) (stops : segment.stop.toNat = length)
    (settled : Settled child length) : Settled (.crop (some child) segment) length := by
  intro now one other left right leftLength rightLength
  have fits : segment.Fits length := ⟨by omega, by omega⟩
  simp only [render_crop, leftLength, rightLength, if_pos fits, starts, stops, renderChild,
    List.drop_zero, Nat.sub_zero, List.take_zero, List.nil_append]
  rw [List.take_of_length_le (Nat.le_of_eq leftLength),
    List.take_of_length_le (Nat.le_of_eq rightLength),
    List.drop_of_length_le (Nat.le_of_eq leftLength),
    List.drop_of_length_le (Nat.le_of_eq rightLength),
    settled now _ (other.child 0) left right leftLength rightLength]

theorem resample_congr {method : Sampling} {source : Strip} (present : source ≠ [])
    {left right : Strip} (same : left.length = right.length) :
    method.resample source left = method.resample source right := by
  cases source with
  | nil => exact absurd rfl present
  | cons first rest => simp only [Sampling.resample, Strip.fill, same]

theorem scale {child : Pattern} {method : Sampling} {size : UInt64} {ratio : Float32}
    {length scaled : Nat} (usable : scaledLength? size ratio length = some scaled)
    (filled : scaled = 0 → length = 0) (settled : Settled child scaled) :
    Settled (.scale (some child) method size ratio) length := by
  apply of_filled
  intro positive now one other left right leftLength rightLength
  simp only [render_scale, leftLength, rightLength, usable, Pattern.throughFrame, renderChild,
    Option.isNone_some, Bool.false_eq_true, ↓reduceIte]
  rw [settled.frame now _ (other.child 0) _ other.strip]
  -- Only a source without pixels would leave the strip as it was.
  apply resample_congr _ (leftLength.trans rightLength.symm)
  intro empty
  have none := congrArg List.length empty
  rw [length_render, Strip.length_reset] at none
  exact absurd (filled none) (Nat.ne_of_gt positive)

theorem mixer {patterns : List Pattern} {weights : List Float32} {length : Nat}
    (paired : patterns.length = weights.length)
    (settled : ∀ child ∈ patterns, Settled child length) :
    Settled (.mixer patterns weights) length := by
  intro now one other left right leftLength rightLength
  simp only [render_mixer, paired, ne_eq, not_true_eq_false, ↓reduceIte, leftLength, rightLength]
  rw [renderEach settled now one.children other.children]

end Settled

/-- A tree that draws every pixel hides nothing of its scratch or of the strip. -/
theorem settled_of_fullyDraws (pattern : Pattern) {length : Nat}
    (full : pattern.FullyDraws length) : Settled pattern length := by
  induction pattern using induct generalizing length with
  | color ink => exact .color ink length
  | frame pixels => exact .fixed pixels length
  | rainbow => exact .rainbow length
  | repeated base => exact .repeated full length
  | gradient left right curve leftSettled rightSettled =>
      obtain ⟨first, rfl, firstFull⟩ := full.1.present
      obtain ⟨second, rfl, secondFull⟩ := full.2.present
      exact .gradient (leftSettled first rfl firstFull) (rightSettled second rfl secondFull) curve
  | transition before after offset duration curve beforeSettled afterSettled =>
      obtain ⟨first, rfl, firstFull⟩ := full.1.present
      obtain ⟨second, rfl, secondFull⟩ := full.2.present
      exact .transition (beforeSettled first rfl firstFull) (afterSettled second rfl secondFull)
        offset duration curve
  | cycle frames duration settled =>
      exact .cycle full.1 (fun child present => settled child present (full.2.of_mem present))
        duration
  | loop patterns hold fade curve settled =>
      exact .loop full.1 (fun child present => settled child present (full.2.of_mem present))
        hold fade curve
  | rotate child rate settled =>
      obtain ⟨inner, rfl, innerFull⟩ := full.present
      exact .rotate (settled inner rfl innerFull) rate
  | pingPong child rate settled =>
      obtain ⟨inner, rfl, innerFull⟩ := full.present
      exact .pingPong (settled inner rfl innerFull) rate
  | chronometer child settled =>
      obtain ⟨inner, rfl, innerFull⟩ := full.present
      exact .chronometer (settled inner rfl innerFull) length
  | crop child segment settled =>
      obtain ⟨starts, stops, draws⟩ := full
      obtain ⟨inner, rfl, innerFull⟩ := draws.present
      exact .crop starts stops (settled inner rfl innerFull)
  | scale child method size ratio settled =>
      simp only [FullyDraws] at full
      split at full
      · exact full.elim
      · next scaled usable =>
          obtain ⟨inner, rfl, innerFull⟩ := full.2.present
          exact .scale usable full.1 (settled inner rfl innerFull)
  | mixer patterns weights settled =>
      exact .mixer full.1 fun child present => settled child present (full.2.of_mem present)

end Pattern

end LightShow
