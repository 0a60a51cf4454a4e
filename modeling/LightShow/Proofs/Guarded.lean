import LightShow.Proofs.Accounts

/-! What a check of a tree is good for. A tree that passes leaves no node out when it is drawn, at
any time and whatever is in the scratch; a tree that fails is refused for its first fault. The
check keeps most scratch strips short: only a ping pong can ask for a longer one than a scaled
pattern may. -/

namespace LightShow

namespace Pattern

/-- A tree that passes is drawn without a gap; one that fails is refused for the first of its
nodes that make no sense. -/
theorem validate_guards (pattern : Pattern) (length : Nat) :
    (validate pattern length = .ok () →
      ∀ now scratch strip, strip.length = length →
        (trace pattern now scratch strip).value = render pattern now scratch strip ∧
          ∀ gap, .skips gap ∉ (trace pattern now scratch strip).notes) ∧
    (∀ refusal, validate pattern length = .error refusal →
      ∃ before node size after, pattern.places length = before ++ (node, size) :: after ∧
        (∀ place ∈ before, ¬place.1.Bad place.2) ∧ node.Bad size ∧
        node.refusal? size = some refusal) := by
  constructor
  · intro valid now scratch strip long
    refine ⟨value_trace pattern now scratch strip, fun gap skipped => ?_⟩
    subst long
    obtain ⟨place, here, _, _, _, _, _, _, reason⟩ := exists_owner skipped
    exact validate_eq_ok.mp valid place here (bad_of_gap? reason)
  · intro refusal refused
    rw [validate_eq_verdict, Refusal.verdict_eq_error, List.findSome?_eq_some_iff] at refused
    obtain ⟨before, ⟨node, size⟩, after, split, found, earlier⟩ := refused
    exact ⟨before, node, size, after, split,
      fun place here => refusal?_eq_none.mp (earlier place here), bad_of_refusal? found, found⟩

/-- A trail that is cropped to what three pixels leave it is sound on three pixels, and does not
fit on two. -/
theorem validate_guards_croppedTrail :
    let tree := pingPong (some (.crop (some (.color ⟨255, 0, 0⟩)) ⟨0, 5⟩)) 0.0
    validate tree 3 = .ok () ∧ validate tree 2 = .error (.cropOutside ⟨0, 5⟩ 3) ∧
      (∀ now scratch strip, strip.length = 3 →
        (trace tree now scratch strip).value = render tree now scratch strip ∧
          ∀ gap, .skips gap ∉ (trace tree now scratch strip).notes) ∧
      ∃ before node size after, tree.places 2 = before ++ (node, size) :: after ∧
        (∀ place ∈ before, ¬place.1.Bad place.2) ∧ node.Bad size ∧
        node.refusal? size = some (.cropOutside ⟨0, 5⟩ 3) :=
  ⟨rfl, rfl, (validate_guards _ 3).1 rfl, (validate_guards _ 2).2 _ rfl⟩

/-- The children of a sound node are drawn on no more than a scaled pattern may ask for, unless a
ping pong nearly doubles their strip. -/
theorem inner_le {pattern : Pattern} {length : Nat} (sound : ¬pattern.Bad length)
    (short : length ≤ longestScale)
    (bounces : ∀ child rate, pattern = .pingPong child rate → length * 2 - 1 ≤ longestScale) :
    pattern.inner length ≤ longestScale := by
  cases pattern with
  | pingPong child rate => exact bounces child rate rfl
  | chronometer child =>
      change 4 ≤ 65536
      omega
  | crop child segment =>
      rw [inner]
      split
      · next fits =>
          have inside := fits.2
          unfold Segment.size
          omega
      · exact Nat.zero_le _
  | scale child method size ratio =>
      rw [inner]
      cases found : scaledLength? size ratio length with
      | none => exact Nat.zero_le _
      | some scaled =>
          refine Nat.le_of_not_lt fun long => sound fun other same => ?_
          rw [found] at same
          cases same
          exact long
  | _ => exact short

theorem resets_le {pattern : Pattern} {now : Time} {scratch : Scratch} {strip : Strip}
    (sound : ∀ place ∈ pattern.places strip.length, ¬place.1.Bad place.2)
    (short : strip.length ≤ longestScale)
    (bounces : ∀ child rate length,
      .draws (.pingPong child rate) length ∈ (trace pattern now scratch strip).notes →
        length * 2 - 1 ≤ longestScale)
    {size : Nat} (reset : .resets size ∈ (trace pattern now scratch strip).notes) :
    size ≤ longestScale := by
  induction pattern using induct_children generalizing now scratch strip with
  | node pattern bounded =>
      have fits : pattern.inner strip.length ≤ longestScale := by
        refine inner_le (sound _ (mem_places ..)) short fun child rate same => ?_
        subst same
        exact bounces child rate _ (draws_trace ..)
      rcases accounted_trace now scratch strip pattern _ reset with
        own | ⟨child, present, drawing, ⟨earlier, kept, part, _, long, rfl⟩, whole, inside⟩
      · rw [own]
        exact fits
      · refine bounded child present (fun place here => ?_) (Nat.le_trans (Nat.le_of_eq long) fits)
          (fun inner rate length drawn => bounces inner rate length (whole drawn)) inside
        rw [long] at here
        exact sound place (places_child present _ here)

/-- In a sound tree on a strip that is not too long, every scratch strip is as short as that of a
scaled pattern has to be exactly if the ping pongs that are drawn have short strips enough. -/
theorem resets_le_iff {pattern : Pattern} {strip : Strip}
    (valid : validate pattern strip.length = .ok ()) (short : strip.length ≤ longestScale)
    (now : Time) (scratch : Scratch) :
    (∀ size, .resets size ∈ (trace pattern now scratch strip).notes → size ≤ longestScale) ↔
      ∀ child rate length,
        .draws (.pingPong child rate) length ∈ (trace pattern now scratch strip).notes →
          length * 2 - 1 ≤ longestScale := by
  constructor
  · intro bounded child rate length drawn
    obtain ⟨time, kept, part, rfl, within⟩ := exists_drawing drawn
    by_cases filled : 0 < part.length
    · exact bounded _ (within (resets_pingPong child rate time kept filled))
    · omega
  · intro bounces size reset
    exact resets_le (validate_eq_ok.mp valid) short bounces reset

/-- The trail of three pixels has five. -/
theorem resets_le_iff_trail :
    let tree := pingPong (some (.color ⟨255, 0, 0⟩)) 0.0
    validate tree 3 = .ok () ∧ 3 ≤ longestScale ∧
      ∀ size, .resets size ∈ (trace tree ⟨0⟩ .fresh (Strip.dark 3)).notes →
        size ≤ longestScale := by
  intro tree
  have notes : (trace tree ⟨0⟩ .fresh (Strip.dark 3)).notes =
      [.draws tree 3, .resets 5, .draws (.color ⟨255, 0, 0⟩) 5] := rfl
  refine ⟨rfl, by decide, (@resets_le_iff _ (Strip.dark 3) rfl (by decide) _ _).mpr ?_⟩
  intro child rate length drawn
  rw [notes] at drawn
  have three : length = 3 := by
    simp only [List.mem_cons, Event.draws.injEq, reduceCtorEq, false_and, or_false,
      List.not_mem_nil] at drawn
    exact drawn.2
  rw [three]
  decide

/-- A sound ping pong on a strip as long as a scaled pattern may ask for nearly doubles it. -/
theorem resets_pingPong_long :
    let tree := pingPong (some (.color ⟨255, 0, 0⟩)) 0.0
    let strip := Strip.dark longestScale
    strip.length ≤ longestScale ∧ validate tree strip.length = .ok () ∧
      ∃ size, .resets size ∈ (trace tree ⟨0⟩ .fresh strip).notes ∧ longestScale < size := by
  intro tree strip
  have long : strip.length = longestScale := List.length_replicate
  have positive : 0 < strip.length := by
    rw [long]
    decide
  refine ⟨Nat.le_of_eq long, rfl, _, resets_pingPong _ _ ⟨0⟩ .fresh positive, ?_⟩
  rw [long]
  decide

end Pattern

end LightShow
