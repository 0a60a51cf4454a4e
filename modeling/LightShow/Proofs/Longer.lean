import LightShow.Proofs.Faults

/-! Trees on longer strips. A tree that passes its check on some length passes on every longer one:
lengths grow along with the strip or do not hang on it at all, unless a scaled pattern takes its
length from the strip by a ratio. -/

namespace LightShow

namespace Pattern

/-- The node is no scaled pattern that takes its length from its strip. -/
def Sized : Pattern → Prop
  | .scale _ _ size ratio => size ≠ 0 ∨ ¬(0.0 < ratio ∧ ratio.isFinite)
  | _ => True

/-- No node of the tree takes its length from its strip. -/
inductive AllSized : Pattern → Prop
  | node {pattern : Pattern} (own : pattern.Sized)
      (each : ∀ child ∈ pattern.children, AllSized child) : AllSized pattern

theorem scaledLength?_of_sized {size : UInt64} {ratio : Float32}
    (sized : size ≠ 0 ∨ ¬(0.0 < ratio ∧ ratio.isFinite)) (short long : Nat) :
    scaledLength? size ratio short = scaledLength? size ratio long := by
  by_cases given : size = 0
  · have useless := sized.resolve_left (not_not_intro given)
    simp only [scaledLength?, given, useless, ne_eq, not_true_eq_false, ↓reduceIte]
  · simp only [scaledLength?, given, ne_eq, not_false_eq_true, ↓reduceIte]

section Growing

variable {pattern : Pattern} {short long : Nat} (sized : pattern.Sized) (longer : short ≤ long)
  (sound : ¬pattern.Bad short)

include sized longer sound

/-- A node that makes sense on some length does so on every longer one. -/
theorem not_bad_of_le : ¬pattern.Bad long := by
  cases pattern with
  | crop child segment =>
      have fits := Decidable.not_not.mp sound
      exact not_not_intro ⟨fits.1, Nat.le_trans fits.2 longer⟩
  | scale child method size ratio =>
      simpa only [Bad, scaledLength?_of_sized sized short long] using sound
  | _ => exact sound

/-- The children of a node that makes sense are drawn on no less if it is drawn on more. -/
theorem inner_le_inner : pattern.inner short ≤ pattern.inner long := by
  cases pattern with
  | pingPong child rate =>
      show short * 2 - 1 ≤ long * 2 - 1
      omega
  | chronometer child => exact Nat.le_refl _
  | crop child segment =>
      have fits : segment.Fits short := Decidable.not_not.mp sound
      have still : segment.Fits long := ⟨fits.1, Nat.le_trans fits.2 longer⟩
      simp only [inner, if_pos fits, if_pos still, Nat.le_refl]
  | scale child method size ratio =>
      simp only [inner, scaledLength?_of_sized sized short long, Nat.le_refl]
  | _ => exact longer

end Growing

theorem validate_eq_ok_iff_children {pattern : Pattern} {length : Nat} :
    validate pattern length = .ok () ↔
      ¬pattern.Bad length ∧
        ∀ child ∈ pattern.children, validate child (pattern.inner length) = .ok () := by
  simp only [validate_eq_ok, places_eq pattern, List.forall_mem_cons, List.forall_mem_flatMap]

/-- A tree without ratios that passes on some length passes on every longer one. -/
theorem validate_of_le {pattern : Pattern} {short long : Nat} (sized : pattern.AllSized)
    (longer : short ≤ long) (valid : validate pattern short = .ok ()) :
    validate pattern long = .ok () := by
  induction sized generalizing short long with
  | node own each below =>
      rw [validate_eq_ok_iff_children] at valid ⊢
      obtain ⟨sound, inside⟩ := valid
      refine ⟨not_bad_of_le own longer sound, fun child present => ?_⟩
      exact below child present (inner_le_inner own longer sound) (inside child present)

/-- A trail of which five places are shown, on three pixels and on a long strip. -/
theorem validate_of_le_croppedTrail :
    let scaled := scale (some (.chronometer none)) .linear 9 1.0
    let tree := pingPong (some (.crop (some scaled) ⟨0, 5⟩)) 0.0
    tree.AllSized ∧ 3 ≤ 300 ∧ validate tree 2 = .error (.cropOutside ⟨0, 5⟩ 3) ∧
      validate tree 3 = .ok () ∧ validate tree 300 = .ok () := by
  intro scaled tree
  have clock : AllSized (.chronometer none) := .node trivial (List.forall_mem_nil _)
  have inside : scaled.AllSized := .node (.inl (by decide)) (List.forall_mem_singleton.mpr clock)
  have part : AllSized (.crop (some scaled) ⟨0, 5⟩) :=
    .node trivial (List.forall_mem_singleton.mpr inside)
  have sized : tree.AllSized := .node trivial (List.forall_mem_singleton.mpr part)
  exact ⟨sized, by decide, rfl, rfl, validate_of_le sized (show 3 ≤ 300 by decide) rfl⟩

/-- By a ratio, a strip can be too long. -/
example : validate (.scale none .linear 0 1.0) 65536 = .ok () ∧
    validate (.scale none .linear 0 1.0) 65537 = .error (.scaleTooLong 65537) := ⟨rfl, rfl⟩

end Pattern

end LightShow
