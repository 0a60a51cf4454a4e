import LightShow.Pattern.Validate
import LightShow.Proofs.Parts

/-! What a check of a tree finds. The check reports the first fault in the order in which the
nodes are come upon, and it finds one exactly if some node makes no sense on the length that its
ancestors give it. -/

namespace LightShow

/-- The outcome of a check that came upon a fault, or upon none. -/
def Refusal.verdict : Option Refusal → Except Refusal Unit
  | none => .ok ()
  | some refusal => .error refusal

theorem Refusal.verdict_eq_ok {found : Option Refusal} : verdict found = .ok () ↔ found = none := by
  cases found with
  | none => exact iff_of_true rfl rfl
  | some refusal => exact iff_of_false nofun nofun

theorem Refusal.verdict_eq_error {found : Option Refusal} {refusal : Refusal} :
    verdict found = .error refusal ↔ found = some refusal := by
  cases found with
  | none => exact iff_of_false nofun nofun
  | some other => rw [verdict, Except.error.injEq, Option.some.injEq]

namespace Pattern

open Refusal

/-- The node makes no sense where it is drawn on some length. -/
def Bad : Pattern → (length : Nat) → Prop
  | .cycle frames duration, _ => duration = 0 ∧ 2 ≤ frames.length
  | .crop _ segment, length =>
      ¬(segment.start.toNat ≤ segment.stop.toNat ∧ segment.stop.toNat ≤ length)
  | .scale _ _ size ratio, length =>
      ∀ scaled, scaledLength? size ratio length = some scaled → longestScale < scaled
  | .mixer patterns weights, _ => patterns.length ≠ weights.length
  | _, _ => False

/-- What is said of a node that makes no sense, whatever its children are. -/
def refusal? : Pattern → (length : Nat) → Option Refusal
  | .cycle frames duration, _ =>
      if duration = 0 ∧ 1 < frames.length then some .stillCycle else none
  | .crop _ segment, length =>
      if segment.Fits length then none else some (.cropOutside segment length)
  | .scale _ _ size ratio, length =>
      match scaledLength? size ratio length with
      | none => some .noScale
      | some scaled => if longestScale < scaled then some (.scaleTooLong scaled) else none
  | .mixer patterns weights, _ =>
      if patterns.length ≠ weights.length then
        some (.mixerCounts patterns.length weights.length)
      else none
  | _, _ => none

theorem refusal?_eq_none {pattern : Pattern} {length : Nat} :
    pattern.refusal? length = none ↔ ¬pattern.Bad length := by
  cases pattern with
  | cycle frames duration => simp [refusal?, Bad, Nat.lt_iff_add_one_le]
  | crop child segment =>
      rw [Bad, Decidable.not_not]
      by_cases fits : segment.Fits length
      · exact iff_of_true (if_pos fits) fits
      · exact iff_of_false (by simp [refusal?, fits]) fits
  | scale child method size ratio =>
      simp only [refusal?, Bad]
      cases scaledLength? size ratio length with
      | none => simp
      | some scaled => simp
  | mixer patterns weights => simp [refusal?, Bad]
  | _ => simp [refusal?, Bad]

theorem bad_of_refusal? {pattern : Pattern} {length : Nat} {refusal : Refusal}
    (found : pattern.refusal? length = some refusal) : pattern.Bad length := by
  refine Classical.byContradiction fun sound => ?_
  rw [refusal?_eq_none.mpr sound] at found
  cases found

theorem validateChild_eq (child : Option Pattern) (length : Nat) :
    validateChild child length = forM child.toList fun inner => validate inner length := by
  cases child with
  | none => rfl
  | some inner =>
      rw [Option.toList_some, List.forM_cons, List.forM_nil, validateChild]
      cases validate inner length <;> rfl

theorem validateEach_eq (patterns : List Pattern) (length : Nat) :
    validateEach patterns length = forM patterns fun child => validate child length := by
  induction patterns with
  | nil => rfl
  | cons pattern rest ih =>
      rw [validateEach, List.forM_cons, ih]

theorem validate_eq (pattern : Pattern) (length : Nat) :
    validate pattern length = (do
      verdict (pattern.refusal? length)
      forM pattern.children fun child => validate child (pattern.inner length)) := by
  cases pattern with
  | color | frame | rainbow | repeated => rfl
  | gradient left right curve =>
      simp only [validate, validateChild_eq, children, List.forM_append]
      rfl
  | transition before after offset duration curve =>
      simp only [validate, validateChild_eq, children, List.forM_append]
      rfl
  | loop patterns hold fade curve =>
      exact validateEach_eq patterns length
  | rotate child rate => exact validateChild_eq child length
  | pingPong child rate => exact validateChild_eq child _
  | chronometer child => exact validateChild_eq child _
  | cycle frames duration =>
      simp only [validate, validateEach_eq, refusal?]
      split <;> rfl
  | crop child segment =>
      simp only [validate, validateChild_eq, refusal?, inner]
      split <;> rfl
  | scale child method size ratio =>
      simp only [validate, validateChild_eq, refusal?, inner]
      cases scaledLength? size ratio length with
      | none => rfl
      | some scaled =>
          dsimp only
          split <;> rfl
  | mixer patterns weights =>
      simp only [validate, validateEach_eq, refusal?]
      split <;> rfl

theorem bind_verdict (first second : Option Refusal) :
    (do verdict first; verdict second) = verdict (first.or second) := by
  cases first <;> rfl

theorem forM_verdict {Item : Type} {check : Item → Except Refusal Unit}
    {finds : Item → List (Pattern × Nat)} {items : List Item}
    (reports : ∀ item ∈ items,
      check item = verdict ((finds item).findSome? fun place => place.1.refusal? place.2)) :
    forM items check =
      verdict ((items.flatMap finds).findSome? fun place => place.1.refusal? place.2) := by
  induction items with
  | nil => rfl
  | cons item rest ih =>
      obtain ⟨first, others⟩ := List.forall_mem_cons.mp reports
      rw [List.forM_cons, first, ih others, bind_verdict, List.flatMap_cons,
        List.findSome?_append]

/-- A check reports the first fault, parents before their children and earlier children first. -/
theorem validate_eq_verdict (pattern : Pattern) (length : Nat) :
    validate pattern length =
      verdict ((pattern.places length).findSome? fun place => place.1.refusal? place.2) := by
  induction pattern using induct_children generalizing length with
  | node pattern holds =>
      rw [validate_eq, forM_verdict fun child present => holds child present _, bind_verdict,
        places_eq, List.findSome?_cons]
      dsimp only
      cases pattern.refusal? length <;> rfl

theorem validate_eq_ok {pattern : Pattern} {length : Nat} :
    validate pattern length = .ok () ↔
      ∀ place ∈ pattern.places length, ¬place.1.Bad place.2 := by
  rw [validate_eq_verdict, verdict_eq_ok, List.findSome?_eq_none_iff]
  exact forall₂_congr fun place _ => refusal?_eq_none

end Pattern

end LightShow
