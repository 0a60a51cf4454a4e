import LightShow.Proofs.Tree

/-! A tree taken apart: its nodes in the order in which they are come upon, each with the length
that its ancestors give it, and the stretches of time that are written in it. -/

namespace LightShow

namespace Pattern

/-- The children that are there, in the order of the fields. -/
def children : Pattern → List Pattern
  | .gradient left right _ => left.toList ++ right.toList
  | .transition before after _ _ _ => before.toList ++ after.toList
  | .cycle frames _ => frames
  | .loop patterns _ _ _ => patterns
  | .rotate child _ => child.toList
  | .pingPong child _ => child.toList
  | .chronometer child => child.toList
  | .crop child _ => child.toList
  | .scale child _ _ _ => child.toList
  | .mixer patterns _ => patterns
  | _ => []

/-- The length on which a node that is drawn on some length draws its children. -/
def inner : Pattern → (length : Nat) → Nat
  | .pingPong _ _, length => length * 2 - 1
  | .chronometer _, _ => Clock.paletteSize
  | .crop _ segment, length => if segment.Fits length then segment.size else 0
  | .scale _ _ size ratio, length => (scaledLength? size ratio length).getD 0
  | _, length => length

/-- The stretches of time in the fields of a node, in milliseconds. -/
def ownStretches : Pattern → List UInt64
  | .transition _ _ offset duration _ => [offset, duration]
  | .cycle _ duration => [duration]
  | .loop _ hold fade _ => [hold, fade]
  | _ => []

theorem sizeOf_lt_of_mem_toList {child : Option Pattern} {inner : Pattern}
    (present : inner ∈ child.toList) : sizeOf inner < sizeOf child := by
  rw [Option.mem_def.mp (Option.mem_toList.mp present), Option.some.sizeOf_spec]
  omega

theorem sizeOf_child {pattern child : Pattern} (present : child ∈ pattern.children) :
    sizeOf child < sizeOf pattern := by
  cases pattern with
  | color | frame | rainbow | repeated => cases present
  | gradient first second | transition first second =>
      have smaller : sizeOf child < sizeOf first ∨ sizeOf child < sizeOf second :=
        (List.mem_append.mp present).imp sizeOf_lt_of_mem_toList sizeOf_lt_of_mem_toList
      simp only [gradient.sizeOf_spec, transition.sizeOf_spec]
      omega
  | cycle patterns | loop patterns | mixer patterns =>
      have smaller : sizeOf child < sizeOf patterns := List.sizeOf_lt_of_mem present
      simp only [cycle.sizeOf_spec, loop.sizeOf_spec, mixer.sizeOf_spec]
      omega
  | rotate inner | pingPong inner | chronometer inner | crop inner | scale inner =>
      have smaller : sizeOf child < sizeOf inner := sizeOf_lt_of_mem_toList present
      simp only [rotate.sizeOf_spec, pingPong.sizeOf_spec, chronometer.sizeOf_spec,
        crop.sizeOf_spec, scale.sizeOf_spec]
      omega

/-- A property of all trees, proved for a node from the same property of its children. -/
@[elab_as_elim]
theorem induct_children {motive : Pattern → Prop}
    (node : ∀ pattern, (∀ child ∈ pattern.children, motive child) → motive pattern)
    (pattern : Pattern) : motive pattern :=
  node pattern fun child _ => induct_children node child
termination_by pattern
decreasing_by exact sizeOf_child ‹_›

/-- The nodes of a tree that is drawn on some length, parents before their children, each with the
length that it is drawn on. -/
def places (pattern : Pattern) (length : Nat) : List (Pattern × Nat) :=
  (pattern, length) ::
    pattern.children.attach.flatMap fun child => places child.1 (pattern.inner length)
termination_by pattern
decreasing_by exact sizeOf_child child.2

theorem places_eq (pattern : Pattern) (length : Nat) :
    pattern.places length =
      (pattern, length) ::
        pattern.children.flatMap fun child => child.places (pattern.inner length) := by
  have plain : ∀ (child : Pattern) (present : child ∈ pattern.children),
      places (Subtype.mk child present).1 (pattern.inner length) =
        child.places (pattern.inner length) := fun _ _ => rfl
  rw [places, List.flatMap_subtype plain, List.unattach_attach]

theorem mem_places (pattern : Pattern) (length : Nat) :
    (pattern, length) ∈ pattern.places length := by
  rw [places_eq]
  exact List.mem_cons_self

theorem places_child {pattern child : Pattern} (present : child ∈ pattern.children)
    (length : Nat) : child.places (pattern.inner length) ⊆ pattern.places length := by
  intro place here
  rw [places_eq]
  exact List.mem_cons_of_mem _ (List.mem_flatMap.mpr ⟨child, present, here⟩)

end Pattern

end LightShow
