import LightShow.Proofs.Accounts

/-! No step of a drawing slips. Whatever the tree and its scratch, the strips that come up have to
be of a bearable length, the time early enough and the stretches of time short enough for
their words; then every place is on its strip and every sum and quotient exists. -/

namespace LightShow

/-- The length that an event is about. -/
def Event.length? : Event → Option Nat
  | .draws _ length => some length
  | .resets length => some length
  | _ => none

namespace Pattern

/-- A drawing never slips and keeps the length of its strip, as long as the lengths that come up
and the numbers of milliseconds are not beyond all measure. -/
theorem trace_never_slips (pattern : Pattern) {now : Time} (scratch : Scratch) {strip : Strip}
    (soon : now.millis < Step.longTime)
    (short : ∀ place ∈ pattern.places strip.length, ∀ stretch ∈ place.1.ownStretches,
      stretch.toNat < Step.longStretch)
    (small : ∀ event ∈ (trace pattern now scratch strip).notes, ∀ length ∈ event.length?,
      length < Step.manyPixels) :
    (∀ slip, .slips slip ∉ (trace pattern now scratch strip).notes) ∧
      (trace pattern now scratch strip).value = render pattern now scratch strip ∧
      (render pattern now scratch strip).1.length = strip.length := by
  refine ⟨fun slip slipped => ?_, value_trace .., length_render ..⟩
  obtain ⟨place, here, time, kept, part, before, long, within, wild⟩ := exists_owner slipped
  have drawn : place.2 < Step.manyPixels :=
    small _ (within (long ▸ draws_trace place.1 time kept part)) _ rfl
  refine wild ⟨Nat.lt_of_le_of_lt before soon, drawn, ?_, short place here⟩
  rw [← long]
  rcases resets_inner place.1 time kept part with reset | low
  · exact small _ (within reset) _ rfl
  · have palette : Clock.paletteSize < Step.manyPixels := by decide
    omega

/-- A trail that fades out over another color. -/
theorem trace_never_slips_fading :
    let tree := loop [pingPong (some (.color ⟨255, 0, 0⟩)) 2.0, .color ⟨0, 0, 255⟩] 1000 500 .linear
    let run := trace tree (Time.ofMillis 1250) .fresh (Strip.dark 3)
    (Time.ofMillis 1250).millis < Step.longTime ∧
      (∀ place ∈ tree.places 3, ∀ stretch ∈ place.1.ownStretches,
        stretch.toNat < Step.longStretch) ∧
      (∀ event ∈ run.notes, ∀ length ∈ event.length?, length < Step.manyPixels) ∧
      (∀ slip, .slips slip ∉ run.notes) ∧
      run.value = render tree (Time.ofMillis 1250) .fresh (Strip.dark 3) ∧
      (render tree (Time.ofMillis 1250) .fresh (Strip.dark 3)).1.length = 3 := by
  intro tree run
  have soon : (Time.ofMillis 1250).millis < Step.longTime := by decide
  have short : ∀ place ∈ tree.places 3, ∀ stretch ∈ place.1.ownStretches,
      stretch.toNat < Step.longStretch := by
    simp [tree, places_eq (.loop _ _ _ _), places_eq (.pingPong _ _), places_eq (.color _),
      children, ownStretches, Step.longStretch]
  have small : ∀ event ∈ run.notes, ∀ length ∈ event.length?, length < Step.manyPixels := by
    have lengths : run.notes.filterMap Event.length? = [3, 3, 5, 5, 3, 3] := rfl
    intro event noted length about
    have one := List.mem_filterMap.mpr ⟨event, noted, about⟩
    rw [lengths] at one
    have most : ∀ length ∈ [3, 3, 5, 5, 3, 3], length < Step.manyPixels := by decide
    exact most length one
  exact ⟨soon, short, small, trace_never_slips tree .fresh soon short small⟩

end Pattern

end LightShow
