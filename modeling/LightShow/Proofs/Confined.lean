import LightShow.Proofs.Trace

/-! Crops stay within their segment. What a crop draws is what its child draws on the part of the
strip under the segment, as if that were the whole strip, and the pixels outside are left alone. A
segment that does not fit the strip has no part of it under it, and nothing is drawn. A crop in a
crop is one crop. -/

namespace LightShow

/-- A segment of a part of a strip, as a segment of the whole strip. -/
def Segment.under (inner outer : Segment) : Segment :=
  ⟨outer.start + inner.start, outer.start + inner.stop⟩

namespace Segment

variable {inner outer : Segment}

theorem toNat_start_add {place : UInt64} (reached : place.toNat ≤ outer.size) :
    (outer.start + place).toNat = outer.start.toNat + place.toNat := by
  have first := outer.start.toNat_lt
  have last := outer.stop.toNat_lt
  unfold size at reached
  rw [UInt64.toNat_add]
  exact Nat.mod_eq_of_lt (by omega)

theorem toNat_start_under (fits : inner.Fits outer.size) :
    (inner.under outer).start.toNat = outer.start.toNat + inner.start.toNat :=
  toNat_start_add (Nat.le_trans fits.1 fits.2)

theorem toNat_stop_under (fits : inner.Fits outer.size) :
    (inner.under outer).stop.toNat = outer.start.toNat + inner.stop.toNat :=
  toNat_start_add fits.2

theorem fits_under {length : Nat} (outerFits : outer.Fits length)
    (innerFits : inner.Fits outer.size) : (inner.under outer).Fits length := by
  have first := toNat_start_under innerFits
  have last := toNat_stop_under innerFits
  obtain ⟨ordered, inside⟩ := outerFits
  obtain ⟨turned, within⟩ := innerFits
  unfold size at within
  constructor
  · omega
  · omega

end Segment

namespace Strip

variable {strip part : Strip} {segment : Segment}

/-- The pixels under a segment. -/
def cut (strip : Strip) (segment : Segment) : Strip :=
  (strip.drop segment.start.toNat).take segment.size

/-- Another part in the place of the one under a segment. -/
def splice (strip part : Strip) (segment : Segment) : Strip :=
  strip.take segment.start.toNat ++ part ++ strip.drop segment.stop.toNat

theorem length_cut (fits : segment.Fits strip.length) :
    (strip.cut segment).length = segment.size := by
  obtain ⟨ordered, inside⟩ := fits
  rw [cut, List.length_take, List.length_drop, Segment.size]
  omega

theorem getElem?_cut {place : Nat} (inside : place < segment.size) :
    (strip.cut segment)[place]? = strip[segment.start.toNat + place]? := by
  rw [cut, List.getElem?_take_of_lt inside, List.getElem?_drop]

/-- From the first pixel under a segment on there are the pixels under it and those behind it. -/
theorem drop_start (strip : Strip) (ordered : segment.start.toNat ≤ segment.stop.toNat) :
    strip.drop segment.start.toNat = strip.cut segment ++ strip.drop segment.stop.toNat := by
  have reached : segment.stop.toNat = segment.start.toNat + segment.size :=
    (Nat.add_sub_cancel' ordered).symm
  rw [reached, ← List.drop_drop, cut, List.take_append_drop]

section Splice

variable (fits : segment.Fits strip.length) (painted : part.length = segment.size)
include fits painted

theorem getElem?_splice {place : Nat}
    (outside : place < segment.start.toNat ∨ segment.stop.toNat ≤ place) :
    (strip.splice part segment)[place]? = strip[place]? := by
  have first := List.length_take_of_le (Nat.le_trans fits.1 fits.2)
  rw [splice]
  rcases outside with before | behind
  · rw [List.append_assoc, List.getElem?_append_left (by omega), List.getElem?_take_of_lt before]
  · have past : (strip.take segment.start.toNat ++ part).length = segment.stop.toNat := by
      rw [List.length_append, first, painted]
      exact Nat.add_sub_cancel' fits.1
    rw [List.getElem?_append_right (by omega), past, List.getElem?_drop,
      Nat.add_sub_cancel' behind]

theorem cut_splice : (strip.splice part segment).cut segment = part := by
  have first := List.length_take_of_le (Nat.le_trans fits.1 fits.2)
  rw [cut, splice, List.append_assoc, List.drop_left' first, List.take_left' painted]

end Splice

section Nested

variable {inner outer : Segment} (fits : inner.Fits outer.size)
include fits

theorem cut_cut (strip : Strip) : (strip.cut outer).cut inner = strip.cut (inner.under outer) := by
  have same : (inner.under outer).size = inner.size := by
    rw [Segment.size, Segment.toNat_start_under fits, Segment.toNat_stop_under fits,
      Nat.add_sub_add_left, Segment.size]
  have short : inner.size ≤ outer.size - inner.start.toNat := Nat.sub_le_sub_right fits.2 _
  rw [cut, cut, cut, same, Segment.toNat_start_under fits, List.drop_take, List.drop_drop,
    List.take_take, Nat.min_eq_left short]

/-- To put something in the place of a part of a part is to put it in its place in the whole. -/
theorem splice_cut_splice (outerFits : outer.Fits strip.length) (part : Strip) :
    strip.splice ((strip.cut outer).splice part inner) outer =
      strip.splice part (inner.under outer) := by
  have early : inner.start.toNat ≤ outer.size := Nat.le_trans fits.1 fits.2
  have before : strip.take (outer.start.toNat + inner.start.toNat) =
      strip.take outer.start.toNat ++ (strip.cut outer).take inner.start.toNat := by
    rw [List.take_add, cut, List.take_take, Nat.min_eq_left early]
  have within : inner.stop.toNat ≤ (strip.cut outer).length := by
    rw [length_cut outerFits]
    exact fits.2
  have behind : strip.drop (outer.start.toNat + inner.stop.toNat) =
      (strip.cut outer).drop inner.stop.toNat ++ strip.drop outer.stop.toNat := by
    rw [← List.drop_drop, drop_start strip outerFits.1, List.drop_append_of_le_length within]
  simp only [splice, Segment.toNat_start_under fits, Segment.toNat_stop_under fits, before, behind,
    List.append_assoc]

end Nested

end Strip

namespace Pattern

section Crop

variable {child : Option Pattern} {segment : Segment} {strip : Strip} (now : Time)
  (scratch : Scratch)

theorem render_crop_of_fits (fits : segment.Fits strip.length) :
    let drawn := renderChild child now (scratch.child 0) (strip.cut segment)
    render (.crop child segment) now scratch strip =
      (strip.splice drawn.1 segment, .node [] [drawn.2]) := by
  rw [render_crop, if_pos fits]
  rfl

theorem render_crop_of_not_fits (outside : ¬segment.Fits strip.length) :
    render (.crop child segment) now scratch strip = (strip, scratch) := by
  rw [render_crop, if_neg outside]

/-- What is drawn under a segment covers it and no more, whatever is drawn. -/
theorem length_under (fits : segment.Fits strip.length) :
    (renderChild child now scratch (strip.cut segment)).1.length = segment.size := by
  rw [length_renderChild fun inner _ => length_render inner, Strip.length_cut fits]

end Crop

/-- A crop confines what its child draws, be it what it may, to the pixels under its segment, and
leaves the others alone. If the segment does not fit, no pixels are under it and the strip stays
as it is; if it fits, the child draws on exactly the pixels under it. A crop in a crop draws what a
single one draws on the segment of the whole strip, and leaves its child with the same scratch. -/
theorem crop_confines (child : Option Pattern) (now : Time) (scratch : Scratch) (strip : Strip) :
    (∀ segment : Segment,
      let drawn := render (.crop child segment) now scratch strip
      (drawn.1.length = strip.length ∧
        ∀ place, place < segment.start.toNat ∨ segment.stop.toNat ≤ place →
          drawn.1[place]? = strip[place]?) ∧
      (¬segment.Fits strip.length → strip.within? segment = none ∧ drawn = (strip, scratch)) ∧
      (segment.Fits strip.length → ∃ part, strip.within? segment = some part ∧
        part.length = segment.size ∧
        (∀ place < segment.size, part[place]? = strip[segment.start.toNat + place]?) ∧
        let inner := renderChild child now (scratch.child 0) part
        drawn.1.within? segment = some inner.1 ∧ drawn.2.child 0 = inner.2)) ∧
    ∀ outer inner : Segment, outer.Fits strip.length → inner.Fits outer.size →
      let whole := inner.under outer
      (whole.start.toNat = outer.start.toNat + inner.start.toNat ∧
        whole.stop.toNat = outer.start.toNat + inner.stop.toNat) ∧
      ∀ other : Scratch, other.child 0 = (scratch.child 0).child 0 →
        let nested := render (.crop (some (.crop child inner)) outer) now scratch strip
        let single := render (.crop child whole) now other strip
        nested.1 = single.1 ∧ (nested.2.child 0).child 0 = single.2.child 0 := by
  constructor
  · intro segment drawn
    have long : drawn.1.length = strip.length := length_render ..
    refine ⟨⟨long, fun place outside => ?_⟩, fun apart => ?_, fun fits => ?_⟩
    · by_cases fits : segment.Fits strip.length
      · exact (congrArg (·.1[place]?) (render_crop_of_fits now scratch fits)).trans
          (Strip.getElem?_splice fits (length_under now (scratch.child 0) fits) outside)
      · exact congrArg (·.1[place]?) (render_crop_of_not_fits now scratch fits)
    · exact ⟨Strip.within?_of_not_fits apart, render_crop_of_not_fits now scratch apart⟩
    · refine ⟨strip.cut segment, Strip.within?_of_fits fits, Strip.length_cut fits,
        fun place inside => Strip.getElem?_cut inside, ?_, ?_⟩
      · have drawnUnder : drawn.1.cut segment = _ :=
          congrArg (·.1.cut segment) (render_crop_of_fits now scratch fits)
        rw [Strip.cut_splice fits (length_under now (scratch.child 0) fits)] at drawnUnder
        exact (Strip.within?_of_fits (long ▸ fits)).trans (congrArg some drawnUnder)
      · exact congrArg (·.2.child 0) (render_crop_of_fits now scratch fits)
  · intro outer inner outerFits innerFits whole
    refine ⟨⟨Segment.toNat_start_under innerFits, Segment.toNat_stop_under innerFits⟩, ?_⟩
    intro other same nested single
    have inside : inner.Fits (strip.cut outer).length := by rwa [Strip.length_cut outerFits]
    have around : nested = _ := render_crop_of_fits now scratch outerFits
    have within : renderChild (some (.crop child inner)) now (scratch.child 0) (strip.cut outer) =
        _ := render_crop_of_fits now (scratch.child 0) inside
    have alone : single = _ :=
      render_crop_of_fits now other (Segment.fits_under outerFits innerFits)
    rw [Strip.cut_cut innerFits, ← same] at within
    rw [around, within, alone]
    exact ⟨Strip.splice_cut_splice innerFits outerFits _, rfl⟩

/-- A clock whose palette is drawn in part, in the fourth to the sixth pixel of a strip, as a crop
and as a crop in a crop; and a segment that is turned around. -/
theorem crop_confines_clock :
    let clock : Pattern := .chronometer (some (.crop (some (.color ⟨200, 0, 0⟩)) ⟨1, 2⟩))
    let palette : Strip := [⟨1, 0, 0⟩, ⟨2, 0, 0⟩, ⟨3, 0, 0⟩, ⟨4, 0, 0⟩]
    let traces : Scratch := .node [] [.node [] [.node [palette] []]]
    let strip : Strip := List.replicate 7 ⟨9, 9, 9⟩
    let nested := render (.crop (some (.crop (some clock) ⟨1, 4⟩)) ⟨2, 6⟩) ⟨0⟩ traces strip
    let single := render (.crop (some clock) ⟨3, 6⟩) ⟨0⟩ (traces.child 0) strip
    let turned := render (.crop (some clock) ⟨4, 2⟩) ⟨0⟩ traces strip
    Segment.Fits ⟨2, 6⟩ strip.length ∧ Segment.Fits ⟨1, 4⟩ (Segment.size ⟨2, 6⟩) ∧
      nested.1 = single.1 ∧ turned = (strip, traces) ∧
      single.1 = List.replicate 3 ⟨9, 9, 9⟩ ++ [⟨200, 0, 0⟩, ⟨1, 0, 0⟩, ⟨1, 0, 0⟩, ⟨9, 9, 9⟩] := by
  intro clock palette traces strip nested single turned
  have outerFits : Segment.Fits ⟨2, 6⟩ strip.length := by decide
  have innerFits : Segment.Fits ⟨1, 4⟩ (Segment.size ⟨2, 6⟩) := by decide
  obtain ⟨confined, composed⟩ := crop_confines (some clock) ⟨0⟩ traces strip
  obtain ⟨-, nest⟩ := composed ⟨2, 6⟩ ⟨1, 4⟩ outerFits innerFits
  obtain ⟨same, -⟩ := nest (traces.child 0) rfl
  exact ⟨outerFits, innerFits, same, ((confined ⟨4, 2⟩).2.1 (by decide)).2, by decide⟩

end Pattern

end LightShow
