import LightShow.Proofs.Composed
import LightShow.Proofs.Resampled

/-! Enlarging by nearest pixels loses nothing. A strip that is drawn at a larger length and then
drawn back at its own is the strip that it was: on the way there a place is rounded by half a pixel
of the larger strip at most, and on the way back that is less than half a pixel of the smaller. -/

namespace LightShow

namespace Sampling

/-- The pixel of a source that is nearest to the place at which a pixel of a target looks, a half
rounded up. -/
def closest (source target index : Nat) : Nat :=
  (2 * (index * (source - 1)) + (target - 1)) / (2 * (target - 1))

section Rounding

variable {source target index : Nat}

/-- Rounding a place to 256ths first does not change which pixel is the nearest. -/
theorem place_closest (source target index : Nat) :
    (place index (source - 1) (target - 1) + 128) / 256 = closest source target index := by
  rcases Nat.eq_zero_or_pos (target - 1) with single | several
  · rw [place, closest, single, Nat.mul_zero, Nat.div_zero, Nat.div_zero]
  · calc (place index (source - 1) (target - 1) + 128) / 256
      _ = (index * (source - 1) * 256 + 128 * (target - 1)) / (target - 1) / 256 := by
          rw [Nat.add_mul_div_right _ _ several, place]
      _ = 128 * (2 * (index * (source - 1)) + (target - 1)) / (128 * (2 * (target - 1))) := by
          rw [Nat.div_div_eq_div_mul]
          congr 1
          · ring
          · ring
      _ = closest source target index := Nat.mul_div_mul_left _ _ (by decide)

/-- A pixel is the nearest one if the place is less than half a pixel before it and not as much as
half a pixel behind it. -/
theorem closest_eq_iff (several : 1 < target) {pixel : Nat} :
    closest source target index = pixel ↔
      2 * (pixel * (target - 1)) ≤ 2 * (index * (source - 1)) + (target - 1) ∧
        2 * (index * (source - 1)) < 2 * (pixel * (target - 1)) + (target - 1) := by
  have spread : pixel * (2 * (target - 1)) = 2 * (pixel * (target - 1)) := Nat.mul_left_comm ..
  rw [closest, Nat.div_eq_iff (by omega), spread]
  omega

theorem closest_lt (inside : index < target) (filled : 0 < source) :
    closest source target index < source := by
  rcases Nat.eq_zero_or_pos (target - 1) with single | several
  · rw [closest, single, Nat.mul_zero, Nat.div_zero]
    exact filled
  · have reached : index * (source - 1) ≤ (source - 1) * (target - 1) := by
      rw [Nat.mul_comm]
      exact Nat.mul_le_mul_left _ (by omega)
    have last : source * (2 * (target - 1)) =
        2 * ((source - 1) * (target - 1)) + 2 * (target - 1) := by
      obtain ⟨before, rfl⟩ := Nat.exists_eq_add_of_lt filled
      simp only [Nat.zero_add, Nat.add_sub_cancel]
      ring
    rw [closest, Nat.div_lt_iff_lt_mul (by omega)]
    omega

/-- The pixel that is nearest to a place of a longer strip leads back to where it was looked for. -/
theorem closest_closest (longer : source < target) (inside : index < source) :
    closest source target (closest target source index) = index := by
  rcases Nat.eq_or_lt_of_le (Nat.succ_le_of_lt (Nat.zero_lt_of_lt inside)) with single | several
  · obtain rfl : index = 0 := by omega
    rw [closest_eq_iff (by omega), ← single, Nat.sub_self, Nat.mul_zero, Nat.zero_mul]
    omega
  · obtain ⟨low, high⟩ := (closest_eq_iff several).mp (rfl : closest target source index = _)
    rw [closest_eq_iff (by omega)]
    omega

end Rounding

/-- By nearest pixels a target of any length takes each of its pixels from the closest one. -/
theorem getElem?_nearest {source target : Strip} (filled : source ≠ []) {index : Nat}
    (inside : index < target.length) :
    (nearest.resample source target)[index]? =
      source[closest source.length target.length index]? := by
  obtain ⟨first, rest, rfl⟩ := List.exists_cons_of_ne_nil filled
  rcases Nat.eq_or_lt_of_le (Nat.succ_le_of_lt (Nat.zero_lt_of_lt inside)) with single | several
  · obtain rfl : index = 0 := by omega
    rw [resample_single nearest first rest single.symm, closest, ← single, Nat.sub_self,
      Nat.mul_zero, Nat.div_zero]
    rfl
  · have count : 0 < (first :: rest).length := Nat.succ_pos _
    obtain ⟨here, next⟩ := place_on count inside
    rw [getElem?_resample first nearest rest several inside, ← sample_nearest first here next,
      place_closest]

/-- A strip that is drawn by nearest pixels on one that is not shorter, and then back on one of its
own length, is what it was. -/
theorem resample_resample_nearest {source wide narrow : Strip}
    (wider : source.length ≤ wide.length) (same : narrow.length = source.length) :
    nearest.resample (nearest.resample source wide) narrow = source := by
  rcases Nat.eq_or_lt_of_le wider with even | longer
  · rw [resample_of_length nearest even, resample_of_length nearest same.symm]
  have size : (nearest.resample (nearest.resample source wide) narrow).length = source.length :=
    (length_resample ..).trans same
  have reached : nearest.resample source wide ≠ [] := by
    rw [← List.length_pos_iff, length_resample]
    omega
  apply List.ext_getElem?
  intro index
  by_cases inside : index < source.length
  · have filled : source ≠ [] := List.ne_nil_of_length_pos (Nat.zero_lt_of_lt inside)
    rw [getElem?_nearest reached (by rwa [same]), length_resample, same,
      getElem?_nearest filled (closest_lt inside (Nat.zero_lt_of_lt longer)),
      closest_closest longer inside]
  · rw [List.getElem?_eq_none (by omega), List.getElem?_eq_none (by omega)]

/-- Enlarging a strip by nearest pixels loses nothing: drawn back at its own length it is what it
was. As long as the pixels of both strips can be counted in 256ths within a word, no step of the two
drawings slips. -/
theorem nearest_restores {source wide narrow : Strip} (wider : source.length ≤ wide.length)
    (same : narrow.length = source.length) :
    let enlarged := nearest.resample source wide
    (enlarged.length = wide.length ∧ nearest.resample enlarged narrow = source) ∧
      (source.length * wide.length * 256 < UInt64.size →
        Logged.Quiet (Step.resample nearest source wide) ∧
          Logged.Quiet (Step.resample nearest enlarged narrow)) := by
  intro enlarged
  refine ⟨⟨length_resample .., resample_resample_nearest wider same⟩, fun fits => ?_⟩
  refine ⟨Step.quiet_resample nearest fits, Step.quiet_resample nearest ?_⟩
  rwa [length_resample, same, Nat.mul_comm wide.length]

/-- Four pixels on seven: every second one of the seven is a tie between two of the four. -/
theorem nearest_restores_ties :
    let source : Strip := [⟨9, 0, 0⟩, ⟨0, 8, 0⟩, ⟨0, 0, 7⟩, ⟨6, 6, 0⟩]
    source.length ≤ (Strip.dark 7).length ∧ (Strip.dark 4).length = source.length ∧
      nearest.resample source (Strip.dark 7) =
        [⟨9, 0, 0⟩, ⟨0, 8, 0⟩, ⟨0, 8, 0⟩, ⟨0, 0, 7⟩, ⟨0, 0, 7⟩, ⟨6, 6, 0⟩, ⟨6, 6, 0⟩] ∧
      nearest.resample (nearest.resample source (Strip.dark 7)) (Strip.dark 4) = source := by
  intro source
  have wider : source.length ≤ (Strip.dark 7).length := by decide
  have same : (Strip.dark 4).length = source.length := rfl
  exact ⟨wider, same, by decide, (nearest_restores wider same).1.2⟩

end Sampling

/-- A pattern that is scaled up by nearest pixels and then down to its own length shows what it
shows without being scaled. -/
theorem Pattern.picture_scale_nearest {child : Pattern} {length size : Nat}
    (positive : 0 < length) (settled : Settled child length) {large small : UInt64}
    {more less : Float32} (enlarged : scaledLength? large more length = some size)
    (restored : scaledLength? small less size = some length) (wider : length ≤ size) (now : Time) :
    (Pattern.scale (some (.scale (some child) .nearest small less)) .nearest large more).picture
        length now = child.picture length now := by
  have inner : Settled (.scale (some child) .nearest small less) size :=
    .scale restored (fun none => absurd none (Nat.ne_of_gt positive)) settled
  have drawn := length_picture child length now
  rw [picture_scale now enlarged inner, picture_scale now restored settled]
  exact Sampling.resample_resample_nearest (by rwa [drawn, Strip.length_dark])
    ((Strip.length_dark length).trans drawn.symm)

end LightShow
