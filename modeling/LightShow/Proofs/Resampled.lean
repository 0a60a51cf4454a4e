import LightShow.Proofs.SureSteps
import Mathlib.Algebra.Order.Floor.Semifield
import Mathlib.Data.Rat.Floor
import Mathlib.Tactic.Positivity

/-! Resampling in exact numbers. A pixel of the target looks at a place between the pixels of the
source that is a fraction; rounding it to 256ths loses nothing of the nearest pixel, and the short
ways for strips of one length and of one pixel give what the general way gives. -/

namespace LightShow

namespace Sampling

/-- The place on the source at which a pixel of the target looks, as a fraction. -/
def exactPlace (source target index : Nat) : ℚ :=
  index * ((source : ℚ) - 1) / ((target : ℚ) - 1)

/-- What a pixel of the target shows: the pixel of the source that is nearest to its place, a half
rounded up, or the blend of the two pixels around it, by their distance in 256ths. A single pixel
shows the first pixel of the source. -/
def exactPixel? (method : Sampling) (source : Strip) (target index : Nat) : Option Color :=
  let place := exactPlace source.length target index
  if target = 1 then source[0]?
  else
    match method with
    | .nearest => source[⌊place + 1 / 2⌋₊]?
    | .linear =>
        let fine := ⌊256 * place⌋₊
        if fine % 256 = 0 then source[fine / 256]?
        else do
          let first ← source[fine / 256]?
          let second ← source[fine / 256 + 1]?
          return first.blend second (UInt8.ofNat (fine % 256))

section Places

variable {source target : Nat}

theorem exactPlace_eq (some : 0 < source) (several : 1 < target) (index : Nat) :
    exactPlace source target index =
      ((index * (source - 1) : Nat) : ℚ) / ((target - 1 : Nat) : ℚ) := by
  rw [exactPlace, Nat.cast_mul, Nat.cast_pred some, Nat.cast_pred (Nat.zero_lt_of_lt several)]

/-- The place in 256ths, rounded down. -/
theorem floor_exactPlace (some : 0 < source) (several : 1 < target) (index : Nat) :
    ⌊256 * exactPlace source target index⌋₊ = place index (source - 1) (target - 1) := by
  have scaled : 256 * exactPlace source target index =
      ((index * (source - 1) * 256 : Nat) : ℚ) / ((target - 1 : Nat) : ℚ) := by
    rw [exactPlace_eq some several, Nat.cast_mul (_ * _) 256, mul_div_assoc', mul_comm]
    rfl
  rw [scaled, Rat.natFloor_natCast_div_natCast, place]

/-- The nearest pixel is found from the place in 256ths just as from the place itself. -/
theorem floor_nearest (some : 0 < source) (several : 1 < target) (index : Nat) :
    ⌊exactPlace source target index + 1 / 2⌋₊ =
      (place index (source - 1) (target - 1) + 128) / 256 := by
  have ahead : 0 ≤ 256 * exactPlace source target index := by
    rw [exactPlace_eq some several]
    positivity
  calc ⌊exactPlace source target index + 1 / 2⌋₊
    _ = ⌊(256 * exactPlace source target index + 128) / 256⌋₊ := by
        congr 1
        ring
    _ = ⌊256 * exactPlace source target index + 128⌋₊ / 256 := Nat.floor_div_ofNat _ 256
    _ = (⌊256 * exactPlace source target index⌋₊ + 128) / 256 := by
        rw [Nat.floor_add_ofNat ahead]
    _ = (place index (source - 1) (target - 1) + 128) / 256 := by
        rw [floor_exactPlace some several]

/-- The place of every pixel of the target is on the source, and so is the pixel after it unless the
place is that of a pixel. -/
theorem place_on (some : 0 < source) {index : Nat} (inside : index < target) :
    place index (source - 1) (target - 1) / 256 < source ∧
      (place index (source - 1) (target - 1) % 256 ≠ 0 →
        place index (source - 1) (target - 1) / 256 + 1 < source) := by
  obtain ⟨reached, further⟩ := @Step.place_inside index (source - 1) (target - 1) (by omega)
  refine ⟨by omega, fun part => ?_⟩
  have before := further part
  omega

end Places

theorem place_self (index : Nat) {steps : Nat} (positive : 0 < steps) :
    place index steps steps = index * 256 := by
  rw [place, Nat.mul_right_comm, Nat.mul_div_cancel _ positive]

theorem place_point (index steps : Nat) : place index 0 steps = 0 := by
  rw [place, Nat.mul_zero, Nat.zero_mul, Nat.zero_div]

theorem place_start (span steps : Nat) : place 0 span steps = 0 := by
  rw [place, Nat.zero_mul, Nat.zero_mul, Nat.zero_div]

theorem place_end (span : Nat) {steps : Nat} (positive : 0 < steps) :
    place steps span steps = span * 256 := by
  rw [place, Nat.mul_assoc, Nat.mul_div_cancel_left _ positive]

section Samples

variable {source : Strip} {place : Nat} (first : Color)

/-- At the place of a pixel both methods give that pixel. -/
theorem sample_whole (method : Sampling) (whole : place % 256 = 0) :
    method.sample source.toArray first place = source.toArray.getD (place / 256) first := by
  cases method with
  | nearest => exact if_neg (by omega)
  | linear =>
      simp only [sample, whole, ↓reduceIte]
      split <;> rfl

theorem sample_nearest (inside : place / 256 < source.length)
    (next : place % 256 ≠ 0 → place / 256 + 1 < source.length) :
    source[(place + 128) / 256]? = some (sample .nearest source.toArray first place) := by
  simp only [sample]
  split
  · next far =>
      have rounded : (place + 128) / 256 = place / 256 + 1 := by omega
      rw [rounded, Strip.getElem?_eq_getD (next (by omega)) first]
  · next near =>
      have rounded : (place + 128) / 256 = place / 256 := by omega
      rw [rounded, Strip.getElem?_eq_getD inside first]

theorem sample_between (inside : place / 256 < source.length)
    (next : place / 256 + 1 < source.length) (part : place % 256 ≠ 0) :
    sample .linear source.toArray first place =
      source[place / 256].blend source[place / 256 + 1] (UInt8.ofNat (place % 256)) := by
  simp only [sample, List.getElem?_toArray, List.getElem?_eq_getElem next,
    Strip.getD_toArray_of_lt inside, if_neg part]

/-- A linear sample is not brighter and not darker, in any channel, than both pixels around it. -/
theorem between_sample (inside : place / 256 < source.length)
    (next : place / 256 + 1 < source.length) :
    source[place / 256].Between source[place / 256 + 1]
      (sample .linear source.toArray first place) := by
  by_cases whole : place % 256 = 0
  · rw [sample_whole first linear whole, Strip.getD_toArray_of_lt inside]
    have kept := Color.between_blend source[place / 256] source[place / 256 + 1] 0
    rwa [Color.blend_zero] at kept
  · rw [sample_between first inside next whole]
    exact Color.between_blend ..

/-- Every pixel of a target of several pixels is a sample at its place, also where the short ways
are taken. -/
theorem getElem?_resample (method : Sampling) (rest : Strip) {target : Strip}
    (several : 1 < target.length) {index : Nat} (inside : index < target.length) :
    (method.resample (first :: rest) target)[index]? =
      some (method.sample (first :: rest).toArray first
        (Sampling.place index ((first :: rest).length - 1) (target.length - 1))) := by
  unfold resample
  dsimp only
  split
  · next even =>
      have whole : Sampling.place index ((first :: rest).length - 1) (target.length - 1) =
          index * 256 := by
        rw [even]
        exact place_self index (by omega)
      rw [whole, sample_whole first method (Nat.mul_mod_left index 256),
        Nat.mul_div_cancel index (by decide)]
      exact Strip.getElem?_eq_getD (by omega) first
  split
  · next single =>
      have alone : (first :: rest).length - 1 = 0 := by omega
      rw [alone, place_point, sample_whole first method (Nat.zero_mod 256), Strip.fill,
        List.getElem?_replicate, if_pos inside]
      rfl
  · rw [List.getElem?_map, List.getElem?_range inside]
    rfl

/-- The pixel by its exact place is the sample. -/
theorem exactPixel?_eq (method : Sampling) (rest : Strip) {target : Nat} (several : 1 < target)
    {index : Nat} (inside : index < target) :
    method.exactPixel? (first :: rest) target index =
      some (method.sample (first :: rest).toArray first
        (Sampling.place index ((first :: rest).length - 1) (target - 1))) := by
  have filled : 0 < (first :: rest).length := Nat.succ_pos _
  obtain ⟨here, next⟩ := place_on filled inside
  unfold exactPixel?
  rw [if_neg (by omega)]
  cases method with
  | nearest =>
      dsimp only
      rw [floor_nearest filled several]
      exact sample_nearest first here next
  | linear =>
      dsimp only
      rw [floor_exactPlace filled several]
      split
      · next whole =>
          rw [sample_whole first .linear whole]
          exact Strip.getElem?_eq_getD here first
      · next part =>
          rw [sample_between first here (next part) part, List.getElem?_eq_getElem here,
            List.getElem?_eq_getElem (next part)]
          rfl

end Samples

/-- A single pixel takes the first pixel of the source. -/
theorem resample_single (method : Sampling) (first : Color) (rest : Strip) {target : Strip}
    (single : target.length = 1) : method.resample (first :: rest) target = [first] := by
  unfold resample
  dsimp only
  split
  · next even =>
      have alone : rest = [] := by
        apply List.eq_nil_of_length_eq_zero
        rw [single, List.length_cons] at even
        omega
      rw [alone]
  · rw [if_pos (.inr single), Strip.fill, single]
    rfl

/-- The ends of a target of several pixels are the ends of the source. -/
theorem ends_resample (method : Sampling) (first : Color) (rest : Strip) {target : Strip}
    (several : 1 < target.length) :
    (method.resample (first :: rest) target).head? = some first ∧
      (method.resample (first :: rest) target).getLast? = (first :: rest).getLast? := by
  have filled : 0 < (first :: rest).length := Nat.succ_pos _
  constructor
  · rw [List.head?_eq_getElem?, getElem?_resample first method rest several (by omega),
      place_start, sample_whole first method (Nat.zero_mod 256)]
    rfl
  · rw [List.getLast?_eq_getElem?, length_resample,
      getElem?_resample first method rest several (by omega), place_end _ (by omega),
      sample_whole first method (Nat.mul_mod_left _ 256), Nat.mul_div_cancel _ (by decide),
      List.getLast?_eq_getElem?]
    exact (Strip.getElem?_eq_getD (by omega) first).symm

/-- Resampling is exact. Every pixel of the target is what its place as a fraction asks for, also
where the strips are of one length or one of them is a single pixel; the ends of both strips are
the same, a linear sample lies between the two pixels around its place, and on the way no pixel is
looked up that is not there and no word runs over. -/
theorem resample_exact (method : Sampling) {source target : Strip} (sourceFilled : source ≠ [])
    (targetFilled : target ≠ []) (fits : source.length * target.length * 256 < UInt64.size) :
    let shown := method.resample source target
    (shown.length = target.length ∧
      ∀ index < target.length, ∃ pixel,
        method.exactPixel? source target.length index = some pixel ∧
          shown[index]? = some pixel) ∧
      (2 ≤ target.length → shown.head? = source.head? ∧ shown.getLast? = source.getLast?) ∧
      (2 ≤ target.length → ∀ index < target.length,
        let fine := ⌊256 * exactPlace source.length target.length index⌋₊
        ∀ first ∈ source[fine / 256]?, ∀ second ∈ source[fine / 256 + 1]?,
          ∀ pixel ∈ (linear.resample source target)[index]?, first.Between second pixel) ∧
      Logged.Quiet (Step.resample method source target) ∧
      (Step.resample method source target).value = shown := by
  intro shown
  obtain ⟨first, rest, rfl⟩ := List.exists_cons_of_ne_nil sourceFilled
  have filled : 0 < target.length := List.length_pos_iff.mpr targetFilled
  refine ⟨⟨length_resample .., fun index inside => ?_⟩, ends_resample method first rest, ?_,
    Step.quiet_resample method fits, Step.value_resample ..⟩
  · rcases Nat.eq_or_lt_of_le filled with single | several
    · obtain rfl : index = 0 := by omega
      have shownFirst := congrArg (·[0]?) (resample_single method first rest single.symm)
      exact ⟨first, if_pos single.symm, shownFirst⟩
    · exact ⟨_, exactPixel?_eq first method rest several inside,
        getElem?_resample first method rest several inside⟩
  · intro several index inside fine one before other after pixel sampled
    have place : fine = _ := floor_exactPlace (Nat.succ_pos _) several index
    rw [place] at before after
    obtain ⟨here, rfl⟩ := List.getElem?_eq_some_iff.mp before
    obtain ⟨next, rfl⟩ := List.getElem?_eq_some_iff.mp after
    obtain rfl := Option.some.inj
      ((getElem?_resample first linear rest several inside).symm.trans sampled)
    exact between_sample first here next

/-- Three pixels on four: the second one looks two thirds of the way to the second pixel, which are
170 of 256 parts. -/
theorem resample_exact_thirds :
    let source : Strip := [⟨255, 0, 0⟩, ⟨0, 255, 0⟩, ⟨0, 0, 255⟩]
    source ≠ [] ∧ Strip.dark 4 ≠ [] ∧
      source.length * (Strip.dark 4).length * 256 < UInt64.size ∧
      exactPixel? .linear source 4 1 = some ⟨85, 170, 0⟩ ∧
      exactPixel? .nearest source 4 1 = some ⟨0, 255, 0⟩ := by
  intro source
  have sourceFilled : source ≠ [] := List.cons_ne_nil _ _
  have targetFilled : Strip.dark 4 ≠ [] := List.cons_ne_nil _ _
  have fits : source.length * (Strip.dark 4).length * 256 < UInt64.size := by decide
  obtain ⟨⟨-, blended⟩, -⟩ := resample_exact .linear sourceFilled targetFilled fits
  obtain ⟨⟨-, nearest⟩, -⟩ := resample_exact .nearest sourceFilled targetFilled fits
  obtain ⟨pixel, exact, shown⟩ := blended 1 (by decide)
  obtain ⟨other, exactOther, shownOther⟩ := nearest 1 (by decide)
  refine ⟨sourceFilled, targetFilled, fits, exact.trans (shown.symm.trans ?_),
    exactOther.trans (shownOther.symm.trans ?_)⟩
  · decide
  · decide

end Sampling

end LightShow
