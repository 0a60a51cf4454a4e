import LightShow.Proofs.Steps

/-! When the steps of a drawing do not slip. Blends, fixed pixels and the spectrum never do. The
others are sure of their places because frames have the length that they were reset to, and of
their words as long as strips stay below 2 ^ 28 pixels and times below 2 ^ 48 milliseconds. -/

namespace LightShow

namespace Step

open Logged

/-- Lengths below this one keep every place of a strip within its word. -/
def manyPixels : Nat := 1 <<< 28

/-- Times below this one keep the progress of every fade within its word. -/
def longTime : Nat := 1 <<< 48

/-- Stretches below this one can be counted in microseconds. -/
def longStretch : Nat := 1 <<< 54

theorem quiet_blendLevel (first second weight : Level) :
    Quiet (blendLevel first second weight) := by
  have most := first.toNat_lt
  have weighs := weight.toNat_lt
  have enough : weight.toNat ≤ 255 := by omega
  have kept : first.toNat * (255 - weight.toNat) ≤ 255 * (255 - weight.toNat) :=
    Nat.mul_le_mul_right _ (by omega)
  have taken : second.toNat * weight.toNat ≤ 255 * weight.toNat :=
    Nat.mul_le_mul_right _ (by have := second.toNat_lt; omega)
  unfold blendLevel
  apply Quiet.bind (quiet_minus.mpr enough)
  apply Quiet.bind (quiet_word.mpr (by change first.toNat * (255 - weight.toNat) < 1 <<< 16; omega))
  apply Quiet.bind (quiet_word.mpr (by omega))
  apply Quiet.bind (quiet_word.mpr (by
    change first.toNat * (255 - weight.toNat) + second.toNat * weight.toNat < 1 <<< 16; omega))
  apply Quiet.bind (quiet_quotient.mpr (by decide))
  exact .pure _

theorem quiet_blend (first second : Color) (weight : Level) : Quiet (blend first second weight) :=
  .bind (quiet_blendLevel ..) <| .bind (quiet_blendLevel ..) <| .bind (quiet_blendLevel ..) <|
    .pure _

theorem quiet_mix (strip other : Strip) (weight : Level) : Quiet (mix strip other weight) := by
  induction strip generalizing other with
  | nil => rfl
  | cons pixel rest ih =>
      cases other with
      | nil => rfl
      | cons target targets =>
          exact .bind (quiet_blend ..) <| .bind (ih targets) <| .pure _

theorem quiet_fit (pixels strip : Strip) : Quiet (fit pixels strip) := by
  unfold fit
  apply Quiet.bind (quiet_part.mpr ⟨Nat.zero_le _, Nat.min_le_left ..⟩)
  apply Quiet.bind (quiet_part.mpr ⟨Nat.zero_le _, Nat.min_le_right ..⟩)
  apply Quiet.bind (quiet_copy.mpr (by
    simp only [value_part, List.drop_zero, List.length_take]
    omega))
  apply Quiet.bind (quiet_part.mpr ⟨Nat.min_le_left .., Nat.le_refl _⟩)
  exact .pure _

/-- A part of a short distance is a small number. -/
theorem share_small {factor distance run : Int} (positive : 0 < run) (ahead : 0 ≤ distance)
    (near : distance ≤ 100) (rises : 0 ≤ factor) (flat : factor ≤ 255) :
    Quiet (share factor distance run) ∧ 0 ≤ (share factor distance run).value ∧
      (share factor distance run).value ≤ 25500 := by
  have low : 0 ≤ factor * distance := Int.mul_nonneg rises ahead
  have high : factor * distance ≤ 255 * 100 := Int.mul_le_mul flat near ahead (by decide)
  refine ⟨?_, Int.ediv_nonneg low (Int.le_of_lt positive), ?_⟩
  · unfold share
    apply Quiet.bind (quiet_signed_of_small (by omega))
    apply Quiet.bind (quiet_signed_of_small (by change (factor * distance).natAbs < _; omega))
    exact quiet_checked.mpr (Int.ne_of_gt positive)
  · have smaller : factor * distance / run ≤ factor * distance := Int.ediv_le_self _ low
    change factor * distance / run ≤ 25500
    omega

theorem quiet_shade {factor distance run : Int} {shift : Int → Int} {next : Level → Step Color}
    (ahead : 0 ≤ distance) (near : distance ≤ 100)
    (line : 0 < run ∧ 0 ≤ factor ∧ factor ≤ 255)
    (small : ∀ part, 0 ≤ part → part ≤ 25500 → (shift part).natAbs < 1 <<< 31)
    (rest : ∀ shade, Quiet (next shade)) :
    Quiet (share factor distance run >>= fun part => level (shift part) >>= next) := by
  obtain ⟨quiet, low, high⟩ := share_small line.1 ahead near line.2.1 line.2.2
  apply Quiet.bind quiet
  apply Quiet.bind
  · exact .bind (quiet_signed_of_small (small _ low high)) (.pure _)
  · exact rest _

theorem quiet_spectrum (nm : Int) : Quiet (spectrum nm) := by
  unfold spectrum Spectrum.first Spectrum.past
  -- A line that starts at a level, or ends at one, or at none of its own.
  have up : ∀ part : Int, 0 ≤ part → part ≤ 25500 → (26 + part).natAbs < 1 <<< 31 := by
    omega
  have down : ∀ part : Int, 0 ≤ part → part ≤ 25500 → (196 - part).natAbs < 1 <<< 31 := by
    omega
  have bare : ∀ part : Int, 0 ≤ part → part ≤ 25500 → part.natAbs < 1 <<< 31 := by
    omega
  apply Quiet.ite (fun _ => .pure _)
  intro seen
  refine .ite (fun violet => ?_) fun _ => .ite (fun indigo => ?_) fun _ => .ite (fun blue => ?_)
    fun _ => .ite (fun cyan => ?_) fun _ => .ite (fun green => ?_) fun _ => .ite (fun yellow => ?_)
    fun _ => .ite (fun _ => .pure _) fun _ => .ite (fun red => ?_) fun _ => .pure _
  · apply quiet_shade (by omega) (by omega) (by decide) down
    intro red
    exact quiet_shade (by omega) (by omega) (by decide) up fun blue => .pure _
  · exact quiet_shade (by omega) (by omega) (by decide) bare fun red => .pure _
  · exact quiet_shade (by omega) (by omega) (by decide) bare fun green => .pure _
  · exact quiet_shade (by omega) (by omega) (by decide) bare fun blue => .pure _
  · exact quiet_shade (by omega) (by omega) (by decide) bare fun red => .pure _
  · exact quiet_shade (by omega) (by omega) (by decide) bare fun green => .pure _
  · exact quiet_shade (by omega) (by omega) (by decide) up fun red => .pure _

theorem quiet_rainbow (length : Nat) : Quiet (rainbow length) := by
  apply Quiet.each
  intro place here
  have inside := List.mem_range.mp here
  apply Quiet.bind (quiet_minus.mpr (by omega))
  apply Quiet.bind (quiet_minus.mpr (by change 1 ≤ length - place; omega))
  exact quiet_spectrum _

theorem quiet_gradient (curve : Curve) {left right : Strip} (even : left.length = right.length)
    (filled : 0 < left.length) (short : left.length < manyPixels) :
    Quiet (gradient curve left right) := by
  unfold gradient
  split
  · next single =>
      apply Quiet.bind (quiet_pixel.mpr filled)
      apply Quiet.bind (quiet_pixel.mpr (even ▸ filled))
      exact .bind (quiet_blend ..) (.pure _)
  · next several =>
      apply Quiet.bind (quiet_minus.mpr filled)
      apply Quiet.each
      rintro ⟨⟨first, second⟩, place⟩ here
      have inside := List.snd_lt_of_mem_zipIdx here
      rw [List.length_zip, ← even, Nat.min_self] at inside
      unfold manyPixels at short
      apply Quiet.bind (quiet_times.mpr (by dsimp only at inside; omega))
      apply Quiet.bind (quiet_quotient.mpr (by change left.length - 1 ≠ 0; omega))
      exact quiet_blend ..

theorem quiet_after {count : Nat} : Quiet (after count) ↔ count * 1000 < 1 <<< 64 := by
  rw [after, quiet_bind, quiet_times]
  exact and_iff_left (.pure _)

/-- The progress of a fade is counted in words of 64 bits, and they run over before the fade is at
its end where 65535 times the milliseconds so far do not fit. -/
theorem quiet_through {elapsed duration : Time} : Quiet (through elapsed duration) ↔
    (elapsed.millis < duration.millis → elapsed.millis * 65535 < 1 <<< 64) := by
  unfold through
  split
  · next none => exact iff_of_true (.pure _) (by omega)
  split
  · next ended => exact iff_of_true (.pure _) (by omega)
  · next positive under =>
      rw [quiet_bind, quiet_times, quiet_bind, quiet_quotient]
      constructor
      · rintro ⟨fits, _⟩ _
        exact fits
      · intro fits
        exact ⟨fits (by omega), positive, .pure _⟩

/-- Exactly then the weight of a fade is the one that words of 64 bits come to without running
over: both stretches have to be counted in microseconds first. -/
theorem quiet_fade {curve : Curve} {elapsed duration : Nat} :
    Quiet (fade curve elapsed duration) ↔ elapsed * 1000 < 1 <<< 64 ∧
      duration * 1000 < 1 <<< 64 ∧ (elapsed < duration → elapsed * 65535 < 1 <<< 64) := by
  simp only [fade, quiet_bind, quiet_after, quiet_through, value_after, Time.millis_ofMillis,
    Quiet.pure, and_true]

theorem quiet_fade_of_short (curve : Curve) {elapsed duration : Nat} (early : elapsed < longTime)
    (short : duration < longStretch) : Quiet (fade curve elapsed duration) := by
  unfold longTime at early
  unfold longStretch at short
  exact quiet_fade.mpr ⟨by omega, by omega, fun _ => by omega⟩

theorem quiet_opposite (weight : Level) : Quiet (opposite weight) := by
  have bound := weight.toNat_lt
  exact .bind (quiet_minus.mpr (by omega)) (.pure _)

theorem quiet_cycleIndex {count : Nat} (filled : 0 < count) (duration : UInt64) (now : Time) :
    Quiet (cycleIndex count duration now) := by
  unfold cycleIndex
  split
  · exact .bind (.pure _) (.bind (quiet_at.mpr filled) (.pure _))
  · next moving =>
      have positive : duration.toNat ≠ 0 := fun zero => moving (UInt64.toNat_inj.mp zero)
      apply Quiet.bind (quiet_quotient.mpr positive)
      apply Quiet.bind (quiet_modulo.mpr (Nat.ne_of_gt filled))
      exact .bind (quiet_at.mpr (Nat.mod_lt _ filled)) (.pure _)

theorem quiet_loopTurn {period : Nat} (moving : period ≠ 0) (now : Time) :
    Quiet (loopTurn period now) :=
  .bind (quiet_quotient.mpr moving) <| .bind (quiet_modulo.mpr moving) <| .pure _

theorem quiet_loopIndex {count : Nat} (filled : 0 < count) (turns : Nat) :
    Quiet (loopIndex count turns) := by
  apply Quiet.bind (quiet_modulo.mpr (Nat.ne_of_gt filled))
  exact .bind (quiet_at.mpr (Nat.mod_lt _ filled)) (.pure _)

theorem quiet_place {moves : Int} {length : Nat} : Quiet (place moves length) ↔ length ≠ 0 :=
  quiet_checked

theorem quiet_turn {frame strip : Strip} (even : frame.length = strip.length) {offset : Nat}
    (inside : offset ≤ strip.length) : Quiet (turn frame strip offset) := by
  unfold turn
  apply Quiet.bind (quiet_part.mpr ⟨inside, Nat.le_refl _⟩)
  apply Quiet.bind (quiet_minus.mpr inside)
  apply Quiet.bind (quiet_part.mpr ⟨Nat.zero_le _, by change strip.length - offset ≤ _; omega⟩)
  apply Quiet.bind (quiet_copy.mpr (by
    simp only [value_part, value_minus, List.drop_zero, List.length_take, List.length_drop]
    omega))
  apply Quiet.bind (quiet_part.mpr ⟨Nat.zero_le _, inside⟩)
  apply Quiet.bind (quiet_minus.mpr inside)
  apply Quiet.bind (quiet_part.mpr ⟨by change strip.length - offset ≤ _; omega, Nat.le_refl _⟩)
  apply Quiet.bind (quiet_copy.mpr (by
    simp only [value_part, value_minus, List.drop_zero, List.length_take, List.length_drop]
    omega))
  exact .pure _

/-- Both ways of a trail of `2 * length - 1` pixels look at its own pixels only. -/
theorem quiet_fold {trail : Strip} {length head : Nat} (long : trail.length = 2 * length - 1)
    (several : 1 < length) (short : length < manyPixels) (inside : head < 2 * (length - 1)) :
    Quiet (fold trail length (length - 1) head) := by
  unfold manyPixels at short
  unfold fold
  split
  · next back =>
      apply Quiet.bind (quiet_plus.mpr (by omega))
      apply Quiet.bind (quiet_minus.mpr (by change length ≤ head + 1; omega))
      apply Quiet.bind (quiet_minus.mpr (by change head + 1 - length ≤ length; omega))
      apply Quiet.bind (quiet_minus.mpr (by change 1 ≤ length - (head + 1 - length); omega))
      apply Quiet.each
      intro place here
      have below := List.mem_range.mp here
      simp only [value_plus, value_minus]
      unfold returning
      split
      · apply Quiet.bind (quiet_minus.mpr (by omega))
        apply Quiet.bind (quiet_plus.mpr (by
          change length - place + (head + 1 - length) < 1 <<< 64; omega))
        apply Quiet.bind (quiet_minus.mpr (by
          change 1 ≤ length - place + (head + 1 - length); omega))
        exact quiet_pixel.mpr (by change length - place + (head + 1 - length) - 1 < _; omega)
      · apply Quiet.bind (quiet_minus.mpr (by omega))
        exact quiet_pixel.mpr (by change place - (length - (head + 1 - length) - 1) < _; omega)
  · next out =>
      apply Quiet.each
      intro place here
      have below := List.mem_range.mp here
      unfold leaving
      split
      · apply Quiet.bind (quiet_minus.mpr (by omega))
        exact quiet_pixel.mpr (by change head - place < _; omega)
      · apply Quiet.bind (quiet_plus.mpr (by omega))
        exact quiet_pixel.mpr (by change head + place < _; omega)

theorem quiet_trail {frame strip : Strip} (long : frame.length = strip.length * 2 - 1)
    (filled : 0 < strip.length) (short : strip.length < manyPixels) (moves : Int) :
    Quiet (trail frame strip moves) := by
  unfold trail
  split
  · exact .bind (quiet_pixel.mpr (by omega)) (.pure _)
  · next several =>
      have far : 0 < 2 * (strip.length - 1) := by omega
      unfold bounce
      apply Quiet.bind (quiet_minus.mpr filled)
      apply Quiet.bind (quiet_times.mpr (by
        change 2 * (strip.length - 1) < _; unfold manyPixels at short; omega))
      apply Quiet.bind (quiet_place.mpr (Nat.ne_of_gt far))
      exact quiet_fold (by omega) (by omega) short (Motion.place_lt moves far)

theorem quiet_hand {length value whole : Nat} (positive : 0 < whole)
    (fits : (length + 1) * whole < 1 <<< 64) : Quiet (hand length value whole) := by
  have scaled : length * (value % whole) ≤ length * whole :=
    Nat.mul_le_mul_left length (Nat.le_of_lt (Nat.mod_lt value positive))
  rw [Nat.add_one_mul] at fits
  unfold hand
  apply Quiet.bind (quiet_modulo.mpr (Nat.ne_of_gt positive))
  apply Quiet.bind (quiet_times.mpr (by change length * (value % whole) < _; omega))
  apply Quiet.bind (quiet_quotient.mpr (by decide))
  apply Quiet.bind (quiet_plus.mpr (by change length * (value % whole) + whole / 2 < _; omega))
  exact quiet_quotient.mpr (Nat.ne_of_gt positive)

theorem quiet_face {palette : Strip} {length : Nat} (full : palette.length = Clock.paletteSize)
    (filled : 0 < length) (short : length < 1 <<< 32) (now : Time) :
    Quiet (face palette length now) := by
  have inside : ∀ place, place < 4 → Quiet (pixel palette place) :=
    fun place below => quiet_pixel.mpr (full ▸ below)
  have around : (length + 1) * length < 1 <<< 64 :=
    Nat.lt_of_le_of_lt (Nat.mul_le_mul (show length + 1 ≤ 1 <<< 32 from short)
      (Nat.le_of_lt_succ (show length < (1 <<< 32) - 1 + 1 from short))) (by decide)
  have hands : ∀ value, Quiet (hand length value 60) :=
    fun value => quiet_hand (by decide) (by omega)
  unfold face
  apply Quiet.bind (quiet_quotient.mpr (by decide))
  apply Quiet.bind (quiet_quotient.mpr (by decide))
  apply Quiet.bind (quiet_quotient.mpr (by decide))
  apply Quiet.bind (inside 0 (by decide))
  apply Quiet.bind (quiet_hand filled around)
  apply Quiet.bind (inside 3 (by decide))
  apply Quiet.bind (hands _)
  apply Quiet.bind (inside 2 (by decide))
  apply Quiet.bind (hands _)
  apply Quiet.bind (inside 1 (by decide))
  exact .pure _

theorem quiet_sample (method : Sampling) {source : Strip} {place : Nat}
    (short : place / 256 + 1 < 1 <<< 64) (inside : place / 256 < source.length)
    (next : place % 256 ≠ 0 → place / 256 + 1 < source.length) :
    Quiet (sample method source place) := by
  cases method with
  | nearest =>
      unfold sample
      dsimp only
      split
      · next near =>
          apply Quiet.bind (quiet_plus.mpr short)
          exact quiet_pixel.mpr (next (by omega))
      · exact quiet_pixel.mpr inside
  | linear =>
      unfold sample
      dsimp only
      apply Quiet.bind (quiet_plus.mpr short)
      split
      · split
        · exact quiet_pixel.mpr inside
        · exact .bind (quiet_pixel.mpr inside) (quiet_blend ..)
      · exact quiet_pixel.mpr inside

theorem quiet_resample (method : Sampling) {source target : Strip}
    (fits : source.length * target.length * 256 < 1 <<< 64) :
    Quiet (resample method source target) := by
  unfold resample
  split
  · exact .pure _
  · next first rest =>
      split
      · exact .pure _
      split
      · next even => exact quiet_copy.mpr even
      split
      · exact .pure _
      · next filled _ several =>
          rw [List.isEmpty_iff, ← List.length_eq_zero_iff] at filled
          have long : 0 < (first :: rest).length := Nat.succ_pos _
          apply Quiet.bind (quiet_minus.mpr long)
          apply Quiet.bind (quiet_minus.mpr (by omega))
          apply Quiet.each
          intro index here
          have below := List.mem_range.mp here
          have last : index ≤ target.length - 1 := by omega
          obtain ⟨inside, next⟩ := @place_inside _ ((first :: rest).length - 1) _ last
          have finer : index * ((first :: rest).length - 1) * 256 < 1 <<< 64 := by
            refine Nat.lt_of_le_of_lt (Nat.mul_le_mul_right 256 ?_) fits
            rw [Nat.mul_comm]
            exact Nat.mul_le_mul (Nat.sub_le ..) (Nat.le_of_lt below)
          have scaled := Nat.lt_of_le_of_lt (Nat.le_mul_of_pos_right _ (by decide)) finer
          have short : (first :: rest).length < 1 <<< 64 := by
            refine Nat.lt_of_le_of_lt ?_ fits
            rw [Nat.mul_assoc]
            exact Nat.le_mul_of_pos_right _ (by omega)
          apply Quiet.bind (quiet_times.mpr scaled)
          apply Quiet.bind (quiet_times.mpr finer)
          apply Quiet.bind (quiet_quotient.mpr (by change target.length - 1 ≠ 0; omega))
          change Quiet (sample method (first :: rest)
            (Sampling.place index ((first :: rest).length - 1) (target.length - 1)))
          apply quiet_sample
          · omega
          · omega
          · intro near
            have further := next near
            omega

/-- Strips of fewer pixels than that are resampled without a word running over. -/
theorem resample_fits {source target : Nat} (small : source < manyPixels)
    (short : target < manyPixels) : source * target * 256 < 1 <<< 64 := by
  unfold manyPixels at small short
  have product : source * target ≤ (2 ^ 28 - 1) * (2 ^ 28 - 1) :=
    Nat.mul_le_mul (by omega) (by omega)
  omega

theorem quiet_gather {place : Nat} {layers : List (Strip × Float32)}
    (inside : ∀ layer ∈ layers, place < layer.1.length) (light : Light) :
    Quiet (gather place layers light) := by
  induction layers generalizing light with
  | nil => rfl
  | cons layer rest ih =>
      obtain ⟨first, others⟩ := List.forall_mem_cons.mp inside
      exact .bind (quiet_pixel.mpr first) (ih others _)

theorem quiet_mixture {length : Nat} {layers : List (Strip × Float32)}
    (even : ∀ layer ∈ layers, layer.1.length = length) : Quiet (mixture length layers) := by
  apply Quiet.each
  intro place here
  have inside := List.mem_range.mp here
  apply Quiet.bind
  · apply quiet_gather
    intro layer present
    rw [even layer present]
    exact inside
  · exact .pure _

theorem result?_gather (place : Nat) (layers : List (Strip × Float32)) (light : Light) :
    (gather place layers light).result? = layers.foldlM
      (fun light layer => layer.1[place]?.map fun ink => light.add ink layer.2) light := by
  induction layers generalizing light with
  | nil => rfl
  | cons layer rest ih =>
      rw [gather, result?_bind, result?_pixel, List.foldlM_cons]
      cases layer.1[place]? with
      | none => rfl
      | some ink => exact ih _

/-- A mixture is made of lookups only, and there is none where one of them fails. -/
theorem result?_mixture (length : Nat) (layers : List (Strip × Float32)) :
    (mixture length layers).result? = (List.range length).mapM fun place =>
      (layers.foldlM (fun light layer =>
        layer.1[place]?.map fun ink => light.add ink layer.2) Light.none).map Light.color := by
  simp only [mixture, result?_each, result?_bind, result?_gather, result?_pure, Option.map_eq_bind,
    Function.comp_def]

end Step

end LightShow
