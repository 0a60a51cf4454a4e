/-! Brightness levels of one channel, 0 to 255, and their blend. A weight is a level too: 0 keeps
the first of two levels, 255 gives the second. -/

namespace LightShow

abbrev Level := UInt8

namespace Level

/-- The mean of two levels, weighted `255 - weight` to `weight` and rounded down. -/
def blend (first second weight : Level) : Level :=
  UInt8.ofNat ((first.toNat * (255 - weight.toNat) + second.toNat * weight.toNat) / 255)

/-- A summed level, rounded half up and held between 0 and 255. A sum that is no number is 0. -/
def ofSum (sum : Float32) : Level :=
  if 255.0 ≤ sum then 255
  else if sum ≤ 0.0 then 0
  else (sum + 0.5).toUInt8

private theorem weight_le (weight : Level) : weight.toNat ≤ 255 := by
  have bound := weight.toNat_lt
  omega

theorem blend_toNat (first second weight : Level) :
    (blend first second weight).toNat =
      (first.toNat * (255 - weight.toNat) + second.toNat * weight.toNat) / 255 := by
  have keep := Nat.mul_le_mul_right (255 - weight.toNat) (weight_le first)
  have take := Nat.mul_le_mul_right weight.toNat (weight_le second)
  have bound := weight_le weight
  rw [blend, UInt8.toNat_ofNat']
  apply Nat.mod_eq_of_lt
  omega

theorem blend_zero (first second : Level) : blend first second 0 = first := by
  apply UInt8.toNat_inj.mp
  rw [blend_toNat]
  simp

theorem blend_full (first second : Level) : blend first second 255 = second := by
  apply UInt8.toNat_inj.mp
  rw [blend_toNat]
  simp

theorem blend_self (level weight : Level) : blend level level weight = level := by
  apply UInt8.toNat_inj.mp
  have bound := weight_le weight
  rw [blend_toNat, ← Nat.mul_add, Nat.sub_add_cancel bound, Nat.mul_div_cancel _ (by decide)]

/-- A level that is not outside of two others. -/
def Between (first second level : Level) : Prop :=
  min first.toNat second.toNat ≤ level.toNat ∧ level.toNat ≤ max first.toNat second.toNat

theorem between_blend (first second weight : Level) :
    Between first second (blend first second weight) := by
  have shares : ∀ level, level * 255 = level * (255 - weight.toNat) + level * weight.toNat := by
    intro level
    rw [← Nat.mul_add, Nat.sub_add_cancel (weight_le weight)]
  unfold Between
  rw [blend_toNat]
  constructor
  · rw [Nat.le_div_iff_mul_le (by decide), shares]
    exact Nat.add_le_add (Nat.mul_le_mul_right _ (Nat.min_le_left ..))
      (Nat.mul_le_mul_right _ (Nat.min_le_right ..))
  · apply Nat.div_le_of_le_mul
    rw [Nat.mul_comm 255, shares]
    exact Nat.add_le_add (Nat.mul_le_mul_right _ (Nat.le_max_left ..))
      (Nat.mul_le_mul_right _ (Nat.le_max_right ..))

/-- What is left of the whole weight. -/
theorem opposite_toNat (weight : Level) : (255 - weight : Level).toNat = 255 - weight.toNat :=
  UInt8.toNat_sub_of_le 255 weight (weight_le weight)

/-- A blend the other way around, by the weight that is left. -/
theorem blend_flip (first second weight : Level) :
    blend second first (255 - weight) = blend first second weight := by
  apply UInt8.toNat_inj.mp
  rw [blend_toNat, blend_toNat, opposite_toNat, Nat.sub_sub_self (weight_le weight), Nat.add_comm]

theorem blend_le_blend {first second : Level} (up : first.toNat ≤ second.toNat)
    {early late : Level} (later : early.toNat ≤ late.toNat) :
    (blend first second early).toNat ≤ (blend first second late).toNat := by
  obtain ⟨more, grown⟩ := Nat.exists_eq_add_of_le later
  have bound := weight_le late
  have kept : first.toNat * (255 - early.toNat) =
      first.toNat * (255 - late.toNat) + first.toNat * more := by
    rw [← Nat.mul_add]
    congr 1
    omega
  have taken : second.toNat * late.toNat = second.toNat * early.toNat + second.toNat * more := by
    rw [← Nat.mul_add, grown]
  have share := Nat.mul_le_mul_right more up
  rw [blend_toNat, blend_toNat]
  exact Nat.div_le_div_right (by omega)

theorem blend_le_blend_of_down {first second : Level} (down : second.toNat ≤ first.toNat)
    {early late : Level} (later : early.toNat ≤ late.toNat) :
    (blend first second late).toNat ≤ (blend first second early).toNat := by
  rw [← blend_flip first second late, ← blend_flip first second early]
  apply blend_le_blend down
  rw [opposite_toNat, opposite_toNat]
  exact Nat.sub_le_sub_left later 255

/-- As its weight grows, a blend moves towards the second level and not away from it. -/
theorem between_blend_of_le (first second : Level) {early late : Level}
    (later : early.toNat ≤ late.toNat) :
    Between (blend first second early) second (blend first second late) := by
  have within := between_blend first second late
  unfold Between at within ⊢
  rcases Nat.le_total first.toNat second.toNat with up | down
  · have grows := blend_le_blend up later
    omega
  · have shrinks := blend_le_blend_of_down down later
    omega

end Level

end LightShow
