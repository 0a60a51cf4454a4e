import LightShow.Strip

/-! The texts of colors and strips, told by their characters: hexadecimal digits of either case, six
of them for each pixel. -/

namespace LightShow

namespace Hex

/-- A hexadecimal digit of either case. -/
def IsDigit (char : Char) : Prop :=
  ('0' ≤ char ∧ char ≤ '9') ∨ ('a' ≤ char ∧ char ≤ 'f') ∨ ('A' ≤ char ∧ char ≤ 'F')

instance : DecidablePred IsDigit := fun _ =>
  inferInstanceAs (Decidable ((_ ∧ _) ∨ (_ ∧ _) ∨ (_ ∧ _)))

theorem isSome_value? (char : Char) : (value? char).isSome ↔ IsDigit char := by
  have zero : '0'.toNat = 48 := rfl
  have nine : '9'.toNat = 57 := rfl
  have lowerA : 'a'.toNat = 97 := rfl
  have lowerF : 'f'.toNat = 102 := rfl
  have upperA : 'A'.toNat = 65 := rfl
  have upperF : 'F'.toNat = 70 := rfl
  simp only [IsDigit, Char.le_def, UInt32.le_iff_toNat_le, Char.toNat_val, zero, nine, lowerA,
    lowerF, upperA, upperF]
  unfold value?
  split
  · next range => simp [range]
  split
  · next range => simp [range]
  split
  · next range => simp [range]
  · next other lower upper => simp [other, lower, upper]

theorem isSome_byte? (high low : Char) :
    (byte? high low).isSome ↔ IsDigit high ∧ IsDigit low := by
  rw [← isSome_value?, ← isSome_value?, byte?]
  cases value? high <;> cases value? low <;> simp

end Hex

theorem Color.isSome_ofHex? (digits : List Char) :
    (ofHex? digits).isSome ↔ digits.length = 6 ∧ ∀ char ∈ digits, Hex.IsDigit char := by
  fun_cases ofHex? digits with
  | case1 r₁ r₂ g₁ g₂ b₁ b₂ =>
      have channels : (ofHex? [r₁, r₂, g₁, g₂, b₁, b₂]).isSome =
          ((Hex.byte? r₁ r₂).isSome && (Hex.byte? g₁ g₂).isSome && (Hex.byte? b₁ b₂).isSome) := by
        unfold ofHex?
        cases Hex.byte? r₁ r₂ <;> cases Hex.byte? g₁ g₂ <;> cases Hex.byte? b₁ b₂ <;> rfl
      refine (Bool.coe_iff_coe.mpr channels).trans ?_
      simp [Hex.isSome_byte?, and_assoc]
  | case2 _ other =>
      refine iff_of_false Bool.false_ne_true fun six => ?_
      match digits, six.1 with
      | [r₁, r₂, g₁, g₂, b₁, b₂], _ => exact other r₁ r₂ g₁ g₂ b₁ b₂ rfl

/-- The pixels of a strip are six digits each. -/
theorem Strip.isSome_ofHex? (digits : List Char) :
    (ofHex? digits).isSome ↔ 6 ∣ digits.length ∧ ∀ char ∈ digits, Hex.IsDigit char := by
  fun_induction ofHex? digits with
  | case1 => simp
  | case2 r₁ r₂ g₁ g₂ b₁ b₂ rest ih =>
      have parts :
          r₁ :: r₂ :: g₁ :: g₂ :: b₁ :: b₂ :: rest = [r₁, r₂, g₁, g₂, b₁, b₂] ++ rest := rfl
      have both : (ofHex? (r₁ :: r₂ :: g₁ :: g₂ :: b₁ :: b₂ :: rest)).isSome =
          ((Color.ofHex? [r₁, r₂, g₁, g₂, b₁, b₂]).isSome && (ofHex? rest).isSome) := by
        rw [ofHex?]
        cases Color.ofHex? [r₁, r₂, g₁, g₂, b₁, b₂] <;> cases ofHex? rest <;> rfl
      have sixes : 6 ∣ [r₁, r₂, g₁, g₂, b₁, b₂].length + rest.length ↔ 6 ∣ rest.length :=
        Nat.dvd_add_right (Nat.dvd_refl 6)
      refine (Bool.coe_iff_coe.mpr both).trans ?_
      rw [Bool.and_eq_true, Color.isSome_ofHex?, ih, parts, List.length_append, sixes,
        List.forall_mem_append]
      constructor
      · rintro ⟨⟨-, first⟩, whole, others⟩
        exact ⟨whole, first, others⟩
      · rintro ⟨whole, first, others⟩
        exact ⟨⟨rfl, first⟩, whole, others⟩
  | case3 digits empty other =>
      refine iff_of_false Bool.false_ne_true fun both => ?_
      have short : digits.length < 6 := by
        rcases digits with _ | ⟨r₁, _ | ⟨r₂, _ | ⟨g₁, _ | ⟨g₂, _ | ⟨b₁, _ | ⟨b₂, rest⟩⟩⟩⟩⟩⟩
        iterate 6 exact Nat.lt_of_sub_pos (Nat.succ_pos _)
        exact absurd rfl (other r₁ r₂ g₁ g₂ b₁ b₂ rest)
      have some : 0 < digits.length := List.length_pos_iff.mpr empty
      exact absurd (Nat.le_of_dvd some both.1) (Nat.not_le_of_lt short)

end LightShow
