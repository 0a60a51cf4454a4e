import LightShow.Proofs.Legible

/-! Which singles are written as numbers. A single that is infinite or no number at all is written
as `null`, and read again it is one. -/

namespace LightShow

namespace FloatWidth

/-- The exponent field of some magnitude bits. -/
def field (width : FloatWidth) (bits : Nat) : Nat :=
  bits / Nat.pow 2 width.fraction % Nat.pow 2 width.exponent

end FloatWidth

open Float.Model in
theorem toNat_unpackExponent (bits : UInt32) :
    (@UnpackedFloat.unpackExponent .binary32 bits.toBitVec).toNat =
      FloatWidth.single.field bits.toNat := by
  simp [UnpackedFloat.unpackExponent, Nat.shiftRight_eq_div_pow, FloatWidth.field]
  rfl

open Float.Model in
/-- A single is finite unless its exponent field is full. -/
theorem isFinite_iff (value : Float32) :
    value.isFinite ↔ FloatWidth.single.field value.toBits.toNat ≠ 255 := by
  have full : @UnpackedFloat.unpackExponent .binary32 value.toBits.toBitVec = -1#8 ↔
      FloatWidth.single.field value.toBits.toNat = 255 := by
    rw [← BitVec.toNat_inj, toNat_unpackExponent]
    rfl
  change (UnpackedFloat.unpack .binary32 value.toBits.toBitVec).isFinite = true ↔ _
  rw [Ne, ← full]
  delta UnpackedFloat.unpack
  by_cases top : @UnpackedFloat.unpackExponent .binary32 value.toBits.toBitVec = -1#8
  · refine iff_of_false ?_ fun below => below top
    rw [if_pos top]
    by_cases none : @UnpackedFloat.unpackMantissa .binary32 value.toBits.toBitVec = 0#_
    · rw [if_pos none]
      exact nofun
    · rw [if_neg none]
      exact nofun
  · refine iff_of_true ?_ top
    rw [if_neg top]
    by_cases low : @UnpackedFloat.unpackExponent .binary32 value.toBits.toBitVec = 0#_
    · rw [if_pos low]
      by_cases none : @UnpackedFloat.unpackMantissa .binary32 value.toBits.toBitVec = 0#_
      · rw [dif_pos none]
        rfl
      · rw [dif_neg none]
        rfl
    · rw [if_neg low]
      rfl

theorem single?_eq_none {value : Float32} (wild : ¬value.isFinite) :
    Decimal.single? value = none := by
  rw [isFinite_iff, Decidable.not_not] at wild
  have full : value.toBits.toNat / Nat.pow 2 FloatWidth.single.fraction %
      Nat.pow 2 FloatWidth.single.exponent = Nat.pow 2 FloatWidth.single.exponent - 1 := wild
  unfold Decimal.single? Exact.ofSingle FloatWidth.read
  simp only [full, ↓reduceIte]
  split <;> rfl

namespace Json

theorem chars_wild {value : Float32} (wild : ¬value.isFinite) :
    chars (.number (.single value)) = ['n', 'u', 'l', 'l'] := by
  rw [chars, numberChars, single?_eq_none wild]
  rfl

theorem read_wild {value : Float32} (wild : ¬value.isFinite) :
    Json.read (numberOctets (.single value)) = .ok .null := read_of_null (chars_wild wild)

theorem reread_wild {value : Float32} (wild : ¬value.isFinite) :
    reread (.number (.single value)) = .null :=
  reread_of_null (fun _ same => Number.noConfusion same) (chars_wild wild)

end Json

end LightShow
