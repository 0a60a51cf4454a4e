import LightShow.Pattern.Render
import LightShow.Proofs.Logged

/-! Steps that can slip. A step of a drawing has no result where a place is not on its strip, where
nothing is divided by, or where a number does not fit its word; that is noted, and the drawing goes
on. Where nothing was noted, every step had its result. -/

namespace LightShow

inductive Slip where
  /-- A place at or behind the end of a list. -/
  | outside (place length : Nat)
  /-- A stretch that is turned around or ends behind the end of a strip. -/
  | stretch (start stop length : Nat)
  /-- A copy between strips of two lengths. -/
  | uneven (source target : Nat)
  /-- A division by zero. -/
  | byZero (value : Int)
  /-- A difference below zero. -/
  | below (value taken : Nat)
  /-- A number that needs more bits than it has. -/
  | tooWide (value : Int) (bits : Nat)

abbrev Step := Logged Slip

namespace Step

open Logged

def at? (place length : Nat) : Step Unit := checked (place < length) (.outside place length) ()

def pixel (strip : Strip) (place : Nat) : Step Color :=
  checked (place < strip.length) (.outside place strip.length) (strip.getD place Color.black)

def part (strip : Strip) (start stop : Nat) : Step Strip :=
  checked (start ≤ stop ∧ stop ≤ strip.length) (.stretch start stop strip.length)
    ((strip.take stop).drop start)

/-- The source in the place of a strip of its length. -/
def copy (source target : Strip) : Step Strip :=
  checked (source.length = target.length) (.uneven source.length target.length) source

/-- A number that is held in an unsigned word. -/
def word (bits value : Nat) : Step Nat := checked (value < 1 <<< bits) (.tooWide value bits) value

/-- A number that is held in a signed word of 32 bits. -/
def signed (value : Int) : Step Int :=
  checked (Int32.minValue.toInt ≤ value ∧ value ≤ Int32.maxValue.toInt) (.tooWide value 32) value

def plus (left right : Nat) : Step Nat := word 64 (left + right)

def times (left right : Nat) : Step Nat := word 64 (left * right)

def minus (value taken : Nat) : Step Nat :=
  checked (taken ≤ value) (.below value taken) (value - taken)

def quotient (value divisor : Nat) : Step Nat :=
  checked (divisor ≠ 0) (.byZero value) (value / divisor)

def modulo (value divisor : Nat) : Step Nat :=
  checked (divisor ≠ 0) (.byZero value) (value % divisor)

section Values

variable (strip source target : Strip) (place start stop bits left right value divisor : Nat)

@[simp] theorem value_pixel : (pixel strip place).value = strip.getD place Color.black := rfl

@[simp] theorem value_part : (part strip start stop).value = (strip.take stop).drop start := rfl

@[simp] theorem value_copy : (copy source target).value = source := rfl

@[simp] theorem value_plus : (plus left right).value = left + right := rfl

@[simp] theorem value_times : (times left right).value = left * right := rfl

@[simp] theorem value_minus : (minus value left).value = value - left := rfl

@[simp] theorem value_quotient : (quotient value divisor).value = value / divisor := rfl

end Values

section Quiet

variable {strip source target : Strip} {place start stop bits left right value divisor : Nat}

theorem quiet_at {length : Nat} : Quiet (at? place length) ↔ place < length := quiet_checked

theorem quiet_pixel : Quiet (pixel strip place) ↔ place < strip.length := quiet_checked

theorem quiet_part : Quiet (part strip start stop) ↔ start ≤ stop ∧ stop ≤ strip.length :=
  quiet_checked

theorem quiet_copy : Quiet (copy source target) ↔ source.length = target.length := quiet_checked

theorem quiet_word : Quiet (word bits value) ↔ value < 1 <<< bits := quiet_checked

theorem quiet_signed {value : Int} : Quiet (signed value) ↔
    Int32.minValue.toInt ≤ value ∧ value ≤ Int32.maxValue.toInt := quiet_checked

theorem quiet_signed_of_small {value : Int} (small : value.natAbs < 1 <<< 31) :
    Quiet (signed value) := by
  have low : Int32.minValue.toInt = -2147483648 := rfl
  have high : Int32.maxValue.toInt = 2147483647 := rfl
  exact quiet_signed.mpr (by omega)

theorem quiet_plus : Quiet (plus left right) ↔ left + right < 1 <<< 64 := quiet_word

theorem quiet_times : Quiet (times left right) ↔ left * right < 1 <<< 64 := quiet_word

theorem quiet_minus : Quiet (minus value left) ↔ left ≤ value := quiet_checked

theorem quiet_quotient : Quiet (quotient value divisor) ↔ divisor ≠ 0 := quiet_checked

theorem quiet_modulo : Quiet (modulo value divisor) ↔ divisor ≠ 0 := quiet_checked

end Quiet

theorem result?_pixel (strip : Strip) (place : Nat) :
    (pixel strip place).result? = strip[place]? := by
  rw [pixel, result?_checked]
  split
  · next inside => simp [List.getElem?_eq_getElem inside]
  · next outside => exact (List.getElem?_eq_none (Nat.le_of_not_lt outside)).symm

section Words

/-! A step on numbers that words hold has the result of the operation on the words, and none where
that operation runs over or divides by zero. -/

variable {bits : Nat} (left right : BitVec bits)

theorem result?_word_add : (word bits (left.toNat + right.toNat)).result? =
    if left.uaddOverflow right then none else some (left + right).toNat := by
  rw [word, result?_checked, Nat.one_shiftLeft]
  split
  · next fits => simp [BitVec.uaddOverflow, Nat.not_le_of_lt fits, Nat.mod_eq_of_lt fits]
  · next wide => simp [BitVec.uaddOverflow, Nat.le_of_not_lt wide]

theorem result?_word_mul : (word bits (left.toNat * right.toNat)).result? =
    if left.umulOverflow right then none else some (left * right).toNat := by
  rw [word, result?_checked, Nat.one_shiftLeft]
  split
  · next fits => simp [BitVec.umulOverflow, Nat.not_le_of_lt fits, Nat.mod_eq_of_lt fits]
  · next wide => simp [BitVec.umulOverflow, Nat.le_of_not_lt wide]

theorem result?_minus : (minus left.toNat right.toNat).result? =
    if left.usubOverflow right then none else some (left - right).toNat := by
  rw [minus, result?_checked]
  split
  · next enough =>
      rw [BitVec.toNat_sub_of_le (BitVec.le_def.mpr enough)]
      simp [BitVec.usubOverflow, Nat.not_lt_of_le enough]
  · next below => simp [BitVec.usubOverflow, Nat.lt_of_not_le below]

theorem result?_quotient : (quotient left.toNat right.toNat).result? =
    if right = 0 then none else some (left / right).toNat := by
  simp only [quotient, result?_checked, BitVec.toNat_udiv, ← BitVec.toNat_inj,
    BitVec.ofNat_eq_ofNat, BitVec.toNat_zero, ite_not]

theorem result?_modulo : (modulo left.toNat right.toNat).result? =
    if right = 0 then none else some (left % right).toNat := by
  simp only [modulo, result?_checked, BitVec.toNat_umod, ← BitVec.toNat_inj,
    BitVec.ofNat_eq_ofNat, BitVec.toNat_zero, ite_not]

theorem result?_signed_of {value : Int} {wraps : Bool} {held : BitVec 32}
    (beyond : wraps = (decide (1 <<< 31 ≤ value) || decide (value < -(1 <<< 31))))
    (holds : ¬wraps → held.toInt = value) :
    (signed value).result? = if wraps then none else some held.toInt := by
  have low : Int32.minValue.toInt = -(1 <<< 31) := rfl
  have high : Int32.maxValue.toInt = 1 <<< 31 - 1 := rfl
  have outside : wraps ↔ 1 <<< 31 ≤ value ∨ value < -(1 <<< 31) := by
    rw [beyond, Bool.or_eq_true, decide_eq_true_iff, decide_eq_true_iff]
  rw [signed, result?_checked]
  by_cases wrapped : wraps
  · have far := outside.mp wrapped
    rw [if_pos wrapped, if_neg (by omega)]
  · have near := mt outside.mpr wrapped
    rw [if_neg wrapped, holds wrapped, if_pos (by omega)]

variable (first second : BitVec 32)

theorem result?_signed_add : (signed (first.toInt + second.toInt)).result? =
    if first.saddOverflow second then none else some (first + second).toInt :=
  result?_signed_of rfl BitVec.toInt_add_of_not_saddOverflow

theorem result?_signed_sub : (signed (first.toInt - second.toInt)).result? =
    if first.ssubOverflow second then none else some (first - second).toInt :=
  result?_signed_of rfl BitVec.toInt_sub_of_not_ssubOverflow

theorem result?_signed_mul : (signed (first.toInt * second.toInt)).result? =
    if first.smulOverflow second then none else some (first * second).toInt :=
  result?_signed_of rfl BitVec.toInt_mul_of_not_smulOverflow

end Words

end Step

end LightShow
