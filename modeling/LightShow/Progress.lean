import LightShow.Time
import LightShow.Level

/-! How far a stretch of time has run, as a 16-bit fraction: 0 at its start, 65535 at its end. -/

namespace LightShow

abbrev Progress := UInt16

namespace Progress

/-- The part of `duration` that `elapsed` has covered, both in whole milliseconds and rounded
down. An empty duration never starts; past its end every other one stays at 65535. The product is
exact: whether it fits its word is for the steps of a drawing to note. -/
def through (elapsed duration : Time) : Progress :=
  if duration.millis = 0 then 0
  else if duration.millis ≤ elapsed.millis then 65535
  else UInt16.ofNat (elapsed.millis * 65535 / duration.millis)

/-- The upper eight bits of a fraction, used as a blend weight. -/
def level (progress : Progress) : Level := UInt8.ofNat (progress.toNat / 256)

theorem level_toNat (progress : Progress) : (level progress).toNat = progress.toNat / 256 := by
  have bound := progress.toNat_lt
  rw [level, UInt8.toNat_ofNat']
  apply Nat.mod_eq_of_lt
  omega

theorem through_of_empty {elapsed duration : Time} (empty : duration.millis = 0) :
    through elapsed duration = 0 := if_pos empty

theorem through_of_over {elapsed duration : Time} (positive : duration.millis ≠ 0)
    (ended : duration.millis ≤ elapsed.millis) : through elapsed duration = 65535 := by
  rw [through, if_neg positive, if_pos ended]

theorem through_of_running {elapsed duration : Time} (running : elapsed.millis < duration.millis) :
    (through elapsed duration).toNat = elapsed.millis * 65535 / duration.millis := by
  have positive : duration.millis ≠ 0 := by omega
  rw [through, if_neg positive, if_neg (by omega), UInt16.toNat_ofNat']
  apply Nat.mod_eq_of_lt
  have scaled : elapsed.millis * 65535 / duration.millis ≤ 65535 := by
    apply Nat.div_le_of_le_mul
    exact Nat.mul_le_mul_right 65535 (Nat.le_of_lt running)
  omega

end Progress

end LightShow
