/-! The clock of a show. One type serves for a point on the clock and for the length of a
stretch of it, in microseconds. Patterns only ever look at whole milliseconds, rounded down.
Clocks count in words of 64 bits: a stretch that is asked for may wrap, and there is no time
behind the last one that a clock reaches. -/

namespace LightShow

structure Time where
  micros : Nat
deriving DecidableEq

namespace Time

/-- The time `count` milliseconds after the origin, whether or not a clock reaches that far. -/
def ofMillis (count : Nat) : Time := ⟨count * 1000⟩

/-- A stretch of milliseconds as it is asked for, in a word. So are its microseconds, which wrap. -/
def ofWord (count : UInt64) : Time := ⟨(count * 1000).toNat⟩

/-- The same for whole seconds. -/
def ofSeconds (count : UInt64) : Time := ⟨(count * 1000000).toNat⟩

/-- Whole milliseconds, rounded down. -/
def millis (time : Time) : Nat := time.micros / 1000

/-- The time as seen by a clock that started `origin` milliseconds later, in whole milliseconds;
before its start that clock shows zero. -/
def since (time : Time) (origin : Nat) : Time := ofMillis (time.millis - origin)

/-- The time some stretch after another, if a clock reaches that far. -/
def add? (time span : Time) : Option Time :=
  if time.micros + span.micros < UInt64.size then some ⟨time.micros + span.micros⟩ else none

theorem millis_ofMillis (count : Nat) : (ofMillis count).millis = count := by
  simp [ofMillis, millis]

theorem millis_since (time : Time) (origin : Nat) :
    (time.since origin).millis = time.millis - origin := by
  rw [since, millis_ofMillis]

end Time

end LightShow
