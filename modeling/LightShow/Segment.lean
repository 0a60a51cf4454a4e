import LightShow.Json.Record

/-! A stretch of a strip, from its first pixel to the one behind its last. In a document the end
is called `length`. -/

namespace LightShow

structure Segment where
  start : UInt64
  stop : UInt64
deriving DecidableEq

namespace Segment

/-- The number of pixels covered; none if the segment is turned around. -/
def size (segment : Segment) : Nat := segment.stop.toNat - segment.start.toNat

/-- The segment is not turned around and ends within a strip of `length` pixels. -/
def Fits (segment : Segment) (length : Nat) : Prop :=
  segment.start.toNat ≤ segment.stop.toNat ∧ segment.stop.toNat ≤ length

instance (segment : Segment) (length : Nat) : Decidable (segment.Fits length) :=
  inferInstanceAs (Decidable (_ ∧ _))

/-- The fields in the order in which they are written. -/
def fields (segment : Segment) : List (String × Json) :=
  [("start", .number (.natural segment.start)), ("length", .number (.natural segment.stop))]

def json (segment : Segment) : Json := .object segment.fields

/-- The largest number of a place on a strip. -/
def mostPlace : Nat := UInt64.size - 1

private def place (put : Segment → UInt64 → Segment) (segment : Segment) (text : Json.Octets) :
    Except Json.Stop (Segment × Json.Octets) := do
  let (value, rest) ← Json.Scan.wholeUpTo mostPlace "usize" text
  return (put segment value, rest)

/-- Both fields have to be there. -/
def record : Json.Record Segment where
  name := "RenderingBounds"
  entries :=
    [⟨"start", place fun segment value => { segment with start := value }⟩,
      ⟨"length", place fun segment value => { segment with stop := value }⟩]
  start := ⟨0, 0⟩
  lenient := false

def read (text : Json.Octets) : Except Json.Error Segment := Json.readWith record.scan text

end Segment

end LightShow
