/-! Membership in a table of code points, held as closed ranges in ascending order. -/

namespace LightShow

namespace Ranges

/-- Halves the stretch of the table that can hold the code point, `steps` times at most. -/
def search (table : Array (Nat × Nat)) (code : Nat) : (steps low high : Nat) → Bool
  | 0, _, _ => false
  | steps + 1, low, high =>
      if high ≤ low then false
      else
        let middle := (low + high) / 2
        match table[middle]? with
        | none => false
        | some (first, last) =>
            if code < first then search table code steps low middle
            else if last < code then search table code steps (middle + 1) high
            else true

/-- Lies in one of the ranges. -/
def contains (table : Array (Nat × Nat)) (code : Nat) : Bool :=
  search table code (table.size.log2 + 1) 0 table.size

end Ranges

end LightShow
