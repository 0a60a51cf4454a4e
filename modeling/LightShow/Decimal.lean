import LightShow.Exact

/-! Floats in decimal. The digits are the fewest that read back as the same float, and of those
the nearest to its value. All comparisons are between whole numbers. -/

namespace LightShow

/-- A whole number of some power of ten. -/
structure Decimal where
  count : Nat
  scale : Int

namespace Decimal

/-- Compares `tens * 10 ^ scale` with `twos * 2 ^ exponent`. -/
def compareScaled (tens : Nat) (scale : Int) (twos : Nat) (exponent : Int) : Ordering :=
  compare (tens * Nat.pow 10 scale.toNat * Nat.pow 2 (-exponent).toNat)
    (twos * Nat.pow 2 exponent.toNat * Nat.pow 10 (-scale).toNat)

/-- The positive reals that round to one float, in quarters of its last place. -/
structure Interval where
  mantissa : Nat
  exponent : Int
  /-- The float below is only half as far away as the one above. -/
  lopsided : Bool

namespace Interval

/-- Rounds to the float; the two ends do so if its mantissa is even. -/
def contains (interval : Interval) (value : Decimal) : Bool :=
  let low := 4 * interval.mantissa - if interval.lopsided then 1 else 2
  let high := 4 * interval.mantissa + 2
  let above := compareScaled value.count value.scale low (interval.exponent - 2)
  let below := compareScaled value.count value.scale high (interval.exponent - 2)
  if interval.mantissa % 2 = 0 then above != .lt && below != .gt
  else above == .gt && below == .lt

/-- The float in units of a power of ten, rounded down. -/
def floor (interval : Interval) (scale : Int) : Nat :=
  interval.mantissa * Nat.pow 2 interval.exponent.toNat * Nat.pow 10 (-scale).toNat /
    (Nat.pow 2 (-interval.exponent).toNat * Nat.pow 10 scale.toNat)

/-- The multiple of a power of ten that rounds to the float. Of two the nearer is taken, and of
two equally near the even one. -/
def pick? (interval : Interval) (scale : Int) : Option Decimal :=
  let below : Decimal := ⟨interval.floor scale, scale⟩
  let above : Decimal := ⟨below.count + 1, scale⟩
  match interval.contains below, interval.contains above with
  | false, false => none
  | true, false => some below
  | false, true => some above
  | true, true =>
      match compareScaled (2 * below.count + 1) scale (2 * interval.mantissa) interval.exponent with
      | .lt => some above
      | .gt => some below
      | .eq => some (if below.count % 2 = 0 then below else above)

/-- Tries one power of ten after the other, from the largest. -/
def search (interval : Interval) : (more : Nat) → (scale : Int) → Decimal
  | 0, scale => ⟨interval.floor scale, scale⟩
  | more + 1, scale =>
      match interval.pick? scale with
      | some value => value
      | none => interval.search more (scale - 1)

/-- The power of ten of the first digit: estimated from the binary length, then put right. -/
def magnitude (interval : Interval) : Int :=
  let length : Int := interval.exponent + interval.mantissa.log2
  let guess := length * 30103 / 100000
  if compareScaled 1 (guess + 1) interval.mantissa interval.exponent != .gt then guess + 1
  else if compareScaled 1 guess interval.mantissa interval.exponent == .gt then guess - 1
  else guess

/-- The decimal with the fewest digits; seventeen always suffice. -/
def shortest (interval : Interval) : Decimal := interval.search 17 interval.magnitude

end Interval

/-- The digits without closing zeros, and the power of ten of the first. -/
def digits (value : Decimal) : List Char × Int :=
  let all := Nat.toDigits 10 value.count
  ((all.reverse.dropWhile (· == '0')).reverse, value.scale + all.length - 1)

/-- Which powers of ten of the first digit are written with a point alone. -/
structure Layout where
  lowest : Int
  highest : Int

namespace Layout

private def zeros (count : Int) : List Char := List.replicate count.toNat '0'

/-- Digits around a point, with at least one on either side of it. -/
def positional (digits : List Char) (power : Int) : List Char :=
  if power < 0 then ['0', '.'] ++ zeros (-power - 1) ++ digits
  else
    let whole := (power + 1).toNat
    let fraction := digits.drop whole
    digits.take whole ++ zeros (power + 1 - digits.length) ++
      '.' :: (if fraction.isEmpty then ['0'] else fraction)

/-- One digit before the point, if there are more, and a signed exponent. -/
def scientific (digits : List Char) (power : Int) : List Char :=
  let mantissa := match digits with
    | first :: second :: rest => first :: '.' :: second :: rest
    | short => short
  let sign := if power < 0 then '-' else '+'
  mantissa ++ 'e' :: sign :: Nat.toDigits 10 power.natAbs

def write (layout : Layout) (digits : List Char) (power : Int) : List Char :=
  if layout.lowest ≤ power ∧ power ≤ layout.highest then positional digits power
  else scientific digits power

/-- Singles keep a point up to 13 digits before it, or 6 places after. -/
def single : Layout := ⟨-6, 12⟩

/-- Doubles keep a point up to 16 digits before it, or 5 places after. -/
def double : Layout := ⟨-5, 15⟩

end Layout

/-- The text of an exact value of the given width; none if it is no finite number. -/
def text? (width : FloatWidth) (layout : Layout) : Exact → Option (List Char)
  | .finite negative mantissa exponent =>
      let sign := if negative then ['-'] else []
      if mantissa = 0 then some (sign ++ ['0', '.', '0'])
      else
        let lopsided := mantissa == Nat.pow 2 width.fraction && exponent != width.lowest
        let (digits, power) := (Interval.shortest ⟨mantissa, exponent, lopsided⟩).digits
        some (sign ++ layout.write digits power)
  | _ => none

def single? (value : Float32) : Option (List Char) :=
  text? .single .single (.ofSingle value)

def double? (value : Float) : Option (List Char) :=
  text? .double .double (.ofDouble value)

end Decimal

end LightShow
