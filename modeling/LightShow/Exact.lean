/-! The exact value of a binary float: a signed whole mantissa times a power of two. Rounding to
whole numbers, to a narrower float and to decimal digits all start from here, so that none of
them depends on how the floating-point unit rounds. -/

namespace LightShow

inductive Exact where
  | finite (negative : Bool) (mantissa : Nat) (exponent : Int)
  | infinite (negative : Bool)
  | undefined
deriving DecidableEq

/-- The field widths of a binary float, in bits. A sign bit stands above both fields. -/
structure FloatWidth where
  fraction : Nat
  exponent : Nat

namespace FloatWidth

def single : FloatWidth := ⟨23, 8⟩

def double : FloatWidth := ⟨52, 11⟩

/-- The exponent of the smallest positive float. -/
def lowest (width : FloatWidth) : Int := 2 - Nat.pow 2 (width.exponent - 1) - width.fraction

/-- The bits of positive infinity. -/
def infinity (width : FloatWidth) : Nat := (Nat.pow 2 width.exponent - 1) * Nat.pow 2 width.fraction

/-- The bits of the sign alone. -/
def sign (width : FloatWidth) : Nat := Nat.pow 2 (width.exponent + width.fraction)

/-- The value that a pattern of bits stands for. -/
def read (width : FloatWidth) (bits : Nat) : Exact :=
  let fraction := bits % Nat.pow 2 width.fraction
  let field := bits / Nat.pow 2 width.fraction % Nat.pow 2 width.exponent
  let negative := decide (bits / width.sign % 2 = 1)
  if field = Nat.pow 2 width.exponent - 1 then
    if fraction = 0 then .infinite negative else .undefined
  else if field = 0 then .finite negative fraction width.lowest
  else .finite negative (Nat.pow 2 width.fraction + fraction) (width.lowest + field - 1)

/-- A quotient by a power of two, rounded to the nearest whole number, and to the even one of
two that are equally near. -/
def shiftRound (mantissa shift : Nat) : Nat :=
  let whole := mantissa / Nat.pow 2 shift
  let rest := mantissa % Nat.pow 2 shift
  if 2 * rest < Nat.pow 2 shift then whole
  else if 2 * rest = Nat.pow 2 shift then whole + whole % 2
  else whole + 1

/-- The magnitude bits of the float nearest to `mantissa * 2 ^ exponent`. A mantissa that rounds
up to the next power of two carries into the exponent field, which is what it should do. -/
def roundMagnitude (width : FloatWidth) (mantissa : Nat) (exponent : Int) : Nat :=
  if mantissa = 0 then 0
  else
    let target := max width.lowest (exponent + Nat.log2 mantissa - width.fraction)
    let digits :=
      if target ≤ exponent then mantissa * Nat.pow 2 (exponent - target).toNat
      else shiftRound mantissa (target - exponent).toNat
    min width.infinity ((target - width.lowest).toNat * Nat.pow 2 width.fraction + digits)

/-- The bits of the float nearest to a value. -/
def write (width : FloatWidth) : Exact → Nat
  | .finite negative mantissa exponent =>
      width.roundMagnitude mantissa exponent + if negative then width.sign else 0
  | .infinite negative => width.infinity + if negative then width.sign else 0
  | .undefined => width.infinity + Nat.pow 2 (width.fraction - 1)

end FloatWidth

namespace Exact

def ofSingle (value : Float32) : Exact := FloatWidth.single.read value.toBits.toNat

def ofDouble (value : Float) : Exact := FloatWidth.double.read value.toBits.toNat

/-- The single nearest to a value. -/
def toSingle (value : Exact) : Float32 :=
  Float32.ofBits (UInt32.ofNat (FloatWidth.single.write value))

private def signed (negative : Bool) (mantissa : Nat) : Int :=
  if negative then -(mantissa : Int) else mantissa

/-- A scaled whole number, rounded down. -/
def scaledFloor (mantissa : Int) (exponent : Int) : Int :=
  if 0 ≤ exponent then mantissa * Nat.pow 2 exponent.toNat
  else mantissa / Nat.pow 2 (-exponent).toNat

private def within (low high value : Int) : Int := max low (min high value)

/-- The value rounded down and held between two bounds; zero if it is no number. -/
def floorWithin (low high : Int) : Exact → Int
  | .finite negative mantissa exponent =>
      within low high (scaledFloor (signed negative mantissa) exponent)
  | .infinite negative => if negative then low else high
  | .undefined => 0

/-- The value rounded up and held between two bounds; zero if it is no number. -/
def ceilWithin (low high : Int) : Exact → Int
  | .finite negative mantissa exponent =>
      within low high (-scaledFloor (-signed negative mantissa) exponent)
  | .infinite negative => if negative then low else high
  | .undefined => 0

end Exact

/-- The single nearest to a double, ties going to the even neighbour. -/
def narrow (value : Float) : Float32 := (Exact.ofDouble value).toSingle

end LightShow
