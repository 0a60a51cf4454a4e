import LightShow.Json.Scan

/-! Numbers in a JSON text. A number without point and exponent that fits 64 bits is whole. Every
other one is a double: its digits as far as they fit 64 bits, times one power of ten. That is not
always the double nearest to the decimal, but it is a fixed one. -/

namespace LightShow

namespace Json

namespace Scan

/-- Appends digits to a number as long as it stays within a limit; returns those left over. -/
def absorb (limit : Nat) : (total : Nat) → Octets → Nat × Octets
  | total, [] => (total, [])
  | total, octet :: rest =>
      let next := total * 10 + Octet.digit octet
      if next ≤ limit then absorb limit next rest else (total, octet :: rest)

/-- The leading digits and what follows them. -/
def digits (text : Octets) : Octets × Octets :=
  (text.takeWhile Octet.isDigit, text.dropWhile Octet.isDigit)

/-- The largest significand. -/
def mostSignificand : Nat := UInt64.size - 1

/-- The largest exponent that is counted. -/
def mostExponent : Nat := UInt32.size / 2 - 1

private def tenTo (power : Nat) : Float := Float.ofScientific 1 false power

/-- Divides by a power of ten, in strides of at most 308 places. Three strides turn any
significand into zero. -/
def shrink : (strides : Nat) → Float → (places : Nat) → Float
  | 0, value, _ => value
  | strides + 1, value, places =>
      if places ≤ 308 then value / tenTo places
      else if value == 0.0 then value
      else shrink strides (value / tenTo 308) (places - 308)

/-- A significand times a power of ten, if it is a finite double. -/
def scale? (significand : Nat) (exponent : Int) : Option Float :=
  let value := (UInt64.ofNat significand).toFloat
  if exponent < 0 then some (shrink 3 value exponent.natAbs)
  else if 308 < exponent then if significand = 0 then some value else none
  else
    let product := value * tenTo exponent.toNat
    if product.isInf then none else some product

private def signed (negative : Bool) (value : Float) : Float :=
  if negative then -value else value

/-- A double, unless it is too large. -/
def scaled (negative : Bool) (significand : Nat) (exponent : Int) (rest : Octets) :
    Except Stop (Number × Octets) :=
  match scale? significand exponent with
  | none => fail .numberRange rest
  | some value => .ok (.double (signed negative value), rest)

/-- A whole number. Zero with a minus sign, and a negative number below 64 bits, are doubles. -/
def whole (negative : Bool) (significand : Nat) : Number :=
  if !negative then .natural (UInt64.ofNat significand)
  else if 1 ≤ significand && significand ≤ UInt64.size / 2 then .negative (-significand)
  else .double (-(UInt64.ofNat significand).toFloat)

/-- Reads the digits of an exponent. One that is too large to be counted leaves nothing of the
number, or is an error if it would make it large. -/
def exponentDigits (negative : Bool) (significand : Nat) (places : Int) (down : Bool)
    (text : Octets) : Except Stop (Number × Octets) :=
  match text with
  | [] => fail .endOfValue []
  | octet :: after =>
      if !Octet.isDigit octet then fail .invalidNumber after
      else
        let (found, rest) := digits text
        match absorb mostExponent 0 found with
        | (count, []) =>
            scaled negative significand (if down then places - count else places + count) rest
        | (_, _ :: unread) =>
            if significand ≠ 0 && !down then fail .numberRange (unread ++ rest)
            else .ok (.double (signed negative 0.0), rest)

/-- Reads the exponent behind its letter, with its sign if there is one. -/
def exponent (negative : Bool) (significand : Nat) (places : Int) (text : Octets) :
    Except Stop (Number × Octets) :=
  match text with
  | [] => exponentDigits negative significand places false []
  | octet :: rest =>
      if octet = Octet.minus then exponentDigits negative significand places true rest
      else if octet = Octet.plus then exponentDigits negative significand places false rest
      else exponentDigits negative significand places false (octet :: rest)

/-- Goes on behind the digits of a number, of which `spare` did not fit the significand. -/
def afterWhole (negative : Bool) (significand spare : Nat) (text : Octets) :
    Except Stop (Number × Octets) :=
  match text with
  | [] => if spare = 0 then .ok (whole negative significand, []) else
      scaled negative significand spare []
  | octet :: rest =>
      if octet = Octet.point then
        match digits rest with
        | ([], []) => fail .endOfValue []
        | ([], _ :: after) => fail .invalidNumber after
        | (found, rest) =>
            let (significand, dropped) := absorb mostSignificand significand found
            let places : Int := spare - (found.length - dropped.length : Nat)
            match rest with
            | mark :: after =>
                if Octet.isExponentMark mark then exponent negative significand places after
                else scaled negative significand places rest
            | [] => scaled negative significand places []
      else if Octet.isExponentMark octet then exponent negative significand spare rest
      else if spare = 0 then .ok (whole negative significand, text)
      else scaled negative significand spare text

/-- Reads a number from its first digit on. A leading zero stands alone. -/
def numeral (negative : Bool) (text : Octets) : Except Stop (Number × Octets) :=
  match text with
  | [] => fail .endOfValue []
  | octet :: after =>
      if !Octet.isDigit octet then fail .invalidNumber after
      else if octet = Octet.zero then
        match after with
        | next :: rest =>
            if Octet.isDigit next then fail .invalidNumber rest
            else afterWhole negative 0 0 after
        | [] => afterWhole negative 0 0 []
      else
        let (found, rest) := digits text
        let (significand, spare) := absorb mostSignificand 0 found
        afterWhole negative significand spare.length rest

/-- Reads a number with its sign, if there is one at this octet. -/
def number? (octet : UInt8) (rest : Octets) : Option (Except Stop (Number × Octets)) :=
  if octet = Octet.minus then some (numeral true rest)
  else if Octet.isDigit octet then some (numeral false (octet :: rest))
  else none

end Scan

end Json

end LightShow
