import LightShow.Json.Basic
import LightShow.Decimal

/-! The compact text of a JSON value: no blanks, fields in their own order, and every character
from the space on as itself but for the quote and the backslash. -/

namespace LightShow

namespace Json

/-- A control character as four hexadecimal digits. -/
private def controlEscape (char : Char) : List Char :=
  ['\\', 'u', '0', '0', Nat.digitChar (char.toNat / 16), Nat.digitChar (char.toNat % 16)]

def escape (char : Char) : List Char :=
  match char with
  | '\x22' => ['\\', '\x22']
  | '\\' => ['\\', '\\']
  | '\x08' => ['\\', 'b']
  | '\x0c' => ['\\', 'f']
  | '\n' => ['\\', 'n']
  | '\r' => ['\\', 'r']
  | '\t' => ['\\', 't']
  | _ => if char.toNat < 32 then controlEscape char else [char]

def stringChars (text : String) : List Char := '\x22' :: text.toList.flatMap escape ++ ['\x22']

private def nullChars : List Char := ['n', 'u', 'l', 'l']

/-- A float that is no finite number is written as `null`. -/
def numberChars : Number → List Char
  | .natural value => Nat.toDigits 10 value.toNat
  | .negative value => '-' :: Nat.toDigits 10 value.natAbs
  | .double value => (Decimal.double? value).getD nullChars
  | .single value => (Decimal.single? value).getD nullChars

mutual

def chars : Json → List Char
  | .null => nullChars
  | .bool true => ['t', 'r', 'u', 'e']
  | .bool false => ['f', 'a', 'l', 's', 'e']
  | .number value => numberChars value
  | .string value => stringChars value
  | .array items => '[' :: itemChars items
  | .object fields => '\x7b' :: fieldChars fields

/-- The items of an array and the bracket that closes it. -/
def itemChars : List Json → List Char
  | [] => [']']
  | [last] => chars last ++ [']']
  | item :: rest => chars item ++ ',' :: itemChars rest

/-- The fields of an object and the brace that closes it. -/
def fieldChars : List (String × Json) → List Char
  | [] => ['\x7d']
  | [(name, last)] => stringChars name ++ ':' :: (chars last ++ ['\x7d'])
  | (name, value) :: rest => stringChars name ++ ':' :: (chars value ++ ',' :: fieldChars rest)

end

def text (value : Json) : String := String.ofList value.chars

end Json

end LightShow
