import LightShow.Text.Invisible
import LightShow.Text.Extending

/-! Text quoted for a message. What cannot be seen, or would join the character before it, is
written as its code point. -/

namespace LightShow

namespace Quoted

/-- The code point in lower-case hexadecimal digits, without leading zeros. -/
def codePoint (char : Char) : List Char :=
  ['\\', 'u', '\x7b'] ++ Nat.toDigits 16 char.toNat ++ ['\x7d']

def escape (char : Char) : List Char :=
  match char with
  | '\x00' => ['\\', '0']
  | '\t' => ['\\', 't']
  | '\r' => ['\\', 'r']
  | '\n' => ['\\', 'n']
  | '\x22' => ['\\', '\x22']
  | '\\' => ['\\', '\\']
  | _ =>
      if Extending.contains char || Invisible.contains char then codePoint char else [char]

/-- The text between double quotes. -/
def text (raw : String) : String :=
  String.ofList ('\x22' :: raw.toList.flatMap escape ++ ['\x22'])

/-- Quoted texts in square brackets. -/
def list (items : List String) : String :=
  "[" ++ String.intercalate ", " (items.map text) ++ "]"

end Quoted

end LightShow
