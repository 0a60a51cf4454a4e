import LightShow.Json.Fault
import LightShow.Text.Utf8

/-! The leaves of a JSON text, read from a list of octets: blanks, literals and strings. Every
reader returns what it has read and the octets behind it. When one stops at a fault, the octets
that are left tell its place in the whole text. -/

namespace LightShow

namespace Json

abbrev Octets := List UInt8

/-- A fault, and the octets behind the place where reading stopped. -/
structure Stop where
  fault : Fault
  rest : Octets

namespace Stop

/-- The place behind the octets of a text that were read. -/
def placeOf (read : Octets) : Place :=
  let line := read.reverse.takeWhile (· != 10)
  ⟨1 + read.count 10, line.length⟩

def locate (stop : Stop) (text : Octets) : Error :=
  ⟨stop.fault, some (placeOf (text.take (text.length - stop.rest.length)))⟩

end Stop

/-- Stops in front of `rest`. -/
def fail {Result : Type} (fault : Fault) (rest : Octets) : Except Stop Result :=
  .error ⟨fault, rest⟩

namespace Octet

def quote : UInt8 := 34
def plus : UInt8 := 43
def comma : UInt8 := 44
def minus : UInt8 := 45
def point : UInt8 := 46
def zero : UInt8 := 48
def colon : UInt8 := 58
def openList : UInt8 := 91
def backslash : UInt8 := 92
def closeList : UInt8 := 93
def openObject : UInt8 := 123
def closeObject : UInt8 := 125

/-- Space, tab, line feed or carriage return. -/
def isBlank (octet : UInt8) : Bool := octet == 32 || octet == 9 || octet == 10 || octet == 13

def isDigit (octet : UInt8) : Bool := 48 ≤ octet && octet ≤ 57

def digit (octet : UInt8) : Nat := octet.toNat - 48

def isExponentMark (octet : UInt8) : Bool := octet == 101 || octet == 69

/-- The value of a hexadecimal digit. -/
def hex? (octet : UInt8) : Option Nat :=
  if 48 ≤ octet && octet ≤ 57 then some (octet.toNat - 48)
  else if 97 ≤ octet && octet ≤ 102 then some (octet.toNat - 87)
  else if 65 ≤ octet && octet ≤ 70 then some (octet.toNat - 55)
  else none

/-- The value of four hexadecimal digits. -/
def unit? (a b c d : UInt8) : Option Nat := do
  let first ← hex? a
  let second ← hex? b
  let third ← hex? c
  let fourth ← hex? d
  return ((first * 16 + second) * 16 + third) * 16 + fourth

/-- What a one-letter escape stands for. -/
def escape? (octet : UInt8) : Option Char :=
  match octet with
  | 34 => some '\x22'
  | 92 => some '\\'
  | 47 => some '/'
  | 98 => some '\x08'
  | 102 => some '\x0c'
  | 110 => some '\n'
  | 114 => some '\r'
  | 116 => some '\t'
  | _ => none

end Octet

namespace Scan

def skipBlanks (text : Octets) : Octets := text.dropWhile Octet.isBlank

/-- The rest of a literal of which the first letter has been read. -/
def ident : (expected : Octets) → Octets → Except Stop Octets
  | [], rest => .ok rest
  | _ :: _, [] => fail .endOfValue []
  | letter :: letters, octet :: rest =>
      if octet = letter then ident letters rest else fail .expectedIdent rest

/-- The literal that starts with this octet: its other letters and its value. -/
def literal? (octet : UInt8) : Option (Octets × Json) :=
  match octet with
  | 110 => some ([117, 108, 108], .null)
  | 116 => some ([114, 117, 101], .bool true)
  | 102 => some ([97, 108, 115, 101], .bool false)
  | _ => none

private def push (octets : Octets) (read : Except Stop (Octets × Octets)) :
    Except Stop (Octets × Octets) :=
  read.map fun (content, rest) => (octets ++ content, rest)

/-- The content of a string up to its closing quote, with escapes resolved. A surrogate counts
only as the first half of a pair of escapes. -/
def content : Octets → Except Stop (Octets × Octets)
  | [] => fail .endOfString []
  | octet :: rest =>
      if octet = Octet.quote then .ok ([], rest)
      else if octet < 32 then fail .controlCharacter rest
      else if octet ≠ Octet.backslash then push [octet] (content rest)
      else match rest with
      | [] => fail .endOfString []
      | 117 :: a :: b :: c :: d :: rest =>
          match Octet.unit? a b c d with
          | none => fail .invalidEscape rest
          | some unit =>
              if unit < 0xd800 || 0xdfff < unit then
                push (String.utf8EncodeChar (Char.ofNat unit)) (content rest)
              else if 0xdc00 ≤ unit then fail .loneSurrogate rest
              else match rest with
              | [] => fail .endOfString []
              | 92 :: [] => fail .endOfString []
              | 92 :: 117 :: a :: b :: c :: d :: rest =>
                  match Octet.unit? a b c d with
                  | none => fail .invalidEscape rest
                  | some low =>
                      if 0xdc00 ≤ low && low ≤ 0xdfff then
                        let code := (unit - 0xd800) * 1024 + (low - 0xdc00) + 0x10000
                        push (String.utf8EncodeChar (Char.ofNat code)) (content rest)
                      else fail .loneSurrogate rest
              | 92 :: 117 :: _ => fail .endOfString []
              | 92 :: _ :: rest => fail .unfinishedPair rest
              | _ :: rest => fail .unfinishedPair rest
      | 117 :: _ => fail .endOfString []
      | code :: rest =>
          match Octet.escape? code with
          | none => fail .invalidEscape rest
          | some char => push (String.utf8EncodeChar char) (content rest)

/-- A string of which the opening quote has been read. Octets that are no text are told
only after the string has been read to its end, and at the first of them. -/
def string (text : Octets) : Except Stop (String × Octets) := do
  let (octets, rest) ← content text
  match Utf8.decode octets with
  | .ok chars => return (String.ofList chars, rest)
  | .error _ =>
      match Utf8.decode (text.take (text.length - rest.length)) with
      | .error good => fail .invalidCodePoint (text.drop (good + 1))
      | .ok _ => fail .invalidCodePoint rest

/-- What stands between two items of a container, or at its end. -/
inductive Turn where
  | done (rest : Octets)
  | next (rest : Octets)

/-- Goes on to the next item of an array; the first one needs no comma. -/
def nextItem (first : Bool) (text : Octets) : Except Stop Turn :=
  match skipBlanks text with
  | [] => fail .endOfList []
  | octet :: rest =>
      if octet = Octet.closeList then .ok (.done rest)
      else if first then .ok (.next (octet :: rest))
      else if octet ≠ Octet.comma then fail .expectedListComma rest
      else match skipBlanks rest with
      | [] => fail .endOfValue []
      | octet :: rest =>
          if octet = Octet.closeList then fail .trailingComma rest else .ok (.next (octet :: rest))

/-- Goes on to the next name in an object, behind its opening quote. -/
def nextName (first : Bool) (text : Octets) : Except Stop Turn :=
  match skipBlanks text with
  | [] => fail .endOfObject []
  | octet :: rest =>
      if octet = Octet.closeObject then .ok (.done rest)
      else if first then
        if octet = Octet.quote then .ok (.next rest) else fail .keyNotString rest
      else if octet ≠ Octet.comma then fail .expectedObjectComma rest
      else match skipBlanks rest with
      | [] => fail .endOfValue []
      | octet :: rest =>
          if octet = Octet.quote then .ok (.next rest)
          else if octet = Octet.closeObject then fail .trailingComma rest
          else fail .keyNotString rest

/-- The colon between a name and its value. -/
def colon (text : Octets) : Except Stop Octets :=
  match skipBlanks text with
  | [] => fail .endOfObject []
  | octet :: rest => if octet = Octet.colon then .ok rest else fail .expectedColon rest

/-- Nothing but blanks may follow a document. -/
def finish (text : Octets) : Except Stop Unit :=
  match skipBlanks text with
  | [] => .ok ()
  | _ :: rest => fail .trailingCharacters rest

end Scan

end Json

end LightShow
