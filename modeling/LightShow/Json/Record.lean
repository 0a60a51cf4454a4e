import LightShow.Json.Reader
import LightShow.Json.Convert

/-! Reading records straight from a JSON text. A record is an object, in which unknown names are
passed over, or an array of its fields in order. A fault of the record as a whole is placed where
reading stops after looking for the end of the record. -/

namespace LightShow

namespace Json

namespace Scan

/-- Fails on what stands where `expected` should. Values are read to their end and containers
are not entered. -/
def mismatch {Result : Type} (expected : String) (text : Octets) : Except Stop Result :=
  match text with
  | [] => fail .endOfValue []
  | octet :: rest =>
      match literal? octet with
      | some (letters, value) => do
          let rest ← ident letters rest
          fail (.invalidType value.found expected) rest
      | none =>
          match number? octet rest with
          | some read => do
              let (value, rest) ← read
              fail (.invalidType (.number value) expected) rest
          | none =>
              if octet = Octet.quote then do
                let (value, rest) ← string rest
                fail (.invalidType (.string value) expected) rest
              else if octet = Octet.openList then fail (.invalidType .sequence expected) text
              else if octet = Octet.openObject then fail (.invalidType .map expected) text
              else fail .expectedValue rest

private def settle {Result : Type} (outcome : Except Fault Result) (rest : Octets) :
    Except Stop (Result × Octets) :=
  match outcome with
  | .ok result => .ok (result, rest)
  | .error fault => fail fault rest

/-- Reads a whole number up to `most`; `kind` names such numbers. -/
def wholeUpTo (most : Nat) (kind : String) (text : Octets) : Except Stop (UInt64 × Octets) :=
  match skipBlanks text with
  | [] => fail .endOfValue []
  | octet :: rest =>
      match number? octet rest with
      | some read => do
          let (value, rest) ← read
          settle (value.toWhole most kind) rest
      | none => mismatch kind (octet :: rest)

/-- Reads a string that stands for an `expected` thing. -/
def text (expected : String) (text : Octets) : Except Stop (String × Octets) :=
  match skipBlanks text with
  | [] => fail .endOfValue []
  | octet :: rest =>
      if octet = Octet.quote then string rest else mismatch expected (octet :: rest)

def unit (text : Octets) : Except Stop Octets :=
  match skipBlanks text with
  | [] => fail .endOfValue []
  | octet :: rest =>
      match literal? octet with
      | some (letters, .null) => ident letters rest
      | _ => mismatch "unit" (octet :: rest)

/-- Reads a name, or an object that holds it with `null`. -/
def choice {Choice : Type} (known : List (String × Choice)) (input : Octets) :
    Except Stop (Choice × Octets) :=
  match skipBlanks input with
  | [] => fail .endOfValue []
  | octet :: rest =>
      if octet = Octet.quote then do
        let (name, rest) ← string rest
        settle (choose known name) rest
      else if octet = Octet.openObject then do
        let (name, rest) ← text "variant identifier" rest
        let (choice, rest) ← settle (choose known name) rest
        let rest ← colon rest
        let rest ← unit rest
        match skipBlanks rest with
        | [] => fail .endOfObject []
        | octet :: after =>
            if octet = Octet.closeObject then return (choice, after)
            else fail .expectedValue (octet :: after)
      else fail .expectedValue rest

/-- Passes over the content of a string; escapes of single code units are not put together. -/
def skipContent : Octets → Except Stop Octets
  | [] => fail .endOfString []
  | octet :: rest =>
      if octet = Octet.quote then .ok rest
      else if octet < 32 then fail .controlCharacter (octet :: rest)
      else if octet ≠ Octet.backslash then skipContent rest
      else match rest with
      | [] => fail .endOfString []
      | 117 :: a :: b :: c :: d :: rest =>
          match Octet.unit? a b c d with
          | none => fail .invalidEscape rest
          | some _ => skipContent rest
      | 117 :: _ => fail .endOfString []
      | code :: rest =>
          match Octet.escape? code with
          | none => fail .invalidEscape rest
          | some _ => skipContent rest

/-- Passes over an exponent behind its letter. -/
def skipExponent (text : Octets) : Except Stop Octets :=
  let text := match text with
    | [] => []
    | octet :: rest =>
        if octet = Octet.plus || octet = Octet.minus then rest else octet :: rest
  match text with
  | [] => fail .invalidNumber []
  | octet :: rest =>
      if Octet.isDigit octet then .ok (digits rest).2 else fail .invalidNumber rest

/-- Passes over a number from its first digit on. -/
def skipNumeral (text : Octets) : Except Stop Octets := do
  let rest ← match text with
    | [] => fail .invalidNumber []
    | octet :: after =>
        if !Octet.isDigit octet then fail .invalidNumber after
        else if octet ≠ Octet.zero then pure (digits after).2
        else match after with
        | next :: rest => if Octet.isDigit next then fail .invalidNumber rest else pure after
        | [] => pure []
  let rest ← match rest with
    | [] => return []
    | octet :: after =>
        if Octet.isExponentMark octet then return ← skipExponent after
        else if octet ≠ Octet.point then return rest
        else match digits after with
        | ([], []) => fail .invalidNumber []
        | ([], _ :: rest) => fail .invalidNumber rest
        | (_, rest) => pure rest
  match rest with
  | [] => return []
  | octet :: after => if Octet.isExponentMark octet then skipExponent after else return rest

mutual

/-- Passes over a value of any kind and depth. -/
def skip : (steps : Nat) → Octets → Except Stop Octets
  | 0, text => fail .expectedValue text
  | steps + 1, text =>
      match skipBlanks text with
      | [] => fail .endOfValue []
      | octet :: rest =>
          match literal? octet with
          | some (letters, _) => ident letters rest
          | none =>
              if octet = Octet.minus then skipNumeral rest
              else if Octet.isDigit octet then skipNumeral (octet :: rest)
              else if octet = Octet.quote then skipContent rest
              else if octet = Octet.openList then skipItems steps true rest
              else if octet = Octet.openObject then skipMembers steps true rest
              else fail .expectedValue rest

def skipItems : (steps : Nat) → (first : Bool) → Octets → Except Stop Octets
  | 0, _, text => fail .expectedValue text
  | steps + 1, first, text =>
      match skipBlanks text with
      | [] => fail .endOfList []
      | octet :: rest =>
          if octet = Octet.closeList then .ok rest
          else if first then do
            let rest ← skip steps (octet :: rest)
            skipItems steps false rest
          else if octet = Octet.comma then do
            let rest ← skip steps rest
            skipItems steps false rest
          else fail .expectedListComma rest

def skipMembers : (steps : Nat) → (first : Bool) → Octets → Except Stop Octets
  | 0, _, text => fail .expectedValue text
  | steps + 1, first, text => do
      match skipBlanks text with
      | [] => fail .endOfObject []
      | octet :: rest =>
          if octet = Octet.closeObject then return rest
          else
            let rest ←
              if first then pure (octet :: rest)
              else if octet = Octet.comma then pure rest
              else fail .expectedObjectComma rest
            match skipBlanks rest with
            | [] => fail .endOfObject []
            | octet :: rest =>
                if octet ≠ Octet.quote then fail .keyNotString rest
                else
                  let rest ← skipContent rest
                  let rest ← colon rest
                  let rest ← skip steps rest
                  skipMembers steps false rest

end

end Scan

/-- One field of a record: its name, and how its text changes the record. -/
structure Entry (Target : Type) where
  name : String
  read : Target → Octets → Except Stop (Target × Octets)

/-- A record: its name, its fields in order, and what it holds before any field is read. Fields of
a `lenient` record may be missing. -/
structure Record (Target : Type) where
  name : String
  entries : List (Entry Target)
  start : Target
  lenient : Bool

namespace Record

variable {Target : Type}

/-- Reads fields in order, and stops before the bracket that closes the array. -/
def positions (record : Record Target) : List (Entry Target) → (index : Nat) → Target → Octets →
    Except Stop (Except Fault Target × Octets)
  | [], _, target, text => .ok (.ok target, text)
  | entry :: entries, index, target, text => do
      match ← Scan.nextItem (index = 0) text with
      | .done _ =>
          if record.lenient then return (.ok target, text)
          else
            let expected := s!"struct {record.name} with {record.entries.length} elements"
            return (.error (.invalidLength index expected), text)
      | .next text =>
          let (target, text) ← entry.read target text
          record.positions entries (index + 1) target text

/-- The record, unless a field that has not been seen is missed. -/
def complete (record : Record Target) (seen : List String) (target : Target) :
    Except Fault Target :=
  match record.entries.find? fun entry => !record.lenient && !seen.contains entry.name with
  | some entry => .error (.missingField entry.name)
  | none => .ok target

/-- Reads fields by name, and stops before the brace that closes the object, or behind a name
that occurs again. -/
def names (record : Record Target) : (steps : Nat) → (seen : List String) → (first : Bool) →
    Target → Octets → Except Stop (Except Fault Target × Octets)
  | 0, _, _, _, text => fail .expectedValue text
  | steps + 1, seen, first, target, text => do
      match ← Scan.nextName first text with
      | .done _ => return (record.complete seen target, text)
      | .next text =>
          let (name, text) ← Scan.string text
          match record.entries.find? (·.name = name) with
          | some entry =>
              if seen.contains name then return (.error (.duplicateField name), text)
              let text ← Scan.colon text
              let (target, text) ← entry.read target text
              record.names steps (name :: seen) false target text
          | none =>
              let text ← Scan.colon text
              let text ← Scan.skip (2 * text.length + 1) text
              record.names steps seen false target text

/-- Looks for the end of an array; returns the octets behind what was passed. -/
def closeList (text : Octets) : Octets × Except Stop Unit :=
  match Scan.skipBlanks text with
  | [] => ([], fail .endOfList [])
  | octet :: rest =>
      if octet = Octet.closeList then (rest, .ok ())
      else if octet ≠ Octet.comma then (octet :: rest, fail .trailingCharacters rest)
      else match Scan.skipBlanks rest with
      | [] => ([], fail .trailingCharacters [])
      | octet :: rest =>
          let fault := if octet = Octet.closeList then .trailingComma else .trailingCharacters
          (octet :: rest, fail fault rest)

/-- Looks for the end of an object; returns the octets behind what was passed. -/
def closeObject (text : Octets) : Octets × Except Stop Unit :=
  match Scan.skipBlanks text with
  | [] => ([], fail .endOfObject [])
  | octet :: rest =>
      if octet = Octet.closeObject then (rest, .ok ())
      else if octet = Octet.comma then (octet :: rest, fail .trailingComma rest)
      else (octet :: rest, fail .trailingCharacters rest)

private def close (outcome : Except Fault Target) (ending : Octets × Except Stop Unit) :
    Except Stop (Target × Octets) :=
  match outcome with
  | .error fault => fail fault ending.1
  | .ok target => ending.2.map fun _ => (target, ending.1)

def scan (record : Record Target) (text : Octets) : Except Stop (Target × Octets) :=
  match Scan.skipBlanks text with
  | [] => fail .endOfValue []
  | octet :: rest =>
      if octet = Octet.openList then do
        let (outcome, rest) ← record.positions record.entries 0 record.start rest
        close outcome (closeList rest)
      else if octet = Octet.openObject then do
        let (outcome, rest) ← record.names (rest.length + 1) [] true record.start rest
        close outcome (closeObject rest)
      else Scan.mismatch s!"struct {record.name}" (octet :: rest)

end Record

/-- Reads one thing from a text that holds nothing else. -/
def readWith {Result : Type} (scan : Octets → Except Stop (Result × Octets)) (text : Octets) :
    Except Error Result :=
  Except.mapError (·.locate text) do
    let (result, rest) ← scan text
    Scan.finish rest
    return result

end Json

end LightShow
