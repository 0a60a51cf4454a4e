import LightShow.Json.Numeral

/-! Reading JSON values from a text. Arrays and objects nest at most 127 deep. -/

namespace LightShow

namespace Json

namespace Scan

mutual

/-- Reads a value in which `levels` more containers may nest. -/
def value : (steps levels : Nat) → Octets → Except Stop (Json × Octets)
  | 0, _, text => fail .expectedValue text
  | steps + 1, levels, text =>
      match skipBlanks text with
      | [] => fail .endOfValue []
      | octet :: rest =>
          match literal? octet with
          | some (letters, value) => do
              let rest ← ident letters rest
              return (value, rest)
          | none =>
              match number? octet rest with
              | some read => do
                  let (value, rest) ← read
                  return (.number value, rest)
              | none =>
                  if octet = Octet.quote then do
                    let (value, rest) ← string rest
                    return (.string value, rest)
                  else if octet = Octet.openList then
                    match levels with
                    | 0 => fail .tooDeep rest
                    | levels + 1 => do
                        let (values, rest) ← items steps levels true rest
                        return (.array values, rest)
                  else if octet = Octet.openObject then
                    match levels with
                    | 0 => fail .tooDeep rest
                    | levels + 1 => do
                        let (values, rest) ← members steps levels true rest
                        return (ofMembers values, rest)
                  else fail .expectedValue rest

/-- Reads the items of an array to its closing bracket. -/
def items : (steps levels : Nat) → (first : Bool) → Octets → Except Stop (List Json × Octets)
  | 0, _, _, text => fail .expectedValue text
  | steps + 1, levels, first, text => do
      match ← nextItem first text with
      | .done rest => return ([], rest)
      | .next rest =>
          let (head, rest) ← value steps levels rest
          let (tail, rest) ← items steps levels false rest
          return (head :: tail, rest)

/-- Reads the members of an object to its closing brace. -/
def members : (steps levels : Nat) → (first : Bool) → Octets →
    Except Stop (List (String × Json) × Octets)
  | 0, _, _, text => fail .expectedValue text
  | steps + 1, levels, first, text => do
      match ← nextName first text with
      | .done rest => return ([], rest)
      | .next rest =>
          let (name, rest) ← string rest
          let rest ← colon rest
          let (head, rest) ← value steps levels rest
          let (tail, rest) ← members steps levels false rest
          return ((name, head) :: tail, rest)

end

/-- How deep containers may nest. -/
def mostLevels : Nat := 127

/-- Reads one value and nothing behind it. At most two steps are taken for every octet. -/
def document (text : Octets) : Except Stop Json := do
  let (value, rest) ← value (2 * text.length + 1) mostLevels text
  finish rest
  return value

end Scan

/-- The value that a text holds. -/
def read (text : Octets) : Except Error Json :=
  (Scan.document text).mapError (·.locate text)

end Json

end LightShow
