import LightShow.Json.Fault

/-! Taking a JSON value for what it should be. Whole numbers count as floats, but floats never as
whole numbers; a choice is its name, or an object that holds its name with `null`. -/

namespace LightShow

namespace Number

/-- A whole number up to `most`; `kind` names such numbers. -/
def toWhole (most : Nat) (kind : String) : Number → Except Json.Fault UInt64
  | .natural value =>
      if value.toNat ≤ most then .ok value
      else .error (.invalidValue (.number (.natural value)) kind)
  | .negative value => .error (.invalidValue (.number (.negative value)) kind)
  | other => .error (.invalidType (.number other) kind)

/-- The single nearest to a number. -/
def toSingle : Number → Float32
  | .natural value => value.toFloat32
  | .negative value => -(UInt64.ofNat value.natAbs).toFloat32
  | .double value => narrow value
  | .single value => value

end Number

namespace Json

private def refuse {Result : Type} (value : Json) (expected : String) : Except Fault Result :=
  .error (.invalidType value.found expected)

def toWhole (most : Nat) (kind : String) : Json → Except Fault UInt64
  | .number value => value.toWhole most kind
  | other => refuse other kind

def toSingle : Json → Except Fault Float32
  | .number value => .ok value.toSingle
  | other => refuse other "f32"

def toText : Json → Except Fault String
  | .string value => .ok value
  | other => refuse other "a string"

def toList {Item : Type} (item : Json → Except Fault Item) : Json → Except Fault (List Item)
  | .array items => items.mapM item
  | other => refuse other "a sequence"

/-- The choice of a name, from a list in which a choice may have several. -/
def choose {Choice : Type} (known : List (String × Choice)) (name : String) :
    Except Fault Choice :=
  match known.find? (·.1 = name) with
  | some (_, choice) => .ok choice
  | none => .error (.unknownVariant name (known.map (·.1)))

def toChoice {Choice : Type} (known : List (String × Choice)) : Json → Except Fault Choice
  | .string name => choose known name
  | .object [(name, value)] => do
      let choice ← choose known name
      if value.isNull then return choice else refuse value "unit"
  | .object _ => .error (.invalidValue .map "map with a single key")
  | other => refuse other "string or map"

end Json

end LightShow
