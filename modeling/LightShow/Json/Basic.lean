/-! JSON values. A number keeps the width in which it is held: a whole number of 64 bits, or a
float. Reading a text gives doubles alone; singles are only written. -/

namespace LightShow

inductive Number where
  | natural (value : UInt64)
  | negative (value : Int)
  | double (value : Float)
  | single (value : Float32)

inductive Json where
  | null
  | bool (value : Bool)
  | number (value : Number)
  | string (value : String)
  | array (items : List Json)
  | object (fields : List (String × Json))

namespace Json

def isNull : Json → Bool
  | .null => true
  | _ => false

/-- The value of a field, or of the first one if the name occurs again. -/
def field? (name : String) : List (String × Json) → Option Json
  | [] => none
  | (key, value) :: rest => if key = name then some value else field? name rest

/-- Puts a field at its place in the order of names, instead of the one of its name. -/
def insertField (name : String) (value : Json) : List (String × Json) → List (String × Json)
  | [] => [(name, value)]
  | (key, other) :: rest =>
      if name = key then (name, value) :: rest
      else if name < key then (name, value) :: (key, other) :: rest
      else (key, other) :: insertField name value rest

/-- The object of some members in the order in which they were read: sorted by name, and of
members of one name the last. -/
def ofMembers (members : List (String × Json)) : Json :=
  .object (members.foldl (fun fields member => insertField member.1 member.2 fields) [])

end Json

end LightShow
