import LightShow.Wire.Fields

/-! Catalogs of pattern kinds, and the patterns of documents under a catalog. A document is a
string, which says the same under every catalog, or an object whose kind the catalog knows. -/

namespace LightShow

/-- Makes a pattern of the fields of a document. -/
abbrev Decoder := Fields → Except Failure Pattern

/-- Names of kinds with their decoders, in the order of names. -/
structure Catalog where
  decoders : List (String × Decoder)

namespace Catalog

def empty : Catalog := ⟨[]⟩

private def insert (name : String) (decoder : Decoder) :
    List (String × Decoder) → List (String × Decoder)
  | [] => [(name, decoder)]
  | (key, other) :: rest =>
      if name = key then (name, decoder) :: rest
      else if name < key then (name, decoder) :: (key, other) :: rest
      else (key, other) :: insert name decoder rest

/-- Adds a kind, or replaces its decoder. -/
def register (catalog : Catalog) (name : String) (decoder : Decoder) : Catalog :=
  ⟨insert name decoder catalog.decoders⟩

private def search (name : String) : List (String × Decoder) → Option Decoder
  | [] => none
  | (key, decoder) :: rest => if key = name then some decoder else search name rest

def find? (catalog : Catalog) (name : String) : Option Decoder := search name catalog.decoders

/-- A kind that is registered is found, and no other one is lost or changed. -/
theorem find?_register (catalog : Catalog) (name sought : String) (decoder : Decoder) :
    (catalog.register name decoder).find? sought =
      if name = sought then some decoder else catalog.find? sought := by
  obtain ⟨decoders⟩ := catalog
  change search sought (insert name decoder decoders) =
    if name = sought then some decoder else search sought decoders
  induction decoders with
  | nil => rfl
  | cons entry rest ih =>
      obtain ⟨key, other⟩ := entry
      rw [insert]
      split
      · next same =>
          subst same
          rw [search, search]
          split <;> rfl
      split
      · rfl
      · next differs _ =>
          rw [search, search, ih]
          split
          · next found => rw [if_neg fun same => differs (same.trans found.symm)]
          · rfl

def contains (catalog : Catalog) (name : String) : Bool := (catalog.find? name).isSome

def names (catalog : Catalog) : List String := catalog.decoders.map (·.1)

/-- A line that lists the kinds known. -/
def description (catalog : Catalog) : String :=
  "PatternRegistry \x7b tags: " ++ Quoted.list catalog.names ++ " \x7d"

/-- The pattern of a string: a color behind `#`, or pixels behind `L`. -/
def ofText (text : String) : Except Failure Pattern :=
  match text.toList with
  | '#' :: digits =>
      match Color.ofHex? digits with
      | some ink => .ok (.color ink)
      | none => .error (.misfit (.badColor text))
  | 'L' :: digits =>
      match Strip.ofHex? digits with
      | some pixels => .ok (.frame pixels)
      | none => .error (.misfit (.badFrame text))
  | _ => .error (.misfit (.badText text))

mutual

/-- The pattern of a document. -/
def decodeValue (catalog : Catalog) : Json → Except Failure Pattern
  | .string text => ofText text
  | .object fields =>
      match Json.field? Pattern.kindField fields with
      | none => .error (.misfit .noKind)
      | some (.string name) =>
          match catalog.find? name with
          | none => .error (.unknownKind name)
          | some decoder => decoder ⟨name, readings catalog fields⟩
      | some other => .error (.misfit (.kindNotText other))
  | other => .error (.misfit (.notPattern other))

/-- Every field but the one for the kind, with the patterns that it may stand for. -/
def readings (catalog : Catalog) : List (String × Json) → List (String × Reading)
  | [] => []
  | (name, value) :: rest =>
      if name = Pattern.kindField then readings catalog rest
      else
        (name, ⟨value, decodeValue catalog value, decodeItems catalog value⟩) ::
          readings catalog rest

def decodeItems (catalog : Catalog) : Json → List (Except Failure Pattern)
  | .array items => decodeEach catalog items
  | _ => []

def decodeEach (catalog : Catalog) : List Json → List (Except Failure Pattern)
  | [] => []
  | item :: rest => decodeValue catalog item :: decodeEach catalog rest

end

/-- The pattern of a text. -/
def decode (catalog : Catalog) (text : Json.Octets) : Except Failure Pattern := do
  let value ← (Json.read text).mapError .json
  catalog.decodeValue value

end Catalog

end LightShow
