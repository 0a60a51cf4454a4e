import LightShow.Failure
import LightShow.Pattern.Canonical
import LightShow.Wire.StripText

/-! The fields of a document, as the decoder of its kind sees them. A field that holds `null` is
as good as none, and fields that are not asked for are passed over. -/

namespace LightShow

/-- A field: its value, and what it is when it is taken for a pattern, or for a list of them. -/
structure Reading where
  value : Json
  pattern : Except Failure Pattern
  items : List (Except Failure Pattern)

/-- The fields of a document without the one that names its kind. -/
structure Fields where
  /-- The name under which the decoder was found. -/
  kind : String
  readings : List (String × Reading)

namespace Fields

private def search (name : String) : List (String × Reading) → Option Reading
  | [] => none
  | (key, reading) :: rest => if key = name then some reading else search name rest

/-- The field of a name, unless it holds `null`. -/
def find? (fields : Fields) (name : String) : Option Reading :=
  (search name fields.readings).filter fun reading => !reading.value.isNull

theorem find?_map (kind : String) (reading : Json → Reading) (fields : List (String × Json))
    (name : String) :
    (Fields.mk kind (fields.map fun field => (field.1, reading field.2))).find? name =
      ((Json.field? name fields).map reading).filter fun reading => !reading.value.isNull := by
  have found : search name (fields.map fun field => (field.1, reading field.2)) =
      (Json.field? name fields).map reading := by
    induction fields with
    | nil => rfl
    | cons field rest ih =>
        rw [List.map_cons, search, Json.field?, ih]
        split <;> rfl
  rw [find?, found]

/-- A field without patterns in it, or what stands for it if it is missing. -/
def value {Value : Type} (fields : Fields) (read : Json → Except Json.Fault Value)
    (absent : Value) (name : String) : Except Failure Value :=
  match fields.find? name with
  | none => .ok absent
  | some reading =>
      (read reading.value).mapError fun fault => .misfit (.field fields.kind name fault)

private def hashColor? : Json → Option Color
  | .string text =>
      match text.toList with
      | '#' :: digits => Color.ofHex? digits
      | _ => none
  | _ => none

/-- A color, which has to be there. -/
def color (fields : Fields) (name : String) : Except Failure Color :=
  match fields.find? name with
  | none => .error (.misfit (.noColor fields.kind name))
  | some reading =>
      match hashColor? reading.value with
      | some color => .ok color
      | none => .error (.misfit (.notColor fields.kind name reading.value))

private theorem isSome_hashColor? {value : Json} : (hashColor? value).isSome ↔ ∃ digits,
    value = .string (String.ofList ('#' :: digits)) ∧ (Color.ofHex? digits).isSome := by
  constructor
  · intro found
    unfold hashColor? at found
    split at found
    · next text =>
        split at found
        · next digits chars => exact ⟨digits, by rw [← chars, String.ofList_toList], found⟩
        · cases found
    · cases found
  · rintro ⟨digits, rfl, found⟩
    simpa only [hashColor?, String.toList_ofList] using found

theorem exists_color_ok {fields : Fields} {name : String} :
    (∃ ink, fields.color name = .ok ink) ↔ ∃ reading ∈ fields.find? name, ∃ digits,
      reading.value = .string (String.ofList ('#' :: digits)) ∧ (Color.ofHex? digits).isSome := by
  unfold color
  cases fields.find? name with
  | none => exact iff_of_false nofun nofun
  | some reading =>
      simp only [Option.mem_some_iff, exists_eq_left', ← isSome_hashColor?]
      cases hashColor? reading.value with
      | none => exact iff_of_false nofun nofun
      | some ink => exact iff_of_true ⟨ink, rfl⟩ rfl

/-- A child, if there is one. -/
def pattern (fields : Fields) (name : String) : Except Failure (Option Pattern) :=
  match fields.find? name with
  | none => .ok none
  | some reading => reading.pattern.map some

/-- The first failure among some patterns, or all of them. -/
def allOf : List (Except Failure Pattern) → Except Failure (List Pattern)
  | [] => .ok []
  | first :: rest => do
      let pattern ← first
      let patterns ← allOf rest
      return pattern :: patterns

/-- A list of patterns, empty if it is missing. -/
def patterns (fields : Fields) (name : String) : Except Failure (List Pattern) :=
  match fields.find? name with
  | none => .ok []
  | some reading =>
      match reading.value with
      | .array _ => allOf reading.items
      | other => .error (.misfit (.notList fields.kind name other))

/-- Milliseconds, zero if missing. -/
def millis (fields : Fields) (name : String) : Except Failure UInt64 :=
  fields.value (Json.toWhole (UInt64.size - 1) "u64") 0 name

/-- A place on a strip or a length, zero if missing. -/
def length (fields : Fields) (name : String) : Except Failure UInt64 :=
  fields.value (Json.toWhole (UInt64.size - 1) "usize") 0 name

/-- A number in single precision, zero if missing. -/
def single (fields : Fields) (name : String) : Except Failure Float32 :=
  fields.value Json.toSingle 0.0 name

def singles (fields : Fields) (name : String) : Except Failure (List Float32) :=
  fields.value (Json.toList Json.toSingle) [] name

def curve (fields : Fields) (name : String) : Except Failure Curve :=
  fields.value (Json.toChoice Curve.names) Curve.usual name

def sampling (fields : Fields) (name : String) : Except Failure Sampling :=
  fields.value (Json.toChoice Sampling.names) Sampling.usual name

/-- The pixels of a strip, empty if missing. -/
def strip (fields : Fields) (name : String) : Except Failure Strip :=
  fields.value Json.toStrip [] name

end Fields

end LightShow
