import LightShow.Proofs.Digits
import LightShow.Wire.Decoders

/-! The documents of patterns as a grammar. A kind has its parts, a part is a field of some form,
and the documents are the least set of values that has the texts of colors and strips in it and,
with the documents in its parts, every object of a kind. -/

namespace LightShow

/-- What a field of a document holds. -/
inductive Form where
  | color
  | strip
  /-- A whole number of 64 bits. -/
  | word
  | real
  | reals
  /-- One of some names. -/
  | choice (names : List String)
  | child
  | children

namespace Form

def curve : Form := .choice (Curve.names.map (·.1))

def sampling : Form := .choice (Sampling.names.map (·.1))

/-- What a field may hold if it stands for no pattern. -/
def Admits : Form → Json → Prop
  | .color, value => ∃ digits : List Char, value = .string (String.ofList ('#' :: digits)) ∧
      digits.length = 6 ∧ ∀ char ∈ digits, Hex.IsDigit char
  | .strip, value => ∃ digits : List Char, value = .string (String.ofList ('L' :: digits)) ∧
      6 ∣ digits.length ∧ ∀ char ∈ digits, Hex.IsDigit char
  | .word, value => ∃ word, value = .number (.natural word)
  | .real, value => ∃ number, value = .number number
  | .reals, value => ∃ items, value = .array items ∧ ∀ item ∈ items, ∃ number, item = .number number
  | .choice names, value => ∃ name ∈ names, value = .string name ∨ value = .object [(name, .null)]
  | .child, _ => False
  | .children, _ => False

end Form

/-- The fields that count for a kind, in the order in which they are read. -/
def Kind.parts : Kind → List (String × Form)
  | .color => [("color", .color)]
  | .frame => [("frame", .strip)]
  | .rainbow => []
  | .repeated => [("base", .strip)]
  | .gradient => [("left", .child), ("right", .child), ("curve", .curve)]
  | .transition =>
      [("before", .child), ("after", .child), ("offset_ms", .word), ("duration_ms", .word),
        ("curve", .curve)]
  | .cycle => [("frames", .children), ("frame_duration_ms", .word)]
  | .loop =>
      [("patterns", .children), ("show_ms", .word), ("transition_ms", .word), ("curve", .curve)]
  | .rotate => [("child", .child), ("moves_per_sec", .real)]
  | .pingPong => [("child", .child), ("moves_per_sec", .real)]
  | .chronometer => [("child", .child)]
  | .crop => [("child", .child), ("start", .word), ("length", .word)]
  | .scale =>
      [("child", .child), ("interpolation", .sampling), ("length", .word), ("ratio", .real)]
  | .mixer => [("patterns", .children), ("weights", .reals)]

/-- No kind reads the field that names it. -/
theorem Kind.kindField_not_mem_parts (kind : Kind) :
    Pattern.kindField ∉ kind.parts.map (·.1) := by
  cases kind <;> decide

theorem Kind.ne_kindField (kind : Kind) {name : String} (read : name ∈ kind.parts.map (·.1)) :
    name ≠ Pattern.kindField := fun same => kind.kindField_not_mem_parts (same ▸ read)

mutual

/-- The document of some pattern. -/
inductive Document : Json → Prop
  | color {value : Json} (text : Form.color.Admits value) : Document value
  | strip {value : Json} (text : Form.strip.Admits value) : Document value
  | tagged {fields : List (String × Json)} (kind : Kind)
      (named : Json.field? Pattern.kindField fields = some (.string kind.name))
      (each : ∀ part ∈ kind.parts, Holds part.2 (Json.field? part.1 fields)) :
      Document (.object fields)

/-- A field of some form, which may be missing or hold `null` unless it is a color. -/
inductive Holds : Form → Option Json → Prop
  | absent {form : Form} (optional : form ≠ .color) : Holds form none
  | null {form : Form} (optional : form ≠ .color) : Holds form (some .null)
  | plain {form : Form} {value : Json} (admitted : form.Admits value) : Holds form (some value)
  | child {value : Json} (inner : Document value) : Holds .child (some value)
  | children {items : List Json} (each : ∀ item ∈ items, Document item) :
      Holds .children (some (.array items))

end

end LightShow
