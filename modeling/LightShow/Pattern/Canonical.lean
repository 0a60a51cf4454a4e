import LightShow.Pattern.Basic

/-! The canonical document of a pattern tree. Plain colors and fixed frames are strings; every
other pattern is an object that starts with the name of its kind, followed by its fields in a
fixed order. Children that are missing are left out. -/

namespace LightShow

namespace Pattern

/-- The field that names the kind of a pattern. -/
def kindField : String := "_type"

def tagged (kind : Kind) (fields : List (String × Json)) : Json :=
  .object ((kindField, .string kind.name) :: fields)

def word (value : UInt64) : Json := .number (.natural value)

def real (value : Float32) : Json := .number (.single value)

def curveField (curve : Curve) : String × Json := ("curve", .string curve.name)

def stripText (pixels : Strip) : Json := .string (String.ofList pixels.toText)

mutual

def json : Pattern → Json
  | .color ink => .string (String.ofList ('#' :: ink.toHex))
  | .frame pixels => stripText pixels
  | .rainbow => tagged .rainbow []
  | .repeated base => tagged .repeated [("base", stripText base)]
  | .gradient left right curve =>
      tagged .gradient (childField "left" left ++ childField "right" right ++ [curveField curve])
  | .transition before after offset duration curve =>
      tagged .transition (childField "before" before ++ childField "after" after ++
        [("offset_ms", word offset), ("duration_ms", word duration), curveField curve])
  | .cycle frames duration =>
      tagged .cycle [("frames", .array (jsonEach frames)), ("frame_duration_ms", word duration)]
  | .loop patterns hold fade curve =>
      tagged .loop [("patterns", .array (jsonEach patterns)), ("show_ms", word hold),
        ("transition_ms", word fade), curveField curve]
  | .rotate child rate =>
      tagged .rotate (childField "child" child ++ [("moves_per_sec", real rate)])
  | .pingPong child rate =>
      tagged .pingPong (childField "child" child ++ [("moves_per_sec", real rate)])
  | .chronometer child => tagged .chronometer (childField "child" child)
  | .crop child segment => tagged .crop (childField "child" child ++ segment.fields)
  | .scale child method length ratio =>
      tagged .scale (childField "child" child ++
        [("interpolation", .string method.name), ("length", word length), ("ratio", real ratio)])
  | .mixer patterns weights =>
      tagged .mixer
        [("patterns", .array (jsonEach patterns)), ("weights", .array (weights.map real))]

def childField (name : String) : Option Pattern → List (String × Json)
  | none => []
  | some child => [(name, json child)]

def jsonEach : List Pattern → List Json
  | [] => []
  | pattern :: patterns => json pattern :: jsonEach patterns

end

/-- The text of the canonical document. -/
def canonical (pattern : Pattern) : String := pattern.json.text

/-- The octets of the canonical document. -/
def encode (pattern : Pattern) : List UInt8 := Utf8.encode pattern.json.chars

end Pattern

end LightShow
