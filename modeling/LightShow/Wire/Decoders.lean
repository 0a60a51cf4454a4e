import LightShow.Wire.Catalog

/-! The decoders of the kinds that every show knows. Fields are read in a fixed order, so that of
several faults the same one is told. -/

namespace LightShow

namespace Kind

def decoder : Kind → Decoder
  | .color => fun fields => do
      return .color (← fields.color "color")
  | .frame => fun fields => do
      return .frame (← fields.strip "frame")
  | .rainbow => fun _ => .ok .rainbow
  | .repeated => fun fields => do
      return .repeated (← fields.strip "base")
  | .gradient => fun fields => do
      let left ← fields.pattern "left"
      let right ← fields.pattern "right"
      let curve ← fields.curve "curve"
      return .gradient left right curve
  | .transition => fun fields => do
      let before ← fields.pattern "before"
      let after ← fields.pattern "after"
      let offset ← fields.millis "offset_ms"
      let duration ← fields.millis "duration_ms"
      let curve ← fields.curve "curve"
      return .transition before after offset duration curve
  | .cycle => fun fields => do
      let frames ← fields.patterns "frames"
      let duration ← fields.millis "frame_duration_ms"
      return .cycle frames duration
  | .loop => fun fields => do
      let patterns ← fields.patterns "patterns"
      let hold ← fields.millis "show_ms"
      let fade ← fields.millis "transition_ms"
      let curve ← fields.curve "curve"
      return .loop patterns hold fade curve
  | .rotate => fun fields => do
      let child ← fields.pattern "child"
      let rate ← fields.single "moves_per_sec"
      return .rotate child rate
  | .pingPong => fun fields => do
      let child ← fields.pattern "child"
      let rate ← fields.single "moves_per_sec"
      return .pingPong child rate
  | .chronometer => fun fields => do
      return .chronometer (← fields.pattern "child")
  | .crop => fun fields => do
      let child ← fields.pattern "child"
      let start ← fields.length "start"
      let stop ← fields.length "length"
      return .crop child ⟨start, stop⟩
  | .scale => fun fields => do
      let child ← fields.pattern "child"
      let method ← fields.sampling "interpolation"
      let length ← fields.length "length"
      let ratio ← fields.single "ratio"
      return .scale child method length ratio
  | .mixer => fun fields => do
      let patterns ← fields.patterns "patterns"
      let weights ← fields.singles "weights"
      return .mixer patterns weights

end Kind

namespace Catalog

/-- The catalog of all kinds. -/
def builtin : Catalog :=
  Kind.all.foldl (fun catalog kind => catalog.register kind.name kind.decoder) empty

end Catalog

end LightShow
