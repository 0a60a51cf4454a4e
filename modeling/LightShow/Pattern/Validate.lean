import LightShow.Pattern.Render

/-! Checking a pattern tree for a length of strip, before it is drawn. Each node is checked at the
length that its parent will draw it on; the first fault counts, a parent's before its
children's. -/

namespace LightShow

/-- Why a pattern or a request is refused. -/
inductive Refusal where
  | stillCycle
  | cropOutside (segment : Segment) (length : Nat)
  | noScale
  | scaleTooLong (length : Nat)
  | mixerCounts (patterns weights : Nat)
  | noRate
  | tooWide
  | other (reason : String)
deriving DecidableEq

namespace Pattern

/-- The longest scratch strip that a scaled pattern may ask for. -/
def longestScale : Nat := 65536

end Pattern

namespace Refusal

def message : Refusal → String
  | .stillCycle => "Cycle frame_duration_ms is zero"
  | .cropOutside segment length =>
      let range := s!"{segment.start.toNat}..{segment.stop.toNat}"
      s!"Crop {range} is outside a strip of {length} pixels"
  | .noScale => "Scale needs a length or a positive ratio"
  | .scaleTooLong length => s!"Scale length {length} exceeds {Pattern.longestScale} pixels"
  | .mixerCounts patterns weights => s!"Mixer has {patterns} patterns but {weights} weights"
  | .noRate => "thumbnail rate must be positive"
  | .tooWide => "thumbnail is too wide"
  | .other reason => reason

end Refusal

namespace Pattern

mutual

/-- Accepts a tree that draws without falling back anywhere on a strip of a given length. -/
def validate : Pattern → (length : Nat) → Except Refusal Unit
  | .color _, _ => .ok ()
  | .frame _, _ => .ok ()
  | .rainbow, _ => .ok ()
  | .repeated _, _ => .ok ()
  | .gradient left right _, length => do
      validateChild left length
      validateChild right length
  | .transition before after _ _ _, length => do
      validateChild before length
      validateChild after length
  | .cycle frames duration, length =>
      if duration = 0 ∧ 1 < frames.length then .error .stillCycle
      else validateEach frames length
  | .loop patterns _ _ _, length => validateEach patterns length
  | .rotate child _, length => validateChild child length
  | .pingPong child _, length => validateChild child (length * 2 - 1)
  | .chronometer child, _ => validateChild child Clock.paletteSize
  | .crop child segment, length =>
      if segment.Fits length then validateChild child segment.size
      else .error (.cropOutside segment length)
  | .scale child _ size ratio, length =>
      match scaledLength? size ratio length with
      | none => .error .noScale
      | some scaled =>
          if longestScale < scaled then .error (.scaleTooLong scaled)
          else validateChild child scaled
  | .mixer patterns weights, length =>
      if patterns.length ≠ weights.length then
        .error (.mixerCounts patterns.length weights.length)
      else validateEach patterns length

def validateChild : Option Pattern → (length : Nat) → Except Refusal Unit
  | none, _ => .ok ()
  | some child, length => validate child length

def validateEach : List Pattern → (length : Nat) → Except Refusal Unit
  | [], _ => .ok ()
  | pattern :: patterns, length => do
      validate pattern length
      validateEach patterns length

end

end Pattern

end LightShow
