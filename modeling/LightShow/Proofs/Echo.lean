import LightShow.Failure
import LightShow.Proofs.Finite
import LightShow.Proofs.Tree

/-! What comes back of a tree that is written and read again. A single that is no finite number is
written as `null`. A decoder takes that for a field that is missing, so that zero comes back; among
the weights of a mixer it takes no `null`, and nothing comes back at all. -/

namespace LightShow

namespace Pattern

/-- What comes back of a field that holds a single. -/
def echoReal (value : Float32) : Float32 := if value.isFinite then value else 0.0

/-- What comes back of the weights of a mixer. -/
def echoWeights (weights : List Float32) : Except Failure (List Float32) :=
  if weights.all Float32.isFinite then .ok weights
  else .error (.misfit (.field Kind.mixer.name "weights" (.invalidType .null "f32")))

mutual

def echo : Pattern → Except Failure Pattern
  | .color ink => .ok (.color ink)
  | .frame pixels => .ok (.frame pixels)
  | .rainbow => .ok .rainbow
  | .repeated base => .ok (.repeated base)
  | .gradient left right curve => do
      let left ← echoChild left
      let right ← echoChild right
      return .gradient left right curve
  | .transition before after offset duration curve => do
      let before ← echoChild before
      let after ← echoChild after
      return .transition before after offset duration curve
  | .cycle frames duration => do
      let frames ← echoEach frames
      return .cycle frames duration
  | .loop patterns hold fade curve => do
      let patterns ← echoEach patterns
      return .loop patterns hold fade curve
  | .rotate child rate => do
      let child ← echoChild child
      return .rotate child (echoReal rate)
  | .pingPong child rate => do
      let child ← echoChild child
      return .pingPong child (echoReal rate)
  | .chronometer child => do
      let child ← echoChild child
      return .chronometer child
  | .crop child segment => do
      let child ← echoChild child
      return .crop child segment
  | .scale child method length ratio => do
      let child ← echoChild child
      return .scale child method length (echoReal ratio)
  | .mixer patterns weights => do
      let patterns ← echoEach patterns
      let weights ← echoWeights weights
      return .mixer patterns weights

def echoChild : Option Pattern → Except Failure (Option Pattern)
  | none => .ok none
  | some child => do
      let child ← echo child
      return some child

def echoEach : List Pattern → Except Failure (List Pattern)
  | [] => .ok []
  | pattern :: patterns => do
      let pattern ← echo pattern
      let patterns ← echoEach patterns
      return pattern :: patterns

end

theorem echoReal_of_finite {value : Float32} (finite : value.isFinite) : echoReal value = value :=
  if_pos finite

end Pattern

end LightShow
