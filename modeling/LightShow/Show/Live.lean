import LightShow.Pattern.Render

/-! A pattern that is being shown: the tree together with its scratch. -/

namespace LightShow

structure Live where
  pattern : Pattern
  scratch : Scratch

namespace Live

def start (pattern : Pattern) : Live := ⟨pattern, .fresh⟩

/-- Draws on a strip. -/
def render (live : Live) (now : Time) (strip : Strip) : Strip × Live :=
  let (strip, scratch) := live.pattern.render now live.scratch strip
  (strip, { live with scratch := scratch })

/-- A fade from one shown pattern to another; both keep their scratch. -/
def fade (before after : Live) (offset duration : UInt64) (curve : Curve) : Live :=
  ⟨.transition (some before.pattern) (some after.pattern) offset duration curve,
    .node [] [before.scratch, after.scratch]⟩

/-- The end of the fade at the root, with the offset of its start and the pattern after it. -/
def fadeTarget? (live : Live) (now : Time) : Option (UInt64 × Option Live) :=
  match live.pattern with
  | .transition _ after offset duration _ =>
      if Pattern.fadeEnd offset duration ≤ now.millis then
        some (offset, after.map fun pattern => ⟨pattern, live.scratch.child 1⟩)
      else none
  | _ => none

/-- Adds a layer to a mixer: a pattern, a weight, or both. -/
def addLayer (live : Live) (pattern : Option Pattern) (weight : Option Float32) : Live :=
  match live.pattern with
  | .mixer patterns weights =>
      { live with pattern := .mixer (patterns ++ pattern.toList) (weights ++ weight.toList) }
  | _ => live

/-- Takes the last pattern, with its scratch, and the last weight off a mixer. -/
def dropLayer (live : Live) : Live :=
  match live.pattern with
  | .mixer patterns weights =>
      let children := live.scratch.children.take (patterns.length - 1)
      ⟨.mixer patterns.dropLast weights.dropLast, .node live.scratch.strips children⟩
  | _ => live

end Live

end LightShow
