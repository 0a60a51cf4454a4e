import LightShow.Pattern.Basic
import LightShow.Pattern.Blend
import LightShow.Pattern.Clock
import LightShow.Pattern.Light
import LightShow.Pattern.Motion
import LightShow.Pattern.Rainbow
import LightShow.Pattern.Scratch

/-! Drawing a pattern tree on a strip. A pattern draws over what the strip holds and keeps its
length. Where a tree makes no sense, for want of a child, of a length or of a weight, the strip
stays as it is. -/

namespace LightShow

namespace Pattern

/-- The largest length of a scratch strip, and the last millisecond, that can be asked for. -/
def most : Nat := UInt64.size - 1

/-- The length at which the child of a scaled pattern is drawn: the fixed length, or the multiple
of the length of the strip, rounded up. -/
def scaledLength? (length : UInt64) (ratio : Float32) (strip : Nat) : Option Nat :=
  if length ≠ 0 then some length.toNat
  else if 0.0 < ratio ∧ ratio.isFinite then
    let product := ratio * (UInt64.ofNat strip).toFloat32
    some ((Exact.ofSingle product).ceilWithin 0 most).toNat
  else none

/-- The millisecond from which on only the pattern after a fade is seen. -/
def fadeEnd (offset duration : UInt64) : Nat := min (offset.toNat + duration.toNat) most

/-- Which frame of a cycle is shown. -/
def cycleIndex (count : Nat) (duration : UInt64) (now : Time) : Nat :=
  if duration = 0 then 0 else now.millis / duration.toNat % count

mutual

/-- Draws a pattern at a time. Returns the strip, and the scratch for the next drawing. -/
def render : Pattern → Time → Scratch → Strip → Strip × Scratch
  | .color ink, _, scratch, strip => (Strip.fill strip ink, scratch)
  | .frame pixels, _, scratch, strip => (Strip.fit pixels strip.length, scratch)
  | .rainbow, _, scratch, strip => (Rainbow.pixels strip.length, scratch)
  | .repeated base, _, scratch, strip =>
      (if base.isEmpty then strip else Strip.tile base strip.length, scratch)
  | .gradient left right curve, now, scratch, strip =>
      if left.isNone || right.isNone || strip.isEmpty then (strip, scratch)
      else
        let (leftStrip, leftScratch) := renderChild left now (scratch.child 0) strip
        let buffer := Strip.reset scratch.strip strip.length
        let (rightStrip, rightScratch) := renderChild right now (scratch.child 1) buffer
        (Blend.gradient curve leftStrip rightStrip, .node [rightStrip] [leftScratch, rightScratch])
  | .transition before after offset duration curve, now, scratch, strip =>
      if now.millis ≤ offset.toNat then
        let (strip, beforeScratch) := renderChild before now (scratch.child 0) strip
        (strip, .node scratch.strips [beforeScratch, scratch.child 1])
      else if after.isNone then (strip, scratch)
      else
        let (strip, afterScratch) :=
          renderChild after (now.since offset.toNat) (scratch.child 1) strip
        if fadeEnd offset duration ≤ now.millis then
          (strip, .node [] [scratch.child 0, afterScratch])
        else
          let buffer := Strip.reset scratch.strip strip.length
          let (buffer, beforeScratch) := renderChild before now (scratch.child 0) buffer
          let kept := Scratch.node [buffer] [beforeScratch, afterScratch]
          if before.isNone then (strip, kept)
          else
            let weight := Blend.weight curve (now.millis - offset.toNat) duration.toNat
            (Strip.mix strip buffer (255 - weight), kept)
  | .cycle frames duration, now, scratch, strip =>
      let index := cycleIndex frames.length duration now
      let (strip, children) := renderNth frames index now scratch.children strip
      (strip, .node [] children)
  | .loop patterns hold fade curve, now, scratch, strip =>
      let period := min (hold.toNat + fade.toNat) most
      if period = 0 then
        let (strip, children) := renderNth patterns 0 now scratch.children strip
        (strip, .node scratch.strips children)
      else
        let offset := now.millis % period
        let current := now.millis / period % patterns.length
        let (strip, children) := renderNth patterns current now scratch.children strip
        if patterns.isEmpty || offset < hold.toNat then (strip, .node scratch.strips children)
        else
          let next := (current + 1) % patterns.length
          let buffer := Strip.reset scratch.strip strip.length
          let (buffer, children) := renderNth patterns next now children buffer
          let weight := Blend.weight curve (offset - hold.toNat) fade.toNat
          (Strip.mix strip buffer weight, .node [buffer] children)
  | .rotate child rate, now, scratch, strip =>
      if strip.isEmpty then (strip, scratch)
      else
        let buffer := Strip.reset scratch.strip strip.length
        let (buffer, childScratch) := renderChild child now (scratch.child 0) buffer
        let kept := Scratch.node [buffer] [childScratch]
        if child.isNone then (strip, kept)
        else (Strip.turn buffer (Motion.place (Motion.moves now rate) strip.length), kept)
  | .pingPong child rate, now, scratch, strip =>
      if strip.isEmpty then (strip, scratch)
      else
        let buffer := Strip.reset scratch.strip (strip.length * 2 - 1)
        let (buffer, childScratch) := renderChild child now (scratch.child 0) buffer
        let kept := Scratch.node [buffer] [childScratch]
        if child.isNone then (strip, kept)
        else if strip.length = 1 then (buffer, kept)
        else (Motion.bounce buffer strip.length (Motion.moves now rate), kept)
  | .chronometer child, now, scratch, strip =>
      if strip.isEmpty then (strip, scratch)
      else
        let buffer := Strip.reset scratch.strip Clock.paletteSize
        let (buffer, childScratch) := renderChild child now (scratch.child 0) buffer
        let kept := Scratch.node [buffer] [childScratch]
        if child.isNone then (strip, kept)
        else (Clock.face buffer strip.length now, kept)
  | .crop child segment, now, scratch, strip =>
      if segment.Fits strip.length then
        let start := segment.start.toNat
        let stop := segment.stop.toNat
        let part := (strip.drop start).take (stop - start)
        let (part, childScratch) := renderChild child now (scratch.child 0) part
        (strip.take start ++ part ++ strip.drop stop, .node [] [childScratch])
      else (strip, scratch)
  | .scale child method length ratio, now, scratch, strip =>
      match scaledLength? length ratio strip.length with
      | none => (strip, scratch)
      | some size =>
          let buffer := Strip.reset scratch.strip size
          let (buffer, childScratch) := renderChild child now (scratch.child 0) buffer
          let kept := Scratch.node [buffer] [childScratch]
          if child.isNone then (strip, kept)
          else (method.resample buffer strip, kept)
  | .mixer patterns weights, now, scratch, strip =>
      if patterns.length ≠ weights.length then (strip, scratch)
      else
        let strips :=
          if scratch.strips.length = patterns.length then scratch.strips
          else List.replicate patterns.length []
        let (buffers, children) := renderEach patterns now scratch.children strips strip.length
        (Light.mixture strip.length (buffers.zip weights), .node buffers children)

/-- Draws a child, if it is there. -/
def renderChild : Option Pattern → Time → Scratch → Strip → Strip × Scratch
  | none, _, scratch, strip => (strip, scratch)
  | some child, now, scratch, strip => render child now scratch strip

/-- Draws one pattern of a list, if it is there. -/
def renderNth : List Pattern → Nat → Time → List Scratch → Strip → Strip × List Scratch
  | [], _, _, scratches, strip => (strip, scratches)
  | pattern :: _, 0, now, scratches, strip =>
      let (strip, scratch) := render pattern now (scratches.headD .fresh) strip
      (strip, scratch :: scratches.tail)
  | _ :: patterns, index + 1, now, scratches, strip =>
      let (strip, rest) := renderNth patterns index now scratches.tail strip
      (strip, scratches.headD .fresh :: rest)

/-- Draws every pattern of a list on its own strip of one length. -/
def renderEach : List Pattern → Time → List Scratch → List Strip → (length : Nat) →
    List Strip × List Scratch
  | [], _, _, _, _ => ([], [])
  | pattern :: patterns, now, scratches, strips, length =>
      let buffer := Strip.reset (strips.headD []) length
      let (buffer, scratch) := render pattern now (scratches.headD .fresh) buffer
      let (buffers, rest) := renderEach patterns now scratches.tail strips.tail length
      (buffer :: buffers, scratch :: rest)

end

end Pattern

end LightShow
