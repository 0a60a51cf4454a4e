import LightShow.Proofs.Steps

/-! Drawing a pattern tree with everything noted that bears on its safety: which node is drawn on
how many pixels, which scratch strips are brought to which length, which nodes give up, and which
steps slip. With the notes left out, it is the drawing itself. -/

namespace LightShow

/-- Why a node gives up and leaves its strip as it is. -/
inductive Gap where
  | mixerCounts
  | cropOutside
  | noScale

inductive Event where
  /-- A node begins to draw on a strip of some length. -/
  | draws (node : Pattern) (length : Nat)
  /-- A scratch strip is brought to a length. -/
  | resets (length : Nat)
  | skips (gap : Gap)
  | slips (slip : Slip)

abbrev Drawing := Logged Event

/-- The slip that is noted, if it is one. -/
def Event.slip? : Event → Option Slip
  | .slips slip => some slip
  | _ => none

namespace Drawing

open Logged

/-- A step in the course of a drawing. -/
def step {Result : Type} (act : Step Result) : Drawing Result := act.relabel .slips

@[simp] theorem value_step {Result : Type} (act : Step Result) : (step act).value = act.value := rfl

/-- The steps of a drawing, one after the other, with nothing noted but slips. -/
def steps {Result : Type} (drawing : Drawing Result) : Step Result :=
  ⟨drawing.value, drawing.notes.filterMap Event.slip?⟩

section Steps

variable {Result Next : Type}

theorem steps_pure (value : Result) : steps (pure value) = pure value := rfl

theorem steps_note {event : Event} (other : event.slip? = none) : steps (note event) = pure () := by
  change Logged.mk () _ = Logged.mk () []
  rw [note, List.filterMap_cons_none other, List.filterMap_nil]

theorem steps_step (act : Step Result) : steps (step act) = act := by
  change Logged.mk act.value _ = Logged.mk act.value act.notes
  rw [step, relabel, List.filterMap_map]
  congr
  exact List.filterMap_some

theorem steps_bind (first : Drawing Result) (next : Result → Drawing Next) :
    steps (first >>= next) = steps first >>= fun value => steps (next value) := by
  change Logged.mk _ _ = Logged.mk _ (_ ++ _)
  rw [notes_bind, List.filterMap_append]
  rfl

theorem quiet_steps {drawing : Drawing Result} :
    Quiet (steps drawing) ↔ ∀ slip, .slips slip ∉ drawing.notes := by
  rw [Quiet, steps, List.filterMap_eq_nil_iff]
  constructor
  · intro none slip slipped
    exact nomatch none _ slipped
  · intro sure event noted
    cases event with
    | slips slip => exact absurd noted (sure slip)
    | _ => rfl

end Steps

end Drawing

/-- The part of a strip under a segment, if there is such a part. -/
def Strip.within? (strip : Strip) (segment : Segment) : Option Strip :=
  let start := segment.start.toNat
  let stop := segment.stop.toNat
  if start ≤ stop ∧ stop ≤ strip.length then some ((strip.take stop).drop start) else none

/-- To ask for the part is to cut it out, but for the slip. -/
theorem Strip.result?_part (strip : Strip) (segment : Segment) :
    (Step.part strip segment.start.toNat segment.stop.toNat).result? = strip.within? segment :=
  Logged.result?_checked ..

theorem Strip.within?_of_fits {strip : Strip} {segment : Segment}
    (fits : segment.Fits strip.length) :
    strip.within? segment = some ((strip.drop segment.start.toNat).take
      (segment.stop.toNat - segment.start.toNat)) := by
  rw [← List.drop_take]
  exact if_pos fits

theorem Strip.within?_of_not_fits {strip : Strip} {segment : Segment}
    (outside : ¬segment.Fits strip.length) : strip.within? segment = none := if_neg outside

namespace Pattern

open Logged Drawing

/-- Draws a child in a scratch frame of its own length and lays the frame over the strip. -/
def traceFrame (present : Bool) (size : Nat) (draw : Strip → Drawing (Strip × Scratch))
    (lay : Strip → Step Strip) (scratch : Scratch) (strip : Strip) :
    Drawing (Strip × Scratch) := do
  note (.resets size)
  let drawn ← draw (scratch.strip.reset size)
  let kept := Scratch.node [drawn.1] [drawn.2]
  if present then
    let shown ← step (lay drawn.1)
    return (shown, kept)
  else return (strip, kept)

/-- The steps of such a drawing are those of the child and then its own. -/
theorem steps_traceFrame (present : Bool) (size : Nat) (draw : Strip → Drawing (Strip × Scratch))
    (lay : Strip → Step Strip) (scratch : Scratch) (strip : Strip) :
    steps (traceFrame present size draw lay scratch strip) = do
      let drawn ← steps (draw (scratch.strip.reset size))
      let shown ← if present then lay drawn.1 else pure strip
      return (shown, .node [drawn.1] [drawn.2]) := by
  rw [traceFrame, steps_bind, steps_note rfl, pure_bind, steps_bind]
  congr 1
  funext drawn
  cases present with
  | false => simp only [Bool.false_eq_true, ↓reduceIte, steps_pure, pure_bind]
  | true => simp only [↓reduceIte, steps_bind, steps_step, steps_pure]

mutual

/-- Draws a pattern at a time, with notes. -/
def trace (pattern : Pattern) (now : Time) (scratch : Scratch) (strip : Strip) :
    Drawing (Strip × Scratch) := do
  note (.draws pattern strip.length)
  match pattern with
  | .color ink => return (strip.fill ink, scratch)
  | .frame pixels =>
      let shown ← step (.fit pixels strip)
      return (shown, scratch)
  | .rainbow =>
      let shown ← step (.rainbow strip.length)
      return (shown, scratch)
  | .repeated base =>
      return (if base.isEmpty then strip else Strip.tile base strip.length, scratch)
  | .gradient left right curve =>
      if left.isNone || right.isNone || strip.isEmpty then return (strip, scratch)
      else
        let first ← traceChild left now (scratch.child 0) strip
        note (.resets first.1.length)
        let second ← traceChild right now (scratch.child 1) (scratch.strip.reset first.1.length)
        let shown ← step (.gradient curve first.1 second.1)
        return (shown, .node [second.1] [first.2, second.2])
  | .transition before after offset duration curve =>
      if now.millis ≤ offset.toNat then
        let first ← traceChild before now (scratch.child 0) strip
        return (first.1, .node scratch.strips [first.2, scratch.child 1])
      else
        let later ← step (.after (now.millis - offset.toNat))
        if after.isNone then return (strip, scratch)
        else
          let second ← traceChild after later (scratch.child 1) strip
          if fadeEnd offset duration ≤ now.millis then
            return (second.1, .node [] [scratch.child 0, second.2])
          else
            note (.resets second.1.length)
            let first ← traceChild before now (scratch.child 0)
              (scratch.strip.reset second.1.length)
            let kept := Scratch.node [first.1] [first.2, second.2]
            if before.isNone then return (second.1, kept)
            else
              let elapsed ← step (.minus now.millis offset.toNat)
              let weight ← step (.fade curve elapsed duration.toNat)
              let rest ← step (.opposite weight)
              let shown ← step (.mix second.1 first.1 rest)
              return (shown, kept)
  | .cycle frames duration =>
      if frames.isEmpty then return (strip, .node [] scratch.children)
      else
        let index ← step (.cycleIndex frames.length duration now)
        let drawn ← traceNth frames index now scratch.children strip
        return (drawn.1, .node [] drawn.2)
  | .loop patterns hold fade curve =>
      if patterns.isEmpty then return (strip, .node scratch.strips scratch.children)
      else if loopPeriod hold fade = 0 then
        step (.at? 0 patterns.length)
        let only ← traceNth patterns 0 now scratch.children strip
        return (only.1, .node scratch.strips only.2)
      else
        let (turns, offset) ← step (.loopTurn (loopPeriod hold fade) now)
        let index ← step (.loopIndex patterns.length turns)
        let first ← traceNth patterns index now scratch.children strip
        if offset < hold.toNat then return (first.1, .node scratch.strips first.2)
        else
          let following ← step (.plus index 1)
          let next ← step (.loopIndex patterns.length following)
          note (.resets first.1.length)
          let second ← traceNth patterns next now first.2 (scratch.strip.reset first.1.length)
          let elapsed ← step (.minus offset hold.toNat)
          let weight ← step (.fade curve elapsed fade.toNat)
          let shown ← step (.mix first.1 second.1 weight)
          return (shown, .node [second.1] second.2)
  | .rotate child rate =>
      if strip.isEmpty then return (strip, scratch)
      else
        traceFrame child.isSome strip.length (traceChild child now (scratch.child 0))
          (fun frame => do
            let offset ← Step.place (Motion.moves now rate) strip.length
            Step.turn frame strip offset)
          scratch strip
  | .pingPong child rate =>
      if strip.isEmpty then return (strip, scratch)
      else
        let double ← step (.times strip.length 2)
        let size ← step (.minus double 1)
        traceFrame child.isSome size (traceChild child now (scratch.child 0))
          (fun frame => Step.trail frame strip (Motion.moves now rate)) scratch strip
  | .chronometer child =>
      if strip.isEmpty then return (strip, scratch)
      else
        traceFrame child.isSome Clock.paletteSize (traceChild child now (scratch.child 0))
          (fun frame => Step.face frame strip.length now) scratch strip
  | .crop child segment =>
      match strip.within? segment with
      | none =>
          note (.skips .cropOutside)
          return (strip, scratch)
      | some part =>
          let drawn ← traceChild child now (scratch.child 0) part
          return (strip.take segment.start.toNat ++ drawn.1 ++ strip.drop segment.stop.toNat,
            .node [] [drawn.2])
  | .scale child method length ratio =>
      match scaledLength? length ratio strip.length with
      | none =>
          note (.skips .noScale)
          return (strip, scratch)
      | some size =>
          traceFrame child.isSome size (traceChild child now (scratch.child 0))
            (fun frame => Step.resample method frame strip) scratch strip
  | .mixer patterns weights =>
      if patterns.length ≠ weights.length then
        note (.skips .mixerCounts)
        return (strip, scratch)
      else
        let strips :=
          if scratch.strips.length = patterns.length then scratch.strips
          else List.replicate patterns.length []
        let drawn ← traceEach patterns now scratch.children strips strip.length
        let shown ← step (.mixture strip.length (drawn.1.zip weights))
        return (shown, .node drawn.1 drawn.2)

def traceChild (child : Option Pattern) (now : Time) (scratch : Scratch) (strip : Strip) :
    Drawing (Strip × Scratch) :=
  match child with
  | none => return (strip, scratch)
  | some child => trace child now scratch strip

def traceNth : List Pattern → Nat → Time → List Scratch → Strip →
    Drawing (Strip × List Scratch)
  | [], _, _, scratches, strip => return (strip, scratches)
  | pattern :: _, 0, now, scratches, strip => do
      let drawn ← trace pattern now (scratches.headD .fresh) strip
      return (drawn.1, drawn.2 :: scratches.tail)
  | _ :: patterns, index + 1, now, scratches, strip => do
      let drawn ← traceNth patterns index now scratches.tail strip
      return (drawn.1, scratches.headD .fresh :: drawn.2)

def traceEach : List Pattern → Time → List Scratch → List Strip → (length : Nat) →
    Drawing (List Strip × List Scratch)
  | [], _, _, _, _ => return ([], [])
  | pattern :: patterns, now, scratches, strips, length => do
      note (.resets length)
      let drawn ← trace pattern now (scratches.headD .fresh) ((strips.headD []).reset length)
      let others ← traceEach patterns now scratches.tail strips.tail length
      return (drawn.1 :: others.1, drawn.2 :: others.2)

end

theorem value_traceChild {child : Option Pattern}
    (traced : ∀ inner ∈ child, ∀ now scratch strip,
      (trace inner now scratch strip).value = render inner now scratch strip)
    (now : Time) (scratch : Scratch) (strip : Strip) :
    (traceChild child now scratch strip).value = renderChild child now scratch strip := by
  cases child with
  | none => rfl
  | some inner => exact traced inner rfl now scratch strip

theorem value_traceNth {patterns : List Pattern}
    (traced : ∀ child ∈ patterns, ∀ now scratch strip,
      (trace child now scratch strip).value = render child now scratch strip)
    (index : Nat) (now : Time) (scratches : List Scratch) (strip : Strip) :
    (traceNth patterns index now scratches strip).value =
      renderNth patterns index now scratches strip := by
  induction patterns generalizing index scratches with
  | nil => rfl
  | cons pattern rest ih =>
      obtain ⟨first, others⟩ := List.forall_mem_cons.mp traced
      cases index with
      | zero => simp only [traceNth, renderNth, value_bind, value_pure, first now]
      | succ index => simp only [traceNth, renderNth, value_bind, value_pure, ih others]

theorem value_traceEach {patterns : List Pattern}
    (traced : ∀ child ∈ patterns, ∀ now scratch strip,
      (trace child now scratch strip).value = render child now scratch strip)
    (now : Time) (scratches : List Scratch) (strips : List Strip) (length : Nat) :
    (traceEach patterns now scratches strips length).value =
      renderEach patterns now scratches strips length := by
  induction patterns generalizing scratches strips with
  | nil => rfl
  | cons pattern rest ih =>
      obtain ⟨first, others⟩ := List.forall_mem_cons.mp traced
      simp only [traceEach, renderEach, value_bind, value_pure, first now, ih others]

theorem length_shown (child : Option Pattern) (now : Time) (scratch : Scratch) (strip : Strip) :
    (renderChild child now scratch strip).1.length = strip.length :=
  length_renderChild (fun inner _ => inner.length_render) now scratch strip

theorem value_traceFrame {child : Option Pattern}
    (traced : ∀ inner ∈ child, ∀ now scratch strip,
      (trace inner now scratch strip).value = render inner now scratch strip)
    {size : Nat} {lay : Strip → Step Strip} {whole : Strip → Strip} {now : Time}
    {scratch : Scratch} {strip : Strip}
    (same : ∀ frame, frame.length = size → (lay frame).value = whole frame) :
    (traceFrame child.isSome size (traceChild child now (scratch.child 0)) lay scratch
      strip).value = throughFrame child size whole now scratch strip := by
  cases child with
  | none => rfl
  | some inner =>
      have even := length_shown (some inner) now (scratch.child 0) (scratch.strip.reset size)
      rw [Strip.length_reset] at even
      simp only [traceFrame, throughFrame, Option.isSome_some, Option.isNone_some, ↓reduceIte,
        value_bind, value_traceChild traced, value_pure, value_step, same _ even,
        Bool.false_eq_true]

theorem value_transition {before after : Option Pattern}
    (beforeTraced : ∀ inner ∈ before, ∀ now scratch strip,
      (trace inner now scratch strip).value = render inner now scratch strip)
    (afterTraced : ∀ inner ∈ after, ∀ now scratch strip,
      (trace inner now scratch strip).value = render inner now scratch strip)
    (offset duration : UInt64) (curve : Curve) (now : Time) (scratch : Scratch) (strip : Strip) :
    (trace (transition before after offset duration curve) now scratch strip).value =
      render (transition before after offset duration curve) now scratch strip := by
  rw [trace, render_transition, value_bind]
  split
  · simp only [value_bind, value_pure, value_traceChild beforeTraced]
  rw [value_bind]
  split
  · rfl
  rw [value_bind, value_traceChild afterTraced]
  split
  · rfl
  simp only [value_bind, value_traceChild beforeTraced]
  split
  · rfl
  · simp only [value_bind, value_pure, value_step, Step.value_minus, Step.value_fade,
      Step.value_opposite, Step.value_mix]
    rfl

theorem value_loop {patterns : List Pattern}
    (traced : ∀ child ∈ patterns, ∀ now scratch strip,
      (trace child now scratch strip).value = render child now scratch strip)
    (hold fade : UInt64) (curve : Curve) (now : Time) (scratch : Scratch) (strip : Strip) :
    (trace (loop patterns hold fade curve) now scratch strip).value =
      render (loop patterns hold fade curve) now scratch strip := by
  rw [trace, render_loop, value_bind]
  split
  · next none =>
      rw [List.isEmpty_iff] at none
      subst none
      rw [if_pos (.inr (.inl rfl))]
      rfl
  next some =>
  rw [List.isEmpty_iff] at some
  split
  · next still =>
      rw [if_pos (.inl still), loopIndex, if_pos still]
      simp only [value_bind, value_pure, value_traceNth traced]
  next turning =>
  rw [loopIndex, if_neg turning]
  simp only [value_bind, value_traceNth traced]
  split
  · next held =>
      rw [if_pos (.inr (.inr held))]
      rfl
  · next fading =>
      rw [if_neg (by simp only [turning, some, false_or]; exact fading)]
      simp only [value_bind, value_pure, value_step, value_traceNth traced, Step.value_fade,
        Step.value_mix]
      rfl

/-- A drawing with its notes left out is the drawing. -/
theorem value_trace (pattern : Pattern) (now : Time) (scratch : Scratch) (strip : Strip) :
    (trace pattern now scratch strip).value = render pattern now scratch strip := by
  induction pattern using induct generalizing now scratch strip with
  | color ink => rfl
  | frame pixels =>
      rw [trace, render]
      simp only [value_bind, value_pure, value_step, Step.value_fit]
  | rainbow =>
      rw [trace, render]
      simp only [value_bind, value_pure, value_step, Step.value_rainbow]
  | repeated base => rfl
  | gradient left right curve leftTraced rightTraced =>
      rw [trace, render_gradient, value_bind]
      split
      · rfl
      · have even : (renderChild left now (scratch.child 0) strip).1.length =
            (renderChild right now (scratch.child 1)
              (scratch.strip.reset strip.length)).1.length := by
          rw [length_shown, length_shown, Strip.length_reset]
        simp only [value_bind, value_pure, value_step, value_traceChild leftTraced,
          value_traceChild rightTraced, length_shown left, Step.value_gradient curve even]
  | transition before after offset duration curve beforeTraced afterTraced =>
      exact value_transition beforeTraced afterTraced offset duration curve now scratch strip
  | cycle frames duration traced =>
      rw [trace, render_cycle, value_bind]
      split
      · next none =>
          rw [List.isEmpty_iff] at none
          subst none
          rfl
      · simp only [value_bind, value_pure, value_step, value_traceNth traced,
          Step.value_cycleIndex]
  | loop patterns hold fade curve traced =>
      exact value_loop traced hold fade curve now scratch strip
  | rotate child rate traced =>
      rw [trace, render_rotate, value_bind]
      split
      · rfl
      · apply value_traceFrame traced
        intro frame even
        exact Step.value_turn even _
  | pingPong child rate traced =>
      rw [trace, render_pingPong, value_bind]
      split
      · rfl
      · rw [value_bind, value_bind]
        apply value_traceFrame traced
        intro frame even
        exact Step.value_trail even _
  | chronometer child traced =>
      rw [trace, render_chronometer, value_bind]
      split
      · rfl
      · apply value_traceFrame traced
        intro frame even
        exact Step.value_face frame strip.length now
  | crop child segment traced =>
      rw [trace, render_crop, value_bind]
      by_cases fits : segment.Fits strip.length
      · rw [Strip.within?_of_fits fits, if_pos fits]
        simp only [value_bind, value_pure, value_traceChild traced]
      · rw [Strip.within?_of_not_fits fits, if_neg fits]
        rfl
  | scale child method length ratio traced =>
      rw [trace, render_scale, value_bind]
      cases scaledLength? length ratio strip.length with
      | none => rfl
      | some size =>
          apply value_traceFrame traced
          intro frame _
          exact Step.value_resample method frame strip
  | mixer patterns weights traced =>
      rw [trace, render_mixer, value_bind]
      split
      · rfl
      · simp only [value_bind, value_pure, value_step, value_traceEach traced]
        rw [Step.value_mixture]
        intro layer present
        exact length_of_mem_renderEach (fun child _ => child.length_render)
          (List.of_mem_zip present).1

/-- The steps of a drawing, each of which has a result or none, come to what is drawn exactly where
none of them slips. -/
theorem result?_steps_trace {pattern : Pattern} {now : Time} {scratch : Scratch} {strip : Strip} :
    (steps (trace pattern now scratch strip)).result? =
        some (render pattern now scratch strip) ↔
      ∀ slip, .slips slip ∉ (trace pattern now scratch strip).notes := by
  rw [← quiet_steps, ← isSome_result?, ← value_trace]
  constructor
  · intro drawn
    rw [drawn]
    rfl
  · intro finished
    rw [result?_eq_some_value finished]
    rfl

theorem length_traceChild (child : Option Pattern) (now : Time) (scratch : Scratch)
    (strip : Strip) : (traceChild child now scratch strip).value.1.length = strip.length := by
  rw [value_traceChild fun inner _ => inner.value_trace, length_shown]

theorem length_traceNth (patterns : List Pattern) (index : Nat) (now : Time)
    (scratches : List Scratch) (strip : Strip) :
    (traceNth patterns index now scratches strip).value.1.length = strip.length := by
  rw [value_traceNth fun child _ => child.value_trace]
  exact length_renderNth (fun child _ => child.length_render) index now scratches strip

theorem length_of_mem_traceEach {patterns : List Pattern} {now : Time} {scratches : List Scratch}
    {strips : List Strip} {length : Nat} {buffer : Strip}
    (present : buffer ∈ (traceEach patterns now scratches strips length).value.1) :
    buffer.length = length := by
  rw [value_traceEach fun child _ => child.value_trace] at present
  exact length_of_mem_renderEach (fun child _ => child.length_render) present

end Pattern

end LightShow
