import LightShow.Proofs.Settled

/-! What earlier drawings leave behind. A frame that keeps its length keeps its pixels, so a child
that leaves some of them alone shows through what was drawn there before. It does not where, of two
drawings in the dark frame, the second leaves what it leaves alone. -/

namespace LightShow

theorem Strip.reset_of_length {strip : Strip} {length : Nat} (same : strip.length = length) :
    strip.reset length = strip := if_pos same

theorem Strip.reset_of_length_ne {strip : Strip} {length : Nat} (other : strip.length ≠ length) :
    strip.reset length = Strip.dark length := if_neg other

theorem Strip.turn_inj {left right : Strip} (same : left.length = right.length) {offset : Nat}
    (turned : left.turn offset = right.turn offset) : left = right := by
  unfold Strip.turn at turned
  rw [same] at turned
  obtain ⟨ends, starts⟩ := List.append_inj turned (by simp [same])
  rw [← List.take_append_drop (right.length - offset) left, ends, starts,
    List.take_append_drop]

namespace Pattern

/-- What a fresh copy of a tree draws. -/
def once (pattern : Pattern) (now : Time) (strip : Strip) : Strip :=
  (pattern.render now .fresh strip).1

theorem length_once (pattern : Pattern) (now : Time) (strip : Strip) :
    (pattern.once now strip).length = strip.length := length_render pattern now .fresh strip

/-- The scratch of a tree after some drawings: on strips of any length, and at any of the times at
which it may be drawn. -/
inductive Reached (pattern : Pattern) (due : Time → Prop) : Scratch → Prop
  | fresh : Reached pattern due .fresh
  | render {scratch : Scratch} (reached : Reached pattern due scratch) {now : Time}
      (timely : due now) (strip : Strip) : Reached pattern due (pattern.render now scratch strip).2

/-- No animation state is hidden in the scratch of a tree: after any drawings it draws what a
fresh copy draws, on every strip of this length. -/
def Repeatable (pattern : Pattern) (due : Time → Prop) (length : Nat) : Prop :=
  ∀ scratch, Reached pattern due scratch → ∀ now, due now → ∀ strip : Strip,
    strip.length = length → (pattern.render now scratch strip).1 = pattern.once now strip

/-- Which patterns are drawn in a frame, and at which times. -/
abbrev Brush := Pattern → Time → Prop

/-- A frame in which a single child is drawn. -/
def alone (child : Option Pattern) (due : Time → Prop) : Brush :=
  fun pattern now => pattern ∈ child ∧ due now

/-- Of two drawings in a dark frame, the second leaves what it leaves without the first. -/
def Repaints (brush : Brush) (size : Nat) : Prop :=
  ∀ first earlier, brush first earlier → ∀ second later, brush second later →
    second.once later (first.once earlier (Strip.dark size)) =
      second.once later (Strip.dark size)

/-- What a frame holds makes no difference to the next drawing in it. -/
def Blank (brush : Brush) (size : Nat) (frame : Strip) : Prop :=
  ∀ pattern now, brush pattern now →
    pattern.once now (frame.reset size) = pattern.once now (Strip.dark size)

theorem Repaints.of_settled {brush : Brush} {size : Nat}
    (settled : ∀ pattern now, brush pattern now → Settled pattern size) :
    Repaints brush size := by
  intro first earlier _ second later drawn
  have dark := Strip.length_dark size
  exact settled second later drawn later .fresh .fresh _ _
    ((length_once first earlier _).trans dark) dark

namespace Blank

variable {brush : Brush} {size : Nat} {frame : Strip}

theorem of_length_ne (other : frame.length ≠ size) : Blank brush size frame := by
  intro pattern now _
  rw [Strip.reset_of_length_ne other]

theorem empty : Blank brush size [] := by
  intro pattern now _
  cases size <;> rfl

theorem reset (blank : Blank brush size frame) (other : Nat) :
    Blank brush size (frame.reset other) := by
  by_cases same : other = size
  · intro pattern now drawn
    rw [same, Strip.reset_of_length (Strip.length_reset frame size)]
    exact blank pattern now drawn
  · apply of_length_ne
    rwa [Strip.length_reset]

/-- A pattern without hidden state draws in such a frame what it draws in a dark one. -/
theorem render_eq (blank : Blank brush size frame) {pattern : Pattern} {due : Time → Prop}
    (repeatable : Repeatable pattern due size) {scratch : Scratch}
    (reached : Reached pattern due scratch) {now : Time} (timely : due now)
    (drawn : brush pattern now) :
    (pattern.render now scratch (frame.reset size)).1 = pattern.once now (Strip.dark size) :=
  (repeatable scratch reached now timely _ (Strip.length_reset frame size)).trans
    (blank pattern now drawn)

/-- A drawing keeps such a frame so, also where it is made at another length. -/
theorem render (blank : Blank brush size frame) (repaints : Repaints brush size)
    {pattern : Pattern} {due : Time → Prop} (repeatable : Repeatable pattern due size)
    {scratch : Scratch} (reached : Reached pattern due scratch) {now : Time} (timely : due now)
    (drawn : brush pattern now) (other : Nat) :
    Blank brush size (pattern.render now scratch (frame.reset other)).1 := by
  by_cases same : other = size
  · intro next later present
    rw [same, blank.render_eq repeatable reached timely drawn, Strip.reset_of_length]
    · exact repaints pattern now drawn next later present
    · exact (length_once pattern now _).trans (Strip.length_dark size)
  · apply of_length_ne
    rwa [length_render, Strip.length_reset]

end Blank

/-- What a fresh copy of a child draws, if the child is there. -/
def onceChild (child : Option Pattern) (now : Time) (strip : Strip) : Strip :=
  (renderChild child now .fresh strip).1

/-- What a fresh copy of one pattern of a list draws, if it is there. -/
def onceNth (patterns : List Pattern) (index : Nat) (now : Time) (strip : Strip) : Strip :=
  match patterns[index]? with
  | none => strip
  | some pattern => pattern.once now strip

/-- When a fade is under way, with something to fade to. -/
def fadeDue (after : Option Pattern) (offset duration : UInt64) (due : Time → Prop)
    (now : Time) : Prop :=
  due now ∧ after.isNone = false ∧ offset.toNat < now.millis ∧ now.millis < fadeEnd offset duration

/-- When the pattern before a fade is drawn. -/
def beforeDue (after : Option Pattern) (offset duration : UInt64) (due : Time → Prop)
    (now : Time) : Prop :=
  due now ∧ now.millis ≤ offset.toNat ∨ fadeDue after offset duration due now

/-- When the pattern after a fade is drawn, on the clock that starts with it. -/
def afterDue (offset : UInt64) (due : Time → Prop) (now : Time) : Prop :=
  ∃ outer, due outer ∧ offset.toNat < outer.millis ∧ now = outer.since offset.toNat

/-- Whether a loop fades from one of its patterns to the next. -/
def loopFades (hold fade : UInt64) (now : Time) : Prop :=
  loopPeriod hold fade ≠ 0 ∧ hold.toNat ≤ now.millis % loopPeriod hold fade

/-- When a pattern of a loop is drawn, as the one shown or as the one faded in. -/
def loopDue (count : Nat) (hold fade : UInt64) (due : Time → Prop) (index : Nat) (now : Time) :
    Prop :=
  due now ∧ (loopIndex count hold fade now = index ∨
    loopFades hold fade now ∧ (loopIndex count hold fade now + 1) % count = index)

/-- The patterns of a loop are faded in through one frame. -/
def loopBrush (patterns : List Pattern) (hold fade : UInt64) (due : Time → Prop) : Brush :=
  fun pattern now => due now ∧ loopFades hold fade now ∧
    patterns[(loopIndex patterns.length hold fade now + 1) % patterns.length]? = some pattern

def ReachedChild (child : Option Pattern) (due : Time → Prop) (scratch : Scratch) : Prop :=
  ∀ inner ∈ child, Reached inner due scratch

/-- The scratches of some patterns, each of which has times of its own. -/
def ReachedEach (patterns : List Pattern) (due : Nat → Time → Prop) (scratches : List Scratch) :
    Prop :=
  ∀ (index : Nat) child, patterns[index]? = some child →
    Reached child (due index) (scratches.getD index .fresh)

theorem ReachedChild.render {child : Option Pattern} {due : Time → Prop} {scratch : Scratch}
    (reached : ReachedChild child due scratch) {now : Time} (timely : ∀ _ ∈ child, due now)
    (strip : Strip) : ReachedChild child due (renderChild child now scratch strip).2 := by
  rintro inner rfl
  exact (reached inner rfl).render (timely inner rfl) strip

theorem renderChild_eq {child : Option Pattern} {due : Time → Prop} {length : Nat}
    (repeatable : ∀ inner ∈ child, Repeatable inner due length) {scratch : Scratch}
    (reached : ReachedChild child due scratch) {now : Time} (timely : ∀ _ ∈ child, due now)
    {strip : Strip} (same : strip.length = length) :
    (renderChild child now scratch strip).1 = onceChild child now strip := by
  cases child with
  | none => rfl
  | some inner =>
      exact repeatable inner rfl scratch (reached inner rfl) now (timely inner rfl) strip same

theorem ReachedEach.renderNth {patterns : List Pattern} {due : Nat → Time → Prop}
    {scratches : List Scratch} (reached : ReachedEach patterns due scratches) {index : Nat}
    {now : Time} (timely : due index now) (strip : Strip) :
    ReachedEach patterns due (renderNth patterns index now scratches strip).2 := by
  intro place child found
  rw [renderNth_snd]
  split
  · exact reached place child found
  · next pattern here =>
      split
      · next same =>
          subst same
          obtain rfl : pattern = child := Option.some.inj (here.symm.trans found)
          exact (reached place pattern found).render timely strip
      · exact reached place child found

theorem renderNth_eq {patterns : List Pattern} {due : Nat → Time → Prop} {length : Nat}
    (repeatable : ∀ (index : Nat) child, patterns[index]? = some child →
      Repeatable child (due index) length)
    {scratches : List Scratch} (reached : ReachedEach patterns due scratches) {index : Nat}
    {now : Time} (timely : due index now) {strip : Strip} (same : strip.length = length) :
    (renderNth patterns index now scratches strip).1 = onceNth patterns index now strip := by
  rw [renderNth_fst, onceNth]
  cases here : patterns[index]? with
  | none => rfl
  | some pattern =>
      exact repeatable index pattern here _ (reached index pattern here) now timely strip same

theorem ReachedEach.fresh (patterns : List Pattern) (due : Nat → Time → Prop) :
    ReachedEach patterns due [] := fun _ _ _ => .fresh

namespace Blank

variable {brush : Brush} {size : Nat} {frame : Strip}

theorem renderChild (blank : Blank brush size frame) (repaints : Repaints brush size)
    {child : Option Pattern} {due : Time → Prop}
    (repeatable : ∀ inner ∈ child, Repeatable inner due size) {scratch : Scratch}
    (reached : ReachedChild child due scratch) {now : Time} (timely : ∀ _ ∈ child, due now)
    (drawn : ∀ inner ∈ child, brush inner now) (other : Nat) :
    Blank brush size (renderChild child now scratch (frame.reset other)).1 := by
  cases child with
  | none => exact blank.reset other
  | some inner =>
      exact blank.render repaints (repeatable inner rfl) (reached inner rfl) (timely inner rfl)
        (drawn inner rfl) other

theorem renderChild_eq (blank : Blank brush size frame) {child : Option Pattern}
    {due : Time → Prop} (repeatable : ∀ inner ∈ child, Repeatable inner due size)
    {scratch : Scratch} (reached : ReachedChild child due scratch) {now : Time}
    (timely : ∀ _ ∈ child, due now) (drawn : ∀ inner ∈ child, brush inner now)
    (present : child.isNone = false) :
    (Pattern.renderChild child now scratch (frame.reset size)).1 =
      onceChild child now (Strip.dark size) := by
  cases child with
  | none => cases present
  | some inner =>
      exact blank.render_eq (repeatable inner rfl) (reached inner rfl) (timely inner rfl)
        (drawn inner rfl)

theorem renderNth (blank : Blank brush size frame) (repaints : Repaints brush size)
    {patterns : List Pattern} {due : Nat → Time → Prop}
    (repeatable : ∀ (index : Nat) child, patterns[index]? = some child →
      Repeatable child (due index) size)
    {scratches : List Scratch} (reached : ReachedEach patterns due scratches) {index : Nat}
    {now : Time} (timely : due index now)
    (drawn : ∀ child, patterns[index]? = some child → brush child now) (other : Nat) :
    Blank brush size (renderNth patterns index now scratches (frame.reset other)).1 := by
  rw [renderNth_fst]
  split
  · exact blank.reset other
  · next pattern here =>
      exact blank.render repaints (repeatable index pattern here) (reached index pattern here)
        timely (drawn pattern here) other

theorem renderNth_eq (blank : Blank brush size frame) {patterns : List Pattern}
    {due : Nat → Time → Prop}
    (repeatable : ∀ (index : Nat) child, patterns[index]? = some child →
      Repeatable child (due index) size)
    {scratches : List Scratch} (reached : ReachedEach patterns due scratches) {index : Nat}
    {now : Time} (timely : due index now)
    (drawn : ∀ child, patterns[index]? = some child → brush child now)
    (inside : index < patterns.length) :
    (Pattern.renderNth patterns index now scratches (frame.reset size)).1 =
      onceNth patterns index now (Strip.dark size) := by
  have here := List.getElem?_eq_getElem inside
  rw [renderNth_fst, onceNth, here]
  exact blank.render_eq (repeatable index _ here) (reached index _ here) timely (drawn _ here)

end Blank

/-- The frames of a mixer: those that it holds, if there are as many as it has patterns. -/
def layers (patterns : List Pattern) (scratch : Scratch) : List Strip :=
  if scratch.strips.length = patterns.length then scratch.strips
  else List.replicate patterns.length []

theorem Blank.layers {brush : Brush} {size : Nat} {scratch : Scratch} {index : Nat}
    (blank : Blank brush size (scratch.strips.getD index [])) (patterns : List Pattern) :
    Blank brush size ((layers patterns scratch).getD index []) := by
  unfold Pattern.layers
  split
  · exact blank
  · rw [List.getD_eq_getElem?_getD, List.getElem?_replicate]
    split <;> exact Blank.empty

end Pattern

end LightShow
