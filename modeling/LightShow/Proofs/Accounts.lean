import LightShow.Proofs.Faults
import LightShow.Proofs.SureSteps
import LightShow.Proofs.Trace

/-! Every note of a drawing accounted for: it is about the node itself, or it belongs to a whole
drawing of one of the children, on the length that the node gives them and at no later time. What
holds of all the notes of a tree follows from what a node can note itself. -/

namespace LightShow

namespace Pattern

open Logged Drawing

/-- The numbers that a node works with are small enough for each of its steps. -/
structure Tame (pattern : Pattern) (now : Time) (length : Nat) : Prop where
  soon : now.millis < Step.longTime
  short : length < Step.manyPixels
  frame : pattern.inner length < Step.manyPixels
  stretches : ∀ stretch ∈ pattern.ownStretches, stretch.toNat < Step.longStretch

/-- Why a node leaves a strip of some length as it is, if it has a reason to. -/
def gap? : Pattern → (length : Nat) → Option Gap
  | .crop _ segment, length => if segment.Fits length then none else some .cropOutside
  | .scale _ _ size ratio, length =>
      if (scaledLength? size ratio length).isNone then some .noScale else none
  | .mixer patterns weights, _ =>
      if patterns.length ≠ weights.length then some .mixerCounts else none
  | _, _ => none

theorem bad_of_gap? {pattern : Pattern} {length : Nat} {gap : Gap}
    (reason : pattern.gap? length = some gap) : pattern.Bad length := by
  cases pattern with
  | crop child segment =>
      rw [gap?] at reason
      split at reason
      · cases reason
      · next outside => exact outside
  | scale child method size ratio =>
      rw [gap?] at reason
      split at reason
      · next none =>
          intro scaled some
          rw [some] at none
          cases none
      · cases reason
  | mixer patterns weights =>
      rw [gap?] at reason
      split at reason
      · next uneven => exact uneven
      · cases reason
  | _ => cases reason

/-- What a node that is drawn on some length can note itself. -/
def Own (pattern : Pattern) (now : Time) (length : Nat) : Event → Prop
  | .draws node size => node = pattern ∧ size = length
  | .resets size => size = pattern.inner length
  | .skips gap => pattern.gap? length = some gap
  | .slips _ => ¬pattern.Tame now length

theorem length_pos_of_not_isEmpty {Item : Type} {items : List Item}
    (full : ¬items.isEmpty = true) : 0 < items.length :=
  List.length_pos_iff.mpr fun none => full (List.isEmpty_iff.mpr none)

/-- The notes are those of a drawing of the pattern on some length, at a time or before it. -/
def Drawn (pattern : Pattern) (now : Time) (length : Nat) (notes : List Event) : Prop :=
  ∃ earlier scratch strip, earlier.millis ≤ now.millis ∧ strip.length = length ∧
    notes = (trace pattern earlier scratch strip).notes

/-- Each note is one that the node makes itself, or one of a whole drawing of a child. -/
def Accounted (pattern : Pattern) (now : Time) (length : Nat) (notes : List Event) : Prop :=
  ∀ event ∈ notes, pattern.Own now length event ∨
    ∃ child ∈ pattern.children, ∃ drawing, child.Drawn now (pattern.inner length) drawing ∧
      drawing ⊆ notes ∧ event ∈ drawing

namespace Accounted

variable {pattern : Pattern} {now : Time} {length : Nat} {Result Next : Type}

theorem pure (value : Result) :
    pattern.Accounted now length (Pure.pure value : Drawing Result).notes :=
  List.forall_mem_nil _

theorem bind {first : Drawing Result} {next : Result → Drawing Next}
    (before : pattern.Accounted now length first.notes)
    (after : pattern.Accounted now length (next first.value).notes) :
    pattern.Accounted now length (first >>= next).notes := by
  intro event noted
  rw [notes_bind] at noted ⊢
  rcases List.mem_append.mp noted with here | there
  · refine (before event here).imp_right ?_
    rintro ⟨child, present, drawing, drawn, whole, inside⟩
    exact ⟨child, present, drawing, drawn, List.subset_append_of_subset_left _ whole, inside⟩
  · refine (after event there).imp_right ?_
    rintro ⟨child, present, drawing, drawn, whole, inside⟩
    exact ⟨child, present, drawing, drawn, List.subset_append_of_subset_right _ whole, inside⟩

theorem note {event : Event} (own : pattern.Own now length event) :
    pattern.Accounted now length (note event).notes := by
  intro other noted
  rw [List.mem_singleton.mp noted]
  exact .inl own

theorem reset {size : Nat} (long : size = pattern.inner length) :
    pattern.Accounted now length (Logged.note (Event.resets size)).notes := note long

/-- A step that slips in a wild node only. -/
theorem step {act : Step Result} (sure : pattern.Tame now length → Quiet act) :
    pattern.Accounted now length (step act).notes := by
  intro event noted
  obtain ⟨slip, slipped, rfl⟩ := List.mem_map.mp noted
  refine .inl fun tame => ?_
  rw [sure tame] at slipped
  exact List.not_mem_nil slipped

theorem drawing {child : Pattern} (present : child ∈ pattern.children) {time : Time}
    (before : time.millis ≤ now.millis) (scratch : Scratch) {strip : Strip}
    (long : strip.length = pattern.inner length) :
    pattern.Accounted now length (trace child time scratch strip).notes :=
  fun _ noted => .inr ⟨child, present, _, ⟨time, scratch, strip, before, long, rfl⟩,
    List.Subset.refl _, noted⟩

theorem child {child : Option Pattern} (present : child.toList ⊆ pattern.children) {time : Time}
    (before : time.millis ≤ now.millis) (scratch : Scratch) {strip : Strip}
    (long : strip.length = pattern.inner length) :
    pattern.Accounted now length (traceChild child time scratch strip).notes := by
  cases child with
  | none => exact pure _
  | some inner => exact drawing (present (List.mem_singleton_self inner)) before scratch long

theorem nth {patterns : List Pattern} (present : patterns ⊆ pattern.children) (index : Nat)
    (scratches : List Scratch) {strip : Strip} (long : strip.length = pattern.inner length) :
    pattern.Accounted now length (traceNth patterns index now scratches strip).notes := by
  induction patterns generalizing index scratches with
  | nil => exact pure _
  | cons first rest ih =>
      obtain ⟨here, others⟩ := List.cons_subset.mp present
      cases index with
      | zero => exact .bind (drawing here (Nat.le_refl _) _ long) (pure _)
      | succ index => exact .bind (ih others index scratches.tail) (pure _)

theorem each {patterns : List Pattern} (present : patterns ⊆ pattern.children)
    (scratches : List Scratch) (strips : List Strip) {size : Nat}
    (long : size = pattern.inner length) :
    pattern.Accounted now length (traceEach patterns now scratches strips size).notes := by
  induction patterns generalizing scratches strips with
  | nil => exact pure _
  | cons first rest ih =>
      obtain ⟨here, others⟩ := List.cons_subset.mp present
      have buffer := Strip.length_reset (strips.headD []) size
      exact .bind (reset long) <|
        .bind (drawing here (Nat.le_refl _) _ (buffer.trans long)) <|
        .bind (ih others scratches.tail strips.tail) (pure _)

theorem frame {child : Option Pattern} (present : child.toList ⊆ pattern.children) {size : Nat}
    (long : size = pattern.inner length) {lay : Strip → Step Strip}
    (sure : pattern.Tame now length →
      ∀ frame : Strip, frame.length = size → Quiet (lay frame))
    (scratch : Scratch) (strip : Strip) :
    pattern.Accounted now length (traceFrame child.isSome size
      (traceChild child now (scratch.child 0)) lay scratch strip).notes := by
  have buffer := Strip.length_reset scratch.strip size
  apply bind (reset long)
  apply bind (Accounted.child present (Nat.le_refl _) _ (buffer.trans long))
  split
  · have even := length_traceChild child now (scratch.child 0) (scratch.strip.reset size)
    exact .bind (step fun tame => sure tame _ (even.trans buffer)) (pure _)
  · exact pure _

end Accounted

section Kinds

variable (now : Time) (scratch : Scratch) (strip : Strip)

theorem own_draws (pattern : Pattern) (length : Nat) :
    pattern.Own now length (.draws pattern length) := ⟨rfl, rfl⟩

theorem accounted_gradient (left right : Option Pattern) (curve : Curve) :
    (gradient left right curve).Accounted now strip.length
      (trace (.gradient left right curve) now scratch strip).notes := by
  rw [trace]
  apply Accounted.bind (.note (own_draws ..))
  split
  · exact .pure _
  next full =>
  simp only [Bool.or_eq_true, not_or] at full
  have filled := length_pos_of_not_isEmpty full.2
  have first := length_traceChild left now (scratch.child 0) strip
  have buffer := Strip.length_reset scratch.strip
    (traceChild left now (scratch.child 0) strip).value.1.length
  have second := length_traceChild right now (scratch.child 1)
    (scratch.strip.reset (traceChild left now (scratch.child 0) strip).value.1.length)
  apply Accounted.bind (.child (List.subset_append_left ..) (Nat.le_refl _) _ rfl)
  apply Accounted.bind (.reset first)
  have long := buffer.trans first
  apply Accounted.bind (.child (List.subset_append_right ..) (Nat.le_refl _) _ long)
  refine .bind (.step fun tame => ?_) (.pure _)
  exact Step.quiet_gradient curve (second.trans buffer).symm
    (first.symm ▸ filled) (first.symm ▸ tame.short)

theorem accounted_transition (before after : Option Pattern) (offset duration : UInt64)
    (curve : Curve) :
    (transition before after offset duration curve).Accounted now strip.length
      (trace (.transition before after offset duration curve) now scratch strip).notes := by
  rw [trace]
  apply Accounted.bind (.note (own_draws ..))
  split
  · exact .bind (.child (List.subset_append_left ..) (Nat.le_refl _) _ rfl) (.pure _)
  next begun =>
  apply Accounted.bind
  · refine .step fun tame => Step.quiet_after.mpr ?_
    have soon := tame.soon
    unfold Step.longTime at soon
    omega
  split
  · exact .pure _
  have passed : (Step.after (now.millis - offset.toNat)).value.millis ≤ now.millis := by
    rw [Step.value_after, Time.millis_ofMillis]
    exact Nat.sub_le ..
  apply Accounted.bind (.child (List.subset_append_right ..) passed _ rfl)
  split
  · exact .pure _
  have second := length_traceChild after (Step.after (now.millis - offset.toNat)).value
    (scratch.child 1) strip
  have buffer := (Strip.length_reset scratch.strip _).trans second
  apply Accounted.bind (.reset second)
  apply Accounted.bind (.child (List.subset_append_left ..) (Nat.le_refl _) _ buffer)
  split
  · exact .pure _
  apply Accounted.bind (.step fun _ => Step.quiet_minus.mpr (by omega))
  apply Accounted.bind
  · refine .step fun tame => Step.quiet_fade_of_short curve ?_ ?_
    · exact Nat.lt_of_le_of_lt (Nat.sub_le ..) tame.soon
    · exact tame.stretches duration (by simp [ownStretches])
  apply Accounted.bind (.step fun _ => Step.quiet_opposite _)
  exact .bind (.step fun _ => Step.quiet_mix ..) (.pure _)

theorem accounted_loop (patterns : List Pattern) (hold fade : UInt64) (curve : Curve) :
    (loop patterns hold fade curve).Accounted now strip.length
      (trace (.loop patterns hold fade curve) now scratch strip).notes := by
  rw [trace]
  apply Accounted.bind (.note (own_draws ..))
  split
  · exact .pure _
  next some =>
  have filled := length_pos_of_not_isEmpty some
  have all : patterns ⊆ (loop patterns hold fade curve).children := List.Subset.refl _
  split
  · exact .bind (.step fun _ => Step.quiet_at.mpr filled) <| .bind (.nth all _ _ rfl) (.pure _)
  next turning =>
  apply Accounted.bind (.step fun _ => Step.quiet_loopTurn turning now)
  apply Accounted.bind (.step fun _ => Step.quiet_loopIndex filled _)
  apply Accounted.bind (.nth all _ _ rfl)
  split
  · exact .pure _
  next fading =>
  have first := length_traceNth patterns
    (Step.loopIndex patterns.length (now.millis / loopPeriod hold fade)).value now
    scratch.children strip
  have buffer := (Strip.length_reset scratch.strip _).trans first
  apply Accounted.bind
  · refine .step fun tame => Step.quiet_plus.mpr ?_
    have soon := tame.soon
    unfold Step.longTime at soon
    have index : now.millis / loopPeriod hold fade % patterns.length ≤ now.millis :=
      Nat.le_trans (Nat.mod_le ..) (Nat.div_le_self ..)
    change now.millis / loopPeriod hold fade % patterns.length + 1 < 2 ^ 64
    omega
  apply Accounted.bind (.step fun _ => Step.quiet_loopIndex filled _)
  apply Accounted.bind (.reset first)
  apply Accounted.bind (.nth all _ _ buffer)
  apply Accounted.bind (.step fun _ => Step.quiet_minus.mpr (Nat.le_of_not_lt fading))
  apply Accounted.bind
  · refine .step fun tame => Step.quiet_fade_of_short curve ?_ ?_
    · have soon := tame.soon
      have offset : now.millis % loopPeriod hold fade ≤ now.millis := Nat.mod_le ..
      change now.millis % loopPeriod hold fade - hold.toNat < Step.longTime
      omega
    · exact tame.stretches fade (by simp [ownStretches])
  exact .bind (.step fun _ => Step.quiet_mix ..) (.pure _)

theorem accounted_pingPong (child : Option Pattern) (rate : Float32) :
    (pingPong child rate).Accounted now strip.length
      (trace (.pingPong child rate) now scratch strip).notes := by
  rw [trace]
  apply Accounted.bind (.note (own_draws ..))
  split
  · exact .pure _
  next full =>
  have filled := length_pos_of_not_isEmpty full
  apply Accounted.bind
  · refine .step fun tame => Step.quiet_times.mpr ?_
    have short := tame.short
    unfold Step.manyPixels at short
    omega
  apply Accounted.bind
  · refine .step fun _ => Step.quiet_minus.mpr ?_
    change 1 ≤ strip.length * 2
    omega
  refine .frame (List.Subset.refl _) rfl (fun tame frame even => ?_) _ _
  exact Step.quiet_trail even filled tame.short _

theorem accounted_crop (child : Option Pattern) (segment : Segment) :
    (crop child segment).Accounted now strip.length
      (trace (.crop child segment) now scratch strip).notes := by
  rw [trace]
  apply Accounted.bind (.note (own_draws ..))
  by_cases fits : segment.Fits strip.length
  · rw [Strip.within?_of_fits fits]
    have part : ((strip.drop segment.start.toNat).take
        (segment.stop.toNat - segment.start.toNat)).length =
        (crop child segment).inner strip.length := by
      obtain ⟨ordered, inside⟩ := fits
      rw [inner, if_pos ⟨ordered, inside⟩, List.length_take, List.length_drop, Segment.size]
      omega
    exact .bind (.child (List.Subset.refl _) (Nat.le_refl _) _ part) (.pure _)
  · rw [Strip.within?_of_not_fits fits]
    exact .bind (.note (if_neg fits)) (.pure _)

theorem accounted_scale (child : Option Pattern) (method : Sampling) (length : UInt64)
    (ratio : Float32) :
    (scale child method length ratio).Accounted now strip.length
      (trace (.scale child method length ratio) now scratch strip).notes := by
  rw [trace]
  apply Accounted.bind (.note (own_draws ..))
  have scaled : (scale child method length ratio).inner strip.length =
    (scaledLength? length ratio strip.length).getD 0 := rfl
  cases found : scaledLength? length ratio strip.length with
  | none =>
      have reason : (scale child method length ratio).gap? strip.length = some .noScale := by
        rw [gap?, found, Option.isNone_none, if_pos rfl]
      exact .bind (.note reason) (.pure _)
  | some size =>
      rw [found] at scaled
      refine .frame (List.Subset.refl _) scaled.symm (fun tame frame even => ?_) _ _
      have small : frame.length < Step.manyPixels := by
        rw [even]
        exact scaled ▸ tame.frame
      exact Step.quiet_resample method (Step.resample_fits small tame.short)

theorem accounted_mixer (patterns : List Pattern) (weights : List Float32) :
    (mixer patterns weights).Accounted now strip.length
      (trace (.mixer patterns weights) now scratch strip).notes := by
  rw [trace]
  apply Accounted.bind (.note (own_draws ..))
  split
  · next uneven => exact .bind (.note (if_pos uneven)) (.pure _)
  · apply Accounted.bind (.each (List.Subset.refl _) _ _ rfl)
    refine .bind (.step fun _ => Step.quiet_mixture fun layer present => ?_) (.pure _)
    exact length_of_mem_traceEach (List.of_mem_zip present).1

/-- What a drawing of a node can note. -/
theorem accounted_trace (pattern : Pattern) :
    pattern.Accounted now strip.length (trace pattern now scratch strip).notes := by
  cases pattern with
  | color ink => exact .bind (.note (own_draws ..)) (.pure _)
  | frame pixels =>
      exact .bind (.note (own_draws ..)) <|
        .bind (.step fun _ => Step.quiet_fit pixels strip) (.pure _)
  | rainbow =>
      exact .bind (.note (own_draws ..)) <|
        .bind (.step fun _ => Step.quiet_rainbow _) (.pure _)
  | repeated base => exact .bind (.note (own_draws ..)) (.pure _)
  | gradient left right curve => exact accounted_gradient now scratch strip left right curve
  | transition before after offset duration curve =>
      exact accounted_transition now scratch strip before after offset duration curve
  | cycle frames duration =>
      rw [trace]
      apply Accounted.bind (.note (own_draws ..))
      split
      · exact .pure _
      next some =>
      have filled := length_pos_of_not_isEmpty some
      exact .bind (.step fun _ => Step.quiet_cycleIndex filled duration now) <|
        .bind (.nth (List.Subset.refl _) _ _ rfl) (.pure _)
  | loop patterns hold fade curve => exact accounted_loop now scratch strip patterns hold fade curve
  | rotate child rate =>
      rw [trace]
      apply Accounted.bind (.note (own_draws ..))
      split
      · exact .pure _
      next full =>
      have filled := length_pos_of_not_isEmpty full
      refine .frame (List.Subset.refl _) rfl (fun tame frame even => ?_) _ _
      have inside := Motion.place_lt (Motion.moves now rate) filled
      apply Quiet.bind (Step.quiet_place.mpr (Nat.ne_of_gt filled))
      exact Step.quiet_turn even (Nat.le_of_lt inside)
  | pingPong child rate => exact accounted_pingPong now scratch strip child rate
  | chronometer child =>
      rw [trace]
      apply Accounted.bind (.note (own_draws ..))
      split
      · exact .pure _
      next full =>
      have filled := length_pos_of_not_isEmpty full
      refine .frame (List.Subset.refl _) rfl (fun tame frame even => ?_) _ _
      exact Step.quiet_face even filled (Nat.lt_trans tame.short (by decide)) now
  | crop child segment => exact accounted_crop now scratch strip child segment
  | scale child method length ratio =>
      exact accounted_scale now scratch strip child method length ratio
  | mixer patterns weights => exact accounted_mixer now scratch strip patterns weights

end Kinds

/-- Every note of a drawing is made by one of the nodes of the tree, on the length that its
ancestors give it, in a drawing of its own within the whole one. -/
theorem exists_owner {pattern : Pattern} {now : Time} {scratch : Scratch} {strip : Strip}
    {event : Event} (noted : event ∈ (trace pattern now scratch strip).notes) :
    ∃ place ∈ pattern.places strip.length, ∃ time kept part,
      time.millis ≤ now.millis ∧ part.length = place.2 ∧
      (trace place.1 time kept part).notes ⊆ (trace pattern now scratch strip).notes ∧
      place.1.Own time place.2 event := by
  induction pattern using induct_children generalizing now scratch strip with
  | node pattern owned =>
      rcases accounted_trace now scratch strip pattern event noted with
        own | ⟨child, present, drawing, ⟨earlier, kept, part, before, long, rfl⟩, whole, inside⟩
      · exact ⟨_, mem_places pattern strip.length, now, scratch, strip, Nat.le_refl _, rfl,
          List.Subset.refl _, own⟩
      · obtain ⟨place, here, time, scratch, strip, first, even, within, own⟩ :=
          owned child present inside
        rw [long] at here
        exact ⟨place, places_child present _ here, time, scratch, strip,
          Nat.le_trans first before, even, List.Subset.trans within whole, own⟩

theorem draws_trace (pattern : Pattern) (now : Time) (scratch : Scratch) (strip : Strip) :
    Event.draws pattern strip.length ∈ (trace pattern now scratch strip).notes := by
  cases pattern <;> exact List.mem_cons_self

/-- A node that is drawn is drawn in full. -/
theorem exists_drawing {pattern node : Pattern} {now : Time} {scratch : Scratch} {strip : Strip}
    {length : Nat} (drawn : .draws node length ∈ (trace pattern now scratch strip).notes) :
    ∃ time kept part, part.length = length ∧
      (trace node time kept part).notes ⊆ (trace pattern now scratch strip).notes := by
  obtain ⟨place, _, time, kept, part, _, long, within, rfl, rfl⟩ := exists_owner drawn
  exact ⟨time, kept, part, long, within⟩

theorem resets_pingPong (child : Option Pattern) (rate : Float32) (now : Time)
    (scratch : Scratch) {strip : Strip} (filled : 0 < strip.length) :
    .resets (strip.length * 2 - 1) ∈ (trace (.pingPong child rate) now scratch strip).notes := by
  have full : ¬strip.isEmpty = true := fun none =>
    List.length_pos_iff.mp filled (List.isEmpty_iff.mp none)
  rw [trace, if_neg full]
  -- The drawing is noted first, then what the two sums of its length may note.
  refine List.mem_append_right _ (List.mem_append_right _ (List.mem_append_right _ ?_))
  exact List.mem_cons_self

/-- The length on which a node draws its children is noted, or is no longer than its strip or
than a palette. -/
theorem resets_inner (pattern : Pattern) (now : Time) (scratch : Scratch) (strip : Strip) :
    .resets (pattern.inner strip.length) ∈ (trace pattern now scratch strip).notes ∨
      pattern.inner strip.length ≤ max strip.length Clock.paletteSize := by
  cases pattern with
  | pingPong child rate =>
      cases strip with
      | nil => exact .inr (Nat.zero_le _)
      | cons pixel rest => exact .inl (resets_pingPong child rate now scratch (Nat.succ_pos _))
  | scale child method size ratio =>
      rw [trace, inner]
      cases scaledLength? size ratio strip.length with
      | none => exact .inr (Nat.zero_le _)
      | some scaled => exact .inl (List.mem_cons_of_mem _ List.mem_cons_self)
  | chronometer child => exact .inr (Nat.le_max_right ..)
  | crop child segment =>
      refine .inr ?_
      rw [inner]
      split
      · next fits =>
          have inside := fits.2
          unfold Segment.size
          omega
      · exact Nat.zero_le _
  | _ => exact .inr (Nat.le_max_left ..)

theorem skips_trace {pattern : Pattern} {strip : Strip} {gap : Gap}
    (reason : pattern.gap? strip.length = some gap) (now : Time) (scratch : Scratch) :
    .skips gap ∈ (trace pattern now scratch strip).notes := by
  cases pattern with
  | crop child segment =>
      rw [gap?] at reason
      split at reason
      · cases reason
      · next outside =>
          cases reason
          rw [trace, Strip.within?_of_not_fits outside]
          exact List.mem_cons_of_mem _ List.mem_cons_self
  | scale child method size ratio =>
      rw [gap?] at reason
      split at reason
      · next none =>
          cases reason
          rw [trace, Option.isNone_iff_eq_none.mp none]
          exact List.mem_cons_of_mem _ List.mem_cons_self
      · cases reason
  | mixer patterns weights =>
      rw [gap?] at reason
      split at reason
      · next uneven =>
          cases reason
          rw [trace, if_pos uneven]
          exact List.mem_cons_of_mem _ List.mem_cons_self
      · cases reason
  | _ => cases reason

/-- Nodes give up for the reasons that they have where they are drawn, and for no other. -/
theorem skips_mem_trace {pattern : Pattern} {now : Time} {scratch : Scratch} {strip : Strip}
    {gap : Gap} :
    .skips gap ∈ (trace pattern now scratch strip).notes ↔
      ∃ node length, .draws node length ∈ (trace pattern now scratch strip).notes ∧
        node.gap? length = some gap := by
  constructor
  · intro skipped
    obtain ⟨place, _, time, kept, part, _, long, within, reason⟩ := exists_owner skipped
    exact ⟨place.1, place.2, within (long ▸ draws_trace place.1 time kept part), reason⟩
  · rintro ⟨node, length, drawn, reason⟩
    obtain ⟨time, kept, part, long, within⟩ := exists_drawing drawn
    rw [← long] at reason
    exact within (skips_trace reason time kept)

end Pattern

end LightShow
