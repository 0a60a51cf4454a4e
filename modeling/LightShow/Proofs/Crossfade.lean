import LightShow.Proofs.Composed

/-! The two kinds of cross-fades. A transition goes once from one pattern to another, whose clock
starts with the fade; a loop goes around a list of patterns that share its clock. The one draws the
new pattern first and blends the old one over it, the other the old one first, and they look at the
ends of a fade in different ways; between patterns that do not move they show the same. -/

namespace LightShow

namespace Strip

theorem mix_zero (first second : Strip) : first.mix second 0 = first := by
  induction first generalizing second with
  | nil => cases second <;> rfl
  | cons pixel rest ih =>
      cases second with
      | nil => rfl
      | cons target targets => rw [mix, Color.blend_zero, ih]

theorem mix_eq_zipWith {first second : Strip} (same : first.length = second.length)
    (weight : Level) :
    first.mix second weight = List.zipWith (fun old new => old.blend new weight) first second := by
  induction first generalizing second with
  | nil => cases second <;> rfl
  | cons pixel rest ih =>
      cases second with
      | nil => cases same
      | cons target targets => rw [mix, List.zipWith_cons_cons, ih (Nat.succ.inj same)]

end Strip

namespace Blend

theorem weight_of_running (curve : Curve) {elapsed duration : Nat} (running : elapsed < duration) :
    ∃ progress : Progress, progress.toNat = elapsed * 65535 / duration ∧
      weight curve elapsed duration = curve.weight progress := by
  refine ⟨.through (.ofMillis elapsed) (.ofMillis duration), ?_, rfl⟩
  rw [Progress.through_of_running (by rwa [Time.millis_ofMillis, Time.millis_ofMillis]),
    Time.millis_ofMillis, Time.millis_ofMillis]

theorem weight_start (curve : Curve) (duration : Nat) : weight curve 0 duration = 0 := by
  rcases Nat.eq_zero_or_pos duration with rfl | positive
  · exact curve.weight_zero
  · obtain ⟨progress, part, same⟩ := weight_of_running curve positive
    rw [Nat.zero_mul, Nat.zero_div] at part
    have start : progress = 0 := UInt16.toNat_inj.mp part
    rw [same, start, Curve.weight_zero]

end Blend

namespace Pattern

/-- A child that draws every pixel shows its picture; without a child the strip stays. -/
theorem renderChild_eq_picture {child : Option Pattern} {length : Nat}
    (full : ∀ inner ∈ child, inner.FullyDraws length) (now : Time) (scratch : Scratch)
    {strip : Strip} (same : strip.length = length) :
    (renderChild child now scratch strip).1 =
      (child.map fun inner => inner.picture length now).getD strip := by
  cases child with
  | none => rfl
  | some inner => exact (settled_of_fullyDraws inner (full inner rfl)).render_eq now scratch same

section Timeline

variable {before after : Option Pattern} {offset duration : UInt64} {curve : Curve} {now : Time}
  {strip : Strip} (scratch : Scratch)

theorem transition_waiting (full : ∀ inner ∈ before, inner.FullyDraws strip.length)
    (early : now.millis ≤ offset.toNat) :
    (render (.transition before after offset duration curve) now scratch strip).1 =
      (before.map fun inner => inner.picture strip.length now).getD strip := by
  rw [render_transition, if_pos early]
  exact renderChild_eq_picture full now _ rfl

/-- Past its offset a fade shows the pattern after it if the fade is over, and also if there is no
pattern from which to fade. -/
theorem transition_passed (full : ∀ inner ∈ after, inner.FullyDraws strip.length)
    (begun : offset.toNat < now.millis)
    (alone : fadeEnd offset duration ≤ now.millis ∨ before = none) :
    (render (.transition before after offset duration curve) now scratch strip).1 =
      (after.map fun inner =>
        inner.picture strip.length (now.since offset.toNat)).getD strip := by
  rw [render_transition, if_neg (Nat.not_le_of_lt begun),
    ← renderChild_eq_picture full (now.since offset.toNat) (scratch.child 1) rfl]
  cases after with
  | none => rfl
  | some target =>
      rw [Option.isNone_some, if_neg Bool.false_ne_true]
      dsimp only
      split
      · rfl
      · next running =>
          rw [alone.resolve_left running]
          rfl

/-- Between two patterns the fade shows their blend. -/
theorem transition_fading {source target : Pattern} (sourceFull : source.FullyDraws strip.length)
    (targetFull : target.FullyDraws strip.length) (begun : offset.toNat < now.millis)
    (running : now.millis < fadeEnd offset duration) :
    (render (.transition (some source) (some target) offset duration curve) now scratch strip).1 =
      List.zipWith (fun old new =>
          old.blend new (Blend.weight curve (now.millis - offset.toNat) duration.toNat))
        (source.picture strip.length now)
        (target.picture strip.length (now.since offset.toNat)) := by
  have sourceSettled := settled_of_fullyDraws source sourceFull
  have targetSettled := settled_of_fullyDraws target targetFull
  rw [(sourceSettled.transition targetSettled offset duration curve).render_eq now scratch rfl,
    picture_transition sourceSettled targetSettled, if_neg (Nat.not_le_of_lt begun),
    if_neg (Nat.not_le_of_lt running)]
  exact Strip.mix_eq_zipWith (length_picture_eq ..) _

theorem elapsed_of_running (begun : offset.toNat < now.millis)
    (running : now.millis < fadeEnd offset duration) :
    now.millis - offset.toNat < duration.toNat := by
  unfold fadeEnd at running
  omega

end Timeline

/-- A transition follows its timeline, with either of its patterns or without: until `offset` it
shows the pattern before it, from the end of the fade on the pattern after it, on the clock that
starts with the fade, and in between every pixel is the blend of both pictures by the part of
the fade that has passed. Without a pattern before it there is no fade, and without one after it
the strip stays as it is. -/
theorem transition_follows_timeline (before after : Option Pattern) (offset duration : UInt64)
    (curve : Curve) (now : Time) (scratch : Scratch) {strip : Strip}
    (beforeFull : ∀ inner ∈ before, inner.FullyDraws strip.length)
    (afterFull : ∀ inner ∈ after, inner.FullyDraws strip.length) :
    let millis := now.millis
    let finish := min (offset.toNat + duration.toNat) most
    let first := before.map fun inner => inner.picture strip.length now
    let second := after.map fun inner =>
      inner.picture strip.length (.ofMillis (millis - offset.toNat))
    let shown := (render (.transition before after offset duration curve) now scratch strip).1
    (millis ≤ offset.toNat → shown = first.getD strip) ∧
      (offset.toNat < millis → after = none → shown = strip) ∧
      (offset.toNat < millis → finish ≤ millis ∨ before = none → shown = second.getD strip) ∧
      ∀ old ∈ first, ∀ new ∈ second, offset.toNat < millis → millis < finish →
        ∃ progress : Progress,
          progress.toNat = (millis - offset.toNat) * 65535 / duration.toNat ∧
          shown = List.zipWith (fun pixel target => pixel.blend target (curve.weight progress))
            old new := by
  intro millis finish first second shown
  refine ⟨transition_waiting scratch beforeFull, fun begun absent => ?_,
    transition_passed scratch afterFull, ?_⟩
  · subst absent
    exact congrArg Prod.fst ((render_transition ..).trans (if_neg (Nat.not_le_of_lt begun)))
  · intro old shownOld new shownNew begun running
    obtain ⟨source, rfl, rfl⟩ := Option.map_eq_some_iff.mp shownOld
    obtain ⟨target, rfl, rfl⟩ := Option.map_eq_some_iff.mp shownNew
    obtain ⟨progress, part, weight⟩ :=
      Blend.weight_of_running curve (elapsed_of_running begun running)
    refine ⟨progress, part, ?_⟩
    rw [← weight]
    exact transition_fading scratch (beforeFull source rfl) (afterFull target rfl) begun running

/-- A turning pattern that fades into a blue one, after a third of the fade. -/
theorem transition_follows_timeline_third :
    let before : Pattern := .rotate (some (.repeated [⟨255, 0, 0⟩, ⟨0, 60, 0⟩])) 1.0
    let after : Pattern := .color ⟨0, 0, 255⟩
    let traces : Scratch := .node [[⟨7, 7, 7⟩, ⟨7, 7, 7⟩]] []
    let shown := (render (.transition (some before) (some after) 1000 3000 .linear)
      (.ofMillis 2000) traces (Strip.dark 3)).1
    before.FullyDraws 3 ∧ after.FullyDraws 3 ∧
      shown = [⟨0, 40, 85⟩, ⟨170, 0, 85⟩, ⟨170, 0, 85⟩] := by
  intro before after traces shown
  have beforeFull : before.FullyDraws 3 := by decide
  have afterFull : after.FullyDraws 3 := by decide
  have everyBefore : ∀ inner ∈ some before, inner.FullyDraws (Strip.dark 3).length := by
    rintro inner ⟨⟩
    exact beforeFull
  have everyAfter : ∀ inner ∈ some after, inner.FullyDraws (Strip.dark 3).length := by
    rintro inner ⟨⟩
    exact afterFull
  obtain ⟨-, -, -, fading⟩ := transition_follows_timeline (some before) (some after) 1000 3000
    .linear (.ofMillis 2000) traces everyBefore everyAfter
  obtain ⟨progress, part, blended⟩ := fading _ rfl _ rfl (by decide) (by decide)
  have third : progress = 21845 := UInt16.toNat_inj.mp part
  rw [third] at blended
  exact ⟨beforeFull, afterFull, blended.trans (by decide)⟩

/-- A tree that shows the same at all times. -/
def Still (pattern : Pattern) (length : Nat) : Prop :=
  ∀ now later : Time, pattern.picture length now = pattern.picture length later

section Loop

variable {patterns : List Pattern} {length : Nat} {hold fade : UInt64} {now : Time}

theorem exists_turned (present : patterns ≠ []) (turn : Nat) :
    ∃ pattern, patterns[turn % patterns.length]? = some pattern :=
  ⟨_, List.getElem?_eq_getElem (Nat.mod_lt turn (List.length_pos_iff.mpr present))⟩

/-- Where a loop is in its list and in its turn, from the time in whole turns and the rest. -/
theorem loop_turn {turn rest : Nat} (fits : hold.toNat + fade.toNat ≤ most)
    (reached : now.millis = turn * (hold.toNat + fade.toNat) + rest)
    (short : rest < hold.toNat + fade.toNat) (count : Nat) :
    loopPeriod hold fade = hold.toNat + fade.toNat ∧
      loopIndex count hold fade now = turn % count ∧ now.millis % loopPeriod hold fade = rest := by
  have period : loopPeriod hold fade = hold.toNat + fade.toNat := Nat.min_eq_left fits
  have turned : now.millis / (hold.toNat + fade.toNat) = turn := by
    rw [reached, Nat.add_comm, Nat.add_mul_div_right _ _ (by omega), Nat.div_eq_of_lt short,
      Nat.zero_add]
  have offset : now.millis % (hold.toNat + fade.toNat) = rest := by
    rw [reached, Nat.add_comm, Nat.add_mul_mod_self_right, Nat.mod_eq_of_lt short]
  refine ⟨period, ?_, by rw [period, offset]⟩
  rw [loopIndex, period, if_neg (by omega), turned]

/-- A loop shows one pattern, from the end of the fade into it to the beginning of the fade into
the next one, and then the blend of both. -/
theorem picture_loop (settled : ∀ child ∈ patterns, Settled child length) (curve : Curve)
    {turn rest : Nat} (fits : hold.toNat + fade.toNat ≤ most)
    (reached : now.millis = turn * (hold.toNat + fade.toNat) + rest)
    (short : rest < hold.toNat + fade.toNat) {current next : Pattern}
    (shown : patterns[turn % patterns.length]? = some current)
    (following : patterns[(turn + 1) % patterns.length]? = some next) :
    (Pattern.loop patterns hold fade curve).picture length now =
      if rest ≤ hold.toNat then current.picture length now
      else (current.picture length now).mix (next.picture length now)
        (Blend.weight curve (rest - hold.toNat) fade.toNat) := by
  obtain ⟨period, index, offset⟩ := loop_turn fits reached short patterns.length
  have second : (turn % patterns.length + 1) % patterns.length = (turn + 1) % patterns.length :=
    Nat.mod_add_mod turn patterns.length 1
  rw [← index] at shown second
  by_cases fading : loopFades hold fade now
  · rw [← second] at following
    rw [picture_loop_of_fading settled fading shown following, loopWeight, offset]
    split
    · next early =>
        -- The fade begins with the pattern that was shown.
        have begins : rest = hold.toNat := Nat.le_antisymm early (offset ▸ fading.2)
        rw [begins, Nat.sub_self, Blend.weight_start, Strip.mix_zero]
    · rfl
  · have held : rest < hold.toNat :=
      Nat.lt_of_not_le fun late => fading ⟨by omega, offset.symm ▸ late⟩
    rw [picture_loop_of_resting settled fading shown, if_pos (Nat.le_of_lt held)]

/-- Between patterns that do not move, a turn of a loop looks like a transition. -/
theorem picture_loop_eq_transition (settled : ∀ child ∈ patterns, Settled child length)
    (still : ∀ child ∈ patterns, child.Still length) (curve : Curve) (lasting : 1 ≤ fade.toNat)
    (fits : hold.toNat + fade.toNat ≤ most) {turn : Nat} {moment : Time}
    (within : moment.millis ≤ hold.toNat + fade.toNat)
    (reached : now.millis = turn * (hold.toNat + fade.toNat) + moment.millis)
    {current next : Pattern} (shown : patterns[turn % patterns.length]? = some current)
    (following : patterns[(turn + 1) % patterns.length]? = some next) :
    (Pattern.loop patterns hold fade curve).picture length now =
      (Pattern.transition (some current) (some next) hold fade curve).picture length moment := by
  have currentMember := List.mem_of_getElem? shown
  have nextMember := List.mem_of_getElem? following
  have currentStill := still current currentMember now moment
  have nextStill := still next nextMember now (moment.since hold.toNat)
  have ended : fadeEnd hold fade = hold.toNat + fade.toNat := Nat.min_eq_left fits
  rw [picture_transition (settled current currentMember) (settled next nextMember), ended]
  rcases Nat.lt_or_eq_of_le within with short | full
  · rw [picture_loop settled curve fits reached short shown following, currentStill, nextStill]
    split
    · rfl
    · rw [if_neg (by omega)]
  · -- At its end the turn is the beginning of the next one.
    have wrapped : now.millis = (turn + 1) * (hold.toNat + fade.toNat) + 0 := by
      rw [reached, full, Nat.add_one_mul, Nat.add_zero]
    obtain ⟨later, behind⟩ := exists_turned (List.ne_nil_of_mem nextMember) (turn + 1 + 1)
    rw [picture_loop settled curve fits wrapped (by omega) following behind, nextStill,
      if_pos (Nat.zero_le _), if_neg (by omega), if_pos (by omega)]

end Loop

/-- Between patterns that do not move, every turn of a loop, with both of its ends, shows what a
transition shows from one of them to the next one that holds and fades for as long. -/
theorem loop_eq_transition {patterns : List Pattern} {length : Nat} (present : patterns ≠ [])
    (full : ∀ child ∈ patterns, child.FullyDraws length)
    (still : ∀ child ∈ patterns, child.Still length) (curve : Curve) {hold fade : UInt64}
    (lasting : 1 ≤ fade.toNat) (fits : hold.toNat + fade.toNat ≤ most) (turn : Nat)
    {now moment : Time} (within : moment.millis ≤ hold.toNat + fade.toNat)
    (reached : now.millis = turn * (hold.toNat + fade.toNat) + moment.millis)
    (one other : Scratch) {left right : Strip} (leftLength : left.length = length)
    (rightLength : right.length = length) :
    (render (.loop patterns hold fade curve) now one left).1 =
      (render (.transition patterns[turn % patterns.length]? patterns[(turn + 1) % patterns.length]?
        hold fade curve) moment other right).1 := by
  have settled : ∀ child ∈ patterns, Settled child length :=
    fun child member => settled_of_fullyDraws child (full child member)
  obtain ⟨current, shown⟩ := exists_turned present turn
  obtain ⟨next, following⟩ := exists_turned present (turn + 1)
  have currentSettled := settled current (List.mem_of_getElem? shown)
  have nextSettled := settled next (List.mem_of_getElem? following)
  rw [shown, following]
  calc (render (.loop patterns hold fade curve) now one left).1
    _ = (Pattern.loop patterns hold fade curve).picture length now :=
        (Settled.loop present settled hold fade curve).render_eq now one leftLength
    _ = (Pattern.transition (some current) (some next) hold fade curve).picture length moment :=
        picture_loop_eq_transition settled still curve lasting fits within reached shown following
    _ = _ :=
        ((currentSettled.transition nextSettled hold fade curve).render_eq moment other
          rightLength).symm

/-- The sixth turn of a loop, halfway through its fade from the last pattern to the first. -/
theorem loop_eq_transition_wrapped :
    let red : Pattern := .color ⟨255, 0, 0⟩
    let slope : Pattern := .gradient (some red) (some .rainbow) .linear
    let stripes : Pattern := .scale (some (.repeated [⟨0, 90, 0⟩, ⟨0, 0, 90⟩])) .nearest 7 0.0
    let patterns := [red, slope, stripes]
    (∀ child ∈ patterns, child.FullyDraws 4) ∧ (∀ child ∈ patterns, child.Still 4) ∧
      (render (.loop patterns 1000 500 .ease) (.ofMillis 8750) .fresh (Strip.dark 4)).1 =
        (render (.transition (some stripes) (some red) 1000 500 .ease) (.ofMillis 1250) .fresh
          (Strip.dark 4)).1 := by
  intro red slope stripes patterns
  have full : ∀ child ∈ patterns, child.FullyDraws 4 := by decide
  have still : ∀ child ∈ patterns, child.Still 4 := by
    intro child member
    simp only [patterns, List.mem_cons, List.not_mem_nil, or_false] at member
    rcases member with rfl | rfl | rfl
    · exact fun _ _ => rfl
    · exact fun _ _ => rfl
    · exact fun _ _ => rfl
  have lasting : 1 ≤ (500 : UInt64).toNat := by decide
  have fits : (1000 : UInt64).toNat + (500 : UInt64).toNat ≤ most := by decide
  have within : (Time.ofMillis 1250).millis ≤ (1000 : UInt64).toNat + (500 : UInt64).toNat := by
    decide
  have reached : (Time.ofMillis 8750).millis =
      5 * ((1000 : UInt64).toNat + (500 : UInt64).toNat) + (Time.ofMillis 1250).millis := by decide
  have count : patterns.length = 3 := rfl
  have dark : (Strip.dark 4).length = 4 := rfl
  have same := loop_eq_transition (List.cons_ne_nil _ _) full still .ease lasting fits 5 within
    reached .fresh .fresh dark dark
  rw [count] at same
  exact ⟨full, still, same⟩

end Pattern

end LightShow
