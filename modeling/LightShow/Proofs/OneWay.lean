import LightShow.Proofs.Crossfade

/-! Cross-fades go one way. Between patterns that do not move, no channel of a pixel ever turns back
on its way from the one to the other, through the rounding of the time that has passed, of the
curve and of the blend, and at both ends nothing but one of the patterns is seen. -/

namespace LightShow

namespace Curve

/-- The curves that ease along a cubic; the others are a line and steps. -/
def Smooth (curve : Curve) : Prop := curve ∈ [.ease, .easeIn, .easeOut, .easeInOut]

instance (curve : Curve) : Decidable curve.Smooth := inferInstanceAs (Decidable (_ ∈ _))

/-- A curve that never falls. -/
def Rises (curve : Curve) : Prop :=
  ∀ early late : Progress, early.toNat ≤ late.toNat →
    (curve.scale early).toNat ≤ (curve.scale late).toNat

/-- At its ends a curve is as low and as high as it can be. -/
theorem rises_of_between {curve : Curve}
    (rises : ∀ early late : Progress, early.toNat ≤ late.toNat →
      (curve.between early).toNat ≤ (curve.between late).toNat) : curve.Rises := by
  intro early late later
  have low := (curve.scale late).toNat_lt
  unfold scale
  by_cases begins : early = 0
  · rw [if_pos begins]
    exact Nat.zero_le _
  have started : ¬late = 0 := by
    rintro rfl
    exact begins (UInt16.toNat_inj.mp (Nat.le_zero.mp later))
  rw [if_neg begins, if_neg started]
  by_cases ended : late = 65535
  · rw [if_pos ended]
    exact Nat.le_of_lt_succ (UInt16.toNat_lt _)
  have running : ¬early = 65535 := by
    rintro rfl
    exact ended (UInt16.toNat_inj.mp (Nat.le_antisymm (Nat.le_of_lt_succ late.toNat_lt) later))
  rw [if_neg running, if_neg ended]
  exact rises early late later

theorem rises_of_not_smooth {curve : Curve} (plain : ¬curve.Smooth) : curve.Rises := by
  apply rises_of_between
  intro early late later
  cases curve with
  | ease | easeIn | easeOut | easeInOut => exact absurd (by decide) plain
  | linear => exact later
  | stepStart => exact Nat.le_refl _
  | stepEnd => exact Nat.le_refl _
  | stepMiddle =>
      change (if early < 32768 then 0 else 65535 : Progress).toNat ≤
        (if late < 32768 then 0 else 65535 : Progress).toNat
      split
      · exact Nat.zero_le _
      · next half =>
          have past : ¬late < 32768 := by
            rw [UInt16.lt_iff_toNat_lt] at half ⊢
            omega
          exact Nat.le_of_eq (congrArg UInt16.toNat (if_neg past).symm)

theorem weight_le_weight {curve : Curve} (rises : curve.Rises) {early late : Progress}
    (later : early.toNat ≤ late.toNat) :
    (curve.weight early).toNat ≤ (curve.weight late).toNat := by
  rw [weight, weight, Progress.level_toNat, Progress.level_toNat]
  exact Nat.div_le_div_right (rises early late later)

end Curve

theorem Progress.through_le_through {early late : Time} (later : early.millis ≤ late.millis)
    (duration : Time) : (through early duration).toNat ≤ (through late duration).toNat := by
  rcases Nat.eq_zero_or_pos duration.millis with empty | positive
  · have same : through early duration = through late duration :=
      (through_of_empty empty).trans (through_of_empty empty).symm
    exact Nat.le_of_eq (congrArg UInt16.toNat same)
  rcases Nat.lt_or_ge late.millis duration.millis with running | ended
  · rw [through_of_running running, through_of_running (Nat.lt_of_le_of_lt later running)]
    exact Nat.div_le_div_right (Nat.mul_le_mul_right 65535 later)
  · rw [through_of_over (Nat.ne_of_gt positive) ended]
    exact Nat.le_of_lt_succ (UInt16.toNat_lt _)

theorem Blend.weight_le_weight {curve : Curve} (rises : curve.Rises) {early late : Nat}
    (later : early ≤ late) (duration : Nat) :
    (weight curve early duration).toNat ≤ (weight curve late duration).toNat := by
  apply curve.weight_le_weight rises
  apply Progress.through_le_through
  rwa [Time.millis_ofMillis, Time.millis_ofMillis]

namespace Strip

theorem mix_full {first second : Strip} (same : first.length = second.length) :
    first.mix second 255 = second := by
  induction first generalizing second with
  | nil => exact (List.eq_nil_of_length_eq_zero same.symm).symm
  | cons pixel rest ih =>
      cases second with
      | nil => cases same
      | cons target targets => rw [mix, Color.blend_full, ih (Nat.succ.inj same)]

/-- A strip none of whose pixels is outside of those of two others. -/
structure Between (first second strip : Strip) : Prop where
  long : strip.length = first.length ∧ strip.length = second.length
  pixel : ∀ place : Nat, ∀ one ∈ first[place]?, ∀ other ∈ second[place]?, ∀ color ∈ strip[place]?,
    one.Between other color

theorem between_mix_of_le {first second : Strip} (same : first.length = second.length)
    {early late : Level} (later : early.toNat ≤ late.toNat) :
    Between (first.mix second early) second (first.mix second late) where
  long := by rw [length_mix, length_mix, same, and_self]
  pixel := by
    intro place one before other target color shown
    rw [mix_eq_zipWith same] at before shown
    obtain ⟨inside, rfl⟩ := List.getElem?_eq_some_iff.mp before
    obtain ⟨_, rfl⟩ := List.getElem?_eq_some_iff.mp shown
    obtain ⟨_, rfl⟩ := List.getElem?_eq_some_iff.mp target
    rw [List.getElem_zipWith, List.getElem_zipWith]
    exact Color.between_blend_of_le _ _ later

end Strip

/-- What is shown passes from one strip to another: until `start` it is the first, from `finish` on
it is the last, and at no time is a pixel further from the last than it was before. -/
structure Passes (shown : (millis : Nat) → Strip → Prop) (first last : Strip)
    (start finish : Nat) : Prop where
  waiting : ∀ millis ≤ start, ∀ strip, shown millis strip → strip = first
  passed : ∀ millis, finish ≤ millis → ∀ strip, shown millis strip → strip = last
  onward : ∀ early late, early ≤ late → ∀ one other, shown early one → shown late other →
    Strip.Between one last other

/-- A blend passes from one strip to another if its weight grows from 0 to 255. -/
theorem Passes.of_mix {shown : Nat → Strip → Prop} {first last : Strip} {start finish : Nat}
    (same : first.length = last.length) (weight : Nat → Level)
    (blended : ∀ millis strip, shown millis strip → strip = first.mix last (weight millis))
    (none : ∀ millis ≤ start, weight millis = 0)
    (full : ∀ millis, finish ≤ millis → weight millis = 255)
    (grows : ∀ early late, early ≤ late → (weight early).toNat ≤ (weight late).toNat) :
    Passes shown first last start finish where
  waiting := by
    intro millis early strip drawn
    rw [blended millis strip drawn, none millis early, Strip.mix_zero]
  passed := by
    intro millis late strip drawn
    rw [blended millis strip drawn, full millis late, Strip.mix_full same]
  onward := by
    intro early late later one other before after
    rw [blended early one before, blended late other after]
    exact Strip.between_mix_of_le same (grows early late later)

namespace Pattern

/-- What a drawing at a millisecond can leave on a strip, from any scratch and whatever the strip
held before. -/
def Drawable (pattern : Pattern) (length millis : Nat) (shown : Strip) : Prop :=
  ∃ (now : Time) (scratch : Scratch) (strip : Strip), now.millis = millis ∧ strip.length = length ∧
    (pattern.render now scratch strip).1 = shown

/-- A pattern that draws every pixel and shows the same at all times. -/
structure Fixed (pattern : Pattern) (length : Nat) : Prop where
  full : pattern.FullyDraws length
  still : pattern.Still length

theorem Fixed.settled {pattern : Pattern} {length : Nat} (fixed : pattern.Fixed length) :
    Settled pattern length := settled_of_fullyDraws pattern fixed.full

section Fade

variable {before after : Pattern} {offset duration : UInt64} {curve : Curve} {length : Nat}

/-- How far a fade has come at a millisecond, as the weight of the pattern after it. -/
def fadeReached (offset duration : UInt64) (curve : Curve) (millis : Nat) : Level :=
  if millis ≤ offset.toNat then 0
  else if fadeEnd offset duration ≤ millis then 255
  else Blend.weight curve (millis - offset.toNat) duration.toNat

theorem fadeReached_of_over (lasting : 1 ≤ duration.toNat) {millis : Nat}
    (passed : offset.toNat + duration.toNat ≤ millis) :
    fadeReached offset duration curve millis = 255 := by
  have ended : fadeEnd offset duration ≤ millis := Nat.le_trans (Nat.min_le_left ..) passed
  rw [fadeReached, if_neg (by omega), if_pos ended]

theorem fadeReached_le_fadeReached (rises : curve.Rises) {early late : Nat} (later : early ≤ late) :
    (fadeReached offset duration curve early).toNat ≤
      (fadeReached offset duration curve late).toNat := by
  unfold fadeReached
  by_cases waiting : early ≤ offset.toNat
  · rw [if_pos waiting]
    exact Nat.zero_le _
  rw [if_neg waiting, if_neg (show ¬late ≤ offset.toNat by omega)]
  by_cases passed : fadeEnd offset duration ≤ late
  · rw [if_pos passed]
    exact Nat.le_of_lt_succ (UInt8.toNat_lt _)
  · rw [if_neg passed, if_neg (by omega)]
    exact Blend.weight_le_weight rises (by omega) _

/-- What blends two strips as far as a fade has come passes from one to the other with it. -/
theorem passes_of_fade (rises : curve.Rises) (lasting : 1 ≤ duration.toNat)
    {shown : Nat → Strip → Prop} {first last : Strip} (same : first.length = last.length)
    (blended : ∀ millis strip, shown millis strip →
      strip = first.mix last (fadeReached offset duration curve millis)) :
    Passes shown first last offset.toNat (offset.toNat + duration.toNat) :=
  .of_mix same (fadeReached offset duration curve) blended (fun _ waiting => if_pos waiting)
    (fun _ passed => fadeReached_of_over lasting passed)
    fun _ _ later => fadeReached_le_fadeReached rises later

/-- At every time a fade between patterns that do not move is their blend, as far as it has come. -/
theorem picture_transition_fixed (first : before.Fixed length) (second : after.Fixed length)
    (offset duration : UInt64) (curve : Curve) (now moment : Time) :
    (Pattern.transition (some before) (some after) offset duration curve).picture length moment =
      (before.picture length now).mix (after.picture length now)
        (fadeReached offset duration curve moment.millis) := by
  rw [picture_transition first.settled second.settled, first.still moment now,
    second.still (moment.since offset.toNat) now, fadeReached]
  split
  · rw [Strip.mix_zero]
  split
  · rw [Strip.mix_full (length_picture_eq ..)]
  · rfl

end Fade

/-- Cross-fades between patterns that do not move go one way. A transition passes from the pattern
before it to the pattern after it from its offset to its end, and each turn of a loop passes from
one of its patterns to the next in the time in which it fades. This holds of every curve that never
falls; of a smooth curve that has to be known. -/
theorem crossfades_pass {curve : Curve} (rises : curve.Smooth → curve.Rises) (length : Nat)
    (now : Time) :
    (∀ (before after : Pattern) (offset duration : UInt64), before.Fixed length →
      after.Fixed length → 1 ≤ duration.toNat →
        Passes
          ((Pattern.transition (some before) (some after) offset duration curve).Drawable length)
          (before.picture length now) (after.picture length now) offset.toNat
          (offset.toNat + duration.toNat)) ∧
    ∀ (patterns : List Pattern) (hold fade : UInt64), (∀ child ∈ patterns, child.Fixed length) →
      1 ≤ fade.toNat → hold.toNat + fade.toNat ≤ most → ∀ turn : Nat,
        ∀ current ∈ patterns[turn % patterns.length]?,
        ∀ next ∈ patterns[(turn + 1) % patterns.length]?,
          Passes
            (fun rest strip => rest ≤ hold.toNat + fade.toNat ∧
              (Pattern.loop patterns hold fade curve).Drawable length
                (turn * (hold.toNat + fade.toNat) + rest) strip)
            (current.picture length now) (next.picture length now) hold.toNat
            (hold.toNat + fade.toNat) := by
  have grows : curve.Rises := by
    by_cases smooth : curve.Smooth
    · exact rises smooth
    · exact Curve.rises_of_not_smooth smooth
  constructor
  · intro before after offset duration first second lasting
    have settled := first.settled.transition second.settled offset duration curve
    apply passes_of_fade grows lasting (length_picture_eq ..)
    rintro millis shown ⟨moment, scratch, strip, rfl, size, rfl⟩
    rw [settled.render_eq moment scratch size, picture_transition_fixed first second]
  · intro patterns hold fade fixed lasting fits turn current shown next following
    have first := fixed current (List.mem_of_getElem? shown)
    have second := fixed next (List.mem_of_getElem? following)
    have settled : ∀ child ∈ patterns, Settled child length :=
      fun child member => (fixed child member).settled
    have present : patterns ≠ [] := List.ne_nil_of_mem (List.mem_of_getElem? shown)
    apply passes_of_fade grows lasting (length_picture_eq ..)
    rintro rest drawn ⟨within, moment, scratch, strip, reached, size, rfl⟩
    have clock : (Time.ofMillis rest).millis = rest := Time.millis_ofMillis rest
    rw [← clock] at within reached
    calc ((Pattern.loop patterns hold fade curve).render moment scratch strip).1
      _ = (Pattern.loop patterns hold fade curve).picture length moment :=
          (Settled.loop present settled hold fade curve).render_eq moment scratch size
      _ = (Pattern.transition (some current) (some next) hold fade curve).picture length
            (.ofMillis rest) :=
          picture_loop_eq_transition settled (fun child member => (fixed child member).still)
            curve lasting fits within reached shown following
      _ = _ := by rw [picture_transition_fixed first second hold fade curve now, clock]

/-- A transition from red to stripes, and the sixth turn of a loop, in which the stripes fade back
to red: after a fifth of the fade and after three. -/
theorem crossfades_pass_stripes :
    let red : Pattern := .color ⟨255, 0, 0⟩
    let stripes : Pattern := .repeated [⟨0, 90, 0⟩, ⟨0, 0, 90⟩]
    let loop : Pattern := .loop [red, stripes] 1000 500 .linear
    let shown := fun millis => (loop.render (.ofMillis millis) .fresh (Strip.dark 2)).1
    red.Fixed 2 ∧ stripes.Fixed 2 ∧ (Curve.linear.Smooth → Curve.linear.Rises) ∧
      (1 ≤ (500 : UInt64).toNat ∧ (1000 : UInt64).toNat + (500 : UInt64).toNat ≤ most) ∧
      Passes ((Pattern.transition (some red) (some stripes) 1000 500 .linear).Drawable 2)
        (red.picture 2 ⟨0⟩) (stripes.picture 2 ⟨0⟩) 1000 1500 ∧
      shown 8600 = [⟨51, 72, 0⟩, ⟨51, 0, 72⟩] ∧ shown 8800 = [⟨153, 36, 0⟩, ⟨153, 0, 36⟩] ∧
      Strip.Between (shown 8600) (red.picture 2 ⟨0⟩) (shown 8800) := by
  intro red stripes loop shown
  have first : red.Fixed 2 := ⟨by decide, fun _ _ => rfl⟩
  have second : stripes.Fixed 2 := ⟨by decide, fun _ _ => rfl⟩
  have rises : Curve.linear.Smooth → Curve.linear.Rises := fun smooth => absurd smooth (by decide)
  have lasting : 1 ≤ (500 : UInt64).toNat := by decide
  have fits : (1000 : UInt64).toNat + (500 : UInt64).toNat ≤ most := by decide
  have fixed : ∀ child ∈ [red, stripes], child.Fixed 2 := by
    intro child member
    simp only [List.mem_cons, List.not_mem_nil, or_false] at member
    rcases member with rfl | rfl
    · exact first
    · exact second
  obtain ⟨fades, turns⟩ := crossfades_pass rises 2 ⟨0⟩
  have turn := turns [red, stripes] 1000 500 fixed lasting fits 5 stripes (by simp) red (by simp)
  refine ⟨first, second, rises, ⟨lasting, fits⟩,
    fades red stripes 1000 500 first second lasting, by decide, by decide, ?_⟩
  exact turn.onward 1100 1300 (by decide) _ _ ⟨by decide, _, _, _, rfl, rfl, rfl⟩
    ⟨by decide, _, _, _, rfl, rfl, rfl⟩

end Pattern

end LightShow
