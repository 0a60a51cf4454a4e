import LightShow.Proofs.Composed

/-! Combinators that have a single pattern to combine. To take turns with itself, to fade into
itself, to be blended with a copy of itself, to be cropped to the whole strip or scaled to its
length leaves a pattern that draws every pixel as it is. -/

namespace LightShow

theorem Strip.mix_self (strip : Strip) (weight : Level) : strip.mix strip weight = strip := by
  induction strip with
  | nil => rfl
  | cons pixel rest ih => rw [mix, Color.blend_self, ih]

theorem Blend.gradient_self (curve : Curve) (strip : Strip) :
    gradient curve strip strip = strip := by
  have size := length_along (slope curve strip.length) (rfl : strip.length = strip.length)
  rw [gradient_eq_along]
  apply List.ext_getElem size
  intro pixel inside held
  rw [getElem_along inside held held, Color.blend_self]

namespace Pattern

/-- Trees on a strip of some length whose combinators have nothing but copies of one pattern to
combine. -/
inductive Solo (length : Nat) (pattern : Pattern) : Pattern → Prop
  | self : Solo length pattern pattern
  | cycle {inner : Pattern} (solo : Solo length pattern inner) (duration : UInt64) :
      Solo length pattern (.cycle [inner] duration)
  | loop {inner : Pattern} (solo : Solo length pattern inner) (hold fade : UInt64)
      (curve : Curve) : Solo length pattern (.loop [inner] hold fade curve)
  | gradient {left right : Pattern} (first : Solo length pattern left)
      (second : Solo length pattern right) (curve : Curve) :
      Solo length pattern (.gradient (some left) (some right) curve)
  | crop {inner : Pattern} (solo : Solo length pattern inner) {segment : Segment}
      (starts : segment.start.toNat = 0) (stops : segment.stop.toNat = length) :
      Solo length pattern (.crop (some inner) segment)
  | scale {inner : Pattern} (solo : Solo length pattern inner) (method : Sampling) {size : UInt64}
      (exact : size.toNat = length) (ratio : Float32) :
      Solo length pattern (.scale (some inner) method size ratio)

theorem cycleIndex_one (duration : UInt64) (now : Time) : cycleIndex 1 duration now = 0 :=
  Nat.lt_one_iff.mp (cycleIndex_lt Nat.one_pos duration now)

theorem loopIndex_one (hold fade : UInt64) (now : Time) : loopIndex 1 hold fade now = 0 :=
  Nat.lt_one_iff.mp (loopIndex_lt Nat.one_pos hold fade now)

theorem scaledLength?_of_exact {length : Nat} {size : UInt64} (positive : 0 < length)
    (exact : size.toNat = length) (ratio : Float32) :
    scaledLength? size ratio length = some length := by
  have given : size ≠ 0 := by
    rintro rfl
    exact absurd exact (Nat.ne_of_lt positive)
  rw [scaledLength?, if_pos given, exact]

/-- A loop of one pattern shows it, whether it rests or fades into itself. -/
theorem picture_loop_one {inner : Pattern} {length : Nat} (settled : Settled inner length)
    (hold fade : UInt64) (curve : Curve) (now : Time) :
    (Pattern.loop [inner] hold fade curve).picture length now = inner.picture length now := by
  have each : ∀ child ∈ [inner], Settled child length := by
    intro child present
    rwa [List.mem_singleton.mp present]
  have shown : [inner][loopIndex [inner].length hold fade now]? = some inner :=
    congrArg ([inner][·]?) (loopIndex_one hold fade now)
  by_cases fading : loopFades hold fade now
  · have following : [inner][(loopIndex [inner].length hold fade now + 1) % [inner].length]? =
        some inner := congrArg ([inner][·]?) (Nat.mod_one _)
    rw [picture_loop_of_fading each fading shown following, Strip.mix_self]
  · exact picture_loop_of_resting each fading shown

namespace Solo

variable {length : Nat} {pattern tree : Pattern}

theorem settled (positive : 0 < length) (alone : Settled pattern length)
    (solo : Solo length pattern tree) : Settled tree length := by
  induction solo with
  | self => exact alone
  | cycle solo duration ih => exact .cycle (List.cons_ne_nil _ _) (by simpa using ih) duration
  | loop solo hold fade curve ih =>
      exact .loop (List.cons_ne_nil _ _) (by simpa using ih) hold fade curve
  | gradient first second curve firstSettled secondSettled =>
      exact .gradient firstSettled secondSettled curve
  | crop solo starts stops ih => exact .crop starts stops ih
  | scale solo method exact ratio ih =>
      exact .scale (scaledLength?_of_exact positive exact ratio) id ih

theorem picture_eq (positive : 0 < length) (alone : Settled pattern length)
    (solo : Solo length pattern tree) (now : Time) :
    tree.picture length now = pattern.picture length now := by
  induction solo with
  | self => rfl
  | @cycle inner solo duration ih =>
      have each : ∀ child ∈ [inner], Settled child length := by
        simpa using solo.settled positive alone
      have shown : [inner][cycleIndex [inner].length duration now]? = some inner :=
        congrArg ([inner][·]?) (cycleIndex_one duration now)
      rw [picture_cycle now each shown, ih]
  | loop solo hold fade curve ih =>
      rw [picture_loop_one (solo.settled positive alone), ih]
  | gradient first second curve firstSame secondSame =>
      rw [picture_gradient now positive (first.settled positive alone)
        (second.settled positive alone), firstSame, secondSame, Blend.gradient_self]
  | crop solo starts stops ih =>
      rw [picture_crop now starts stops (solo.settled positive alone), ih]
  | @scale inner solo method size exact ratio ih =>
      have size : (pattern.picture length now).length = (Strip.dark length).length := by
        rw [length_picture, Strip.length_dark]
      rw [picture_scale now (scaledLength?_of_exact positive exact ratio)
        (solo.settled positive alone), ih, Sampling.resample_of_length method size]

end Solo

/-- Where combinators have nothing but copies of one pattern to combine, and that pattern draws
every pixel, they show exactly what it shows: in whatever way they are nested, with any durations,
curves and methods, at any time and from any scratch and strip. -/
theorem render_of_solo {pattern tree : Pattern} {length : Nat} (positive : 0 < length)
    (full : pattern.FullyDraws length) (solo : Solo length pattern tree) (now : Time)
    (one other : Scratch) {left right : Strip} (leftLength : left.length = length)
    (rightLength : right.length = length) :
    (tree.render now one left).1 = (pattern.render now other right).1 := by
  have alone := settled_of_fullyDraws pattern full
  calc (tree.render now one left).1
    _ = tree.picture length now := (solo.settled positive alone).render_eq now one leftLength
    _ = pattern.picture length now := solo.picture_eq positive alone now
    _ = (pattern.render now other right).1 := (alone.render_eq now other rightLength).symm

/-- A turning pattern in the middle of a fade into itself, beside a copy of itself that is scaled to
the length of the strip and cropped to it. -/
theorem render_of_solo_nested :
    let stripes : Pattern := .rotate (some (.repeated [⟨255, 0, 0⟩, ⟨0, 90, 0⟩, ⟨0, 0, 7⟩])) 1.0
    let fading : Pattern := .loop [.cycle [stripes] 300] 500 1000 .linear
    let part : Pattern := .crop (some (.scale (some stripes) .linear 4 0.5)) ⟨0, 4⟩
    let tree : Pattern := .gradient (some fading) (some part) .linear
    let traces : Scratch := .node [[⟨9, 9, 9⟩, ⟨9, 9, 9⟩]] [.node [[⟨8, 8, 8⟩]] []]
    stripes.FullyDraws 4 ∧ Solo 4 stripes tree ∧
      (tree.render (.ofMillis 1000) traces (Strip.dark 4)).1 =
        [⟨255, 0, 0⟩, ⟨255, 0, 0⟩, ⟨0, 90, 0⟩, ⟨0, 0, 7⟩] := by
  intro stripes fading part tree traces
  have full : stripes.FullyDraws 4 := by decide
  have first : Solo 4 stripes fading := .loop (.cycle .self 300) 500 1000 .linear
  have four : (4 : UInt64).toNat = 4 := rfl
  have scaled : Solo 4 stripes (.scale (some stripes) .linear 4 0.5) :=
    .scale .self .linear four 0.5
  have second : Solo 4 stripes part := .crop scaled rfl four
  have solo : Solo 4 stripes tree := .gradient first second .linear
  refine ⟨full, solo, (render_of_solo (by decide) full solo (.ofMillis 1000) traces .fresh
    (Strip.length_dark 4) (Strip.length_dark 4)).trans ?_⟩
  decide

end Pattern

end LightShow
