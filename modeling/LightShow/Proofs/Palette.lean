import LightShow.Proofs.Composed
import LightShow.Proofs.Parts
import LightShow.Proofs.Trail
import Mathlib.Tactic.MkIffOfInductiveProp

/-! No drawing leaves its palette. Where a palette has with two colors all their blends, as the
colors within some bounds have, a tree of leaves in such a palette shows nothing else: to fade, to
turn, to bounce and to resample makes no color that was not between others. -/

namespace LightShow

/-- With two colors a palette has all their blends. -/
def Blend.Closed (palette : Color → Prop) : Prop :=
  ∀ first second weight, palette first → palette second → palette (first.blend second weight)

/-- Every pixel has a color of a palette. -/
def Strip.Uses (palette : Color → Prop) (strip : Strip) : Prop := ∀ color ∈ strip, palette color

/-- A color none of whose channels is out of its bounds. -/
@[mk_iff]
structure Color.Within (low high color : Color) : Prop where
  red : low.red ≤ color.red ∧ color.red ≤ high.red
  green : low.green ≤ color.green ∧ color.green ≤ high.green
  blue : low.blue ≤ color.blue ∧ color.blue ≤ high.blue

instance (low high color : Color) : Decidable (Color.Within low high color) :=
  decidable_of_iff _ (Color.within_iff low high color).symm

theorem Level.Between.bounded {low high first second level : Level}
    (between : Level.Between first second level) (one : low ≤ first ∧ first ≤ high)
    (other : low ≤ second ∧ second ≤ high) : low ≤ level ∧ level ≤ high := by
  unfold Level.Between at between
  simp only [UInt8.le_iff_toNat_le] at one other ⊢
  omega

theorem Color.closed_within (low high : Color) : Blend.Closed (Color.Within low high) := by
  intro first second weight one other
  have between := Color.between_blend first second weight
  exact ⟨between.red.bounded one.red other.red, between.green.bounded one.green other.green,
    between.blue.bounded one.blue other.blue⟩

namespace Strip.Uses

variable {palette : Color → Prop} {strip other : Strip}

theorem of_replicate {color : Color} (held : palette color) (length : Nat) :
    Uses palette (List.replicate length color) := by
  intro pixel here
  rwa [List.eq_of_mem_replicate here]

theorem sub {part : Strip} (uses : Uses palette strip) (within : part ⊆ strip) :
    Uses palette part := fun color here => uses color (within here)

theorem append (uses : Uses palette strip) (more : Uses palette other) :
    Uses palette (strip ++ other) := fun color here =>
  (List.mem_append.mp here).elim (uses color) (more color)

theorem set (uses : Uses palette strip) {color : Color} (held : palette color) (place : Nat) :
    Uses palette (strip.set place color) := by
  intro pixel here
  rcases List.mem_or_eq_of_mem_set here with before | rfl
  · exact uses pixel before
  · exact held

theorem getD (uses : Uses palette strip) {color : Color} (held : palette color) (place : Nat) :
    palette (strip.toArray.getD place color) := by
  rw [Array.getD_eq_getD_getElem?, List.getElem?_toArray]
  cases found : strip[place]? with
  | none => exact held
  | some pixel => exact uses pixel (List.mem_of_getElem? found)

theorem fit (uses : Uses palette strip) (dark : palette Color.black) (length : Nat) :
    Uses palette (strip.fit length) :=
  (uses.sub (List.take_subset ..)).append (of_replicate dark _)

theorem tile (uses : Uses palette strip) (present : strip ≠ []) (length : Nat) :
    Uses palette (strip.tile length) := by
  intro color here
  obtain ⟨place, -, rfl⟩ := List.mem_map.mp here
  have inside : place % strip.length < strip.length :=
    Nat.mod_lt _ (List.length_pos_iff.mpr present)
  rw [List.size_toArray, getD_toArray_of_lt inside]
  exact uses _ (List.getElem_mem inside)

theorem turn (uses : Uses palette strip) (offset : Nat) : Uses palette (strip.turn offset) :=
  (uses.sub (List.drop_subset ..)).append (uses.sub (List.take_subset ..))

theorem along (closed : Blend.Closed palette) (uses : Uses palette strip)
    (more : Uses palette other) (weight : Nat → Level) :
    Uses palette (Blend.along weight strip other) := by
  intro color here
  obtain ⟨pixel, inside, rfl⟩ := List.mem_mapIdx.mp here
  obtain ⟨first, second⟩ := List.of_mem_zip (List.getElem_mem inside)
  exact closed _ _ _ (uses _ first) (more _ second)

theorem mix (closed : Blend.Closed palette) (uses : Uses palette strip)
    (more : Uses palette other) (same : strip.length = other.length) (weight : Level) :
    Uses palette (strip.mix other weight) := by
  rw [Blend.mix_eq_along same]
  exact uses.along closed more _

/-- The trail has a pixel for every place that is seen of it. -/
theorem bounce (uses : Uses palette strip) {length : Nat} (long : strip.length = 2 * length - 1)
    (several : 2 ≤ length) (moves : Int) : Uses palette (Motion.bounce strip length moves) := by
  intro color here
  obtain ⟨pixel, inside, rfl⟩ := List.mem_map.mp here
  have recent := Motion.seen_lt moves several (List.mem_range.mp inside)
  have held : Motion.seen length moves pixel < strip.length := by omega
  rw [← Motion.seen, getD_toArray_of_lt held]
  exact uses _ (List.getElem_mem held)

theorem face (uses : Uses palette strip) (whole : strip.length = Clock.paletteSize)
    (length : Nat) (now : Time) : Uses palette (Clock.face strip length now) := by
  have ink : ∀ index < Clock.paletteSize, palette (strip.getD index Color.black) := by
    intro index inside
    rw [← whole] at inside
    rw [List.getD_eq_getElem?_getD, List.getElem?_eq_getElem inside]
    exact uses _ (List.getElem_mem inside)
  exact (((of_replicate (ink 0 (by decide)) length).set (ink 3 (by decide)) _).set
    (ink 2 (by decide)) _).set (ink 1 (by decide)) _

theorem sample (closed : Blend.Closed palette) (uses : Uses palette strip) {first : Color}
    (held : palette first) (method : Sampling) (place : Nat) :
    palette (method.sample strip.toArray first place) := by
  have here := uses.getD held (place / 256)
  cases method with
  | nearest =>
      dsimp only [Sampling.sample]
      split
      · exact uses.getD held (place / 256 + 1)
      · exact here
  | linear =>
      simp only [Sampling.sample, List.getElem?_toArray]
      split
      · next next found =>
          split
          · exact here
          · exact closed _ _ _ here (uses next (List.mem_of_getElem? found))
      · exact here

/-- What the target held is left only where there is nothing to be seen. -/
theorem resample (closed : Blend.Closed palette) (uses : Uses palette strip)
    (present : strip ≠ []) (method : Sampling) (target : Strip) :
    Uses palette (method.resample strip target) := by
  cases strip with
  | nil => exact absurd rfl present
  | cons first rest =>
      have held := uses first List.mem_cons_self
      unfold Sampling.resample
      dsimp only
      split
      · exact uses
      split
      · exact of_replicate held _
      · intro color here
        obtain ⟨index, -, rfl⟩ := List.mem_map.mp here
        exact uses.sample closed held method _

end Strip.Uses

namespace Pattern

/-- The colors that a node draws with itself. What the pixels of a frame do not cover is dark. -/
def ownInks : Pattern → List Color
  | .color ink => [ink]
  | .frame pixels => Color.black :: pixels
  | .repeated base => base
  | _ => []

/-- A tree in which nothing but the colors of a palette is drawn with: it has no rainbow, and no
mixer, which adds colors up. -/
def Inked (palette : Color → Prop) (pattern : Pattern) (length : Nat) : Prop :=
  ∀ place ∈ pattern.places length, place.1.kind ≠ .rainbow ∧ place.1.kind ≠ .mixer ∧
    Strip.Uses palette place.1.ownInks

namespace Inked

variable {palette : Color → Prop} {pattern : Pattern} {length : Nat}

theorem own (inked : Inked palette pattern length) :
    pattern.kind ≠ .rainbow ∧ pattern.kind ≠ .mixer ∧ Strip.Uses palette pattern.ownInks :=
  inked _ (mem_places pattern length)

theorem child (inked : Inked palette pattern length) {inner : Pattern}
    (present : inner ∈ pattern.children) : Inked palette inner (pattern.inner length) :=
  fun place here => inked place (places_child present length here)

/-- The nodes of a tree and their colors are the same on any length. -/
theorem resize (inked : Inked palette pattern length) (other : Nat) :
    Inked palette pattern other := by
  induction pattern using induct_children generalizing length other with
  | node pattern inner =>
      intro place here
      rw [places_eq] at here
      rcases List.mem_cons.mp here with rfl | below
      · exact inked.own
      · obtain ⟨child, present, deeper⟩ := List.mem_flatMap.mp below
        exact inner child present (inked.child present) _ place deeper

theorem below (inked : Inked palette pattern length) {inner : Pattern}
    (present : inner ∈ pattern.children) (size : Nat) : Inked palette inner size :=
  (inked.child present).resize size

end Inked

/-- Every picture of a pattern that draws every pixel has only colors of a palette. -/
structure Shows (palette : Color → Prop) (pattern : Pattern) (length : Nat) : Prop where
  settled : Settled pattern length
  uses : ∀ now, Strip.Uses palette (pattern.picture length now)

namespace Shows

variable {palette : Color → Prop} {first second : Pattern} {patterns : List Pattern}
  {length size : Nat}

theorem color {ink : Color} (held : palette ink) (length : Nat) :
    Shows palette (.color ink) length where
  settled := .color ink length
  uses _ := .of_replicate held _

theorem frame {pixels : Strip} (inks : Strip.Uses palette (Color.black :: pixels)) (length : Nat) :
    Shows palette (.frame pixels) length where
  settled := .fixed pixels length
  uses _ := (inks.sub (List.subset_cons_self ..)).fit (inks _ List.mem_cons_self) _

theorem repeated {base : Strip} (inks : Strip.Uses palette base) (present : base ≠ [])
    (length : Nat) : Shows palette (.repeated base) length where
  settled := .repeated present length
  uses now := by
    rw [picture, render, if_neg (mt List.isEmpty_iff.mp present)]
    exact inks.tile present _

theorem gradient (closed : Blend.Closed palette) (positive : 0 < length)
    (left : Shows palette first length) (right : Shows palette second length) (curve : Curve) :
    Shows palette (.gradient (some first) (some second) curve) length where
  settled := left.settled.gradient right.settled curve
  uses now := by
    rw [picture_gradient now positive left.settled right.settled, Blend.gradient_eq_along]
    exact (left.uses now).along closed (right.uses now) _

theorem transition (closed : Blend.Closed palette) (before : Shows palette first length)
    (after : Shows palette second length) (offset duration : UInt64) (curve : Curve) :
    Shows palette (.transition (some first) (some second) offset duration curve) length where
  settled := before.settled.transition after.settled offset duration curve
  uses now := by
    rw [picture_transition before.settled after.settled]
    split
    · exact before.uses now
    split
    · exact after.uses _
    · exact (before.uses now).mix closed (after.uses _) (length_picture_eq ..) _

theorem cycle (present : patterns ≠ []) (each : ∀ child ∈ patterns, Shows palette child length)
    (duration : UInt64) : Shows palette (.cycle patterns duration) length where
  settled := .cycle present (fun child member => (each child member).settled) duration
  uses now := by
    have inside := cycleIndex_lt (List.length_pos_iff.mpr present) duration now
    rw [picture_cycle now (fun child member => (each child member).settled)
      (List.getElem?_eq_getElem inside)]
    exact (each _ (List.getElem_mem inside)).uses now

theorem loop (closed : Blend.Closed palette) (present : patterns ≠ [])
    (each : ∀ child ∈ patterns, Shows palette child length) (hold fade : UInt64) (curve : Curve) :
    Shows palette (.loop patterns hold fade curve) length where
  settled := .loop present (fun child member => (each child member).settled) hold fade curve
  uses now := by
    have count := List.length_pos_iff.mpr present
    have settled : ∀ child ∈ patterns, Settled child length :=
      fun child member => (each child member).settled
    have here := loopIndex_lt count hold fade now
    have current := (each _ (List.getElem_mem here)).uses now
    by_cases fading : loopFades hold fade now
    · have ahead := Nat.mod_lt (loopIndex patterns.length hold fade now + 1) count
      have next := (each _ (List.getElem_mem ahead)).uses now
      rw [picture_loop_of_fading settled fading (List.getElem?_eq_getElem here)
        (List.getElem?_eq_getElem ahead)]
      exact current.mix closed next (length_picture_eq ..) _
    · rw [picture_loop_of_resting settled fading (List.getElem?_eq_getElem here)]
      exact current

theorem rotate (positive : 0 < length) (child : Shows palette first length) (rate : Float32) :
    Shows palette (.rotate (some first) rate) length where
  settled := child.settled.rotate rate
  uses now := by
    rw [picture_rotate now positive child.settled]
    exact (child.uses now).turn _

theorem pingPong (positive : 0 < length) (child : Shows palette first (length * 2 - 1))
    (rate : Float32) : Shows palette (.pingPong (some first) rate) length where
  settled := child.settled.pingPong rate
  uses now := by
    have long : (first.picture (length * 2 - 1) now).length = 2 * length - 1 := by
      rw [length_picture, Nat.mul_comm]
    rw [picture_pingPong now positive child.settled]
    split
    · exact child.uses now
    · exact (child.uses now).bounce long (by omega) _

theorem chronometer (positive : 0 < length) (child : Shows palette first Clock.paletteSize) :
    Shows palette (.chronometer (some first)) length where
  settled := child.settled.chronometer length
  uses now := by
    rw [picture_chronometer now positive child.settled]
    exact (child.uses now).face (length_picture ..) length now

theorem crop {segment : Segment} (starts : segment.start.toNat = 0)
    (stops : segment.stop.toNat = length) (child : Shows palette first length) :
    Shows palette (.crop (some first) segment) length where
  settled := .crop starts stops child.settled
  uses now := by
    rw [picture_crop now starts stops child.settled]
    exact child.uses now

theorem scale (closed : Blend.Closed palette) {extent : UInt64} {ratio : Float32}
    (usable : scaledLength? extent ratio length = some size) (filled : 0 < size)
    (child : Shows palette first size) (method : Sampling) :
    Shows palette (.scale (some first) method extent ratio) length where
  settled := .scale usable (fun none => absurd none (Nat.ne_of_gt filled)) child.settled
  uses now := by
    have present : first.picture size now ≠ [] :=
      List.ne_nil_of_length_pos (by rwa [length_picture])
    rw [picture_scale now usable child.settled]
    exact (child.uses now).resample closed present method _

end Shows

/-- A tree that draws every pixel shows nothing but colors of the palette that it is drawn with. -/
theorem shows_of_inked {palette : Color → Prop} (closed : Blend.Closed palette)
    (pattern : Pattern) {length : Nat} (positive : 0 < length) (full : pattern.FullyDraws length)
    (inked : Inked palette pattern length) : Shows palette pattern length := by
  induction pattern using induct generalizing length with
  | color ink => exact .color (inked.own.2.2 ink List.mem_cons_self) length
  | frame pixels => exact .frame inked.own.2.2 length
  | rainbow => exact absurd rfl inked.own.1
  | repeated base => exact .repeated inked.own.2.2 full length
  | gradient left right curve leftShows rightShows =>
      obtain ⟨first, rfl, firstFull⟩ := full.1.present
      obtain ⟨second, rfl, secondFull⟩ := full.2.present
      have one : Inked palette first length := inked.below (by simp [children]) length
      have other : Inked palette second length := inked.below (by simp [children]) length
      exact .gradient closed positive (leftShows first rfl positive firstFull one)
        (rightShows second rfl positive secondFull other) curve
  | transition before after offset duration curve beforeShows afterShows =>
      obtain ⟨first, rfl, firstFull⟩ := full.1.present
      obtain ⟨second, rfl, secondFull⟩ := full.2.present
      have one : Inked palette first length := inked.below (by simp [children]) length
      have other : Inked palette second length := inked.below (by simp [children]) length
      exact .transition closed (beforeShows first rfl positive firstFull one)
        (afterShows second rfl positive secondFull other) offset duration curve
  | cycle frames duration each =>
      have shows : ∀ child ∈ frames, Shows palette child length := fun child member =>
        each child member positive (full.2.of_mem member) (inked.below member length)
      exact .cycle full.1 shows duration
  | loop patterns hold fade curve each =>
      have shows : ∀ child ∈ patterns, Shows palette child length := fun child member =>
        each child member positive (full.2.of_mem member) (inked.below member length)
      exact .loop closed full.1 shows hold fade curve
  | rotate child rate shows =>
      obtain ⟨inner, rfl, innerFull⟩ := full.present
      have ring := inked.below List.mem_cons_self length
      exact .rotate positive (shows inner rfl positive innerFull ring) rate
  | pingPong child rate shows =>
      obtain ⟨inner, rfl, innerFull⟩ := full.present
      have trail := inked.below List.mem_cons_self (length * 2 - 1)
      exact .pingPong positive (shows inner rfl (by omega) innerFull trail) rate
  | chronometer child shows =>
      obtain ⟨inner, rfl, innerFull⟩ := full.present
      have hands := inked.below List.mem_cons_self Clock.paletteSize
      exact .chronometer positive (shows inner rfl (by decide) innerFull hands)
  | crop child segment shows =>
      obtain ⟨starts, stops, draws⟩ := full
      obtain ⟨inner, rfl, innerFull⟩ := draws.present
      have whole := inked.below List.mem_cons_self length
      exact .crop starts stops (shows inner rfl positive innerFull whole)
  | scale child method extent ratio shows =>
      simp only [FullyDraws] at full
      split at full
      · exact full.elim
      · next size usable =>
          obtain ⟨inner, rfl, innerFull⟩ := full.2.present
          have source := inked.below List.mem_cons_self size
          have filled : 0 < size :=
            Nat.pos_of_ne_zero fun none => absurd (full.1 none) (Nat.ne_of_gt positive)
          exact .scale closed usable filled (shows inner rfl filled innerFull source) method
  | mixer patterns weights => exact absurd rfl inked.own.2.1

/-- Nothing that a tree shows is out of the bounds that hold for the colors it is drawn with, if all
of its nodes draw every pixel and there is no rainbow and no mixer among them: at any time, and
from any scratch and strip. -/
theorem render_within_bounds {low high : Color} {pattern : Pattern} {length : Nat}
    (full : pattern.FullyDraws length) (inked : Inked (Color.Within low high) pattern length)
    (now : Time) (scratch : Scratch) {strip : Strip} (size : strip.length = length) :
    let shown := (pattern.render now scratch strip).1
    shown.length = length ∧ ∀ color ∈ shown, Color.Within low high color := by
  intro shown
  have drawn : shown.length = length := (length_render ..).trans size
  refine ⟨drawn, ?_⟩
  rcases Nat.eq_zero_or_pos length with rfl | positive
  · rw [List.eq_nil_of_length_eq_zero drawn]
    exact fun _ here => absurd here List.not_mem_nil
  · have shows := shows_of_inked (Color.closed_within low high) pattern positive full inked
    have same : shown = pattern.picture length now := shows.settled.render_eq now scratch size
    rw [same]
    exact shows.uses now

/-- A turning gradient that fades into a trail of two stripes, drawn over stale pixels. No channel
falls below or rises above what the four colors have. -/
theorem render_within_bounds_nested :
    let warm : Pattern :=
      .gradient (some (.color ⟨200, 40, 9⟩)) (some (.color ⟨90, 120, 0⟩)) .linear
    let stripes : Pattern := .scale (some (.repeated [⟨250, 7, 0⟩, ⟨10, 60, 9⟩])) .linear 2 0.0
    let tree : Pattern :=
      .loop [.rotate (some warm) 2.0, .pingPong (some stripes) 1.0] 500 1000 .linear
    let stale : Scratch := .node [[⟨9, 9, 255⟩, ⟨9, 9, 255⟩]] []
    let shown := (tree.render (.ofMillis 1000) stale [⟨0, 255, 255⟩, ⟨255, 255, 255⟩]).1
    tree.FullyDraws 2 ∧ Inked (Color.Within ⟨10, 7, 0⟩ ⟨250, 120, 9⟩) tree 2 ∧
      shown = [⟨164, 36, 6⟩, ⟨169, 63, 0⟩] ∧
      ∀ color ∈ shown, Color.Within ⟨10, 7, 0⟩ ⟨250, 120, 9⟩ color := by
  intro warm stripes tree stale shown
  have full : tree.FullyDraws 2 := by decide
  have inked : Inked (Color.Within ⟨10, 7, 0⟩ ⟨250, 120, 9⟩) tree 2 := by
    simp [Inked, Strip.Uses, tree, warm, stripes, places_eq (.loop _ _ _ _),
      places_eq (.rotate _ _), places_eq (.gradient _ _ _), places_eq (.color _),
      places_eq (.pingPong _ _), places_eq (.scale _ _ _ _), places_eq (.repeated _), children,
      kind, ownInks]
    decide
  exact ⟨full, inked, by decide, (render_within_bounds full inked _ _ rfl).2⟩

end Pattern

end LightShow
