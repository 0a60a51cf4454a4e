import LightShow.Proofs.OneWay

/-! Gradients run from left to right. The first pixel is that of the one pattern and the last pixel
that of the other, however the length of the strip divides the way between them, and no pixel leaves
the range of the two that it is blended from. Between two colors no channel turns back. -/

namespace LightShow

namespace Color

def channels : List (Color → Level) := [red, green, blue]

theorem channel_blend {channel : Color → Level} (member : channel ∈ channels)
    (first second : Color) (weight : Level) :
    channel (first.blend second weight) = (channel first).blend (channel second) weight := by
  simp only [channels, List.mem_cons, List.not_mem_nil, or_false] at member
  rcases member with rfl | rfl | rfl
  · rfl
  · rfl
  · rfl

end Color

namespace Blend

variable {length : Nat}

/-- How far across the strip a pixel is, as a fraction that is rounded down. -/
theorem slope_of_several (curve : Curve) (several : 2 ≤ length) {pixel : Nat}
    (inside : pixel < length) :
    ∃ progress : Progress, progress.toNat = pixel * 65535 / (length - 1) ∧
      slope curve length pixel = curve.weight progress := by
  have across : pixel * 65535 / (length - 1) ≤ 65535 := by
    apply Nat.div_le_of_le_mul
    exact Nat.mul_le_mul_right 65535 (Nat.le_sub_one_of_lt inside)
  refine ⟨.ofNat (pixel * 65535 / (length - 1)), ?_, if_neg (by omega)⟩
  rw [UInt16.toNat_ofNat']
  exact Nat.mod_eq_of_lt (by omega)

theorem slope_first (curve : Curve) (several : 2 ≤ length) : slope curve length 0 = 0 := by
  obtain ⟨progress, part, same⟩ := slope_of_several curve several (Nat.zero_lt_of_lt several)
  rw [Nat.zero_mul, Nat.zero_div] at part
  have start : progress = 0 := UInt16.toNat_inj.mp part
  rw [same, start, Curve.weight_zero]

theorem slope_last (curve : Curve) (several : 2 ≤ length) :
    slope curve length (length - 1) = 255 := by
  obtain ⟨progress, part, same⟩ :=
    slope_of_several curve several (show length - 1 < length by omega)
  rw [Nat.mul_div_cancel_left _ (by omega)] at part
  have finish : progress = 65535 := UInt16.toNat_inj.mp part
  rw [same, finish, Curve.weight_full]

theorem slope_le_slope {curve : Curve} (rises : curve.Rises) (several : 2 ≤ length)
    {near far : Nat} (further : near ≤ far) (inside : far < length) :
    (slope curve length near).toNat ≤ (slope curve length far).toNat := by
  obtain ⟨early, earlyPart, earlySame⟩ :=
    slope_of_several curve several (Nat.lt_of_le_of_lt further inside)
  obtain ⟨late, latePart, lateSame⟩ := slope_of_several curve several inside
  rw [earlySame, lateSame]
  apply Curve.weight_le_weight rises
  rw [earlyPart, latePart]
  exact Nat.div_le_div_right (Nat.mul_le_mul_right 65535 further)

theorem getElem?_gradient (curve : Curve) {left right : Strip} (same : left.length = right.length)
    {pixel : Nat} (inside : pixel < left.length) :
    (gradient curve left right)[pixel]? =
      some (left[pixel].blend right[pixel] (slope curve left.length pixel)) := by
  have long := length_along (slope curve left.length) same
  rw [gradient_eq_along, List.getElem?_eq_getElem (by rwa [long]), getElem_along]

theorem gradient_first (curve : Curve) {left right : Strip} (same : left.length = right.length)
    (several : 2 ≤ left.length) : (gradient curve left right)[0]? = left[0]? := by
  have inside : 0 < left.length := by omega
  rw [getElem?_gradient curve same inside, slope_first curve several, Color.blend_zero,
    List.getElem?_eq_getElem inside]

theorem gradient_last (curve : Curve) {left right : Strip} (same : left.length = right.length)
    (several : 2 ≤ left.length) :
    (gradient curve left right)[left.length - 1]? = right[left.length - 1]? := by
  have inside : left.length - 1 < left.length := by omega
  rw [getElem?_gradient curve same inside, slope_last curve several, Color.blend_full,
    List.getElem?_eq_getElem (by rwa [← same])]

theorem between_gradient (curve : Curve) {left right : Strip}
    (same : left.length = right.length) :
    Strip.Between left right (gradient curve left right) where
  long := by rw [length_gradient, same, Nat.min_self, and_self]
  pixel := by
    intro place one first other second color shown
    obtain ⟨inside, rfl⟩ := List.getElem?_eq_some_iff.mp first
    obtain ⟨_, rfl⟩ := List.getElem?_eq_some_iff.mp second
    rw [getElem?_gradient curve same inside] at shown
    obtain rfl := Option.some_inj.mp shown
    exact Color.between_blend ..

end Blend

/-- A strip along which every channel goes from that of one color to that of another, and never
back. -/
structure Strip.Grades (ink target : Color) (strip : Strip) : Prop where
  first : strip.head? = some ink
  last : strip.getLast? = some target
  rising : ∀ channel ∈ Color.channels, (channel ink).toNat ≤ (channel target).toNat →
    strip.Pairwise fun near far => (channel near).toNat ≤ (channel far).toNat
  falling : ∀ channel ∈ Color.channels, (channel target).toNat ≤ (channel ink).toNat →
    strip.Pairwise fun near far => (channel far).toNat ≤ (channel near).toNat

namespace Blend

variable {length : Nat}

theorem gradient_replicate (curve : Curve) (length : Nat) (ink target : Color) :
    gradient curve (List.replicate length ink) (List.replicate length target) =
      (List.range length).map fun pixel => ink.blend target (slope curve length pixel) := by
  have same : (List.replicate length ink).length = (List.replicate length target).length := by
    rw [List.length_replicate, List.length_replicate]
  apply List.ext_getElem
  · rw [length_gradient, ← same, Nat.min_self, List.length_replicate, List.length_map,
      List.length_range]
  · intro pixel inside within
    rw [List.length_map, List.length_range] at within
    apply Option.some_inj.mp
    rw [← List.getElem?_eq_getElem inside,
      getElem?_gradient curve same (by rwa [List.length_replicate])]
    simp only [List.getElem_replicate, List.length_replicate, List.getElem_map, List.getElem_range]

/-- From one color to another a gradient changes each channel in one direction only. -/
theorem grades_gradient {curve : Curve} (rises : curve.Rises) (several : 2 ≤ length)
    (ink target : Color) :
    Strip.Grades ink target
      (gradient curve (List.replicate length ink) (List.replicate length target)) := by
  rw [gradient_replicate]
  constructor
  · rw [List.head?_eq_getElem?, List.getElem?_map, List.getElem?_range (by omega),
      Option.map_some, slope_first curve several, Color.blend_zero]
  · rw [List.getLast?_eq_getElem?, List.getElem?_map, List.length_map, List.length_range,
      List.getElem?_range (by omega), Option.map_some, slope_last curve several, Color.blend_full]
  · intro channel member up
    rw [List.pairwise_map]
    apply List.pairwise_lt_range.imp_of_mem
    intro near far _ inside further
    rw [Color.channel_blend member, Color.channel_blend member]
    exact Level.blend_le_blend up
      (slope_le_slope rises several (Nat.le_of_lt further) (List.mem_range.mp inside))
  · intro channel member down
    rw [List.pairwise_map]
    apply List.pairwise_lt_range.imp_of_mem
    intro near far _ inside further
    rw [Color.channel_blend member, Color.channel_blend member]
    exact Level.blend_le_blend_of_down down
      (slope_le_slope rises several (Nat.le_of_lt further) (List.mem_range.mp inside))

end Blend

namespace Pattern

/-- A gradient runs from the pattern on its left to the one on its right. On two pixels or more its
first pixel is exactly that of the left pattern and its last pixel exactly that of the right one,
and in between no channel of a pixel leaves the range of both patterns there. Between two colors,
and by a curve that never falls, no channel turns back on its way across the strip. -/
theorem gradient_runs_across {left right : Pattern} {length : Nat} (several : 2 ≤ length)
    (leftFull : left.FullyDraws length) (rightFull : right.FullyDraws length) (curve : Curve)
    (now : Time) (scratch : Scratch) {strip : Strip} (same : strip.length = length) :
    let first := left.picture length now
    let second := right.picture length now
    let shown := (render (.gradient (some left) (some right) curve) now scratch strip).1
    (shown.length = length ∧ shown[0]? = first[0]? ∧
      shown[length - 1]? = second[length - 1]?) ∧
    Strip.Between first second shown ∧
    ((curve.Smooth → curve.Rises) → ∀ ink target : Color, left = .color ink →
      right = .color target → Strip.Grades ink target shown) := by
  intro first second shown
  have leftSettled := settled_of_fullyDraws left leftFull
  have rightSettled := settled_of_fullyDraws right rightFull
  have positive : 0 < length := by omega
  have even : first.length = second.length := length_picture_eq ..
  have long : first.length = length := length_picture ..
  have blended : shown = Blend.gradient curve first second :=
    ((leftSettled.gradient rightSettled curve).render_eq now scratch same).trans
      (picture_gradient now positive leftSettled rightSettled curve)
  refine ⟨⟨(length_render ..).trans same, ?_, ?_⟩, ?_, ?_⟩
  · rw [blended]
    exact Blend.gradient_first curve even (long ▸ several)
  · rw [blended, ← long]
    exact Blend.gradient_last curve even (long ▸ several)
  · rw [blended]
    exact Blend.between_gradient curve even
  · rintro rises ink target rfl rfl
    have grows : curve.Rises := Decidable.byCases rises Curve.rises_of_not_smooth
    have plain : first = List.replicate length ink := picture_color now ink
    have aim : second = List.replicate length target := picture_color now target
    rw [blended, plain, aim]
    exact Blend.grades_gradient grows several ink target

/-- Five pixels, between which the way does not divide evenly: from turning stripes to a spectrum by
a smooth curve, and from one color to another by a line. -/
theorem gradient_runs_across_uneven :
    let ink : Color := ⟨200, 10, 0⟩
    let target : Color := ⟨0, 10, 77⟩
    let stripes : Pattern := .rotate (some (.repeated [⟨0, 90, 0⟩, ⟨0, 0, 90⟩, ink])) 1.0
    let traces : Scratch := .node [[⟨7, 7, 7⟩]] []
    let smooth := (render (.gradient (some stripes) (some .rainbow) .easeIn) (.ofMillis 1000) traces
      (Strip.dark 5)).1
    let line := (render (.gradient (some (.color ink)) (some (.color target)) .linear)
      (.ofMillis 1000) traces (Strip.dark 5)).1
    stripes.FullyDraws 5 ∧ Pattern.rainbow.FullyDraws 5 ∧
      smooth[0]? = some ⟨0, 0, 90⟩ ∧ smooth[4]? = (Pattern.rainbow.picture 5 (.ofMillis 1000))[4]? ∧
      Strip.Between (stripes.picture 5 (.ofMillis 1000))
        (Pattern.rainbow.picture 5 (.ofMillis 1000)) smooth ∧
      Strip.Grades ink target line ∧
      line = [⟨200, 10, 0⟩, ⟨150, 10, 19⟩, ⟨100, 10, 38⟩, ⟨50, 10, 57⟩, ⟨0, 10, 77⟩] := by
  intro ink target stripes traces smooth line
  have several : 2 ≤ 5 := by decide
  have turning : stripes.FullyDraws 5 := by decide
  have spectrum : Pattern.rainbow.FullyDraws 5 := by decide
  obtain ⟨⟨-, starts, ends⟩, between, -⟩ := gradient_runs_across several turning spectrum .easeIn
    (.ofMillis 1000) traces (Strip.length_dark 5)
  have first : (Pattern.color ink).FullyDraws 5 := by decide
  have second : (Pattern.color target).FullyDraws 5 := by decide
  obtain ⟨-, -, grades⟩ := gradient_runs_across several first second .linear (.ofMillis 1000) traces
    (Strip.length_dark 5)
  have rises : Curve.linear.Smooth → Curve.linear.Rises := fun smooth => absurd smooth (by decide)
  exact ⟨turning, spectrum, starts.trans (by decide), ends, between,
    grades rises ink target rfl rfl, by decide⟩

end Pattern

end LightShow
