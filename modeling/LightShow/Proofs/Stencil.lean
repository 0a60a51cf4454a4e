import LightShow.Proofs.Residue

/-! Which pixels a drawing covers. The others keep what the strip held, and where two strips are
blended in place, that is what goes into the blend. Drawings that are made one after the other, at
one time and on strips of one length, paint the same over and over. -/

namespace LightShow

namespace Strip

/-- The strip with the paint over it, where the paint covers it. -/
def overlay (strip : Strip) (covered : Nat → Bool) (paint : Strip) : Strip :=
  (List.zip paint strip).mapIdx fun pixel (ink, below) => if covered pixel then ink else below

variable {strip paint : Strip} {covered : Nat → Bool}

theorem length_overlay (covered : Nat → Bool) (same : paint.length = strip.length) :
    (strip.overlay covered paint).length = strip.length := by
  simp only [overlay, List.length_mapIdx, List.length_zip, same, Nat.min_self]

theorem getElem_overlay {pixel : Nat} (inside : pixel < (strip.overlay covered paint).length)
    (painted : pixel < paint.length) (held : pixel < strip.length) :
    (strip.overlay covered paint)[pixel] =
      if covered pixel then paint[pixel] else strip[pixel] := by
  simp only [overlay, List.getElem_mapIdx, List.getElem_zip]

theorem getElem?_overlay (covered : Nat → Bool) (same : paint.length = strip.length)
    (pixel : Nat) :
    (strip.overlay covered paint)[pixel]? =
      if covered pixel then paint[pixel]? else strip[pixel]? := by
  have size := length_overlay covered same
  by_cases held : pixel < strip.length
  · rw [List.getElem?_eq_getElem (by rwa [size]), getElem_overlay _ (by rwa [same]) held,
      List.getElem?_eq_getElem held, List.getElem?_eq_getElem (by rwa [same])]
    split <;> rfl
  · rw [List.getElem?_eq_none (by omega), List.getElem?_eq_none (by omega),
      List.getElem?_eq_none (by omega), ite_self]

theorem overlay_of_covered (same : paint.length = strip.length)
    (all : ∀ pixel, covered pixel = true) : strip.overlay covered paint = paint := by
  apply List.ext_getElem?
  intro pixel
  rw [getElem?_overlay covered same, if_pos (all pixel)]

theorem overlay_of_uncovered (same : paint.length = strip.length)
    (none : ∀ pixel, covered pixel = false) : strip.overlay covered paint = strip := by
  apply List.ext_getElem?
  intro pixel
  rw [getElem?_overlay covered same, none pixel, if_neg Bool.false_ne_true]

/-- Paint covers the same paint that lies there already. -/
theorem overlay_again (same : paint.length = strip.length) :
    (strip.overlay covered paint).overlay covered paint = strip.overlay covered paint := by
  apply List.ext_getElem?
  intro pixel
  rw [getElem?_overlay covered (same.trans (length_overlay covered same).symm),
    getElem?_overlay covered same]
  split <;> rfl

/-- A strip with every pixel at its brightest. -/
def lit (length : Nat) : Strip := List.replicate length ⟨255, 255, 255⟩

/-- Paint over a stretch of a strip is paint over the strip. -/
theorem splice_overlay {start stop : Nat} (ordered : start ≤ stop) (inside : stop ≤ strip.length)
    (painted : paint.length = stop - start) :
    strip.take start ++ overlay ((strip.drop start).take (stop - start)) covered paint ++
        strip.drop stop =
      strip.overlay (fun pixel => start ≤ pixel && pixel < stop && covered (pixel - start))
        (dark start ++ paint ++ dark (strip.length - stop)) := by
  have part : paint.length = ((strip.drop start).take (stop - start)).length := by
    rw [List.length_take, List.length_drop]
    omega
  have middle := (length_overlay covered part).trans (part.symm.trans painted)
  have first : (strip.take start).length = start := by
    rw [List.length_take]
    omega
  have unlit := length_dark start
  have whole : (dark start ++ paint ++ dark (strip.length - stop)).length = strip.length := by
    simp only [List.length_append, length_dark, painted]
    omega
  apply List.ext_getElem?
  intro pixel
  rw [getElem?_overlay _ whole]
  by_cases before : pixel < start
  · rw [List.getElem?_append_left (by rw [List.length_append]; omega),
      List.getElem?_append_left (by omega), List.getElem?_take_of_lt before, if_neg]
    simp only [Nat.not_le_of_lt before, decide_false, Bool.false_and, Bool.false_eq_true,
      not_false_eq_true]
  have reached := Nat.le_of_not_lt before
  by_cases within : pixel < stop
  · rw [List.getElem?_append_left (by rw [List.length_append]; omega),
      List.getElem?_append_right (by omega), first, getElem?_overlay _ part,
      List.getElem?_take_of_lt (by omega), List.getElem?_drop, Nat.add_sub_cancel' reached,
      List.getElem?_append_left (by rw [List.length_append]; omega),
      List.getElem?_append_right (by omega), unlit]
    simp only [reached, within, decide_true, Bool.true_and]
  · rw [List.getElem?_append_right (by rw [List.length_append]; omega), List.length_append, first,
      middle, List.getElem?_drop, if_neg]
    · congr 1
      omega
    · simp only [within, decide_false, Bool.and_false, Bool.false_and, Bool.false_eq_true,
        not_false_eq_true]

end Strip

namespace Blend

/-- Two strips blended, with a weight for each pixel. -/
def along (weight : Nat → Level) (left right : Strip) : Strip :=
  (List.zip left right).mapIdx fun pixel (first, second) => first.blend second (weight pixel)

/-- The blend is one of its two sides. -/
def sure (weight : Level) : Bool := weight == 0 || weight == 255

/-- Where a blend takes from both sides, the first of them covers the pixel. -/
def grounds (covers : Nat → Bool) (weight : Nat → Level) (length : Nat) : Bool :=
  (List.range length).all fun pixel => covers pixel || sure (weight pixel)

variable {weight : Nat → Level} {left right : Strip}

theorem grounds_iff {covers : Nat → Bool} {length : Nat} :
    grounds covers weight length = true ↔
      ∀ pixel < length, covers pixel = true ∨ weight pixel = 0 ∨ weight pixel = 255 := by
  simp only [grounds, sure, List.all_eq_true, List.mem_range, Bool.or_eq_true, beq_iff_eq]

theorem grounds_of_covers {covers : Nat → Bool} {length : Nat} (weight : Nat → Level)
    (all : ∀ pixel < length, covers pixel = true) : grounds covers weight length = true :=
  grounds_iff.mpr fun pixel inside => .inl (all pixel inside)

theorem length_along (weight : Nat → Level) (same : left.length = right.length) :
    (along weight left right).length = left.length := by
  simp only [along, List.length_mapIdx, List.length_zip, same, Nat.min_self]

theorem getElem_along {pixel : Nat} (inside : pixel < (along weight left right).length)
    (first : pixel < left.length) (second : pixel < right.length) :
    (along weight left right)[pixel] = left[pixel].blend right[pixel] (weight pixel) := by
  simp only [along, List.getElem_mapIdx, List.getElem_zip]

theorem gradient_eq_along (curve : Curve) (left right : Strip) :
    gradient curve left right = along (slope curve left.length) left right := rfl

theorem mix_eq_along (same : left.length = right.length) (weight : Level) :
    left.mix right weight = along (fun _ => weight) left right := by
  induction left generalizing right with
  | nil => cases right <;> rfl
  | cons first rest ih =>
      cases right with
      | nil => cases same
      | cons target targets =>
          rw [Strip.mix, ih (Nat.succ.inj same)]
          simp only [along, List.zip_cons_cons, List.mapIdx_cons]

/-- What is not covered by the first side of a blend must not go into the blend, or it would go
into it once more with each drawing. -/
theorem along_overlay {strip shown filled : Strip} {covers : Nat → Bool} {length : Nat}
    (held : strip.length = length) (painted : shown.length = length)
    (full : filled.length = length)
    (grounded : grounds covers weight length = true) :
    along weight (strip.overlay covers shown) filled =
      strip.overlay (fun pixel => covers pixel || weight pixel == 255)
        (along weight shown filled) := by
  have covering := Strip.length_overlay covers (painted.trans held.symm)
  have first := length_along weight (covering.trans (held.trans full.symm))
  have second := length_along weight (painted.trans full.symm)
  have third := Strip.length_overlay (fun pixel => covers pixel || weight pixel == 255)
    (second.trans (painted.trans held.symm))
  apply List.ext_getElem (by rw [first, covering, third])
  intro pixel inside outside
  have here : pixel < length := by rwa [first, covering, held] at inside
  rw [getElem_along inside (by rwa [covering, held]) (by rwa [full]),
    Strip.getElem_overlay _ (by rwa [painted]) (by rwa [held]),
    Strip.getElem_overlay outside (by rwa [second, painted]) (by rwa [held]),
    getElem_along _ (by rwa [painted]) (by rwa [full])]
  rcases grounds_iff.mp grounded pixel here with covered | keep | take
  · rw [covered, Bool.true_or, if_pos rfl, if_pos rfl]
  · rw [keep, Color.blend_zero, Color.blend_zero]
    cases covers pixel <;> rfl
  · rw [take, Color.blend_full, Color.blend_full]
    cases covers pixel <;> rfl

/-- To put out a lit level twice by the same share is not to put it out once. -/
theorem level_of_same {weight : Level}
    (same : Level.blend (Level.blend 255 0 weight) 0 weight = Level.blend 255 0 weight) :
    weight = 0 ∨ weight = 255 := by
  have bound := weight.toNat_lt
  have levels := congrArg UInt8.toNat same
  have lit : (255 : UInt8).toNat = 255 := rfl
  have dark : (0 : UInt8).toNat = 0 := rfl
  rw [Level.blend_toNat, Level.blend_toNat, lit, dark, Nat.zero_mul, Nat.add_zero, Nat.add_zero,
    Nat.mul_div_cancel_left _ (by decide)] at levels
  rcases Nat.eq_zero_or_pos weight.toNat with none | some
  · exact .inl (UInt8.toNat_inj.mp none)
  rcases Nat.eq_zero_or_pos (255 - weight.toNat) with full | rest
  · exact .inr (UInt8.toNat_inj.mp (by rw [lit]; omega))
  have less : (255 - weight.toNat) * (255 - weight.toNat) < 255 * (255 - weight.toNat) :=
    Nat.mul_lt_mul_of_pos_right (by omega) rest
  exact absurd levels (Nat.ne_of_lt (Nat.div_lt_of_lt_mul less))

/-- What a blend with a dark strip makes of a pixel that is not covered. -/
theorem along_dark (weight : Nat → Level) {strip shown : Strip} {covers : Nat → Bool}
    {length pixel : Nat} (held : strip.length = length) (painted : shown.length = length)
    (inside : pixel < length) (bare : covers pixel = false) :
    (along weight (strip.overlay covers shown) (Strip.dark length))[pixel]? =
      strip[pixel]?.map fun color => color.blend .black (weight pixel) := by
  have covering := (Strip.length_overlay covers (painted.trans held.symm)).trans held
  have dark := Strip.length_dark length
  have size := (length_along weight (covering.trans dark.symm)).trans covering
  rw [List.getElem?_eq_getElem (by rwa [size]), List.getElem?_eq_getElem (by rwa [held]),
    getElem_along _ (by rwa [covering]) (by rwa [dark]),
    Strip.getElem_overlay _ (by rwa [painted]) (by rwa [held]), bare, if_neg Bool.false_ne_true]
  simp only [Strip.dark, List.getElem_replicate, Option.map_some]

/-- A lit strip that is blended with a dark one shows whether the blend was made once or twice. -/
theorem grounds_of_same {shown : Strip} {covers : Nat → Bool} {length : Nat}
    (painted : shown.length = length)
    (same :
      let once := along weight (Strip.overlay (Strip.lit length) covers shown) (Strip.dark length)
      along weight (once.overlay covers shown) (Strip.dark length) = once) :
    grounds covers weight length = true := by
  have lit : (Strip.lit length).length = length := List.length_replicate
  have dark := Strip.length_dark length
  have covering := (Strip.length_overlay covers (painted.trans lit.symm)).trans lit
  have size := (length_along weight (covering.trans dark.symm)).trans covering
  dsimp only at same
  refine grounds_iff.mpr fun pixel here => ?_
  cases bare : covers pixel with
  | true => exact .inl rfl
  | false =>
      have twice := along_dark weight size painted here bare
      rw [same, along_dark weight lit painted here bare] at twice
      simp only [Strip.lit, List.getElem?_replicate, if_pos here, Option.map_some,
        Option.some_inj] at twice
      exact .inr (level_of_same (congrArg Color.red twice).symm)

end Blend

/-- The scratch after any number of drawings on strips of one length. -/
inductive Again {Kept : Type} (draw : Kept → Strip → Strip × Kept) (length : Nat) (start : Kept) :
    Kept → Prop
  | start : Again draw length start start
  | draw {scratch : Kept} (again : Again draw length start scratch) {strip : Strip}
      (same : strip.length = length) : Again draw length start (draw scratch strip).2

/-- From each of these scratches the drawing lays one paint over the strip. -/
structure Paints {Kept : Type} (draw : Kept → Strip → Strip × Kept) (kept : Kept → Prop)
    (covers : Nat → Bool) (length : Nat) (shown : Strip) : Prop where
  size : shown.length = length
  drawn : ∀ scratch, kept scratch → ∀ strip : Strip, strip.length = length →
    (draw scratch strip).1 = strip.overlay covers shown

namespace Paints

variable {Kept : Type} {draw : Kept → Strip → Strip × Kept} {kept : Kept → Prop}
  {covers : Nat → Bool} {length : Nat} {shown : Strip}

theorem length_drawn (paints : Paints draw kept covers length shown) {scratch : Kept}
    (holds : kept scratch) {strip : Strip} (same : strip.length = length) :
    (draw scratch strip).1.length = length := by
  rw [paints.drawn scratch holds strip same,
    Strip.length_overlay covers (paints.size.trans same.symm), same]

/-- What is drawn in a frame is there after the first drawing, and every other one leaves it. -/
theorem frame (paints : Paints draw kept covers length shown) {start later : Kept}
    (first : kept start) (again : kept later) {frame strip : Strip}
    (left : strip = frame ∨ strip = (draw start (frame.reset length)).1) :
    (draw later (strip.reset length)).1 = (draw start (frame.reset length)).1 := by
  have size := Strip.length_reset frame length
  have drawn := paints.drawn start first _ size
  rcases left with rfl | rfl
  · rw [drawn, paints.drawn later again _ size]
  · rw [Strip.reset_of_length (paints.length_drawn first size),
      paints.drawn later again _ (paints.length_drawn first size), drawn,
      Strip.overlay_again (paints.size.trans size.symm)]

end Paints

namespace Pattern

/-- The weight of the pattern before a fade that is under way. -/
def fadeWeight (offset duration : UInt64) (curve : Curve) (now : Time) : Level :=
  255 - Blend.weight curve (now.millis - offset.toNat) duration.toNat

/-- The weight of the pattern that a loop fades to. -/
def loopWeight (hold fade : UInt64) (curve : Curve) (now : Time) : Level :=
  Blend.weight curve (now.millis % loopPeriod hold fade - hold.toNat) fade.toNat

mutual

/-- Whether a drawing at a time, on a strip of this length, covers a pixel of the strip. -/
def covers : Pattern → Time → (length pixel : Nat) → Bool
  | .color _, _, _, _ => true
  | .frame _, _, _, _ => true
  | .rainbow, _, _, _ => true
  | .repeated base, _, _, _ => !base.isEmpty
  | .gradient left right curve, now, length, pixel =>
      left.isSome && right.isSome &&
        (childCovers left now length pixel || Blend.slope curve length pixel == 255)
  | .transition before after offset duration curve, now, length, pixel =>
      if now.millis ≤ offset.toNat then childCovers before now length pixel
      else if fadeEnd offset duration ≤ now.millis || before.isNone || after.isNone then
        childCovers after (now.since offset.toNat) length pixel
      else
        childCovers after (now.since offset.toNat) length pixel ||
          fadeWeight offset duration curve now == 255
  | .cycle frames duration, now, length, pixel =>
      nthCovers frames (cycleIndex frames.length duration now) now length pixel
  | .loop patterns hold fade curve, now, length, pixel =>
      let shown := nthCovers patterns (loopIndex patterns.length hold fade now) now length pixel
      if loopPeriod hold fade = 0 ∨ patterns = [] ∨
          now.millis % loopPeriod hold fade < hold.toNat then shown
      else shown || loopWeight hold fade curve now == 255
  | .rotate child _, _, _, _ => child.isSome
  | .pingPong child _, _, _, _ => child.isSome
  | .chronometer child, _, _, _ => child.isSome
  | .crop child segment, now, length, pixel =>
      segment.Fits length && segment.start.toNat ≤ pixel && pixel < segment.stop.toNat &&
        childCovers child now (segment.stop.toNat - segment.start.toNat)
          (pixel - segment.start.toNat)
  | .scale child _ size ratio, _, length, _ =>
      match scaledLength? size ratio length with
      | none => false
      | some scaled => scaled != 0 && child.isSome
  | .mixer patterns weights, _, _, _ => patterns.length == weights.length

def childCovers : Option Pattern → Time → (length pixel : Nat) → Bool
  | none, _, _, _ => false
  | some child, now, length, pixel => covers child now length pixel

def nthCovers : List Pattern → (index : Nat) → Time → (length pixel : Nat) → Bool
  | [], _, _, _, _ => false
  | pattern :: _, 0, now, length, pixel => covers pattern now length pixel
  | _ :: patterns, index + 1, now, length, pixel => nthCovers patterns index now length pixel

end

theorem nthCovers_eq (patterns : List Pattern) (index : Nat) (now : Time) (length : Nat) :
    nthCovers patterns index now length = childCovers patterns[index]? now length := by
  funext pixel
  induction patterns generalizing index with
  | nil => rfl
  | cons pattern rest ih =>
      cases index with
      | zero => rfl
      | succ index => exact ih index

theorem childCovers_of_draws {child : Option Pattern} (now : Time) {length : Nat}
    (draws : ChildDraws child length)
    (holds : ∀ inner ∈ child, inner.FullyDraws length →
      ∀ pixel < length, inner.covers now length pixel = true) {pixel : Nat}
    (inside : pixel < length) : childCovers child now length pixel = true := by
  obtain ⟨inner, rfl, full⟩ := draws.present
  exact holds inner rfl full pixel inside

theorem nthCovers_of_draws {patterns : List Pattern} (now : Time) {length index : Nat}
    (draws : EachDraws patterns length) (present : index < patterns.length)
    (holds : ∀ child ∈ patterns, child.FullyDraws length →
      ∀ pixel < length, child.covers now length pixel = true) {pixel : Nat}
    (inside : pixel < length) : nthCovers patterns index now length pixel = true := by
  have here := List.getElem_mem present
  rw [nthCovers_eq, List.getElem?_eq_getElem present]
  exact holds _ here (draws.of_mem here) pixel inside

/-- A tree that draws every pixel at every node covers every pixel. -/
theorem covers_of_fullyDraws (pattern : Pattern) {now : Time} {length : Nat}
    (full : pattern.FullyDraws length) :
    ∀ pixel < length, pattern.covers now length pixel = true := by
  induction pattern using induct generalizing now length with
  | color ink => exact fun _ _ => rfl
  | frame pixels => exact fun _ _ => rfl
  | rainbow => exact fun _ _ => rfl
  | repeated base =>
      cases base with
      | nil => exact absurd rfl full
      | cons first rest => exact fun _ _ => rfl
  | gradient left right curve leftCovers rightCovers =>
      obtain ⟨second, rfl, -⟩ := full.2.present
      obtain ⟨first, rfl, firstFull⟩ := full.1.present
      intro pixel inside
      simp only [covers, childCovers, leftCovers first rfl firstFull pixel inside,
        Option.isSome_some, Bool.true_or, Bool.and_self]
  | transition before after offset duration curve beforeCovers afterCovers =>
      intro pixel inside
      have first := childCovers_of_draws now full.1 (fun _ => (beforeCovers _ ·)) inside
      have second := childCovers_of_draws (now.since offset.toNat) full.2
        (fun _ => (afterCovers _ ·)) inside
      simp only [covers, first, second, Bool.true_or, ite_self]
  | cycle frames duration each =>
      have count := List.length_pos_iff.mpr full.1
      intro pixel inside
      exact nthCovers_of_draws now full.2 (cycleIndex_lt count duration now)
        (fun _ => (each _ ·)) inside
  | loop patterns hold fade curve each =>
      have count := List.length_pos_iff.mpr full.1
      intro pixel inside
      have shown := nthCovers_of_draws now full.2 (loopIndex_lt count hold fade now)
        (fun _ => (each _ ·)) inside
      simp only [covers, shown, Bool.true_or, ite_self]
  | rotate child rate =>
      obtain ⟨inner, rfl, -⟩ := ChildDraws.present full
      exact fun _ _ => rfl
  | pingPong child rate =>
      obtain ⟨inner, rfl, -⟩ := ChildDraws.present full
      exact fun _ _ => rfl
  | chronometer child =>
      obtain ⟨inner, rfl, -⟩ := ChildDraws.present full
      exact fun _ _ => rfl
  | crop child segment innerCovers =>
      obtain ⟨starts, stops, draws⟩ := full
      have fits : segment.Fits length := ⟨by omega, by omega⟩
      intro pixel inside
      have drawn := childCovers_of_draws now draws (fun _ => (innerCovers _ ·)) inside
      simp only [covers, fits, starts, stops, Nat.zero_le, inside, decide_true, Bool.true_and,
        Nat.sub_zero, drawn]
  | scale child method size ratio =>
      simp only [FullyDraws] at full
      intro pixel inside
      split at full
      · exact full.elim
      · next scaled usable =>
          obtain ⟨inner, rfl, -⟩ := full.2.present
          have some : scaled ≠ 0 := fun none =>
            absurd (full.1 none) (Nat.ne_of_gt (Nat.zero_lt_of_lt inside))
          simp only [covers, usable, Option.isSome_some, Bool.and_true, bne_iff_ne, ne_eq, some,
            not_false_eq_true]
  | mixer patterns weights =>
      intro pixel _
      simp only [covers, full.1, beq_self_eq_true]

end Pattern

end LightShow
