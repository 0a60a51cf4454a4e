import LightShow.Proofs.Drawing
import LightShow.Proofs.Slips

/-! What the kinds of pattern do to pixels, step by step: every place that is looked up, every
copy and every word of arithmetic on the way to a pixel. Each function here has the value of the
whole-strip operation that it spells out. -/

namespace LightShow

namespace Step

open Logged

/-- The mean of two levels in words of 16 bits. -/
def blendLevel (first second weight : Level) : Step Level := do
  let keep ← minus 255 weight.toNat
  let left ← word 16 (first.toNat * keep)
  let right ← word 16 (second.toNat * weight.toNat)
  let sum ← word 16 (left + right)
  let mean ← quotient sum 255
  return UInt8.ofNat mean

def blend (first second : Color) (weight : Level) : Step Color := do
  let red ← blendLevel first.red second.red weight
  let green ← blendLevel first.green second.green weight
  let blue ← blendLevel first.blue second.blue weight
  return ⟨red, green, blue⟩

def mix : Strip → Strip → Level → Step Strip
  | pixel :: rest, target :: targets, weight => do
      let first ← blend pixel target weight
      let others ← mix rest targets weight
      return first :: others
  | rest, _, _ => pure rest

/-- Fixed pixels from the start of a strip. -/
def fit (pixels strip : Strip) : Step Strip := do
  let count := min strip.length pixels.length
  let covered ← part strip 0 count
  let shown ← part pixels 0 count
  let start ← copy shown covered
  let rest ← part strip count strip.length
  return start ++ rest.fill Color.black

/-- A part of a distance along a line of the spectrum, in signed words. -/
def share (factor distance run : Int) : Step Int := do
  let distance ← signed distance
  let product ← signed (factor * distance)
  checked (run ≠ 0) (.byZero product) (product / run)

def level (sum : Int) : Step Level := do
  let sum ← signed sum
  return UInt8.ofNat sum.toNat

def spectrum (nm : Int) : Step Color :=
  if nm < Spectrum.first then pure .black
  else if nm < 420 then do
    let red ← level (196 - (← share 170 (440 - nm) 60))
    let blue ← level (26 + (← share 229 (nm - 380) 40))
    return ⟨red, 0, blue⟩
  else if nm < 440 then do
    let red ← level (← share 137 (440 - nm) 20)
    return ⟨red, 0, 255⟩
  else if nm < 490 then do
    let green ← level (← share 255 (nm - 440) 50)
    return ⟨0, green, 255⟩
  else if nm < 510 then do
    let blue ← level (← share 255 (510 - nm) 20)
    return ⟨0, 255, blue⟩
  else if nm < 580 then do
    let red ← level (← share 255 (nm - 510) 70)
    return ⟨red, 255, 0⟩
  else if nm < 645 then do
    let green ← level (← share 255 (645 - nm) 65)
    return ⟨255, green, 0⟩
  else if nm < 700 then pure ⟨255, 0, 0⟩
  else if nm < Spectrum.past then do
    let red ← level (26 + (← share 229 (780 - nm) 80))
    return ⟨red, 0, 0⟩
  else pure .black

/-- The wavelength at a pixel that has some pixels behind it. -/
def wavelength (length behind : Nat) : Int :=
  let step := 1.0 / (UInt64.ofNat length).toFloat32
  let distance := (UInt64.ofNat behind).toFloat32 * step
  let position := Logarithm.onePlus distance / Logarithm.two
  let exact := Exact.ofSingle (380.0 + 401.0 * (1.0 - position))
  exact.floorWithin Int32.minValue.toInt Int32.maxValue.toInt

def rainbow (length : Nat) : Step Strip :=
  each (List.range length) fun place => do
    let ahead ← minus length place
    let behind ← minus ahead 1
    spectrum (wavelength length behind)

/-- Two strips blended along their length. -/
def gradient (curve : Curve) (left right : Strip) : Step Strip :=
  if left.length = 1 then do
    let first ← pixel left 0
    let second ← pixel right 0
    let middle ← blend first second (curve.weight 32767)
    return left.set 0 middle
  else do
    let last ← minus left.length 1
    each (left.zip right).zipIdx fun ((first, second), place) => do
      let scaled ← times place 65535
      let progress ← quotient scaled last
      blend first second (curve.weight (UInt16.ofNat progress))

/-- The time after some milliseconds; the clock counts microseconds. -/
def after (count : Nat) : Step Time := do
  let micros ← times count 1000
  return ⟨micros⟩

def through (elapsed duration : Time) : Step Progress :=
  if duration.millis = 0 then pure 0
  else if duration.millis ≤ elapsed.millis then pure 65535
  else do
    let scaled ← times elapsed.millis 65535
    let progress ← quotient scaled duration.millis
    return UInt16.ofNat progress

/-- The weight of the new side of a fade. -/
def fade (curve : Curve) (elapsed duration : Nat) : Step Level := do
  let elapsed ← after elapsed
  let duration ← after duration
  let progress ← through elapsed duration
  return curve.weight progress

/-- The weight that is left for the old side. -/
def opposite (weight : Level) : Step Level := do
  let left ← minus 255 weight.toNat
  return UInt8.ofNat left

/-- Which frame of a cycle is shown, out of at least one. -/
def cycleIndex (count : Nat) (duration : UInt64) (now : Time) : Step Nat := do
  let index ←
    if duration = 0 then pure 0
    else do
      let turns ← quotient now.millis duration.toNat
      modulo turns count
  at? index count
  return index

/-- How often a loop has turned, and how far it is into the present turn. -/
def loopTurn (period : Nat) (now : Time) : Step (Nat × Nat) := do
  let turns ← quotient now.millis period
  let offset ← modulo now.millis period
  return (turns, offset)

def loopIndex (count turns : Nat) : Step Nat := do
  let index ← modulo turns count
  at? index count
  return index

/-- The place reached after some moves around a ring. -/
def place (moves : Int) (length : Nat) : Step Nat :=
  checked (length ≠ 0) (.byZero moves) (Motion.place moves length)

/-- A frame turned by some places, in two copies onto a strip of its length. -/
def turn (frame strip : Strip) (offset : Nat) : Step Strip := do
  let later ← part strip offset strip.length
  let shown ← minus strip.length offset
  let stays ← copy (← part frame 0 shown) later
  let sooner ← part strip 0 offset
  let shown ← minus strip.length offset
  let wraps ← copy (← part frame shown frame.length) sooner
  return wraps ++ stays

/-- What is seen of a trail whose head is on its way to the last pixel. -/
def leaving (trail : Strip) (head place : Nat) : Step Color :=
  if place ≤ head then do
    let behind ← minus head place
    pixel trail behind
  else do
    let ahead ← plus head place
    pixel trail ahead

/-- What is seen of a trail whose head is some places on its way back. -/
def returning (trail : Strip) (length back limit place : Nat) : Step Color :=
  if place < limit then do
    let ahead ← minus length place
    let ahead ← plus ahead back
    let ahead ← minus ahead 1
    pixel trail ahead
  else do
    let behind ← minus place limit
    pixel trail behind

/-- A trail folded over a strip, by where its head is on the way to the last pixel and back. -/
def fold (trail : Strip) (length last head : Nat) : Step Strip :=
  if last ≤ head then do
    let next ← plus head 1
    let back ← minus next length
    let rest ← minus length back
    let limit ← minus rest 1
    each (List.range length) (returning trail length back limit)
  else each (List.range length) (leaving trail head)

def bounce (trail : Strip) (length : Nat) (moves : Int) : Step Strip := do
  let last ← minus length 1
  let ring ← times 2 last
  let head ← place moves ring
  fold trail length last head

/-- The trail of a strip of any length but zero. -/
def trail (frame strip : Strip) (moves : Int) : Step Strip :=
  if strip.length = 1 then do
    let only ← pixel frame 0
    return strip.set 0 only
  else bounce frame strip.length moves

def hand (length value whole : Nat) : Step Nat := do
  let value ← modulo value whole
  let scaled ← times length value
  let half ← quotient whole 2
  let sum ← plus scaled half
  quotient sum whole

/-- A clock face. A hand past the end of the strip is not painted. -/
def face (palette : Strip) (length : Nat) (now : Time) : Step Strip := do
  let seconds ← quotient now.millis 1000
  let minutes ← quotient seconds 60
  let hours ← quotient minutes 60
  let ground ← pixel palette 0
  let hour ← hand length hours length
  let hourInk ← pixel palette 3
  let minute ← hand length minutes 60
  let minuteInk ← pixel palette 2
  let second ← hand length seconds 60
  let secondInk ← pixel palette 1
  let hoursShown := Clock.paint (List.replicate length ground) hour hourInk
  return Clock.paint (Clock.paint hoursShown minute minuteInk) second secondInk

def sample (method : Sampling) (source : Strip) (place : Nat) : Step Color :=
  let index := place / 256
  let fraction := place % 256
  match method with
  | .nearest =>
      if 128 ≤ fraction then do
        let next ← plus index 1
        pixel source next
      else pixel source index
  | .linear => do
      let next ← plus index 1
      match source[next]? with
      | some second =>
          if fraction = 0 then pixel source index
          else do
            let first ← pixel source index
            blend first second (UInt8.ofNat fraction)
      | none => pixel source index

def resample (method : Sampling) (source target : Strip) : Step Strip :=
  match source with
  | [] => pure target
  | first :: _ =>
      if target.isEmpty then pure target
      else if source.length = target.length then copy source target
      else if source.length = 1 ∨ target.length = 1 then pure (target.fill first)
      else do
        let span ← minus source.length 1
        let steps ← minus target.length 1
        each (List.range target.length) fun index => do
          let scaled ← times index span
          let finer ← times scaled 256
          let place ← quotient finer steps
          sample method source place

/-- The light of some layers at one place. -/
def gather (place : Nat) : List (Strip × Float32) → Light → Step Light
  | [], light => pure light
  | (pixels, weight) :: layers, light => do
      let ink ← pixel pixels place
      gather place layers (light.add ink weight)

def mixture (length : Nat) (layers : List (Strip × Float32)) : Step Strip :=
  each (List.range length) fun place => do
    let light ← gather place layers .none
    return light.color

theorem value_blend (first second : Color) (weight : Level) :
    (blend first second weight).value = first.blend second weight := rfl

theorem value_mix (strip other : Strip) (weight : Level) :
    (mix strip other weight).value = strip.mix other weight := by
  induction strip generalizing other with
  | nil => rfl
  | cons pixel rest ih =>
      cases other with
      | nil => rfl
      | cons target targets => simp only [mix, Strip.mix, value_bind, value_pure, value_blend, ih]

theorem value_fit (pixels strip : Strip) :
    (fit pixels strip).value = pixels.fit strip.length := by
  have shown : pixels.take (min strip.length pixels.length) = pixels.take strip.length := by
    rw [← List.take_take, List.take_length]
  have dark : (strip.drop (min strip.length pixels.length)).length =
      strip.length - pixels.length := by
    rw [List.length_drop]
    omega
  simp only [fit, value_bind, value_part, value_copy, value_pure, List.drop_zero, List.take_length,
    shown, Strip.fill, dark]
  rfl

theorem value_spectrum (nm : Int) : (spectrum nm).value = Spectrum.color nm := by
  unfold spectrum Spectrum.color
  repeat rw [apply_ite Logged.value]
  rfl

theorem value_rainbow (length : Nat) : (rainbow length).value = Rainbow.pixels length := by
  simp only [rainbow, value_each, value_bind, value_minus, value_spectrum]
  rfl

theorem value_gradient (curve : Curve) {left right : Strip} (even : left.length = right.length) :
    (gradient curve left right).value = Blend.gradient curve left right := by
  unfold gradient Blend.gradient
  split
  · next single =>
      obtain ⟨first, rfl⟩ := List.length_eq_one_iff.mp single
      obtain ⟨second, rfl⟩ := List.length_eq_one_iff.mp (even ▸ single)
      rfl
  · next several =>
      simp only [value_bind, value_minus, value_each, value_times, value_quotient, value_blend,
        List.mapIdx_eq_zipIdx_map, Blend.slope, several, ↓reduceIte]

theorem value_through (elapsed duration : Time) :
    (through elapsed duration).value = Progress.through elapsed duration := by
  unfold through Progress.through
  split
  · rfl
  split
  · rfl
  · rfl

theorem value_after (count : Nat) : (after count).value = .ofMillis count := rfl

theorem value_fade (curve : Curve) (elapsed duration : Nat) :
    (fade curve elapsed duration).value = Blend.weight curve elapsed duration := by
  simp only [fade, value_bind, value_after, value_through, value_pure, Blend.weight]

theorem value_opposite (weight : Level) : (opposite weight).value = 255 - weight := by
  have bound := weight.toNat_lt
  apply UInt8.toNat_inj.mp
  change (UInt8.ofNat (255 - weight.toNat)).toNat = _
  rw [UInt8.toNat_ofNat', Level.opposite_toNat]
  exact Nat.mod_eq_of_lt (by omega)

theorem value_cycleIndex (count : Nat) (duration : UInt64) (now : Time) :
    (cycleIndex count duration now).value = Pattern.cycleIndex count duration now := by
  unfold cycleIndex Pattern.cycleIndex
  split <;> rfl

theorem value_turn {frame strip : Strip} (even : frame.length = strip.length) (offset : Nat) :
    (turn frame strip offset).value = frame.turn offset := by
  simp only [turn, value_bind, value_part, value_minus, value_copy, value_pure, List.drop_zero,
    List.take_length, Strip.turn, ← even]

theorem value_place (moves : Int) (length : Nat) :
    (place moves length).value = Motion.place moves length := rfl

theorem getD_toArray (pixels : Strip) (place : Nat) (ink : Color) :
    pixels.toArray.getD place ink = pixels.getD place ink := by
  simp [Array.getD_eq_getD_getElem?]

theorem value_leaving (trail : Strip) {length head : Nat} (out : ¬length - 1 ≤ head)
    (place : Nat) : (leaving trail head place).value =
      trail.getD (Motion.age length head place) Color.black := by
  rw [Motion.age, if_neg out]
  unfold leaving
  split <;> rfl

theorem value_returning (trail : Strip) {length head : Nat} (back : length - 1 ≤ head)
    (place : Nat) :
    (returning trail length (head + 1 - length) (length - (head + 1 - length) - 1) place).value =
      trail.getD (Motion.age length head place) Color.black := by
  rw [Motion.age, if_pos back]
  unfold returning
  dsimp only
  split <;> rfl

theorem value_fold (trail : Strip) (length head : Nat) :
    (fold trail length (length - 1) head).value =
      (List.range length).map fun place =>
        trail.getD (Motion.age length head place) Color.black := by
  unfold fold
  split
  · next back =>
      exact List.map_congr_left fun place _ => value_returning trail back place
  · next out =>
      exact List.map_congr_left fun place _ => value_leaving trail out place

theorem value_bounce (trail : Strip) (length : Nat) (moves : Int) :
    (bounce trail length moves).value = Motion.bounce trail length moves := by
  simp only [bounce, value_bind, value_minus, value_times, value_place, value_fold, Motion.bounce,
    getD_toArray]

theorem value_trail {frame strip : Strip} (even : frame.length = strip.length * 2 - 1)
    (moves : Int) : (trail frame strip moves).value =
      if strip.length = 1 then frame else Motion.bounce frame strip.length moves := by
  unfold trail
  split
  · next single =>
      obtain ⟨pixel, rfl⟩ := List.length_eq_one_iff.mp single
      obtain ⟨only, rfl⟩ := List.length_eq_one_iff.mp even
      rfl
  · exact value_bounce frame strip.length moves

theorem value_face (palette : Strip) (length : Nat) (now : Time) :
    (face palette length now).value = Clock.face palette length now := rfl

theorem value_sample (method : Sampling) (source : Strip) (first : Color) {place : Nat}
    (inside : place / 256 < source.length)
    (next : 128 ≤ place % 256 → place / 256 + 1 < source.length) :
    (sample method source place).value = method.sample source.toArray first place := by
  have same : ∀ index < source.length, source.getD index Color.black = source.getD index first := by
    intro index here
    simp [List.getElem?_eq_getElem here]
  cases method with
  | nearest =>
      simp only [sample, Sampling.sample, getD_toArray]
      split
      · next near => exact same _ (next near)
      · exact same _ inside
  | linear =>
      simp only [sample, Sampling.sample, value_bind, value_plus, getD_toArray,
        List.getElem?_toArray]
      cases source[place / 256 + 1]? with
      | none => exact same _ inside
      | some second =>
          dsimp only
          split
          · exact same _ inside
          · simp only [value_bind, value_pixel, value_blend, same _ inside]

/-- Every place that is looked at lies on the source, and so does the next one where it is
looked at too. -/
theorem place_inside {index span steps : Nat} (inside : index ≤ steps) :
    Sampling.place index span steps / 256 ≤ span ∧
      (Sampling.place index span steps % 256 ≠ 0 →
        Sampling.place index span steps / 256 < span) := by
  have most : Sampling.place index span steps ≤ span * 256 := by
    apply Nat.div_le_of_le_mul
    rw [Nat.mul_assoc]
    exact Nat.mul_le_mul_right _ inside
  omega

theorem value_resample (method : Sampling) (source target : Strip) :
    (resample method source target).value = method.resample source target := by
  cases source with
  | nil => rfl
  | cons first rest =>
      unfold resample Sampling.resample
      dsimp only
      split
      · next empty =>
          rw [List.isEmpty_iff] at empty
          subst empty
          simp [Strip.fill]
      split
      · rfl
      split
      · rfl
      · next filled even several =>
          simp only [value_bind, value_minus, value_each, value_times, value_quotient]
          apply List.map_congr_left
          intro index here
          rw [List.isEmpty_iff, ← List.length_eq_zero_iff] at filled
          have below := List.mem_range.mp here
          have last : index ≤ target.length - 1 := by omega
          obtain ⟨inside, next⟩ := @place_inside _ ((first :: rest).length - 1) _ last
          have long : 0 < (first :: rest).length := Nat.succ_pos _
          apply value_sample method (first :: rest) first
          · change Sampling.place index _ _ / 256 < _
            omega
          · intro near
            change 128 ≤ Sampling.place index _ _ % 256 at near
            change Sampling.place index _ _ / 256 + 1 < _
            omega

/-- Adding a layer to the lights adds its pixel to each of them. -/
theorem zipWith_add (layer : Strip × Float32) {lights : List Light}
    (even : layer.1.length = lights.length) :
    List.zipWith (fun light pixel => Light.add light pixel layer.2) lights layer.1 =
      lights.mapIdx fun place light => light.add (layer.1.getD place Color.black) layer.2 := by
  apply List.ext_getElem
  · simp [even]
  · intro place left right
    simp only [List.length_zipWith] at left
    have here : place < layer.1.length := by omega
    simp [List.getElem?_eq_getElem here]

/-- The layers are added one after the other, and each place sees all of them in that order. -/
theorem foldl_zipWith_add {layers : List (Strip × Float32)} {lights : List Light}
    (even : ∀ layer ∈ layers, layer.1.length = lights.length) :
    layers.foldl (fun lights layer =>
        List.zipWith (fun light pixel => Light.add light pixel layer.2) lights layer.1) lights =
      lights.mapIdx fun place light => (gather place layers light).value := by
  induction layers generalizing lights with
  | nil => exact List.ext_getElem (by simp) (by simp [gather])
  | cons layer rest ih =>
      obtain ⟨first, others⟩ := List.forall_mem_cons.mp even
      rw [List.foldl_cons, zipWith_add layer first, ih (by simpa using others), List.mapIdx_mapIdx]
      rfl

theorem value_mixture {length : Nat} {layers : List (Strip × Float32)}
    (even : ∀ layer ∈ layers, layer.1.length = length) :
    (mixture length layers).value = Light.mixture length layers := by
  unfold Light.mixture Light.sum mixture
  rw [foldl_zipWith_add (by simpa using even)]
  simp [List.ext_getElem_iff]

end Step

end LightShow
