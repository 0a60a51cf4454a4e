import LightShow.Color.Hex

/-! A strip of pixels, first pixel first, and the ways in which patterns write over one. -/

namespace LightShow

abbrev Strip := List Color

namespace Strip

/-- A strip with every pixel off. -/
def dark (length : Nat) : Strip := List.replicate length Color.black

/-- The strip itself if it has the length asked for, otherwise a dark one of that length. -/
def reset (strip : Strip) (length : Nat) : Strip :=
  if strip.length = length then strip else dark length

/-- Every pixel set to one color. -/
def fill (strip : Strip) (color : Color) : Strip := List.replicate strip.length color

/-- Every pixel blended towards the pixel of `other` at its place. Pixels that have none there
stay as they are. -/
def mix : Strip → Strip → Level → Strip
  | pixel :: rest, target :: targets, weight => pixel.blend target weight :: mix rest targets weight
  | rest, _, _ => rest

/-- The first `length` pixels of a strip, followed by dark ones if it is shorter. -/
def fit (strip : Strip) (length : Nat) : Strip :=
  strip.take length ++ dark (length - strip.length)

/-- `length` pixels that repeat `base` from its start; only dark ones if it is empty. -/
def tile (base : Strip) (length : Nat) : Strip :=
  let pixels := base.toArray
  (List.range length).map fun place => pixels.getD (place % pixels.size) Color.black

/-- The strip turned by `offset` places: what runs off its end comes back at its start. -/
def turn (strip : Strip) (offset : Nat) : Strip :=
  strip.drop (strip.length - offset) ++ strip.take (strip.length - offset)

theorem getD_toArray_of_lt {strip : Strip} {place : Nat} (inside : place < strip.length)
    (other : Color) : strip.toArray.getD place other = strip[place] := dif_pos inside

theorem getElem?_eq_getD {strip : Strip} {place : Nat} (inside : place < strip.length)
    (other : Color) : strip[place]? = some (strip.toArray.getD place other) := by
  rw [getD_toArray_of_lt inside, List.getElem?_eq_getElem inside]

theorem length_dark (length : Nat) : (dark length).length = length := List.length_replicate

theorem length_reset (strip : Strip) (length : Nat) : (reset strip length).length = length := by
  unfold reset
  by_cases same : strip.length = length
  · rw [if_pos same, same]
  · rw [if_neg same, length_dark]

theorem length_fill (strip : Strip) (color : Color) : (fill strip color).length = strip.length :=
  List.length_replicate

theorem length_mix (strip other : Strip) (weight : Level) :
    (mix strip other weight).length = strip.length := by
  induction strip generalizing other with
  | nil => cases other <;> rfl
  | cons pixel rest ih =>
      cases other with
      | nil => rfl
      | cons target targets => simp only [mix, List.length_cons, ih]

theorem length_fit (strip : Strip) (length : Nat) : (fit strip length).length = length := by
  simp only [fit, dark, List.length_append, List.length_take, List.length_replicate]
  omega

theorem length_tile (base : Strip) (length : Nat) : (tile base length).length = length := by
  simp [tile]

theorem length_turn (strip : Strip) (offset : Nat) :
    (turn strip offset).length = strip.length := by
  simp only [turn, List.length_append, List.length_drop, List.length_take]
  omega

/-- The text of a strip: the letter `L`, then the six digits of each pixel. -/
def toText (strip : Strip) : List Char := 'L' :: strip.flatMap Color.toHex

/-- The pixels written in groups of six digits. -/
def ofHex? : List Char → Option Strip
  | [] => some []
  | r₁ :: r₂ :: g₁ :: g₂ :: b₁ :: b₂ :: rest => do
    let pixel ← Color.ofHex? [r₁, r₂, g₁, g₂, b₁, b₂]
    let pixels ← ofHex? rest
    return pixel :: pixels
  | _ => none

/-- Reads the text of a strip, with digits of either case. -/
def ofText? : List Char → Option Strip
  | 'L' :: digits => ofHex? digits
  | _ => none

theorem ofHex?_flatMap (strip : Strip) : ofHex? (strip.flatMap Color.toHex) = some strip := by
  induction strip with
  | nil => rfl
  | cons pixel rest ih =>
      have head := Color.ofHex?_toHex pixel
      simp only [Color.toHex, Hex.ofByte, List.cons_append, List.nil_append] at head
      simp only [List.flatMap_cons, Color.toHex, Hex.ofByte, List.cons_append, List.nil_append,
        ofHex?, head, ih]
      rfl

theorem ofText?_toText (strip : Strip) : ofText? strip.toText = some strip :=
  ofHex?_flatMap strip

end Strip

end LightShow
