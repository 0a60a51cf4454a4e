import LightShow.Proofs.Drawing

/-! The trail of a ping pong. Its head sweeps over the strip and back, one pixel with every move,
and each pixel of the strip shows the pixel of the trail whose number is the number of moves since
the head was last there. -/

namespace LightShow

namespace Motion

/-- The pixel that the head has reached after some moves: a triangle wave that starts at the first
pixel. -/
def sweep (length : Nat) (moves : Int) : Int :=
  let last : Int := length - 1
  let way := moves % (2 * last)
  if way ≤ last then way else 2 * last - way

/-- The head was at a pixel some moves ago, and not since. -/
structure LastPassed (length : Nat) (moves : Int) (pixel ago : Nat) : Prop where
  passed : sweep length (moves - ago) = pixel
  since : ∀ later < ago, sweep length (moves - later) ≠ pixel

/-- Which pixel of the trail is seen at a pixel of the strip after some moves. -/
def seen (length : Nat) (moves : Int) (pixel : Nat) : Nat :=
  age length (place moves (2 * (length - 1))) pixel

namespace LastPassed

variable {length pixel ago : Nat} {moves : Int}

theorem unique (passed : LastPassed length moves pixel ago) {other : Nat}
    (again : LastPassed length moves pixel other) : ago = other := by
  apply Nat.le_antisymm
  · apply Nat.le_of_not_lt
    intro later
    exact passed.since other later again.passed
  · apply Nat.le_of_not_lt
    intro later
    exact again.since ago later passed.passed

theorem here (head : sweep length moves = pixel) : LastPassed length moves pixel 0 where
  passed := by rwa [Int.natCast_zero, Int.sub_zero]
  since := fun _ sooner => absurd sooner (Nat.not_lt_zero _)

/-- A move takes the head one move further from every pixel but the one that it comes to. -/
theorem step (passed : LastPassed length moves pixel ago)
    (elsewhere : sweep length (moves + 1) ≠ pixel) :
    LastPassed length (moves + 1) pixel (ago + 1) where
  passed := by
    have back : moves + 1 - (ago + 1 : Nat) = moves - ago := by omega
    rw [back, passed.passed]
  since := by
    intro later sooner
    cases later with
    | zero => rwa [Int.natCast_zero, Int.sub_zero]
    | succ later =>
        have back : moves + 1 - (later + 1 : Nat) = moves - later := by omega
        rw [back]
        exact passed.since later (by omega)

end LastPassed

/-- Fewer moves ago than there are places on the ring, the head was as many places behind. -/
theorem place_sub (moves : Int) {ring ago : Nat} (recent : ago < ring) :
    place (moves - ago) ring =
      if ago ≤ place moves ring then place moves ring - ago else place moves ring + ring - ago := by
  have positive : 0 < ring := by omega
  have inside := place_lt moves positive
  have head := natCast_place moves positive
  have past := natCast_place (moves - ago) positive
  rw [← Int.emod_sub_emod, ← head] at past
  split
  · next ahead =>
      rw [Int.emod_eq_of_lt (by omega) (by omega)] at past
      omega
  · next behind =>
      rw [← Int.add_emod_right, Int.emod_eq_of_lt (by omega) (by omega)] at past
      omega

variable {length pixel : Nat}

/-- The head is at a pixel at its place on the way to the last one, and again as many places before
the end of the way back. -/
theorem sweep_eq_iff (several : 2 ≤ length) (moves : Int) (inside : pixel < length) :
    sweep length moves = pixel ↔
      place moves (2 * (length - 1)) = pixel ∨
        place moves (2 * (length - 1)) + pixel = 2 * (length - 1) := by
  have far : 0 < 2 * (length - 1) := by omega
  have ring : (2 : Int) * (length - 1) = (2 * (length - 1) : Nat) := by omega
  have way := place_lt moves far
  rw [sweep, ring, ← natCast_place moves far]
  split
  · omega
  · omega

/-- When the head was at a pixel within the last moves there and back: on its way out or back, of
this round or the one before. -/
theorem sweep_sub_iff (several : 2 ≤ length) (moves : Int) (inside : pixel < length) {ago : Nat}
    (recent : ago < 2 * (length - 1)) :
    sweep length (moves - ago) = pixel ↔
      ago + pixel = place moves (2 * (length - 1)) ∨
        ago + 2 * (length - 1) = place moves (2 * (length - 1)) + pixel ∨
        ago + pixel = place moves (2 * (length - 1)) + 2 * (length - 1) ∨
        ago = place moves (2 * (length - 1)) + pixel := by
  have way := place_lt moves (show 0 < 2 * (length - 1) by omega)
  rw [sweep_eq_iff several _ inside, place_sub moves recent]
  split
  · omega
  · omega

theorem exists_sweep (several : 2 ≤ length) (moves : Int) :
    ∃ head < length, sweep length moves = (head : Int) := by
  have way := place_lt moves (show 0 < 2 * (length - 1) by omega)
  by_cases out : place moves (2 * (length - 1)) < length
  · exact ⟨_, out, (sweep_eq_iff several moves out).mpr (.inl rfl)⟩
  · have inside : 2 * (length - 1) - place moves (2 * (length - 1)) < length := by omega
    exact ⟨_, inside, (sweep_eq_iff several moves inside).mpr (.inr (by omega))⟩

/-- The trail is seen from the latest of three passages: on the way back, on the way out, and on
the way back before that. -/
theorem age_eq {head : Nat} (way : head < 2 * (length - 1)) (inside : pixel < length) :
    age length head pixel =
      if 2 * (length - 1) ≤ head + pixel then head + pixel - 2 * (length - 1)
      else if pixel ≤ head then head - pixel
      else head + pixel := by
  unfold age
  dsimp only
  by_cases back : length - 1 ≤ head
  · rw [if_pos back]
    have passed : pixel ≤ head := by omega
    rw [if_pos passed]
    split
    · rw [if_neg (by omega)]
      omega
    · rw [if_pos (by omega)]
      omega
  · rw [if_neg back, if_neg (show ¬2 * (length - 1) ≤ head + pixel by omega)]

theorem seen_lt (moves : Int) (several : 2 ≤ length) (inside : pixel < length) :
    seen length moves pixel < 2 * (length - 1) := by
  have way := place_lt moves (show 0 < 2 * (length - 1) by omega)
  rw [seen, age_eq way inside]
  split
  · omega
  split
  · omega
  · omega

/-- The folded trail tells how long ago the head was last at a pixel. -/
theorem lastPassed_seen (several : 2 ≤ length) (moves : Int) (inside : pixel < length) :
    LastPassed length moves pixel (seen length moves pixel) := by
  have way := place_lt moves (show 0 < 2 * (length - 1) by omega)
  have recent := seen_lt moves several inside
  have folded : seen length moves pixel = _ := age_eq way inside
  constructor
  · rw [sweep_sub_iff several moves inside recent]
    split at folded
    · omega
    split at folded
    · omega
    · omega
  · intro later sooner
    rw [ne_eq, sweep_sub_iff several moves inside (Nat.lt_trans sooner recent)]
    split at folded
    · omega
    split at folded
    · omega
    · omega

/-- From one move to the next every pixel shows the next pixel of the trail, except the one to which
the head comes. -/
theorem seen_add_one (several : 2 ≤ length) (moves : Int) (inside : pixel < length)
    (elsewhere : sweep length (moves + 1) ≠ pixel) :
    seen length (moves + 1) pixel = seen length moves pixel + 1 :=
  (lastPassed_seen several (moves + 1) inside).unique
    ((lastPassed_seen several moves inside).step elsewhere)

theorem seen_of_here (several : 2 ≤ length) {moves : Int} (inside : pixel < length)
    (here : sweep length moves = pixel) : seen length moves pixel = 0 :=
  (lastPassed_seen several moves inside).unique (.here here)

theorem getElem?_bounce {trail : Strip} (long : trail.length = 2 * length - 1)
    (several : 2 ≤ length) (moves : Int) (inside : pixel < length) :
    (bounce trail length moves)[pixel]? = trail[seen length moves pixel]? := by
  have recent := seen_lt moves several inside
  have held : seen length moves pixel < trail.length := by omega
  rw [bounce, List.getElem?_map, List.getElem?_range inside]
  exact (Strip.getElem?_eq_getD held Color.black).symm

end Motion

namespace Pattern

/-- The trail that the child of a ping pong draws. -/
def trail (child : Pattern) (now : Time) (scratch : Scratch) (length : Nat) : Strip :=
  (child.render now (scratch.child 0) (scratch.strip.reset (2 * length - 1))).1

theorem length_trail (child : Pattern) (now : Time) (scratch : Scratch) (length : Nat) :
    (child.trail now scratch length).length = 2 * length - 1 := by
  rw [trail, length_render, Strip.length_reset]

theorem render_pingPong_some (child : Pattern) (rate : Float32) (now : Time) (scratch : Scratch)
    {strip : Strip} (several : 2 ≤ strip.length) :
    (render (.pingPong (some child) rate) now scratch strip).1 =
      Motion.bounce (child.trail now scratch strip.length) strip.length
        (Motion.moves now rate) := by
  have filled : ¬strip.isEmpty = true := by
    rw [List.isEmpty_iff]
    rintro rfl
    exact absurd several (by decide)
  rw [render_pingPong, if_neg filled, throughFrame, trail, Nat.mul_comm 2]
  simp only [Option.isNone_some, Bool.false_eq_true, ↓reduceIte, renderChild,
    if_neg (show strip.length ≠ 1 by omega)]

/-- A ping pong shows at every pixel how long ago the head of its trail was last there. After any
number of moves, in either direction, the head was at every pixel within one way there and
back; the pixel where it is shows the first pixel of the trail, and with each further move every
pixel shows the next one, except the pixel to which the head comes. -/
theorem pingPong_shows_lastPassed (child : Pattern) (rate : Float32) (now : Time)
    (scratch : Scratch) {strip : Strip} (several : 2 ≤ strip.length) :
    let length := strip.length
    let trail := child.trail now scratch length
    let shown := (render (.pingPong (some child) rate) now scratch strip).1
    (trail.length = 2 * length - 1 ∧ shown.length = length ∧
      ∀ pixel < length, shown[pixel]? = trail[Motion.seen length (Motion.moves now rate) pixel]?) ∧
    ∀ moves : Int,
      (∀ pixel < length, Motion.LastPassed length moves pixel (Motion.seen length moves pixel) ∧
        Motion.seen length moves pixel < 2 * length - 1) ∧
      (∃ head < length, Motion.sweep length moves = (head : Int) ∧
        Motion.seen length moves head = 0) ∧
      ∀ pixel < length, Motion.sweep length (moves + 1) ≠ pixel →
        Motion.seen length (moves + 1) pixel = Motion.seen length moves pixel + 1 := by
  intro length trail shown
  have long : trail.length = 2 * length - 1 := child.length_trail now scratch length
  refine ⟨⟨long, length_render .., fun pixel inside => ?_⟩, fun moves => ⟨fun pixel inside => ?_,
    ?_, fun pixel inside elsewhere => Motion.seen_add_one several moves inside elsewhere⟩⟩
  · rw [← Motion.getElem?_bounce long several _ inside]
    exact congrArg (·[pixel]?) (render_pingPong_some child rate now scratch several)
  · have recent := Motion.seen_lt moves several inside
    exact ⟨Motion.lastPassed_seen several moves inside, Nat.lt_of_lt_of_le recent (by omega)⟩
  · obtain ⟨head, inside, here⟩ := Motion.exists_sweep several moves
    exact ⟨head, inside, here, Motion.seen_of_here several inside here⟩

/-- Seven pixels over a strip of four, five moves backwards: the last pixel shows the trail from
where the head was four moves ago. -/
theorem pingPong_shows_lastPassed_backwards :
    let pixels : Strip :=
      [⟨9, 0, 0⟩, ⟨8, 0, 0⟩, ⟨7, 0, 0⟩, ⟨6, 0, 0⟩, ⟨5, 0, 0⟩, ⟨4, 0, 0⟩, ⟨3, 0, 0⟩]
    let shown := (render (.pingPong (some (.frame pixels)) (-2.0)) (.ofMillis 2500) .fresh
      (Strip.dark 4)).1
    2 ≤ (Strip.dark 4).length ∧ Motion.moves (.ofMillis 2500) (-2.0) = -5 ∧
      Motion.LastPassed 4 (-5) 3 4 ∧ shown[3]? = some ⟨5, 0, 0⟩ := by
  intro pixels shown
  have several : 2 ≤ (Strip.dark 4).length := by decide
  obtain ⟨⟨-, -, drawn⟩, sweeps⟩ := pingPong_shows_lastPassed (.frame pixels) (-2.0)
    (.ofMillis 2500) .fresh several
  have passed := ((sweeps (-5)).1 3 (by decide)).1
  exact ⟨several, by decide, passed, (drawn 3 (by decide)).trans (by decide)⟩

end Pattern

end LightShow
