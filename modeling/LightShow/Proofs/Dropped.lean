import LightShow.Proofs.Follows

/-! The end of a fade. A fade that is over draws what the pattern after it draws on the clock that
starts with the fade, so that a player may drop it. There is one exception: a fade that takes no
time is over in the very millisecond in which it begins, but in that millisecond it still draws the
pattern before it. -/

namespace LightShow

theorem Time.since_since (now : Time) (origin offset : Nat) :
    (now.since origin).since offset = now.since (origin + offset) := by
  rw [Time.since, Time.millis_since, Nat.sub_sub, Time.since]

namespace Live

/-- Several drawings, one after the other, each at a time of its own on a strip of its own. -/
def drawings (live : Live) : List (Time × Strip) → List Strip
  | [] => []
  | (now, strip) :: rest =>
      let drawn := live.render now strip
      drawn.1 :: drawn.2.drawings rest

section Over

variable {before : Option Pattern} {after : Pattern} {offset duration : UInt64} {curve : Curve}
  {now : Time}

/-- A fade that is over has begun before, unless it takes no time. -/
theorem begun_of_over (fits : now.micros < UInt64.size)
    (finished : Pattern.fadeEnd offset duration ≤ now.millis) :
    offset.toNat < now.millis ∨ duration = 0 ∧ now.millis = offset.toNat := by
  have inside := Time.millis_lt_most fits
  unfold Pattern.fadeEnd at finished
  by_cases instant : duration.toNat = 0
  · have none : duration = 0 := UInt64.toNat_inj.mp instant
    by_cases same : now.millis = offset.toNat
    · exact .inr ⟨none, same⟩
    · exact .inl (by omega)
  · exact .inl (by omega)

/-- After its end a fade draws its target alone, on the target's clock, and gives up its frame. -/
theorem render_of_over (finished : Pattern.fadeEnd offset duration ≤ now.millis)
    (begun : offset.toNat < now.millis) (scratch : Scratch) (strip : Strip) :
    let drawn := render ⟨after, scratch.child 1⟩ (now.since offset.toNat) strip
    render ⟨.transition before (some after) offset duration curve, scratch⟩ now strip =
      (drawn.1, ⟨.transition before (some after) offset duration curve,
        .node [] [scratch.child 0, drawn.2.scratch]⟩) := by
  simp only [render, Pattern.render_transition, if_neg (Nat.not_le_of_lt begun), if_pos finished,
    Option.isNone_some, Bool.false_eq_true, ↓reduceIte, Pattern.renderChild]

/-- In the millisecond in which it begins a fade draws the pattern before it. -/
theorem render_of_beginning (same : now.millis = offset.toNat) (scratch : Scratch)
    (strip : Strip) :
    (render ⟨.transition before (some after) offset duration curve, scratch⟩ now strip).1 =
      (Pattern.renderChild before now (scratch.child 0) strip).1 := by
  simp only [render, Pattern.render_transition, if_pos (Nat.le_of_eq same)]

/-- However often it is drawn after its end, a fade goes on to draw its target, whose scratch in
the fade is the one that it has by itself. -/
theorem drawings_of_over {plan : List (Time × Strip)}
    (finished : ∀ turn ∈ plan, Pattern.fadeEnd offset duration ≤ turn.1.millis)
    (begun : ∀ turn ∈ plan, offset.toNat < turn.1.millis) (scratch : Scratch) :
    drawings ⟨.transition before (some after) offset duration curve, scratch⟩ plan =
      drawings ⟨after, scratch.child 1⟩
        (plan.map fun turn => (turn.1.since offset.toNat, turn.2)) := by
  induction plan generalizing scratch with
  | nil => rfl
  | cons turn rest ih =>
      obtain ⟨first, others⟩ := List.forall_mem_cons.mp finished
      obtain ⟨started, later⟩ := List.forall_mem_cons.mp begun
      rw [drawings, render_of_over first started, List.map_cons, drawings]
      exact congrArg _ (ih others later _)

/-- What a player drops is a fade that is over. -/
theorem over_of_fadeTarget? {live : Live} {target? : Option Live}
    (dropped : live.fadeTarget? now = some (offset, target?)) :
    ∃ before after duration curve,
      live.pattern = .transition before after offset duration curve ∧
      Pattern.fadeEnd offset duration ≤ now.millis ∧
      target? = after.map fun pattern => ⟨pattern, live.scratch.child 1⟩ := by
  unfold fadeTarget? at dropped
  split at dropped
  · next before after start duration curve shape =>
      by_cases finished : Pattern.fadeEnd start duration ≤ now.millis
      · rw [if_pos finished] at dropped
        cases dropped
        exact ⟨before, after, duration, curve, shape, finished, rfl⟩
      · rw [if_neg finished] at dropped
        cases dropped
  · cases dropped

theorem fadeTarget?_of_over (finished : Pattern.fadeEnd offset duration ≤ now.millis)
    (scratch : Scratch) :
    fadeTarget? ⟨.transition before (some after) offset duration curve, scratch⟩ now =
      some (offset, some ⟨after, scratch.child 1⟩) := if_pos finished

end Over

end Live

namespace Player

/-- What a player draws after it has dropped a fade is what it would have drawn with the fade. -/
theorem strip_draw_settle {player : Player} {now : Time} {live target : Live} {offset : UInt64}
    (shown : player.shown = some live)
    (dropped : live.fadeTarget? (player.showTime now) = some (offset, some target))
    (alike : ∀ strip, (live.render (player.showTime now) strip).1 =
      (target.render ((player.showTime now).since offset.toNat) strip).1) :
    ((player.settle now).draw now).strip = (player.draw now).strip := by
  obtain ⟨mailbox, settings, held, origin, strip⟩ := player
  obtain rfl : held = some live := shown
  rw [settle]
  simp only [dropped]
  rw [draw, draw]
  refine Eq.trans ?_ (alike strip).symm
  simp only [showTime, Time.since_since]

end Player

namespace Live

/-- A fade that is over at a time is what a player drops for its target. The fade then draws what
the target draws on the clock that starts with the fade, at that time and from then on, and the
player shows the same whether it has dropped the fade or not. Only a fade that takes no time still
draws the pattern before it in the millisecond in which it begins. -/
theorem seen_of_over (before : Option Pattern) (after : Pattern) (offset duration : UInt64)
    (curve : Curve) (scratch : Scratch) {now : Time} (fits : now.micros < UInt64.size)
    (finished : Pattern.fadeEnd offset duration ≤ now.millis) :
    let fade : Live := ⟨.transition before (some after) offset duration curve, scratch⟩
    let target : Live := ⟨after, scratch.child 1⟩
    let instant := duration = 0 ∧ now.millis = offset.toNat
    fade.fadeTarget? now = some (offset, some target) ∧
    (∀ strip, (fade.render now strip).1 =
      if instant then (Pattern.renderChild before now (scratch.child 0) strip).1
      else (target.render (now.since offset.toNat) strip).1) ∧
    (¬instant →
      (∀ plan : List (Time × Strip), (∀ turn ∈ plan, now.micros ≤ turn.1.micros) →
        fade.drawings plan =
          target.drawings (plan.map fun turn => (turn.1.since offset.toNat, turn.2))) ∧
      ∀ (player : Player) (time : Time), player.shown = some fade → player.showTime time = now →
        ((player.settle time).draw time).strip = (player.draw time).strip) := by
  intro fade target instant
  have dropped : fade.fadeTarget? now = some (offset, some target) :=
    fadeTarget?_of_over finished scratch
  have begun : ¬instant → offset.toNat < now.millis := (begun_of_over fits finished).resolve_right
  have drawn : ¬instant → ∀ strip,
      (fade.render now strip).1 = (target.render (now.since offset.toNat) strip).1 := by
    intro lasting strip
    rw [render_of_over finished (begun lasting)]
  refine ⟨dropped, fun strip => ?_, fun lasting => ⟨fun plan later => ?_, ?_⟩⟩
  · split
    · next early => exact render_of_beginning early.2 scratch strip
    · next lasting => exact drawn lasting strip
  · have reached : ∀ turn ∈ plan, now.millis ≤ turn.1.millis := fun turn present =>
      Nat.div_le_div_right (later turn present)
    exact drawings_of_over (fun turn present => Nat.le_trans finished (reached turn present))
      (fun turn present => Nat.lt_of_lt_of_le (begun lasting) (reached turn present)) scratch
  · rintro player time shown rfl
    exact Player.strip_draw_settle shown dropped (drawn lasting)

/-- A fade between two patterns that move, in the millisecond in which it ends: its target has run
for as long as the fade took. -/
theorem seen_of_over_ending :
    let ink : Color := ⟨200, 100, 0⟩
    let before : Pattern := .cycle [.color ink, .rainbow] 30
    let after : Pattern := .loop [.repeated [ink, .black], .color ink] 50 100 .linear
    let fade : Live := ⟨.transition (some before) (some after) 20 80 .linear, .fresh⟩
    let player : Player := ⟨.empty 1, ⟨3, .ofMillis 80, .linear⟩, some fade, 7, [ink, ink, ink]⟩
    Pattern.fadeEnd 20 80 ≤ (Time.ofMillis 100).millis ∧
      (fade.render (.ofMillis 100) [ink, ink, ink]).1 =
        (after.render (.ofMillis 80) .fresh [ink, ink, ink]).1 ∧
      ((player.settle ⟨107999⟩).draw ⟨107999⟩).strip = (player.draw ⟨107999⟩).strip := by
  intro ink before after fade player
  have fits : (Time.ofMillis 100).micros < UInt64.size := by decide
  have finished : Pattern.fadeEnd 20 80 ≤ (Time.ofMillis 100).millis := by decide
  have lasting : ¬((80 : UInt64) = 0 ∧ (Time.ofMillis 100).millis = (20 : UInt64).toNat) := by
    decide
  obtain ⟨-, drawn, dropped⟩ := seen_of_over (some before) after 20 80 .linear .fresh fits finished
  refine ⟨finished, (drawn _).trans (if_neg lasting), ?_⟩
  exact (dropped lasting).2 player ⟨107999⟩ rfl rfl

/-- A fade without duration, in the millisecond in which it begins. The player that meets it there
drops it for blue, but the fade itself is red. -/
theorem seen_before_instant :
    let red : Color := ⟨255, 0, 0⟩
    let blue : Color := ⟨0, 0, 255⟩
    let fade : Live := ⟨.transition (some (.color red)) (some (.color blue)) 1000 0 .linear, .fresh⟩
    let target : Live := ⟨.color blue, .fresh⟩
    let now : Time := .ofMillis 1000
    fade.fadeTarget? now = some (1000, some target) ∧
      (fade.render now (Strip.dark 2)).1 = [red, red] ∧
      (fade.render now (Strip.dark 2)).1 ≠ (target.render (now.since 1000) (Strip.dark 2)).1 := by
  intro red blue fade target now
  exact ⟨fadeTarget?_of_over (by decide) .fresh, by decide, by decide⟩

end Live

end LightShow
