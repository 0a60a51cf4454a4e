import LightShow.Proofs.Timeline

/-! A player follows its script. It wraps and unwraps the tree that it draws and moves its clock as
it goes, but what it holds stands for the timeline at every step, so that every frame is the one
that the timeline gives. -/

namespace LightShow

theorem Live.fadeTarget?_of_single {live : Live} (single : live.pattern.kind ≠ .transition)
    (now : Time) : live.fadeTarget? now = none := by
  unfold Live.fadeTarget?
  split
  · next shape => exact absurd (congrArg Pattern.kind shape) single
  · rfl

/-- The last millisecond of a clock lies beyond every time that fits in a word. -/
theorem Time.millis_lt_most {now : Time} (fits : now.micros < UInt64.size) :
    now.millis < Pattern.most := by
  have size : UInt64.size = 18446744073709551616 := rfl
  rw [Time.millis, Pattern.most]
  omega

/-- A tree as the player of a show holds it, whose clock reads zero at `origin`, and the timeline
for which it stands from the millisecond `clock` on: the only traces of the past are the wrappers
of fades, and the clock of a wrapped pattern starts where the wrapper is to be seen. -/
inductive Shows (settings : PlayerSettings) (clock origin : Nat) : Pattern → Timeline → Prop
  | plain {pattern : Pattern} {timeline : Timeline}
      (draws : pattern.FullyDraws settings.pixels.toNat) (single : pattern.kind ≠ .transition)
      (begun : origin ≤ clock)
      (seen : ∀ millis, clock ≤ millis → timeline.frame settings millis =
        pattern.picture settings.pixels.toNat (.ofMillis (millis - origin))) :
      Shows settings clock origin pattern timeline
  | fading {before after : Pattern} {earlier : Timeline} {start : Nat}
      (shows : Shows settings clock origin before earlier)
      (draws : after.FullyDraws settings.pixels.toNat) (single : after.kind ≠ .transition)
      (begun : origin ≤ start) (past : start ≤ clock) (small : start < Pattern.most) :
      Shows settings clock origin
        (.transition (some before) (some after) (.ofNat (start - origin))
          (.ofNat settings.fade.millis) settings.curve)
        (.fade earlier after start)

namespace Shows

variable {settings : PlayerSettings} {clock origin : Nat} {pattern : Pattern} {timeline : Timeline}

/-- The offset that a wrapper stores is the one asked for. -/
theorem toNat_offset {start : Nat} (small : start < Pattern.most) (origin : Nat) :
    (UInt64.ofNat (start - origin)).toNat = start - origin := by
  apply UInt64.toNat_ofNat_of_lt'
  have most : Pattern.most = UInt64.size - 1 := rfl
  omega

theorem begun (shows : Shows settings clock origin pattern timeline) : origin ≤ clock := by
  cases shows with
  | plain _ _ begun _ => exact begun
  | fading _ _ _ begun past _ => exact Nat.le_trans begun past

theorem fullyDraws (shows : Shows settings clock origin pattern timeline) :
    pattern.FullyDraws settings.pixels.toNat := by
  induction shows with
  | plain draws _ _ _ => exact draws
  | fading _ draws _ _ _ _ ih => exact ⟨ih, draws⟩

/-- What a tree stands for does not change as time goes by. -/
theorem mono (shows : Shows settings clock origin pattern timeline) {later : Nat}
    (order : clock ≤ later) : Shows settings later origin pattern timeline := by
  induction shows with
  | plain draws single begun seen =>
      apply plain draws single (Nat.le_trans begun order)
      intro millis reached
      exact seen millis (Nat.le_trans order reached)
  | fading _ draws single begun past small ih =>
      exact fading ih draws single begun (Nat.le_trans past order) small

/-- A tree that stands for a timeline gives its frames. -/
theorem picture_eq (shows : Shows settings clock origin pattern timeline)
    (bounded : settings.fade.millis < UInt64.size) {millis : Nat} (reached : clock ≤ millis)
    (fits : millis < Pattern.most) :
    pattern.picture settings.pixels.toNat (.ofMillis (millis - origin)) =
      timeline.frame settings millis := by
  induction shows with
  | plain _ _ _ seen => exact (seen millis reached).symm
  | @fading before after earlier start shows draws single begun past small ih =>
      -- The clock of the wrapper is `origin` behind that of the show; so is its offset.
      have offset := toNat_offset small origin
      have duration : (UInt64.ofNat settings.fade.millis).toNat = settings.fade.millis :=
        UInt64.toNat_ofNat_of_lt' bounded
      have elapsed : millis - origin - (start - origin) = millis - start := by omega
      have waiting : millis - origin ≤ start - origin ↔ millis ≤ start := by omega
      have ended : min (start - origin + settings.fade.millis) Pattern.most ≤ millis - origin ↔
          start + settings.fade.millis ≤ millis := by omega
      have weight : Blend.weight settings.curve (millis - start) settings.fade.millis =
          settings.curve.weight (.through (.ofMillis (millis - start)) settings.fade) := by
        simp only [Blend.weight, Progress.through, Time.millis_ofMillis]
      rw [Pattern.picture_transition (Pattern.settled_of_fullyDraws before shows.fullyDraws)
        (Pattern.settled_of_fullyDraws after draws), Timeline.frame]
      simp only [Pattern.fadeEnd, Time.since, Time.millis_ofMillis, offset, duration, elapsed,
        waiting, ended, weight, ih]

/-- Where a fade that is over is dropped, the clock moves on to the start of its target, and the
target alone stands for the same timeline. -/
theorem drop_fade {after : Pattern} {earlier : Timeline} {start : Nat}
    (draws : after.FullyDraws settings.pixels.toNat) (single : after.kind ≠ .transition)
    (positive : 1 ≤ settings.fade.millis) (ended : start + settings.fade.millis ≤ clock) :
    Shows settings clock start after (.fade earlier after start) := by
  apply plain draws single (by omega)
  intro millis reached
  rw [Timeline.frame, if_neg (by omega), if_pos (by omega)]

/-- Where a wrapper is dropped, what comes out of it stands for the same timeline on the clock
that the player moves to. -/
theorem target {now : Time} {live : Live}
    (shows : Shows settings now.millis origin live.pattern timeline)
    (positive : 1 ≤ settings.fade.millis) (bounded : settings.fade.millis < UInt64.size)
    (fits : now.micros < UInt64.size) (offset : UInt64) (target? : Option Live)
    (dropped : live.fadeTarget? (now.since origin) = some (offset, target?)) :
    ∃ target, target? = some target ∧
      Shows settings now.millis (origin + offset.toNat) target.pattern timeline := by
  obtain ⟨pattern, scratch⟩ := live
  change Shows settings now.millis origin pattern timeline at shows
  cases shows with
  | plain draws single begun seen =>
      -- A plain tree is no fade, so that nothing of it is dropped.
      rw [Live.fadeTarget?_of_single single] at dropped
      cases dropped
  | @fading before after earlier start shows draws single begun past small =>
      have inside := Time.millis_lt_most fits
      have moved := toNat_offset small origin
      have duration : (UInt64.ofNat settings.fade.millis).toNat = settings.fade.millis :=
        UInt64.toNat_ofNat_of_lt' bounded
      simp only [Live.fadeTarget?, Pattern.fadeEnd, Time.millis_since, moved, duration] at dropped
      split at dropped
      · next ended =>
          cases dropped
          refine ⟨⟨after, scratch.child 1⟩, rfl, ?_⟩
          rw [moved, Nat.add_sub_cancel' begun]
          exact drop_fade draws single positive (by omega)
      · cases dropped

/-- A pattern that is cut to stands for itself. -/
theorem cut (draws : pattern.FullyDraws settings.pixels.toNat)
    (single : pattern.kind ≠ .transition) :
    Shows settings clock clock pattern (.cut pattern clock) :=
  plain draws single (Nat.le_refl clock) fun _ _ => rfl

end Shows

/-- A player follows a script: it has carried out the same commands, and what it holds stands for
the timeline from the millisecond `clock` on. -/
structure Follows (settings : PlayerSettings) (clock : Nat) (player : Player) (script : Script) :
    Prop where
  agreed : player.settings = settings
  mailbox : player.mailbox = script.mailbox
  length : player.strip.length = settings.pixels.toNat
  waiting : ∀ command ∈ script.mailbox.queue, ∀ live ∈ command.live?,
    live.Suits settings.pixels.toNat
  shown : Option.Rel (fun live timeline => Shows settings clock player.origin live.pattern timeline)
    player.shown script.shown

namespace Follows

variable {settings : PlayerSettings} {clock : Nat} {player : Player} {script : Script}

theorem start (capacity : Nat) (settings : PlayerSettings) :
    Follows settings 0 (.start (.empty capacity) settings) (.start (.empty capacity)) where
  agreed := rfl
  mailbox := rfl
  length := List.length_replicate
  waiting := fun _ present => absurd present List.not_mem_nil
  shown := .none

theorem mono (follows : Follows settings clock player script) {later : Nat}
    (order : clock ≤ later) : Follows settings later player script := by
  refine { follows with shown := ?_ }
  cases player
  cases script
  cases follows.shown with
  | none => exact .none
  | some shows => exact .some (shows.mono order)

theorem cut (follows : Follows settings clock player script) {live : Live}
    (suits : live.Suits settings.pixels.toNat) (now : Time) :
    Follows settings now.millis (player.cut live now)
      { script with shown := Timeline.follow now.millis script.shown (.cut live) } := by
  refine { follows with shown := ?_ }
  cases script.shown <;> exact .some (Shows.cut suits.1 suits.2)

theorem clear (follows : Follows settings clock player script) (millis : Nat) :
    Follows settings clock player.clear
      { script with shown := Timeline.follow millis script.shown .clear } := by
  refine { follows with shown := ?_ }
  cases script.shown <;> exact .none

/-- A new pattern wraps the one shown; its clock starts now. -/
theorem fade {now : Time} (follows : Follows settings now.millis player script) {live : Live}
    (suits : live.Suits settings.pixels.toNat) (fits : now.micros < UInt64.size) :
    Follows settings now.millis (player.fade live now)
      { script with shown := Timeline.follow now.millis script.shown (.fade live) } := by
  obtain ⟨mailbox, config, held, origin, strip⟩ := player
  obtain ⟨commands, meant⟩ := script
  cases follows.shown with
  | none => exact follows.cut suits now
  | @some current timeline shows =>
      refine { follows with shown := .some ?_ }
      have wrapped := shows.fading suits.1 suits.2 shows.begun (Nat.le_refl now.millis)
        (Time.millis_lt_most fits)
      obtain rfl : config = settings := follows.agreed
      simp only [Live.fade, Player.showTime, Time.millis_since]
      exact wrapped

theorem apply {now : Time} (follows : Follows settings now.millis player script)
    {command : Command} (suits : ∀ live ∈ command.live?, live.Suits settings.pixels.toNat)
    (fits : now.micros < UInt64.size) :
    Follows settings now.millis (player.apply now command)
      { script with shown := Timeline.follow now.millis script.shown command } := by
  cases command with
  | fade live => exact follows.fade (suits live rfl) fits
  | cut live => exact follows.cut (suits live rfl) now
  | clear => exact follows.clear now.millis

theorem offer (follows : Follows settings clock player script) {command : Command}
    (suits : ∀ live ∈ command.live?, live.Suits settings.pixels.toNat) :
    Follows settings clock { player with mailbox := player.mailbox.offer command }
      { script with mailbox := script.mailbox.offer command } := by
  refine { follows with mailbox := congrArg (·.offer command) follows.mailbox, waiting := ?_ }
  intro other present
  rcases Mailbox.mem_offer present with before | rfl
  · exact follows.waiting other before
  · exact suits

/-- Commands that are carried out one after the other all come at the same time. -/
theorem applyAll {now : Time} (fits : now.micros < UInt64.size) (commands : List Command)
    (follows : Follows settings now.millis player script)
    (suits : ∀ command ∈ commands, ∀ live ∈ command.live?, live.Suits settings.pixels.toNat) :
    Follows settings now.millis
      (commands.foldl (fun player command => player.apply now command) player)
      { script with shown := commands.foldl (Timeline.follow now.millis) script.shown } := by
  induction commands generalizing player script with
  | nil => exact follows
  | cons command rest ih =>
      apply ih (follows.apply (suits command List.mem_cons_self) fits)
      intro other present
      exact suits other (List.mem_cons_of_mem command present)

theorem drain {now : Time} (follows : Follows settings now.millis player script)
    (fits : now.micros < UInt64.size) :
    Follows settings now.millis (player.drain now) (script.drain now) := by
  have emptied : Follows settings now.millis
      { player with mailbox := { player.mailbox with queue := [] } }
      { script with mailbox := { script.mailbox with queue := [] } } :=
    { follows with
      mailbox := congrArg (fun mailbox : Mailbox => { mailbox with queue := [] }) follows.mailbox
      waiting := fun _ present => absurd present List.not_mem_nil }
  have queue : player.mailbox.queue = script.mailbox.queue := congrArg _ follows.mailbox
  rw [Player.drain, queue]
  exact emptied.applyAll fits script.mailbox.queue follows.waiting

/-- Dropping the wrapper of a fade that is over changes nothing that is to be seen. -/
theorem settle {now : Time} (follows : Follows settings now.millis player script)
    (positive : 1 ≤ settings.fade.millis) (bounded : settings.fade.millis < UInt64.size)
    (fits : now.micros < UInt64.size) :
    Follows settings now.millis (player.settle now) script := by
  obtain ⟨mailbox, config, held, origin, strip⟩ := player
  obtain ⟨commands, meant⟩ := script
  cases follows.shown with
  | none => exact follows
  | @some current timeline shows =>
      have target := Shows.target shows positive bounded fits
      simp only [Player.settle, Player.showTime]
      cases dropped : current.fadeTarget? (now.since origin) with
      | none => exact follows
      | some place =>
          obtain ⟨offset, target?⟩ := place
          obtain ⟨target, rfl, shows⟩ := target offset target? dropped
          exact { follows with shown := .some shows }

theorem draw {now : Time} (follows : Follows settings now.millis player script) :
    Follows settings now.millis (player.draw now) script := by
  obtain ⟨mailbox, config, held, origin, strip⟩ := player
  obtain ⟨commands, meant⟩ := script
  cases follows.shown with
  | none => exact follows
  | some shows =>
      refine { follows with length := ?_, shown := .some shows }
      exact (Pattern.length_render _ _ _ strip).trans follows.length

/-- What a player draws is the frame of its script; with nothing to be shown it draws nothing. -/
theorem strip_draw {now : Time} (follows : Follows settings now.millis player script)
    (bounded : settings.fade.millis < UInt64.size) (fits : now.micros < UInt64.size) :
    (player.draw now).strip =
      match script.shown with
      | none => player.strip
      | some timeline => timeline.frame settings now.millis := by
  obtain ⟨mailbox, config, held, origin, strip⟩ := player
  obtain ⟨commands, meant⟩ := script
  cases follows.shown with
  | none => rfl
  | @some current timeline shows =>
      have settled := Pattern.settled_of_fullyDraws current.pattern shows.fullyDraws
      exact (settled.render_eq (now.since origin) current.scratch follows.length).trans
        (shows.picture_eq bounded (Nat.le_refl now.millis) (Time.millis_lt_most fits))

theorem render {now : Time} (follows : Follows settings now.millis player script)
    (positive : 1 ≤ settings.fade.millis) (bounded : settings.fade.millis < UInt64.size)
    (fits : now.micros < UInt64.size) :
    Follows settings now.millis (player.render now) (script.drain now) :=
  ((follows.drain fits).settle positive bounded fits).draw

/-- One step: whatever is done with a player, it goes on to follow its script. -/
theorem perform (follows : Follows settings clock player script)
    (positive : 1 ≤ settings.fade.millis) (bounded : settings.fade.millis < UInt64.size)
    {act : Act} (fits : ∀ now ∈ act.time?, now.micros < UInt64.size)
    (reached : ∀ now ∈ act.time?, clock ≤ now.millis)
    (suits : ∀ live ∈ act.live?, live.Suits settings.pixels.toNat) :
    Follows settings (act.clock clock) (player.perform act) (script.perform act) := by
  cases act with
  | fade live now => exact (follows.mono (reached now rfl)).fade (suits live rfl) (fits now rfl)
  | cut live now => exact follows.cut (suits live rfl) now
  | clear =>
      have cleared := follows.clear clock
      cases meant : script.shown <;> rw [meant] at cleared <;> exact cleared
  | send command => exact follows.offer suits
  | drain now => exact (follows.mono (reached now rfl)).drain (fits now rfl)
  | render now => exact (follows.mono (reached now rfl)).render positive bounded (fits now rfl)

/-- A run: the player follows its script until the last of some acts and on to any millisecond
that is not before it. -/
theorem run (follows : Follows settings clock player script)
    (positive : 1 ≤ settings.fade.millis) (bounded : settings.fade.millis < UInt64.size)
    {acts : List Act} (ordered : Act.InOrder acts)
    (fits : ∀ act ∈ acts, ∀ now ∈ act.time?, now.micros < UInt64.size)
    (suits : ∀ act ∈ acts, ∀ live ∈ act.live?, live.Suits settings.pixels.toNat)
    (reached : ∀ act ∈ acts, ∀ now ∈ act.time?, clock ≤ now.millis) {last : Nat}
    (order : clock ≤ last) (before : ∀ act ∈ acts, ∀ now ∈ act.time?, now.millis ≤ last) :
    Follows settings last (player.run acts) (script.run acts) :=
  Act.keeps_run (Follows settings) Follows.mono
    (fun act present _ _ _ follows reached =>
      follows.perform positive bounded (fits act present) reached (suits act present))
    ordered follows reached order before

end Follows

namespace Player

theorem strip_apply (player : Player) (now : Time) (command : Command) :
    (player.apply now command).strip = player.strip := by
  cases command with
  | fade live =>
      rw [apply, fade]
      split <;> rfl
  | cut live => rfl
  | clear => rfl

theorem strip_drain (player : Player) (now : Time) : (player.drain now).strip = player.strip := by
  have each : ∀ (commands : List Command) (player : Player),
      (commands.foldl (fun player command => player.apply now command) player).strip =
        player.strip := by
    intro commands
    induction commands with
    | nil => intro player; rfl
    | cons command rest ih =>
        intro player
        rw [List.foldl_cons, ih, strip_apply]
  exact each player.mailbox.queue _

theorem strip_settle (player : Player) (now : Time) : (player.settle now).strip = player.strip := by
  unfold settle
  split
  · rfl
  · split <;> rfl

/-- Whatever was done before with a player, and whenever it drew, what it draws is the frame that
its script gives for the millisecond; after a clear the strip stays as it is. -/
theorem strip_render_run {settings : PlayerSettings} (positive : 1 ≤ settings.fade.millis)
    (bounded : settings.fade.micros < UInt64.size) (capacity : Nat) {acts : List Act} {now : Time}
    (ordered : Act.InOrder (acts ++ [.render now]))
    (fits : ∀ act ∈ acts ++ [.render now], ∀ time ∈ act.time?, time.micros < UInt64.size)
    (suits : ∀ act ∈ acts, ∀ live ∈ act.live?, live.Suits settings.pixels.toNat) :
    let player := (start (.empty capacity) settings).run acts
    let script := (Script.start (.empty capacity)).run acts
    (player.render now).strip =
      match (script.drain now).shown with
      | none => player.strip
      | some timeline => timeline.frame settings now.millis := by
  intro player script
  have inside : settings.fade.millis < UInt64.size := by
    rw [Time.millis]
    omega
  obtain ⟨ordered, -, last⟩ := List.pairwise_append.mp ordered
  have reached : now.micros < UInt64.size := fits (.render now) (by simp) now rfl
  have follows : Follows settings now.millis player script := by
    apply (Follows.start capacity settings).run positive inside ordered
      (fun act present => fits act (List.mem_append_left _ present)) suits
      (fun _ _ _ _ => Nat.zero_le _) (Nat.zero_le _)
    intro act present time timed
    exact Nat.div_le_div_right (last act present _ List.mem_cons_self time timed now rfl)
  have drained := follows.drain reached
  have drawn := (drained.settle positive inside reached).strip_draw inside reached
  rw [render, drawn, strip_settle, strip_drain]

/-- A fade that came through the mailbox is overtaken by another one, and two frames later, with
the first fade over and the second under way, the wrapper of the first is still held. -/
theorem strip_render_run_overtaken :
    let settings : PlayerSettings := ⟨3, .ofMillis 100, .linear⟩
    let ink : Color := ⟨200, 100, 0⟩
    let acts : List Act :=
      [.cut (.start .rainbow) (.ofMillis 5), .send (.fade (.start (.color ink))),
        .render ⟨10999⟩, .fade (.start (.rotate (some (.frame [ink])) 8)) (.ofMillis 60),
        .render (.ofMillis 90)]
    let timeline : Timeline :=
      .fade (.fade (.cut .rainbow 5) (.color ink) 10) (.rotate (some (.frame [ink])) 8) 60
    (((start (.empty 2) settings).run acts).render (.ofMillis 135)).strip =
      timeline.frame settings 135 := by
  intro settings ink acts timeline
  have ordered : Act.InOrder (acts ++ [.render (.ofMillis 135)]) := by decide
  have fits : ∀ act ∈ acts ++ [.render (.ofMillis 135)], ∀ time ∈ act.time?,
      time.micros < UInt64.size := by decide
  have suits : ∀ act ∈ acts, ∀ live ∈ act.live?, live.Suits settings.pixels.toNat := by decide
  exact strip_render_run (by decide) (by decide) 2 ordered fits suits

end Player

end LightShow
