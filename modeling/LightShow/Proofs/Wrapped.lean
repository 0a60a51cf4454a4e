import LightShow.Proofs.Dropped

/-! The fades in the tree of a player. Every fade wraps the tree that is shown, and a frame looks at
the outermost wrapper alone: it drops the whole tree for the newest pattern if the newest fade is
over, and nothing otherwise. A fade that is overtaken by another one therefore stays in the tree
after its end, and so do all fades for as long as new ones keep coming in time. -/

namespace LightShow

namespace Pattern

mutual

/-- The number of fades in a tree. -/
def fades : Pattern → Nat
  | .gradient left right _ => fadesChild left + fadesChild right
  | .transition before after _ _ _ => fadesChild before + fadesChild after + 1
  | .cycle frames _ => fadesEach frames
  | .loop patterns _ _ _ => fadesEach patterns
  | .rotate child _ => fadesChild child
  | .pingPong child _ => fadesChild child
  | .chronometer child => fadesChild child
  | .crop child _ => fadesChild child
  | .scale child _ _ _ => fadesChild child
  | .mixer patterns _ => fadesEach patterns
  | _ => 0

def fadesChild : Option Pattern → Nat
  | none => 0
  | some child => fades child

def fadesEach : List Pattern → Nat
  | [] => 0
  | pattern :: patterns => fades pattern + fadesEach patterns

end

mutual

/-- The offsets of the fades around a tree, the outermost first. -/
def offsets : Pattern → List Nat
  | .transition before _ offset _ _ => offset.toNat :: offsetsChild before
  | _ => []

def offsetsChild : Option Pattern → List Nat
  | none => []
  | some child => offsets child

end

theorem single_of_fades {pattern : Pattern} (plain : pattern.fades = 0) :
    pattern.kind ≠ .transition := by
  cases pattern with
  | transition => exact absurd plain (Nat.succ_ne_zero _)
  | _ => exact nofun

end Pattern

namespace Player

/-- The number of fades in the tree of a player. -/
def fades (player : Player) : Nat := (player.shown.map fun live => live.pattern.fades).getD 0

/-- The milliseconds in which the fades around the tree of a player begin, the outermost first. -/
def starts (player : Player) : List Nat :=
  ((player.shown.map fun live => live.pattern.offsets).getD []).map (player.origin + ·)

end Player

/-- A record of the fades of a show. -/
structure Ledger where
  mailbox : Mailbox
  /-- The milliseconds in which the fades around what is shown were asked for, the newest first;
  none if nothing is shown. -/
  wrapped : Option (List Nat)
  /-- The milliseconds in which any fade was asked for, the newest first. -/
  asked : List Nat

namespace Ledger

def start (mailbox : Mailbox) : Ledger := ⟨mailbox, none, []⟩

/-- The fades in the tree, the newest first. -/
def starts (ledger : Ledger) : List Nat := ledger.wrapped.getD []

/-- The record after a command that is carried out at a millisecond. -/
def follow (millis : Nat) (ledger : Ledger) : Command → Ledger
  | .fade _ =>
      { ledger with
        wrapped := some ((ledger.wrapped.map (millis :: ·)).getD [])
        asked := millis :: ledger.asked }
  | .cut _ => { ledger with wrapped := some [] }
  | .clear => { ledger with wrapped := none }

def drain (ledger : Ledger) (now : Time) : Ledger :=
  ledger.mailbox.queue.foldl (follow now.millis)
    { ledger with mailbox := { ledger.mailbox with queue := [] } }

/-- The newest fade in the tree is over, when fades take `length` milliseconds. -/
def Over (length : Nat) (ledger : Ledger) (now : Time) : Prop :=
  ∃ newest ∈ ledger.starts.head?, newest + length ≤ now.millis

instance (length : Nat) (ledger : Ledger) (now : Time) : Decidable (ledger.Over length now) :=
  inferInstanceAs (Decidable (∃ newest ∈ ledger.starts.head?, newest + length ≤ now.millis))

/-- Where the newest fade is over, a frame takes all fades out of the tree. -/
def settle (length : Nat) (ledger : Ledger) (now : Time) : Ledger :=
  if ledger.Over length now then { ledger with wrapped := some [] } else ledger

def perform (length : Nat) (ledger : Ledger) : Act → Ledger
  | .fade live now => ledger.follow now.millis (.fade live)
  | .cut live now => ledger.follow now.millis (.cut live)
  | .clear => { ledger with wrapped := none }
  | .send command => { ledger with mailbox := ledger.mailbox.offer command }
  | .drain now => ledger.drain now
  | .render now => (ledger.drain now).settle length now

def run (length : Nat) (ledger : Ledger) (acts : List Act) : Ledger :=
  acts.foldl (perform length) ledger

/-- How many fades were asked for so late that, at `length` milliseconds each, they are not over. -/
def recent (length : Nat) (ledger : Ledger) (now : Time) : Nat :=
  ledger.asked.countP fun start => now.millis < start + length

/-- There are no more fades in the tree than were asked for of late exactly if none of them is
over: the oldest one decides. -/
theorem length_starts_le_recent {ledger : Ledger} (latest : ledger.starts <+: ledger.asked)
    (ordered : ledger.asked.Pairwise fun later earlier => earlier ≤ later) (length : Nat)
    (now : Time) :
    ledger.starts.length ≤ ledger.recent length now ↔
      ∀ start ∈ ledger.starts, now.millis < start + length := by
  obtain ⟨older, whole⟩ := latest
  rw [recent, ← whole]
  constructor
  · intro enough start here
    apply Nat.lt_of_not_le
    intro finished
    obtain ⟨newer, rest, shape⟩ := List.append_of_mem here
    rw [← whole, shape, List.append_assoc, List.cons_append] at ordered
    obtain ⟨-, ordered, -⟩ := List.pairwise_append.mp ordered
    obtain ⟨before, -⟩ := List.pairwise_cons.mp ordered
    -- Neither this fade nor any that was asked for before it counts.
    have none : (rest ++ older).countP (fun start => now.millis < start + length) = 0 := by
      apply List.countP_eq_zero.mpr
      intro other present
      have earlier := before other present
      rw [decide_eq_true_eq]
      omega
    have bound := List.countP_le_length (p := fun start => now.millis < start + length) (l := newer)
    rw [shape, List.append_assoc, List.cons_append, List.countP_append, List.countP_cons_of_neg,
      none, List.length_append, List.length_cons] at enough
    · omega
    · rw [decide_eq_true_eq]
      exact Nat.not_lt_of_le finished
  · intro running
    rw [List.countP_append, List.countP_eq_length.mpr]
    · exact Nat.le_add_right _ _
    · intro start here
      rw [decide_eq_true_eq]
      exact running start here

theorem running_settle (length : Nat) (ledger : Ledger) (now : Time) :
    ∀ newest ∈ (ledger.settle length now).starts.head?, now.millis < newest + length := by
  unfold settle
  by_cases finished : ledger.Over length now
  · rw [if_pos finished]
    exact nofun
  · rw [if_neg finished]
    intro newest first
    exact Nat.lt_of_not_le fun ended => finished ⟨newest, first, ended⟩

end Ledger

/-- A tree as the player holds it, with the fades around it: each begins when it was asked for, on
the clock of the player, and wraps those that were asked for before. -/
inductive Wraps (settings : PlayerSettings) (clock origin : Nat) : Pattern → List Nat → Prop
  | plain {pattern : Pattern} (plain : pattern.fades = 0) (begun : origin ≤ clock) :
      Wraps settings clock origin pattern []
  | fade {before after : Pattern} {starts : List Nat} {start : Nat}
      (wraps : Wraps settings clock origin before starts) (plain : after.fades = 0)
      (begun : origin ≤ start) (past : start ≤ clock) (small : start < Pattern.most) :
      Wraps settings clock origin
        (.transition (some before) (some after) (.ofNat (start - origin))
          (.ofNat settings.fade.millis) settings.curve)
        (start :: starts)

namespace Wraps

variable {settings : PlayerSettings} {clock origin : Nat} {pattern : Pattern} {starts : List Nat}

theorem begun (wraps : Wraps settings clock origin pattern starts) : origin ≤ clock := by
  cases wraps with
  | plain _ begun => exact begun
  | fade _ _ begun past _ => exact Nat.le_trans begun past

theorem mono (wraps : Wraps settings clock origin pattern starts) {later : Nat}
    (order : clock ≤ later) : Wraps settings later origin pattern starts := by
  induction wraps with
  | plain plain begun => exact .plain plain (Nat.le_trans begun order)
  | fade _ plain begun past small ih =>
      exact .fade ih plain begun (Nat.le_trans past order) small

/-- The only fades in the tree are those around it. -/
theorem fades_eq (wraps : Wraps settings clock origin pattern starts) :
    pattern.fades = starts.length := by
  induction wraps with
  | plain plain _ => exact plain
  | fade _ plain _ _ _ ih =>
      simp only [Pattern.fades, Pattern.fadesChild, ih, plain, List.length_cons, Nat.add_zero]

theorem offsets_eq (wraps : Wraps settings clock origin pattern starts) :
    pattern.offsets.map (origin + ·) = starts := by
  induction wraps with
  | @plain pattern plain _ =>
      cases pattern with
      | transition => exact absurd plain (Nat.succ_ne_zero _)
      | _ => rfl
  | @fade before after starts start _ _ begun _ small ih =>
      rw [Pattern.offsets, List.map_cons, Pattern.offsetsChild, ih,
        Shows.toNat_offset small origin, Nat.add_sub_cancel' begun]

/-- A frame drops the outermost fade if it is over, and then all the fades within it. -/
theorem fadeTarget?_eq {live : Live} {now : Time}
    (wraps : Wraps settings now.millis origin live.pattern starts)
    (bounded : settings.fade.millis < UInt64.size) (fits : now.micros < UInt64.size) :
    live.fadeTarget? (now.since origin) = none ∧
        (∀ newest ∈ starts.head?, now.millis < newest + settings.fade.millis) ∨
      ∃ newest ∈ starts.head?, newest + settings.fade.millis ≤ now.millis ∧
        ∃ offset target, live.fadeTarget? (now.since origin) = some (offset, some target) ∧
          origin + offset.toNat ≤ now.millis ∧ target.pattern.fades = 0 := by
  obtain ⟨pattern, scratch⟩ := live
  change Wraps settings now.millis origin pattern starts at wraps
  cases wraps with
  | plain plain _ =>
      exact .inl ⟨Live.fadeTarget?_of_single (Pattern.single_of_fades plain) _, nofun⟩
  | @fade before after starts start wraps plain begun past small =>
      have inside := Time.millis_lt_most fits
      have moved := Shows.toNat_offset small origin
      have duration : (UInt64.ofNat settings.fade.millis).toNat = settings.fade.millis :=
        UInt64.toNat_ofNat_of_lt' bounded
      simp only [Live.fadeTarget?, Pattern.fadeEnd, Time.millis_since, moved, duration]
      by_cases finished : start + settings.fade.millis ≤ now.millis
      · refine .inr ⟨start, rfl, finished, _, _, if_pos (by omega), ?_, plain⟩
        omega
      · refine .inl ⟨if_neg (by omega), ?_⟩
        rintro newest ⟨⟩
        omega

end Wraps

/-- A ledger goes with a player: it has the commands that wait for the player, and the fades around
what the player shows. -/
structure Tallies (settings : PlayerSettings) (clock : Nat) (player : Player) (ledger : Ledger) :
    Prop where
  agreed : player.settings = settings
  mailbox : player.mailbox = ledger.mailbox
  waiting : ∀ command ∈ ledger.mailbox.queue, ∀ live ∈ command.live?, live.pattern.fades = 0
  shown : Option.Rel (fun live starts => Wraps settings clock player.origin live.pattern starts)
    player.shown ledger.wrapped
  /-- The fades in the tree are those asked for last. -/
  latest : ledger.starts <+: ledger.asked
  past : ∀ start ∈ ledger.asked, start ≤ clock
  ordered : ledger.asked.Pairwise fun later earlier => earlier ≤ later

namespace Tallies

variable {settings : PlayerSettings} {clock : Nat} {player : Player} {ledger : Ledger} {now : Time}

theorem start (capacity : Nat) (settings : PlayerSettings) :
    Tallies settings 0 (.start (.empty capacity) settings) (.start (.empty capacity)) where
  agreed := rfl
  mailbox := rfl
  waiting := fun _ present => absurd present List.not_mem_nil
  shown := .none
  latest := List.nil_prefix
  past := fun _ present => absurd present List.not_mem_nil
  ordered := .nil

theorem mono (tallies : Tallies settings clock player ledger) {later : Nat}
    (order : clock ≤ later) : Tallies settings later player ledger := by
  refine { tallies with
    shown := ?_, past := fun start here => Nat.le_trans (tallies.past start here) order }
  cases player
  cases ledger
  cases tallies.shown with
  | none => exact .none
  | some wraps => exact .some (wraps.mono order)

theorem cut (tallies : Tallies settings now.millis player ledger) {live : Live}
    (plain : live.pattern.fades = 0) :
    Tallies settings now.millis (player.cut live now) (ledger.follow now.millis (.cut live)) :=
  { tallies with shown := .some (.plain plain (Nat.le_refl _)), latest := List.nil_prefix }

theorem clear (tallies : Tallies settings clock player ledger) :
    Tallies settings clock player.clear { ledger with wrapped := none } :=
  { tallies with shown := .none, latest := List.nil_prefix }

/-- A fade is one more around the tree, unless nothing is shown. -/
theorem fade (tallies : Tallies settings now.millis player ledger) {live : Live}
    (plain : live.pattern.fades = 0) (fits : now.micros < UInt64.size) :
    Tallies settings now.millis (player.fade live now) (ledger.follow now.millis (.fade live)) := by
  obtain ⟨mailbox, config, held, origin, strip⟩ := player
  obtain ⟨commands, wrapped, asked⟩ := ledger
  have past : ∀ start ∈ now.millis :: asked, start ≤ now.millis :=
    List.forall_mem_cons.mpr ⟨Nat.le_refl _, tallies.past⟩
  have ordered := List.pairwise_cons.mpr ⟨tallies.past, tallies.ordered⟩
  cases tallies.shown with
  | none =>
      exact { tallies with
        shown := .some (.plain plain (Nat.le_refl _))
        latest := List.nil_prefix, past := past, ordered := ordered }
  | @some current starts wraps =>
      obtain rfl : config = settings := tallies.agreed
      have wrapped := wraps.fade plain wraps.begun (Nat.le_refl _) (Time.millis_lt_most fits)
      refine { tallies with
        shown := .some ?_
        latest := (List.prefix_cons_inj _).mpr tallies.latest, past := past, ordered := ordered }
      simp only [Live.fade, Player.showTime, Time.millis_since]
      exact wrapped

theorem apply (tallies : Tallies settings now.millis player ledger) {command : Command}
    (plain : ∀ live ∈ command.live?, live.pattern.fades = 0) (fits : now.micros < UInt64.size) :
    Tallies settings now.millis (player.apply now command)
      (ledger.follow now.millis command) := by
  cases command with
  | fade live => exact tallies.fade (plain live rfl) fits
  | cut live => exact tallies.cut (plain live rfl)
  | clear => exact tallies.clear

theorem applyAll (fits : now.micros < UInt64.size) (commands : List Command)
    (tallies : Tallies settings now.millis player ledger)
    (plain : ∀ command ∈ commands, ∀ live ∈ command.live?, live.pattern.fades = 0) :
    Tallies settings now.millis
      (commands.foldl (fun player command => player.apply now command) player)
      (commands.foldl (Ledger.follow now.millis) ledger) := by
  induction commands generalizing player ledger with
  | nil => exact tallies
  | cons command rest ih =>
      obtain ⟨first, others⟩ := List.forall_mem_cons.mp plain
      exact ih (tallies.apply first fits) others

theorem drain (tallies : Tallies settings now.millis player ledger)
    (fits : now.micros < UInt64.size) :
    Tallies settings now.millis (player.drain now) (ledger.drain now) := by
  have emptied : Tallies settings now.millis
      { player with mailbox := { player.mailbox with queue := [] } }
      { ledger with mailbox := { ledger.mailbox with queue := [] } } :=
    { tallies with
      mailbox := congrArg (fun mailbox : Mailbox => { mailbox with queue := [] }) tallies.mailbox
      waiting := fun _ present => absurd present List.not_mem_nil }
  have queue : player.mailbox.queue = ledger.mailbox.queue := congrArg _ tallies.mailbox
  rw [Player.drain, queue]
  exact emptied.applyAll fits ledger.mailbox.queue tallies.waiting

theorem offer (tallies : Tallies settings clock player ledger) {command : Command}
    (plain : ∀ live ∈ command.live?, live.pattern.fades = 0) :
    Tallies settings clock { player with mailbox := player.mailbox.offer command }
      { ledger with mailbox := ledger.mailbox.offer command } := by
  refine { tallies with mailbox := congrArg (·.offer command) tallies.mailbox, waiting := ?_ }
  intro other present
  rcases Mailbox.mem_offer present with before | rfl
  · exact tallies.waiting other before
  · exact plain

/-- A frame takes all fades out of the tree if the newest is over, and none otherwise. -/
theorem settle (tallies : Tallies settings now.millis player ledger)
    (bounded : settings.fade.millis < UInt64.size) (fits : now.micros < UInt64.size) :
    Tallies settings now.millis (player.settle now)
      (ledger.settle settings.fade.millis now) := by
  obtain ⟨mailbox, config, held, origin, strip⟩ := player
  obtain ⟨commands, wrapped, asked⟩ := ledger
  cases tallies.shown with
  | none =>
      rw [Ledger.settle, if_neg (fun finished => by obtain ⟨_, ⟨⟩, _⟩ := finished)]
      exact tallies
  | @some live starts wraps =>
      simp only [Player.settle, Player.showTime, Ledger.settle]
      obtain ⟨kept, running⟩ | ⟨newest, first, finished, offset, target, dropped, begun, plain⟩ :=
        wraps.fadeTarget?_eq bounded fits
      · rw [kept, if_neg]
        · exact tallies
        · rintro ⟨newest, first, finished⟩
          exact absurd finished (Nat.not_le_of_lt (running newest first))
      · rw [dropped, if_pos ⟨newest, first, finished⟩]
        exact { tallies with shown := .some (.plain plain begun), latest := List.nil_prefix }

theorem draw (tallies : Tallies settings clock player ledger) (now : Time) :
    Tallies settings clock (player.draw now) ledger := by
  obtain ⟨mailbox, config, held, origin, strip⟩ := player
  obtain ⟨commands, wrapped, asked⟩ := ledger
  cases tallies.shown with
  | none => exact tallies
  | some wraps => exact { tallies with shown := .some wraps }

/-- One step: whatever is done with a player, its ledger goes on to go with it. -/
theorem perform (tallies : Tallies settings clock player ledger)
    (bounded : settings.fade.millis < UInt64.size) {act : Act}
    (fits : ∀ now ∈ act.time?, now.micros < UInt64.size)
    (reached : ∀ now ∈ act.time?, clock ≤ now.millis)
    (plain : ∀ live ∈ act.live?, live.pattern.fades = 0) :
    Tallies settings (act.clock clock) (player.perform act)
      (ledger.perform settings.fade.millis act) := by
  cases act with
  | fade live now => exact (tallies.mono (reached now rfl)).fade (plain live rfl) (fits now rfl)
  | cut live now => exact (tallies.mono (reached now rfl)).cut (plain live rfl)
  | clear => exact tallies.clear
  | send command => exact tallies.offer plain
  | drain now => exact (tallies.mono (reached now rfl)).drain (fits now rfl)
  | render now =>
      have drained := (tallies.mono (reached now rfl)).drain (fits now rfl)
      exact (drained.settle bounded (fits now rfl)).draw now

/-- A run: the ledger goes with the player until the last of some acts, and on to any millisecond
that is not before it. -/
theorem run (tallies : Tallies settings clock player ledger)
    (bounded : settings.fade.millis < UInt64.size) {acts : List Act} (ordered : Act.InOrder acts)
    (fits : ∀ act ∈ acts, ∀ now ∈ act.time?, now.micros < UInt64.size)
    (plain : ∀ act ∈ acts, ∀ live ∈ act.live?, live.pattern.fades = 0)
    (reached : ∀ act ∈ acts, ∀ now ∈ act.time?, clock ≤ now.millis) {last : Nat}
    (order : clock ≤ last) (before : ∀ act ∈ acts, ∀ now ∈ act.time?, now.millis ≤ last) :
    Tallies settings last (player.run acts) (ledger.run settings.fade.millis acts) :=
  Act.keeps_run (Tallies settings) Tallies.mono
    (fun act present _ _ _ tallies reached =>
      tallies.perform bounded (fits act present) reached (plain act present))
    ordered tallies reached order before

theorem fades_eq (tallies : Tallies settings clock player ledger) :
    player.fades = ledger.starts.length := by
  obtain ⟨mailbox, config, held, origin, strip⟩ := player
  obtain ⟨commands, wrapped, asked⟩ := ledger
  cases tallies.shown with
  | none => rfl
  | some wraps => exact wraps.fades_eq

theorem starts_eq (tallies : Tallies settings clock player ledger) :
    player.starts = ledger.starts := by
  obtain ⟨mailbox, config, held, origin, strip⟩ := player
  obtain ⟨commands, wrapped, asked⟩ := ledger
  cases tallies.shown with
  | none => rfl
  | some wraps => exact wraps.offsets_eq

end Tallies

namespace Player

/-- After every frame of a show, whatever was done before, the fades in the tree are those that the
ledger has: of all that were asked for the latest, in order, each from the millisecond in which it
was asked for. The newest of them is not over, so that there are none once the last one asked for
is over. But an older one may be over: there are no more of them than were asked for less than the
length of a fade before exactly if none is. -/
theorem fades_render_run {settings : PlayerSettings} (bounded : settings.fade.micros < UInt64.size)
    (capacity : Nat) {acts : List Act} {now : Time} (ordered : Act.InOrder (acts ++ [.render now]))
    (fits : ∀ act ∈ acts ++ [.render now], ∀ time ∈ act.time?, time.micros < UInt64.size)
    (plain : ∀ act ∈ acts, ∀ live ∈ act.live?, live.pattern.fades = 0) :
    let length := settings.fade.millis
    let player := (start (.empty capacity) settings).run (acts ++ [.render now])
    let ledger := (Ledger.start (.empty capacity)).run length (acts ++ [.render now])
    player.fades = player.starts.length ∧ player.starts = ledger.starts ∧
      ledger.starts <+: ledger.asked ∧
      (∀ newest ∈ player.starts.head?, now.millis < newest + length) ∧
      ((∀ newest ∈ ledger.asked.head?, newest + length ≤ now.millis) → player.fades = 0) ∧
      (player.fades ≤ ledger.recent length now ↔
        ∀ start ∈ player.starts, now.millis < start + length) := by
  intro length player ledger
  have inside : settings.fade.millis < UInt64.size := by
    rw [Time.millis]
    omega
  have suits : ∀ act ∈ acts ++ [.render now], ∀ live ∈ act.live?, live.pattern.fades = 0 := by
    intro act present
    rcases List.mem_append.mp present with before | last
    · exact plain act before
    · rw [List.mem_singleton.mp last]
      rintro live ⟨⟩
  have last : ∀ act ∈ acts ++ [.render now], ∀ time ∈ act.time?, time.millis ≤ now.millis := by
    intro act present time timed
    rcases List.mem_append.mp present with before | last
    · obtain ⟨-, -, after⟩ := List.pairwise_append.mp ordered
      exact Nat.div_le_div_right (after act before _ List.mem_cons_self time timed now rfl)
    · rw [List.mem_singleton.mp last] at timed
      cases timed
      exact Nat.le_refl _
  have tallies : Tallies settings now.millis player ledger :=
    (Tallies.start capacity settings).run inside ordered fits suits (fun _ _ _ _ => Nat.zero_le _)
      (Nat.zero_le _) last
  have count := tallies.fades_eq
  have same := tallies.starts_eq
  have running : ∀ newest ∈ ledger.starts.head?, now.millis < newest + length := by
    change ∀ newest ∈ (Ledger.run _ _ _).starts.head?, _
    rw [Ledger.run, List.foldl_append]
    exact Ledger.running_settle length _ now
  rw [same]
  refine ⟨count, rfl, tallies.latest, running, fun finished => ?_, ?_⟩
  · rw [count, List.length_eq_zero_iff]
    cases shape : ledger.starts with
    | nil => rfl
    | cons newest older =>
        -- The newest fade in the tree is the one that was asked for last.
        obtain ⟨rest, whole⟩ := tallies.latest
        rw [shape] at whole running
        have ended := finished newest (by rw [← whole]; rfl)
        exact absurd ended (Nat.not_le_of_lt (running newest rfl))
  · rw [count]
    exact Ledger.length_starts_le_recent tallies.latest tallies.ordered length now

/-- Two fades on the way at once, the first of them through the mailbox, shortly before the first
one ends. -/
theorem fades_render_run_double :
    let settings : PlayerSettings := ⟨3, .ofMillis 100, .linear⟩
    let ink : Color := ⟨200, 100, 0⟩
    let now : Time := .ofMillis 109
    let acts : List Act :=
      [.cut (.start .rainbow) (.ofMillis 5), .send (.fade (.start (.color ink))),
        .render ⟨10999⟩, .fade (.start (.rotate (some (.frame [ink])) 8)) (.ofMillis 60),
        .render (.ofMillis 90)]
    let player := (start (.empty 2) settings).run (acts ++ [.render now])
    let ledger := (Ledger.start (.empty 2)).run 100 (acts ++ [.render now])
    player.fades = player.starts.length ∧ player.starts = [60, 10] ∧
      player.fades ≤ ledger.recent 100 now := by
  intro settings ink now acts player ledger
  have bounded : settings.fade.micros < UInt64.size := by decide
  have ordered : Act.InOrder (acts ++ [.render now]) := by decide
  have fits : ∀ act ∈ acts ++ [.render now], ∀ time ∈ act.time?, time.micros < UInt64.size := by
    decide
  have plain : ∀ act ∈ acts, ∀ live ∈ act.live?, live.pattern.fades = 0 := by decide
  have length : settings.fade.millis = 100 := by decide
  obtain ⟨count, same, -, -, -, bound⟩ := fades_render_run bounded 2 ordered fits plain
  rw [length] at same bound
  have starts : player.starts = [60, 10] := same.trans (by decide)
  refine ⟨count, starts, bound.mpr ?_⟩
  change ∀ start ∈ player.starts, now.millis < start + 100
  rw [starts]
  decide

/-- The first of two fades is over, but it is still in the tree, behind the second one. -/
theorem fades_overtaken :
    let settings : PlayerSettings := ⟨2, .ofMillis 100, .linear⟩
    let now : Time := .ofMillis 120
    let acts : List Act :=
      [.cut (.start (.color ⟨255, 0, 0⟩)) (.ofMillis 0),
        .fade (.start (.color ⟨0, 255, 0⟩)) (.ofMillis 10),
        .fade (.start (.color ⟨0, 0, 255⟩)) (.ofMillis 60), .render now]
    let player := (start (.empty 4) settings).run acts
    let ledger := (Ledger.start (.empty 4)).run 100 acts
    player.starts = [60, 10] ∧ 10 + 100 ≤ now.millis ∧ ledger.asked = [60, 10] ∧
      ¬player.fades ≤ ledger.recent 100 now := by
  intro settings now acts player ledger
  exact ⟨by decide, by decide, by decide, by decide⟩

end Player

/-- A cut to a pattern, and then fades to it at a steady rate, each shown by a frame at once. -/
def Act.crowd (live : Live) (gap : Nat) : (count : Nat) → List Act
  | 0 => [.cut live (.ofMillis 0)]
  | count + 1 =>
      let now := Time.ofMillis ((count + 1) * gap)
      Act.crowd live gap count ++ [.fade live now, .render now]

/-- A fade that has just begun is not over, so that a frame leaves all fades in the tree. -/
theorem Ledger.starts_fade_render {length : Nat} (positive : 0 < length) {ledger : Ledger}
    (idle : ledger.mailbox.queue = []) (shown : ledger.wrapped.isSome) (live : Live) (now : Time) :
    let next := (ledger.follow now.millis (.fade live)).perform length (.render now)
    next.mailbox.queue = [] ∧ next.wrapped.isSome ∧
      next.starts.length = ledger.starts.length + 1 := by
  obtain ⟨⟨capacity, queue⟩, wrapped, asked⟩ := ledger
  obtain rfl : queue = [] := idle
  obtain ⟨starts, rfl⟩ := Option.isSome_iff_exists.mp shown
  intro next
  have kept : next = ⟨⟨capacity, []⟩, some (now.millis :: starts), now.millis :: asked⟩ := by
    apply if_neg
    rintro ⟨newest, ⟨⟩, finished⟩
    omega
  rw [kept]
  exact ⟨rfl, rfl, rfl⟩

/-- Nothing ever leaves a tree whose frames always find a fade that has just begun: it is as deep
as the number of the fades, however long ago most of them were over. -/
theorem Player.fades_run_crowd {settings : PlayerSettings} (positive : 0 < settings.fade.millis)
    (bounded : settings.fade.millis < UInt64.size) (capacity : Nat) {live : Live}
    (plain : live.pattern.fades = 0) {gap count : Nat}
    (fits : count * gap * 1000 < UInt64.size) :
    ((start (.empty capacity) settings).run (Act.crowd live gap count)).fades = count := by
  have tallied : ∃ ledger,
      Tallies settings (Time.ofMillis (count * gap)).millis
        ((start (.empty capacity) settings).run (Act.crowd live gap count)) ledger ∧
      ledger.mailbox.queue = [] ∧ ledger.wrapped.isSome ∧ ledger.starts.length = count := by
    induction count with
    | zero =>
        have begun : Tallies settings (Time.ofMillis 0).millis _ _ :=
          (Tallies.start capacity settings).mono (Nat.zero_le _)
        rw [Nat.zero_mul]
        exact ⟨_, begun.cut plain, rfl, rfl, rfl⟩
    | succ count ih =>
        have order : count * gap ≤ (count + 1) * gap :=
          Nat.mul_le_mul_right gap (Nat.le_succ count)
        obtain ⟨ledger, tallies, idle, shown, depth⟩ :=
          ih (Nat.lt_of_le_of_lt (Nat.mul_le_mul_right 1000 order) fits)
        let now := Time.ofMillis ((count + 1) * gap)
        have reached : (Time.ofMillis (count * gap)).millis ≤ now.millis := by
          rwa [Time.millis_ofMillis, Time.millis_ofMillis]
        have faded := (tallies.mono reached).fade plain fits
        have drawn := ((faded.drain fits).settle bounded fits).draw now
        obtain ⟨empty, some, deeper⟩ := Ledger.starts_fade_render positive idle shown live now
        rw [Act.crowd, run, List.foldl_append]
        exact ⟨_, drawn, empty, some, deeper.trans (congrArg (· + 1) depth)⟩
  obtain ⟨ledger, tallies, -, -, depth⟩ := tallied
  exact tallies.fades_eq.trans depth

end LightShow
