import LightShow.Proofs.Timeline

/-! Commands on their way to a player. Any number of tasks put commands into its mailbox, some may
take commands out of it, and the player itself takes out what waits, one command a turn, and carries
it out. Whatever the order of all this, no command is lost, doubled or overtaken. -/

namespace LightShow

/-- The call that carries a command out. -/
def Command.act (now : Time) : Command → Act
  | .fade live => .fade live now
  | .cut live => .cut live now
  | .clear => .clear

/-- A player, with the commands that its mailbox has accepted and those that were taken out of it,
both in the order in which this happened. -/
structure Delivery where
  player : Player
  accepted : List Command
  taken : List Command

namespace Delivery

/-- What may happen next. -/
inductive Step (Sender : Type) where
  | send (sender : Sender) (command : Command)
  /-- A task other than the player takes a command out. -/
  | receive
  /-- The player takes out one command and carries it out, in a drain that others interrupt. -/
  | turn (now : Time)
  | drain (now : Time)
  | render (now : Time)
  /-- A command is carried out that did not come through the mailbox. -/
  | call (command : Command) (now : Time)

def start (capacity : Nat) (settings : PlayerSettings) : Delivery :=
  ⟨.start (.empty capacity) settings, [], []⟩

def queue (delivery : Delivery) : List Command := delivery.player.mailbox.queue

def send (delivery : Delivery) (command : Command) : Delivery :=
  match delivery.player.mailbox.send command with
  | .error _ => delivery
  | .ok mailbox =>
      { delivery with
        player := { delivery.player with mailbox := mailbox }
        accepted := delivery.accepted ++ [command] }

def receive? (delivery : Delivery) : Option (Command × Delivery) :=
  delivery.player.mailbox.receive?.map fun (command, mailbox) =>
    (command,
      { delivery with
        player := { delivery.player with mailbox := mailbox }
        taken := delivery.taken ++ [command] })

def turn? (delivery : Delivery) (now : Time) : Option Delivery :=
  delivery.receive?.map fun (command, rest) =>
    { rest with player := rest.player.apply now command }

end Delivery

namespace Player

theorem perform_act (player : Player) (now : Time) (command : Command) :
    player.perform (command.act now) = player.apply now command := by
  cases command <;> rfl

/-- The player with other commands waiting for it. -/
def withQueue (player : Player) (queue : List Command) : Player :=
  { player with mailbox := { player.mailbox with queue := queue } }

/-- Carrying out a command has nothing to do with those that wait. -/
theorem apply_withQueue (player : Player) (queue : List Command) (now : Time) (command : Command) :
    (player.withQueue queue).apply now command = (player.apply now command).withQueue queue := by
  cases command with
  | fade live =>
      obtain ⟨_, _, shown, _, _⟩ := player
      cases shown <;> rfl
  | cut live => rfl
  | clear => rfl

theorem run_withQueue (player : Player) (queue : List Command) (now : Time)
    (commands : List Command) :
    (player.withQueue queue).run (commands.map (Command.act now)) =
      (player.run (commands.map (Command.act now))).withQueue queue := by
  induction commands generalizing player with
  | nil => rfl
  | cons command rest ih =>
      rw [List.map_cons, run, List.foldl_cons, perform_act, apply_withQueue]
      refine (ih (player.apply now command)).trans ?_
      rw [run, run, List.foldl_cons, perform_act]

theorem mailbox_apply (player : Player) (now : Time) (command : Command) :
    (player.apply now command).mailbox = player.mailbox := by
  cases command with
  | fade live =>
      obtain ⟨_, _, shown, _, _⟩ := player
      cases shown <;> rfl
  | cut live => rfl
  | clear => rfl

theorem mailbox_settle (player : Player) (now : Time) :
    (player.settle now).mailbox = player.mailbox := by
  unfold settle
  split
  · rfl
  · split <;> rfl

theorem mailbox_draw (player : Player) (now : Time) :
    (player.draw now).mailbox = player.mailbox := by
  unfold draw
  split <;> rfl

end Player

namespace Delivery

theorem receive?_of_empty {delivery : Delivery} (empty : delivery.queue = []) :
    delivery.receive? = none := by
  change delivery.player.mailbox.queue = [] at empty
  rw [receive?, Mailbox.receive?, empty]
  rfl

theorem receive?_of_waiting {delivery : Delivery} {command : Command} {rest : List Command}
    (waiting : delivery.queue = command :: rest) :
    delivery.receive? = some (command, ⟨delivery.player.withQueue rest, delivery.accepted,
      delivery.taken ++ [command]⟩) := by
  change delivery.player.mailbox.queue = command :: rest at waiting
  rw [receive?, Mailbox.receive?, waiting]
  rfl

theorem turn?_of_empty {delivery : Delivery} (empty : delivery.queue = []) (now : Time) :
    delivery.turn? now = none := by
  rw [turn?, receive?_of_empty empty, Option.map_none]

theorem turn?_of_waiting {delivery : Delivery} {command : Command} {rest : List Command}
    (waiting : delivery.queue = command :: rest) (now : Time) :
    delivery.turn? now = some ⟨(delivery.player.apply now command).withQueue rest,
      delivery.accepted, delivery.taken ++ [command]⟩ := by
  rw [turn?, receive?_of_waiting waiting, Option.map_some, ← Player.apply_withQueue]

theorem length_queue_turn? {delivery next : Delivery} {now : Time}
    (turned : delivery.turn? now = some next) : next.queue.length < delivery.queue.length := by
  cases shape : delivery.queue with
  | nil =>
      rw [turn?_of_empty shape] at turned
      cases turned
  | cons command rest =>
      rw [turn?_of_waiting shape] at turned
      cases turned
      exact Nat.lt_succ_self rest.length

/-- Takes out and carries out one command after the other, until there is none. -/
def drain (delivery : Delivery) (now : Time) : Delivery :=
  match _ : delivery.turn? now with
  | none => delivery
  | some next => next.drain now
termination_by delivery.queue.length
decreasing_by exact length_queue_turn? ‹_›

def perform {Sender : Type} (delivery : Delivery) : Step Sender → Delivery
  | .send _ command => delivery.send command
  | .receive => (delivery.receive?.map (·.2)).getD delivery
  | .turn now => (delivery.turn? now).getD delivery
  | .drain now => delivery.drain now
  | .render now =>
      let drained := delivery.drain now
      { drained with player := (drained.player.settle now).draw now }
  | .call command now => { delivery with player := delivery.player.apply now command }

def run {Sender : Type} (delivery : Delivery) (steps : List (Step Sender)) : Delivery :=
  steps.foldl perform delivery

/-- After a drain nothing waits, and every command was carried out in its turn. -/
theorem drain_eq (delivery : Delivery) (now : Time) :
    delivery.drain now =
      ⟨(delivery.player.run (delivery.queue.map (Command.act now))).withQueue [],
        delivery.accepted, delivery.taken ++ delivery.queue⟩ := by
  generalize shape : delivery.queue = waiting
  induction waiting generalizing delivery with
  | nil =>
      rw [drain, turn?_of_empty shape, List.append_nil]
      obtain ⟨⟨⟨capacity, _⟩, _, _, _, _⟩, accepted, taken⟩ := delivery
      obtain rfl : _ = [] := shape
      rfl
  | cons command rest ih =>
      rw [drain, turn?_of_waiting shape]
      refine (ih _ rfl).trans ?_
      rw [Player.run_withQueue, List.append_assoc, List.map_cons, Player.run, Player.run,
        List.foldl_cons, Player.perform_act]
      rfl

/-- One turn after the other is the same as all of them at once. -/
theorem player_drain (delivery : Delivery) (now : Time) :
    (delivery.drain now).player = delivery.player.drain now := by
  rw [drain_eq, ← Player.run_withQueue, Player.run, List.foldl_map]
  simp only [Player.perform_act]
  rfl

/-- What holds at all times: the mailbox is never more than full, and what was taken out of it and
what is still in it are together what it accepted. -/
structure Kept (capacity : Nat) (delivery : Delivery) : Prop where
  size : delivery.player.mailbox.capacity = capacity
  bounded : delivery.queue.length ≤ capacity
  complete : delivery.taken ++ delivery.queue = delivery.accepted

namespace Kept

variable {capacity : Nat} {delivery : Delivery}

theorem start (capacity : Nat) (settings : PlayerSettings) :
    Kept capacity (.start capacity settings) :=
  ⟨rfl, Nat.zero_le capacity, rfl⟩

/-- A mailbox refuses a command only when it is full, and hands it back. -/
theorem send_eq (kept : Kept capacity delivery) (command : Command) :
    delivery.player.mailbox.send command =
      if delivery.queue.length = capacity then .error command
      else .ok ⟨capacity, delivery.queue ++ [command]⟩ := by
  have bounded := kept.bounded
  unfold Delivery.queue at bounded ⊢
  rw [Mailbox.send, kept.size]
  by_cases full : delivery.player.mailbox.queue.length = capacity
  · rw [if_pos full, if_neg (Nat.not_lt_of_ge (Nat.le_of_eq full.symm))]
  · rw [if_neg full, if_pos (Nat.lt_of_le_of_ne bounded full), ← kept.size]

theorem send (kept : Kept capacity delivery) (command : Command) :
    Kept capacity (delivery.send command) := by
  rw [Delivery.send, kept.send_eq]
  by_cases full : delivery.queue.length = capacity
  · rw [if_pos full]
    exact kept
  · rw [if_neg full]
    have bounded := kept.bounded
    refine ⟨rfl, ?_, ?_⟩
    · change (delivery.queue ++ [command]).length ≤ capacity
      rw [List.length_append, List.length_singleton]
      omega
    · change delivery.taken ++ (delivery.queue ++ [command]) = delivery.accepted ++ [command]
      rw [← List.append_assoc, kept.complete]

/-- The first command that waits goes over to those that were taken out. -/
theorem take (kept : Kept capacity delivery) {command : Command} {rest : List Command}
    (waiting : delivery.queue = command :: rest) {player : Player}
    (left : player.mailbox = { delivery.player.mailbox with queue := rest }) :
    Kept capacity ⟨player, delivery.accepted, delivery.taken ++ [command]⟩ := by
  have queue : player.mailbox.queue = rest := congrArg Mailbox.queue left
  refine ⟨(congrArg Mailbox.capacity left).trans kept.size, ?_, ?_⟩
  · have bounded := kept.bounded
    rw [waiting, List.length_cons] at bounded
    rw [Delivery.queue, queue]
    omega
  · rw [Delivery.queue, queue, List.append_assoc, List.singleton_append, ← waiting, kept.complete]

theorem receive (kept : Kept capacity delivery) :
    Kept capacity ((delivery.receive?.map (·.2)).getD delivery) := by
  cases shape : delivery.queue with
  | nil =>
      rw [receive?_of_empty shape]
      exact kept
  | cons command rest =>
      rw [receive?_of_waiting shape]
      exact kept.take shape rfl

theorem turn (kept : Kept capacity delivery) (now : Time) :
    Kept capacity ((delivery.turn? now).getD delivery) := by
  cases shape : delivery.queue with
  | nil =>
      rw [turn?_of_empty shape]
      exact kept
  | cons command rest =>
      rw [turn?_of_waiting shape]
      apply kept.take shape
      rw [Player.withQueue, Player.mailbox_apply]

theorem drain (kept : Kept capacity delivery) (now : Time) :
    Kept capacity (delivery.drain now) := by
  fun_induction Delivery.drain delivery now with
  | case1 delivery none => exact kept
  | case2 delivery next turned ih =>
      have step := kept.turn now
      rw [turned, Option.getD_some] at step
      exact ih step

/-- What a player does otherwise leaves its mailbox alone. -/
theorem of_mailbox (kept : Kept capacity delivery) {player : Player}
    (same : player.mailbox = delivery.player.mailbox) :
    Kept capacity { delivery with player := player } := by
  have queue : player.mailbox.queue = delivery.queue := congrArg Mailbox.queue same
  refine ⟨(congrArg Mailbox.capacity same).trans kept.size, ?_, ?_⟩
  · exact Nat.le_trans (Nat.le_of_eq (congrArg List.length queue)) kept.bounded
  · exact (congrArg (delivery.taken ++ ·) queue).trans kept.complete

theorem perform {Sender : Type} (kept : Kept capacity delivery) (step : Step Sender) :
    Kept capacity (delivery.perform step) := by
  cases step with
  | send sender command => exact kept.send command
  | receive => exact kept.receive
  | turn now => exact kept.turn now
  | drain now => exact kept.drain now
  | render now =>
      apply (kept.drain now).of_mailbox
      rw [Player.mailbox_draw, Player.mailbox_settle]
  | call command now => exact kept.of_mailbox (Player.mailbox_apply delivery.player now command)

theorem run {Sender : Type} (kept : Kept capacity delivery) (steps : List (Step Sender)) :
    Kept capacity (delivery.run steps) := by
  induction steps generalizing delivery with
  | nil => exact kept
  | cons step rest ih => exact ih (kept.perform step)

end Kept

/-- What may happen in the course of a drain: its turns, and commands that are sent meanwhile. -/
def Step.Within {Sender : Type} (now : Time) : Step Sender → Prop
  | .send _ _ => True
  | .turn time => time = now
  | _ => False

/-- How a player gets on in the course of a drain: some commands were carried out, in the order in
which they were taken out, and some were accepted. -/
def Within (now : Time) (earlier later : Delivery) : Prop :=
  ∃ carried meanwhile,
    later.taken = earlier.taken ++ carried ∧ later.accepted = earlier.accepted ++ meanwhile ∧
    later.player =
      (earlier.player.run (carried.map (Command.act now))).withQueue later.queue

namespace Within

variable {now : Time}

theorem refl (delivery : Delivery) : Within now delivery delivery :=
  ⟨[], [], (List.append_nil _).symm, (List.append_nil _).symm, rfl⟩

theorem trans {first second third : Delivery} (before : Within now first second)
    (after : Within now second third) : Within now first third := by
  obtain ⟨carried, meanwhile, taken, accepted, player⟩ := before
  obtain ⟨carriedLater, meanwhileLater, takenLater, acceptedLater, playerLater⟩ := after
  refine ⟨carried ++ carriedLater, meanwhile ++ meanwhileLater, ?_, ?_, ?_⟩
  · rw [takenLater, taken, List.append_assoc]
  · rw [acceptedLater, accepted, List.append_assoc]
  · rw [playerLater, player, Player.run_withQueue, List.map_append, Player.run, Player.run,
      Player.run, List.foldl_append]
    rfl

theorem send (delivery : Delivery) (command : Command) :
    Within now delivery (delivery.send command) := by
  unfold Delivery.send Mailbox.send
  by_cases room : delivery.player.mailbox.queue.length < delivery.player.mailbox.capacity
  · rw [if_pos room]
    exact ⟨[], [command], (List.append_nil _).symm, rfl, rfl⟩
  · rw [if_neg room]
    exact refl delivery

theorem turn (delivery : Delivery) : Within now delivery ((delivery.turn? now).getD delivery) := by
  cases shape : delivery.queue with
  | nil =>
      rw [turn?_of_empty shape]
      exact refl delivery
  | cons command rest =>
      rw [turn?_of_waiting shape, Option.getD_some]
      refine ⟨[command], [], rfl, (List.append_nil _).symm, ?_⟩
      rw [List.map_singleton, Player.run, List.foldl_cons, Player.perform_act]
      rfl

theorem run {Sender : Type} {steps : List (Step Sender)} (within : ∀ step ∈ steps, step.Within now)
    (delivery : Delivery) : Within now delivery (delivery.run steps) := by
  induction steps generalizing delivery with
  | nil => exact refl delivery
  | cons step rest ih =>
      obtain ⟨first, others⟩ := List.forall_mem_cons.mp within
      refine trans ?_ (ih others (delivery.perform step))
      cases step with
      | send sender command => exact send delivery command
      | turn time =>
          obtain rfl : time = now := first
          exact turn delivery
      | _ => exact first.elim

end Within

/-- However many tasks send, receive and play, in whatever order: the mailbox is never more than
full; it refuses a command exactly if it is full, and then hands that command back and stays as it
is; what was taken out and what waits is what was accepted, in that order. A drain, by itself or as
the first step of a frame, leaves nothing waiting and brings the player where the calls for the
waiting commands bring it, one after the other; so does one that is interrupted by commands that
are sent meanwhile, and these come last. -/
theorem run_delivers {Sender : Type} (capacity : Nat) (settings : PlayerSettings)
    (steps : List (Step Sender)) :
    let delivery := (start capacity settings).run steps
    let player := delivery.player
    delivery.queue.length ≤ capacity ∧
    delivery.taken ++ delivery.queue = delivery.accepted ∧
    (∀ command,
      ((∃ returned, player.mailbox.send command = .error returned) ↔
        delivery.queue.length = capacity) ∧
      ∀ returned, player.mailbox.send command = .error returned →
        returned = command ∧ delivery.send command = delivery) ∧
    ∀ now,
      let carried := fun commands =>
        (player.run (commands.map (Command.act now))).withQueue []
      player.drain now = carried delivery.queue ∧
      (delivery.drain now).player = carried delivery.queue ∧
      player.render now = ((carried delivery.queue).settle now).draw now ∧
      ∀ others : List (Step Sender), (∀ step ∈ others, step.Within now) →
        (delivery.run others).queue = [] →
        ∃ meanwhile, (delivery.run others).accepted = delivery.accepted ++ meanwhile ∧
          (delivery.run others).player = carried (delivery.queue ++ meanwhile) := by
  intro delivery player
  have kept : Kept capacity delivery := (Kept.start capacity settings).run steps
  refine ⟨kept.bounded, kept.complete, fun command => ?_, fun now => ?_⟩
  · rw [kept.send_eq]
    by_cases full : delivery.queue.length = capacity
    · rw [if_pos full]
      refine ⟨iff_of_true ⟨command, rfl⟩ full, ?_⟩
      rintro _ ⟨⟩
      refine ⟨rfl, ?_⟩
      rw [Delivery.send, kept.send_eq, if_pos full]
    · rw [if_neg full]
      exact ⟨iff_of_false nofun full, nofun⟩
  · intro carried
    have drained : (delivery.drain now).player = carried delivery.queue := by rw [drain_eq]
    have alone : player.drain now = carried delivery.queue :=
      (player_drain delivery now).symm.trans drained
    refine ⟨alone, drained, by rw [Player.render, alone], ?_⟩
    intro others within empty
    obtain ⟨between, meanwhile, taken, accepted, reached⟩ := Within.run within delivery
    refine ⟨meanwhile, accepted, ?_⟩
    have complete := (kept.run others).complete
    rw [empty, List.append_nil, taken, accepted, ← kept.complete, List.append_assoc] at complete
    rw [reached, empty, List.append_cancel_left complete]

end Delivery

end LightShow
