import LightShow.Show.Live

/-! Commands for a show, and the bounded mailbox through which they reach it. Commands come out in
the order in which they went in; a full mailbox hands a command back. -/

namespace LightShow

inductive Command where
  | fade (pattern : Live)
  | cut (pattern : Live)
  | clear

structure Mailbox where
  capacity : Nat
  queue : List Command

namespace Mailbox

def empty (capacity : Nat) : Mailbox := ⟨capacity, []⟩

/-- Puts a command last, unless the mailbox is full. -/
def send (mailbox : Mailbox) (command : Command) : Except Command Mailbox :=
  if mailbox.queue.length < mailbox.capacity then
    .ok { mailbox with queue := mailbox.queue ++ [command] }
  else .error command

/-- Takes out the first command. -/
def receive? (mailbox : Mailbox) : Option (Command × Mailbox) :=
  match mailbox.queue with
  | [] => none
  | command :: rest => some (command, { mailbox with queue := rest })

theorem queue_send {mailbox sent : Mailbox} {command : Command}
    (accepted : mailbox.send command = .ok sent) :
    sent.queue = mailbox.queue ++ [command] ∧ sent.capacity = mailbox.capacity := by
  unfold send at accepted
  by_cases room : mailbox.queue.length < mailbox.capacity
  · rw [if_pos room] at accepted
    cases accepted
    exact ⟨rfl, rfl⟩
  · rw [if_neg room] at accepted
    cases accepted

end Mailbox

end LightShow
