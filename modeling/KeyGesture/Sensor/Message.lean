namespace KeyGesture

/-- What interrupt handlers and timers post to the processing of a sensor. -/
inductive Message where
  /-- The key on a channel was found down while the hardware started up. -/
  | heldAtStart (channel : Nat)
  | pressed (channel : Nat)
  | released (channel : Nat)
  /-- The classifier tick is due. -/
  | tick
  /-- Lets key input in, or shuts it out. -/
  | setEnabled (enable : Bool)
  deriving DecidableEq, Repr

/-- Messages that wait to be processed, first come first served, up to a capacity. -/
structure Mailbox where
  capacity : Nat
  waiting : List Message := []
  deriving DecidableEq, Repr

namespace Mailbox

def isFull (mailbox : Mailbox) : Bool :=
  decide (mailbox.capacity ≤ mailbox.waiting.length)

/-- Adds a message at the end, and tells whether there was room for it. -/
def post (mailbox : Mailbox) (message : Message) : Bool × Mailbox :=
  if mailbox.isFull then (false, mailbox)
  else (true, { mailbox with waiting := mailbox.waiting ++ [message] })

/-- Takes the oldest message out. -/
def take? (mailbox : Mailbox) : Option (Message × Mailbox) :=
  match mailbox.waiting with
  | [] => none
  | message :: rest => some (message, { mailbox with waiting := rest })

theorem post_accepts_iff (mailbox : Mailbox) (message : Message) :
    (mailbox.post message).1 = true ↔ mailbox.waiting.length < mailbox.capacity := by
  unfold post isFull
  split <;> simp_all

theorem waiting_post (mailbox : Mailbox) (message : Message) :
    (mailbox.post message).2.waiting =
      mailbox.waiting ++ if (mailbox.post message).1 then [message] else [] := by
  unfold post
  split <;> simp

end Mailbox

end KeyGesture
