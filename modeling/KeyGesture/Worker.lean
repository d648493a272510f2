import KeyGesture.Sensor.Control

namespace KeyGesture

/-- What a worker finds to do. -/
inductive Wake where
  | message (posted : Message)
  /-- The tick with this deadline, in microseconds. -/
  | deadline (due : Nat)
  deriving DecidableEq, Repr

def Wake.toMessage : Wake → Message
  | .message posted => posted
  | .deadline _ => .tick

/-- The processing of one sensor: what it is sent waits in a mailbox, and the ticks it asks for have
deadlines. The deadline outlives each step, so messages do not push the tick back. -/
structure Worker (δ : Type) where
  sensor : Sensor δ
  mailbox : Mailbox
  /-- When the next tick is due, in microseconds of a counter that does not start again. -/
  nextTick : Option Nat := none

namespace Worker

variable {δ : Type}

/-- A millisecond of the worker's time. -/
def millisecond : Nat := 1000

/-- The sensor's clock at a time: the low 32 bits of the milliseconds. -/
def clockAt (time : Nat) : UInt32 :=
  UInt32.ofNat (time / millisecond)

def post (worker : Worker δ) (message : Message) : Bool × Worker δ :=
  let (accepted, mailbox) := worker.mailbox.post message
  (accepted, { worker with mailbox })

variable [EdgeSource δ]

/-- The time from one tick to the next, if ticks are asked for at present. -/
def interval? (worker : Worker δ) : Option Nat :=
  worker.sensor.tickPeriod.map (· * millisecond)

/-- What a step begins with: it sets the deadline of the next tick, one interval from now when ticks begin
to be asked for, as it was while they go on, and none once they are not. -/
def arm (worker : Worker δ) (time : Nat) : Worker δ :=
  { worker with nextTick := worker.interval?.map fun interval => worker.nextTick.getD (time + interval) }

/-- Takes what there is to do out of a worker that is armed: the oldest message, or else the tick whose
deadline has come. The tick after it is due one interval after that deadline. -/
def receive? (worker : Worker δ) (time : Nat) : Option (Wake × Worker δ) :=
  match worker.mailbox.take? with
  | some (message, mailbox) => some (.message message, { worker with mailbox })
  | none =>
      match worker.nextTick, worker.interval? with
      | some due, some interval =>
          if due ≤ time then some (.deadline due, { worker with nextTick := some (due + interval) })
          else none
      | _, _ => none

/-- Goes on with a step that has begun: what the worker found to do, if anything, and the worker after
doing it. -/
def resume (worker : Worker δ) (time : Nat) : Option Wake × Outcome (Worker δ) :=
  match worker.receive? time with
  | none => (none, .quiet worker)
  | some (wake, received) =>
      (some wake, (received.sensor.process (clockAt time) wake.toMessage).map
        fun sensor => { received with sensor })

/-- One step, from its beginning. -/
def poll (worker : Worker δ) (time : Nat) : Option Wake × Outcome (Worker δ) :=
  (worker.arm time).resume time

/-- How much there can be to do at a time: every message, and every microsecond up to now that a tick may
be due at. -/
def backlog (worker : Worker δ) (time : Nat) : Nat :=
  worker.mailbox.waiting.length + worker.nextTick.elim 0 fun due => time + 1 - due

/-- Up to `steps` steps, and no more once there is nothing to do. -/
def run (time : Nat) : (steps : Nat) → Worker δ → Outcome (Worker δ)
  | 0, worker => .quiet (worker.arm time)
  | steps + 1, worker =>
      match worker.poll time with
      | (none, outcome) => outcome
      | (some _, outcome) => outcome.andThen (run time steps)

/-- Steps until there is nothing to do. -/
def settle (worker : Worker δ) (time : Nat) : Outcome (Worker δ) :=
  run time (worker.backlog time) worker

end Worker

end KeyGesture
