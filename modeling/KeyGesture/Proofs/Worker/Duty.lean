import KeyGesture.Proofs.Sensor.Silence
import KeyGesture.Worker

namespace KeyGesture

/-! A worker on duty: messages are posted to it, time passes, and its steps begin, go on or are given up, in
any order. What one step does at one time is a single happening; whatever else happens falls between steps. -/

/-- A change of the hardware from outside, such as a new level of a pin, that leaves its ticker as it is. -/
structure Disturbance (δ : Type) [EdgeSource δ] where
  change : δ → δ
  keepsTicker : ∀ source, EdgeSource.tickPeriod (change source) = EdgeSource.tickPeriod source

inductive Happening (δ : Type) [EdgeSource δ] where
  | posted (message : Message)
  | passed (duration : Nat)
  /-- A new step begins, in place of one that waits, and waits. -/
  | begun
  /-- The step that waits goes on; if none does, a new one begins and goes on. -/
  | polled
  /-- The step that waits is given up. -/
  | abandoned
  | disturbed (disturbance : Disturbance δ)

/-- What the sensor gets to see of the happenings. -/
inductive Deed (δ : Type) where
  | served (time : Nat) (wake : Wake)
  | disturbed (change : δ → δ)

namespace Deed

variable {δ : Type}

/-- The message that was taken out of the mailbox and processed. -/
def taken? : Deed δ → Option Message
  | .served _ (.message message) => some message
  | .served _ (.deadline _) | .disturbed _ => none

/-- The deadline of the tick that was processed, and the time. -/
def tick? : Deed δ → Option (Nat × Nat)
  | .served time (.deadline due) => some (due, time)
  | .served _ (.message _) | .disturbed _ => none

/-- The deed as a call on the sensor: a message is processed as it was posted and a deadline as a tick, with
the clock at the low 32 bits of the milliseconds. -/
def call : Deed δ → UInt32 × SensorCall δ
  | .served time (.message posted) => (UInt32.ofNat (time / 1000), .process posted)
  | .served time (.deadline _) => (UInt32.ofNat (time / 1000), .process .tick)
  | .disturbed change => (0, .hardware change)

end Deed

namespace Mailbox

variable {mailbox rest : Mailbox} {message : Message}

theorem waiting_of_take? (taken : mailbox.take? = some (message, rest)) :
    mailbox.waiting = message :: rest.waiting ∧ rest.capacity = mailbox.capacity := by
  unfold take? at taken
  split at taken
  · contradiction
  · rename_i first others waiting
    simp only [Option.some.injEq, Prod.mk.injEq] at taken
    obtain ⟨rfl, rfl⟩ := taken
    exact ⟨waiting, rfl⟩

theorem take?_eq_none_iff : mailbox.take? = none ↔ mailbox.waiting = [] := by
  unfold take?
  split <;> simp_all

end Mailbox

namespace Worker

variable {δ : Type} [EdgeSource δ] {worker received : Worker δ} {time : Nat} {wake : Wake}

/-- What is received is a message taken from the mailbox, or else the tick that is due. -/
theorem receive?_eq_some (found : worker.receive? time = some (wake, received)) :
    (∃ message mailbox, worker.mailbox.take? = some (message, mailbox) ∧ wake = .message message ∧
        received = { worker with mailbox }) ∨
      ∃ due interval, worker.nextTick = some due ∧ worker.interval? = some interval ∧ due ≤ time ∧
        wake = .deadline due ∧ received = { worker with nextTick := some (due + interval) } := by
  unfold receive? at found
  split at found
  · rename_i message mailbox taken
    simp only [Option.some.injEq, Prod.mk.injEq] at found
    exact .inl ⟨message, mailbox, taken, found.1.symm, found.2.symm⟩
  · split at found
    · rename_i due interval next ticking
      split at found
      · rename_i passed
        simp only [Option.some.injEq, Prod.mk.injEq] at found
        exact .inr ⟨due, interval, next, ticking, passed, found.1.symm, found.2.symm⟩
      · contradiction
    · contradiction

theorem receive?_eq_none_iff : worker.receive? time = none ↔ worker.mailbox.waiting = [] ∧
    ∀ due interval, worker.nextTick = some due → worker.interval? = some interval → time < due := by
  unfold receive?
  rw [← Mailbox.take?_eq_none_iff]
  cases worker.mailbox.take? with
  | some taken => simp
  | none =>
      cases worker.nextTick <;> cases worker.interval? <;> simp

theorem sensor_of_receive? (found : worker.receive? time = some (wake, received)) :
    received.sensor = worker.sensor := by
  rcases receive?_eq_some found with ⟨_, _, _, _, rfl⟩ | ⟨_, _, _, _, _, _, rfl⟩ <;> rfl

/-- A step that goes on found nothing to do, or something, which it does. -/
theorem resume_cases (worker : Worker δ) (time : Nat) :
    worker.receive? time = none ∧ worker.resume time = (none, .quiet worker) ∨
      ∃ wake received, worker.receive? time = some (wake, received) ∧
        worker.resume time = (some wake, (worker.sensor.process (clockAt time) wake.toMessage).map
          fun sensor => { received with sensor }) := by
  unfold resume
  cases found : worker.receive? time with
  | none => exact .inl ⟨rfl, rfl⟩
  | some entry =>
      obtain ⟨wake, received⟩ := entry
      exact .inr ⟨wake, received, rfl, by rw [← sensor_of_receive? found]⟩

/-- A worker that is armed has a deadline exactly if ticks are asked for. -/
def Armed (worker : Worker δ) : Prop :=
  worker.nextTick.isSome = worker.interval?.isSome

theorem armed_arm (worker : Worker δ) (time : Nat) : (worker.arm time).Armed :=
  Option.isSome_map

/-- What a step begins with is done once: neither a step that goes on nor one that takes the place of a step
that was given up moves the deadline. -/
theorem Armed.arm_eq (armed : worker.Armed) (time : Nat) : worker.arm time = worker := by
  have kept : worker.interval?.map (fun interval => worker.nextTick.getD (time + interval)) =
      worker.nextTick := by
    unfold Armed at armed
    cases next : worker.nextTick <;> cases ticking : worker.interval? <;> simp_all
  rw [arm, kept]

end Worker

/-- A worker, the time, and whether a step has begun and waits for something to do. -/
structure Duty (δ : Type) where
  worker : Worker δ
  time : Nat
  waits : Bool := false

namespace Duty

variable {δ : Type} [EdgeSource δ]

/-- The worker as the step goes on that waits, or a new one. -/
def ready (duty : Duty δ) : Worker δ :=
  if duty.waits then duty.worker else duty.worker.arm duty.time

/-- What a step found to do, and the worker after it. -/
def turn (duty : Duty δ) : Option Wake × Outcome (Worker δ) :=
  duty.ready.resume duty.time

def happen (duty : Duty δ) : Happening δ → Outcome (Duty δ)
  | .posted message => .quiet { duty with worker := (duty.worker.post message).2 }
  | .passed duration => .quiet { duty with time := duty.time + duration }
  | .begun => .quiet { duty with worker := duty.worker.arm duty.time, waits := true }
  | .polled => duty.turn.2.map fun worker => { duty with worker, waits := duty.turn.1.isNone }
  | .abandoned => .quiet { duty with waits := false }
  | .disturbed disturbance =>
      .quiet { duty with
        worker := { duty.worker with sensor := duty.worker.sensor.mapSource disturbance.change } }

def run (duty : Duty δ) (happenings : List (Happening δ)) : Outcome (Duty δ) :=
  happenings.foldlM happen duty

/-- The duty after all that happened. -/
def reached (duty : Duty δ) (happenings : List (Happening δ)) : Duty δ :=
  (duty.run happenings).value

def deed? (duty : Duty δ) : Happening δ → Option (Deed δ)
  | .polled => duty.turn.1.map (.served duty.time)
  | .disturbed disturbance => some (.disturbed disturbance.change)
  | .posted _ | .passed _ | .begun | .abandoned => none

/-- A message whose posting is accepted. -/
def accepted? (duty : Duty δ) : Happening δ → Option Message
  | .posted message => if (duty.worker.post message).1 then some message else none
  | .passed _ | .begun | .polled | .abandoned | .disturbed _ => none

/-- What is found along the happenings, in order. -/
def collect {α : Type} (find? : Duty δ → Happening δ → Option α) :
    Duty δ → List (Happening δ) → List α
  | _, [] => []
  | duty, happening :: rest =>
      (find? duty happening).toList ++ collect find? (duty.happen happening).value rest

def deeds (duty : Duty δ) (happenings : List (Happening δ)) : List (Deed δ) :=
  collect deed? duty happenings

def accepted (duty : Duty δ) (happenings : List (Happening δ)) : List Message :=
  collect accepted? duty happenings

variable {duty : Duty δ} {happening : Happening δ}

theorem reached_cons (duty : Duty δ) (happening : Happening δ) (rest : List (Happening δ)) :
    duty.reached (happening :: rest) = (duty.happen happening).value.reached rest := rfl

theorem reached_append (duty : Duty δ) (first second : List (Happening δ)) :
    duty.reached (first ++ second) = (duty.reached first).reached second := by
  rw [reached, run, List.foldlM_append, Outcome.value_bind]
  rfl

theorem run_cons (duty : Duty δ) (happening : Happening δ) (rest : List (Happening δ)) :
    duty.run (happening :: rest) = (duty.happen happening).andThen fun next => next.run rest := rfl

theorem deeds_cons (duty : Duty δ) (happening : Happening δ) (rest : List (Happening δ)) :
    duty.deeds (happening :: rest) =
      (duty.deed? happening).toList ++ (duty.happen happening).value.deeds rest := rfl

theorem filterMap_deeds_cons {α : Type} (find? : Deed δ → Option α) (duty : Duty δ)
    (happening : Happening δ) (rest : List (Happening δ)) :
    (duty.deeds (happening :: rest)).filterMap find? =
      ((duty.deed? happening).bind find?).toList ++
        ((duty.happen happening).value.deeds rest).filterMap find? := by
  rw [deeds_cons, List.filterMap_append]
  cases duty.deed? happening with
  | none => rfl
  | some deed => cases found : find? deed <;> simp [found]

theorem accepted_cons (duty : Duty δ) (happening : Happening δ) (rest : List (Happening δ)) :
    duty.accepted (happening :: rest) =
      (duty.accepted? happening).toList ++ (duty.happen happening).value.accepted rest := rfl

/-- What every happening keeps, all of them keep. -/
theorem reached_keeps (kept : Duty δ → Prop)
    (each : ∀ duty happening, kept duty → kept (happen duty happening).value) (initially : kept duty)
    (happenings : List (Happening δ)) : kept (duty.reached happenings) := by
  induction happenings generalizing duty with
  | nil => exact initially
  | cons happening rest ih => exact ih (each duty happening initially)

@[simp] theorem mailbox_ready (duty : Duty δ) : duty.ready.mailbox = duty.worker.mailbox := by
  unfold ready
  split <;> rfl

@[simp] theorem sensor_ready (duty : Duty δ) : duty.ready.sensor = duty.worker.sensor := by
  unfold ready
  split <;> rfl

@[simp] theorem interval?_ready (duty : Duty δ) : duty.ready.interval? = duty.worker.interval? := by
  rw [Worker.interval?, sensor_ready, Worker.interval?]

/-- A step finds nothing to do and waits, or it does what it finds. -/
theorem polled_cases (duty : Duty δ) :
    duty.ready.receive? duty.time = none ∧ duty.deed? .polled = none ∧
        duty.happen .polled = .quiet { duty with worker := duty.ready, waits := true } ∨
      ∃ wake received, duty.ready.receive? duty.time = some (wake, received) ∧
        duty.deed? .polled = some (.served duty.time wake) ∧
        duty.happen .polled =
          (duty.worker.sensor.process (Worker.clockAt duty.time) wake.toMessage).map fun sensor =>
            { duty with worker := { received with sensor }, waits := false } := by
  rcases duty.ready.resume_cases duty.time with ⟨none, resumed⟩ | ⟨wake, received, found, resumed⟩
  · exact .inl ⟨none, by rw [deed?, turn, resumed]; rfl, by rw [happen, turn, resumed]; rfl⟩
  · rw [sensor_ready] at resumed
    exact .inr ⟨wake, received, found, by rw [deed?, turn, resumed]; rfl, by
      rw [happen, turn, resumed]; rfl⟩

/-- Of a happening the sensor gets to see the deed, if there is one, and nothing else. -/
theorem sensor_happen (duty : Duty δ) (happening : Happening δ) :
    (duty.happen happening).map (·.worker.sensor) =
      duty.worker.sensor.performAll ((duty.deed? happening).toList.map Deed.call) := by
  cases happening with
  | polled =>
      rcases duty.polled_cases with ⟨_, deed, idle⟩ | ⟨wake, received, found, deed, busy⟩
      · rw [deed, idle]
        exact congrArg Outcome.quiet duty.sensor_ready
      · rw [deed, busy]
        cases wake with
        | message posted => exact (duty.worker.sensor.performAll_singleton _ (.process posted)).symm
        | deadline due => exact (duty.worker.sensor.performAll_singleton _ (.process .tick)).symm
  | disturbed disturbance =>
      exact (duty.worker.sensor.performAll_singleton 0 (.hardware disturbance.change)).symm
  | posted | passed | begun | abandoned => rfl

/-- A step that waits has armed its worker. -/
def Coherent (duty : Duty δ) : Prop :=
  duty.waits = true → duty.worker.Armed

theorem Coherent.ready_eq (coherent : duty.Coherent) :
    duty.ready = duty.worker.arm duty.time := by
  unfold ready
  split
  · rename_i waits
    exact ((coherent waits).arm_eq duty.time).symm
  · rfl

theorem Coherent.armed_ready (coherent : duty.Coherent) : duty.ready.Armed := by
  rw [coherent.ready_eq]
  exact duty.worker.armed_arm duty.time

/-- It makes no difference whether the step that waits goes on or a new one takes its place. -/
theorem Coherent.turn_eq_poll (coherent : duty.Coherent) : duty.turn = duty.worker.poll duty.time := by
  rw [turn, coherent.ready_eq]
  rfl

theorem Coherent.happen (coherent : duty.Coherent) (happening : Happening δ) :
    (duty.happen happening).value.Coherent := by
  cases happening with
  | posted message => exact coherent
  | passed duration => exact coherent
  | begun => exact fun _ => duty.worker.armed_arm duty.time
  | polled =>
      rcases duty.polled_cases with ⟨_, _, idle⟩ | ⟨wake, received, _, _, busy⟩
      · rw [idle]
        exact fun _ => coherent.armed_ready
      · rw [busy]
        exact fun waits => absurd waits Bool.false_ne_true
  | abandoned => exact fun waits => absurd waits Bool.false_ne_true
  | disturbed disturbance =>
      intro waits
      have same : EdgeSource.tickPeriod (disturbance.change duty.worker.sensor.source) =
          EdgeSource.tickPeriod duty.worker.sensor.source :=
        disturbance.keepsTicker _
      have armed := coherent waits
      rw [Worker.Armed, Worker.interval?, Sensor.tickPeriod] at armed ⊢
      change duty.worker.nextTick.isSome =
        ((EdgeSource.tickPeriod (disturbance.change duty.worker.sensor.source)).map _).isSome
      rwa [same]

theorem Coherent.reached (coherent : duty.Coherent) (happenings : List (Happening δ)) :
    (duty.reached happenings).Coherent :=
  reached_keeps Coherent (fun _ happening kept => kept.happen happening) coherent happenings

end Duty

end KeyGesture
