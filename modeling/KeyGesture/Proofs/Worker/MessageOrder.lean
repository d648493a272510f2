import KeyGesture.Proofs.Worker.Duty

namespace KeyGesture

/-! Whatever happens to a worker on duty, it processes the messages that were accepted once each and in order,
and its sensor is where processing them and the ticks in turn leads. -/

theorem Mailbox.length_post_le {mailbox : Mailbox} (fits : mailbox.waiting.length ≤ mailbox.capacity)
    (message : Message) : (mailbox.post message).2.waiting.length ≤ mailbox.capacity := by
  rw [waiting_post, List.length_append]
  split
  · rename_i accepted
    exact (post_accepts_iff mailbox message).mp accepted
  · exact fits

namespace Duty

variable {δ : Type} [EdgeSource δ] {duty : Duty δ}

def taken (duty : Duty δ) (happenings : List (Happening δ)) : List Message :=
  (duty.deeds happenings).filterMap Deed.taken?

theorem taken_cons (duty : Duty δ) (happening : Happening δ) (rest : List (Happening δ)) :
    duty.taken (happening :: rest) =
      ((duty.deed? happening).bind Deed.taken?).toList ++ (duty.happen happening).value.taken rest :=
  filterMap_deeds_cons Deed.taken? duty happening rest

/-! One happening. -/

/-- What is taken comes off the front of what waits, and what is accepted is added at its end. -/
theorem waiting_happen (duty : Duty δ) (happening : Happening δ) :
    ((duty.deed? happening).bind Deed.taken?).toList ++
        (duty.happen happening).value.worker.mailbox.waiting =
      duty.worker.mailbox.waiting ++ (duty.accepted? happening).toList := by
  cases happening with
  | posted message =>
      change (duty.worker.mailbox.post message).2.waiting = _ ++
        (if (duty.worker.mailbox.post message).1 then some message else none).toList
      rw [Mailbox.waiting_post]
      split <;> rfl
  | polled =>
      rcases duty.polled_cases with ⟨_, deed, idle⟩ | ⟨wake, received, found, deed, busy⟩
      · rw [deed, idle]
        change duty.ready.mailbox.waiting = duty.worker.mailbox.waiting ++ []
        rw [mailbox_ready, List.append_nil]
      · rw [deed, busy]
        change (Deed.served (δ := δ) duty.time wake).taken?.toList ++ received.mailbox.waiting =
          duty.worker.mailbox.waiting ++ []
        rw [List.append_nil]
        rcases Worker.receive?_eq_some found with
          ⟨message, rest, taken, rfl, rfl⟩ | ⟨due, interval, _, _, _, rfl, rfl⟩
        · rw [mailbox_ready] at taken
          exact (Mailbox.waiting_of_take? taken).1.symm
        · exact congrArg Mailbox.waiting duty.mailbox_ready
  | passed | begun | abandoned | disturbed => exact (List.append_nil _).symm

theorem capacity_happen (duty : Duty δ) (happening : Happening δ) :
    (duty.happen happening).value.worker.mailbox.capacity = duty.worker.mailbox.capacity := by
  cases happening with
  | posted message =>
      change (duty.worker.mailbox.post message).2.capacity = _
      unfold Mailbox.post
      split <;> rfl
  | polled =>
      rcases duty.polled_cases with ⟨_, _, idle⟩ | ⟨wake, received, found, _, busy⟩
      · rw [idle]
        exact congrArg Mailbox.capacity duty.mailbox_ready
      · rw [busy]
        have same := congrArg Mailbox.capacity duty.mailbox_ready
        rcases Worker.receive?_eq_some found with ⟨_, _, taken, _, rfl⟩ | ⟨_, _, _, _, _, _, rfl⟩
        · exact (Mailbox.waiting_of_take? taken).2.trans same
        · exact same
  | passed | begun | abandoned | disturbed => rfl

/-- The mailbox never holds more than it has room for. -/
def Fits (duty : Duty δ) : Prop :=
  duty.worker.mailbox.waiting.length ≤ duty.worker.mailbox.capacity

theorem Fits.happen (fits : duty.Fits) (happening : Happening δ) : (duty.happen happening).value.Fits := by
  have conserved := congrArg List.length (duty.waiting_happen happening)
  rw [Fits, capacity_happen]
  cases happening with
  | posted message => exact Mailbox.length_post_le fits message
  | passed | begun | polled | abandoned | disturbed =>
      simp only [accepted?, Option.toList_none, List.append_nil, List.length_append] at conserved
      unfold Fits at fits
      omega

/-! All that happens. -/

theorem taken_append_waiting (duty : Duty δ) (happenings : List (Happening δ)) :
    duty.taken happenings ++ (duty.reached happenings).worker.mailbox.waiting =
      duty.worker.mailbox.waiting ++ duty.accepted happenings := by
  induction happenings generalizing duty with
  | nil => exact (List.append_nil _).symm
  | cons happening rest ih =>
      rw [taken_cons, accepted_cons, reached_cons, List.append_assoc, ih, ← List.append_assoc,
        waiting_happen, List.append_assoc]

theorem capacity_reached (duty : Duty δ) (happenings : List (Happening δ)) :
    (duty.reached happenings).worker.mailbox.capacity = duty.worker.mailbox.capacity :=
  reached_keeps (fun later : Duty δ => later.worker.mailbox.capacity = duty.worker.mailbox.capacity)
    (fun later happening kept => (later.capacity_happen happening).trans kept) rfl happenings

theorem sensor_run (duty : Duty δ) (happenings : List (Happening δ)) :
    (duty.run happenings).map (·.worker.sensor) =
      duty.worker.sensor.performAll ((duty.deeds happenings).map Deed.call) := by
  induction happenings generalizing duty with
  | nil => rfl
  | cons happening rest ih =>
      rw [deeds_cons, List.map_append, Sensor.performAll_append, ← sensor_happen, run_cons]
      have later := ih (duty.happen happening).value
      have value := congrArg Outcome.value later
      have events := congrArg Outcome.events later
      exact Outcome.ext value (congrArg ((duty.happen happening).events ++ ·) events)

end Duty

/-- A worker on duty whose mailbox is empty at first. The messages accepted so far are those it has taken and
processed, in order, followed by those that wait. The next posting is refused exactly when as many wait as
there is room for, and then changes nothing. And the sensor is left, with the same reports, where the
processing of the messages taken and of the ticks leads, one after the other, each at the reading of the clock
at its time, with the hardware disturbed in between as it was. -/
theorem accepted_messages_served_in_order {δ : Type} [EdgeSource δ] (sensor : Sensor δ)
    (capacity time : Nat) (nextTick : Option Nat) (happenings : List (Happening δ)) (message : Message) :
    let fresh : Duty δ := { worker := { sensor, mailbox := { capacity }, nextTick }, time }
    let worker := (fresh.reached happenings).worker
    let accepted := fresh.accepted happenings
    let taken := fresh.taken happenings
    accepted = taken ++ worker.mailbox.waiting ∧
      worker.post message =
        (if accepted.length = taken.length + capacity then (false, worker)
        else (true, { worker with
          mailbox := { worker.mailbox with waiting := worker.mailbox.waiting ++ [message] } })) ∧
      (fresh.run happenings).map (·.worker.sensor) =
        sensor.performAll ((fresh.deeds happenings).map Deed.call) := by
  intro fresh worker accepted taken
  have conserved : accepted = taken ++ worker.mailbox.waiting := (fresh.taken_append_waiting happenings).symm
  refine ⟨conserved, ?_, fresh.sensor_run happenings⟩
  have size : worker.mailbox.capacity = capacity := fresh.capacity_reached happenings
  have fits : (fresh.reached happenings).Fits :=
    Duty.reached_keeps Duty.Fits (fun _ happening kept => kept.happen happening) (Nat.zero_le _) happenings
  have bound : worker.mailbox.waiting.length ≤ capacity := size ▸ fits
  have full : worker.mailbox.isFull = true ↔ accepted.length = taken.length + capacity := by
    rw [Mailbox.isFull, decide_eq_true_eq, size, conserved, List.length_append]
    omega
  rw [Worker.post, Mailbox.post]
  by_cases refused : worker.mailbox.isFull = true
  · rw [if_pos refused, if_pos (full.mp refused)]
  · rw [if_neg refused, if_neg fun many => refused (full.mpr many)]

end KeyGesture
