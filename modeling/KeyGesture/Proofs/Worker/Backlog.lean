import KeyGesture.Proofs.Sensor.SteadyTicks
import KeyGesture.Proofs.Worker.Duty

namespace KeyGesture

/-! A worker that is settled has worked off its backlog, one thing to do at each step, and has nothing to do
until it is sent a message or the next deadline comes. -/

namespace Worker

variable {δ : Type} [EdgeSource δ] {worker received : Worker δ} {time interval : Nat} {wake : Wake}

theorem backlog_arm_le (positive : ∀ interval, worker.interval? = some interval → 0 < interval) :
    (worker.arm time).backlog time ≤ worker.backlog time := by
  unfold backlog arm
  cases asked : worker.interval? with
  | none => exact Nat.le_add_right ..
  | some interval =>
      have ahead := positive interval asked
      cases worker.nextTick with
      | none =>
          simp only [Option.map_some, Option.getD_none, Option.elim_some, Option.elim_none]
          omega
      | some due => exact Nat.le_refl _

theorem backlog_lt_of_receive? (positive : ∀ interval, worker.interval? = some interval → 0 < interval)
    (found : worker.receive? time = some (wake, received)) :
    received.backlog time < worker.backlog time := by
  rcases receive?_eq_some found with
    ⟨message, rest, taken, _, rfl⟩ | ⟨due, interval, next, asked, passed, _, rfl⟩
  · have waiting := (Mailbox.waiting_of_take? taken).1
    unfold backlog
    rw [waiting, List.length_cons]
    exact Nat.add_lt_add_right (Nat.lt_succ_self _) _
  · have ahead := positive interval asked
    unfold backlog
    simp only [next, Option.elim_some]
    omega

end Worker

namespace Duty

variable {δ : Type} [EdgeSource δ] {duty : Duty δ} {period : Nat}

/-- There is nothing to do at present. -/
def Settled (duty : Duty δ) : Prop :=
  (duty.worker.poll duty.time).1 = none

instance (duty : Duty δ) : Decidable duty.Settled :=
  inferInstanceAs (Decidable (_ = none))

theorem ticksEvery_happen (steady : SteadyTicks δ period)
    (every : duty.worker.sensor.TicksEvery period) (happening : Happening δ) :
    (duty.happen happening).value.worker.sensor.TicksEvery period := by
  cases happening with
  | polled =>
      rcases duty.polled_cases with ⟨_, _, idle⟩ | ⟨wake, received, _, _, busy⟩
      · rw [idle]
        change duty.ready.sensor.TicksEvery period
        rwa [sensor_ready]
      · rw [busy]
        exact steady.process _ _ _ every
  | disturbed disturbance =>
      exact every.imp (disturbance.keepsTicker _).trans (disturbance.keepsTicker _).trans
  | posted | passed | begun | abandoned => exact every

theorem interval_pos (steady : SteadyTicks δ period) (every : duty.worker.sensor.TicksEvery period)
    {interval : Nat} (asked : duty.worker.interval? = some interval) : 0 < interval := by
  rw [Worker.interval?] at asked
  rcases every with silent | running
  · rw [silent] at asked
    contradiction
  · rw [running] at asked
    obtain rfl := Option.some.inj asked
    exact Nat.mul_pos steady.positive (by decide)

/-- A step that finds nothing to do leaves the worker settled. -/
theorem Coherent.settled_of_idle (coherent : duty.Coherent)
    (nothing : duty.ready.receive? duty.time = none) :
    (duty.run [.polled]).map (·.worker) = .quiet duty.ready ∧ (duty.reached [.polled]).Settled := by
  rcases duty.polled_cases with ⟨_, _, idle⟩ | ⟨_, _, receives, _, _⟩
  · refine ⟨?_, ?_⟩
    · rw [run_cons, idle]
      rfl
    · rw [reached_cons, idle]
      change ((duty.ready.arm duty.time).resume duty.time).1 = none
      rw [coherent.armed_ready.arm_eq, Worker.resume, nothing]
  · rw [nothing] at receives
    contradiction

/-- A step that finds something to do takes it off the backlog. -/
theorem Coherent.backlog_polled_lt (coherent : duty.Coherent) (steady : SteadyTicks δ period)
    (every : duty.worker.sensor.TicksEvery period) {wake : Wake} {received : Worker δ}
    (found : duty.ready.receive? duty.time = some (wake, received)) :
    (duty.happen .polled).value.worker.backlog duty.time < duty.worker.backlog duty.time := by
  have left : (duty.happen .polled).value.worker.backlog duty.time = received.backlog duty.time := by
    rcases duty.polled_cases with ⟨nothing, _, _⟩ | ⟨_, _, again, _, busy⟩
    · rw [found] at nothing
      contradiction
    · obtain ⟨rfl, rfl⟩ := Prod.mk.inj (Option.some.inj (found.symm.trans again))
      rw [busy]
      rfl
  rw [left]
  refine Nat.lt_of_lt_of_le (Worker.backlog_lt_of_receive? (fun interval asked => ?_) found) ?_
  · exact interval_pos steady every (duty.interval?_ready ▸ asked)
  · rw [coherent.ready_eq]
    exact Worker.backlog_arm_le fun interval => interval_pos steady every

/-- Polling the steps of a worker until one finds nothing to do takes no more steps than its backlog. -/
theorem Coherent.settle_within (coherent : duty.Coherent) (steady : SteadyTicks δ period)
    (every : duty.worker.sensor.TicksEvery period) {steps : Nat}
    (enough : duty.worker.backlog duty.time ≤ steps) :
    ∃ polls, (duty.run (List.replicate polls .polled)).map (·.worker) =
        Worker.run duty.time steps duty.worker ∧
      (duty.reached (List.replicate polls .polled)).Settled := by
  induction steps generalizing duty with
  | zero =>
      have nothing : duty.ready.receive? duty.time = none := by
        cases found : duty.ready.receive? duty.time with
        | none => rfl
        | some => exact absurd (coherent.backlog_polled_lt steady every found) (by omega)
      have idle := coherent.settled_of_idle nothing
      rw [coherent.ready_eq] at idle
      exact ⟨1, idle⟩
  | succ steps ih =>
      rw [Worker.run, ← coherent.turn_eq_poll]
      rcases duty.polled_cases with ⟨nothing, _, _⟩ | ⟨wake, received, found, _, busy⟩
      · refine ⟨1, ?_, (coherent.settled_of_idle nothing).2⟩
        rw [turn, Worker.resume, nothing]
        exact (coherent.settled_of_idle nothing).1
      · have less := coherent.backlog_polled_lt steady every found
        have same : (duty.happen .polled).value.time = duty.time := by rw [busy]; rfl
        obtain ⟨polls, ran, settled⟩ := ih (coherent.happen .polled)
          (ticksEvery_happen steady every .polled) (by rw [same]; omega)
        refine ⟨polls + 1, ?_, settled⟩
        have turned : duty.turn = (some wake, duty.turn.2) := by rw [turn, Worker.resume, found]
        rw [List.replicate_succ, run_cons, turned]
        rw [same] at ran
        have value := congrArg Outcome.value ran
        have events := congrArg Outcome.events ran
        exact Outcome.ext value (congrArg (duty.turn.2.events ++ ·) events)

/-- Settling a worker is polling its steps until one finds nothing to do. -/
theorem Coherent.settle (coherent : duty.Coherent) (steady : SteadyTicks δ period)
    (every : duty.worker.sensor.TicksEvery period) :
    ∃ polls, (duty.run (List.replicate polls .polled)).map (·.worker) =
        duty.worker.settle duty.time ∧
      (duty.reached (List.replicate polls .polled)).Settled :=
  coherent.settle_within steady every (Nat.le_refl _)

end Duty

end KeyGesture
