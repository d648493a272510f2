import KeyGesture.Proofs.Worker.Backlog

namespace KeyGesture

/-! From the first step that finds ticks asked for, a worker on duty processes one tick for every interval,
late perhaps but none of them lost, and the deadlines do not drift. -/

/-- A step begins, or goes on. -/
def Happening.isStep {δ : Type} [EdgeSource δ] : Happening δ → Bool
  | .begun | .polled => true
  | .posted _ | .passed _ | .abandoned | .disturbed _ => false

namespace Duty

variable {δ : Type} [EdgeSource δ] {duty fresh : Duty δ} {happening first : Happening δ}
  {earlier idle later : List (Happening δ)} {period start interval count due time : Nat}

/-- Ticks are asked for. -/
def Ticking (duty : Duty δ) : Prop :=
  duty.worker.sensor.tickPeriod.isSome = true

/-- Ticks are asked for when each of the happenings begins. -/
def TickingThrough : Duty δ → List (Happening δ) → Prop
  | _, [] => True
  | duty, happening :: rest => duty.Ticking ∧ TickingThrough (duty.happen happening).value rest

instance (duty : Duty δ) : Decidable duty.Ticking :=
  inferInstanceAs (Decidable (_ = true))

instance decidableTickingThrough : (duty : Duty δ) → (happenings : List (Happening δ)) →
    Decidable (duty.TickingThrough happenings)
  | _, [] => .isTrue trivial
  | duty, happening :: rest =>
      have := decidableTickingThrough (duty.happen happening).value rest
      inferInstanceAs (Decidable (_ ∧ _))

/-- The deadline of the tick that is processed, and the time. -/
def tick? (duty : Duty δ) (happening : Happening δ) : Option (Nat × Nat) :=
  (duty.deed? happening).bind Deed.tick?

def ticks (duty : Duty δ) (happenings : List (Happening δ)) : List (Nat × Nat) :=
  (duty.deeds happenings).filterMap Deed.tick?

/-- Happenings through which ticks are asked for, while right before them they were not; `first` is the first
step among them. -/
structure Stretch (fresh : Duty δ) (earlier idle : List (Happening δ)) (first : Happening δ)
    (later : List (Happening δ)) : Prop where
  starts : ∀ before last, earlier = before ++ [last] → ¬ (fresh.reached before).Ticking
  ticking : (fresh.reached earlier).TickingThrough (idle ++ first :: later)
  unseen : ∀ happening ∈ idle, happening.isStep = false
  seen : first.isStep = true

theorem tickingThrough_append {first second : List (Happening δ)} :
    duty.TickingThrough (first ++ second) ↔
      duty.TickingThrough first ∧ (duty.reached first).TickingThrough second := by
  induction first generalizing duty with
  | nil => exact (and_iff_right trivial).symm
  | cons happening rest ih =>
      rw [List.cons_append, TickingThrough, TickingThrough, ih, reached_cons, and_assoc]

theorem ticks_cons (duty : Duty δ) (happening : Happening δ) (rest : List (Happening δ)) :
    duty.ticks (happening :: rest) =
      (duty.tick? happening).toList ++ (duty.happen happening).value.ticks rest :=
  filterMap_deeds_cons Deed.tick? duty happening rest

theorem ticks_append (duty : Duty δ) (first second : List (Happening δ)) :
    duty.ticks (first ++ second) = duty.ticks first ++ (duty.reached first).ticks second := by
  induction first generalizing duty with
  | nil => rfl
  | cons happening rest ih =>
      rw [List.cons_append, ticks_cons, ticks_cons, ih, reached_cons, List.append_assoc]

/-- A tick is processed only if ticks are asked for, and is then what the sensor is sent. -/
theorem processed_of_tick? (found : duty.tick? happening = some (due, time)) :
    duty.Ticking ∧ time = duty.time ∧
      (duty.happen happening).map (·.worker.sensor) =
        duty.worker.sensor.process (UInt32.ofNat (time / 1000)) .tick := by
  have sent := duty.sensor_happen happening
  cases happening with
  | polled =>
      rcases duty.polled_cases with ⟨_, deed, _⟩ | ⟨wake, received, receives, deed, _⟩
      · rw [tick?, deed] at found
        contradiction
      · rw [tick?, deed] at found
        rw [deed] at sent
        rcases Worker.receive?_eq_some receives with
          ⟨message, rest, _, rfl, _⟩ | ⟨next, interval, _, asked, _, rfl, _⟩
        · contradiction
        · obtain ⟨rfl, rfl⟩ := Prod.mk.inj (Option.some.inj found)
          refine ⟨?_, rfl, sent.trans (duty.worker.sensor.performAll_singleton _ (.process .tick))⟩
          rw [interval?_ready, Worker.interval?] at asked
          rw [Ticking, ← Option.isSome_map, asked]
          rfl
  | posted | passed | begun | abandoned | disturbed => contradiction

/-! Periods. -/

theorem ticksEvery_reached (steady : SteadyTicks δ period)
    (every : duty.worker.sensor.TicksEvery period) (happenings : List (Happening δ)) :
    (duty.reached happenings).worker.sensor.TicksEvery period :=
  reached_keeps (fun later : Duty δ => later.worker.sensor.TicksEvery period)
    (fun _ happening kept => ticksEvery_happen steady kept happening) every happenings

theorem Ticking.tickPeriod_eq (ticking : duty.Ticking) (every : duty.worker.sensor.TicksEvery period) :
    duty.worker.sensor.tickPeriod = some period := by
  rcases every with silent | running
  · rw [Ticking, silent] at ticking
    contradiction
  · exact running

theorem Ticking.interval?_eq (ticking : duty.Ticking) (every : duty.worker.sensor.TicksEvery period) :
    duty.worker.interval? = some (period * Worker.millisecond) := by
  rw [Worker.interval?, ticking.tickPeriod_eq every]
  rfl

/-! While ticks are asked for, the deadline is one interval after the last one that has passed. -/

/-- The next tick is the one after `count` of them, and the time has come to those. -/
def OnSchedule (start interval count : Nat) (duty : Duty δ) : Prop :=
  duty.worker.nextTick = some (start + (count + 1) * interval) ∧ start + count * interval ≤ duty.time

theorem OnSchedule.armed (on : duty.OnSchedule start interval count)
    (asked : duty.worker.interval? = some interval) : duty.worker.Armed := by
  rw [Worker.Armed, on.1, asked]
  rfl

/-- Whatever happens, the schedule stays as it is, or the next tick on it is processed, at its time or
later. -/
theorem OnSchedule.happen (on : duty.OnSchedule start interval count)
    (asked : duty.worker.interval? = some interval) (happening : Happening δ) :
    (duty.tick? happening = none ∧ (duty.happen happening).value.OnSchedule start interval count) ∨
      start + (count + 1) * interval ≤ duty.time ∧
        duty.tick? happening = some (start + (count + 1) * interval, duty.time) ∧
        (duty.happen happening).value.OnSchedule start interval (count + 1) := by
  have armed : duty.worker.arm duty.time = duty.worker := (on.armed asked).arm_eq duty.time
  cases happening with
  | passed duration => exact .inl ⟨rfl, on.1, Nat.le_trans on.2 (Nat.le_add_right ..)⟩
  | begun =>
      refine .inl ⟨rfl, ?_, on.2⟩
      change (duty.worker.arm duty.time).nextTick = _
      rw [armed, on.1]
  | polled =>
      have ready : duty.ready = duty.worker := by rw [Duty.ready, armed, ite_self]
      rcases duty.polled_cases with ⟨_, deed, idle⟩ | ⟨wake, received, receives, deed, busy⟩
      · refine .inl ⟨by rw [tick?, deed]; rfl, ?_⟩
        rw [idle, ready]
        exact on
      · rw [tick?, deed, busy]
        rw [ready] at receives
        rcases Worker.receive?_eq_some receives with
          ⟨message, rest, _, rfl, rfl⟩ | ⟨due, step, next, period, passed, rfl, rfl⟩
        · exact .inl ⟨rfl, on⟩
        · obtain rfl : due = start + (count + 1) * interval := Option.some.inj (next.symm.trans on.1)
          obtain rfl : step = interval := Option.some.inj (period.symm.trans asked)
          have following : start + (count + 1) * step + step = start + (count + 1 + 1) * step := by
            rw [Nat.add_assoc, ← Nat.succ_mul]
          exact .inr ⟨passed, rfl, congrArg some following, passed⟩
  | posted | abandoned | disturbed => exact .inl ⟨rfl, on⟩

theorem OnSchedule.reached (on : duty.OnSchedule start (period * Worker.millisecond) count)
    (steady : SteadyTicks δ period) (every : duty.worker.sensor.TicksEvery period)
    {happenings : List (Happening δ)} (through : duty.TickingThrough happenings) :
    (duty.reached happenings).OnSchedule start (period * Worker.millisecond)
        (count + (duty.ticks happenings).length) ∧
      ∀ index due time, (duty.ticks happenings)[index]? = some (due, time) →
        due = start + (count + index + 1) * (period * Worker.millisecond) ∧ due ≤ time := by
  induction happenings generalizing duty count with
  | nil => exact ⟨on, fun _ _ _ found => nomatch found⟩
  | cons happening rest ih =>
      obtain ⟨ticking, through⟩ := through
      have steps := ticksEvery_happen steady every happening
      rw [reached_cons, ticks_cons]
      rcases on.happen (ticking.interval?_eq every) happening with ⟨quiet, next⟩ | ⟨passed, found, next⟩
      · rw [quiet]
        exact ih next steps through
      · obtain ⟨last, deadlines⟩ := ih next steps through
        rw [found, Option.toList_some, List.singleton_append, List.length_cons]
        refine ⟨?_, fun index due time entry => ?_⟩
        · rwa [Nat.add_right_comm] at last
        · cases index with
          | zero =>
              obtain ⟨rfl, rfl⟩ := Prod.mk.inj (Option.some.inj entry)
              exact ⟨rfl, passed⟩
          | succ index =>
              obtain ⟨rfl, passed⟩ := deadlines index due time entry
              exact ⟨by rw [Nat.add_right_comm count 1, Nat.add_assoc count index], passed⟩

/-- Settled in the middle of the schedule, every deadline that has passed had its tick. -/
theorem OnSchedule.count_eq (on : duty.OnSchedule start interval count)
    (asked : duty.worker.interval? = some interval) (settled : duty.Settled) :
    count = (duty.time - start) / interval := by
  have armed : duty.worker.arm duty.time = duty.worker := (on.armed asked).arm_eq duty.time
  have before : duty.time < start + (count + 1) * interval := by
    rcases duty.worker.resume_cases duty.time with ⟨nothing, _⟩ | ⟨wake, received, _, busy⟩
    · exact (Worker.receive?_eq_none_iff.mp nothing).2 _ _ on.1 asked
    · rw [Settled, Worker.poll, armed, busy] at settled
      contradiction
  have after := on.2
  exact (Nat.div_eq_of_lt_le (by omega) (by omega)).symm

/-! The first step that finds ticks asked for starts the schedule. -/

/-- No step has seen that ticks are asked for. -/
def Unaware (duty : Duty δ) : Prop :=
  duty.worker.nextTick = none ∧ duty.waits = false

theorem Unaware.coherent (unaware : duty.Unaware) : duty.Coherent :=
  fun waits => absurd (waits.symm.trans unaware.2) Bool.noConfusion

theorem Unaware.happen (unaware : duty.Unaware) (idle : happening.isStep = false) :
    (duty.happen happening).value.Unaware ∧ duty.tick? happening = none := by
  cases happening with
  | posted | passed | disturbed => exact ⟨unaware, rfl⟩
  | abandoned => exact ⟨⟨unaware.1, rfl⟩, rfl⟩
  | begun | polled => contradiction

theorem Unaware.reached (unaware : duty.Unaware) (unseen : ∀ happening ∈ idle, happening.isStep = false) :
    (duty.reached idle).Unaware ∧ duty.ticks idle = [] := by
  induction idle generalizing duty with
  | nil => exact ⟨unaware, rfl⟩
  | cons happening rest ih =>
      obtain ⟨idle, unseen⟩ := List.forall_mem_cons.mp unseen
      obtain ⟨next, quiet⟩ := unaware.happen idle
      rw [reached_cons, ticks_cons, quiet]
      exact ih next unseen

/-- What makes ticks be asked for is the processing of a message, in a step that had no deadline. -/
theorem Coherent.unaware_happen (coherent : duty.Coherent) (silent : ¬ duty.Ticking)
    (ticking : (duty.happen happening).value.Ticking) : (duty.happen happening).value.Unaware := by
  cases happening with
  | polled =>
      rcases duty.polled_cases with ⟨_, _, idle⟩ | ⟨wake, received, receives, _, busy⟩
      · rw [idle, Ticking] at ticking
        rw [Ticking, ← duty.sensor_ready] at silent
        exact absurd ticking silent
      · have unasked : duty.ready.interval? = none := by
          rw [interval?_ready, Worker.interval?, Option.map_eq_none_iff, ← Option.not_isSome_iff_eq_none]
          exact silent
        have unset : duty.ready.nextTick = none := by
          simpa [Worker.Armed, unasked] using coherent.armed_ready
        rw [busy]
        rcases Worker.receive?_eq_some receives with
          ⟨message, rest, _, _, rfl⟩ | ⟨due, interval, next, _⟩
        · exact ⟨unset, rfl⟩
        · rw [unset] at next
          contradiction
  | disturbed disturbance =>
      rw [Ticking] at ticking silent
      exact absurd ((congrArg Option.isSome (disturbance.keepsTicker _)).symm.trans ticking) silent
  | posted | passed | begun | abandoned => exact absurd ticking silent

theorem Unaware.seen (unaware : duty.Unaware) (seen : happening.isStep = true) :
    duty.happen happening = { duty with worker := duty.worker.arm duty.time }.happen happening ∧
      duty.tick? happening = { duty with worker := duty.worker.arm duty.time }.tick? happening := by
  have again := (duty.worker.armed_arm duty.time).arm_eq duty.time
  cases happening with
  | begun =>
      refine ⟨?_, rfl⟩
      rw [Duty.happen, Duty.happen, again]
  | polled =>
      have same : duty.turn = { duty with worker := duty.worker.arm duty.time }.turn := by
        rw [turn, turn, ready, ready, again, unaware.2, ite_self]
        rfl
      refine ⟨?_, ?_⟩
      · rw [Duty.happen, Duty.happen, same]
      · rw [tick?, tick?, deed?, deed?, same]
  | posted | passed | abandoned | disturbed => contradiction

theorem Stretch.unaware (stretch : fresh.Stretch earlier idle first later)
    (initially : fresh.Unaware) : (fresh.reached earlier).Unaware := by
  rcases List.eq_nil_or_concat earlier with rfl | ⟨before, last, rfl⟩
  · exact initially
  · rw [List.concat_eq_append] at stretch ⊢
    have ticking : (fresh.reached (before ++ [last])).Ticking := by
      have through := stretch.ticking
      cases idle with
      | nil => exact through.1
      | cons => exact through.1
    rw [reached_append] at ticking ⊢
    exact (initially.coherent.reached before).unaware_happen (stretch.starts before last rfl) ticking

theorem Unaware.onSchedule (unaware : duty.Unaware) (steady : SteadyTicks δ period)
    (every : duty.worker.sensor.TicksEvery period) (seen : first.isStep = true)
    (through : duty.TickingThrough (first :: later)) :
    (duty.reached (first :: later)).OnSchedule duty.time (period * Worker.millisecond)
        (duty.ticks (first :: later)).length ∧
      ∀ index due time, (duty.ticks (first :: later))[index]? = some (due, time) →
        due = duty.time + (index + 1) * (period * Worker.millisecond) ∧ due ≤ time := by
  -- The first step goes on from the worker it has armed, which is on schedule with no tick done.
  have on : { duty with worker := duty.worker.arm duty.time }.OnSchedule duty.time
      (period * Worker.millisecond) 0 := by
    refine ⟨?_, Nat.le_of_eq (by rw [Nat.zero_mul]; rfl)⟩
    change (duty.worker.arm duty.time).nextTick = _
    rw [Worker.arm, through.1.interval?_eq every, unaware.1, Nat.zero_add, Nat.one_mul]
    rfl
  obtain ⟨same, tick⟩ := unaware.seen seen
  have throughArmed : { duty with worker := duty.worker.arm duty.time }.TickingThrough (first :: later) :=
    ⟨through.1, same ▸ through.2⟩
  obtain ⟨last, deadlines⟩ := on.reached steady every throughArmed
  rw [reached_cons, ticks_cons, same, tick, ← ticks_cons, ← reached_cons]
  simpa only [Nat.zero_add] using And.intro last deadlines

theorem Stretch.onSchedule (stretch : fresh.Stretch earlier idle first later)
    (steady : SteadyTicks δ period) (every : fresh.worker.sensor.TicksEvery period)
    (initially : fresh.Unaware) :
    (fresh.reached (earlier ++ (idle ++ first :: later))).OnSchedule
        (fresh.reached (earlier ++ idle)).time (period * Worker.millisecond)
        ((fresh.reached earlier).ticks (idle ++ first :: later)).length ∧
      ∀ index due time,
        ((fresh.reached earlier).ticks (idle ++ first :: later))[index]? = some (due, time) →
        due = (fresh.reached (earlier ++ idle)).time + (index + 1) * (period * Worker.millisecond) ∧
          due ≤ time := by
  obtain ⟨unaware, quiet⟩ := (stretch.unaware initially).reached stretch.unseen
  have through := (tickingThrough_append.mp stretch.ticking).2
  rw [← reached_append] at unaware through
  rw [← List.append_assoc, reached_append fresh (earlier ++ idle), ticks_append, quiet, List.nil_append,
    ← reached_append]
  exact unaware.onSchedule steady (ticksEvery_reached steady every (earlier ++ idle)) stretch.seen through

theorem exists_ticking_suffix (fresh : Duty δ) (happenings : List (Happening δ)) :
    ∃ earlier through, happenings = earlier ++ through ∧
      (∀ before last, earlier = before ++ [last] → ¬ (fresh.reached before).Ticking) ∧
      (fresh.reached earlier).TickingThrough through := by
  induction happenings using List.reverseRecOn with
  | nil => exact ⟨[], [], rfl, fun _ _ impossible => by simp at impossible, trivial⟩
  | append_singleton before last ih =>
      by_cases ticking : (fresh.reached before).Ticking
      · obtain ⟨earlier, through, rfl, starts, asked⟩ := ih
        rw [reached_append] at ticking
        exact ⟨earlier, through ++ [last], List.append_assoc .., starts,
          tickingThrough_append.mpr ⟨asked, ticking, trivial⟩⟩
      · refine ⟨before ++ [last], [], (List.append_nil _).symm, fun others final same => ?_, trivial⟩
        rwa [← (List.append_inj' same rfl).1]

/-- Each step that begins while ticks are asked for belongs to a stretch. -/
theorem exists_stretch (fresh : Duty δ) (happenings : List (Happening δ))
    (seen : happening.isStep = true) (ticking : (fresh.reached happenings).Ticking) :
    ∃ earlier idle first later, happenings ++ [happening] = earlier ++ (idle ++ first :: later) ∧
      fresh.Stretch earlier idle first later := by
  obtain ⟨earlier, through, rfl, starts, asked⟩ := fresh.exists_ticking_suffix happenings
  have whole : (fresh.reached earlier).TickingThrough (through ++ [happening]) :=
    tickingThrough_append.mpr ⟨asked, by rwa [← reached_append], trivial⟩
  obtain ⟨first, found⟩ : ∃ first, (through ++ [happening]).find? Happening.isStep = some first :=
    Option.isSome_iff_exists.mp (List.find?_isSome.mpr ⟨happening, by simp, seen⟩)
  obtain ⟨step, idle, later, split, unseen⟩ := List.find?_eq_some_iff_append.mp found
  refine ⟨earlier, idle, first, later, ?_, ⟨starts, ?_, ?_, step⟩⟩
  · rw [List.append_assoc, split]
  · rwa [← split]
  · exact fun earliest mem => by simpa using unseen earliest mem

/-- What the ticks of a worker keep to, whatever happens to it from here on. Each of them is all that its sensor
is sent at that time, and besides them it is sent only the messages taken. -/
structure KeepsSchedule (fresh : Duty δ) (period : Nat) : Prop where
  steady : ∀ happenings, (fresh.reached happenings).Ticking →
    (fresh.reached happenings).worker.sensor.tickPeriod = some period
  covered : ∀ happenings step, step.isStep = true → (fresh.reached happenings).Ticking →
    ∃ earlier idle first later, happenings ++ [step] = earlier ++ (idle ++ first :: later) ∧
      fresh.Stretch earlier idle first later
  deadlines : ∀ earlier idle first later, fresh.Stretch earlier idle first later →
    let start := (fresh.reached (earlier ++ idle)).time
    let interval := period * Worker.millisecond
    ∀ index due time,
      ((fresh.reached earlier).ticks (idle ++ first :: later))[index]? = some (due, time) →
        due = start + (index + 1) * interval ∧ due ≤ time
  settled : ∀ earlier idle first later, fresh.Stretch earlier idle first later →
    let start := (fresh.reached (earlier ++ idle)).time
    let interval := period * Worker.millisecond
    let count := ((fresh.reached earlier).ticks (idle ++ first :: later)).length
    let last := fresh.reached (earlier ++ (idle ++ first :: later))
    last.Ticking → last.Settled → count = (last.time - start) / interval ∧
      last.worker.nextTick = some (start + (count + 1) * interval)
  processed : ∀ happenings happening due time,
    (fresh.reached happenings).tick? happening = some (due, time) →
      time = (fresh.reached happenings).time ∧
        ((fresh.reached happenings).happen happening).map (·.worker.sensor) =
          (fresh.reached happenings).worker.sensor.process (UInt32.ofNat (time / 1000)) .tick
  unticked : ∀ happenings happening, (fresh.reached happenings).tick? happening = none →
    ((fresh.reached happenings).happen happening).map (·.worker.sensor) =
      (fresh.reached happenings).worker.sensor.performAll
        (((fresh.reached happenings).deed? happening).toList.map Deed.call)
  silent : ∀ happenings happening, ¬ (fresh.reached happenings).Ticking →
    (fresh.reached happenings).tick? happening = none
  settles : ∀ happenings, ∃ polls,
    ((fresh.reached happenings).run (List.replicate polls .polled)).map (·.worker) =
        (fresh.reached happenings).worker.settle (fresh.reached happenings).time ∧
      (fresh.reached (happenings ++ List.replicate polls .polled)).Settled

theorem Unaware.keepsSchedule (unaware : fresh.Unaware) (steady : SteadyTicks δ period)
    (every : fresh.worker.sensor.TicksEvery period) : fresh.KeepsSchedule period where
  steady happenings ticking := ticking.tickPeriod_eq (ticksEvery_reached steady every happenings)
  covered happenings _ := fresh.exists_stretch happenings
  deadlines _ _ _ _ stretch := (stretch.onSchedule steady every unaware).2
  settled _ _ _ _ stretch := by
    intro start interval count last ticking settled
    have on := (stretch.onSchedule steady every unaware).1
    have asked := ticking.interval?_eq (ticksEvery_reached steady every _)
    exact ⟨on.count_eq asked settled, on.1⟩
  processed _ _ _ _ found := (processed_of_tick? found).2
  unticked happenings happening _ := (fresh.reached happenings).sensor_happen happening
  silent happenings happening idle := by
    cases found : (fresh.reached happenings).tick? happening with
    | none => rfl
    | some tick => exact absurd (processed_of_tick? found).1 idle
  settles happenings := by
    simp only [reached_append]
    exact (unaware.coherent.reached happenings).settle steady
      (ticksEvery_reached steady every happenings)

end Duty

/-- The worker of a sensor at a time, with no tick set yet. -/
def Duty.fresh {δ : Type} (sensor : Sensor δ) (mailbox : Mailbox) (time : Nat) : Duty δ :=
  { worker := { sensor, mailbox }, time }

/-- With every kind of hardware, in every state it can be brought to, the ticks of a worker keep to their
schedule: in each stretch of time through which they are asked for, the k-th one has its deadline k intervals
after the first step that finds them asked for and is processed then or later, by the sensor, at the reading of
the clock at that time. A settled worker has processed one for each deadline that has come, and none is
processed by a step that finds none asked for. -/
theorem ticks_keep_schedule (board : Board) (controller : Peripheral PadCommand)
    (wokeBy : Option WakeSource) (mailbox : Mailbox) (time : Nat) :
    (∀ history, (Duty.fresh ((Sensor.mk {} (DebouncedLines.fresh board wokeBy)).serve history)
        mailbox time).KeepsSchedule checkPeriod) ∧
      (∀ history, (Duty.fresh ((Sensor.mk {} (GatedLine.fresh board wokeBy)).serve history)
        mailbox time).KeepsSchedule checkPeriod) ∧
      (∀ history, (Duty.fresh ((Sensor.mk {} (TouchPads.fresh board controller wokeBy)).serve history)
        mailbox time).KeepsSchedule checkPeriod) ∧
      ∀ sensor : Sensor PolledPins,
        (Duty.fresh sensor mailbox time).KeepsSchedule PolledPins.pollPeriod :=
  ⟨fun history => Duty.Unaware.keepsSchedule ⟨rfl, rfl⟩ Sensor.steadyTicks
      (Sensor.TicksEvery.serve DebouncedLines.stopsOrKeepsTicker (.inl rfl) history),
    fun history => Duty.Unaware.keepsSchedule ⟨rfl, rfl⟩ Sensor.steadyTicks
      (Sensor.TicksEvery.serve GatedLine.stopsOrKeepsTicker (.inl rfl) history),
    fun history => Duty.Unaware.keepsSchedule ⟨rfl, rfl⟩ Sensor.steadyTicks
      (Sensor.TicksEvery.serve TouchPads.stopsOrKeepsTicker (.inl rfl) history),
    fun sensor => Duty.Unaware.keepsSchedule ⟨rfl, rfl⟩ PolledPins.steadyTicks
      (PolledPins.ticksEvery sensor)⟩

/-- A key goes down, and a quarter of a second passes before the next step goes on: it does the two ticks that
have come due, after a message that was posted later than their deadlines. -/
theorem ticks_keep_schedule_while_down :
    let key : Key := ⟨1, .io⟩
    let board : Board := { wiring := [(key, 7)] }
    let opened : List (UInt32 × Operation DebouncedLines) :=
      [(0, .start { roster := ⟨[key], by decide⟩ })]
    let sensor := (Sensor.mk {} (DebouncedLines.fresh board none)).serve opened
    let fresh := Duty.fresh sensor { capacity := 4 } 0
    let earlier : List (Happening DebouncedLines) := [.posted (.pressed 7), .passed 3000, .polled]
    let idle : List (Happening DebouncedLines) := [.passed 500]
    let later : List (Happening DebouncedLines) :=
      [.passed 250000, .abandoned, .posted (.released 9), .polled, .polled, .polled, .polled]
    let last := fresh.reached (earlier ++ (idle ++ .polled :: later))
    let late := fresh.reached (earlier ++ (idle ++ .polled :: later.take 4))
    fresh.Stretch earlier idle .polled later ∧ last.Ticking ∧ last.Settled ∧
      last.worker.nextTick = some 303500 ∧
      ((fresh.reached earlier).ticks (idle ++ .polled :: later)).length = 2 ∧
      late.tick? .polled = some (103500, 253500) ∧
      (late.happen .polled).map (·.worker.sensor) = late.worker.sensor.process 253 .tick := by
  intro key board opened sensor fresh earlier idle later last late
  have stretch : fresh.Stretch earlier idle .polled later := {
    starts := by
      intro before final same
      have parts : [.posted (.pressed 7), .passed 3000] ++ [.polled] = before ++ [final] := same
      obtain ⟨rfl, _⟩ := List.append_inj' parts rfl
      decide
    ticking := by decide +kernel
    unseen := by decide
    seen := rfl }
  have ticking : last.Ticking := by decide +kernel
  have settled : last.Settled := by decide +kernel
  have keeps : fresh.KeepsSchedule checkPeriod :=
    (ticks_keep_schedule board .ideal none { capacity := 4 } 0).1 opened
  obtain ⟨count, next⟩ := keeps.settled earlier idle .polled later stretch ticking settled
  have start : (fresh.reached (earlier ++ idle)).time = 3500 := by decide +kernel
  have time : last.time = 253500 := by decide +kernel
  rw [start, time] at count
  have ticked : late.tick? .polled = some (103500, 253500) := by decide +kernel
  refine ⟨stretch, ticking, settled, ?_, count, ticked, (keeps.processed _ _ _ _ ticked).2⟩
  rw [next, count, start]
  decide

end KeyGesture
