import KeyGesture.Proofs.Sensor.StuckPads

namespace KeyGesture

/-! How long a pad is held before it is released here. Presses do not touch the count of ticks, which is
shared by all pads, so ticks that were counted before a press take the pad up earlier: by one period each. -/

namespace TouchPads

open Sensor

/-- Pads in time: the time of what was last done with them, in milliseconds, and when the next tick is due, if
ticks are asked for. -/
structure Timed where
  sensor : Sensor TouchPads
  time : Nat := 0
  due : Nat := 0

namespace Timed

def fresh (board : Board) (controller : Peripheral PadCommand) (wokeBy : Option WakeSource) : Timed :=
  { sensor := { source := .fresh board controller wokeBy } }

/-- The first tick is due one period after ticks begin to be asked for, and each later one a period after
the tick before it. -/
def operate (timed : Timed) (moment : Nat × Operation TouchPads) : Timed :=
  { sensor := timed.sensor.operate (UInt32.ofNat moment.1) moment.2
    time := moment.1
    due :=
      if timed.sensor.tickPeriod = none ∨ .tick ∈ moment.2.messages then moment.1 + checkPeriod
      else timed.due }

def serve (timed : Timed) (run : List (Nat × Operation TouchPads)) : Timed :=
  run.foldl operate timed

/-- While ticks are asked for, nothing is done later than the tick that is due, and a tick comes just then. -/
def Admits (timed : Timed) (moment : Nat × Operation TouchPads) : Prop :=
  timed.time ≤ moment.1 ∧ (timed.sensor.tickPeriod ≠ none →
    moment.1 ≤ timed.due ∧ (.tick ∈ moment.2.messages → moment.1 = timed.due))

def OnTime : Timed → List (Nat × Operation TouchPads) → Prop
  | _, [] => True
  | timed, moment :: rest => timed.Admits moment ∧ (timed.operate moment).OnTime rest

/-- The key is down before the first operation and after each. -/
def StaysDown (key : Key) : Timed → List (Nat × Operation TouchPads) → Prop
  | timed, [] => timed.sensor.recognizer.isDown key = true
  | timed, moment :: rest =>
      timed.sensor.recognizer.isDown key = true ∧ (timed.operate moment).StaysDown key rest

def count (timed : Timed) : Nat :=
  timed.sensor.source.heldTicks

/-- When pads that are down will be released here, if no release comes in until then. -/
def limit (timed : Timed) : Nat :=
  timed.due + (maxHeldTicks - timed.count) * checkPeriod

variable {timed : Timed} {moment : Nat × Operation TouchPads} {run : List (Nat × Operation TouchPads)}
  {key : Key}

instance : Decidable (timed.Admits moment) :=
  inferInstanceAs (Decidable (_ ∧ _))

instance decidableOnTime : (timed : Timed) → (run : List (Nat × Operation TouchPads)) →
    Decidable (timed.OnTime run)
  | _, [] => .isTrue trivial
  | timed, moment :: rest =>
      have := decidableOnTime (timed.operate moment) rest
      inferInstanceAs (Decidable (_ ∧ _))

instance decidableStaysDown (key : Key) : (timed : Timed) → (run : List (Nat × Operation TouchPads)) →
    Decidable (timed.StaysDown key run)
  | _, [] => inferInstanceAs (Decidable (_ = true))
  | timed, moment :: rest =>
      have := decidableStaysDown key (timed.operate moment) rest
      inferInstanceAs (Decidable (_ ∧ _))

theorem StaysDown.isDown (staysDown : timed.StaysDown key run) :
    timed.sensor.recognizer.isDown key = true := by
  cases run with
  | nil => exact staysDown
  | cons moment rest => exact staysDown.1

theorem StaysDown.isDown_serve (staysDown : timed.StaysDown key run) :
    (timed.serve run).sensor.recognizer.isDown key = true := by
  induction run generalizing timed with
  | nil => exact staysDown
  | cons moment rest ih => exact ih staysDown.2

theorem onTime_append {earlier later : List (Nat × Operation TouchPads)} :
    timed.OnTime (earlier ++ later) ↔ timed.OnTime earlier ∧ (timed.serve earlier).OnTime later := by
  induction earlier generalizing timed with
  | nil => exact (iff_of_eq (true_and _)).symm
  | cons moment rest ih =>
      rw [List.cons_append, OnTime, OnTime, ih, and_assoc]
      rfl

/-- What holds of pads that are served on time. -/
structure Regular (timed : Timed) : Prop where
  service : InService timed.sensor
  watched : Watched timed.sensor
  ahead : timed.time ≤ timed.due

namespace Regular

theorem fresh (board : Board) (controller : Peripheral PadCommand) (wokeBy : Option WakeSource) :
    (Timed.fresh board controller wokeBy).Regular :=
  ⟨.fresh board controller wokeBy, fun _ => rfl, Nat.le_refl 0⟩

theorem running (regular : timed.Regular) (down : timed.sensor.recognizer.isDown key = true) :
    timed.sensor.tickPeriod ≠ none := by
  intro stopped
  have up := regular.service.sound.allUp_iff_isDown.mp (regular.watched stopped) key
  rw [down] at up
  contradiction

theorem operate (regular : timed.Regular) (single : moment.2.isDrain = false)
    (admitted : timed.Admits moment) : (timed.operate moment).Regular := by
  refine ⟨regular.service.operate _ single, regular.watched.operate regular.service _ single, ?_⟩
  simp only [Timed.operate]
  split
  · exact Nat.le_add_right _ _
  · rename_i going
    exact (admitted.2 fun stopped => going (.inl stopped)).1

theorem serve (regular : timed.Regular) (singles : ∀ moment ∈ run, moment.2.isDrain = false)
    (onTime : timed.OnTime run) : (timed.serve run).Regular := by
  induction run generalizing timed with
  | nil => exact regular
  | cons moment rest ih =>
      have next := regular.operate (singles moment List.mem_cons_self) onTime.1
      exact ih next (fun other member => singles other (List.mem_cons_of_mem _ member)) onTime.2

/-- Each tick that was counted already takes a period off the time that pads may be held. -/
theorem limit_add_counted (regular : timed.Regular) :
    timed.limit + timed.count * checkPeriod = timed.due + maxHold := by
  have bounded : timed.count ≤ maxHeldTicks := regular.service.bounded
  rw [limit, Nat.add_assoc, ← Nat.add_mul, Nat.sub_add_cancel bounded]
  rfl

theorem limit_of_count_eq_zero (regular : timed.Regular) (zero : timed.count = 0) :
    timed.time + maxHold ≤ timed.limit := by
  have whole := regular.limit_add_counted
  have ahead := regular.ahead
  rw [zero, Nat.zero_mul, Nat.add_zero] at whole
  omega

theorem due_operate (regular : timed.Regular) (down : timed.sensor.recognizer.isDown key = true) :
    (timed.operate moment).due =
      if .tick ∈ moment.2.messages then moment.1 + checkPeriod else timed.due := by
  simp only [Timed.operate, regular.running down, false_or]

/-- As long as a key is down, the limit stays, unless a release sets the count back, which puts it off. -/
theorem limit_operate (regular : timed.Regular) (single : moment.2.isDrain = false)
    (admitted : timed.Admits moment) (down : timed.sensor.recognizer.isDown key = true)
    (downStill : (timed.operate moment).sensor.recognizer.isDown key = true) :
    (timed.operate moment).limit = timed.limit ∨
      timed.limit ≤ (timed.operate moment).limit ∧ (timed.operate moment).count = 0 := by
  obtain ⟨time, operation⟩ := moment
  have listed := regular.service.listed
  have sound := regular.service.sound
  rw [limit, limit, regular.due_operate down]
  rcases operation.tick_or_released_or_other single with rfl | ⟨channel, rfl⟩ | ⟨unticked, unreleased⟩
  · -- The tick that is counted now is not waited for any more, and the next one is due a period later.
    obtain rfl : time = timed.due := (admitted.2 (regular.running down)).2 (List.mem_singleton_self _)
    have ticking : .tick ∈ (Operation.process .tick : Operation TouchPads).messages :=
      List.mem_singleton_self _
    rw [if_pos ticking]
    rcases process_tick_cases listed sound (UInt32.ofNat timed.due) with ⟨below, counted, _⟩ | ⟨_, _, up⟩
    · left
      have countNext : (timed.operate (timed.due, .process .tick)).count = timed.count + 1 := counted
      have fewer : maxHeldTicks - timed.count = maxHeldTicks - (timed.count + 1) + 1 := by
        have below : timed.count < maxHeldTicks := below
        omega
      rw [countNext, fewer, Nat.add_mul]
      omega
    · exact absurd ((up key).symm.trans downStill) Bool.false_ne_true
  · rw [if_neg (by simp [Operation.messages])]
    have countNext : (timed.operate (time, .process (.released channel))).count = 0 := rfl
    refine .inr ⟨?_, countNext⟩
    rw [countNext]
    exact Nat.add_le_add_left (Nat.mul_le_mul_right _ (Nat.sub_le_sub_left (Nat.zero_le _) _)) _
  · rw [if_neg unticked]
    rcases keepsCount_operate listed sound (UInt32.ofNat time) single unticked unreleased with same | ⟨_, up⟩
    · have countNext : (timed.operate (time, operation)).count = timed.count := same
      rw [countNext]
      exact .inl rfl
    · exact absurd ((up key).symm.trans downStill) Bool.false_ne_true

/-- What becomes of the limit while a key is down: it is never brought forward, it stays as it is unless the
count is at zero at some time, and from then on the pads may be held for as long as they ever may. -/
theorem limit_serve (regular : timed.Regular) (singles : ∀ moment ∈ run, moment.2.isDrain = false)
    (onTime : timed.OnTime run) (staysDown : timed.StaysDown key run) :
    timed.limit ≤ (timed.serve run).limit ∧
      ((timed.serve run).limit = timed.limit ∨ ∃ between, between <+: run ∧ (timed.serve between).count = 0) ∧
      ∀ between, between <+: run → (timed.serve between).count = 0 →
        timed.time + maxHold ≤ (timed.serve run).limit := by
  induction run generalizing timed with
  | nil =>
      refine ⟨Nat.le_refl _, .inl rfl, fun between before zero => ?_⟩
      obtain rfl := List.prefix_nil.mp before
      exact regular.limit_of_count_eq_zero zero
  | cons moment rest ih =>
      -- The first operation puts the limit off or not; the rest of the run goes on from there.
      have single := singles moment List.mem_cons_self
      have next := regular.operate single onTime.1
      have step := regular.limit_operate single onTime.1 staysDown.1 staysDown.2.isDown
      obtain ⟨later, exactly, zeros⟩ := ih next
        (fun other member => singles other (List.mem_cons_of_mem _ member)) onTime.2 staysDown.2
      have putOff : timed.limit ≤ (timed.operate moment).limit :=
        step.elim (fun same => Nat.le_of_eq same.symm) And.left
      have whole : timed.serve (moment :: rest) = (timed.operate moment).serve rest := rfl
      rw [whole]
      refine ⟨Nat.le_trans putOff later, ?_, fun between before zero => ?_⟩
      · rcases step with same | ⟨_, zero⟩
        · rcases exactly with kept | ⟨between, before, zero⟩
          · exact .inl (kept.trans same)
          · exact .inr ⟨moment :: between, List.cons_prefix_cons.mpr ⟨rfl, before⟩, zero⟩
        · exact .inr ⟨[moment], List.cons_prefix_cons.mpr ⟨rfl, List.nil_prefix⟩, zero⟩
      · rcases List.prefix_cons_iff.mp before with rfl | ⟨shorter, rfl, beforeRest⟩
        · exact Nat.le_trans (regular.limit_of_count_eq_zero zero) (Nat.le_trans putOff later)
        · exact Nat.le_trans (Nat.add_le_add_right onTime.1.1 _) (zeros shorter beforeRest zero)

/-- A tick that releases a pad comes at the limit. -/
theorem eq_limit_of_released (regular : timed.Regular) {now : Nat}
    (admitted : timed.Admits (now, .process .tick)) (down : timed.sensor.recognizer.isDown key = true)
    (up : (timed.operate (now, .process .tick)).sensor.recognizer.isDown key = false) :
    now = timed.limit := by
  have due : now = timed.due := (admitted.2 (regular.running down)).2 (List.mem_singleton_self _)
  rcases process_tick_cases regular.service.listed regular.service.sound (UInt32.ofNat now) with
    ⟨_, _, same⟩ | ⟨full, _, _⟩
  · exact absurd (up.symm.trans ((same key).trans down)) Bool.false_ne_true
  · have none : maxHeldTicks - timed.count = 0 := Nat.sub_eq_zero_of_le full
    rw [limit, none, Nat.zero_mul, Nat.add_zero, due]

end Regular

/-- A key goes down with an operation of the run, stays down for a while, and is taken up by a tick. -/
structure SelfReleases (start : Timed) (run : List (Nat × Operation TouchPads)) (key : Key)
    (earlier : List (Nat × Operation TouchPads)) (opening : Nat × Operation TouchPads)
    (middle : List (Nat × Operation TouchPads)) (now : Nat) (later : List (Nat × Operation TouchPads)) :
    Prop where
  parts : run = earlier ++ opening :: (middle ++ (now, .process .tick) :: later)
  up : (start.serve earlier).sensor.recognizer.isDown key = false
  held : ((start.serve earlier).operate opening).StaysDown key middle
  released : ((((start.serve earlier).operate opening).serve middle).operate
    (now, .process .tick)).sensor.recognizer.isDown key = false

/-- So many ticks, one period after the other. -/
def ticksFrom (first number : Nat) : List (Nat × Operation TouchPads) :=
  (List.range number).map fun index => (first + index * checkPeriod, .process .tick)

end Timed

end TouchPads

open TouchPads

/-- Pads that are served on time, in any history. A tick takes a pad up once the count of ticks, whatever it
was as the pad was pressed, is used up. So the pad has then been held for as long as pads may be held exactly
if the count was at zero at some time since its press, or else the first tick came late enough after the press
to make up for the ticks that had been counted already. -/
theorem self_release_uses_up_count (board : Board) (controller : Peripheral PadCommand)
    (wokeBy : Option WakeSource) (history : List (Nat × Operation TouchPads))
    (onTime : (Timed.fresh board controller wokeBy).OnTime (unroll history)) {key : Key}
    {earlier middle later : List (Nat × Operation TouchPads)} {opening : Nat × Operation TouchPads}
    {now : Nat} (released : (Timed.fresh board controller wokeBy).SelfReleases (unroll history) key earlier
      opening middle now later) :
    let pressed := ((Timed.fresh board controller wokeBy).serve earlier).operate opening
    pressed.due + (maxHeldTicks - pressed.count) * checkPeriod ≤ now ∧
      (opening.1 + maxHold ≤ now ↔ opening.1 + pressed.count * checkPeriod ≤ pressed.due ∨
        ∃ between, between <+: middle ∧ (pressed.serve between).count = 0) := by
  intro pressed
  obtain ⟨parts, _, held, up⟩ := released
  have singles : ∀ moment ∈ unroll history, moment.2.isDrain = false := fun _ => isDrain_unroll
  simp only [parts, List.forall_mem_append, List.forall_mem_cons] at singles
  obtain ⟨singlesEarlier, singleOpening, singlesMiddle, _⟩ := singles
  obtain ⟨onTimeEarlier, admitsOpening, onTimeAfter⟩ := Timed.onTime_append.mp (parts ▸ onTime)
  obtain ⟨onTimeMiddle, admitsTick, _⟩ := Timed.onTime_append.mp onTimeAfter
  have regular : pressed.Regular :=
    ((Timed.Regular.fresh board controller wokeBy).serve singlesEarlier onTimeEarlier).operate
      singleOpening admitsOpening
  obtain ⟨notBefore, exactly, zeros⟩ := regular.limit_serve singlesMiddle onTimeMiddle held
  have reached : now = (pressed.serve middle).limit :=
    (regular.serve singlesMiddle onTimeMiddle).eq_limit_of_released admitsTick held.isDown_serve up
  have whole := regular.limit_add_counted
  refine ⟨Nat.le_trans notBefore (Nat.le_of_eq reached.symm), fun long => ?_, ?_⟩
  · rcases exactly with same | zero
    · left
      omega
    · exact .inr zero
  · rintro (late | ⟨between, before, zero⟩)
    · omega
    · rw [reached]
      exact zeros between before zero

/-- A first press, with no tick counted before it, is held for longer than 12 s. -/
theorem first_press_held_to_limit :
    let key : Key := ⟨1, .touch⟩
    let board : Board := { wiring := [(key, 3)] }
    let earlier : List (Nat × Operation TouchPads) := [(0, .start { roster := ⟨[key], by decide⟩ })]
    let opening : Nat × Operation TouchPads := (0, .process (.pressed 3))
    let middle := Timed.ticksFrom 100 120
    let history := earlier ++ opening :: (middle ++ [(12100, .process .tick)])
    let start := Timed.fresh board .ideal none
    start.OnTime (unroll history) ∧
      start.SelfReleases (unroll history) key earlier opening middle 12100 [] ∧
        opening.1 + maxHold ≤ 12100 := by
  intro key board earlier opening middle history start
  have onTime : start.OnTime (unroll history) := by decide +kernel
  have released : start.SelfReleases (unroll history) key earlier opening middle 12100 [] :=
    { parts := unroll_eq_self (by decide +kernel)
      up := by decide +kernel
      held := by decide +kernel
      released := by decide +kernel }
  have uncounted : ((start.serve earlier).operate opening).count = 0 := by decide +kernel
  refine ⟨onTime, released, ?_⟩
  refine (self_release_uses_up_count board .ideal none history onTime released).2.mpr (.inr ⟨[], ?_, ?_⟩)
  · exact List.nil_prefix
  · exact uncounted

/-- After a tap, which leaves four ticks counted, the next press is taken up after 11.7 s. -/
theorem press_after_tap_released_early :
    let key : Key := ⟨1, .touch⟩
    let start := Timed.fresh { wiring := [(key, 3)] } .ideal none
    let earlier : List (Nat × Operation TouchPads) :=
      [(0, .start { roster := ⟨[key], by decide⟩ }), (0, .process (.pressed 3)),
        (60, .process (.released 3))] ++ Timed.ticksFrom 100 4
    let opening : Nat × Operation TouchPads := (400, .process (.pressed 3))
    let middle := Timed.ticksFrom 500 116
    let history := earlier ++ opening :: (middle ++ [(12100, .process .tick)])
    start.OnTime (unroll history) ∧
      start.SelfReleases (unroll history) key earlier opening middle 12100 [] ∧
        12100 < opening.1 + maxHold := by
  intro key start earlier opening middle history
  have onTime : start.OnTime (unroll history) := by decide +kernel
  have released : start.SelfReleases (unroll history) key earlier opening middle 12100 [] :=
    { parts := unroll_eq_self (by decide +kernel)
      up := by decide +kernel
      held := by decide +kernel
      released := by decide +kernel }
  exact ⟨onTime, released, by decide⟩

end KeyGesture
