import KeyGesture.EdgeSource.PolledPins
import KeyGesture.Proofs.Sensor.TickerUpkeep

namespace KeyGesture

/-! Each kind of hardware asks for ticks at one period, whenever it asks for any. -/

/-- Ticks are asked for at the given period, or not at all. -/
def Sensor.TicksEvery {δ : Type} [EdgeSource δ] (period : Nat) (sensor : Sensor δ) : Prop :=
  sensor.tickPeriod = none ∨ sensor.tickPeriod = some period

/-- Processing never makes the hardware change from one period to another. -/
structure SteadyTicks (δ : Type) [EdgeSource δ] (period : Nat) : Prop where
  positive : 0 < period
  process : ∀ (sensor : Sensor δ) now message, sensor.TicksEvery period →
    (sensor.process now message).value.TicksEvery period

theorem PolledPins.ticksEvery (sensor : Sensor PolledPins) : sensor.TicksEvery pollPeriod := by
  change (if sensor.source.isPolling then some pollPeriod else none) = none ∨
    (if sensor.source.isPolling then some pollPeriod else none) = some pollPeriod
  split
  · exact .inr rfl
  · exact .inl rfl

theorem PolledPins.steadyTicks : SteadyTicks PolledPins pollPeriod where
  positive := by decide
  process _ _ _ _ := ticksEvery _

namespace Sensor

/-! Hardware that reports edges by itself. -/

def TickerEvery (period : Nat) (sensor : Sensor Intake) : Prop :=
  sensor.source.ticker.period = none ∨ sensor.source.ticker.period = some period

variable {before after : Sensor Intake}

theorem TickerEvery.ensure (every : before.TickerEvery checkPeriod) :
    (before.source.ticker.ensure checkPeriod).period = some checkPeriod := by
  rw [Ticker.period_ensure]
  rcases every with stopped | running
  · rw [stopped, Option.getD_none]
  · rw [running, Option.getD_some]

theorem TickerEvery.step (every : before.TickerEvery checkPeriod) (step : before.Step after) :
    after.TickerEvery checkPeriod := by
  cases step with
  | moved move =>
      cases move with
      | heldAtStart | pressed => exact .inr every.ensure
      | lifted => exact every
      | ended => exact .inl rfl
      | ticked now =>
          rw [TickerEvery, value_tick]
          dsimp only
          split
          · exact .inl rfl
          · exact every
  | timed timing => exact every
  | registered accepted =>
      obtain ⟨_, _, _, rfl⟩ := register?_eq_some_iff.mp accepted
      exact every

theorem TickerEvery.steps (every : before.TickerEvery checkPeriod) (steps : before.Steps after) :
    after.TickerEvery checkPeriod := by
  induction steps with
  | refl => exact every
  | tail _ step ih => exact ih.step step

variable {δ : Type} [EdgeSource δ] [SelfReporting δ]

theorem ticksEvery_iff {period : Nat} {sensor : Sensor δ} :
    sensor.TicksEvery period ↔ sensor.atIntake.TickerEvery period := by
  rw [TicksEvery, tickPeriod_eq, TickerEvery]

theorem steadyTicks : SteadyTicks δ checkPeriod where
  positive := by decide
  process sensor now message every :=
    ticksEvery_iff.mpr ((ticksEvery_iff.mp every).steps (sensor.moves_process now message).steps)

/-- Hardware that stops its ticker as it shuts down, or leaves it as it is. -/
def StopsOrKeepsTicker (δ : Type) [EdgeSource δ] : Prop :=
  ∀ (source : δ) wakes, EdgeSource.tickPeriod (EdgeSource.detach source wakes) = none ∨
    EdgeSource.tickPeriod (EdgeSource.detach source wakes) = EdgeSource.tickPeriod source

theorem TicksEvery.operate (stops : StopsOrKeepsTicker δ) {sensor : Sensor δ}
    (every : sensor.TicksEvery checkPeriod) (now : UInt32) (operation : Operation δ) :
    (sensor.operate now operation).TicksEvery checkPeriod := by
  cases ending : operation.isShutDown with
  | false => exact ticksEvery_iff.mpr ((ticksEvery_iff.mp every).steps (sensor.steps_operate now ending))
  | true =>
      cases operation with
      | shutDown wakes =>
          rcases stops sensor.source wakes with stopped | kept
          · exact .inl stopped
          · exact every.imp kept.trans kept.trans
      | start | process | drain | setEnabled | work => contradiction

theorem TicksEvery.serve (stops : StopsOrKeepsTicker δ) {sensor : Sensor δ}
    (every : sensor.TicksEvery checkPeriod) (history : List (UInt32 × Operation δ)) :
    (sensor.serve history).TicksEvery checkPeriod :=
  List.foldlRecOn (motive := TicksEvery checkPeriod) _ _ every
    fun _ kept moment _ => kept.operate stops moment.1 moment.2

end Sensor

theorem DebouncedLines.stopsOrKeepsTicker : Sensor.StopsOrKeepsTicker DebouncedLines :=
  fun _ wakes => by cases wakes <;> exact .inl rfl

theorem GatedLine.stopsOrKeepsTicker : Sensor.StopsOrKeepsTicker GatedLine := by
  intro line wakes
  change (detach line wakes).ticker.period = none ∨ _
  unfold detach
  split <;> exact .inl rfl

theorem TouchPads.stopsOrKeepsTicker : Sensor.StopsOrKeepsTicker TouchPads :=
  fun _ wakes => by cases wakes <;> exact .inr rfl

end KeyGesture
