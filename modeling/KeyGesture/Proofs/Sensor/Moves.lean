import KeyGesture.EdgeSource.Intake
import KeyGesture.Proofs.Recognizer.LiftedKeys
import KeyGesture.Sensor.Control

namespace KeyGesture

/-! What is done with a sensor whose hardware reports edges by itself, step by step. A step concerns the
recognizer and the intake only, so each kind of hardware is shown once to do nothing but steps, and what a
step keeps is shown once for all of them. -/

namespace Sensor

variable {δ ε : Type}

/-- The sensor with one part of its hardware only. -/
def focus (part : δ → ε) (sensor : Sensor δ) : Sensor ε :=
  ⟨sensor.recognizer, part sensor.source⟩

/-- What a message does to the recognizer and the intake, or a part of it: a key goes down, keys come up,
time passes, or hardware that is shut down ends ticking. -/
inductive Move (before : Sensor Intake) : Sensor Intake → Prop where
  | heldAtStart (now : UInt32) (channel : Nat) :
      Move before ((before.press now channel wakeLatency).value.mapSource .run)
  | pressed (now : UInt32) (channel : Nat) (inUse : before.source.isShutDown = false) :
      Move before ((before.press now channel before.source.backdate).value.mapSource .letIn)
  | lifted {now : UInt32} {recognizer : Recognizer}
      (lifted : before.recognizer.LiftedAt now recognizer) : Move before { before with recognizer }
  | ticked (now : UInt32) (inUse : before.source.isShutDown = false) :
      Move before (before.tick now .rest).value
  | ended (retired : before.source.isShutDown = true) : Move before (before.mapSource .rest)

def Moves : Sensor Intake → Sensor Intake → Prop :=
  Relation.ReflTransGen Move

/-- A move, or part of a start. -/
inductive Step (before : Sensor Intake) : Sensor Intake → Prop where
  | moved {after : Sensor Intake} (move : before.Move after) : Step before after
  | timed (timing : Timing) :
      Step before { before with recognizer := before.recognizer.setTiming timing }
  | registered {key : Key} {channel : Nat} {after : Sensor Intake}
      (accepted : before.register? key channel = some after) : Step before after

def Steps : Sensor Intake → Sensor Intake → Prop :=
  Relation.ReflTransGen Step

theorem Moves.steps {before after : Sensor Intake} (moves : before.Moves after) : before.Steps after :=
  Relation.ReflTransGen.lift id (fun _ _ => Step.moved) _ _ moves

theorem register?_eq_some_iff {sensor registered : Sensor δ} {key : Key} {channel : Nat} :
    sensor.register? key channel = some registered ↔
      ∃ number recognizer, sensor.recognizer.register key channel = .ok (number, recognizer) ∧
        registered = { sensor with recognizer } := by
  rw [register?]
  cases sensor.recognizer.register key channel with
  | error cause => simp
  | ok found => simp [Prod.ext_iff, eq_comm]

theorem steps_of_register? {sensor registered : Sensor δ} {key : Key} {channel : Nat}
    {part : δ → Intake} (accepted : sensor.register? key channel = some registered) :
    (sensor.focus part).Steps (registered.focus part) := by
  obtain ⟨number, recognizer, done, rfl⟩ := register?_eq_some_iff.mp accepted
  exact .single (.registered (register?_eq_some_iff.mpr ⟨number, recognizer, done, rfl⟩))

theorem value_tick (sensor : Sensor δ) (now : UInt32) (onSettled : δ → δ) :
    (sensor.tick now onSettled).value =
      { recognizer := (sensor.recognizer.tick now).value.2
        source :=
          if (sensor.recognizer.tick now).value.1 = .settled then onSettled sensor.source
          else sensor.source } := by
  simp only [tick, Outcome.map]
  split <;> rfl

/-- A part of the hardware that settling leaves alone. -/
theorem source_tick {part : δ → ε} {onSettled : δ → δ} (sensor : Sensor δ) (now : UInt32)
    (same : ∀ source, part (onSettled source) = part source) :
    part (sensor.tick now onSettled).value.source = part sensor.source := by
  rw [value_tick]
  dsimp only
  split
  · exact same sensor.source
  · rfl

theorem focus_tick {part : δ → ε} {onSettled : δ → δ} {settle : ε → ε} (sensor : Sensor δ)
    (now : UInt32) (same : part (onSettled sensor.source) = settle (part sensor.source)) :
    (sensor.tick now onSettled).value.focus part = ((sensor.focus part).tick now settle).value := by
  rw [value_tick, value_tick]
  by_cases settled : (sensor.recognizer.tick now).value.1 = .settled
  · simp only [focus, settled, if_true, same]
  · simp only [focus, settled, if_false]

end Sensor

/-- Hardware that reports edges by itself, with what is needed to follow what it does to a recognizer. -/
class SelfReporting (δ : Type) [EdgeSource δ] where
  intake : δ → Intake
  /-- What can be done to the hardware besides what is done to any. -/
  Work : Type
  carryOut : Sensor δ → UInt32 → Work → Sensor δ
  tickPeriod_eq : ∀ source : δ, EdgeSource.tickPeriod source = (intake source).ticker.period
  attach : ∀ (sensor : Sensor δ) config,
    (sensor.focus intake).Steps ((EdgeSource.attach sensor config).state.focus intake)
  handle : ∀ (sensor : Sensor δ) now message,
    (sensor.focus intake).Moves ((EdgeSource.handle sensor now message).value.focus intake)
  setEnabled : ∀ (sensor : Sensor δ) now enable,
    (sensor.focus intake).Moves ((EdgeSource.setEnabled sensor now enable).value.state.focus intake)
  carriesOut : ∀ (sensor : Sensor δ) now work,
    (sensor.focus intake).Moves ((carryOut sensor now work).focus intake)
  detach : ∀ source wakes, (intake (EdgeSource.detach source wakes)).isShutDown = true
  heldAtStart : ∀ (sensor : Sensor δ) now channel,
    (EdgeSource.handle sensor now (.heldAtStart channel)).value.focus intake =
      ((sensor.focus intake).press now channel wakeLatency).value.mapSource .run
  /-- Before it ticks the recognizer, hardware may release keys. -/
  tick : ∀ (sensor : Sensor δ) now, (intake sensor.source).isShutDown = false →
    ∃ recognizer, sensor.recognizer.LiftedAt now recognizer ∧
      (EdgeSource.handle sensor now .tick).value.focus intake =
        (Sensor.tick { sensor.focus intake with recognizer } now .rest).value

end KeyGesture
