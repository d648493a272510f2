import KeyGesture.Recognizer.Call

namespace KeyGesture

/-! A recognizer on a bench: a clock that is moved by hand, and a log of what is reported. -/

/-- An event and the clock value it was reported at. -/
structure Delivery where
  time : UInt32
  event : Event
  deriving DecidableEq, Repr

structure Bench where
  clock : UInt32 := 0
  recognizer : Recognizer := {}
  log : List Delivery := []
  deriving DecidableEq, Repr

namespace Bench

/-- Takes over the recognizer a step leaves and logs the events it reported. -/
def record (bench : Bench) (outcome : Outcome Recognizer) : Bench :=
  { bench with
    recognizer := outcome.value
    log := bench.log ++ outcome.events.map fun event => ⟨bench.clock, event⟩ }

def setClock (bench : Bench) (time : UInt32) : Bench :=
  { bench with clock := time }

/-- Moves the clock on; past its period it starts again at zero. -/
def wait (bench : Bench) (duration : Nat) : Bench :=
  bench.setClock (bench.clock + UInt32.ofNat duration)

/-- Makes a call at the bench's time. -/
def call (bench : Bench) (made : Call) : Reply × Bench :=
  let outcome := bench.recognizer.answer bench.clock made
  (outcome.value.1, bench.record (outcome.map Prod.snd))

/-- Reporting starts again, into an empty log. -/
def restart (bench : Bench) : Bench :=
  { bench with recognizer := bench.recognizer.resume, log := [] }

def tick (bench : Bench) : Activity × Bench :=
  let outcome := bench.recognizer.tick bench.clock
  (outcome.value.1, bench.record (outcome.map Prod.snd))

def tickAfter (bench : Bench) (duration : Nat) : Activity × Bench :=
  (bench.wait duration).tick

/-- A duration cut into periods, with what is left over at the end. -/
def strides (duration period : Nat) : List Nat :=
  List.replicate (duration / period) period ++
    if duration % period = 0 then [] else [duration % period]

/-- Ticks every `period` milliseconds and once more at the end of `duration`, and gives what the last
tick found. -/
def tickFor (bench : Bench) (duration period : Nat) : Activity × Bench :=
  (strides duration period).foldl (fun (_, bench) stride => bench.tickAfter stride) (.ongoing, bench)

/-- Ticks every `period` milliseconds until everything is settled, and gives the number of ticks it
took, or none if the allowed ones were not enough. -/
def ticksToSettle (bench : Bench) (period : Nat) : (allowed : Nat) → Option Nat × Bench
  | 0 => (none, bench)
  | allowed + 1 =>
      match bench.tickAfter period with
      | (.settled, after) => (some 1, after)
      | (.ongoing, after) =>
          let (ticks, last) := after.ticksToSettle period allowed
          (ticks.map (· + 1), last)

/-- How long it takes until everything is settled. A tick is allowed as long as no more than `limit`
milliseconds have gone by before its period. -/
def timeToSettle (bench : Bench) (period limit : Nat) : Option Nat × Bench :=
  let (ticks, after) := bench.ticksToSettle period (limit / period + 1)
  (ticks.map (· * period), after)

theorem clock_tickEach (count period : Nat) (reached : Activity × Bench) :
    ((List.replicate count period).foldl (fun (_, bench) stride => bench.tickAfter stride) reached).2.clock =
      reached.2.clock + UInt32.ofNat (count * period) := by
  induction count generalizing reached with
  | zero =>
      rw [Nat.zero_mul]
      exact (UInt32.add_zero _).symm
  | succ count ih =>
      rw [List.replicate_succ, List.foldl_cons, ih, Nat.succ_mul, Nat.add_comm, UInt32.ofNat_add,
        ← UInt32.add_assoc]
      rfl

/-- Ticking for a duration moves the clock on by just that, whatever the period. -/
theorem clock_tickFor (bench : Bench) (duration period : Nat) :
    (bench.tickFor duration period).2.clock = bench.clock + UInt32.ofNat duration := by
  have whole := Nat.div_add_mod' duration period
  have periods := clock_tickEach (duration / period) period (.ongoing, bench)
  rw [tickFor, strides, List.foldl_append]
  split
  · rename_i even
    rw [even, Nat.add_zero] at whole
    rwa [whole] at periods
  · rw [List.foldl_cons, List.foldl_nil]
    refine (congrArg (· + UInt32.ofNat (duration % period)) periods).trans ?_
    rw [UInt32.add_assoc, ← UInt32.ofNat_add, whole]

/-! Queries on the log. -/

def events (bench : Bench) : List Event :=
  bench.log.map Delivery.event

/-- The gestures reported for one key alone. -/
def singles (bench : Bench) : List Gesture :=
  (bench.events.filter fun event => !event.isChord).filterMap Event.gesture?

def singlesOf (bench : Bench) (key : Key) : List Gesture :=
  (bench.events.filter fun event => !event.isChord && event.contains key).filterMap Event.gesture?

def chords (bench : Bench) : List Event :=
  bench.events.filter Event.isChord

def count (bench : Bench) (gesture : Gesture) : Nat :=
  bench.events.countP fun event => event.gesture? == some gesture

def clearLog (bench : Bench) : Bench :=
  { bench with log := [] }

end Bench

end KeyGesture
