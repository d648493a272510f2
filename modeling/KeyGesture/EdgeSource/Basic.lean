import KeyGesture.Config
import KeyGesture.Hardware.Attempt
import KeyGesture.Sensor.Basic
import KeyGesture.Sensor.Message

namespace KeyGesture

/-- How much earlier than its report a press that woke the system is taken to have happened, in
milliseconds: the time the system takes to start. -/
def wakeLatency : UInt32 := 500

/-- The period of the classifier tick for hardware that reports edges by itself. -/
def checkPeriod : Nat := 100

/-- What woke the system from sleep. -/
inductive WakeSource where
  | debounce
  | touch
  | other
  deriving DecidableEq, Repr

/-- How far the first press after the start is back-dated: by the time the start took, if a key press on
this hardware is what woke the system. -/
def firstBackdate (wokeBy : Option WakeSource) (own : WakeSource) : UInt32 :=
  if wokeBy = some own then wakeLatency else 0

/-- Hardware that feeds a recognizer with edges. -/
class EdgeSource (δ : Type) where
  /-- Registers the keys of a configuration that this hardware senses and arms it. -/
  attach : Sensor δ → Config → Attempt (Sensor δ)
  /-- Deals with one message that arrives at the given time. -/
  handle : Sensor δ → UInt32 → Message → Outcome (Sensor δ)
  /-- Lets key input in or shuts it out. Hardware without a gate lets everything in. -/
  setEnabled : Sensor δ → UInt32 → Bool → Outcome (Attempt (Sensor δ)) :=
    fun sensor _ _ => .quiet (.done sensor)
  /-- Shuts the hardware down for power-off. With `wakes` its channels stay armed to wake the system. -/
  detach : δ → (wakes : Bool) → δ
  /-- How often a tick has to be posted at present, if it has to. -/
  tickPeriod : δ → Option Nat

end KeyGesture
