import KeyGesture.Recognizer.Edges
import KeyGesture.Recognizer.Tick

namespace KeyGesture

/-- A recognizer and the hardware its edges come from. -/
structure Sensor (δ : Type) where
  recognizer : Recognizer := {}
  source : δ

namespace Sensor

variable {δ : Type}

def mapSource (sensor : Sensor δ) (change : δ → δ) : Sensor δ :=
  { sensor with source := change sensor.source }

/-- A step of the recognizer alone. -/
def recognize (sensor : Sensor δ) (step : Recognizer → Outcome Recognizer) : Outcome (Sensor δ) :=
  (step sensor.recognizer).map fun recognizer => { sensor with recognizer }

def press (sensor : Sensor δ) (now : UInt32) (channel : Nat) (backdate : UInt32) :
    Outcome (Sensor δ) :=
  sensor.recognize fun recognizer => recognizer.press now channel backdate

def release (sensor : Sensor δ) (now : UInt32) (channel : Nat) : Outcome (Sensor δ) :=
  sensor.recognize fun recognizer => recognizer.release now channel

/-- A classifier tick, and what is done with the hardware if it found everything settled. -/
def tick (sensor : Sensor δ) (now : UInt32) (onSettled : δ → δ) : Outcome (Sensor δ) :=
  (sensor.recognizer.tick now).map fun (found, recognizer) =>
    let ticked := { sensor with recognizer }
    if found = .settled then ticked.mapSource onSettled else ticked

/-- Registers a key on a channel; a registration that is refused gives none. -/
def register? (sensor : Sensor δ) (key : Key) (channel : Nat) : Option (Sensor δ) :=
  match sensor.recognizer.register key channel with
  | .ok (_, recognizer) => some { sensor with recognizer }
  | .error _ => none

end Sensor

end KeyGesture
