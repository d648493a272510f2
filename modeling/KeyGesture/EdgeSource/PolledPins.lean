import KeyGesture.EdgeSource.Basic

namespace KeyGesture

/-- What reading a pin gives. -/
inductive Reading where
  | high
  | low
  | failed
  deriving DecidableEq, Repr

/-- An input pin with a key on it, debounced by counting samples. -/
structure PolledPin where
  key : Key
  channel : Nat
  /-- Whether the level is low while the key is down. -/
  activeLow : Bool
  /-- What reading the pin gives at present. -/
  reading : Reading
  /-- The debounced level: whether the key counts as down. -/
  stable : Bool := false
  /-- Samples in a row that differ from the debounced level. -/
  streak : Nat := 0
  registered : Bool := false
  deriving DecidableEq, Repr

namespace PolledPin

/-- Whether the key is down by the present reading, if there is one. -/
def level? (pin : PolledPin) : Option Bool :=
  match pin.reading with
  | .high => some !pin.activeLow
  | .low => some pin.activeLow
  | .failed => none

/-- Takes one sample. The debounced level changes once `samples` of them in a row differ from it; a
reading that fails does not count. -/
def sample (pin : PolledPin) (samples : Nat) : PolledPin :=
  match pin.registered, pin.level? with
  | true, some level =>
      if level = pin.stable then { pin with streak := 0 }
      else if pin.streak + 1 < samples then { pin with streak := pin.streak + 1 }
      else { pin with streak := 0, stable := level }
  | _, _ => pin

end PolledPin

/-- Plain input pins, sampled at every tick. -/
structure PolledPins where
  pins : List PolledPin := []
  /-- How many samples in a row make an edge. -/
  samples : Nat := 1
  isPolling : Bool := false
  deriving DecidableEq, Repr

namespace PolledPins

/-- The sampling period in milliseconds. -/
def pollPeriod : Nat := 10

def maxSamples : Nat := 255

/-- Puts a key on a pin. There is room for as many pins as a recognizer tracks keys. -/
def addPin (polled : PolledPins) (keyId channel : Nat) (activeLow : Bool) (reading : Reading) :
    Attempt PolledPins :=
  if polled.pins.length < maxKeys then
    .done
      { polled with pins := polled.pins ++ [{ key := ⟨keyId, .io⟩, channel, activeLow, reading }] }
  else .failed polled .badConfig

def setReading (polled : PolledPins) (index : Nat) (reading : Reading) : PolledPins :=
  { polled with pins := polled.pins.modify index fun pin => { pin with reading } }

/-- As many samples as fit into the debounce time, but at least one. -/
def samplesFor (debounce : Nat) : Nat :=
  max 1 (min (debounce / pollPeriod) maxSamples)

/-- Registers a key that has a pin; its first pin counts. -/
def attachKey (sensor : Sensor PolledPins) (key : Key) : Sensor PolledPins :=
  match sensor.source.pins.zipIdx.find? fun entry => entry.1.key == key with
  | none => sensor
  | some (pin, index) =>
      match sensor.register? key pin.channel with
      | none => sensor
      | some registered =>
          registered.mapSource fun polled =>
            { polled with pins := polled.pins.modify index fun pin => { pin with registered := true } }

def attach (sensor : Sensor PolledPins) (config : Config) : Attempt (Sensor PolledPins) :=
  let sampling :=
    sensor.mapSource fun polled => { polled with samples := samplesFor config.timing.debounce }
  .done (((config.roster.withSource .io).foldl attachKey sampling).mapSource
    fun polled => { polled with isPolling := true })

/-- The edge that a change of a debounced level is. -/
def edge (recognizer : Recognizer) (now : UInt32) (before after : PolledPin) : Outcome Recognizer :=
  if after.stable = before.stable then .quiet recognizer
  else if after.stable then recognizer.press now after.channel 0
  else recognizer.release now after.channel

/-- Samples the pins in order; each edge reaches the recognizer before the next pin is sampled. -/
def pollPins (now : UInt32) (samples : Nat) :
    Recognizer → List PolledPin → Outcome (Recognizer × List PolledPin)
  | recognizer, [] => .quiet (recognizer, [])
  | recognizer, pin :: rest =>
      let sampled := pin.sample samples
      (edge recognizer now pin sampled).andThen fun recognizer =>
        (pollPins now samples recognizer rest).map fun (last, pins) => (last, sampled :: pins)

/-- One round of samples, and the classifier tick that follows it. -/
def poll (sensor : Sensor PolledPins) (now : UInt32) : Outcome (Sensor PolledPins) :=
  (pollPins now sensor.source.samples sensor.recognizer sensor.source.pins).andThen
    fun (recognizer, pins) =>
      ({ recognizer, source := { sensor.source with pins } } : Sensor PolledPins).tick now id

def handle (sensor : Sensor PolledPins) (now : UInt32) : Message → Outcome (Sensor PolledPins)
  | .tick => if sensor.source.isPolling then poll sensor now else .quiet sensor
  | .heldAtStart channel | .pressed channel => sensor.press now channel 0
  | .released channel => sensor.release now channel
  | .setEnabled _ => .quiet sensor

def detach (polled : PolledPins) (_wakes : Bool) : PolledPins :=
  { polled with isPolling := false }

instance : EdgeSource PolledPins where
  attach := attach
  handle := handle
  detach := detach
  tickPeriod polled := if polled.isPolling then some pollPeriod else none

end PolledPins

end KeyGesture
