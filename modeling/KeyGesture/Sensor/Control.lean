import KeyGesture.EdgeSource.Basic

namespace KeyGesture

/-- How many places the queue between interrupt handlers and processing has. -/
def queueLength : Nat := 8

/-- The queue between interrupt handlers and processing. One of its places always stays empty. -/
def interruptQueue : Mailbox :=
  { capacity := queueLength - 1 }

namespace Sensor

variable {δ : Type} [EdgeSource δ]

/-- Puts the timing of a configuration in force and attaches the hardware. -/
def start (sensor : Sensor δ) (config : Config) : Attempt (Sensor δ) :=
  EdgeSource.attach { sensor with recognizer := sensor.recognizer.setTiming config.timing } config

def setEnabled (sensor : Sensor δ) (now : UInt32) (enable : Bool) :
    Outcome (Attempt (Sensor δ)) :=
  EdgeSource.setEnabled sensor now enable

/-- Processes one message. A fault in opening or closing the gate has no consequences here. -/
def process (sensor : Sensor δ) (now : UInt32) : Message → Outcome (Sensor δ)
  | .setEnabled enable => (sensor.setEnabled now enable).map Attempt.state
  | message => EdgeSource.handle sensor now message

/-- Processes messages in order, all at one time. -/
def processAll (sensor : Sensor δ) (now : UInt32) (messages : List Message) : Outcome (Sensor δ) :=
  messages.foldlM (fun sensor message => sensor.process now message) sensor

/-- Empties a mailbox and gives the number of messages that were in it. -/
def drain (sensor : Sensor δ) (now : UInt32) (mailbox : Mailbox) :
    Nat × Mailbox × Outcome (Sensor δ) :=
  (mailbox.waiting.length, { mailbox with waiting := [] }, sensor.processAll now mailbox.waiting)

/-- Power-off: reporting ends, then the hardware shuts down. -/
def shutDown (sensor : Sensor δ) (wakes : Bool) : Sensor δ :=
  { recognizer := sensor.recognizer.mute
    source := EdgeSource.detach sensor.source wakes }

def tickPeriod (sensor : Sensor δ) : Option Nat :=
  EdgeSource.tickPeriod sensor.source

end Sensor

end KeyGesture
