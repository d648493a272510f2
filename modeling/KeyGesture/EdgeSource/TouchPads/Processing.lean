import KeyGesture.EdgeSource.TouchPads.Basic

namespace KeyGesture.TouchPads

/-! Releasing. -/

def release (sensor : Sensor TouchPads) (now : UInt32) (channel : Nat) : Outcome (Sensor TouchPads) :=
  (sensor.mapSource forgetHold).release now channel

/-- Releases a pad whose key is down. -/
def releaseIfDown (sensor : Sensor TouchPads) (now : UInt32) (pad : Pad) : Outcome (Sensor TouchPads) :=
  if sensor.recognizer.isDown pad.key then release sensor now pad.channel else .quiet sensor

/-- Releases a pad whose key is down and has the controller take a new baseline for it. -/
def freePad (now : UInt32) (sensor : Sensor TouchPads) (pad : Pad) : Outcome (Sensor TouchPads) :=
  if sensor.recognizer.isDown pad.key then
    (release sensor now pad.channel).map (·.mapSource (·.tryIssue (.reset pad.channel)))
  else .quiet sensor

/-- Frees every pad that is held. -/
def releaseHeld (sensor : Sensor TouchPads) (now : UInt32) : Outcome (Sensor TouchPads) :=
  sensor.source.pads.foldlM (freePad now) sensor

/-- Counts a tick; when the pads may be held no longer, they are released and counting starts again. -/
def selfRelease (sensor : Sensor TouchPads) (now : UInt32) : Outcome (Sensor TouchPads) :=
  if sensor.source.heldTicks < maxHeldTicks then
    .quiet (sensor.mapSource fun touch => { touch with heldTicks := touch.heldTicks + 1 })
  else releaseHeld (sensor.mapSource forgetHold) now

/-! Messages. -/

/-- A gate that closes releases the pads. There is no gate before the pads are attached. -/
def setEnabled (sensor : Sensor TouchPads) (now : UInt32) (enable : Bool) :
    Outcome (Attempt (Sensor TouchPads)) :=
  if sensor.source.isConfigured then
    let gated := sensor.mapSource fun touch => { touch with isEnabled := enable }
    (if enable then .quiet gated else releaseHeld gated now).map .done
  else .quiet (.failed sensor .notReady)

/-- A tick while the controller is shut down only waits for the last key to come up. -/
def tick (sensor : Sensor TouchPads) (now : UInt32) : Outcome (Sensor TouchPads) :=
  if sensor.source.isShutDown then
    .quiet (if sensor.recognizer.allUp then sensor.mapSource (·.mapIntake .rest) else sensor)
  else sensor.tick now (·.mapIntake .rest)

def handle (sensor : Sensor TouchPads) (now : UInt32) : Message → Outcome (Sensor TouchPads)
  | .heldAtStart channel => (sensor.press now channel wakeLatency).map (·.mapSource (·.mapIntake .run))
  | .pressed channel =>
      if sensor.source.isShutDown ∨ sensor.source.isEnabled = false then .quiet sensor
      else (sensor.press now channel sensor.source.backdate).map
        (·.mapSource (·.mapIntake .letIn))
  | .released channel => release sensor now channel
  | .tick => (selfRelease sensor now).andThen fun sensor => tick sensor now
  | .setEnabled enable => (setEnabled sensor now enable).map Attempt.state

/-- The ticker goes on until every key is up. -/
def detach (touch : TouchPads) (wakes : Bool) : TouchPads :=
  let stopped := touch.mapIntake .shutDown
  if wakes then stopped
  else
    { stopped with
      board := touch.pads.foldl (fun board pad => board.tryIssue (.disable pad.channel .touch))
        touch.board }

instance : EdgeSource TouchPads where
  attach := attach
  handle := handle
  setEnabled := setEnabled
  detach := detach
  tickPeriod touch := touch.ticker.period

end KeyGesture.TouchPads
