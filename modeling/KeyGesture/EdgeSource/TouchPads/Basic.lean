import KeyGesture.EdgeSource.Intake
import KeyGesture.Hardware.Board

namespace KeyGesture

/-- How many samples in a row it takes to report a climb and a fall. -/
structure Triggers where
  climb : Nat := 0
  fall : Nat := 0
  deriving DecidableEq, Repr

/-- A touch pad and the key on it. -/
structure Pad where
  channel : Nat
  key : Key
  deriving DecidableEq, Repr

/-- The touch controller of the board. It may miss that a finger is lifted slowly, so pads that are held
for long without any release are released here. -/
structure TouchPads extends Intake where
  board : Board
  controller : Peripheral PadCommand := .ideal
  isEnabled : Bool := true
  /-- Ticks since the last release, or since the pads were last released here. -/
  heldTicks : Nat := 0
  thresholds : Thresholds := {}
  triggers : Triggers := {}
  pads : List Pad := []

namespace TouchPads

/-- How many pads the controller scans. -/
def maxPads : Nat := 2

/-- How long a pad may be held before it is released here, in milliseconds. -/
def maxHold : Nat := 12000

def maxHeldTicks : Nat := maxHold / checkPeriod

def maxThreshold : Nat := 2047

def maxTrigger : Nat := 14

def defaultThresholds : Thresholds := ⟨960, 512⟩

def defaultTriggers : Triggers := ⟨3, 4⟩

/-- A configured threshold carries a choice of reference voltage above its last four digits. -/
def voltageUnit : Nat := 10000

/-- The threshold a setting stands for: its last four digits, or the default if they are zero. -/
def decodeThreshold (setting default : Nat) : Nat :=
  if setting % voltageUnit = 0 then default else setting % voltageUnit

def decode (settings : Thresholds) : Thresholds :=
  { climb := decodeThreshold settings.climb defaultThresholds.climb
    fall := decodeThreshold settings.fall defaultThresholds.fall }

def fresh (board : Board) (controller : Peripheral PadCommand) (wokeBy : Option WakeSource) :
    TouchPads :=
  { board, controller, toIntake := .fresh wokeBy .touch }

/-- Whether the pads have ever been attached. -/
def isConfigured (touch : TouchPads) : Bool :=
  touch.thresholds.climb != 0 && touch.thresholds.fall != 0

def issue (touch : TouchPads) (command : PadCommand) : Attempt TouchPads :=
  (touch.controller.issue command).map fun controller => { touch with controller }

def tryIssue (touch : TouchPads) (command : PadCommand) : TouchPads :=
  { touch with controller := touch.controller.tryIssue command }

def mapIntake (touch : TouchPads) (change : Intake → Intake) : TouchPads :=
  { touch with toIntake := change touch.toIntake }

def forgetHold (touch : TouchPads) : TouchPads :=
  { touch with heldTicks := 0 }

/-! Attaching. -/

/-- Registers a key and lists its pad. Left out are keys beyond the pads the controller scans, keys
without a pad and keys the recognizer refuses. -/
def addPad (sensor : Sensor TouchPads) (key : Key) : Sensor TouchPads :=
  if maxPads ≤ sensor.source.pads.length then sensor
  else
    match sensor.source.board.channel? key with
    | none => sensor
    | some channel =>
        match sensor.register? key channel with
        | none => sensor
        | some registered =>
            registered.mapSource fun touch => { touch with pads := touch.pads ++ [⟨channel, key⟩] }

/-- Programs the stored thresholds and triggers into a pad and enables its channel. -/
def program (touch : TouchPads) (pad : Pad) : Attempt TouchPads :=
  ((touch.issue (.setThresholds pad.channel touch.thresholds.climb touch.thresholds.fall)).andThen
    fun touch => touch.issue (.setTriggers pad.channel touch.triggers.climb touch.triggers.fall)).andThen
      fun touch => (touch.board.issue (.enable pad.channel .touch 0)).map
        fun board => { touch with board }

def attach (sensor : Sensor TouchPads) (config : Config) : Attempt (Sensor TouchPads) :=
  let bound := (config.roster.withSource .touch).foldl addPad sensor
  if bound.source.pads.isEmpty then .failed bound .notReady
  else
    let touch :=
      { bound.source with thresholds := decode config.thresholds, triggers := defaultTriggers }
    (Attempt.forEach touch touch.pads program).map fun touch => { bound with source := touch }

end TouchPads

end KeyGesture
