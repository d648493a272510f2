import KeyGesture.EdgeSource.Intake
import KeyGesture.Hardware.Board

namespace KeyGesture

/-- A sensing chip with one output line behind a debounce controller, and a gate that lets its key in or
shuts it out. -/
structure GatedLine extends Intake where
  board : Board
  isEnabled : Bool := true
  /-- The chip's output line, once it is attached. -/
  channel? : Option Nat := none

namespace GatedLine

def fresh (board : Board) (wokeBy : Option WakeSource) : GatedLine :=
  { board, toIntake := .fresh wokeBy .debounce }

def issue (line : GatedLine) (command : LineCommand) : Attempt GatedLine :=
  (line.board.issue command).map fun board => { line with board }

def mapIntake (line : GatedLine) (change : Intake → Intake) : GatedLine :=
  { line with toIntake := change line.toIntake }

/-- Attaches the first external key of the configuration; the chip has no line for a second one. -/
def attach (sensor : Sensor GatedLine) (config : Config) : Attempt (Sensor GatedLine) :=
  match (config.roster.withSource .external).head? with
  | none => .done sensor
  | some key =>
      match sensor.source.board.channel? key with
      | none => .failed sensor .notReady
      | some channel =>
          match sensor.register? key channel with
          | none => .failed sensor .badConfig
          | some registered =>
              ((registered.source.issue (.enable channel .external config.timing.debounce)).andThen
                fun line => .done { line with channel? := some channel }).map
                  fun line => { registered with source := line }

def handle (sensor : Sensor GatedLine) (now : UInt32) : Message → Outcome (Sensor GatedLine)
  | .heldAtStart channel => (sensor.press now channel wakeLatency).map (·.mapSource (·.mapIntake .run))
  | .pressed channel =>
      if sensor.source.isShutDown ∨ sensor.source.isEnabled = false then .quiet sensor
      else (sensor.press now channel sensor.source.backdate).map
        (·.mapSource (·.mapIntake .letIn))
  | .released channel =>
      if sensor.source.isEnabled then sensor.release now channel else .quiet sensor
  | .tick => if sensor.source.isShutDown then .quiet sensor else sensor.tick now (·.mapIntake .rest)
  | .setEnabled _ => .quiet sensor

/-- A gate that closes releases its key. -/
def setEnabled (sensor : Sensor GatedLine) (now : UInt32) (enable : Bool) :
    Outcome (Attempt (Sensor GatedLine)) :=
  let released :=
    match enable, sensor.source.channel? with
    | false, some channel => sensor.release now channel
    | _, _ => .quiet sensor
  released.map fun sensor => .done (sensor.mapSource fun line => { line with isEnabled := enable })

def detach (line : GatedLine) (wakes : Bool) : GatedLine :=
  let stopped := line.mapIntake fun intake => intake.rest.shutDown
  match wakes, line.channel? with
  | false, some channel => { stopped with board := line.board.tryIssue (.disable channel .external) }
  | _, _ => stopped

instance : EdgeSource GatedLine where
  attach := attach
  handle := handle
  setEnabled := setEnabled
  detach := detach
  tickPeriod line := line.ticker.period

end GatedLine

end KeyGesture
