import KeyGesture.EdgeSource.Intake
import KeyGesture.Hardware.Board

namespace KeyGesture

/-- Lines behind a debounce controller. The controller reports clean edges, so what is left to do is to
run the ticker and to back-date the press that woke the system. -/
structure DebouncedLines extends Intake where
  board : Board
  /-- The channels that have been enabled. -/
  channels : List Nat := []

namespace DebouncedLines

def fresh (board : Board) (wokeBy : Option WakeSource) : DebouncedLines :=
  { board, toIntake := .fresh wokeBy .debounce }

/-- Notes that a channel is enabled. There is room for a channel per key. -/
def note (lines : DebouncedLines) (channel : Nat) : DebouncedLines :=
  if channel ∈ lines.channels ∨ maxKeys ≤ lines.channels.length then lines
  else { lines with channels := lines.channels ++ [channel] }

def issue (lines : DebouncedLines) (command : LineCommand) : Attempt DebouncedLines :=
  (lines.board.issue command).map fun board => { lines with board }

def mapIntake (lines : DebouncedLines) (change : Intake → Intake) : DebouncedLines :=
  { lines with toIntake := change lines.toIntake }

/-- Registers one key and enables its channel. A key without a channel, or one the recognizer refuses,
is left out. -/
def attachKey (debounce : Nat) (sensor : Sensor DebouncedLines) (key : Key) :
    Attempt (Sensor DebouncedLines) :=
  match sensor.source.board.channel? key with
  | none => .done sensor
  | some channel =>
      match sensor.register? key channel with
      | none => .done sensor
      | some registered =>
          ((registered.source.issue (.enable channel .io debounce)).andThen fun lines =>
            .done (lines.note channel)).map fun lines => { registered with source := lines }

def attach (sensor : Sensor DebouncedLines) (config : Config) : Attempt (Sensor DebouncedLines) :=
  .forEach sensor (config.roster.withSource .io) (attachKey config.timing.debounce)

def handle (sensor : Sensor DebouncedLines) (now : UInt32) :
    Message → Outcome (Sensor DebouncedLines)
  | .heldAtStart channel => (sensor.press now channel wakeLatency).map (·.mapSource (·.mapIntake .run))
  | .pressed channel =>
      if sensor.source.isShutDown then .quiet sensor
      else (sensor.press now channel sensor.source.backdate).map
        (·.mapSource (·.mapIntake .letIn))
  | .released channel => sensor.release now channel
  | .tick => if sensor.source.isShutDown then .quiet sensor else sensor.tick now (·.mapIntake .rest)
  | .setEnabled _ => .quiet sensor

def detach (lines : DebouncedLines) (wakes : Bool) : DebouncedLines :=
  let stopped := lines.mapIntake fun intake => intake.rest.shutDown
  if wakes then stopped
  else
    { stopped with
      board := lines.channels.foldl (fun board channel => board.tryIssue (.disable channel .io))
        lines.board }

instance : EdgeSource DebouncedLines where
  attach := attach
  handle := handle
  detach := detach
  tickPeriod lines := lines.ticker.period

end DebouncedLines

end KeyGesture
