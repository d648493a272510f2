import KeyGesture.Bench.Basic
import KeyGesture.Bench.Script
import KeyGesture.Chord.Basic
import KeyGesture.Chord.SlotSet
import KeyGesture.Chord.Members
import KeyGesture.Clock
import KeyGesture.Config
import KeyGesture.Demonstration
import KeyGesture.EdgeSource.Basic
import KeyGesture.EdgeSource.DebouncedLines
import KeyGesture.EdgeSource.GatedLine
import KeyGesture.EdgeSource.Intake
import KeyGesture.EdgeSource.PolledPins
import KeyGesture.EdgeSource.TouchPads.Basic
import KeyGesture.EdgeSource.TouchPads.Diagnosis
import KeyGesture.EdgeSource.TouchPads.Processing
import KeyGesture.EdgeSource.TouchPads.Tuning
import KeyGesture.Event
import KeyGesture.Gesture
import KeyGesture.Hardware.Attempt
import KeyGesture.Hardware.Board
import KeyGesture.Hardware.Fault
import KeyGesture.Hardware.Peripheral
import KeyGesture.Hardware.Ticker
import KeyGesture.Key
import KeyGesture.Main
import KeyGesture.Outcome
import KeyGesture.Recognizer.Basic
import KeyGesture.Recognizer.Call
import KeyGesture.Recognizer.Edges
import KeyGesture.Recognizer.Tick
import KeyGesture.Rejection
import KeyGesture.Roster
import KeyGesture.Sensor.Basic
import KeyGesture.Sensor.Control
import KeyGesture.Sensor.Message
import KeyGesture.Slot
import KeyGesture.Timing
import KeyGesture.Version
import KeyGesture.Worker
import KeyGesture.Proofs.Recognizer.SlotTable
import KeyGesture.Proofs.Recognizer.Invariant
import KeyGesture.Proofs.Recognizer.SlotPairs
import KeyGesture.Proofs.Recognizer.ClockShift
import KeyGesture.Proofs.Recognizer.KeyView
import KeyGesture.Proofs.Recognizer.TapCounting
import KeyGesture.Proofs.Recognizer.HoldAmongTaps
import KeyGesture.Proofs.Recognizer.ChordStages
import KeyGesture.Proofs.Recognizer.ChordMembers
import KeyGesture.Proofs.Recognizer.ChordEscalation
import KeyGesture.Proofs.Recognizer.HoldEscalation
import KeyGesture.Proofs.Recognizer.TimingChange
import KeyGesture.Proofs.Recognizer.SeparateKeys
import KeyGesture.Proofs.Recognizer.Muting
import KeyGesture.Proofs.Recognizer.Settling
import KeyGesture.Proofs.Bench.SettlingTime
import KeyGesture.Proofs.Sensor.Silence
import KeyGesture.Proofs.Recognizer.EventMembers
import KeyGesture.Proofs.Recognizer.DownKeys
import KeyGesture.Proofs.Recognizer.LiftedKeys
import KeyGesture.Proofs.Sensor.Moves
import KeyGesture.Proofs.Sensor.LineMoves
import KeyGesture.Proofs.Sensor.PadMoves
import KeyGesture.Proofs.Sensor.Service
import KeyGesture.Proofs.Sensor.TickerUpkeep
import KeyGesture.Proofs.Sensor.HeldAtStart
import KeyGesture.Proofs.Sensor.ShutDownLines
import KeyGesture.Proofs.Sensor.ClosedGate
import KeyGesture.Proofs.Sensor.GateRelease
import KeyGesture.Proofs.Sensor.MessagePaths
import KeyGesture.Proofs.Worker.Duty
import KeyGesture.Proofs.Sensor.SteadyTicks
import KeyGesture.Proofs.Worker.MessageOrder
import KeyGesture.Proofs.Worker.Backlog
import KeyGesture.Proofs.Worker.TickSchedule
import KeyGesture.Proofs.Sensor.PinSamples
import KeyGesture.Proofs.Sensor.PolledKeys
import KeyGesture.Proofs.Sensor.PolledDebouncing
import KeyGesture.Proofs.Recognizer.RepeatedTick
import KeyGesture.Proofs.Sensor.Unrolling
import KeyGesture.Proofs.Sensor.HeldTicks
import KeyGesture.Proofs.Sensor.StuckPads
import KeyGesture.Proofs.Sensor.HoldLimit
import KeyGesture.Proofs.Sensor.PadProgramming
import KeyGesture.Proofs.Sensor.Actions
import KeyGesture.Proofs.Sensor.Records
import KeyGesture.Proofs.Sensor.Retuning
import KeyGesture.Proofs.Slot.Beats
import KeyGesture.Proofs.Recognizer.RepeatCadence
import KeyGesture.Proofs.Recognizer.RefusedEdges
import KeyGesture.Proofs.Recognizer.Registration
import KeyGesture.Proofs.Recognizer.SharedStart
import KeyGesture.Proofs.Recognizer.PressOrder
import KeyGesture.Proofs.Recognizer.Seating
import KeyGesture.Proofs.Sensor.Attaching
import KeyGesture.Proofs.Sensor.SecondStart
import KeyGesture.Proofs.Sensor.ArmedChannels
import KeyGesture.Proofs.Bench.Agenda
import KeyGesture.Proofs.Bench.Replaying
