import KeyGesture.Key
import KeyGesture.Hardware.Peripheral

namespace KeyGesture

/-- Which hardware channel each key of a board is wired to. -/
abbrev Wiring := List (Key × Nat)

/-- The channel of a key, where the board has one; the first entry for the key counts. -/
def Wiring.channel? (wiring : Wiring) (key : Key) : Option Nat :=
  (wiring.find? fun entry => entry.1 == key).map Prod.snd

/-- What can be asked of the channels of a board. -/
inductive LineCommand where
  /-- Watch the channel for edges, with the given debounce time. -/
  | enable (channel : Nat) (source : Source) (debounce : Nat)
  | disable (channel : Nat) (source : Source)
  deriving DecidableEq, Repr

namespace LineCommand

def isEnable : LineCommand → Bool
  | .enable .. => true
  | .disable .. => false

/-- The channel and debounce time of a command that enables a channel. -/
def enabled? : LineCommand → Option (Nat × Nat)
  | .enable channel _ debounce => some (channel, debounce)
  | .disable .. => none

def disabled? : LineCommand → Option Nat
  | .enable .. => none
  | .disable channel _ => some channel

end LineCommand

/-- What can be asked of a touch controller. -/
inductive PadCommand where
  /-- Take the present reading of the pad as its baseline. -/
  | reset (pad : Nat)
  | setThresholds (pad climb fall : Nat)
  /-- Set how many samples in a row it takes to report a climb and a fall. -/
  | setTriggers (pad climb fall : Nat)
  deriving DecidableEq, Repr

namespace PadCommand

def reset? : PadCommand → Option Nat
  | .reset pad => some pad
  | _ => none

def thresholds? : PadCommand → Option (Nat × Nat × Nat)
  | .setThresholds pad climb fall => some (pad, climb, fall)
  | _ => none

def triggers? : PadCommand → Option (Nat × Nat × Nat)
  | .setTriggers pad climb fall => some (pad, climb, fall)
  | _ => none

end PadCommand

/-- The wiring of a board and the controller of its channels. -/
structure Board where
  wiring : Wiring
  lines : Peripheral LineCommand := .ideal

namespace Board

def channel? (board : Board) (key : Key) : Option Nat :=
  board.wiring.channel? key

def issue (board : Board) (command : LineCommand) : Attempt Board :=
  (board.lines.issue command).map fun lines => { board with lines }

def tryIssue (board : Board) (command : LineCommand) : Board :=
  { board with lines := board.lines.tryIssue command }

/-- The channels that were enabled, each time with its debounce time, oldest first. -/
def enabled (board : Board) : List (Nat × Nat) :=
  board.lines.accepted.filterMap LineCommand.enabled?

def disabled (board : Board) : List Nat :=
  board.lines.accepted.filterMap LineCommand.disabled?

end Board

end KeyGesture
