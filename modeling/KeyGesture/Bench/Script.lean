import KeyGesture.Bench.Basic

namespace KeyGesture

/-- An edge as the hardware reports it. -/
inductive Edge where
  | press (channel : Nat)
  /-- A press that is reported late. -/
  | pressLate (channel : Nat) (latency : UInt32)
  | release (channel : Nat)
  deriving DecidableEq, Repr

def Edge.toCall : Edge → Call
  | .press channel => .press channel 0
  | .pressLate channel latency => .press channel latency
  | .release channel => .release channel

/-- An edge and when it is due, in milliseconds from the start of its script. -/
structure Cue where
  due : Nat
  edge : Edge
  deriving DecidableEq, Repr

namespace Bench

/-- Plays one edge of a script that was started at `start`. -/
def play (start : UInt32) (bench : Bench) (cue : Cue) : Bench :=
  ((bench.setClock (start + UInt32.ofNat cue.due)).call cue.edge.toCall).2

/-- Plays the edges that are due, in script order, each at its own time, and then the tick. There is
no tick at the very start. -/
def playUntil (start : UInt32) (time : Nat) : Bench × List Cue → Bench × List Cue
  | (bench, script) =>
      let due := script.takeWhile fun cue => decide (cue.due ≤ time)
      let played := (due.foldl (play start) bench).setClock (start + UInt32.ofNat time)
      (if time = 0 then played else played.tick.2,
        script.dropWhile fun cue => decide (cue.due ≤ time))

/-- When a replay of the script ends. -/
def scriptEnd (script : List Cue) (tail : Nat) : Nat :=
  (script.map Cue.due).foldl max 0 + tail

/-- Replays a script with a tick every `period` milliseconds, and goes on ticking for `tail`
milliseconds after its last edge. Edges come before the tick that shares their time; an edge that is
due after the last tick is left out. -/
def replay (bench : Bench) (script : List Cue) (period tail : Nat) : Bench :=
  let stops := (List.range (scriptEnd script tail / period + 1)).map (· * period)
  (stops.foldl (fun state time => playUntil bench.clock time state) (bench, script)).1

end Bench

end KeyGesture
