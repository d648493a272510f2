import KeyGesture.Recognizer.Edges
import KeyGesture.Recognizer.Tick

namespace KeyGesture

/-- One call on a recognizer, as a value. -/
inductive Call where
  | register (key : Key) (channel : Nat)
  | setTiming (timing : Timing)
  | press (channel : Nat) (backdate : UInt32)
  | release (channel : Nat)
  | tick
  | mute
  | resume
  deriving DecidableEq, Repr

/-- What a call returns to its caller. -/
inductive Reply where
  | done
  | registered (slot : Nat)
  | refused (cause : Rejection)
  | activity (found : Activity)
  deriving DecidableEq, Repr

namespace Recognizer

/-- The reply to a call made at `now`, the events it reports and the recognizer after it. -/
def answer (recognizer : Recognizer) (now : UInt32) : Call → Outcome (Reply × Recognizer)
  | .register key channel =>
      match recognizer.register key channel with
      | .ok (slot, registered) => .quiet (.registered slot, registered)
      | .error cause => .quiet (.refused cause, recognizer)
  | .setTiming timing => .quiet (.done, recognizer.setTiming timing)
  | .press channel backdate => (recognizer.press now channel backdate).map ((.done, ·))
  | .release channel => (recognizer.release now channel).map ((.done, ·))
  | .tick => (recognizer.tick now).map fun (found, ticked) => (.activity found, ticked)
  | .mute => .quiet (.done, recognizer.mute)
  | .resume => .quiet (.done, recognizer.resume)

end Recognizer

end KeyGesture
