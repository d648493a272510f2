import KeyGesture.EdgeSource.Basic
import KeyGesture.Hardware.Ticker

namespace KeyGesture

/-- What hardware that reports edges by itself has in common: the ticker it keeps running while a gesture
is under way, the back-dating of its first press, and whether it is shut down. -/
structure Intake where
  ticker : Ticker := {}
  /-- How far the next press is back-dated. -/
  backdate : UInt32 := 0
  isShutDown : Bool := false
  deriving DecidableEq, Repr

namespace Intake

def fresh (wokeBy : Option WakeSource) (own : WakeSource) : Intake :=
  { backdate := firstBackdate wokeBy own }

/-- A gesture is under way, which needs ticks. -/
def run (intake : Intake) : Intake :=
  { intake with ticker := intake.ticker.ensure checkPeriod }

/-- A press is let in. Only the first one is back-dated. -/
def letIn (intake : Intake) : Intake :=
  { intake.run with backdate := 0 }

/-- Everything is settled, so no ticks are needed. -/
def rest (intake : Intake) : Intake :=
  { intake with ticker := intake.ticker.stop }

def shutDown (intake : Intake) : Intake :=
  { intake with isShutDown := true }

end Intake

end KeyGesture
