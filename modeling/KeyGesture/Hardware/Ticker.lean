namespace KeyGesture

/-- The recurring timer behind the classifier tick. It holds no time itself: whoever runs the processing
reads its period and does the ticking. -/
structure Ticker where
  period : Option Nat := none
  /-- How often it went from stopped to running. -/
  starts : Nat := 0
  deriving DecidableEq, Repr

namespace Ticker

def isActive (ticker : Ticker) : Bool :=
  ticker.period.isSome

/-- Starts the ticker, or changes the period of one that runs. -/
def start (ticker : Ticker) (period : Nat) : Ticker :=
  { period := some period
    starts := if ticker.isActive then ticker.starts else ticker.starts + 1 }

def stop (ticker : Ticker) : Ticker :=
  { ticker with period := none }

/-- Starts the ticker unless it runs already; other keys may be in the middle of a gesture. -/
def ensure (ticker : Ticker) (period : Nat) : Ticker :=
  if ticker.isActive then ticker else ticker.start period

/-- One that runs keeps its period. -/
theorem period_ensure (ticker : Ticker) (period : Nat) :
    (ticker.ensure period).period = some (ticker.period.getD period) := by
  unfold ensure isActive
  cases running : ticker.period <;> simp [running, start]

end Ticker

end KeyGesture
