import KeyGesture.EdgeSource.TouchPads.Basic

namespace KeyGesture.TouchPads

/-- How many climbs and falls were reported; the counters start again at zero when they overflow. -/
structure EdgeCounts where
  climbs : UInt16 := 0
  falls : UInt16 := 0
  deriving DecidableEq, Repr

def EdgeCounts.addClimbs (counts : EdgeCounts) (more : Nat) : EdgeCounts :=
  { counts with climbs := counts.climbs + UInt16.ofNat more }

def EdgeCounts.addFalls (counts : EdgeCounts) (more : Nat) : EdgeCounts :=
  { counts with falls := counts.falls + UInt16.ofNat more }

structure Snapshot where
  isEnabled : Bool
  pads : Nat
  thresholds : Thresholds
  counts : EdgeCounts
  deriving DecidableEq, Repr

/-- The state of the controller for a diagnostic dump, which uses the counts up. -/
def snapshot (touch : TouchPads) (counts : EdgeCounts) : Snapshot × EdgeCounts :=
  ({ isEnabled := touch.isEnabled
     pads := touch.pads.length
     thresholds := touch.thresholds
     counts },
    {})

end KeyGesture.TouchPads
