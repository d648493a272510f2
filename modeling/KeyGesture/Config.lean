import KeyGesture.Roster
import KeyGesture.Timing

namespace KeyGesture

/-- Readings of a touch pad that count as a climb and as a fall. -/
structure Thresholds where
  climb : Nat := 0
  fall : Nat := 0
  deriving DecidableEq, Repr

/-- The key configuration of a product. -/
structure Config where
  roster : Roster := .empty
  timing : Timing := {}
  thresholds : Thresholds := {}
  deriving DecidableEq, Repr

end KeyGesture
