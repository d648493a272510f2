import KeyGesture.Gesture
import KeyGesture.Rejection

namespace KeyGesture

/-- The thresholds that tell gestures apart, in milliseconds. -/
structure Timing where
  /-- Hold that reaches the first tier. -/
  long : Nat := 1500
  /-- Hold that reaches the second tier. -/
  veryLong : Nat := 4000
  /-- Hold that reaches the last tier. -/
  veryVeryLong : Nat := 8000
  /-- Hold that has to be exceeded before repeats begin. -/
  repeatStart : Nat := 1000
  /-- Time from one repeat to the next. -/
  repeatRate : Nat := 500
  /-- Pause after a release that ends a run of taps. -/
  multiTap : Nat := 300
  /-- How long a line has to be steady before its level counts. -/
  debounce : Nat := 20
  deriving DecidableEq, Repr

namespace Timing

/-- The tiers are reached one after the other and repeats do not come all at once. -/
def Valid (timing : Timing) : Prop :=
  timing.long < timing.veryLong ∧ timing.veryLong < timing.veryVeryLong ∧ 0 < timing.repeatRate

instance (timing : Timing) : Decidable timing.Valid :=
  inferInstanceAs (Decidable (_ ∧ _ ∧ _))

def validate (timing : Timing) : Except Rejection Unit :=
  if timing.Valid then .ok () else .error .badTiming

theorem validate_eq_ok_iff {timing : Timing} : timing.validate = .ok () ↔ timing.Valid := by
  unfold validate
  split <;> simp_all

/-- The highest tier whose threshold a hold has reached. The thresholds are compared from the highest
down, so this stands also where they are out of order. -/
def tier? (timing : Timing) (hold : Nat) : Option Tier :=
  if timing.veryVeryLong ≤ hold then some .veryVeryLong
  else if timing.veryLong ≤ hold then some .veryLong
  else if timing.long ≤ hold then some .long
  else none

/-- What the end of a hold is reported as. -/
def releaseGesture (timing : Timing) (hold : Nat) : Gesture :=
  match timing.tier? hold with
  | some tier => .heldRelease tier
  | none => .short

theorem tier?_eq_none_iff {timing : Timing} {hold : Nat} :
    timing.tier? hold = none ↔
      hold < timing.long ∧ hold < timing.veryLong ∧ hold < timing.veryVeryLong := by
  grind [tier?]

theorem releaseGesture_eq_short_iff {timing : Timing} {hold : Nat} :
    timing.releaseGesture hold = .short ↔ timing.tier? hold = none := by
  unfold releaseGesture
  cases timing.tier? hold <;> simp

end Timing

end KeyGesture
