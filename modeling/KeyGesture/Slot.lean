import KeyGesture.Key
import KeyGesture.Clock
import KeyGesture.Timing

namespace KeyGesture

/-! The state of one key in the middle of a gesture. What a tick reports of a slot, `found`, is read off
the slot as it was before the tick; `tick` is the slot after it. -/

/-- Where a key is between its first press and the end of its last tap window. -/
inductive Phase where
  /-- Up, nothing pending. -/
  | idle
  /-- Down, the hold still escalates. -/
  | pressed
  /-- Down after the last tier; only repeats remain. -/
  | parked
  /-- Up, the tap window is running. -/
  | lifted
  deriving DecidableEq, Repr

/-- One registered key: the channel its edges arrive on and the gesture it is in the middle of. -/
structure Slot where
  key : Key
  channel : Nat
  phase : Phase := .idle
  /-- Short presses in the current run of taps. Runs of 2 ^ 32 and more lie outside the model. -/
  taps : Nat := 0
  /-- The last repeat, or the tick that armed repeating. -/
  repeatedAt : Option UInt32 := none
  pressedAt : UInt32 := 0
  releasedAt : Option UInt32 := none
  /-- The hold the next escalation waits for. -/
  nextHold : Nat := 0
  deriving DecidableEq, Repr

namespace Slot

def fresh (key : Key) (channel : Nat) : Slot :=
  { key, channel }

def isDown (slot : Slot) : Bool :=
  slot.phase == .pressed || slot.phase == .parked

/-- How long the key has been held, as the clock sees it. -/
def hold (slot : Slot) (now : UInt32) : Nat :=
  elapsed now slot.pressedAt

def press (slot : Slot) (timing : Timing) (instant : UInt32) : Slot :=
  { slot with
    phase := .pressed
    pressedAt := instant
    releasedAt := none
    nextHold := timing.long }

/-- Gives a key that is mid-gesture a new start of its hold, shared with the rest of a chord. -/
def rebase (slot : Slot) (timing : Timing) (instant : UInt32) : Slot :=
  if slot.phase = .idle then slot
  else { slot with pressedAt := instant, nextHold := timing.long }

/-- The key comes up after the given gesture. Only short presses count as taps. -/
def lift (slot : Slot) (now : UInt32) (gesture : Gesture) : Slot :=
  { slot with
    phase := .lifted
    taps := if gesture = .short then slot.taps + 1 else slot.taps
    repeatedAt := none
    pressedAt := 0
    releasedAt := some now }

/-- The tier a tick reports: the one the hold has reached, once the hold the slot waits for is up. -/
def escalation? (slot : Slot) (timing : Timing) (now : UInt32) : Option Tier :=
  if slot.phase = .pressed ∧ slot.nextHold ≤ slot.hold now then timing.tier? (slot.hold now)
  else none

/-- The slot after its hold escalated to a tier: it waits for the next one, or is parked after the
last. A run of taps does not survive a hold. -/
def raise (slot : Slot) (timing : Timing) : Tier → Slot
  | .long => { slot with taps := 0, nextHold := timing.veryLong }
  | .veryLong => { slot with taps := 0, nextHold := timing.veryVeryLong }
  | .veryVeryLong => { slot with taps := 0, phase := .parked }

def escalate (slot : Slot) (timing : Timing) (now : UInt32) : Slot :=
  match slot.escalation? timing now with
  | some tier => slot.raise timing tier
  | none => slot

/-- Whether a tick reports a repeat: the hold is past the start of repeating, which an earlier tick has
armed, and the last repeat is long enough ago. -/
def repeats (slot : Slot) (timing : Timing) (now : UInt32) : Bool :=
  decide (timing.repeatStart < slot.hold now) &&
    slot.repeatedAt.any fun last => decide (timing.repeatRate ≤ elapsed now last)

/-- The first tick past the start of repeating arms it, and each repeat is counted from the last. -/
def advanceRepeat (slot : Slot) (timing : Timing) (now : UInt32) : Slot :=
  if timing.repeatStart < slot.hold now ∧ (slot.repeatedAt = none ∨ slot.repeats timing now = true) then
    { slot with repeatedAt := some now }
  else slot

/-- Whether the pause after the last release has ended the run of taps. -/
def windowOver (slot : Slot) (timing : Timing) (now : UInt32) : Bool :=
  slot.releasedAt.any fun released => decide (timing.multiTap ≤ elapsed now released)

/-- The slot once its run of taps is over. -/
def rest (slot : Slot) : Slot :=
  { slot with phase := .idle, taps := 0, releasedAt := none }

/-- What a tick makes of the slot. -/
def tick (slot : Slot) (timing : Timing) (now : UInt32) : Slot :=
  match slot.phase with
  | .idle => slot
  | .pressed | .parked => (slot.escalate timing now).advanceRepeat timing now
  | .lifted => if slot.windowOver timing now then slot.rest else slot

/-- The gestures a tick finds, in the order they are reported. -/
def found (slot : Slot) (timing : Timing) (now : UInt32) : List Gesture :=
  match slot.phase with
  | .idle => []
  | .pressed | .parked =>
      ((slot.escalation? timing now).map Gesture.held).toList ++
        (if slot.repeats timing now then [.repeated] else [])
  | .lifted =>
      if slot.windowOver timing now then ((TapCount.ofNat? slot.taps).map Gesture.tapped).toList
      else []

@[simp] theorem key_rebase (slot : Slot) (timing : Timing) (instant : UInt32) :
    (slot.rebase timing instant).key = slot.key := by
  unfold rebase
  split <;> rfl

@[simp] theorem phase_rebase (slot : Slot) (timing : Timing) (instant : UInt32) :
    (slot.rebase timing instant).phase = slot.phase := by
  unfold rebase
  split <;> rfl

@[simp] theorem key_raise (slot : Slot) (timing : Timing) (tier : Tier) :
    (slot.raise timing tier).key = slot.key := by
  cases tier <;> rfl

@[simp] theorem pressedAt_raise (slot : Slot) (timing : Timing) (tier : Tier) :
    (slot.raise timing tier).pressedAt = slot.pressedAt := by
  cases tier <;> rfl

@[simp] theorem key_escalate (slot : Slot) (timing : Timing) (now : UInt32) :
    (slot.escalate timing now).key = slot.key := by
  unfold escalate
  split <;> simp

@[simp] theorem pressedAt_escalate (slot : Slot) (timing : Timing) (now : UInt32) :
    (slot.escalate timing now).pressedAt = slot.pressedAt := by
  unfold escalate
  split <;> simp

@[simp] theorem key_advanceRepeat (slot : Slot) (timing : Timing) (now : UInt32) :
    (slot.advanceRepeat timing now).key = slot.key := by
  unfold advanceRepeat
  split <;> rfl

@[simp] theorem key_tick (slot : Slot) (timing : Timing) (now : UInt32) :
    (slot.tick timing now).key = slot.key := by
  unfold tick
  split
  · rfl
  · simp
  · simp
  · split <;> rfl

end Slot

end KeyGesture
