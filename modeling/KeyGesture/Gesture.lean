namespace KeyGesture

/-- How far a hold has escalated. -/
inductive Tier where
  | long
  | veryLong
  | veryVeryLong
  deriving DecidableEq, Repr

/-- Tiers in the order a growing hold reaches them. -/
def Tier.rank : Tier → Nat
  | .long => 1
  | .veryLong => 2
  | .veryVeryLong => 3

/-- The tap counts that are gestures. -/
inductive TapCount where
  | single
  | double
  | triple
  | quadruple
  | quintuple
  | sextuple
  deriving DecidableEq, Repr

namespace TapCount

def toNat : TapCount → Nat
  | .single => 1
  | .double => 2
  | .triple => 3
  | .quadruple => 4
  | .quintuple => 5
  | .sextuple => 6

def ofNat? : Nat → Option TapCount
  | 1 => some .single
  | 2 => some .double
  | 3 => some .triple
  | 4 => some .quadruple
  | 5 => some .quintuple
  | 6 => some .sextuple
  | _ => none

theorem toNat_of_ofNat? {count : Nat} {taps : TapCount} (found : ofNat? count = some taps) :
    taps.toNat = count := by
  unfold ofNat? at found
  split at found <;> simp_all [toNat, eq_comm]

/-- Exactly the counts from one to six are gestures. -/
theorem ofNat?_isSome_iff {count : Nat} : (ofNat? count).isSome ↔ 1 ≤ count ∧ count ≤ 6 := by
  constructor
  · intro found
    obtain ⟨taps, found⟩ := Option.isSome_iff_exists.mp found
    rw [← toNat_of_ofNat? found]
    cases taps <;> simp [toNat]
  · intro bounds
    have cases : count = 1 ∨ count = 2 ∨ count = 3 ∨ count = 4 ∨ count = 5 ∨ count = 6 := by omega
    rcases cases with rfl | rfl | rfl | rfl | rfl | rfl <;> rfl

end TapCount

/-- What a key, or a chord of keys, is reported to have done. -/
inductive Gesture where
  /-- The key went down. -/
  | press
  /-- The key came up. -/
  | release
  /-- The key is still held and repeats. -/
  | repeated
  /-- The key came up before the first tier. -/
  | short
  /-- The hold reached a tier. -/
  | held (tier : Tier)
  /-- The key came up after its hold had reached a tier. -/
  | heldRelease (tier : Tier)
  /-- A run of short presses ended. -/
  | tapped (taps : TapCount)
  deriving DecidableEq, Repr

namespace Gesture

def label : Gesture → String
  | .press => "PRESS"
  | .release => "RELEASE"
  | .repeated => "REPEAT"
  | .short => "SHORT"
  | .held .long => "LONG"
  | .held .veryLong => "VLONG"
  | .held .veryVeryLong => "VVLONG"
  | .heldRelease .long => "LONG_RELEASE"
  | .heldRelease .veryLong => "VLONG_RELEASE"
  | .heldRelease .veryVeryLong => "VVLONG_RELEASE"
  | .tapped .single => "SINGLE"
  | .tapped .double => "DOUBLE"
  | .tapped .triple => "TRIPLE"
  | .tapped .quadruple => "QUADRUPLE"
  | .tapped .quintuple => "QUINTUPLE"
  | .tapped .sextuple => "SEXTUPLE"

/-- Whether several keys can make this gesture together. -/
def chordable : Gesture → Bool
  | .short | .held _ => true
  | _ => false

def isMultiTap : Gesture → Bool
  | .tapped _ => true
  | _ => false

def isEscalation : Gesture → Bool
  | .held _ => true
  | _ => false

end Gesture

end KeyGesture
