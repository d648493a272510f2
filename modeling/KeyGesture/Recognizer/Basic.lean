import KeyGesture.Chord.Basic
import KeyGesture.Outcome
import KeyGesture.Slot

namespace KeyGesture

/-! The recognizer of key gestures. It has no clock: each operation that needs the time is given it. -/

/-- What a tick found: whether some key is still in the middle of a gesture. -/
inductive Activity where
  | ongoing
  | settled
  deriving DecidableEq, Repr

/-- Turns the edges of up to `maxKeys` keys, and regular ticks, into gestures. -/
structure Recognizer where
  timing : Timing := {}
  slots : List Slot := []
  chord : Chord := .fresh
  /-- While muted, the recognizer classifies as ever and reports nothing. -/
  muted : Bool := false
  deriving DecidableEq, Repr

namespace Recognizer

/-! Lookups. -/

/-- The first slot of the wanted kind, and its number. -/
def locate? (recognizer : Recognizer) (wanted : Slot → Bool) : Option (Slot × Nat) :=
  recognizer.slots.zipIdx.find? fun entry => wanted entry.1

def atChannel? (recognizer : Recognizer) (channel : Nat) : Option (Slot × Nat) :=
  recognizer.locate? fun slot => slot.channel == channel

def ofKey? (recognizer : Recognizer) (key : Key) : Option (Slot × Nat) :=
  recognizer.locate? fun slot => slot.key == key

def channelOf? (recognizer : Recognizer) (key : Key) : Option Nat :=
  (recognizer.ofKey? key).map fun found => found.1.channel

def phase? (recognizer : Recognizer) (channel : Nat) : Option Phase :=
  (recognizer.atChannel? channel).map fun found => found.1.phase

def taps? (recognizer : Recognizer) (channel : Nat) : Option Nat :=
  (recognizer.atChannel? channel).map fun found => found.1.taps

def pressedAt? (recognizer : Recognizer) (channel : Nat) : Option UInt32 :=
  (recognizer.atChannel? channel).map fun found => found.1.pressedAt

/-- Whether a key is down; a key that is not registered is not. -/
def isDown (recognizer : Recognizer) (key : Key) : Bool :=
  (recognizer.ofKey? key).any fun found => recognizer.chord.down.contains found.2

def allUp (recognizer : Recognizer) : Bool :=
  recognizer.chord.down.isEmpty

theorem locate?_eq_some {recognizer : Recognizer} {wanted : Slot → Bool} {slot : Slot} {index : Nat}
    (found : recognizer.locate? wanted = some (slot, index)) :
    recognizer.slots[index]? = some slot ∧ wanted slot = true :=
  ⟨List.mk_mem_zipIdx_iff_getElem?.mp (List.mem_of_find?_eq_some found),
    List.find?_some (p := fun entry : Slot × Nat => wanted entry.1) found⟩

theorem locate?_eq_none_iff {recognizer : Recognizer} {wanted : Slot → Bool} :
    recognizer.locate? wanted = none ↔ ∀ slot ∈ recognizer.slots, wanted slot = false := by
  simp only [locate?, List.find?_eq_none, Bool.not_eq_true]
  constructor
  · intro unwanted slot member
    obtain ⟨index, found⟩ := List.getElem?_of_mem member
    exact unwanted (slot, index) (List.mk_mem_zipIdx_iff_getElem?.mpr found)
  · rintro unwanted ⟨slot, index⟩ member
    exact unwanted slot (List.mem_of_getElem? (List.mk_mem_zipIdx_iff_getElem?.mp member))

/-! Setting up. -/

/-- Binds a key to the channel its edges arrive on, and gives the number of its slot. A key that is
registered already moves to the new channel with its gesture untouched. -/
def register (recognizer : Recognizer) (key : Key) (channel : Nat) :
    Except Rejection (Nat × Recognizer) :=
  if recognizer.slots.any fun slot => slot.channel == channel && slot.key != key then
    .error .channelTaken
  else
    match recognizer.ofKey? key with
    | some (_, index) =>
        .ok (index,
          { recognizer with slots := recognizer.slots.modify index fun slot => { slot with channel } })
    | none =>
        if recognizer.slots.length < maxKeys then
          .ok (recognizer.slots.length,
            { recognizer with slots := recognizer.slots ++ [Slot.fresh key channel] })
        else .error .full

/-- The timing is used as it is, valid or not. -/
def setTiming (recognizer : Recognizer) (timing : Timing) : Recognizer :=
  { recognizer with timing }

def mute (recognizer : Recognizer) : Recognizer :=
  { recognizer with muted := true }

def resume (recognizer : Recognizer) : Recognizer :=
  { recognizer with muted := false }

/-- Lets a step's events through unless the recognizer is muted. -/
def report {α : Type} (recognizer : Recognizer) (outcome : Outcome α) : Outcome α :=
  if recognizer.muted then .quiet outcome.value else outcome

@[simp] theorem value_report {α : Type} (recognizer : Recognizer) (outcome : Outcome α) :
    (recognizer.report outcome).value = outcome.value := by
  unfold report
  split <;> rfl

/-! Chords. -/

/-- The keys of the chord's members, in the order they were found. -/
def memberKeys (recognizer : Recognizer) : List Key :=
  recognizer.chord.members.indices.filterMap fun index => recognizer.slots[index]?.map Slot.key

def chordEvent (recognizer : Recognizer) (gesture : Gesture) : Event :=
  .chord gesture recognizer.memberKeys

end Recognizer

end KeyGesture
