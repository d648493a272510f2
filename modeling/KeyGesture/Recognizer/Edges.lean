import KeyGesture.Recognizer.Basic

namespace KeyGesture.Recognizer

/-! Press and release edges. An edge that does not fit what is known of its key is refused. -/

/-- A press that is not refused, of the key in the given slot. While a chord is tracked all keys that
are mid-gesture share the start of their hold, so each key that joins moves it to its own press. -/
def acceptPress (recognizer : Recognizer) (slot : Slot) (index : Nat) (instant : UInt32) :
    Outcome Recognizer :=
  let chord := recognizer.chord.join index
  let slots :=
    if chord.stage = .tracking then
      recognizer.slots.map fun slot => slot.rebase recognizer.timing instant
    else recognizer.slots
  { value :=
      { recognizer with
        slots := slots.modify index fun slot => slot.press recognizer.timing instant
        chord }
    events := if recognizer.chord.stage = .inactive then [.single slot.key .press] else [] }

/-- The press a channel reports at `now`, `backdate` milliseconds late. -/
def press? (recognizer : Recognizer) (now : UInt32) (channel : Nat) (backdate : UInt32) :
    Except Rejection (Outcome Recognizer) :=
  match recognizer.atChannel? channel with
  | none => .error .unknownChannel
  | some (slot, index) =>
      if recognizer.chord.down.contains index then .error .alreadyDown
      else .ok (recognizer.acceptPress slot index (now - backdate))

/-- A release that is not refused, of the key in the given slot. The first release of a tracked chord
reports the chord, where its gesture is one a chord can make; any other release reports its key alone. -/
def acceptRelease (recognizer : Recognizer) (slot : Slot) (index : Nat) (now : UInt32) :
    Outcome Recognizer :=
  let gesture := recognizer.timing.releaseGesture (slot.hold now)
  let released :=
    { recognizer with
      slots := recognizer.slots.modify index fun slot => slot.lift now gesture
      chord := recognizer.chord.leave index gesture }
  { value := released
    events :=
      if recognizer.chord.stage = .tracking then
        if gesture.chordable then [released.chordEvent gesture] else []
      else [.single slot.key .release, .single slot.key gesture] }

/-- The release a channel reports. -/
def release? (recognizer : Recognizer) (now : UInt32) (channel : Nat) :
    Except Rejection (Outcome Recognizer) :=
  match recognizer.atChannel? channel with
  | none => .error .unknownChannel
  | some (slot, index) =>
      if recognizer.chord.down.contains index then .ok (recognizer.acceptRelease slot index now)
      else .error .notDown

/-- A refused edge changes nothing and reports nothing. -/
def ignoreRefused (recognizer : Recognizer) (edge : Except Rejection (Outcome Recognizer)) :
    Outcome Recognizer :=
  match edge with
  | .ok outcome => recognizer.report outcome
  | .error _ => .quiet recognizer

def press (recognizer : Recognizer) (now : UInt32) (channel : Nat) (backdate : UInt32) :
    Outcome Recognizer :=
  recognizer.ignoreRefused (recognizer.press? now channel backdate)

def release (recognizer : Recognizer) (now : UInt32) (channel : Nat) : Outcome Recognizer :=
  recognizer.ignoreRefused (recognizer.release? now channel)

end KeyGesture.Recognizer
