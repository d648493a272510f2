import KeyGesture.Key
import KeyGesture.Gesture

namespace KeyGesture

/-- A gesture and the keys that made it: one key, or the members of a chord. -/
structure Event where
  gesture : Gesture
  keys : List Key
  deriving DecidableEq, Repr

namespace Event

def single (key : Key) (gesture : Gesture) : Event :=
  ⟨gesture, [key]⟩

/-- An event has room for as many keys as a recognizer tracks; the first ones stay. -/
def chord (gesture : Gesture) (keys : List Key) : Event :=
  ⟨gesture, keys.take maxKeys⟩

/-- The gesture the event's keys share; an event without keys reports none. -/
def gesture? (event : Event) : Option Gesture :=
  if event.keys.isEmpty then none else some event.gesture

def isChord (event : Event) : Bool :=
  decide (1 < event.keys.length)

def contains (event : Event) (key : Key) : Bool :=
  decide (key ∈ event.keys)

end Event

end KeyGesture
