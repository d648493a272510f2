namespace KeyGesture

/-- The technology a key is sensed with. -/
inductive Source where
  /-- A line behind a debounce counter, or a plain input pin. -/
  | io
  /-- A capacitive touch pad. -/
  | touch
  /-- A sensing chip outside the board's controller. -/
  | external
  deriving DecidableEq, Repr

namespace Source

/-- The number a source has in configuration blobs. -/
def number : Source → Nat
  | .io => 0
  | .touch => 1
  | .external => 2

def ofNumber? : Nat → Option Source
  | 0 => some .io
  | 1 => some .touch
  | 2 => some .external
  | _ => none

def label : Source → String
  | .io => "Io"
  | .touch => "Touch"
  | .external => "External"

end Source

/-- The identity of one configured key. -/
structure Key where
  id : Nat
  source : Source
  deriving DecidableEq, Repr

/-- How many keys one recognizer tracks. -/
def maxKeys : Nat := 3

end KeyGesture
