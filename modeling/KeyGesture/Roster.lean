import KeyGesture.Key
import KeyGesture.Rejection

namespace KeyGesture

/-- The keys a product is configured with, in order, as many as one recognizer tracks. -/
structure Roster where
  keys : List Key
  fits : keys.length ≤ maxKeys
  deriving DecidableEq, Repr

namespace Roster

def empty : Roster :=
  ⟨[], Nat.zero_le _⟩

def push (roster : Roster) (key : Key) : Except Rejection Roster :=
  if room : roster.keys.length < maxKeys then
    .ok ⟨roster.keys ++ [key], by rw [List.length_append, List.length_singleton]; exact room⟩
  else .error .full

/-- A roster of the given keys, refused if they are too many. -/
def ofList (keys : List Key) : Except Rejection Roster :=
  keys.foldlM push empty

/-- The keys sensed with a technology, in roster order. -/
def withSource (roster : Roster) (source : Source) : List Key :=
  roster.keys.filter fun key => key.source == source

end Roster

end KeyGesture
