import KeyGesture.Key
import KeyGesture.Gesture

namespace KeyGesture

/-- The slots taking part in a chord, each with the gesture it was found to make. -/
structure Members where
  entries : List (Nat × Gesture)
  deriving DecidableEq, Repr

namespace Members

def empty : Members :=
  ⟨[]⟩

/-- Adds a slot; once every slot of a recognizer is listed, nothing more is. -/
def record (members : Members) (index : Nat) (gesture : Gesture) : Members :=
  if members.entries.length < maxKeys then ⟨members.entries ++ [(index, gesture)]⟩ else members

/-- The list of members after recording each found slot in turn. -/
def collect (found : List (Nat × Gesture)) : Members :=
  found.foldl (fun members entry => members.record entry.1 entry.2) empty

def isEmpty (members : Members) : Bool :=
  members.entries.isEmpty

def size (members : Members) : Nat :=
  members.entries.length

/-- A chord reports one gesture: that of its first member. -/
def firstGesture? (members : Members) : Option Gesture :=
  members.entries.head?.map Prod.snd

def indices (members : Members) : List Nat :=
  members.entries.map Prod.fst

theorem size_record_le {members : Members} {index : Nat} {gesture : Gesture}
    (bound : members.size ≤ maxKeys) : (members.record index gesture).size ≤ maxKeys := by
  unfold record size at *
  split
  · simp
    omega
  · exact bound

end Members

end KeyGesture
