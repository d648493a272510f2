import KeyGesture.Chord.SlotSet
import KeyGesture.Chord.Members

namespace KeyGesture

/-! Chords: from the press that makes two keys be down together, over the first release, until every key
is idle. Whether the keys are idle is not known here; `reset` is called by who knows. -/

/-- How far a chord has come. -/
inductive Stage where
  /-- No chord: keys report on their own. -/
  | inactive
  /-- Two or more keys are down together. -/
  | tracking
  /-- A member came up; the chord is over once every key is idle. -/
  | closed
  deriving DecidableEq, Repr

def Stage.label : Stage → String
  | .inactive => "DECT_INIT"
  | .tracking => "DECT_PROGRESSING"
  | .closed => "DECT_DONE"

/-- What the keys of one recognizer have in common: which are down, and the chord they make. -/
structure Chord where
  stage : Stage
  down : SlotSet
  members : Members
  deriving DecidableEq, Repr

namespace Chord

def fresh : Chord :=
  ⟨.inactive, .empty, .empty⟩

/-- A key goes down. Next to another key that is down it opens a chord, unless one is under way. -/
def join (chord : Chord) (index : Nat) : Chord :=
  { chord with
    stage :=
      if chord.stage = .inactive ∧ chord.down.isEmpty = false then .tracking else chord.stage
    down := chord.down.insert index }

/-- Makes every key that is down a member. -/
def capture (chord : Chord) (gesture : Gesture) : Chord :=
  { chord with members := .collect (chord.down.indices.map fun index => (index, gesture)) }

/-- A key comes up. The first to leave a tracked chord closes it, and its members are the keys that
were down until then. -/
def leave (chord : Chord) (index : Nat) (gesture : Gesture) : Chord :=
  match chord.stage with
  | .tracking =>
      { chord.capture gesture with stage := .closed, down := chord.down.erase index }
  | .inactive | .closed => { chord with down := chord.down.erase index }

/-- The chord is over. Keys that are down stay so. -/
def reset (chord : Chord) : Chord :=
  { chord with stage := .inactive, members := .empty }

theorem down_leave (chord : Chord) (index : Nat) (gesture : Gesture) :
    (chord.leave index gesture).down = chord.down.erase index := by
  unfold leave
  split <;> rfl

theorem stage_leave (chord : Chord) (index : Nat) (gesture : Gesture) :
    (chord.leave index gesture).stage =
      if chord.stage = .tracking then .closed else chord.stage := by
  unfold leave
  split <;> simp_all

end Chord

end KeyGesture
