import KeyGesture.Recognizer.Basic

namespace KeyGesture.Recognizer

/-! The classifier tick, which finds what takes time rather than an edge: holds that escalate, repeats,
and runs of taps that are over. -/

/-- The slots whose hold escalates at this tick, each with the gesture it makes. -/
def escalations (recognizer : Recognizer) (now : UInt32) : List (Nat × Gesture) :=
  recognizer.slots.zipIdx.filterMap fun (slot, index) =>
    (slot.escalation? recognizer.timing now).map fun tier => (index, .held tier)

/-- What a tick finds on each key by itself, key by key in slot order. -/
def singleFindings (recognizer : Recognizer) (now : UInt32) : List Event :=
  recognizer.slots.flatMap fun slot =>
    (slot.found recognizer.timing now).map fun gesture => .single slot.key gesture

/-- Every slot moves on by one tick. A tracked chord takes the keys whose hold escalates as its
members. -/
def advance (recognizer : Recognizer) (now : UInt32) : Recognizer :=
  { recognizer with
    slots := recognizer.slots.map fun slot => slot.tick recognizer.timing now
    chord :=
      if recognizer.chord.stage = .tracking then
        { recognizer.chord with members := .collect (recognizer.escalations now) }
      else recognizer.chord }

/-- What a tick reports: the findings on each key while there is no chord, the common escalation of a
tracked chord, and nothing once the chord is closed. -/
def tickEvents (recognizer : Recognizer) (now : UInt32) : List Event :=
  match recognizer.chord.stage with
  | .inactive => recognizer.singleFindings now
  | .tracking =>
      let ticked := recognizer.advance now
      (ticked.chord.members.firstGesture?.map ticked.chordEvent).toList
  | .closed => []

def allIdle (recognizer : Recognizer) : Bool :=
  recognizer.slots.all fun slot => slot.phase == .idle

/-- Once every key is idle the chord is over. -/
def wrapUp (recognizer : Recognizer) : Activity × Recognizer :=
  if recognizer.allIdle then
    (.settled,
      if recognizer.chord.stage = .inactive then recognizer
      else { recognizer with chord := recognizer.chord.reset })
  else (.ongoing, recognizer)

/-- One classifier tick, due every 50 to 100 milliseconds until it finds everything settled. -/
def tick (recognizer : Recognizer) (now : UInt32) : Outcome (Activity × Recognizer) :=
  recognizer.report ⟨(recognizer.advance now).wrapUp, recognizer.tickEvents now⟩

end KeyGesture.Recognizer
