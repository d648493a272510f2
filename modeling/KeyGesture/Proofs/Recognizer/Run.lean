import KeyGesture.Recognizer.Call

namespace KeyGesture

/-! Runs of a recognizer: calls one after the other, each at a reading of the clock of its own. Nothing is
assumed of the readings; the clock may be moved to any value between two calls. -/

/-- One call of a run, with the recognizer it is made on. -/
structure Turn where
  before : Recognizer
  now : UInt32
  call : Call
  deriving DecidableEq, Repr

namespace Turn

def outcome (turn : Turn) : Outcome (Reply × Recognizer) :=
  turn.before.answer turn.now turn.call

def reply (turn : Turn) : Reply :=
  turn.outcome.value.1

def after (turn : Turn) : Recognizer :=
  turn.outcome.value.2

def events (turn : Turn) : List Event :=
  turn.outcome.events

end Turn

namespace Recognizer

def turns : Recognizer → List (UInt32 × Call) → List Turn
  | _, [] => []
  | recognizer, (now, call) :: rest =>
      let turn : Turn := ⟨recognizer, now, call⟩
      turn :: turns turn.after rest

def run : Recognizer → List (UInt32 × Call) → Recognizer
  | recognizer, [] => recognizer
  | recognizer, (now, call) :: rest => run (recognizer.answer now call).value.2 rest

theorem run_append (start : Recognizer) (first second : List (UInt32 × Call)) :
    start.run (first ++ second) = (start.run first).run second := by
  induction first generalizing start with
  | nil => rfl
  | cons moment rest ih =>
      obtain ⟨now, call⟩ := moment
      simp only [List.cons_append, run, ih]

theorem turns_append (start : Recognizer) (first second : List (UInt32 × Call)) :
    start.turns (first ++ second) = start.turns first ++ (start.run first).turns second := by
  induction first generalizing start with
  | nil => rfl
  | cons moment rest ih =>
      obtain ⟨now, call⟩ := moment
      simp only [List.cons_append, turns, run, ih]
      rfl

/-- A run whose turns fall into two parts is one run after another. -/
theorem exists_of_turns_eq_append {start : Recognizer} {calls : List (UInt32 × Call)}
    {earlier later : List Turn} (split : start.turns calls = earlier ++ later) :
    ∃ first second, calls = first ++ second ∧ start.turns first = earlier ∧
      (start.run first).turns second = later := by
  induction earlier generalizing start calls with
  | nil => exact ⟨[], calls, rfl, rfl, split⟩
  | cons head rest ih =>
      cases calls with
      | nil => simp [turns] at split
      | cons moment calls =>
          obtain ⟨now, call⟩ := moment
          simp only [turns, List.cons_append, List.cons.injEq] at split
          obtain ⟨rfl, tail⟩ := split
          obtain ⟨first, second, parts, taken, left⟩ := ih tail
          exact ⟨(now, call) :: first, second, by rw [parts]; rfl,
            by simp only [turns, taken], left⟩

/-- The first turn of a run is made on the recognizer it starts with, and the others are a run of what
it leaves. -/
theorem exists_of_turns_eq_cons {start : Recognizer} {calls : List (UInt32 × Call)} {head : Turn}
    {rest : List Turn} (split : start.turns calls = head :: rest) :
    head.before = start ∧
      ∃ later, calls = (head.now, head.call) :: later ∧ head.after.turns later = rest := by
  cases calls with
  | nil => simp [turns] at split
  | cons moment calls =>
      obtain ⟨now, call⟩ := moment
      simp only [turns, List.cons.injEq] at split
      obtain ⟨rfl, tail⟩ := split
      exact ⟨rfl, calls, rfl, tail⟩

theorem run_preserves (kept : Recognizer → Prop)
    (step : ∀ recognizer now call, kept recognizer → kept (recognizer.answer now call).value.2)
    {start : Recognizer} (initially : kept start) (calls : List (UInt32 × Call)) :
    kept (start.run calls) := by
  induction calls generalizing start with
  | nil => exact initially
  | cons moment rest ih =>
      obtain ⟨now, call⟩ := moment
      exact ih (step start now call initially)

theorem forall_turns_of_preserved (kept : Recognizer → Prop) {start : Recognizer} (initially : kept start)
    {calls : List (UInt32 × Call)}
    (step : ∀ moment ∈ calls, ∀ recognizer now, kept recognizer →
      kept (recognizer.answer now moment.2).value.2) :
    ∀ turn ∈ start.turns calls, kept turn.before ∧ kept turn.after := by
  induction calls generalizing start with
  | nil => simp [turns]
  | cons moment rest ih =>
      obtain ⟨now, call⟩ := moment
      simp only [List.forall_mem_cons] at step
      have next := step.1 start now initially
      simp only [turns, List.forall_mem_cons]
      exact ⟨⟨initially, next⟩, ih next step.2⟩

theorem run_of_forall_after (holds : Recognizer → Prop) {start : Recognizer}
    {calls : List (UInt32 × Call)} (moved : calls ≠ [])
    (each : ∀ turn ∈ start.turns calls, holds turn.after) : holds (start.run calls) := by
  induction calls generalizing start with
  | nil => contradiction
  | cons moment rest ih =>
      obtain ⟨now, call⟩ := moment
      simp only [turns, List.forall_mem_cons] at each
      cases rest with
      | nil => exact each.1
      | cons next later => exact ih (by simp) each.2

/-- Every turn of a run is made on what an earlier part of the run left. -/
theorem exists_of_mem_turns {start : Recognizer} {calls : List (UInt32 × Call)} {turn : Turn}
    (member : turn ∈ start.turns calls) : ∃ earlier, turn.before = start.run earlier := by
  induction calls generalizing start with
  | nil => simp [turns] at member
  | cons moment rest ih =>
      obtain ⟨now, call⟩ := moment
      rcases List.mem_cons.mp member with rfl | later
      · exact ⟨[], rfl⟩
      · obtain ⟨earlier, reached⟩ := ih later
        exact ⟨(now, call) :: earlier, reached⟩

end Recognizer

end KeyGesture
