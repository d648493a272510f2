import KeyGesture.Proofs.Recognizer.Run
import KeyGesture.Proofs.Recognizer.SlotTable

namespace KeyGesture

/-! What a single turn comes to. An edge that is not refused is of the key in one slot, and a turn that is
neither that nor a tick reports nothing. -/

namespace Turn

variable {turn : Turn} {slot : Slot}

/-- The turn is a press, not refused, of the key in a slot. -/
def Presses (turn : Turn) (slot : Slot) : Prop :=
  ∃ channel backdate index outcome, turn.call = .press channel backdate ∧
    turn.before.atChannel? channel = some (slot, index) ∧
    turn.before.press? turn.now channel backdate = .ok outcome

/-- The turn is a release, not refused, of the key in a slot. -/
def Releases (turn : Turn) (slot : Slot) : Prop :=
  ∃ channel index outcome, turn.call = .release channel ∧
    turn.before.atChannel? channel = some (slot, index) ∧
    turn.before.release? turn.now channel = .ok outcome

open Recognizer

theorem Presses.exists_accepted (presses : turn.Presses slot) :
    ∃ index instant, turn.before.slots[index]? = some slot ∧
      turn.before.chord.down.contains index = false ∧
      turn.after = (turn.before.acceptPress slot index instant).value ∧
      turn.events = (turn.before.report (turn.before.acceptPress slot index instant)).events := by
  obtain ⟨before, now, call⟩ := turn
  obtain ⟨channel, backdate, index, outcome, rfl, found, accepted⟩ := presses
  obtain ⟨_, _, located, unmarked, rfl⟩ := press?_eq_ok_iff.mp accepted
  simp only [found, Option.some.injEq, Prod.mk.injEq] at located
  obtain ⟨rfl, rfl⟩ := located
  refine ⟨index, now - backdate, (atChannel?_eq_some found).1, unmarked, ?_, ?_⟩
  · simp only [after, Turn.outcome, answer, press, accepted, ignoreRefused]
    exact value_report _ _
  · simp only [events, Turn.outcome, answer, press, accepted, ignoreRefused]
    rfl

theorem Releases.exists_accepted (releases : turn.Releases slot) :
    ∃ index, turn.before.slots[index]? = some slot ∧
      turn.before.chord.down.contains index = true ∧
      turn.after = (turn.before.acceptRelease slot index turn.now).value ∧
      turn.events = (turn.before.report (turn.before.acceptRelease slot index turn.now)).events := by
  obtain ⟨before, now, call⟩ := turn
  obtain ⟨channel, index, outcome, rfl, found, accepted⟩ := releases
  obtain ⟨_, _, located, marked, rfl⟩ := release?_eq_ok_iff.mp accepted
  simp only [found, Option.some.injEq, Prod.mk.injEq] at located
  obtain ⟨rfl, rfl⟩ := located
  refine ⟨index, (atChannel?_eq_some found).1, marked, ?_, ?_⟩
  · simp only [after, Turn.outcome, answer, release, accepted, ignoreRefused]
    exact value_report _ _
  · simp only [events, Turn.outcome, answer, release, accepted, ignoreRefused]
    rfl

theorem refused_or_presses {channel : Nat} {backdate : UInt32}
    (pressing : turn.call = .press channel backdate) :
    (turn.after = turn.before ∧ turn.events = []) ∨ ∃ slot, turn.Presses slot := by
  obtain ⟨before, now, call⟩ := turn
  obtain rfl : call = .press channel backdate := pressing
  cases answered : before.press? now channel backdate with
  | error cause =>
      simp only [after, events, outcome, answer, press, answered, ignoreRefused]
      exact .inl ⟨rfl, rfl⟩
  | ok outcome =>
      obtain ⟨slot, index, found, _, _⟩ := press?_eq_ok_iff.mp answered
      exact .inr ⟨slot, channel, backdate, index, outcome, rfl, found, answered⟩

theorem refused_or_releases {channel : Nat} (releasing : turn.call = .release channel) :
    (turn.after = turn.before ∧ turn.events = []) ∨ ∃ slot, turn.Releases slot := by
  obtain ⟨before, now, call⟩ := turn
  obtain rfl : call = .release channel := releasing
  cases answered : before.release? now channel with
  | error cause =>
      simp only [after, events, outcome, answer, release, answered, ignoreRefused]
      exact .inl ⟨rfl, rfl⟩
  | ok outcome =>
      obtain ⟨slot, index, found, _, _⟩ := release?_eq_ok_iff.mp answered
      exact .inr ⟨slot, channel, index, outcome, rfl, found, answered⟩

/-- What a turn comes to: the slots and the chord stay as they are, or a key is registered, goes down or
comes up, or all move on by a tick. Only the last three report. -/
inductive Course (turn : Turn) : Prop where
  | kept (slots : turn.after.slots = turn.before.slots) (chord : turn.after.chord = turn.before.chord)
      (silent : turn.events = [])
  | registered {key : Key} {channel number : Nat}
      (accepted : turn.before.register key channel = .ok (number, turn.after)) (silent : turn.events = [])
  | pressed {slot : Slot} (presses : turn.Presses slot)
  | released {slot : Slot} (releases : turn.Releases slot)
  | ticked (ticks : turn.call = .tick) (after : turn.after = (turn.before.tick turn.now).value.2)
      (told : turn.events = (turn.before.tick turn.now).events)

theorem course (turn : Turn) : turn.Course := by
  cases called : turn.call with
  | register key channel =>
      cases answered : turn.before.register key channel with
      | error cause =>
          have refused : turn.outcome = .quiet (.refused cause, turn.before) := by
            simp only [outcome, called, answer, answered]
          refine .kept ?_ ?_ ?_
          · rw [after, refused]
            rfl
          · rw [after, refused]
            rfl
          · rw [events, refused]
            rfl
      | ok accepted =>
          obtain ⟨number, registered⟩ := accepted
          have done : turn.outcome = .quiet (.registered number, registered) := by
            simp only [outcome, called, answer, answered]
          have reached : turn.after = registered := by
            rw [after, done]
            rfl
          rw [← reached] at answered
          refine .registered answered ?_
          rw [events, done]
          rfl
  | setTiming | mute | resume =>
      refine .kept ?_ ?_ ?_
      all_goals
        simp only [after, events, outcome, called]
        rfl
  | press channel backdate =>
      rcases refused_or_presses called with ⟨same, silent⟩ | ⟨slot, presses⟩
      · exact .kept (by rw [same]) (by rw [same]) silent
      · exact .pressed presses
  | release channel =>
      rcases refused_or_releases called with ⟨same, silent⟩ | ⟨slot, releases⟩
      · exact .kept (by rw [same]) (by rw [same]) silent
      · exact .released releases
  | tick =>
      have ticked : turn.outcome = (turn.before.answer turn.now .tick) := by
        rw [outcome, called]
      refine .ticked called ?_ ?_
      · rw [after, ticked]
        rfl
      · rw [events, ticked]
        rfl

theorem events_of_muted (muted : turn.before.muted = true) : turn.events = [] := by
  have silent : ∀ {α : Type} (outcome : Outcome α), (turn.before.report outcome).events = [] := by
    intro α outcome
    rw [report, if_pos muted]
    rfl
  cases turn.course with
  | kept _ _ none | registered _ none => exact none
  | pressed presses =>
      obtain ⟨_, _, _, _, _, told⟩ := presses.exists_accepted
      exact told.trans (silent _)
  | released releases =>
      obtain ⟨_, _, _, _, told⟩ := releases.exists_accepted
      exact told.trans (silent _)
  | ticked _ _ told => exact told.trans (silent _)

end Turn

end KeyGesture
