import Mathlib.Data.List.Induction
import KeyGesture.Proofs.Recognizer.KeyView
import KeyGesture.Proofs.Recognizer.Turns

namespace KeyGesture

/-! Muting decides which events get through and nothing else. What a recognizer is apart from being muted
is `resume` of it, and every call but `mute` and `resume` comes to the same on both. -/

def Call.isSwitch : Call → Bool
  | .mute | .resume => true
  | .register _ _ | .setTiming _ | .press _ _ | .release _ | .tick => false

/-- Whether the last call that switches reporting has switched it off. -/
def switchedOff (calls : List (UInt32 × Call)) : Bool :=
  ((calls.map Prod.snd).filter Call.isSwitch).getLast? == some .mute

/-- The calls of a run in which reporting is never switched. -/
def unswitched (calls : List (UInt32 × Call)) : List (UInt32 × Call) :=
  calls.filter fun moment => !moment.2.isSwitch

theorem switchedOff_concat (calls : List (UInt32 × Call)) (now : UInt32) (call : Call) :
    switchedOff (calls ++ [(now, call)]) =
      if call.isSwitch then call == .mute else switchedOff calls := by
  cases switch : call.isSwitch <;> simp [switchedOff, switch]

/-- The outcome of a step is what the step comes to when it is not muted, up to what muting changes, and
reports its events only if it is not. -/
structure Outcome.Filters {α : Type} (muted : Bool) (loudly : α → α) (outcome loud : Outcome α) :
    Prop where
  value : loud.value = loudly outcome.value
  events : outcome.events = if muted then [] else loud.events

theorem Outcome.Filters.quiet {α : Type} (muted : Bool) (loudly : α → α) (value : α) :
    Filters muted loudly (.quiet value) (.quiet (loudly value)) :=
  ⟨rfl, by simp [Outcome.quiet]⟩

theorem Outcome.Filters.map {α β : Type} {muted : Bool} {loudly : α → α} {outcome loud : Outcome α}
    (filters : Filters muted loudly outcome loud) (further : β → β) {change : α → β}
    (same : ∀ value, change (loudly value) = further (change value)) :
    Filters muted further (outcome.map change) (loud.map change) :=
  ⟨by simp only [Outcome.map, filters.value, same], filters.events⟩

namespace Recognizer

open Outcome (Filters)

variable {recognizer : Recognizer}

theorem filters_report {α : Type} (loudly : α → α) (outcome : Outcome α) :
    Filters recognizer.muted loudly (recognizer.report outcome)
      (recognizer.resume.report (outcome.map loudly)) := by
  rw [report_of_audible (show recognizer.resume.muted = false from rfl)]
  refine ⟨by rw [value_report]; rfl, ?_⟩
  rw [report]
  split <;> simp_all [Outcome.quiet, Outcome.map]

theorem filters_ignoreRefused (edge : Except Rejection (Outcome Recognizer)) :
    Filters recognizer.muted resume (recognizer.ignoreRefused edge)
      (recognizer.resume.ignoreRefused (edge.map (Outcome.map resume))) := by
  cases edge with
  | error cause => exact .quiet _ _ recognizer
  | ok outcome => exact filters_report _ outcome

theorem press?_resume (now : UInt32) (channel : Nat) (backdate : UInt32) :
    recognizer.resume.press? now channel backdate =
      (recognizer.press? now channel backdate).map (Outcome.map resume) := by
  have same : recognizer.resume.atChannel? channel = recognizer.atChannel? channel := rfl
  rw [press?, press?, same]
  cases recognizer.atChannel? channel with
  | none => rfl
  | some entry =>
      change (if recognizer.chord.down.contains entry.2 then _ else _) = _
      dsimp only
      split <;> rfl

theorem release?_resume (now : UInt32) (channel : Nat) :
    recognizer.resume.release? now channel =
      (recognizer.release? now channel).map (Outcome.map resume) := by
  have same : recognizer.resume.atChannel? channel = recognizer.atChannel? channel := rfl
  rw [release?, release?, same]
  cases recognizer.atChannel? channel with
  | none => rfl
  | some entry =>
      change (if recognizer.chord.down.contains entry.2 then _ else _) = _
      dsimp only
      split <;> rfl

theorem wrapUp_resume (recognizer : Recognizer) :
    recognizer.resume.wrapUp = recognizer.wrapUp.map id resume := by
  have same : recognizer.resume.allIdle = recognizer.allIdle := rfl
  rw [wrapUp, wrapUp, same]
  split
  · change (Activity.settled, if recognizer.chord.stage = .inactive then _ else _) = _
    split <;> rfl
  · rfl

theorem register_resume (key : Key) (channel : Nat) :
    recognizer.resume.register key channel =
      (recognizer.register key channel).map (Prod.map id resume) := by
  have same : recognizer.resume.ofKey? key = recognizer.ofKey? key := rfl
  rw [register, register, same]
  change (if recognizer.slots.any _ = true then _ else _) = _
  split
  · rfl
  · cases recognizer.ofKey? key with
    | some entry => rfl
    | none =>
        change (if recognizer.slots.length < maxKeys then _ else _) = _
        dsimp only
        split <;> rfl

theorem filters_tick (now : UInt32) :
    Filters recognizer.muted (Prod.map id resume) (recognizer.tick now) (recognizer.resume.tick now) := by
  have advanced : (recognizer.resume.advance now).wrapUp =
      (recognizer.advance now).wrapUp.map id resume :=
    (recognizer.advance now).wrapUp_resume
  have told : recognizer.resume.tickEvents now = recognizer.tickEvents now := rfl
  rw [tick, tick, advanced, told]
  exact filters_report _ ⟨(recognizer.advance now).wrapUp, recognizer.tickEvents now⟩

/-- Every call but `mute` and `resume` does to a muted recognizer what it does to one that is not. -/
theorem filters_answer (recognizer : Recognizer) {call : Call} (plain : call.isSwitch = false)
    (now : UInt32) :
    Filters recognizer.muted (Prod.map id resume) (recognizer.answer now call)
      (recognizer.resume.answer now call) := by
  cases call with
  | register key channel =>
      simp only [answer, register_resume]
      cases recognizer.register key channel with
      | error cause => exact .quiet _ (Prod.map id resume) (Reply.refused cause, recognizer)
      | ok accepted =>
          exact .quiet _ (Prod.map id resume) (Reply.registered accepted.1, accepted.2)
  | setTiming timing =>
      exact .quiet _ (Prod.map id resume) (Reply.done, recognizer.setTiming timing)
  | press channel backdate =>
      rw [answer, answer, press, press, press?_resume]
      exact (filters_ignoreRefused _).map (Prod.map id resume) fun _ => rfl
  | release channel =>
      rw [answer, answer, release, release, release?_resume]
      exact (filters_ignoreRefused _).map (Prod.map id resume) fun _ => rfl
  | tick =>
      rw [answer, answer]
      exact (filters_tick now).map (Prod.map id resume) fun _ => rfl
  | mute | resume => contradiction

/-- Only `mute` and `resume` switch reporting. -/
theorem muted_answer (recognizer : Recognizer) (now : UInt32) (call : Call) :
    (recognizer.answer now call).value.2.muted =
      if call.isSwitch then call == .mute else recognizer.muted := by
  cases call with
  | register key channel =>
      simp only [answer]
      split
      · rename_i registered accepted
        change registered.muted = recognizer.muted
        rw [eq_of_register accepted]
      · rfl
  | press channel backdate =>
      change (recognizer.press now channel backdate).value.muted = recognizer.muted
      rcases recognizer.press_refused_or_accepted now channel backdate with
        refused | ⟨_, _, _, _, _, accepted⟩
      · rw [refused]
        rfl
      · rw [accepted, value_report]
        rfl
  | release channel =>
      change (recognizer.release now channel).value.muted = recognizer.muted
      rcases recognizer.release_refused_or_accepted now channel with
        refused | ⟨_, _, _, _, _, accepted⟩
      · rw [refused]
        rfl
      · rw [accepted, value_report]
        rfl
  | tick => exact muted_tick now
  | setTiming | mute | resume => rfl

theorem answer_of_switch (recognizer : Recognizer) {call : Call} (switch : call.isSwitch = true)
    (now : UInt32) :
    (recognizer.answer now call).map (Prod.map id resume) = .quiet (.done, recognizer.resume) := by
  cases call with
  | mute | resume => rfl
  | register | setTiming | press | release | tick => contradiction

theorem resume_run (start : Recognizer) (calls : List (UInt32 × Call)) :
    (start.run calls).resume = start.resume.run (unswitched calls) := by
  induction calls generalizing start with
  | nil => rfl
  | cons moment rest ih =>
      obtain ⟨now, call⟩ := moment
      rw [run, ih]
      cases switch : call.isSwitch with
      | true =>
          have left : unswitched ((now, call) :: rest) = unswitched rest := by simp [unswitched, switch]
          rw [left]
          exact congrArg (fun outcome => outcome.value.2.run (unswitched rest))
            (start.answer_of_switch switch now)
      | false =>
          have left : unswitched ((now, call) :: rest) = (now, call) :: unswitched rest := by
            simp [unswitched, switch]
          rw [left, run, (start.filters_answer switch now).value]
          rfl

theorem muted_run (calls : List (UInt32 × Call)) : (run {} calls).muted = switchedOff calls := by
  induction calls using List.reverseRecOn with
  | nil => rfl
  | append_singleton earlier moment ih =>
      obtain ⟨now, call⟩ := moment
      rw [run_append, switchedOff_concat, ← ih]
      exact muted_answer _ now call

end Recognizer

end KeyGesture
