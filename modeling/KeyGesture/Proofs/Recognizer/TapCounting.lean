import Mathlib.Data.List.DropRight
import KeyGesture.Proofs.Recognizer.KeyView
import KeyGesture.Proofs.Recognizer.Turns

namespace KeyGesture

/-! Runs of taps. What a recognizer reports when the tap window of a key closes is the number of short
presses it has reported of the key since the last escalation of a hold, as long as no chord came in
between; a chord leaves nothing of the taps around it. -/

/-- The short presses in a list of gestures that come after its last escalation. -/
def tapsSinceHold (gestures : List Gesture) : Nat :=
  (gestures.rtakeWhile fun gesture => !gesture.isEscalation).count .short

theorem tapsSinceHold_concat (gestures : List Gesture) (last : Gesture) :
    tapsSinceHold (gestures ++ [last]) =
      if last.isEscalation then 0 else tapsSinceHold gestures + if last = .short then 1 else 0 := by
  rw [tapsSinceHold, List.rtakeWhile_concat]
  cases escalation : last.isEscalation with
  | true => simp
  | false => simp [tapsSinceHold, List.count_singleton]

theorem tapsSinceHold_append (first second : List Gesture) :
    tapsSinceHold (first ++ second) =
      if second.any Gesture.isEscalation then tapsSinceHold second
      else tapsSinceHold first + tapsSinceHold second := by
  induction second using List.reverseRecOn with
  | nil => simp [tapsSinceHold]
  | append_singleton earlier last ih =>
      rw [← List.append_assoc, tapsSinceHold_concat, tapsSinceHold_concat, ih]
      simp only [List.any_append, List.any_cons, List.any_nil, Bool.or_false]
      cases last.isEscalation with
      | true => simp
      | false =>
          simp only [Bool.or_false, Bool.false_eq_true, if_false]
          split <;> omega

/-- The report of a run of taps; only one to six taps make one. -/
def tapReport (key : Key) (count : Nat) : List Event :=
  ((TapCount.ofNat? count).map fun taps => .single key (.tapped taps)).toList

theorem tapsSinceHold_le (gestures : List Gesture) : tapsSinceHold gestures ≤ gestures.count .short := by
  have kept := List.rtakeWhile_suffix (fun gesture : Gesture => !gesture.isEscalation) gestures
  exact kept.sublist.count_le .short

theorem tapsSinceHold_of_not_escalated {gestures : List Gesture}
    (calm : gestures.any Gesture.isEscalation = false) :
    tapsSinceHold gestures = gestures.count .short := by
  rw [tapsSinceHold, List.rtakeWhile_eq_self_iff.mpr]
  intro gesture member
  simpa using List.any_eq_false.mp calm gesture member

namespace Slot

variable {slot : Slot} {timing : Timing} {now : UInt32}

theorem found_of_isDown (down : slot.isDown = true) :
    slot.found timing now = ((slot.escalation? timing now).map Gesture.held).toList ++
      if slot.repeats timing now then [.repeated] else [] := by
  rcases isDown_iff.mp down with pressed | parked
  · simp only [found, pressed]
  · simp only [found, parked]

/-- What a tick finds of a key that is down, and of one whose tap window is over. -/
theorem mem_found_iff {gesture : Gesture} : gesture ∈ slot.found timing now ↔
    slot.isDown = true ∧ ((∃ tier, slot.escalation? timing now = some tier ∧ .held tier = gesture) ∨
        slot.repeats timing now = true ∧ gesture = .repeated) ∨
      slot.phase = .lifted ∧ slot.windowOver timing now = true ∧
        ∃ taps, TapCount.ofNat? slot.taps = some taps ∧ .tapped taps = gesture := by
  cases phase : slot.phase with
  | idle => simp [found, isDown, phase]
  | pressed | parked => simp [found, isDown, phase]
  | lifted => simp [found, isDown, phase]

theorem taps_escalate : (slot.escalate timing now).taps =
    if (slot.escalation? timing now).isSome then 0 else slot.taps := by
  rw [escalate]
  cases slot.escalation? timing now with
  | none => rfl
  | some tier => simp

theorem taps_tick (active : (slot.tick timing now).phase ≠ .idle) : (slot.tick timing now).taps =
    if (slot.found timing now).any Gesture.isEscalation then tapsSinceHold (slot.found timing now)
    else slot.taps + tapsSinceHold (slot.found timing now) := by
  rcases slot.idle_or_isDown_or_lifted with idle | down | lifted
  · rw [tick_of_idle now idle]
    simp [found, idle, tapsSinceHold]
  · rw [tick_of_isDown now down, taps_advanceRepeat, taps_escalate, found_of_isDown down]
    cases slot.escalation? timing now <;> cases slot.repeats timing now <;>
      simp [tapsSinceHold, Gesture.isEscalation, List.rtakeWhile]
  · rw [tick_of_lifted now lifted] at active ⊢
    cases expired : slot.windowOver timing now with
    | true => simp [expired, rest] at active
    | false => simp [found, lifted, expired, tapsSinceHold]

end Slot

section KeyStep

variable {timing : Timing} {now : UInt32} {stage : Stage} {slot next : Slot} {call : Call}
  {gestures : List Gesture}

theorem isEscalation_releaseGesture (timing : Timing) (hold : Nat) :
    (timing.releaseGesture hold).isEscalation = false := by
  rw [Timing.releaseGesture]
  split <;> rfl

theorem KeyStep.taps_eq (step : KeyStep timing now stage slot call gestures next)
    (active : next.phase ≠ .idle) : next.taps =
      if gestures.any Gesture.isEscalation then tapsSinceHold gestures
      else slot.taps + tapsSinceHold gestures := by
  cases step with
  | kept => simp [tapsSinceHold]
  | rebased => simp [tapsSinceHold]
  | pressed => simp [tapsSinceHold, Slot.press, Gesture.isEscalation, List.rtakeWhile]
  | lifted channel down =>
      have counted := tapsSinceHold_concat [.release] (timing.releaseGesture (slot.hold now))
      rw [isEscalation_releaseGesture] at counted
      have calm : [Gesture.release, timing.releaseGesture (slot.hold now)].any
          Gesture.isEscalation = false := by
        simp only [List.any_cons, List.any_nil, isEscalation_releaseGesture]
        rfl
      rw [calm]
      change (if timing.releaseGesture (slot.hold now) = .short then slot.taps + 1 else slot.taps) =
        slot.taps + tapsSinceHold ([.release] ++ [timing.releaseGesture (slot.hold now)])
      rw [counted]
      split <;> rfl
  | ticked => exact Slot.taps_tick active

theorem KeyStep.opens (step : KeyStep timing now stage slot call gestures next)
    (idle : slot.phase = .idle) (active : next.phase ≠ .idle) :
    ∃ channel backdate, call = .press channel backdate := by
  cases step with
  | kept => exact absurd idle active
  | rebased channel backdate => exact ⟨channel, backdate, rfl⟩
  | pressed channel backdate => exact ⟨channel, backdate, rfl⟩
  | lifted channel down => exact absurd idle (Slot.phase_ne_idle_of_isDown down)
  | ticked =>
      rw [Slot.tick_of_idle now idle] at active
      exact absurd idle active

/-- A key comes to rest only by a tick that finds its tap window over. -/
theorem KeyStep.closes (step : KeyStep timing now stage slot call gestures next)
    (active : slot.phase ≠ .idle) (rested : next.phase = .idle) :
    call = .tick ∧ gestures = ((TapCount.ofNat? slot.taps).map Gesture.tapped).toList := by
  cases step with
  | kept => exact absurd rested active
  | rebased => exact absurd ((Slot.phase_rebase _ _ _).symm.trans rested) active
  | pressed => contradiction
  | lifted => contradiction
  | ticked =>
      refine ⟨rfl, ?_⟩
      rcases slot.idle_or_isDown_or_lifted with idle | down | lifted
      · exact absurd idle active
      · have stays : (slot.tick timing now).isDown = true := by simpa using down
        exact absurd rested (Slot.phase_ne_idle_of_isDown stays)
      · cases expired : slot.windowOver timing now with
        | true => simp [Slot.found, lifted, expired]
        | false =>
            rw [Slot.tick_of_lifted now lifted, expired] at rested
            exact absurd rested active

end KeyStep

namespace Recognizer

variable {recognizer : Recognizer} {slot : Slot} {index : Nat} {key : Key}

theorem mem_escalations {now : UInt32} {entry : Nat × Gesture}
    (found : entry ∈ recognizer.escalations now) : ∃ tier, entry.2 = .held tier := by
  obtain ⟨_, _, escalated⟩ := List.mem_filterMap.mp found
  obtain ⟨tier, _, rfl⟩ := Option.map_eq_some_iff.mp escalated
  exact ⟨tier, rfl⟩

/-- What is reported of a chord: its keys come up, or its hold escalates. -/
theorem gesture_of_chord {now : UInt32} {call : Call} {event : Event}
    (chorded : recognizer.chord.stage ≠ .inactive)
    (reported : event ∈ (recognizer.answer now call).events) :
    event.gesture = .release ∨ (∃ hold, event.gesture = recognizer.timing.releaseGesture hold) ∨
      ∃ tier, event.gesture = .held tier := by
  let turn : Turn := ⟨recognizer, now, call⟩
  change event ∈ turn.events at reported
  cases turn.course with
  | kept _ _ silent | registered _ silent =>
      rw [silent] at reported
      contradiction
  | pressed presses =>
      obtain ⟨_, _, _, _, _, told⟩ := presses.exists_accepted
      rw [told] at reported
      have listed := mem_events_of_report reported
      simp only [acceptPress, turn, if_neg chorded] at listed
      contradiction
  | released releases =>
      obtain ⟨_, _, _, _, told⟩ := releases.exists_accepted
      rw [told] at reported
      have listed := mem_events_of_report reported
      simp only [acceptRelease] at listed
      split at listed
      · split at listed
        · rw [List.mem_singleton.mp listed]
          exact .inr (.inl ⟨_, rfl⟩)
        · contradiction
      · rcases List.mem_cons.mp listed with rfl | last
        · exact .inl rfl
        · rw [List.mem_singleton.mp last]
          exact .inr (.inl ⟨_, rfl⟩)
  | ticked _ _ told =>
      rw [told] at reported
      have listed := mem_events_of_report reported
      change event ∈ recognizer.tickEvents now at listed
      simp only [tickEvents] at listed
      cases stage : recognizer.chord.stage with
      | inactive => exact absurd stage chorded
      | closed =>
          rw [stage] at listed
          contradiction
      | tracking =>
          simp only [stage, Option.mem_toList, Option.map_eq_some_iff, advance, if_true,
            Members.firstGesture?, Members.entries_collect] at listed
          obtain ⟨gesture, ⟨entry, first, rfl⟩, rfl⟩ := listed
          have member := List.mem_of_mem_take (List.mem_of_head? first)
          exact .inr (.inr (mem_escalations member))

section Runs

variable {start : Recognizer} {calls : List (UInt32 × Call)}

/-- The count of taps of a key that stays mid-gesture is kept by a run to be what the run has reported,
until there is a chord. -/
theorem taps_through (sound : start.Sound) (place : start.slots[index]? = some slot)
    {told : List Gesture} (counted : start.chord.stage = .inactive → slot.taps = tapsSinceHold told)
    (audible : ∀ turn ∈ start.turns calls, turn.before.muted = false)
    (active : ∀ turn ∈ start.turns calls, turn.after.phaseOf? slot.key ≠ some .idle) :
    ∃ next, (start.run calls).slots[index]? = some next ∧ next.key = slot.key ∧
      ((start.run calls).chord.stage = .inactive → next.taps =
        tapsSinceHold (told ++ gesturesOf slot.key ((start.turns calls).flatMap Turn.events))) := by
  induction calls generalizing start slot told with
  | nil => exact ⟨slot, place, rfl, by simpa [turns, run] using counted⟩
  | cons moment rest ih =>
      obtain ⟨now, call⟩ := moment
      simp only [turns, List.forall_mem_cons] at audible active
      obtain ⟨gestures, next, placeNext, step, reported⟩ := sound.keyStep place now call
      have soundNext := sound.answer now call
      have sameKey := step.key_eq
      have phaseNext := soundNext.phaseOf?_eq placeNext
      rw [sameKey] at phaseNext
      have activeNext : next.phase ≠ .idle := by
        intro idle
        exact active.1 (phaseNext.trans (by rw [idle]))
      have countedNext : (start.answer now call).value.2.chord.stage = .inactive →
          next.taps = tapsSinceHold
            (told ++ gesturesOf slot.key (start.answer now call).events) := by
        intro inactive
        -- A chord could only have ended by bringing this key to rest as well.
        have unchorded : start.chord.stage = .inactive := by
          by_contra chorded
          exact activeNext
            (idle_of_stage_inactive chorded inactive next (List.mem_of_getElem? placeNext))
        rw [gesturesOf_eq_of_eventsNaming (reported unchorded audible.1), tapsSinceHold_append,
          ← counted unchorded]
        exact step.taps_eq activeNext
      obtain ⟨last, placeLast, keyLast, countedLast⟩ :=
        ih soundNext placeNext countedNext audible.2 (by rw [sameKey]; exact active.2)
      refine ⟨last, placeLast, keyLast.trans sameKey, ?_⟩
      simpa [turns, run, Turn.after, Turn.events, Turn.outcome, sameKey] using countedLast

end Runs

/-- A key comes to rest only by a tick, which without a chord reports its run of taps. -/
theorem Sound.tick_of_resting (sound : recognizer.Sound)
    (place : recognizer.slots[index]? = some slot) (active : slot.phase ≠ .idle) {now : UInt32}
    {call : Call} (rested : (recognizer.answer now call).value.2.phaseOf? slot.key = some .idle) :
    call = .tick ∧ (recognizer.chord.stage = .inactive → recognizer.muted = false →
      eventsNaming slot.key (recognizer.answer now call).events = tapReport slot.key slot.taps) := by
  obtain ⟨gestures, next, placeNext, step, reported⟩ := sound.keyStep place now call
  rw [← step.key_eq, (sound.answer now call).phaseOf?_eq placeNext, Option.some.injEq] at rested
  obtain ⟨ticked, tapped⟩ := step.closes active rested
  refine ⟨ticked, fun inactive audible => ?_⟩
  rw [reported inactive audible, tapped]
  simp [tapReport, Option.toList_map]

end Recognizer

/-- Turns of a run, from the one that takes a key out of rest to the one that brings it back. -/
structure Stretch (start : Recognizer) (calls : List (UInt32 × Call)) (key : Key) (opening : Turn)
    (middle : List Turn) (closing : Turn) : Prop where
  within : ∃ earlier later, start.turns calls = earlier ++ (opening :: middle ++ closing :: later)
  idle : opening.before.phaseOf? key = some .idle
  active : ∀ turn ∈ opening :: middle, turn.after.phaseOf? key ≠ some .idle
  rested : closing.after.phaseOf? key = some .idle

namespace Stretch

open Recognizer

variable {start : Recognizer} {calls : List (UInt32 × Call)} {key : Key} {opening closing : Turn}
  {middle : List Turn}

theorem forall_turns (stretch : Stretch start calls key opening middle closing)
    {holds : Turn → Prop} (each : ∀ turn ∈ start.turns calls, holds turn) :
    ∀ turn ∈ opening :: middle ++ [closing], holds turn := by
  obtain ⟨earlier, later, split⟩ := stretch.within
  intro turn member
  apply each
  rw [split]
  refine List.mem_append_right earlier ?_
  rcases List.mem_append.mp member with inside | last
  · exact List.mem_append_left _ inside
  · rw [List.mem_singleton.mp last]
    exact List.mem_append_right _ List.mem_cons_self

/-- The turns of a stretch before its last are a run, which starts with the key at rest. -/
theorem exists_run (stretch : Stretch start calls key opening middle closing) (sound : start.Sound) :
    opening.before.Sound ∧
      (∃ (slot : Slot) (index : Nat), opening.before.slots[index]? = some slot ∧ slot.key = key ∧
        slot.phase = .idle) ∧
      ∃ inside, inside ≠ [] ∧ opening.before.turns inside = opening :: middle ∧
        opening.before.run inside = closing.before := by
  obtain ⟨earlier, later, split⟩ := stretch.within
  obtain ⟨before, during, _, _, tail⟩ := exists_of_turns_eq_append split
  obtain ⟨inside, last, _, insideTurns, lastTurns⟩ := exists_of_turns_eq_append tail
  have starts : opening.before = start.run before := (exists_of_turns_eq_cons insideTurns).1
  rw [← starts] at insideTurns lastTurns
  refine ⟨?_, exists_of_phaseOf? stretch.idle, inside, ?_, insideTurns, ?_⟩
  · rw [starts]
    exact sound.run before
  · rintro rfl
    contradiction
  · exact (exists_of_turns_eq_cons lastTurns).1.symm

theorem exists_last (stretch : Stretch start calls key opening middle closing) (sound : start.Sound) :
    closing.before.Sound ∧
      ∃ (last : Slot) (index : Nat), closing.before.slots[index]? = some last ∧ last.key = key ∧
        last.phase ≠ .idle ∧
        ((∀ turn ∈ opening :: middle, turn.before.muted = false) →
          closing.before.chord.stage = .inactive → last.taps =
            tapsSinceHold (gesturesOf key ((opening :: middle).flatMap Turn.events))) := by
  obtain ⟨soundOpening, ⟨slot, index, place, rfl, idle⟩, inside, moved, insideTurns, ends⟩ :=
    stretch.exists_run sound
  have soundClosing : closing.before.Sound := ends ▸ soundOpening.run inside
  obtain ⟨last, placeLast, keyLast⟩ := place_through soundOpening place inside
  rw [ends] at placeLast
  have active := stretch.active
  rw [← insideTurns] at active
  refine ⟨soundClosing, last, index, placeLast, keyLast, ?_, ?_⟩
  · have activeLast := run_of_forall_after (fun reached => reached.phaseOf? slot.key ≠ some .idle)
      moved active
    rw [ends, ← keyLast, soundClosing.phaseOf?_eq placeLast] at activeLast
    simpa using activeLast
  · intro audible inactive
    rw [← insideTurns] at audible ⊢
    have untapped : slot.taps = tapsSinceHold [] :=
      (soundOpening.coherent slot (List.mem_of_getElem? place)).untapped idle
    obtain ⟨other, placeOther, _, counted⟩ :=
      taps_through soundOpening place (fun _ => untapped) audible active
    rw [ends, placeLast, Option.some.injEq] at placeOther
    subst placeOther
    rw [ends] at counted
    exact counted inactive

theorem tapped (stretch : Stretch start calls key opening middle closing) (sound : start.Sound)
    (audible : ∀ turn ∈ opening :: middle ++ [closing], turn.before.muted = false)
    (unchorded : closing.before.chord.stage = .inactive) :
    eventsNaming key closing.events =
      tapReport key (tapsSinceHold (gesturesOf key ((opening :: middle).flatMap Turn.events))) := by
  obtain ⟨soundClosing, last, index, place, rfl, active, counted⟩ := stretch.exists_last sound
  have reported := (soundClosing.tick_of_resting place active stretch.rested).2 unchorded
    (audible closing (by simp))
  rw [counted (fun turn member => audible turn (List.mem_append_left _ member)) unchorded] at reported
  exact reported

end Stretch

end KeyGesture
