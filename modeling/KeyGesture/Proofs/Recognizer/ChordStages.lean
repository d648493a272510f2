import KeyGesture.Proofs.Recognizer.Invariant
import KeyGesture.Proofs.Recognizer.Turns

namespace KeyGesture

/-! The stages of a chord, and what they let through. A chord opens, closes and ends in this order and by
nothing else; outside of the stage in which it is tracked every event is of one key. -/

namespace Recognizer

variable {recognizer : Recognizer} {slot : Slot} {index : Nat}

@[simp] theorem stage_acceptRelease (now : UInt32) :
    (recognizer.acceptRelease slot index now).value.chord.stage =
      if recognizer.chord.stage = .tracking then .closed else recognizer.chord.stage :=
  Chord.stage_leave _ _ _

theorem stage_of_register {key : Key} {channel number : Nat} {registered : Recognizer}
    (accepted : recognizer.register key channel = .ok (number, registered)) :
    registered.chord.stage = recognizer.chord.stage :=
  congrArg (·.chord.stage) (eq_of_register accepted)

/-- The keys that are down when one goes down are others. -/
theorem Sound.isEmpty_eq_false_iff (sound : recognizer.Sound)
    (place : recognizer.slots[index]? = some slot)
    (unmarked : recognizer.chord.down.contains index = false) :
    recognizer.chord.down.isEmpty = false ↔
      ∃ other ∈ recognizer.slots, other.isDown = true ∧ other.key ≠ slot.key := by
  have up : slot.isDown = false := (sound.contains_eq place).symm.trans unmarked
  rw [← Bool.not_eq_true, sound.isEmpty_iff, downCount, List.countP_eq_zero]
  simp only [not_forall, not_not, exists_prop]
  constructor
  · rintro ⟨other, member, down⟩
    refine ⟨other, member, down, fun same => ?_⟩
    obtain ⟨position, placeOther⟩ := List.getElem?_of_mem member
    obtain rfl := nodup_map_iff.mp sound.keysDistinct position index other slot placeOther place same
    rw [placeOther, Option.some.injEq] at place
    rw [place, up] at down
    contradiction
  · rintro ⟨other, member, down, _⟩
    exact ⟨other, member, down⟩

end Recognizer

open Recognizer

namespace Turn

variable {turn : Turn} {slot : Slot} {next : Stage}

theorem stage_of_tick (ticks : turn.call = .tick) : turn.after.chord.stage =
    if turn.after.allIdle then .inactive else turn.before.chord.stage := by
  obtain ⟨before, now, call⟩ := turn
  obtain rfl : call = .tick := ticks
  have settled : (before.tick now).value.2.allIdle = (before.advance now).allIdle := by
    rw [allIdle, allIdle, slots_tick]
    rfl
  change (before.tick now).value.2.chord.stage =
    if (before.tick now).value.2.allIdle then .inactive else before.chord.stage
  rw [settled, stage_tick]

theorem exists_slot_eq_single (untracked : turn.before.chord.stage ≠ .tracking) {event : Event}
    (reported : event ∈ turn.events) :
    ∃ slot ∈ turn.before.slots, ∃ gesture, event = .single slot.key gesture := by
  cases turn.course with
  | kept _ _ silent | registered _ silent =>
      rw [silent] at reported
      contradiction
  | @pressed slot presses =>
      obtain ⟨index, instant, place, _, _, told⟩ := presses.exists_accepted
      rw [told] at reported
      have listed := mem_events_of_report reported
      simp only [acceptPress] at listed
      split at listed
      · exact ⟨slot, List.mem_of_getElem? place, .press, List.mem_singleton.mp listed⟩
      · contradiction
  | @released slot releases =>
      obtain ⟨index, place, _, _, told⟩ := releases.exists_accepted
      rw [told] at reported
      have listed := mem_events_of_report reported
      simp only [acceptRelease, if_neg untracked] at listed
      rcases List.mem_cons.mp listed with first | second
      · exact ⟨slot, List.mem_of_getElem? place, .release, first⟩
      · exact ⟨slot, List.mem_of_getElem? place, _, List.mem_singleton.mp second⟩
  | ticked _ _ told =>
      rw [told] at reported
      have listed := mem_events_of_report reported
      simp only [tickEvents] at listed
      cases stage : turn.before.chord.stage with
      | inactive =>
          simp only [stage, singleFindings] at listed
          obtain ⟨slot, member, found⟩ := List.mem_flatMap.mp listed
          obtain ⟨gesture, _, rfl⟩ := List.mem_map.mp found
          exact ⟨slot, member, gesture, rfl⟩
      | tracking => exact absurd stage untracked
      | closed =>
          rw [stage] at listed
          contradiction

end Turn

/-- Two keys go down together and come up one after the other. -/
example :
    let calls : List (UInt32 × Call) := [(0, .register ⟨1, .io⟩ 5), (0, .register ⟨2, .touch⟩ 11),
      (0, .press 5 0), (20, .press 11 0), (100, .release 5), (150, .release 11), (500, .tick)]
    (turns {} calls).map (fun turn => turn.after.chord.stage) =
      [.inactive, .inactive, .inactive, .tracking, .closed, .closed, .inactive] := by
  decide

end KeyGesture
