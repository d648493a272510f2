import Mathlib.Data.List.Induction
import KeyGesture.Proofs.Recognizer.Turns
import KeyGesture.Proofs.Recognizer.Invariant

namespace KeyGesture

/-! When ticks may stop. A tick finds everything settled once all keys are up and every tap window is over,
and from then on nothing happens before the next press. -/

/-- A release of the key that is not refused. -/
def Turn.isReleaseOf (turn : Turn) (key : Key) : Bool :=
  match turn.call with
  | .release channel =>
      (turn.before.atChannel? channel).any fun found =>
        found.1.key == key && turn.before.chord.down.contains found.2
  | .register _ _ | .setTiming _ | .press _ _ | .tick | .mute | .resume => false

/-- When the key last came up in the course of the turns. -/
def lastReleaseOf? (key : Key) (turns : List Turn) : Option UInt32 :=
  (turns.filter (·.isReleaseOf key)).getLast?.map Turn.now

namespace Slot

variable {slot : Slot} {timing : Timing}

theorem Coherent.phase_tick_eq_idle_iff (coherent : slot.Coherent) (now : UInt32) :
    (slot.tick timing now).phase = .idle ↔
      slot.isDown = false ∧
        ∀ released, slot.releasedAt = some released → timing.multiTap ≤ elapsed now released := by
  rcases slot.idle_or_isDown_or_lifted with idle | down | lifted
  · have unreleased : slot.releasedAt = none := by
      simpa [idle] using coherent.released
    rw [tick_of_idle now idle]
    simp [idle, isDown, unreleased]
  · have stays : (slot.tick timing now).phase ≠ .idle :=
      phase_ne_idle_of_isDown ((isDown_tick now).trans down)
    simp [stays, down]
  · obtain ⟨released, since⟩ := Option.isSome_iff_exists.mp (coherent.released.mpr lifted)
    rw [tick_of_lifted now lifted, windowOver, since, Option.any_some]
    by_cases past : timing.multiTap ≤ elapsed now released
    · have rested : slot.rest.phase = .idle := rfl
      simp [past, rested, isDown, lifted]
    · simp [past, lifted]

theorem eq_of_phase_tick_eq_lifted {now : UInt32} (lifted : (slot.tick timing now).phase = .lifted) :
    slot.tick timing now = slot := by
  rcases slot.idle_or_isDown_or_lifted with idle | down | lifts
  · exact tick_of_idle now idle
  · have stays : (slot.tick timing now).isDown = true := (isDown_tick now).trans down
    simp [isDown, lifted] at stays
  · rw [tick_of_lifted now lifts] at lifted ⊢
    by_cases past : slot.windowOver timing now = true
    · rw [if_pos past] at lifted
      contradiction
    · rw [if_neg past]

theorem Coherent.releasedAt_of_tick {now released : UInt32} (coherent : slot.Coherent)
    (since : (slot.tick timing now).releasedAt = some released) :
    slot.releasedAt = some released ∧ elapsed now released < timing.multiTap := by
  have lifted : (slot.tick timing now).phase = .lifted :=
    (coherent.tick now).released.mp (Option.isSome_of_eq_some since)
  have unmoved := eq_of_phase_tick_eq_lifted lifted
  rw [unmoved] at since lifted
  refine ⟨since, ?_⟩
  by_contra past
  have ended : (slot.tick timing now).phase = .idle := by
    rw [coherent.phase_tick_eq_idle_iff, since]
    exact ⟨by simp [isDown, lifted], by rintro _ ⟨⟩; omega⟩
  rw [unmoved, lifted] at ended
  contradiction

end Slot

open Recognizer

namespace Turn

variable {turn : Turn} {slot old : Slot} {key : Key}

theorem isReleaseOf_iff : turn.isReleaseOf key = true ↔ ∃ slot, turn.Releases slot ∧ slot.key = key := by
  obtain ⟨before, now, call⟩ := turn
  constructor
  · intro releasing
    cases call with
    | release channel =>
        simp only [isReleaseOf, Option.any_eq_true, Prod.exists, Bool.and_eq_true, beq_iff_eq] at releasing
        obtain ⟨slot, index, found, same, marked⟩ := releasing
        exact ⟨slot, ⟨channel, index, _, rfl, found,
          release?_eq_ok_iff.mpr ⟨slot, index, found, marked, rfl⟩⟩, same⟩
    | register | setTiming | press | tick | mute | resume => contradiction
  · rintro ⟨slot, ⟨channel, index, outcome, rfl, found, accepted⟩, rfl⟩
    obtain ⟨_, _, located, marked, _⟩ := release?_eq_ok_iff.mp accepted
    simp only [found, Option.some.injEq, Prod.mk.injEq] at located
    obtain ⟨rfl, rfl⟩ := located
    simp only [isReleaseOf, found, Option.any_some, BEq.rfl, marked, Bool.and_self]

theorem releasedAt_of_releases (sound : turn.before.Sound) (releases : turn.Releases old)
    (member : slot ∈ turn.after.slots) (same : old.key = slot.key) : slot.releasedAt = some turn.now := by
  obtain ⟨index, place, _, after, _⟩ := releases.exists_accepted
  rw [after, slots_acceptRelease] at member
  obtain ⟨other, bound, rfl⟩ := List.mem_mapIdx.mp member
  split
  · rfl
  · rename_i unchosen
    rw [if_neg unchosen] at same
    have listed := List.getElem?_eq_getElem bound
    exact absurd (nodup_map_iff.mp sound.keysDistinct index other old _ place listed same) unchosen

/-- A tap window that is open after a turn, and was not opened by it, was open before. -/
theorem exists_lifted_before (turn : Turn) : ∀ slot ∈ turn.after.slots, slot.phase = .lifted →
    (∀ old, turn.Releases old → old.key ≠ slot.key) →
      ∃ old ∈ turn.before.slots, old.key = slot.key ∧ old.phase = .lifted ∧
        old.releasedAt = slot.releasedAt := by
  have itself : ∀ slot ∈ turn.before.slots, slot.phase = .lifted →
      ∃ old ∈ turn.before.slots, old.key = slot.key ∧ old.phase = .lifted ∧
        old.releasedAt = slot.releasedAt :=
    fun slot member lifted => ⟨slot, member, rfl, lifted, rfl⟩
  cases turn.course with
  | kept slots =>
      rw [slots]
      exact fun slot member lifted _ => itself slot member lifted
  | registered accepted =>
      intro slot member lifted _
      rcases mem_slots_of_register accepted member with ⟨old, listed, _, rfl⟩ | rfl
      · exact itself old listed lifted
      · contradiction
  | pressed presses =>
      obtain ⟨index, instant, _, _, after, _⟩ := presses.exists_accepted
      rw [after, slots_acceptPress]
      apply forall_mem_mapIdx
      intro other old place
      split
      · exact fun pressed => absurd pressed (by simp [Slot.press])
      · split
        · simpa using fun lifted _ => itself old (List.mem_of_getElem? place) lifted
        · exact fun lifted _ => itself old (List.mem_of_getElem? place) lifted
  | @released released releases =>
      obtain ⟨index, place, _, after, _⟩ := releases.exists_accepted
      rw [after, slots_acceptRelease]
      apply forall_mem_mapIdx
      intro other old placeOther
      split
      · rename_i chosen
        rw [← chosen, place, Option.some.injEq] at placeOther
        exact fun _ unreleased => absurd (by rw [placeOther]; rfl) (unreleased released releases)
      · exact fun lifted _ => itself old (List.mem_of_getElem? placeOther) lifted
  | ticked _ after =>
      rw [after, slots_tick, List.forall_mem_map]
      intro old member lifted _
      have unmoved := Slot.eq_of_phase_tick_eq_lifted lifted
      rw [unmoved] at lifted ⊢
      exact itself old member lifted

end Turn

theorem lastReleaseOf?_concat (key : Key) (turns : List Turn) (turn : Turn) :
    lastReleaseOf? key (turns ++ [turn]) =
      if turn.isReleaseOf key then some turn.now else lastReleaseOf? key turns := by
  cases releasing : turn.isReleaseOf key <;> simp [lastReleaseOf?, releasing]

namespace Recognizer

variable {recognizer : Recognizer}

/-- A tap window has been open since the last release of its key. -/
theorem releasedAt_eq_lastReleaseOf? (calls : List (UInt32 × Call)) :
    ∀ slot ∈ (run {} calls).slots, slot.phase = .lifted →
      slot.releasedAt = lastReleaseOf? slot.key (turns {} calls) := by
  -- The last turn either is a release of the key or has left its window as it was.
  induction calls using List.reverseRecOn with
  | nil => simp [run]
  | append_singleton earlier moment ih =>
      obtain ⟨now, call⟩ := moment
      let turn : Turn := ⟨run {} earlier, now, call⟩
      have sound : turn.before.Sound := sound_fresh.run earlier
      rw [run_append, turns_append]
      change ∀ slot ∈ turn.after.slots, slot.phase = .lifted → slot.releasedAt =
        lastReleaseOf? slot.key (turns {} earlier ++ [turn])
      intro slot member lifted
      rw [lastReleaseOf?_concat]
      split
      · rename_i releasing
        obtain ⟨old, releases, same⟩ := Turn.isReleaseOf_iff.mp releasing
        exact Turn.releasedAt_of_releases sound releases member same
      · rename_i unreleasing
        have unreleased : ∀ old, turn.Releases old → old.key ≠ slot.key := fun old releases same =>
          unreleasing (Turn.isReleaseOf_iff.mpr ⟨old, releases, same⟩)
        obtain ⟨old, listed, sameKey, before, since⟩ :=
          turn.exists_lifted_before slot member lifted unreleased
        rw [← since, ← sameKey]
        exact ih old listed before

/-- A tap window is open that began at the given time. -/
def OpenSince (recognizer : Recognizer) (released : UInt32) : Prop :=
  ∃ slot ∈ recognizer.slots, slot.releasedAt = some released

theorem openSince_run_iff {calls : List (UInt32 × Call)} {released : UInt32} :
    (run {} calls).OpenSince released ↔ ∃ slot ∈ (run {} calls).slots, slot.phase = .lifted ∧
      lastReleaseOf? slot.key (turns {} calls) = some released := by
  constructor
  · rintro ⟨slot, member, since⟩
    have lifted := ((sound_fresh.run calls).coherent slot member).released.mp (Option.isSome_of_eq_some since)
    exact ⟨slot, member, lifted, (releasedAt_eq_lastReleaseOf? calls slot member lifted).symm.trans since⟩
  · rintro ⟨slot, member, lifted, last⟩
    exact ⟨slot, member, (releasedAt_eq_lastReleaseOf? calls slot member lifted).trans last⟩

theorem Sound.openSince_of_tick (sound : recognizer.Sound) {now released : UInt32}
    (since : (recognizer.tick now).value.2.OpenSince released) :
    recognizer.OpenSince released ∧ elapsed now released < recognizer.timing.multiTap := by
  obtain ⟨ticked, member, since⟩ := since
  rw [slots_tick] at member
  obtain ⟨slot, listed, rfl⟩ := List.mem_map.mp member
  obtain ⟨before, short⟩ := (sound.coherent slot listed).releasedAt_of_tick since
  exact ⟨⟨slot, listed, before⟩, short⟩

theorem Sound.allUp_iff (sound : recognizer.Sound) :
    recognizer.allUp = true ↔ ∀ slot ∈ recognizer.slots, slot.isDown = false := by
  rw [allUp, sound.isEmpty_iff, downCount, List.countP_eq_zero]
  simp only [Bool.not_eq_true]

theorem settled_iff_allIdle (now : UInt32) :
    (recognizer.tick now).value.1 = .settled ↔ (recognizer.advance now).allIdle = true := by
  rw [tick, value_report, wrapUp]
  split
  · simp_all
  · simp_all

theorem Sound.settled_iff (sound : recognizer.Sound) (now : UInt32) :
    (recognizer.tick now).value.1 = .settled ↔
      recognizer.allUp = true ∧
        ∀ released, recognizer.OpenSince released → recognizer.timing.multiTap ≤ elapsed now released := by
  rw [settled_iff_allIdle, allIdle_iff, sound.allUp_iff]
  have each : ∀ slot ∈ recognizer.slots, (slot.tick recognizer.timing now).phase = .idle ↔ _ :=
    fun slot member => (sound.coherent slot member).phase_tick_eq_idle_iff now
  simp only [advance, List.forall_mem_map]
  constructor
  · intro idle
    refine ⟨fun slot member => ((each slot member).mp (idle slot member)).1, ?_⟩
    rintro released ⟨slot, member, since⟩
    exact ((each slot member).mp (idle slot member)).2 released since
  · rintro ⟨up, past⟩ slot member
    exact (each slot member).mpr
      ⟨up slot member, fun released since => past released ⟨slot, member, since⟩⟩

structure AtRest (recognizer : Recognizer) : Prop where
  idle : ∀ slot ∈ recognizer.slots, slot.phase = .idle
  unchorded : recognizer.chord.stage = .inactive

theorem atRest_of_settled {now : UInt32} (settled : (recognizer.tick now).value.1 = .settled) :
    (recognizer.tick now).value.2.AtRest := by
  have idle := (settled_iff_allIdle now).mp settled
  refine ⟨?_, by rw [stage_tick, if_pos idle]⟩
  rw [slots_tick]
  exact allIdle_iff.mp idle

namespace AtRest

theorem allUp (atRest : recognizer.AtRest) (sound : recognizer.Sound) : recognizer.allUp = true := by
  refine sound.allUp_iff.mpr fun slot member => Bool.eq_false_iff.mpr fun down => ?_
  exact Slot.phase_ne_idle_of_isDown down (atRest.idle slot member)

theorem tick_eq (atRest : recognizer.AtRest) (now : UInt32) :
    recognizer.tick now = .quiet (.settled, recognizer) := by
  have still : recognizer.slots.map (fun slot => slot.tick recognizer.timing now) = recognizer.slots := by
    rw [List.map_congr_left fun slot member => Slot.tick_of_idle now (atRest.idle slot member), List.map_id']
  have advanced : recognizer.advance now = recognizer := by
    simp only [advance, still, atRest.unchorded, reduceCtorEq, if_false]
  have nothing : recognizer.tickEvents now = [] := by
    simp only [tickEvents, atRest.unchorded, singleFindings, List.flatMap_eq_nil_iff, List.map_eq_nil_iff]
    intro slot member
    simp only [Slot.found, atRest.idle slot member]
  rw [tick, advanced, nothing, wrapUp, if_pos (allIdle_iff.mpr atRest.idle), if_pos atRest.unchorded, report]
  split <;> rfl

theorem register {registered : Recognizer} {key : Key} {channel number : Nat} (atRest : recognizer.AtRest)
    (accepted : recognizer.register key channel = .ok (number, registered)) : registered.AtRest := by
  refine ⟨fun slot member => ?_, by rw [eq_of_register accepted]; exact atRest.unchorded⟩
  rcases mem_slots_of_register accepted member with ⟨old, listed, _, rfl⟩ | rfl
  · exact atRest.idle old listed
  · rfl

/-- Only a press that is not refused ends the rest. -/
theorem after_turn {turn : Turn} (atRest : turn.before.AtRest) (sound : turn.before.Sound)
    (unpressed : ∀ slot, ¬ turn.Presses slot) : turn.after.AtRest := by
  cases turn.course with
  | kept slots chord => exact ⟨by rw [slots]; exact atRest.idle, by rw [chord]; exact atRest.unchorded⟩
  | registered accepted => exact atRest.register accepted
  | pressed presses => exact absurd presses (unpressed _)
  | released releases =>
      obtain ⟨index, place, marked, _⟩ := releases.exists_accepted
      have down := (sound.contains_eq place).symm.trans marked
      exact absurd (atRest.idle _ (List.mem_of_getElem? place)) (Slot.phase_ne_idle_of_isDown down)
  | ticked _ after =>
      rw [after, atRest.tick_eq]
      exact atRest

theorem ticks_settled {start : Recognizer} (atRest : start.AtRest) (sound : start.Sound)
    {calls : List (UInt32 × Call)}
    (unpressed : ∀ turn ∈ start.turns calls, ∀ slot, ¬ turn.Presses slot) :
    ∀ turn ∈ start.turns calls, turn.call = .tick →
      turn.reply = .activity .settled ∧ turn.events = [] ∧ turn.after = turn.before := by
  induction calls generalizing start with
  | nil => simp [turns]
  | cons moment rest ih =>
      obtain ⟨now, call⟩ := moment
      simp only [turns, List.forall_mem_cons] at unpressed ⊢
      refine ⟨?_, ih (atRest.after_turn sound unpressed.1) (sound.answer now call) unpressed.2⟩
      rintro rfl
      simp only [Turn.reply, Turn.events, Turn.after, Turn.outcome, answer, atRest.tick_eq now]
      exact ⟨rfl, rfl, rfl⟩

end AtRest

end Recognizer

end KeyGesture
