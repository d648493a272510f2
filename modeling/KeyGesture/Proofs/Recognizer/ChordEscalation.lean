import KeyGesture.Proofs.Recognizer.ChordMembers

namespace KeyGesture

/-! The keys of a tracked chord escalate together. A press that joins a chord gives every key that is in
the middle of a gesture the same start of its hold and the same first tier to wait for, and from then on
each tick moves all that still escalate alike. -/

namespace Slot

variable {slot first second : Slot} {timing : Timing} {now : UInt32}

theorem phase_pressed_of_tick (pressed : (slot.tick timing now).phase = .pressed) :
    slot.phase = .pressed := by
  rcases slot.idle_or_isDown_or_lifted with idle | down | lifted
  · rwa [tick_of_idle now idle] at pressed
  · rw [tick_of_isDown now down, phase_advanceRepeat, escalate] at pressed
    cases escalates : slot.escalation? timing now with
    | none => rwa [escalates] at pressed
    | some tier => exact phase_pressed_of_escalation? escalates
  · rw [tick_of_lifted now lifted] at pressed
    split at pressed
    · contradiction
    · exact pressed

/-- Holds that started together and wait for the same tier. -/
structure InStep (first second : Slot) : Prop where
  pressedAt : first.pressedAt = second.pressedAt
  nextHold : first.nextHold = second.nextHold

namespace InStep

theorem escalation? (inStep : first.InStep second) (pressed : first.phase = .pressed)
    (pressedToo : second.phase = .pressed) (timing : Timing) (now : UInt32) :
    first.escalation? timing now = second.escalation? timing now := by
  simp only [Slot.escalation?, Slot.hold, pressed, pressedToo, inStep.pressedAt, inStep.nextHold]

theorem tick (inStep : first.InStep second) (pressed : first.phase = .pressed)
    (pressedToo : second.phase = .pressed) :
    (first.tick timing now).InStep (second.tick timing now) := by
  have escalates := inStep.escalation? pressed pressedToo timing now
  rw [tick_of_isDown now (isDown_iff.mpr (.inl pressed)),
    tick_of_isDown now (isDown_iff.mpr (.inl pressedToo))]
  refine ⟨by simpa using inStep.pressedAt, ?_⟩
  rw [nextHold_advanceRepeat, nextHold_advanceRepeat, escalate, escalate, escalates]
  cases second.escalation? timing now with
  | none => exact inStep.nextHold
  | some tier =>
      cases tier with
      | long | veryLong => rfl
      | veryVeryLong => exact inStep.nextHold

end InStep

end Slot

namespace Recognizer

variable {recognizer : Recognizer}

def InStep (recognizer : Recognizer) : Prop :=
  ∀ first ∈ recognizer.slots, ∀ second ∈ recognizer.slots,
    first.phase = .pressed → second.phase = .pressed → first.InStep second

theorem inStep_of_shared (instant : UInt32) (hold : Nat)
    (shared : ∀ slot ∈ recognizer.slots, slot.phase = .pressed →
      slot.pressedAt = instant ∧ slot.nextHold = hold) : recognizer.InStep := by
  intro first member second memberToo pressed pressedToo
  obtain ⟨started, waits⟩ := shared first member pressed
  obtain ⟨startedToo, waitsToo⟩ := shared second memberToo pressedToo
  exact ⟨started.trans startedToo.symm, waits.trans waitsToo.symm⟩

theorem InStep.register {key : Key} {channel number : Nat} {registered : Recognizer}
    (inStep : recognizer.InStep)
    (accepted : recognizer.register key channel = .ok (number, registered)) : registered.InStep := by
  -- Every slot after it that is pressed has the hold of one before it.
  have kept : ∀ slot ∈ registered.slots, slot.phase = .pressed → ∃ old ∈ recognizer.slots,
      old.phase = .pressed ∧ old.pressedAt = slot.pressedAt ∧ old.nextHold = slot.nextHold := by
    intro slot member pressed
    rcases mem_slots_of_register accepted member with ⟨old, listed, _, rfl⟩ | rfl
    · exact ⟨old, listed, pressed, rfl, rfl⟩
    · contradiction
  intro first member second memberToo pressed pressedToo
  obtain ⟨old, listed, down, started, waits⟩ := kept first member pressed
  obtain ⟨oldToo, listedToo, downToo, startedToo, waitsToo⟩ := kept second memberToo pressedToo
  have before := inStep old listed oldToo listedToo down downToo
  exact ⟨started.symm.trans (before.pressedAt.trans startedToo),
    waits.symm.trans (before.nextHold.trans waitsToo)⟩

theorem inStep_acceptPress {slot : Slot} {index : Nat} {instant : UInt32}
    (tracking : (recognizer.acceptPress slot index instant).value.chord.stage = .tracking) :
    (recognizer.acceptPress slot index instant).value.InStep := by
  have joined : (recognizer.chord.join index).stage = .tracking := tracking
  apply inStep_of_shared instant recognizer.timing.long
  rw [slots_acceptPress]
  apply forall_mem_mapIdx
  intro other old placeOther
  split
  · exact fun _ => ⟨rfl, rfl⟩
  · rw [Slot.rebase]
    split
    · rename_i idle
      intro pressed
      rw [idle] at pressed
      contradiction
    · exact fun _ => ⟨rfl, rfl⟩

theorem InStep.tick (inStep : recognizer.InStep) (now : UInt32) :
    (recognizer.tick now).value.2.InStep := by
  intro first member second memberToo pressed pressedToo
  rw [slots_tick] at member memberToo
  obtain ⟨old, listed, rfl⟩ := List.mem_map.mp member
  obtain ⟨oldToo, listedToo, rfl⟩ := List.mem_map.mp memberToo
  have down := Slot.phase_pressed_of_tick pressed
  have downToo := Slot.phase_pressed_of_tick pressedToo
  exact (inStep old listed oldToo listedToo down downToo).tick down downToo

end Recognizer

open Recognizer

theorem Turn.inStep_after (turn : Turn)
    (before : turn.before.chord.stage = .tracking → turn.before.InStep)
    (tracking : turn.after.chord.stage = .tracking) : turn.after.InStep := by
  cases turn.course with
  | kept slots chord =>
      rw [chord] at tracking
      rw [Recognizer.InStep, slots]
      exact before tracking
  | registered accepted => exact (before ((stage_of_register accepted).symm.trans tracking)).register accepted
  | pressed presses =>
      obtain ⟨index, instant, _, _, pressed, _⟩ := presses.exists_accepted
      rw [pressed] at tracking ⊢
      exact inStep_acceptPress tracking
  | released releases =>
      obtain ⟨index, _, _, released, _⟩ := releases.exists_accepted
      rw [released, stage_acceptRelease] at tracking
      split at tracking <;> contradiction
  | ticked ticks after =>
      rw [stage_of_tick ticks] at tracking
      split at tracking
      · contradiction
      · rw [after]
        exact (before tracking).tick turn.now

namespace Recognizer

variable {recognizer : Recognizer}

theorem inStep_of_tracking (calls : List (UInt32 × Call))
    (tracking : (run {} calls).chord.stage = .tracking) : (run {} calls).InStep :=
  run_preserves (fun reached => reached.chord.stage = .tracking → reached.InStep)
    (fun recognizer now call before => Turn.inStep_after ⟨recognizer, now, call⟩ before)
    (by simp [Chord.fresh]) calls tracking

theorem map_fst_escalations (now : UInt32) : (recognizer.escalations now).map Prod.fst =
    placesWhere (fun slot => (slot.escalation? recognizer.timing now).isSome) recognizer.slots := by
  rw [escalations, List.map_filterMap, placesWhere, ← List.filterMap_eq_map, List.filterMap_filter]
  apply List.filterMap_congr
  rintro ⟨slot, index⟩ _
  cases escalates : slot.escalation? recognizer.timing now <;> simp [escalates]

theorem tickEvents_of_tracking (tracking : recognizer.chord.stage = .tracking) (now : UInt32) :
    recognizer.tickEvents now =
      ((recognizer.escalations now).head?.map fun entry =>
        (recognizer.advance now).chordEvent entry.2).toList := by
  have members : (recognizer.advance now).chord.members =
      .collect (recognizer.escalations now) := by
    simp only [advance, tracking, if_true]
  have first : (recognizer.advance now).chord.members.firstGesture? =
      (recognizer.escalations now).head?.map Prod.snd := by
    rw [members, Members.firstGesture?, Members.entries_collect, List.head?_take]
    rfl
  simp only [tickEvents, tracking, first, Option.map_map]
  rfl

/-- The members of a chord that escalates are the slots that do. -/
theorem Sound.chordEvent_advance (sound : recognizer.Sound)
    (tracking : recognizer.chord.stage = .tracking) (now : UInt32) (gesture : Gesture) :
    (recognizer.advance now).chordEvent gesture = ⟨gesture, recognizer.keysWhere fun slot =>
      (slot.escalation? recognizer.timing now).isSome⟩ := by
  refine sound.chordEvent_eq ?_ ?_ gesture
  · simp [advance, Function.comp_def]
  · rw [← map_fst_escalations]
    simp only [advance, tracking, if_true, Members.indices_collect]

/-- A tick of a tracked chord: either no key escalates, or all that are pressed do to the same tier. -/
theorem Sound.tickEvents_of_inStep (sound : recognizer.Sound) (inStep : recognizer.InStep)
    (tracking : recognizer.chord.stage = .tracking) (now : UInt32) :
    recognizer.tickEvents now = [] ∧
        (∀ slot ∈ recognizer.slots, slot.escalation? recognizer.timing now = none) ∨
      ∃ tier, recognizer.tickEvents now =
          [⟨.held tier, recognizer.keysWhere fun slot => slot.phase == .pressed⟩] ∧
        (∃ slot ∈ recognizer.slots, slot.phase = .pressed) ∧
        ∀ slot ∈ recognizer.slots, slot.phase = .pressed →
          slot.escalation? recognizer.timing now = some tier := by
  rw [tickEvents_of_tracking tracking]
  cases listed : recognizer.escalations now with
  | nil =>
      refine .inl ⟨rfl, fun slot member => ?_⟩
      obtain ⟨index, place⟩ := List.getElem?_of_mem member
      have unlisted := List.filterMap_eq_nil_iff.mp listed (slot, index)
        (List.mk_mem_zipIdx_iff_getElem?.mpr place)
      simpa using unlisted
  | cons entry rest =>
      obtain ⟨⟨first, index⟩, placed, found⟩ :=
        List.mem_filterMap.mp (listed ▸ List.mem_cons_self : entry ∈ recognizer.escalations now)
      have member : first ∈ recognizer.slots :=
        List.mem_of_getElem? (List.mk_mem_zipIdx_iff_getElem?.mp placed)
      obtain ⟨tier, escalates, rfl⟩ := Option.map_eq_some_iff.mp found
      have pressed := Slot.phase_pressed_of_escalation? escalates
      have together : ∀ slot ∈ recognizer.slots, slot.phase = .pressed →
          slot.escalation? recognizer.timing now = some tier := by
        intro slot memberToo pressedToo
        have alike := inStep slot memberToo first member pressedToo pressed
        exact (alike.escalation? pressedToo pressed recognizer.timing now).trans escalates
      have members : recognizer.keysWhere (fun slot =>
          (slot.escalation? recognizer.timing now).isSome) =
            recognizer.keysWhere fun slot => slot.phase == .pressed := by
        apply keysWhere_congr
        intro slot memberToo
        by_cases pressedToo : slot.phase = .pressed
        · simp [together slot memberToo pressedToo, pressedToo]
        · simp [Slot.escalation?, pressedToo]
      refine .inr ⟨tier, ?_, ⟨first, member, pressed⟩, together⟩
      rw [List.head?_cons, Option.map_some, sound.chordEvent_advance tracking, members]
      rfl

/-- While a chord is tracked, all keys whose hold still escalates share its start and wait for the same
tier. So a tick, under any timing and at any reading of the clock, reports nothing as long as the hold
they share is not up, and else all of them at the one tier they have reached, and nothing more; the keys
that are parked are not among them. -/
theorem tracked_chord_escalates_as_one {calls : List (UInt32 × Call)}
    (tracking : (run {} calls).chord.stage = .tracking) :
    let reached := run {} calls
    let members := reached.keysWhere fun slot => slot.phase == .pressed
    (∀ first ∈ reached.slots, ∀ second ∈ reached.slots,
      first.phase = .pressed → second.phase = .pressed →
        first.pressedAt = second.pressedAt ∧ first.nextHold = second.nextHold) ∧
      (∀ slot ∈ reached.slots, slot.key ∈ members ↔ slot.phase = .pressed) ∧
      ∀ now, reached.muted = false →
        (reached.tick now).events = [] ∧
            (∀ slot ∈ reached.slots, slot.phase = .pressed →
              slot.hold now < slot.nextHold ∨ reached.timing.tier? (slot.hold now) = none) ∨
          ∃ tier, (reached.tick now).events = [⟨.held tier, members⟩] ∧ members ≠ [] ∧
            ∀ slot ∈ reached.slots, slot.phase = .pressed →
              slot.nextHold ≤ slot.hold now ∧ reached.timing.tier? (slot.hold now) = some tier := by
  intro reached members
  have sound : reached.Sound := sound_fresh.run calls
  have inStep : reached.InStep := inStep_of_tracking calls tracking
  have named : ∀ slot ∈ reached.slots, slot.key ∈ members ↔ slot.phase = .pressed := by
    intro slot member
    rw [sound.key_mem_keysWhere_iff member, beq_iff_eq]
  refine ⟨?_, named, ?_⟩
  · intro first member second memberToo pressed pressedToo
    have alike := inStep first member second memberToo pressed pressedToo
    exact ⟨alike.pressedAt, alike.nextHold⟩
  · intro now audible
    have reported : (reached.tick now).events = reached.tickEvents now := by
      rw [tick, report_of_audible audible]
    rw [reported]
    rcases sound.tickEvents_of_inStep inStep tracking now with
      ⟨silent, waiting⟩ | ⟨tier, told, ⟨slot, member, pressed⟩, together⟩
    · refine .inl ⟨silent, fun slot member pressed => ?_⟩
      have unmoved := waiting slot member
      simp only [Slot.escalation?, pressed, true_and] at unmoved
      split at unmoved
      · exact .inr unmoved
      · rename_i early
        exact .inl (Nat.lt_of_not_le early)
    · refine .inr ⟨tier, told, List.ne_nil_of_mem ((named slot member).mpr pressed), ?_⟩
      intro other memberOther pressedOther
      have moved := together other memberOther pressedOther
      simp only [Slot.escalation?, pressedOther, true_and] at moved
      split at moved
      · rename_i due
        exact ⟨due, moved⟩
      · contradiction

/-- A key that is parked and two that have joined it later: only these escalate, under thresholds that
were lowered after they had gone down. -/
theorem tracked_chord_escalates_without_parked :
    let calls : List (UInt32 × Call) := [(0, .register ⟨1, .io⟩ 5), (0, .register ⟨2, .touch⟩ 11),
      (0, .register ⟨3, .external⟩ 7), (0, .press 5 0), (8000, .tick), (9000, .press 11 0),
      (9400, .press 7 100), (9500, .setTiming { long := 200, veryLong := 1500 })]
    let reached := run {} calls
    reached.chord.stage = .tracking ∧
      reached.slots.map Slot.phase = [.parked, .pressed, .pressed] ∧
      (reached.tick 10000).events = [] ∧
      (reached.tick 10800).events = [⟨.held .veryLong, [⟨2, .touch⟩, ⟨3, .external⟩]⟩] := by
  intro calls reached
  have tracking : reached.chord.stage = .tracking := by decide
  obtain ⟨_, _, ticks⟩ := tracked_chord_escalates_as_one tracking
  let joined : Slot :=
    { Slot.fresh ⟨2, .touch⟩ 11 with phase := .pressed, pressedAt := 9300, nextHold := 1500 }
  have member : joined ∈ reached.slots := by decide
  refine ⟨tracking, by decide, ?_, ?_⟩
  · rcases ticks 10000 (by decide) with ⟨silent, _⟩ | ⟨_, _, _, due⟩
    · exact silent
    · exact absurd (due joined member rfl).1 (by decide)
  · rcases ticks 10800 (by decide) with ⟨_, early⟩ | ⟨tier, told, _, due⟩
    · exact absurd (early joined member rfl) (by decide)
    · have highest : reached.timing.tier? (joined.hold 10800) = some .veryLong := by decide
      have found := (due joined member rfl).2
      rw [highest, Option.some.injEq] at found
      rw [told, ← found]
      decide

end Recognizer

end KeyGesture
