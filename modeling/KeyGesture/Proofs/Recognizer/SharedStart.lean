import Mathlib.Data.List.DropRight
import KeyGesture.Proofs.Recognizer.RefusedEdges
import KeyGesture.Proofs.Recognizer.Registration
import KeyGesture.Proofs.Recognizer.Settling

namespace KeyGesture

/-! The start of a hold that is on record for a key that is up. A release clears it. But a press that makes
or joins a chord gives its own start to every key that is mid-gesture, and that includes the keys whose tap
window is open; what they are given then stays with them until their next release. -/

open Recognizer

/-- The start that a turn leaves with a key whose tap window is open: that of a press which is not refused
and after which a chord is tracked. -/
def Turn.sharedStart? (turn : Turn) (key : Key) : Option UInt32 :=
  match turn.call with
  | .press channel backdate =>
      if ¬ turn.before.Misfits (.press channel backdate) ∧ turn.after.chord.stage = .tracking ∧
          turn.before.phaseOf? key = some .lifted then
        some (turn.now - backdate)
      else none
  | .register _ _ | .setTiming _ | .release _ | .tick | .mute | .resume => none

/-- The last start that was left with a key since it last came up. -/
def lastSharedStart? (key : Key) (turns : List Turn) : Option UInt32 :=
  ((turns.rtakeWhile fun turn => !turn.isReleaseOf key).filterMap (·.sharedStart? key)).getLast?

theorem lastSharedStart?_concat (key : Key) (turns : List Turn) (turn : Turn) :
    lastSharedStart? key (turns ++ [turn]) = if turn.isReleaseOf key then none
      else (turn.sharedStart? key).or (lastSharedStart? key turns) := by
  rw [lastSharedStart?, List.rtakeWhile_concat]
  cases turn.isReleaseOf key with
  | true => rfl
  | false =>
      rw [Bool.not_false, if_pos rfl, List.filterMap_append, List.getLast?_append, lastSharedStart?]
      cases shared : turn.sharedStart? key <;> simp [shared]

namespace Recognizer

variable {recognizer after : Recognizer} {key : Key} {slot : Slot} {index : Nat}

/-- The start on record for a key; there is none for a key that is not registered. -/
def startOf (recognizer : Recognizer) (key : Key) : UInt32 :=
  ((recognizer.ofKey? key).map fun found => found.1.pressedAt).getD 0

/-- A key is found in the same slot after a change of the slots that leaves their keys alone. -/
theorem ofKey?_of_mapIdx {change : Nat → Slot → Slot}
    (changed : after.slots = recognizer.slots.mapIdx change)
    (keys : ∀ index slot, (change index slot).key = slot.key) :
    after.ofKey? key = (recognizer.ofKey? key).map fun found => (change found.2 found.1, found.2) := by
  have numbered : after.slots.zipIdx =
      recognizer.slots.zipIdx.map fun entry => (change entry.2 entry.1, entry.2) := by
    apply List.ext_getElem?
    intro index
    simp only [changed, List.getElem?_zipIdx, List.getElem?_mapIdx, List.getElem?_map, Option.map_map,
      Function.comp_def, Nat.zero_add]
  rw [ofKey?, locate?, numbered, List.find?_map, ofKey?, locate?]
  simp only [Function.comp_def, keys]

theorem startOf_tick (recognizer : Recognizer) (now : UInt32) :
    (recognizer.tick now).value.2.startOf key = recognizer.startOf key := by
  have ticked : (recognizer.tick now).value.2.slots =
      recognizer.slots.mapIdx fun _ slot => slot.tick recognizer.timing now := by
    rw [slots_tick]
    apply List.ext_getElem?
    intro index
    rw [List.getElem?_map, List.getElem?_mapIdx]
  have found : (recognizer.tick now).value.2.ofKey? key = _ :=
    ofKey?_of_mapIdx ticked fun _ slot => slot.key_tick _ _
  rw [startOf, found, startOf, Option.map_map]
  simp only [Function.comp_def, Slot.pressedAt_tick]

namespace Sound

theorem startOf_register (sound : recognizer.Sound) {registered : Recognizer} {added : Key}
    {channel number : Nat} (accepted : recognizer.register added channel = .ok (number, registered)) :
    registered.startOf key = recognizer.startOf key := by
  rw [startOf, startOf]
  by_cases own : key = added
  · subst own
    rcases sound.ofKey?_of_register accepted with ⟨slot, before, found⟩ | ⟨before, _, found⟩
    · rw [before, found]
      rfl
    · rw [before, found]
      rfl
  · rw [sound.ofKey?_of_register_of_ne accepted own]

theorem startOf_acceptRelease (sound : recognizer.Sound) (place : recognizer.slots[index]? = some slot)
    (now : UInt32) : (recognizer.acceptRelease slot index now).value.startOf key =
      if slot.key = key then 0 else recognizer.startOf key := by
  have found : (recognizer.acceptRelease slot index now).value.ofKey? key = _ :=
    ofKey?_of_mapIdx (recognizer.slots_acceptRelease slot index now) fun _ _ => by split <;> rfl
  rw [startOf, found]
  by_cases own : slot.key = key
  · subst own
    rw [ofKey?_of_getElem? sound.keysDistinct place]
    simp [Slot.lift]
  · rw [if_neg own, startOf]
    cases before : recognizer.ofKey? key with
    | none => rfl
    | some entry =>
        obtain ⟨placeOld, rfl⟩ := ofKey?_eq_some before
        have elsewhere : index ≠ entry.2 := by
          rintro same
          rw [← same, place, Option.some.injEq] at placeOld
          exact own (congrArg Slot.key placeOld)
        simp only [Option.map_some, if_neg elsewhere]

/-- What a press that is not refused leaves on record for a key that stays up. -/
theorem startOf_acceptPress (sound : recognizer.Sound) (place : recognizer.slots[index]? = some slot)
    (unmarked : recognizer.chord.down.contains index = false) (instant : UInt32)
    (up : (recognizer.acceptPress slot index instant).value.isDown key = false) :
    (recognizer.acceptPress slot index instant).value.startOf key =
      if (recognizer.acceptPress slot index instant).value.chord.stage = .tracking ∧
          recognizer.phaseOf? key = some .lifted then instant
      else recognizer.startOf key := by
  have found : (recognizer.acceptPress slot index instant).value.ofKey? key = _ :=
    ofKey?_of_mapIdx (recognizer.slots_acceptPress slot index instant) fun _ _ => by
      split_ifs <;> simp [Slot.press]
  obtain ⟨upBefore, unpressed⟩ : recognizer.isDown key = false ∧ slot.key ≠ key := by
    have downIff : _ ↔ recognizer.isDown key = true ∨ slot.key = key :=
      sound.isDown_acceptPress place unmarked instant
    simpa only [up, Bool.false_eq_true, false_iff, not_or, Bool.not_eq_true] using downIff
  rw [startOf, found, startOf, phaseOf?]
  cases before : recognizer.ofKey? key with
  | none => simp
  | some entry =>
      obtain ⟨placeOld, rfl⟩ := ofKey?_eq_some before
      have elsewhere : index ≠ entry.2 := by
        rintro same
        rw [← same, place, Option.some.injEq] at placeOld
        exact unpressed (congrArg Slot.key placeOld)
      have upOld : entry.1.isDown = false := (sound.isDown_eq placeOld).symm.trans upBefore
      have tracked : (recognizer.acceptPress slot index instant).value.chord.stage =
          (recognizer.chord.join index).stage := rfl
      simp only [Option.map_some, Option.getD_some, if_neg elsewhere, tracked, Option.some.injEq]
      by_cases tracking : (recognizer.chord.join index).stage = .tracking
      · rcases entry.1.idle_or_isDown_or_lifted with idle | down | lifted
        · simp [Slot.rebase, idle]
        · exact absurd (upOld.symm.trans down) (by simp)
        · simp [Slot.rebase, lifted, tracking]
      · simp [tracking]

end Sound

end Recognizer

namespace Turn

variable {turn : Turn} {key : Key}

theorem startOf_of_press (sound : turn.before.Sound) {channel : Nat} {backdate : UInt32}
    (pressing : turn.call = .press channel backdate) (up : turn.after.isDown key = false) :
    turn.after.startOf key = (turn.sharedStart? key).getD (turn.before.startOf key) := by
  obtain ⟨before, now, call⟩ := turn
  obtain rfl : call = .press channel backdate := pressing
  change (before.press now channel backdate).value.isDown key = false at up
  change (before.press now channel backdate).value.startOf key = _
  cases answered : before.press? now channel backdate with
  | error cause =>
      have misfits := (sound.refuses_press_iff now channel backdate).mp ⟨cause, answered⟩
      simp [press_of_error answered, sharedStart?, misfits, Outcome.quiet]
  | ok outcome =>
      obtain ⟨slot, index, found, unmarked, rfl⟩ := press?_eq_ok_iff.mp answered
      have fits : ¬ before.Misfits (.press channel backdate) := fun misfits => by
        obtain ⟨cause, refused⟩ := (sound.refuses_press_iff now channel backdate).mpr misfits
        rw [answered] at refused
        contradiction
      have after : (before.press now channel backdate).value =
          (before.acceptPress slot index (now - backdate)).value := by
        rw [press, answered, ignoreRefused, value_report]
      rw [after] at up ⊢
      rw [sound.startOf_acceptPress (atChannel?_eq_some found).1 unmarked _ up]
      have stage : (Turn.mk before now (.press channel backdate)).after = _ := after
      simp only [sharedStart?, fits, not_false_eq_true, true_and, stage]
      split <;> rfl

theorem startOf_of_release (sound : turn.before.Sound) {channel : Nat}
    (releasing : turn.call = .release channel) : turn.after.startOf key =
      if turn.isReleaseOf key then 0 else turn.before.startOf key := by
  obtain ⟨before, now, call⟩ := turn
  obtain rfl : call = .release channel := releasing
  change (before.release now channel).value.startOf key = _
  cases answered : before.release? now channel with
  | error cause =>
      have unreleased : ¬ (Turn.mk before now (.release channel)).isReleaseOf key = true := by
        rw [isReleaseOf_iff]
        rintro ⟨slot, ⟨_, _, outcome, ⟨⟩, _, accepted⟩, _⟩
        rw [answered] at accepted
        contradiction
      rw [if_neg unreleased, release_of_error answered, Outcome.quiet]
  | ok outcome =>
      obtain ⟨slot, index, found, marked, rfl⟩ := release?_eq_ok_iff.mp answered
      rw [release, answered, ignoreRefused, value_report,
        sound.startOf_acceptRelease (atChannel?_eq_some found).1]
      simp [isReleaseOf, found, marked]

theorem startOf_after (sound : turn.before.Sound) (up : turn.after.isDown key = false) :
    turn.after.startOf key = if turn.isReleaseOf key then 0
      else (turn.sharedStart? key).getD (turn.before.startOf key) := by
  cases called : turn.call with
  | press channel backdate =>
      have unreleased : turn.isReleaseOf key = false := by rw [isReleaseOf, called]
      rw [startOf_of_press sound called up, unreleased, if_neg (by simp)]
  | release channel =>
      have unshared : turn.sharedStart? key = none := by rw [sharedStart?, called]
      rw [startOf_of_release sound called, unshared, Option.getD_none]
  | register added channel =>
      simp only [isReleaseOf, sharedStart?, after, outcome, called, answer]
      cases answered : turn.before.register added channel with
      | error cause => rfl
      | ok accepted => exact sound.startOf_register answered
  | tick =>
      simp only [isReleaseOf, sharedStart?, after, outcome, called]
      exact startOf_tick _ _
  | setTiming | mute | resume =>
      simp only [isReleaseOf, sharedStart?, after, outcome, called]
      rfl

/-- A key that is up after a turn was up before it, unless the turn is its release. -/
theorem isDown_before_eq_false (sound : turn.before.Sound) (up : turn.after.isDown key = false)
    (unreleased : turn.isReleaseOf key = false) : turn.before.isDown key = false := by
  refine Bool.eq_false_iff.mpr fun down => ?_
  suffices still : turn.after.isDown key = true by simp [still] at up
  cases turn.course with
  | kept slots chord =>
      rw [isDown, ofKey?, locate?] at down ⊢
      rwa [slots, chord]
  | registered accepted => exact (sound.isDown_of_register accepted key).trans down
  | pressed presses =>
      obtain ⟨index, instant, place, unmarked, after, _⟩ := presses.exists_accepted
      rw [after, sound.isDown_acceptPress place unmarked]
      exact .inl down
  | @released slot releases =>
      obtain ⟨index, place, marked, after, _⟩ := releases.exists_accepted
      rw [after, sound.isDown_acceptRelease place marked]
      refine ⟨down, ?_⟩
      rintro rfl
      exact absurd (isReleaseOf_iff.mpr ⟨slot, releases, rfl⟩) (by simp [unreleased])
  | ticked _ after =>
      rw [after]
      exact (sound.isDown_tick turn.now).mpr down

end Turn

/-- The start on record for a key that is up is the last one that was left with it since it came up. -/
theorem startOf_run (key : Key) (calls : List (UInt32 × Call)) (up : (run {} calls).isDown key = false) :
    (run {} calls).startOf key = (lastSharedStart? key (turns {} calls)).getD 0 := by
  -- From the end, because a key that is up now was up before the last turn or was released by it.
  induction calls using List.reverseRecOn with
  | nil => rfl
  | append_singleton earlier moment ih =>
      obtain ⟨now, call⟩ := moment
      let turn : Turn := ⟨run {} earlier, now, call⟩
      have sound : turn.before.Sound := sound_fresh.run earlier
      rw [run_append] at up ⊢
      change turn.after.isDown key = false at up
      change turn.after.startOf key = _
      rw [turns_append]
      change _ = (lastSharedStart? key (turns {} earlier ++ [turn])).getD 0
      rw [Turn.startOf_after sound up, lastSharedStart?_concat]
      cases releasing : turn.isReleaseOf key with
      | true => rfl
      | false =>
          simp only [Bool.false_eq_true, if_false]
          rw [show turn.before.startOf key = _ from ih (Turn.isDown_before_eq_false sound up releasing)]
          cases turn.sharedStart? key <;> rfl

/-- The start told of a key that is up, idle or in its tap window, is the last one that a chord has left
with it since it came up, or zero if there is none. So it is zero exactly if no press has made or joined a
chord in the tap window after the key's last release, or the last that did began at zero itself. -/
theorem up_key_tells_last_shared_start {calls : List (UInt32 × Call)} {key : Key} {channel : Nat}
    (bound : (run {} calls).channelOf? key = some channel)
    (up : (run {} calls).phase? channel = some .idle ∨ (run {} calls).phase? channel = some .lifted) :
    let shared := lastSharedStart? key (turns {} calls)
    (run {} calls).pressedAt? channel = some (shared.getD 0) ∧
      ((run {} calls).pressedAt? channel = some 0 ↔ ∀ start, shared = some start → start = 0) := by
  intro shared
  have sound : (run {} calls).Sound := sound_fresh.run calls
  obtain ⟨⟨slot, index⟩, found, rfl⟩ := Option.map_eq_some_iff.mp bound
  obtain ⟨place, rfl⟩ := ofKey?_eq_some found
  have atChannel := atChannel?_of_getElem? sound.channelsDistinct place
  rw [phase?_of_atChannel? atChannel, Option.some.injEq, Option.some.injEq] at up
  have unpressed : (run {} calls).isDown slot.key = false := by
    rw [sound.isDown_eq place, Slot.isDown]
    rcases up with idle | lifted
    · rw [idle]
      rfl
    · rw [lifted]
      rfl
  have told : (run {} calls).pressedAt? slot.channel = some (shared.getD 0) := by
    have kept : (run {} calls).startOf slot.key = shared.getD 0 := startOf_run slot.key calls unpressed
    rw [← kept, pressedAt?, atChannel, startOf, found]
    rfl
  refine ⟨told, ?_⟩
  rw [told, Option.some.injEq]
  cases shared <;> simp

/-- The start that the chord of two other keys has left with a key in its tap window is still told when all
keys are idle. -/
theorem idle_key_tells_shared_start :
    let calls : List (UInt32 × Call) := [(0, .register ⟨1, .io⟩ 5), (0, .register ⟨2, .io⟩ 6),
      (0, .register ⟨3, .io⟩ 7), (10, .press 5 0), (20, .release 5), (30, .press 6 0), (40, .press 7 5),
      (50, .release 6), (60, .release 7), (400, .tick)]
    ((run {} calls).channelOf? ⟨1, .io⟩ = some 5 ∧ (run {} calls).phase? 5 = some .idle) ∧
      (run {} calls).pressedAt? 5 = some 35 := by
  intro calls
  have bound : (run {} calls).channelOf? ⟨1, .io⟩ = some 5 := by decide
  have idle : (run {} calls).phase? 5 = some .idle := by decide
  exact ⟨⟨bound, idle⟩, (up_key_tells_last_shared_start bound (.inl idle)).1.trans (by decide)⟩

/-- A key comes up, and two others go down while its tap window is open. -/
theorem lifted_key_tells_shared_start :
    let calls : List (UInt32 × Call) := [(0, .register ⟨1, .io⟩ 5), (0, .register ⟨2, .io⟩ 6),
      (0, .register ⟨3, .io⟩ 7), (10, .press 5 0), (20, .release 5), (30, .press 6 0), (40, .press 7 0)]
    (run {} calls).phase? 5 = some .lifted ∧ (run {} calls).pressedAt? 5 = some 40 ∧
      (run {} calls).pressedAt? 5 ≠ some 0 := by
  decide

end KeyGesture
