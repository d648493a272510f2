import KeyGesture.Proofs.Recognizer.Invariant

namespace KeyGesture

/-! One key of a recognizer: the events that name it, and what a call does to its slot. While there is no
chord the key goes its own way, and a call reports of it what its slot says alone. -/

def eventsNaming (key : Key) (events : List Event) : List Event :=
  events.filter (·.contains key)

def gesturesOf (key : Key) (events : List Event) : List Gesture :=
  (eventsNaming key events).map Event.gesture

variable {key : Key}

theorem eventsNaming_append (first second : List Event) :
    eventsNaming key (first ++ second) = eventsNaming key first ++ eventsNaming key second :=
  List.filter_append first second

@[simp] theorem gesturesOf_append (first second : List Event) :
    gesturesOf key (first ++ second) = gesturesOf key first ++ gesturesOf key second := by
  rw [gesturesOf, eventsNaming_append, List.map_append]
  rfl

@[simp] theorem gesturesOf_nil : gesturesOf key [] = [] := rfl

theorem mem_gesturesOf {events : List Event} {gesture : Gesture}
    (reported : gesture ∈ gesturesOf key events) :
    ∃ event ∈ events, key ∈ event.keys ∧ event.gesture = gesture := by
  obtain ⟨event, named, rfl⟩ := List.mem_map.mp reported
  obtain ⟨member, contained⟩ := List.mem_filter.mp named
  exact ⟨event, member, by simpa [Event.contains] using contained, rfl⟩

theorem mem_gesturesOf_flatMap {α : Type} {items : List α} {events : α → List Event} {gesture : Gesture} :
    gesture ∈ gesturesOf key (items.flatMap events) ↔
      ∃ item ∈ items, gesture ∈ gesturesOf key (events item) := by
  induction items with
  | nil => simp
  | cons head rest ih => simp [ih]

theorem eventsNaming_map_single (gestures : List Gesture) :
    eventsNaming key (gestures.map (.single key)) = gestures.map (.single key) := by
  rw [eventsNaming, List.filter_eq_self]
  intro event member
  obtain ⟨gesture, _, rfl⟩ := List.mem_map.mp member
  simp [Event.contains, Event.single]

theorem eventsNaming_map_single_of_ne {other : Key} (different : other ≠ key)
    (gestures : List Gesture) : eventsNaming key (gestures.map (.single other)) = [] := by
  rw [eventsNaming, List.filter_eq_nil_iff]
  intro event member
  obtain ⟨gesture, _, rfl⟩ := List.mem_map.mp member
  simpa [Event.contains, Event.single] using different.symm

theorem gesturesOf_eq_of_eventsNaming {events : List Event} {gestures : List Gesture}
    (named : eventsNaming key events = gestures.map (.single key)) :
    gesturesOf key events = gestures := by
  rw [gesturesOf, named, List.map_map]
  exact List.map_id gestures

/-- Where keys are distinct, the events that name one of them are those of its own slot. -/
theorem eventsNaming_flatMap {slots : List Slot} {slot : Slot} (report : Slot → List Gesture)
    (distinct : (slots.map Slot.key).Nodup) (member : slot ∈ slots) :
    eventsNaming slot.key (slots.flatMap fun slot => (report slot).map (.single slot.key)) =
      (report slot).map (.single slot.key) := by
  induction slots with
  | nil => contradiction
  | cons head rest ih =>
      rw [List.map_cons, List.nodup_cons] at distinct
      rw [List.flatMap_cons, eventsNaming_append]
      rcases List.mem_cons.mp member with rfl | later
      · have others : eventsNaming slot.key
            (rest.flatMap fun slot => (report slot).map (.single slot.key)) = [] := by
          rw [eventsNaming, List.filter_eq_nil_iff]
          intro event reported
          obtain ⟨other, listed, found⟩ := List.mem_flatMap.mp reported
          obtain ⟨gesture, _, rfl⟩ := List.mem_map.mp found
          intro contained
          have same : slot.key = other.key := by simpa [Event.contains, Event.single] using contained
          exact distinct.1 (List.mem_map.mpr ⟨other, listed, same.symm⟩)
        rw [eventsNaming_map_single, others, List.append_nil]
      · have different : head.key ≠ slot.key := fun same =>
          distinct.1 (List.mem_map.mpr ⟨slot, later, same.symm⟩)
        rw [eventsNaming_map_single_of_ne different, List.nil_append]
        exact ih distinct.2 later

namespace Members

theorem entries_foldl_record (found : List (Nat × Gesture)) (members : Members)
    (fits : members.entries.length ≤ maxKeys) :
    (found.foldl (fun members entry => members.record entry.1 entry.2) members).entries =
      (members.entries ++ found).take maxKeys := by
  induction found generalizing members with
  | nil => simp [List.take_of_length_le fits]
  | cons entry rest ih =>
      rw [List.foldl_cons, ih _ (size_record_le fits)]
      rw [record]
      split
      · simp
      · have full : members.entries.length = maxKeys := by omega
        rw [List.take_append_of_le_length (by omega), List.take_append_of_le_length (by omega)]

theorem entries_collect (found : List (Nat × Gesture)) :
    (collect found).entries = found.take maxKeys := by
  simpa [collect, empty] using entries_foldl_record found empty (by simp [empty])

end Members

/-- What a call at `now`, which leaves the chord at a stage, makes of a slot, and what it finds the key
to do. -/
inductive KeyStep (timing : Timing) (now : UInt32) (stage : Stage) (slot : Slot) :
    Call → List Gesture → Slot → Prop where
  | kept (call : Call) (unticked : call ≠ .tick) (channel : Nat) :
      KeyStep timing now stage slot call [] { slot with channel }
  | rebased (channel : Nat) (backdate : UInt32) (tracked : stage = .tracking) :
      KeyStep timing now stage slot (.press channel backdate) []
        (slot.rebase timing (now - backdate))
  | pressed (channel : Nat) (backdate : UInt32) (up : slot.isDown = false) :
      KeyStep timing now stage slot (.press channel backdate) [.press]
        (slot.press timing (now - backdate))
  | lifted (channel : Nat) (down : slot.isDown = true) :
      KeyStep timing now stage slot (.release channel)
        [.release, timing.releaseGesture (slot.hold now)]
        (slot.lift now (timing.releaseGesture (slot.hold now)))
  | ticked :
      KeyStep timing now stage slot .tick (slot.found timing now) (slot.tick timing now)

theorem KeyStep.key_eq {timing : Timing} {now : UInt32} {stage : Stage} {slot next : Slot} {call : Call}
    {gestures : List Gesture} (step : KeyStep timing now stage slot call gestures next) :
    next.key = slot.key := by
  cases step with
  | kept | pressed | lifted => rfl
  | rebased => simp
  | ticked => simp

/-- While a key stays down and no chord is tracked, only ticks move its gesture on. -/
theorem KeyStep.kept_of_isDown {timing : Timing} {now : UInt32} {stage : Stage} {slot next : Slot}
    {call : Call} {gestures : List Gesture} (step : KeyStep timing now stage slot call gestures next)
    (unticked : call ≠ .tick) (untracked : stage ≠ .tracking) (down : slot.isDown = true)
    (stays : next.isDown = true) : gestures = [] ∧ ∃ channel, next = { slot with channel } := by
  cases step with
  | kept _ _ channel => exact ⟨rfl, channel, rfl⟩
  -- Only a tracked chord moves the start of a hold.
  | rebased channel backdate tracked => exact absurd tracked untracked
  | pressed channel backdate up => exact absurd (up.symm.trans down) (by simp)
  | lifted => contradiction
  | ticked => contradiction

namespace Recognizer

variable {recognizer : Recognizer} {slot : Slot} {index : Nat}

theorem report_of_audible {α : Type} (audible : recognizer.muted = false) (outcome : Outcome α) :
    recognizer.report outcome = outcome := by
  simp [report, audible]

namespace Sound

theorem key_ne (sound : recognizer.Sound) {other : Slot} {position : Nat}
    (place : recognizer.slots[index]? = some slot)
    (placeOther : recognizer.slots[position]? = some other) (apart : position ≠ index) :
    other.key ≠ slot.key := fun same =>
  apart (nodup_map_iff.mp sound.keysDistinct position index other slot placeOther place same)

theorem keyStep_press (sound : recognizer.Sound) (place : recognizer.slots[index]? = some slot)
    (now : UInt32) (channel : Nat) (backdate : UInt32) :
    ∃ gestures next, (recognizer.press now channel backdate).value.slots[index]? = some next ∧
      KeyStep recognizer.timing now (recognizer.press now channel backdate).value.chord.stage slot
        (.press channel backdate) gestures next ∧
      (recognizer.chord.stage = .inactive → recognizer.muted = false →
        eventsNaming slot.key (recognizer.press now channel backdate).events =
          gestures.map (.single slot.key)) := by
  rcases recognizer.press_refused_or_accepted now channel backdate with
    refused | ⟨other, position, placeOther, _, unmarked, accepted⟩
  · rw [refused]
    exact ⟨[], slot, place, .kept _ (by simp) slot.channel, fun _ _ => rfl⟩
  · rw [accepted, value_report, slots_acceptPress, List.getElem?_mapIdx, place, Option.map_some]
    by_cases chosen : position = index
    · subst chosen
      rw [place, Option.some.injEq] at placeOther
      subst placeOther
      have up : slot.isDown = false := (sound.contains_eq place).symm.trans unmarked
      rw [if_pos rfl]
      refine ⟨[.press], _, rfl, .pressed channel backdate up, ?_⟩
      intro inactive audible
      rw [report_of_audible audible]
      simp only [Recognizer.acceptPress, inactive, if_true]
      exact eventsNaming_map_single [.press]
    · rw [if_neg chosen]
      refine ⟨[], _, rfl, ?_, ?_⟩
      · split
        · rename_i tracking
          exact .rebased channel backdate tracking
        · exact .kept _ (by simp) slot.channel
      · intro inactive audible
        rw [report_of_audible audible]
        simp only [Recognizer.acceptPress, inactive, if_true]
        exact eventsNaming_map_single_of_ne (sound.key_ne place placeOther chosen) [.press]

theorem keyStep_release (sound : recognizer.Sound) (place : recognizer.slots[index]? = some slot)
    (now : UInt32) (channel : Nat) (stage : Stage) :
    ∃ gestures next, (recognizer.release now channel).value.slots[index]? = some next ∧
      KeyStep recognizer.timing now stage slot (.release channel) gestures next ∧
      (recognizer.chord.stage = .inactive → recognizer.muted = false →
        eventsNaming slot.key (recognizer.release now channel).events =
          gestures.map (.single slot.key)) := by
  rcases recognizer.release_refused_or_accepted now channel with
    refused | ⟨other, position, placeOther, _, marked, accepted⟩
  · rw [refused]
    exact ⟨[], slot, place, .kept _ (by simp) slot.channel, fun _ _ => rfl⟩
  · rw [accepted, value_report, slots_acceptRelease, List.getElem?_mapIdx, place, Option.map_some]
    have untracked : recognizer.chord.stage = .inactive → recognizer.chord.stage ≠ .tracking := by
      intro inactive
      simp [inactive]
    by_cases chosen : position = index
    · subst chosen
      rw [place, Option.some.injEq] at placeOther
      subst placeOther
      have down : slot.isDown = true := (sound.contains_eq place).symm.trans marked
      rw [if_pos rfl]
      refine ⟨_, _, rfl, .lifted channel down, ?_⟩
      intro inactive audible
      rw [report_of_audible audible]
      simp only [Recognizer.acceptRelease, if_neg (untracked inactive)]
      exact eventsNaming_map_single [.release, _]
    · rw [if_neg chosen]
      refine ⟨[], _, rfl, .kept _ (by simp) slot.channel, ?_⟩
      intro inactive audible
      rw [report_of_audible audible]
      simp only [Recognizer.acceptRelease, if_neg (untracked inactive)]
      exact eventsNaming_map_single_of_ne (sound.key_ne place placeOther chosen) [.release, _]

theorem eventsNaming_tick (sound : recognizer.Sound) (place : recognizer.slots[index]? = some slot)
    (now : UInt32) (inactive : recognizer.chord.stage = .inactive)
    (audible : recognizer.muted = false) :
    eventsNaming slot.key (recognizer.tick now).events =
      (slot.found recognizer.timing now).map (.single slot.key) := by
  simp only [Recognizer.tick, report_of_audible audible, tickEvents, inactive]
  exact eventsNaming_flatMap (fun slot => slot.found recognizer.timing now) sound.keysDistinct
    (List.mem_of_getElem? place)

/-- What each call makes of a slot; without a chord it reports all that it finds the key to do. -/
theorem keyStep (sound : recognizer.Sound) (place : recognizer.slots[index]? = some slot)
    (now : UInt32) (call : Call) :
    ∃ gestures next, (recognizer.answer now call).value.2.slots[index]? = some next ∧
      KeyStep recognizer.timing now (recognizer.answer now call).value.2.chord.stage slot call
        gestures next ∧
      (recognizer.chord.stage = .inactive → recognizer.muted = false →
        eventsNaming slot.key (recognizer.answer now call).events =
          gestures.map (.single slot.key)) := by
  cases call with
  | register key channel =>
      cases answered : recognizer.register key channel with
      | error cause =>
          simp only [Recognizer.answer, answered]
          exact ⟨[], slot, place, .kept _ (by simp) slot.channel, fun _ _ => rfl⟩
      | ok accepted =>
          obtain ⟨number, registered⟩ := accepted
          simp only [Recognizer.answer, answered]
          obtain ⟨_, ⟨other, _, _, rfl⟩ | ⟨_, _, rfl, rfl⟩⟩ := register_rebinds_or_adds answered
          · refine ⟨[], _, ?_, .kept _ (by simp) (if number = index then channel else slot.channel),
              fun _ _ => rfl⟩
            change (recognizer.slots.modify number _)[index]? = _
            rw [List.getElem?_modify, place]
            by_cases chosen : number = index <;> simp [chosen]
          · refine ⟨[], slot, ?_, .kept _ (by simp) slot.channel, fun _ _ => rfl⟩
            have within := (List.getElem?_eq_some_iff.mp place).1
            exact (List.getElem?_append_left within).trans place
  | setTiming timing => exact ⟨[], slot, place, .kept _ (by simp) slot.channel, fun _ _ => rfl⟩
  | press channel backdate => exact sound.keyStep_press place now channel backdate
  | release channel => exact sound.keyStep_release place now channel _
  | tick =>
      refine ⟨_, _, ?_, .ticked, sound.eventsNaming_tick place now⟩
      change (recognizer.tick now).value.2.slots[index]? = _
      rw [slots_tick, List.getElem?_map, place, Option.map_some]
  | mute => exact ⟨[], slot, place, .kept _ (by simp) slot.channel, fun _ _ => rfl⟩
  | resume => exact ⟨[], slot, place, .kept _ (by simp) slot.channel, fun _ _ => rfl⟩

end Sound

def phaseOf? (recognizer : Recognizer) (key : Key) : Option Phase :=
  (recognizer.ofKey? key).map fun found => found.1.phase

theorem exists_of_phaseOf? {phase : Phase} (found : recognizer.phaseOf? key = some phase) :
    ∃ (slot : Slot) (index : Nat),
      recognizer.slots[index]? = some slot ∧ slot.key = key ∧ slot.phase = phase := by
  obtain ⟨⟨slot, index⟩, located, samePhase⟩ := Option.map_eq_some_iff.mp found
  obtain ⟨place, sameKey⟩ := ofKey?_eq_some located
  exact ⟨slot, index, place, sameKey, samePhase⟩

theorem Sound.phaseOf?_eq (sound : recognizer.Sound)
    (place : recognizer.slots[index]? = some slot) :
    recognizer.phaseOf? slot.key = some slot.phase := by
  rw [phaseOf?, ofKey?_of_getElem? sound.keysDistinct place, Option.map_some]

theorem Sound.isDown_eq (sound : recognizer.Sound)
    (place : recognizer.slots[index]? = some slot) : recognizer.isDown slot.key = slot.isDown := by
  rw [isDown, ofKey?_of_getElem? sound.keysDistinct place, Option.any_some, sound.contains_eq place]

section Runs

variable {start : Recognizer} {calls : List (UInt32 × Call)}

theorem place_through (sound : start.Sound) (place : start.slots[index]? = some slot)
    (calls : List (UInt32 × Call)) :
    ∃ next, (start.run calls).slots[index]? = some next ∧ next.key = slot.key := by
  let kept := fun reached : Recognizer =>
    reached.Sound ∧ ∃ next, reached.slots[index]? = some next ∧ next.key = slot.key
  refine (run_preserves kept ?_ ⟨sound, slot, place, rfl⟩ calls).2
  rintro reached now call ⟨sound, old, place, sameKey⟩
  obtain ⟨_, next, placeNext, step, _⟩ := sound.keyStep place now call
  exact ⟨sound.answer now call, next, placeNext, step.key_eq.trans sameKey⟩

theorem place_at_turn (sound : start.Sound) (place : start.slots[index]? = some slot) {turn : Turn}
    (member : turn ∈ start.turns calls) :
    turn.before.Sound ∧ ∃ old, turn.before.slots[index]? = some old ∧ old.key = slot.key := by
  obtain ⟨earlier, reached⟩ := exists_of_mem_turns member
  rw [reached]
  exact ⟨sound.run earlier, place_through sound place earlier⟩

end Runs

end Recognizer

end KeyGesture
