import KeyGesture.Proofs.Recognizer.ChordEscalation

namespace KeyGesture

/-! What a reported event looks like, and that it names every slot recorded for it. The list of members is
refilled from empty by the two turns that report a chord, each time with slots of the table, of which there
are no more than it has room for. -/

namespace Members

variable {found : List (Nat × Gesture)}

/-- While the found slots are recorded one after the other, none of them meets a full list. -/
def NeverFull (found : List (Nat × Gesture)) : Prop :=
  ∀ earlier entry later, found = earlier ++ entry :: later → (collect earlier).size < maxKeys

theorem neverFull_of_length_le (fits : found.length ≤ maxKeys) : NeverFull found := by
  rintro earlier entry later rfl
  have before : earlier.length < maxKeys := by
    rw [List.length_append, List.length_cons] at fits
    omega
  rw [size, entries_collect, List.length_take]
  omega

end Members

section Lists

variable {α : Type}

theorem lt_of_mem_placesWhere {wanted : α → Bool} {items : List α} {index : Nat}
    (member : index ∈ placesWhere wanted items) : index < items.length := by
  obtain ⟨entry, chosen, rfl⟩ := List.mem_map.mp member
  have found := List.mem_zipIdx_iff_getElem?.mp (List.mem_filter.mp chosen).1
  exact (List.getElem?_eq_some_iff.mp found).1

theorem map_placesWhere (wanted : α → Bool) (items : List α) :
    (placesWhere wanted items).map (fun index => items[index]?) = (items.filter wanted).map some := by
  have fronts : (items.zipIdx.filter fun entry => wanted entry.1).map Prod.fst =
      items.filter wanted := by
    rw [← List.zipIdx_map_fst 0 items, List.filter_map]
    simp [Function.comp_def]
  rw [placesWhere, ← fronts, List.map_map, List.map_map]
  apply List.map_congr_left
  intro entry member
  exact List.mem_zipIdx_iff_getElem?.mp (List.mem_filter.mp member).1

end Lists

namespace Recognizer

variable {recognizer next : Recognizer} {wanted : Slot → Bool}

theorem mem_keysWhere {key : Key} (member : key ∈ recognizer.keysWhere wanted) :
    ∃ slot ∈ recognizer.slots, slot.key = key := by
  obtain ⟨slot, chosen, rfl⟩ := List.mem_map.mp member
  exact ⟨slot, (List.mem_filter.mp chosen).1, rfl⟩

theorem Sound.length_keysWhere_le (sound : recognizer.Sound) :
    (recognizer.keysWhere wanted).length ≤ maxKeys := by
  rw [keysWhere, List.length_map]
  exact Nat.le_trans (List.length_filter_le _ _) sound.fits

theorem Sound.nodup_keysWhere (sound : recognizer.Sound) : (recognizer.keysWhere wanted).Nodup :=
  sound.keysDistinct.sublist (List.filter_sublist.map Slot.key)

/-- Found at the places of the wanted slots are their keys, also in a later table of the same keys. -/
theorem map_some_keysWhere (keys : next.slots.map Slot.key = recognizer.slots.map Slot.key)
    {found : List (Nat × Gesture)} (places : found.map Prod.fst = placesWhere wanted recognizer.slots) :
    (recognizer.keysWhere wanted).map some =
      found.map fun entry => next.slots[entry.1]?.map Slot.key := by
  have each : ∀ index : Nat, next.slots[index]?.map Slot.key = recognizer.slots[index]?.map Slot.key := by
    intro index
    rw [← List.getElem?_map, keys, List.getElem?_map]
  calc (recognizer.keysWhere wanted).map some
      = ((recognizer.slots.filter wanted).map some).map (Option.map Slot.key) := by
        simp [keysWhere]
    _ = ((found.map Prod.fst).map fun (index : Nat) => recognizer.slots[index]?).map
          (Option.map Slot.key) := by
        rw [places, map_placesWhere]
    _ = found.map fun entry => next.slots[entry.1]?.map Slot.key := by
        simp [each]

end Recognizer

open Recognizer

namespace Turn

variable {turn : Turn} {slot : Slot} {found : List (Nat × Gesture)}

/-- The turn records the found slots, in this order, as the members of the chord. -/
inductive Records (turn : Turn) : List (Nat × Gesture) → Prop where
  | escalating (ticks : turn.call = .tick) (tracking : turn.before.chord.stage = .tracking) :
      Records turn (turn.before.escalations turn.now)
  | closing {slot : Slot} (releases : turn.Releases slot)
      (tracking : turn.before.chord.stage = .tracking) :
      Records turn (turn.before.chord.down.indices.map fun index =>
        (index, turn.before.timing.releaseGesture (slot.hold turn.now)))

/-- What recording the found slots, which are the wanted ones, comes to: they are the members, and an event
names just their keys. -/
structure Recorded (turn : Turn) (found : List (Nat × Gesture)) (wanted : Slot → Bool) : Prop where
  places : found.map Prod.fst = placesWhere wanted turn.before.slots
  members : turn.after.chord.members = .collect found
  keys : turn.after.slots.map Slot.key = turn.before.slots.map Slot.key
  told : ∀ event ∈ turn.events,
    event.keys = turn.before.keysWhere wanted ∧ event.keys ≠ [] ∧ event.gesture.chordable = true

theorem recorded_of_tick (sound : turn.before.Sound) (ticks : turn.call = .tick)
    (tracking : turn.before.chord.stage = .tracking) :
    turn.Recorded (turn.before.escalations turn.now) fun slot =>
      (slot.escalation? turn.before.timing turn.now).isSome := by
  obtain ⟨before, now, call⟩ := turn
  obtain rfl : call = .tick := ticks
  change before.Sound at sound
  change before.chord.stage = .tracking at tracking
  have unsettled : (before.advance now).allIdle = false := by
    -- A tick lets no key come up, and keys that are down are not idle.
    by_contra settled
    have rested : (before.tick now).value.2.chord.stage = .inactive := by
      rw [stage_tick, if_pos (by simpa using settled)]
    have one := (sound.tick now).alone rested
    have two := sound.together tracking
    rw [downCount_tick] at one
    omega
  have after : (Turn.mk before now .tick).after = before.advance now := by
    change (before.tick now).value.2 = _
    simp only [tick, value_report, wrapUp, unsettled]
    rfl
  refine ⟨map_fst_escalations now, ?_, ?_, ?_⟩
  · rw [after]
    simp only [advance, tracking, if_true]
  · rw [after]
    simp [advance, Function.comp_def]
  · intro event reported
    let found : Outcome (Activity × Recognizer) :=
      ⟨(before.advance now).wrapUp, before.tickEvents now⟩
    have listed : event ∈ found.events := mem_events_of_report reported
    change event ∈ before.tickEvents now at listed
    rw [tickEvents_of_tracking tracking, Option.mem_toList, Option.map_eq_some_iff] at listed
    obtain ⟨entry, first, rfl⟩ := listed
    obtain ⟨⟨slot, index⟩, placed, escalates⟩ := List.mem_filterMap.mp (List.mem_of_head? first)
    have member := List.mem_of_getElem? (List.mk_mem_zipIdx_iff_getElem?.mp placed)
    obtain ⟨tier, reached, rfl⟩ := Option.map_eq_some_iff.mp escalates
    rw [sound.chordEvent_advance tracking]
    refine ⟨rfl, List.ne_nil_of_mem ((sound.key_mem_keysWhere_iff member).mpr ?_), rfl⟩
    rw [reached]
    rfl

theorem recorded_of_release (sound : turn.before.Sound) (releases : turn.Releases slot)
    (tracking : turn.before.chord.stage = .tracking) :
    turn.Recorded (turn.before.chord.down.indices.map fun index =>
      (index, turn.before.timing.releaseGesture (slot.hold turn.now))) Slot.isDown := by
  obtain ⟨index, place, marked, after, told⟩ := releases.exists_accepted
  refine ⟨?_, ?_, ?_, ?_⟩
  · simp [sound.placesWhere_isDown, Function.comp_def]
  · rw [after]
    simp only [acceptRelease, Chord.leave, tracking, Chord.capture]
  · rw [after, slots_acceptRelease, map_mapIdx_of_same fun other old => by split <;> rfl]
  · intro event reported
    rw [told] at reported
    have listed := mem_events_of_report reported
    rw [sound.events_acceptRelease tracking] at listed
    split at listed
    · rename_i chordable
      obtain rfl := List.mem_singleton.mp listed
      have down := (sound.contains_eq place).symm.trans marked
      exact ⟨rfl, List.ne_nil_of_mem
        ((sound.key_mem_keysWhere_iff (List.mem_of_getElem? place)).mpr down), chordable⟩
    · contradiction

theorem Records.recorded (sound : turn.before.Sound) (records : turn.Records found) :
    ∃ wanted, turn.Recorded found wanted := by
  cases records with
  | escalating ticks tracking => exact ⟨_, recorded_of_tick sound ticks tracking⟩
  | closing releases tracking => exact ⟨_, recorded_of_release sound releases tracking⟩

/-- An event comes of a turn that records, or it is of one key. -/
theorem records_or_single {event : Event} (reported : event ∈ turn.events) :
    (∃ found, turn.Records found) ∨ ∃ slot ∈ turn.before.slots, ∃ gesture, event = .single slot.key gesture := by
  by_cases tracking : turn.before.chord.stage = .tracking
  · cases turn.course with
    | kept _ _ silent | registered _ silent =>
        rw [silent] at reported
        contradiction
    | pressed presses =>
        obtain ⟨_, _, _, _, _, told⟩ := presses.exists_accepted
        rw [told] at reported
        have listed := mem_events_of_report reported
        simp [acceptPress, tracking] at listed
    | released releases => exact .inl ⟨_, .closing releases tracking⟩
    | ticked ticks => exact .inl ⟨_, .escalating ticks tracking⟩
  · exact .inr (exists_slot_eq_single tracking reported)

/-- Nothing but recording puts members on the list. -/
theorem members_of_not_records (unrecorded : ∀ found, ¬ turn.Records found) :
    turn.after.chord.members = turn.before.chord.members ∨ turn.after.chord.members = .empty := by
  cases turn.course with
  | kept _ chord => exact .inl (congrArg Chord.members chord)
  | registered accepted => exact .inl (congrArg (·.chord.members) (eq_of_register accepted))
  | pressed presses =>
      obtain ⟨_, _, _, _, after, _⟩ := presses.exists_accepted
      rw [after]
      exact .inl rfl
  | released releases =>
      have untracked : turn.before.chord.stage ≠ .tracking := fun tracking =>
        unrecorded _ (.closing releases tracking)
      obtain ⟨_, _, _, after, _⟩ := releases.exists_accepted
      rw [after]
      cases stage : turn.before.chord.stage with
      | tracking => exact absurd stage untracked
      | inactive | closed =>
          left
          simp only [acceptRelease, Chord.leave, stage]
  | ticked ticks after =>
      have untracked : turn.before.chord.stage ≠ .tracking := fun tracking =>
        unrecorded _ (.escalating ticks tracking)
      rw [after]
      simp only [tick, value_report, wrapUp, advance, if_neg untracked]
      split
      · split
        · exact .inl rfl
        · exact .inr rfl
      · exact .inl rfl

end Turn

/-- After any calls, whatever is called next: each event names at least one and at most as many keys as are
tracked, all different and all registered, and one that names several is short or of a tier. The slots
recorded for an event, in the turns that record any, are slots of the table, there is room on the list for
each of them, and an event names the key of every one, in the order in which they were recorded; in all
other turns the list is left as it is or cleared. -/
theorem events_name_each_recorded_slot (calls : List (UInt32 × Call)) (now : UInt32) (call : Call) :
    let turn : Turn := ⟨run {} calls, now, call⟩
    (∀ event ∈ turn.events,
      1 ≤ event.keys.length ∧ event.keys.length ≤ maxKeys ∧ event.keys.Nodup ∧
        (∀ key ∈ event.keys, ∃ slot ∈ turn.before.slots, slot.key = key) ∧
        (2 ≤ event.keys.length → event.gesture = .short ∨ ∃ tier, event.gesture = .held tier)) ∧
      (∀ found, turn.Records found →
        Members.NeverFull found ∧ turn.after.chord.members = .collect found ∧
          (∀ entry ∈ found, entry.1 < turn.after.slots.length) ∧
          ∀ event ∈ turn.events,
            event.keys.map some = found.map fun entry => turn.after.slots[entry.1]?.map Slot.key) ∧
      ((∀ found, ¬ turn.Records found) →
        (turn.after.chord.members = turn.before.chord.members ∨ turn.after.chord.members = .empty) ∧
          ∀ event ∈ turn.events, event.keys.length = 1) := by
  intro turn
  have sound : turn.before.Sound := sound_fresh.run calls
  refine ⟨?_, ?_, ?_⟩
  · intro event reported
    rcases Turn.records_or_single reported with ⟨found, records⟩ | ⟨slot, member, gesture, rfl⟩
    · obtain ⟨wanted, recorded⟩ := records.recorded sound
      obtain ⟨named, some, chordable⟩ := recorded.told event reported
      refine ⟨List.length_pos_of_ne_nil some, ?_, ?_, ?_, fun _ => ?_⟩
      · rw [named]
        exact sound.length_keysWhere_le
      · rw [named]
        exact sound.nodup_keysWhere
      · rw [named]
        exact fun key => mem_keysWhere
      · cases gesture : event.gesture with
        | short => exact .inl rfl
        | held tier => exact .inr ⟨tier, rfl⟩
        | press | release | repeated | heldRelease | tapped =>
            rw [gesture] at chordable
            contradiction
    · refine ⟨Nat.le_refl 1, Nat.le_add_left 1 2, List.nodup_singleton _, ?_,
        fun two => absurd two (by simp [Event.single])⟩
      intro key named
      exact ⟨slot, member, (List.mem_singleton.mp named).symm⟩
  · intro found records
    obtain ⟨wanted, recorded⟩ := records.recorded sound
    have size : turn.after.slots.length = turn.before.slots.length := by
      simpa using congrArg List.length recorded.keys
    refine ⟨Members.neverFull_of_length_le ?_, recorded.members, ?_, ?_⟩
    · have places := congrArg List.length recorded.places
      rw [List.length_map] at places
      rw [places]
      exact Nat.le_trans (length_placesWhere_le _ _) sound.fits
    · intro entry member
      have listed := List.mem_map_of_mem (f := Prod.fst) member
      rw [recorded.places] at listed
      rw [size]
      exact lt_of_mem_placesWhere listed
    · intro event reported
      rw [(recorded.told event reported).1]
      exact map_some_keysWhere recorded.keys recorded.places
  · intro unrecorded
    refine ⟨Turn.members_of_not_records unrecorded, fun event reported => ?_⟩
    rcases Turn.records_or_single reported with ⟨found, records⟩ | ⟨slot, _, gesture, rfl⟩
    · exact absurd records (unrecorded found)
    · rfl

/-- Three keys that went down together reach the first tier at one tick, which records all of them. -/
theorem events_name_each_recorded_slot_of_three :
    let calls : List (UInt32 × Call) := [(0, .register ⟨1, .io⟩ 5), (0, .register ⟨2, .touch⟩ 11),
      (0, .register ⟨3, .external⟩ 7), (0, .press 7 0), (20, .press 11 0), (30, .press 5 0)]
    let turn : Turn := ⟨run {} calls, 1530, .tick⟩
    let found := [(0, Gesture.held .long), (1, .held .long), (2, .held .long)]
    let event : Event := ⟨.held .long, [⟨1, .io⟩, ⟨2, .touch⟩, ⟨3, .external⟩]⟩
    turn.events = [event] ∧ turn.Records found ∧ Members.NeverFull found ∧
      event.keys.map some = found.map fun entry => turn.after.slots[entry.1]?.map Slot.key := by
  intro calls turn found event
  have told : turn.events = [event] := by decide
  have recorded : turn.before.escalations turn.now = found := by decide
  have records : turn.Records found := recorded ▸ .escalating rfl (by decide)
  obtain ⟨room, _, _, named⟩ := (events_name_each_recorded_slot calls 1530 .tick).2.1 found records
  exact ⟨told, records, room, named event (told ▸ List.mem_singleton_self event)⟩

end KeyGesture
