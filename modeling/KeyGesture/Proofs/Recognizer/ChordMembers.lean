import KeyGesture.Proofs.Recognizer.KeyView
import KeyGesture.Proofs.Recognizer.ChordStages

namespace KeyGesture

/-! The members of a chord. They are kept as slot numbers, found through the set of keys that are down or
slot by slot in a tick; either way the event names the keys of those slots once each, in slot order. -/

section Lists

variable {α : Type} {items : List α}

def placesWhere (wanted : α → Bool) (items : List α) : List Nat :=
  (items.zipIdx.filter fun entry => wanted entry.1).map Prod.snd

theorem length_placesWhere_le (wanted : α → Bool) (items : List α) :
    (placesWhere wanted items).length ≤ items.length := by
  rw [placesWhere, List.length_map]
  calc (items.zipIdx.filter fun entry => wanted entry.1).length
      ≤ items.zipIdx.length := List.length_filter_le _ _
    _ = items.length := List.length_zipIdx

theorem filterMap_placesWhere {β : Type} (part : α → β) (wanted : α → Bool) (items : List α) :
    (placesWhere wanted items).filterMap (fun index => (items.map part)[index]?) =
      (items.filter wanted).map part := by
  have parts : ∀ entry ∈ items.zipIdx.filter (fun entry => wanted entry.1),
      (items.map part)[entry.2]? = some (part entry.1) := by
    intro entry member
    have found := List.mem_zipIdx_iff_getElem?.mp (List.mem_filter.mp member).1
    rw [List.getElem?_map, found, Option.map_some]
  have fronts : (items.zipIdx.filter fun entry => wanted entry.1).map Prod.fst =
      items.filter wanted := by
    rw [← List.zipIdx_map_fst 0 items, List.filter_map]
    simp [Function.comp_def]
  calc (placesWhere wanted items).filterMap (fun index => (items.map part)[index]?)
      = (items.zipIdx.filter fun entry => wanted entry.1).filterMap
          (fun entry => (items.map part)[entry.2]?) := List.filterMap_map
    _ = (items.zipIdx.filter fun entry => wanted entry.1).filterMap
          (fun entry => some (part entry.1)) := List.filterMap_congr parts
    _ = (items.zipIdx.filter fun entry => wanted entry.1).map (fun entry => part entry.1) :=
          congrFun List.filterMap_eq_map _
    _ = (items.filter wanted).map part := by rw [← fronts, List.map_map]; rfl

theorem filter_range_getElem? (wanted : α → Bool) {bound : Nat} (within : items.length ≤ bound) :
    (List.range bound).filter (fun index => items[index]?.any wanted) = placesWhere wanted items := by
  obtain ⟨beyond, rfl⟩ := Nat.exists_eq_add_of_le within
  have outside : ((List.range beyond).map (items.length + ·)).filter
      (fun index => items[index]?.any wanted) = [] := by
    rw [List.filter_eq_nil_iff]
    intro index member
    obtain ⟨further, _, rfl⟩ := List.mem_map.mp member
    simp
  have numbers : List.range items.length = items.zipIdx.map Prod.snd := by
    rw [List.zipIdx_map_snd, List.range_eq_range']
  rw [List.range_add, List.filter_append, outside, List.append_nil, numbers, List.filter_map,
    placesWhere]
  congr 1
  apply List.filter_congr
  intro entry member
  have found := List.mem_zipIdx_iff_getElem?.mp member
  simp [found]

end Lists

namespace Members

theorem indices_collect (found : List (Nat × Gesture)) :
    (collect found).indices = (found.map Prod.fst).take maxKeys := by
  rw [indices, entries_collect, List.map_take]

end Members

namespace Recognizer

variable {recognizer next : Recognizer} {slot : Slot} {index : Nat} {wanted : Slot → Bool}

/-- The keys of the wanted slots, in slot order. -/
def keysWhere (recognizer : Recognizer) (wanted : Slot → Bool) : List Key :=
  (recognizer.slots.filter wanted).map Slot.key

theorem keysWhere_congr {other : Slot → Bool}
    (same : ∀ slot ∈ recognizer.slots, wanted slot = other slot) :
    recognizer.keysWhere wanted = recognizer.keysWhere other := by
  rw [keysWhere, keysWhere, List.filter_congr same]

theorem length_keysWhere_isDown : (recognizer.keysWhere Slot.isDown).length = recognizer.downCount := by
  rw [keysWhere, List.length_map, downCount, List.countP_eq_length_filter]

namespace Sound

theorem key_mem_keysWhere_iff (sound : recognizer.Sound) (member : slot ∈ recognizer.slots) :
    slot.key ∈ recognizer.keysWhere wanted ↔ wanted slot = true := by
  rw [keysWhere, List.mem_map]
  constructor
  · rintro ⟨other, listed, same⟩
    obtain ⟨memberOther, matched⟩ := List.mem_filter.mp listed
    obtain rfl := List.inj_on_of_nodup_map sound.keysDistinct memberOther member same
    exact matched
  · exact fun matched => ⟨slot, List.mem_filter.mpr ⟨member, matched⟩, rfl⟩

theorem placesWhere_isDown (sound : recognizer.Sound) :
    recognizer.chord.down.indices = placesWhere Slot.isDown recognizer.slots := by
  rw [← filter_range_getElem? Slot.isDown sound.fits, SlotSet.indices]
  exact List.filter_congr fun index _ => sound.mask index

/-- However the members were found, once they are the places of the wanted slots the event names just
those slots' keys: there are as many places in it as slots. -/
theorem chordEvent_eq (sound : recognizer.Sound)
    (keys : next.slots.map Slot.key = recognizer.slots.map Slot.key)
    (members : next.chord.members.indices = (placesWhere wanted recognizer.slots).take maxKeys)
    (gesture : Gesture) : next.chordEvent gesture = ⟨gesture, recognizer.keysWhere wanted⟩ := by
  have within : (placesWhere wanted recognizer.slots).length ≤ maxKeys :=
    Nat.le_trans (length_placesWhere_le _ _) sound.fits
  have room : (recognizer.keysWhere wanted).length ≤ maxKeys := by
    rw [keysWhere, List.length_map]
    exact Nat.le_trans (List.length_filter_le _ _) sound.fits
  have named : next.memberKeys = recognizer.keysWhere wanted := by
    rw [memberKeys, members, List.take_of_length_le within]
    simp only [← List.getElem?_map, keys]
    exact filterMap_placesWhere Slot.key wanted recognizer.slots
  rw [chordEvent, named, Event.chord, List.take_of_length_le room]

theorem chordEvent_acceptRelease (sound : recognizer.Sound)
    (tracking : recognizer.chord.stage = .tracking) (slot : Slot) (index : Nat) (now : UInt32)
    (gesture : Gesture) :
    (recognizer.acceptRelease slot index now).value.chordEvent gesture =
      ⟨gesture, recognizer.keysWhere Slot.isDown⟩ := by
  refine sound.chordEvent_eq ?_ ?_ gesture
  · rw [slots_acceptRelease, map_mapIdx_of_same fun other old => by split <;> rfl]
  · simp only [Recognizer.acceptRelease, Chord.leave, tracking, Chord.capture,
      Members.indices_collect, List.map_map, Function.comp_def, List.map_id', sound.placesWhere_isDown]

theorem release_eq (sound : recognizer.Sound) (place : recognizer.slots[index]? = some slot)
    (marked : recognizer.chord.down.contains index = true) (now : UInt32) :
    recognizer.release now slot.channel =
      recognizer.report (recognizer.acceptRelease slot index now) := by
  have found := atChannel?_of_getElem? sound.channelsDistinct place
  have answered : recognizer.release? now slot.channel =
      .ok (recognizer.acceptRelease slot index now) :=
    release?_eq_ok_iff.mpr ⟨slot, index, found, marked, rfl⟩
  simp only [Recognizer.release, answered, ignoreRefused]

theorem events_acceptRelease (sound : recognizer.Sound)
    (tracking : recognizer.chord.stage = .tracking) (slot : Slot) (index : Nat) (now : UInt32) :
    (recognizer.acceptRelease slot index now).events =
      if (recognizer.timing.releaseGesture (slot.hold now)).chordable then
        [⟨recognizer.timing.releaseGesture (slot.hold now), recognizer.keysWhere Slot.isDown⟩]
      else [] := by
  rw [← sound.chordEvent_acceptRelease tracking slot index now]
  simp only [Recognizer.acceptRelease, if_pos tracking]

theorem isDown_acceptRelease (sound : recognizer.Sound) (place : recognizer.slots[index]? = some slot)
    (marked : recognizer.chord.down.contains index = true) (now : UInt32) (key : Key) :
    (recognizer.acceptRelease slot index now).value.isDown key = true ↔
      recognizer.isDown key = true ∧ key ≠ slot.key := by
  have soundNext := sound.acceptRelease place marked now
  have slots := recognizer.slots_acceptRelease slot index now
  cases found : recognizer.ofKey? key with
  | none =>
      have absent : (recognizer.acceptRelease slot index now).value.ofKey? key = none := by
        rw [ofKey?_eq_none_iff] at found ⊢
        rw [slots]
        refine forall_mem_mapIdx fun position old placeOld => ?_
        have unequal := found old (List.mem_of_getElem? placeOld)
        split
        · exact unequal
        · exact unequal
      simp [isDown, found, absent]
  | some entry =>
      obtain ⟨other, position⟩ := entry
      obtain ⟨placeOther, rfl⟩ := ofKey?_eq_some found
      have placeNext : (recognizer.acceptRelease slot index now).value.slots[position]? = some
          (if index = position then
            other.lift now (recognizer.timing.releaseGesture (slot.hold now)) else other) := by
        rw [slots, List.getElem?_mapIdx, placeOther, Option.map_some]
      rw [sound.isDown_eq placeOther]
      by_cases chosen : index = position
      · subst chosen
        rw [place, Option.some.injEq] at placeOther
        subst placeOther
        rw [if_pos rfl] at placeNext
        have up : (recognizer.acceptRelease slot index now).value.isDown slot.key = false :=
          soundNext.isDown_eq placeNext
        simp [up]
      · rw [if_neg chosen] at placeNext
        rw [soundNext.isDown_eq placeNext]
        have unequal := sound.key_ne place placeOther (Ne.symm chosen)
        simp [unequal]

end Sound

/-- The first release of a tracked chord closes it. If the hold has reached none of the three tiers, the
chord is reported as short with all keys that were down, and otherwise nothing is; either way the released
key alone comes up. -/
theorem first_release_closes_chord {calls : List (UInt32 × Call)} {slot : Slot} {index : Nat}
    (now : UInt32) (tracking : (run {} calls).chord.stage = .tracking)
    (audible : (run {} calls).muted = false) (place : (run {} calls).slots[index]? = some slot)
    (down : slot.isDown = true) :
    let reached := run {} calls
    let hold := elapsed now slot.pressedAt
    let released := reached.release now slot.channel
    let members := reached.keysWhere Slot.isDown
    let short := hold < reached.timing.long ∧ hold < reached.timing.veryLong ∧
      hold < reached.timing.veryVeryLong
    (short → released.events = [⟨.short, members⟩]) ∧ (¬ short → released.events = []) ∧
      2 ≤ members.length ∧ slot.key ∈ members ∧
      released.value.chord.stage = .closed ∧ released.value.phaseOf? slot.key = some .lifted ∧
      ∀ key, released.value.isDown key = true ↔ reached.isDown key = true ∧ key ≠ slot.key := by
  intro reached hold released members short
  have sound : reached.Sound := sound_fresh.run calls
  have marked : reached.chord.down.contains index = true := (sound.contains_eq place).trans down
  have accepted : released = reached.acceptRelease slot index now :=
    (sound.release_eq place marked now).trans (report_of_audible audible _)
  have tier : reached.timing.tier? (slot.hold now) = none ↔ short := Timing.tier?_eq_none_iff
  have reported := sound.events_acceptRelease tracking slot index now
  rw [← accepted] at reported
  refine ⟨?_, ?_, ?_, ?_, ?_, ?_, ?_⟩
  · intro unheld
    rw [reported, Timing.releaseGesture_eq_short_iff.mpr (tier.mpr unheld)]
    rfl
  · intro held
    obtain ⟨reachedTier, found⟩ := Option.ne_none_iff_exists'.mp (mt tier.mp held)
    rw [reported, Timing.releaseGesture, found]
    rfl
  · rw [length_keysWhere_isDown]
    exact sound.together tracking
  · exact (sound.key_mem_keysWhere_iff (List.mem_of_getElem? place)).mpr down
  · rw [accepted, stage_acceptRelease, if_pos tracking]
  · have placeNext : (reached.acceptRelease slot index now).value.slots[index]? =
        some (slot.lift now (reached.timing.releaseGesture (slot.hold now))) := by
      rw [slots_acceptRelease, List.getElem?_mapIdx, place, Option.map_some, if_pos rfl]
    rw [accepted]
    exact (sound.acceptRelease place marked now).phaseOf?_eq placeNext
  · rw [accepted]
    exact sound.isDown_acceptRelease place marked now

/-- Of three keys that are down the first comes up, after a short hold and after a long one. -/
theorem first_release_closes_chord_of_three :
    let calls : List (UInt32 × Call) := [(0, .register ⟨1, .io⟩ 5), (0, .register ⟨2, .touch⟩ 11),
      (0, .register ⟨3, .external⟩ 7), (0, .press 7 0), (20, .press 11 0), (30, .press 5 0)]
    let reached := run {} calls
    let slot : Slot := { Slot.fresh ⟨2, .touch⟩ 11 with phase := .pressed, pressedAt := 30, nextHold := 1500 }
    (reached.chord.stage = .tracking ∧ reached.muted = false ∧ reached.slots[1]? = some slot ∧
        slot.isDown = true) ∧
      (reached.release 100 11).events = [⟨.short, [⟨1, .io⟩, ⟨2, .touch⟩, ⟨3, .external⟩]⟩] ∧
      (reached.release 1530 11).events = [] := by
  intro calls reached slot
  have tracking : reached.chord.stage = .tracking := by decide
  have audible : reached.muted = false := by decide
  have place : reached.slots[1]? = some slot := by decide
  have down : slot.isDown = true := by decide
  have early := first_release_closes_chord 100 tracking audible place down
  have late := first_release_closes_chord 1530 tracking audible place down
  exact ⟨⟨tracking, audible, place, down⟩, early.1 (by decide), late.2.1 (by decide)⟩

end Recognizer

end KeyGesture
