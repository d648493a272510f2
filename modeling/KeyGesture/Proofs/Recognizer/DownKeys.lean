import KeyGesture.Proofs.Recognizer.ChordMembers

namespace KeyGesture.Recognizer

/-! Which keys are down, after each thing that happens to a recognizer: a press adds the key of its channel,
a release takes it away, and a tick leaves them as they are. -/

variable {recognizer : Recognizer} {slot : Slot} {index channel : Nat} {key : Key}

theorem atChannel?_eq_none_iff :
    recognizer.atChannel? channel = none ↔ ∀ slot ∈ recognizer.slots, slot.channel ≠ channel := by
  simp only [atChannel?, locate?_eq_none_iff, beq_eq_false_iff_ne]

namespace Sound

theorem isDown_iff (sound : recognizer.Sound) :
    recognizer.isDown key = true ↔ ∃ slot ∈ recognizer.slots, slot.key = key ∧ slot.isDown = true := by
  constructor
  · intro down
    rw [isDown, Option.any_eq_true] at down
    obtain ⟨⟨slot, index⟩, found, marked⟩ := down
    obtain ⟨place, same⟩ := ofKey?_eq_some found
    exact ⟨slot, List.mem_of_getElem? place, same, (sound.contains_eq place).symm.trans marked⟩
  · rintro ⟨slot, member, rfl, down⟩
    obtain ⟨index, place⟩ := List.getElem?_of_mem member
    rw [sound.isDown_eq place, down]

theorem channelOf?_eq_some_iff (sound : recognizer.Sound) :
    recognizer.channelOf? key = some channel ↔
      ∃ slot ∈ recognizer.slots, slot.key = key ∧ slot.channel = channel := by
  rw [channelOf?, Option.map_eq_some_iff]
  constructor
  · rintro ⟨⟨slot, index⟩, found, bound⟩
    obtain ⟨place, same⟩ := ofKey?_eq_some found
    exact ⟨slot, List.mem_of_getElem? place, same, bound⟩
  · rintro ⟨slot, member, rfl, bound⟩
    obtain ⟨index, place⟩ := List.getElem?_of_mem member
    exact ⟨(slot, index), ofKey?_of_getElem? sound.keysDistinct place, bound⟩

/-- A channel is the way of one key only. -/
theorem channelOf?_eq_channel_iff (sound : recognizer.Sound) (member : slot ∈ recognizer.slots) :
    recognizer.channelOf? key = some slot.channel ↔ slot.key = key := by
  rw [sound.channelOf?_eq_some_iff]
  constructor
  · rintro ⟨other, listed, rfl, same⟩
    rw [List.inj_on_of_nodup_map sound.channelsDistinct listed member same]
  · exact fun same => ⟨slot, member, same, rfl⟩

theorem isDown_acceptPress (sound : recognizer.Sound) (place : recognizer.slots[index]? = some slot)
    (unmarked : recognizer.chord.down.contains index = false) (instant : UInt32) :
    (recognizer.acceptPress slot index instant).value.isDown key = true ↔
      recognizer.isDown key = true ∨ slot.key = key := by
  -- Each slot keeps its key, and only the pressed one changes whether it is down.
  have kept : ∀ position other, recognizer.slots[position]? = some other → ∃ next,
      (recognizer.acceptPress slot index instant).value.slots[position]? = some next ∧
        next.key = other.key ∧ (next.isDown = true ↔ other.isDown = true ∨ position = index) := by
    intro position other placeOther
    rw [slots_acceptPress, List.getElem?_mapIdx, placeOther, Option.map_some]
    refine ⟨_, rfl, ?_⟩
    by_cases chosen : index = position
    · rw [if_pos chosen]
      exact ⟨rfl, by simp [chosen]⟩
    · rw [if_neg chosen]
      split <;> simp [Ne.symm chosen]
  rw [(sound.acceptPress place unmarked instant).isDown_iff, sound.isDown_iff]
  constructor
  · rintro ⟨next, member, rfl, down⟩
    obtain ⟨position, placeNext⟩ := List.getElem?_of_mem member
    have within : position < recognizer.slots.length := by
      have bound := (List.getElem?_eq_some_iff.mp placeNext).1
      rwa [slots_acceptPress, List.length_mapIdx] at bound
    obtain ⟨_, found, same, downIff⟩ := kept position _ (List.getElem?_eq_getElem within)
    rw [placeNext, Option.some.injEq] at found
    subst found
    rcases downIff.mp down with before | rfl
    · exact .inl ⟨_, List.getElem_mem within, same.symm, before⟩
    · rw [List.getElem?_eq_getElem within, Option.some.injEq] at place
      exact .inr (place ▸ same.symm)
  · rintro (⟨other, member, rfl, down⟩ | rfl)
    · obtain ⟨position, placeOther⟩ := List.getElem?_of_mem member
      obtain ⟨next, found, same, downIff⟩ := kept position other placeOther
      exact ⟨next, List.mem_of_getElem? found, same, downIff.mpr (.inl down)⟩
    · obtain ⟨next, found, same, downIff⟩ := kept index slot place
      exact ⟨next, List.mem_of_getElem? found, same, downIff.mpr (.inr rfl)⟩

theorem isDown_press (sound : recognizer.Sound) (now : UInt32) (channel : Nat) (backdate : UInt32) :
    (recognizer.press now channel backdate).value.isDown key = true ↔
      recognizer.isDown key = true ∨ recognizer.channelOf? key = some channel := by
  cases found : recognizer.atChannel? channel with
  | none =>
      have unknown : recognizer.channelOf? key ≠ some channel := by
        rw [ne_eq, sound.channelOf?_eq_some_iff]
        rintro ⟨slot, member, _, bound⟩
        exact atChannel?_eq_none_iff.mp found slot member bound
      simp only [Recognizer.press, press?, found, ignoreRefused, Outcome.quiet, unknown, or_false]
  | some entry =>
      obtain ⟨slot, index⟩ := entry
      obtain ⟨place, rfl⟩ := atChannel?_eq_some found
      have member := List.mem_of_getElem? place
      rw [sound.channelOf?_eq_channel_iff member]
      simp only [Recognizer.press, press?, found]
      cases marked : recognizer.chord.down.contains index with
      | true =>
          have already : slot.key = key → recognizer.isDown key = true := by
            rintro rfl
            rw [sound.isDown_eq place, ← sound.contains_eq place, marked]
          simpa [ignoreRefused, Outcome.quiet] using already
      | false =>
          simp only [ignoreRefused, Bool.false_eq_true, if_false, value_report]
          exact sound.isDown_acceptPress place marked _

theorem isDown_release (sound : recognizer.Sound) (now : UInt32) (channel : Nat) :
    (recognizer.release now channel).value.isDown key = true ↔
      recognizer.isDown key = true ∧ recognizer.channelOf? key ≠ some channel := by
  cases found : recognizer.atChannel? channel with
  | none =>
      have unknown : recognizer.channelOf? key ≠ some channel := by
        rw [ne_eq, sound.channelOf?_eq_some_iff]
        rintro ⟨slot, member, _, bound⟩
        exact atChannel?_eq_none_iff.mp found slot member bound
      simp only [Recognizer.release, release?, found, ignoreRefused, Outcome.quiet, unknown, ne_eq,
        not_false_eq_true, and_true]
  | some entry =>
      obtain ⟨slot, index⟩ := entry
      obtain ⟨place, rfl⟩ := atChannel?_eq_some found
      have member := List.mem_of_getElem? place
      rw [ne_eq, sound.channelOf?_eq_channel_iff member, eq_comm (a := slot.key)]
      simp only [Recognizer.release, release?, found]
      cases marked : recognizer.chord.down.contains index with
      | true =>
          simp only [ignoreRefused, if_true, value_report]
          exact sound.isDown_acceptRelease place marked now key
      | false =>
          have up : recognizer.isDown key = true → key ≠ slot.key := by
            rintro down rfl
            rw [sound.isDown_eq place, ← sound.contains_eq place, marked] at down
            contradiction
          simpa [ignoreRefused, Outcome.quiet] using up

/-- A release changes nothing exactly when no key is down on its channel. -/
theorem release_eq_quiet_iff (sound : recognizer.Sound) (now : UInt32) (channel : Nat) :
    recognizer.release now channel = .quiet recognizer ↔
      ∀ key, recognizer.isDown key = true → recognizer.channelOf? key ≠ some channel := by
  constructor
  · intro unchanged key down
    have released : (recognizer.release now channel).value.isDown key = true ↔
        recognizer.isDown key = true ∧ recognizer.channelOf? key ≠ some channel :=
      sound.isDown_release now channel
    rw [unchanged] at released
    exact (released.mp down).2
  · intro elsewhere
    rcases recognizer.release_refused_or_accepted now channel with
      refused | ⟨slot, index, place, rfl, marked, _⟩
    · exact refused
    · have down : recognizer.isDown slot.key = true := by
        rw [sound.isDown_eq place, ← sound.contains_eq place, marked]
      have bound := (sound.channelOf?_eq_channel_iff (List.mem_of_getElem? place)).mpr rfl
      exact absurd bound (elsewhere slot.key down)

theorem isDown_tick (sound : recognizer.Sound) (now : UInt32) :
    (recognizer.tick now).value.2.isDown key = true ↔ recognizer.isDown key = true := by
  rw [(sound.tick now).isDown_iff, sound.isDown_iff, slots_tick]
  simp

end Sound

end KeyGesture.Recognizer
