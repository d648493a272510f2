import KeyGesture.Proofs.Recognizer.Registration

namespace KeyGesture.Recognizer

/-! Which key is on which channel. Only registering a key changes that. -/

variable {recognizer registered : Recognizer} {key : Key} {channel number : Nat}

/-- The keys with the channel each is on. -/
def bindings (recognizer : Recognizer) : List (Key × Nat) :=
  recognizer.slots.map fun slot => (slot.key, slot.channel)

theorem bindings_press (recognizer : Recognizer) (now : UInt32) (channel : Nat) (backdate : UInt32) :
    (recognizer.press now channel backdate).value.bindings = recognizer.bindings := by
  rcases recognizer.press_refused_or_accepted now channel backdate with
    refused | ⟨slot, index, _, _, _, accepted⟩
  · rw [refused]
    rfl
  · rw [accepted, value_report, bindings, slots_acceptPress, map_mapIdx_of_same, bindings]
    intro other old
    split
    · rfl
    · split <;> simp

theorem bindings_release (recognizer : Recognizer) (now : UInt32) (channel : Nat) :
    (recognizer.release now channel).value.bindings = recognizer.bindings := by
  rcases recognizer.release_refused_or_accepted now channel with
    refused | ⟨slot, index, _, _, _, accepted⟩
  · rw [refused]
    rfl
  · rw [accepted, value_report, bindings, slots_acceptRelease, map_mapIdx_of_same, bindings]
    intro other old
    split <;> rfl

theorem bindings_tick (recognizer : Recognizer) (now : UInt32) :
    (recognizer.tick now).value.2.bindings = recognizer.bindings := by
  simp [bindings]

theorem Sound.mem_bindings_iff (sound : recognizer.Sound) :
    (key, channel) ∈ recognizer.bindings ↔ recognizer.channelOf? key = some channel := by
  rw [sound.channelOf?_eq_some_iff, bindings, List.mem_map]
  simp only [Prod.mk.injEq]

theorem Sound.channelOf?_eq_some_iff_of_bound (sound : recognizer.Sound)
    (bound : (key, channel) ∈ recognizer.bindings) {other : Key} :
    recognizer.channelOf? other = some channel ↔ other = key := by
  obtain ⟨slot, member, same⟩ := List.mem_map.mp bound
  obtain ⟨rfl, rfl⟩ := Prod.mk.inj same
  rw [sound.channelOf?_eq_channel_iff member, eq_comm]

/-- An edge on the channel of a key finds the key's slot. -/
theorem Sound.atChannel?_of_bound (sound : recognizer.Sound) (bound : (key, channel) ∈ recognizer.bindings) :
    ∃ slot index, recognizer.atChannel? channel = some (slot, index) ∧
      recognizer.chord.down.contains index = recognizer.isDown key := by
  obtain ⟨slot, member, same⟩ := List.mem_map.mp bound
  obtain ⟨rfl, rfl⟩ := Prod.mk.inj same
  obtain ⟨index, place⟩ := List.getElem?_of_mem member
  refine ⟨slot, index, atChannel?_of_getElem? sound.channelsDistinct place, ?_⟩
  rw [sound.contains_eq place, sound.isDown_eq place]

theorem Sound.press?_ok (sound : recognizer.Sound) (bound : (key, channel) ∈ recognizer.bindings)
    (up : recognizer.isDown key = false) (now backdate : UInt32) :
    ∃ outcome, recognizer.press? now channel backdate = .ok outcome := by
  obtain ⟨slot, index, found, marked⟩ := sound.atChannel?_of_bound bound
  exact ⟨_, press?_eq_ok_iff.mpr ⟨slot, index, found, marked.trans up, rfl⟩⟩

theorem Sound.release?_ok (sound : recognizer.Sound) (bound : (key, channel) ∈ recognizer.bindings)
    (down : recognizer.isDown key = true) (now : UInt32) :
    ∃ outcome, recognizer.release? now channel = .ok outcome := by
  obtain ⟨slot, index, found, marked⟩ := sound.atChannel?_of_bound bound
  exact ⟨_, release?_eq_ok_iff.mpr ⟨slot, index, found, marked.trans down, rfl⟩⟩

theorem Sound.exists_binding_of_isDown (sound : recognizer.Sound) (down : recognizer.isDown key = true) :
    ∃ channel, (key, channel) ∈ recognizer.bindings := by
  obtain ⟨slot, member, rfl, _⟩ := sound.isDown_iff.mp down
  exact ⟨slot.channel, List.mem_map_of_mem member⟩

/-- The registered key is on its new channel only, and the others are where they were. -/
theorem Sound.binding_of_register (sound : recognizer.Sound)
    (accepted : recognizer.register key channel = .ok (number, registered)) :
    ∀ binding ∈ registered.bindings,
      binding = (key, channel) ∨ binding ∈ recognizer.bindings ∧ binding.1 ≠ key := by
  obtain ⟨_, ⟨slot, place, same, rfl⟩ | ⟨unknown, _, _, rfl⟩⟩ := register_rebinds_or_adds accepted
  · rw [bindings, List.forall_mem_map, modify_eq_mapIdx]
    apply forall_mem_mapIdx
    intro index old placeOld
    by_cases chosen : number = index
    · subst chosen
      obtain rfl : slot = old := Option.some.inj (place.symm.trans placeOld)
      simp [same]
    · rw [if_neg chosen]
      refine .inr ⟨List.mem_map_of_mem (List.mem_of_getElem? placeOld), ?_⟩
      rw [← same]
      exact sound.key_ne place placeOld (Ne.symm chosen)
  · intro binding member
    rw [bindings, List.map_append, List.mem_append, List.map_singleton, List.mem_singleton] at member
    rcases member with old | new
    · obtain ⟨slot, listed, rfl⟩ := List.mem_map.mp old
      exact .inr ⟨List.mem_map_of_mem listed, unknown slot listed⟩
    · exact .inl new

theorem mem_bindings_register (accepted : recognizer.register key channel = .ok (number, registered)) :
    (key, channel) ∈ registered.bindings := by
  obtain ⟨_, ⟨slot, place, rfl, rfl⟩ | ⟨_, _, _, rfl⟩⟩ := register_rebinds_or_adds accepted
  · have moved : (recognizer.slots.modify number fun slot => { slot with channel })[number]? =
        some { slot with channel } := by
      rw [List.getElem?_modify_eq, place]
      rfl
    exact List.mem_map.mpr ⟨_, List.mem_of_getElem? moved, rfl⟩
  · rw [bindings, List.map_append]
    exact List.mem_append_right _ (List.mem_singleton_self _)

/-- A registration leaves the other keys where they are. -/
theorem mem_bindings_of_register (accepted : recognizer.register key channel = .ok (number, registered))
    {binding : Key × Nat} (bound : binding ∈ recognizer.bindings) (other : binding.1 ≠ key) :
    binding ∈ registered.bindings := by
  obtain ⟨old, member, rfl⟩ := List.mem_map.mp bound
  obtain ⟨_, ⟨slot, place, rfl, rfl⟩ | ⟨_, _, _, rfl⟩⟩ := register_rebinds_or_adds accepted
  · obtain ⟨index, placeOld⟩ := List.getElem?_of_mem member
    have unchanged : number ≠ index := by
      rintro rfl
      exact other (congrArg Slot.key (Option.some.inj (placeOld.symm.trans place)))
    have stays : (recognizer.slots.modify number fun slot => { slot with channel })[index]? = some old := by
      rw [List.getElem?_modify_ne _ _ unchanged, placeOld]
    exact List.mem_map.mpr ⟨old, List.mem_of_getElem? stays, rfl⟩
  · rw [bindings, List.map_append]
    exact List.mem_append_left _ bound

end KeyGesture.Recognizer
