import KeyGesture.Proofs.Recognizer.DownKeys

namespace KeyGesture.Recognizer

/-! Registering a key. The key and the channel are looked up separately, each for its first match, before
the one slot is moved or added. As neither is ever listed twice, what a registration does can be told from
the lookups alone. -/

variable {recognizer registered : Recognizer} {key other : Key} {slot : Slot} {channel number index : Nat}

/-- What a registration leaves of a recognizer: the key in the slot it had, or in a fresh one behind all
others, on the channel it is bound to now, and all else as it was. -/
structure Registers (recognizer : Recognizer) (key : Key) (channel number : Nat)
    (registered : Recognizer) : Prop where
  bound : registered.channelOf? key = some channel
  known : ∀ slot index, recognizer.ofKey? key = some (slot, index) →
    number = index ∧ registered.ofKey? key = some ({ slot with channel }, number)
  added : recognizer.ofKey? key = none → number = recognizer.slots.length ∧
    registered.ofKey? key = some (.fresh key channel, number)
  others : ∀ other, other ≠ key → registered.ofKey? other = recognizer.ofKey? other
  down : ∀ other, registered.isDown other = recognizer.isDown other
  rest : registered = { recognizer with slots := registered.slots }

/-! Which of the two searches decides. -/

/-- Whether the channel is bound to a key other than the given one. -/
def taken (recognizer : Recognizer) (key : Key) (channel : Nat) : Bool :=
  recognizer.slots.any fun slot => slot.channel == channel && slot.key != key

theorem register_of_taken (taken : recognizer.taken key channel = true) :
    recognizer.register key channel = .error .channelTaken :=
  if_pos taken

theorem register_of_known (free : ¬ recognizer.taken key channel = true)
    (found : recognizer.ofKey? key = some (slot, index)) :
    recognizer.register key channel = .ok (index,
      { recognizer with slots := recognizer.slots.modify index fun slot => { slot with channel } }) := by
  rw [register, found]
  exact if_neg free

theorem register_of_unknown (free : ¬ recognizer.taken key channel = true)
    (absent : recognizer.ofKey? key = none) :
    recognizer.register key channel =
      if recognizer.slots.length < maxKeys then .ok (recognizer.slots.length,
        { recognizer with slots := recognizer.slots ++ [Slot.fresh key channel] })
      else .error .full := by
  rw [register, absent]
  exact if_neg free

theorem register_channelTaken_iff : recognizer.register key channel = .error .channelTaken ↔
    recognizer.taken key channel = true := by
  refine ⟨fun refused => ?_, register_of_taken⟩
  by_contra free
  cases found : recognizer.ofKey? key with
  | some entry =>
      rw [register_of_known free found] at refused
      contradiction
  | none =>
      rw [register_of_unknown free found] at refused
      split at refused <;> contradiction

theorem register_full_iff : recognizer.register key channel = .error .full ↔
    ¬ recognizer.taken key channel = true ∧ recognizer.ofKey? key = none ∧
      maxKeys ≤ recognizer.slots.length := by
  by_cases free : recognizer.taken key channel = true
  · simp [register_of_taken free, free]
  · cases found : recognizer.ofKey? key with
    | some entry => simp [register_of_known free found]
    | none => simp [register_of_unknown free found, free]

theorem register_error_cases {cause : Rejection}
    (refused : recognizer.register key channel = .error cause) : cause = .channelTaken ∨ cause = .full := by
  by_cases free : recognizer.taken key channel = true
  · rw [register_of_taken free] at refused
    exact .inl (Except.error.inj refused).symm
  · cases found : recognizer.ofKey? key with
    | some entry =>
        rw [register_of_known free found] at refused
        contradiction
    | none =>
        rw [register_of_unknown free found] at refused
        split at refused
        · contradiction
        · exact .inr (Except.error.inj refused).symm

theorem answer_of_register_error {cause : Rejection}
    (refused : recognizer.register key channel = .error cause) (now : UInt32) :
    recognizer.answer now (.register key channel) = .quiet (.refused cause, recognizer) := by
  rw [answer, refused]

theorem channelOf?_eq_none_iff : recognizer.channelOf? key = none ↔ recognizer.ofKey? key = none := by
  rw [channelOf?, Option.map_eq_none_iff]

namespace Sound

theorem taken_iff (sound : recognizer.Sound) : recognizer.taken key channel = true ↔
    ∃ other, other ≠ key ∧ recognizer.channelOf? other = some channel := by
  simp only [taken, List.any_eq_true, Bool.and_eq_true, beq_iff_eq, bne_iff_ne,
    sound.channelOf?_eq_some_iff]
  constructor
  · rintro ⟨slot, member, same, different⟩
    exact ⟨slot.key, different, slot, member, rfl, same⟩
  · rintro ⟨_, different, slot, member, rfl, same⟩
    exact ⟨slot, member, same, different⟩

/-! What an accepted registration leaves. -/

theorem place_of_register (accepted : recognizer.register key channel = .ok (number, registered))
    (place : recognizer.slots[index]? = some slot) (different : slot.key ≠ key) :
    registered.slots[index]? = some slot := by
  obtain ⟨_, ⟨old, placeOld, rfl, rfl⟩ | ⟨_, _, rfl, rfl⟩⟩ := register_rebinds_or_adds accepted
  · have elsewhere : number ≠ index := by
      rintro rfl
      exact different (congrArg Slot.key (Option.some.inj (place.symm.trans placeOld)))
    exact (List.getElem?_modify_ne _ _ elsewhere).trans place
  · have within := (List.getElem?_eq_some_iff.mp place).1
    exact (List.getElem?_append_left within).trans place

/-- The key is found in the slot it had, or in the one that was added for it. -/
theorem ofKey?_of_register (sound : recognizer.Sound)
    (accepted : recognizer.register key channel = .ok (number, registered)) :
    (∃ slot, recognizer.ofKey? key = some (slot, number) ∧
        registered.ofKey? key = some ({ slot with channel }, number)) ∨
      recognizer.ofKey? key = none ∧ number = recognizer.slots.length ∧
        registered.ofKey? key = some (.fresh key channel, number) := by
  have distinct := (sound.register accepted).keysDistinct
  obtain ⟨_, ⟨slot, place, rfl, rfl⟩ | ⟨unknown, _, rfl, rfl⟩⟩ := register_rebinds_or_adds accepted
  · have moved : (recognizer.slots.modify number fun slot => { slot with channel })[number]? =
        some { slot with channel } := by
      rw [List.getElem?_modify_eq, place]
      rfl
    exact .inl ⟨slot, ofKey?_of_getElem? sound.keysDistinct place, ofKey?_of_getElem? distinct moved⟩
  · refine .inr ⟨ofKey?_eq_none_iff.mpr unknown, rfl, ?_⟩
    exact ofKey?_of_getElem? distinct List.getElem?_concat_length

theorem ofKey?_of_register_of_ne (sound : recognizer.Sound)
    (accepted : recognizer.register key channel = .ok (number, registered)) (different : other ≠ key) :
    registered.ofKey? other = recognizer.ofKey? other := by
  cases found : recognizer.ofKey? other with
  | some entry =>
      obtain ⟨slot, index⟩ := entry
      obtain ⟨place, rfl⟩ := ofKey?_eq_some found
      exact ofKey?_of_getElem? (sound.register accepted).keysDistinct
        (place_of_register accepted place different)
  | none =>
      rw [ofKey?_eq_none_iff] at found ⊢
      intro slot member
      rcases mem_slots_of_register accepted member with ⟨old, listed, _, rfl⟩ | rfl
      · exact found old listed
      · exact different.symm

/-- Marks go by the number of a slot, which no registration changes; behind the last slot there are none. -/
theorem isDown_of_register (sound : recognizer.Sound)
    (accepted : recognizer.register key channel = .ok (number, registered)) (other : Key) :
    registered.isDown other = recognizer.isDown other := by
  have chord : registered.chord = recognizer.chord := by rw [eq_of_register accepted]
  rw [isDown, isDown, chord]
  by_cases different : other = key
  · subst different
    rcases sound.ofKey?_of_register accepted with ⟨slot, before, after⟩ | ⟨before, rfl, after⟩
    · rw [before, after]
      rfl
    · rw [before, after, Option.any_some, sound.mask, List.getElem?_eq_none (Nat.le_refl _)]
      rfl
  · rw [sound.ofKey?_of_register_of_ne accepted different]

theorem registers (sound : recognizer.Sound)
    (accepted : recognizer.register key channel = .ok (number, registered)) :
    recognizer.Registers key channel number registered := by
  have own := sound.ofKey?_of_register accepted
  refine ⟨?_, ?_, ?_, fun other => sound.ofKey?_of_register_of_ne accepted, sound.isDown_of_register accepted,
    eq_of_register accepted⟩
  · rw [channelOf?]
    rcases own with ⟨slot, _, after⟩ | ⟨_, _, after⟩
    · rw [after]
      rfl
    · rw [after]
      rfl
  · intro slot index found
    rcases own with ⟨old, before, after⟩ | ⟨absent, _⟩
    · obtain ⟨rfl, rfl⟩ := Prod.mk.inj (Option.some.inj (before.symm.trans found))
      exact ⟨rfl, after⟩
    · rw [absent] at found
      contradiction
  · intro absent
    rcases own with ⟨slot, before, _⟩ | ⟨_, last, after⟩
    · rw [absent] at before
      contradiction
    · exact ⟨last, after⟩

end Sound

/-- In every state that can be reached there are no more slots than fit, and no two have the same key or
the same channel. Registering a key on a channel fails because the channel is taken exactly if another key
is bound to it; if not, it fails for want of room exactly if the key is new and all slots are used; and a
failure changes nothing. If it succeeds, the key is on the channel, in the slot it had with its gesture as
it was, or in a fresh one whose number is how many there were; all other keys stay in their slots with
their channels and gestures, and the same keys are down as before. -/
theorem registration_keeps_bindings_one_to_one (calls : List (UInt32 × Call)) :
    let reached := run {} calls
    reached.slots.length ≤ maxKeys ∧ (reached.slots.map Slot.channel).Nodup ∧
      (reached.slots.map Slot.key).Nodup ∧ ∀ key channel,
        (reached.register key channel = .error .channelTaken ↔
          ∃ other, other ≠ key ∧ reached.channelOf? other = some channel) ∧
        (reached.register key channel = .error .full ↔
          (¬ ∃ other, other ≠ key ∧ reached.channelOf? other = some channel) ∧
            reached.channelOf? key = none ∧ reached.slots.length = maxKeys) ∧
        (∀ cause, reached.register key channel = .error cause →
          (cause = .channelTaken ∨ cause = .full) ∧
            ∀ now, reached.answer now (.register key channel) = .quiet (.refused cause, reached)) ∧
        ∀ number registered, reached.register key channel = .ok (number, registered) →
          reached.Registers key channel number registered := by
  intro reached
  have sound : reached.Sound := sound_fresh.run calls
  refine ⟨sound.fits, sound.channelsDistinct, sound.keysDistinct, fun key channel => ?_⟩
  refine ⟨register_channelTaken_iff.trans sound.taken_iff, ?_, fun cause refused => ?_,
    fun number registered => sound.registers⟩
  · have full : maxKeys ≤ reached.slots.length ↔ reached.slots.length = maxKeys :=
      ⟨Nat.le_antisymm sound.fits, fun full => Nat.le_of_eq full.symm⟩
    rw [register_full_iff, sound.taken_iff, channelOf?_eq_none_iff, full]
  · exact ⟨register_error_cases refused, answer_of_register_error refused⟩

/-- A key that is held moves to another channel, but not to one that is taken. -/
theorem registration_moves_held_key :
    let calls : List (UInt32 × Call) :=
      [(0, .register ⟨1, .io⟩ 5), (0, .register ⟨2, .touch⟩ 11), (0, .press 5 0)]
    let reached := run {} calls
    let moved := { reached with slots := reached.slots.modify 0 fun slot => { slot with channel := 7 } }
    reached.register ⟨1, .io⟩ 11 = .error .channelTaken ∧ reached.register ⟨1, .io⟩ 7 = .ok (0, moved) ∧
      reached.Registers ⟨1, .io⟩ 7 0 moved ∧ moved.isDown ⟨1, .io⟩ = true := by
  intro calls reached moved
  obtain ⟨_, _, _, registering⟩ := registration_keeps_bindings_one_to_one calls
  have taken := (registering ⟨1, .io⟩ 11).1.mpr ⟨⟨2, .touch⟩, by decide, by decide⟩
  have accepted : reached.register ⟨1, .io⟩ 7 = .ok (0, moved) := by rfl
  have registers := (registering ⟨1, .io⟩ 7).2.2.2 0 moved accepted
  exact ⟨taken, accepted, registers, (registers.down ⟨1, .io⟩).trans (by decide)⟩

end KeyGesture.Recognizer
