import KeyGesture.Proofs.Recognizer.Run
import KeyGesture.Proofs.Recognizer.SlotTable

namespace KeyGesture.Recognizer

/-! What holds of a recognizer between any two calls: the set of keys that are down, the phases of the
slots and the stage of the chord say the same. -/

def downCount (recognizer : Recognizer) : Nat :=
  recognizer.slots.countP Slot.isDown

theorem downCount_tick (recognizer : Recognizer) (now : UInt32) :
    (recognizer.tick now).value.2.downCount = recognizer.downCount := by
  rw [downCount, downCount, slots_tick, List.countP_map]
  exact List.countP_congr fun slot _ => by simp

structure Sound (recognizer : Recognizer) : Prop where
  fits : recognizer.slots.length ≤ maxKeys
  keysDistinct : (recognizer.slots.map Slot.key).Nodup
  channelsDistinct : (recognizer.slots.map Slot.channel).Nodup
  coherent : ∀ slot ∈ recognizer.slots, slot.Coherent
  mask : ∀ index, recognizer.chord.down.contains index = recognizer.slots[index]?.any Slot.isDown
  alone : recognizer.chord.stage = .inactive → recognizer.downCount ≤ 1
  together : recognizer.chord.stage = .tracking → 2 ≤ recognizer.downCount
  busy : recognizer.chord.stage ≠ .inactive → ∃ slot ∈ recognizer.slots, slot.phase ≠ .idle

theorem sound_fresh : Sound {} :=
  ⟨by decide, by simp, by simp, by simp, by simp [Chord.fresh], fun _ => by decide,
    by simp [Chord.fresh], by simp [Chord.fresh]⟩

namespace Sound

variable {recognizer : Recognizer} {slot : Slot} {index : Nat}

theorem index_lt (sound : recognizer.Sound) (place : recognizer.slots[index]? = some slot) :
    index < 32 := by
  have within := (List.getElem?_eq_some_iff.mp place).1
  have fits := sound.fits
  simp only [maxKeys] at fits
  omega

theorem contains_eq (sound : recognizer.Sound) (place : recognizer.slots[index]? = some slot) :
    recognizer.chord.down.contains index = slot.isDown := by
  rw [sound.mask index, place, Option.any_some]

theorem isEmpty_iff (sound : recognizer.Sound) :
    recognizer.chord.down.isEmpty = true ↔ recognizer.downCount = 0 := by
  rw [SlotSet.isEmpty_iff, downCount, List.countP_eq_zero]
  constructor
  · intro absent slot member down
    obtain ⟨index, place⟩ := List.getElem?_of_mem member
    have contained := sound.contains_eq place
    rw [absent index, down] at contained
    contradiction
  · intro up index
    rw [sound.mask index]
    cases place : recognizer.slots[index]? with
    | none => rfl
    | some slot => simpa using up slot (List.mem_of_getElem? place)

theorem setTiming (sound : recognizer.Sound) (timing : Timing) :
    (recognizer.setTiming timing).Sound :=
  ⟨sound.fits, sound.keysDistinct, sound.channelsDistinct, sound.coherent, sound.mask, sound.alone,
    sound.together, sound.busy⟩

theorem mute (sound : recognizer.Sound) : recognizer.mute.Sound :=
  ⟨sound.fits, sound.keysDistinct, sound.channelsDistinct, sound.coherent, sound.mask, sound.alone,
    sound.together, sound.busy⟩

theorem resume (sound : recognizer.Sound) : recognizer.resume.Sound :=
  ⟨sound.fits, sound.keysDistinct, sound.channelsDistinct, sound.coherent, sound.mask, sound.alone,
    sound.together, sound.busy⟩

/-- What is said of phases alone carries over to slots in the same phases. -/
theorem of_same_phases {moved : Recognizer} (sound : recognizer.Sound)
    (phases : moved.slots.map Slot.phase = recognizer.slots.map Slot.phase)
    (chord : moved.chord = recognizer.chord)
    (keysDistinct : (moved.slots.map Slot.key).Nodup)
    (channelsDistinct : (moved.slots.map Slot.channel).Nodup)
    (coherent : ∀ slot ∈ moved.slots, slot.Coherent) : moved.Sound := by
  have size : moved.slots.length = recognizer.slots.length := by
    simpa using congrArg List.length phases
  have flags : moved.slots.map Slot.isDown = recognizer.slots.map Slot.isDown := by
    have derived := congrArg (List.map fun phase => phase == .pressed || phase == .parked) phases
    rw [List.map_map, List.map_map] at derived
    exact derived
  have count : moved.downCount = recognizer.downCount := by
    have derived := congrArg (List.countP id) flags
    rw [List.countP_map, List.countP_map] at derived
    exact derived
  refine ⟨by rw [size]; exact sound.fits, keysDistinct, channelsDistinct, coherent, ?_, ?_, ?_, ?_⟩
  · intro index
    have derived := congrArg (fun marks => marks[index]?.any id) flags
    simp only [List.getElem?_map, Option.any_map] at derived
    rw [chord]
    exact (sound.mask index).trans derived.symm
  · rw [chord, count]
    exact sound.alone
  · rw [chord, count]
    exact sound.together
  · rw [chord]
    intro active
    obtain ⟨slot, member, unidle⟩ := sound.busy active
    have listed : slot.phase ∈ moved.slots.map Slot.phase := by
      rw [phases]
      exact List.mem_map_of_mem member
    obtain ⟨other, memberOther, same⟩ := List.mem_map.mp listed
    exact ⟨other, memberOther, by rw [same]; exact unidle⟩

/-- A channel that no other key has can be given to a key. -/
theorem channelsDistinct_rebind {channel : Nat} (sound : recognizer.Sound)
    (free : ∀ other old, recognizer.slots[other]? = some old → old.channel = channel →
      index = other) :
    ((recognizer.slots.modify index fun slot => { slot with channel }).map Slot.channel).Nodup := by
  rw [nodup_map_iff]
  intro first second left right foundLeft foundRight same
  simp only [List.getElem?_modify, Option.map_eq_map, Option.map_eq_some_iff] at foundLeft foundRight
  obtain ⟨oldLeft, placeLeft, rfl⟩ := foundLeft
  obtain ⟨oldRight, placeRight, rfl⟩ := foundRight
  by_cases isFirst : index = first
  · by_cases isSecond : index = second
    · exact isFirst.symm.trans isSecond
    · rw [if_pos isFirst, if_neg isSecond] at same
      exact isFirst.symm.trans (free second oldRight placeRight same.symm)
  · by_cases isSecond : index = second
    · rw [if_neg isFirst, if_pos isSecond] at same
      exact (free first oldLeft placeLeft same).symm.trans isSecond
    · rw [if_neg isFirst, if_neg isSecond] at same
      exact nodup_map_iff.mp sound.channelsDistinct first second oldLeft oldRight placeLeft
        placeRight same

theorem rebind {key : Key} {channel : Nat} (sound : recognizer.Sound)
    (place : recognizer.slots[index]? = some slot) (same : slot.key = key)
    (free : ∀ other ∈ recognizer.slots, other.channel = channel → other.key = key) :
    Sound { recognizer with
      slots := recognizer.slots.modify index fun slot => { slot with channel } } := by
  apply sound.of_same_phases
  · rw [modify_eq_mapIdx]
    exact map_mapIdx_of_same fun other old => by split <;> rfl
  · rfl
  · rw [modify_eq_mapIdx, map_mapIdx_of_same fun other old => by split <;> rfl]
    exact sound.keysDistinct
  · apply sound.channelsDistinct_rebind
    intro other old placeOther taken
    have sameKey := free old (List.mem_of_getElem? placeOther) taken
    exact nodup_map_iff.mp sound.keysDistinct index other slot old place placeOther
      (same.trans sameKey.symm)
  · rw [modify_eq_mapIdx]
    apply forall_mem_mapIdx
    intro other old placeOther
    have coherent := sound.coherent old (List.mem_of_getElem? placeOther)
    split
    · exact coherent.rebind channel
    · exact coherent

theorem add {key : Key} {channel : Nat} (sound : recognizer.Sound)
    (room : recognizer.slots.length < maxKeys) (unknown : ∀ slot ∈ recognizer.slots, slot.key ≠ key)
    (free : ∀ slot ∈ recognizer.slots, slot.channel = channel → slot.key = key) :
    Sound { recognizer with slots := recognizer.slots ++ [Slot.fresh key channel] } := by
  have count : Recognizer.downCount
      { recognizer with slots := recognizer.slots ++ [Slot.fresh key channel] } =
        recognizer.downCount := by
    simp [downCount, List.countP_append]
  refine ⟨by simp; omega, ?_, ?_, ?_, ?_, ?_, ?_, ?_⟩
  · rw [List.map_append, List.nodup_append]
    refine ⟨sound.keysDistinct, by simp, ?_⟩
    intro old member new isNew same
    obtain ⟨slot, listed, rfl⟩ := List.mem_map.mp member
    exact unknown slot listed (same.trans (List.mem_singleton.mp isNew))
  · rw [List.map_append, List.nodup_append]
    refine ⟨sound.channelsDistinct, by simp, ?_⟩
    intro old member new isNew same
    obtain ⟨slot, listed, rfl⟩ := List.mem_map.mp member
    exact unknown slot listed (free slot listed (same.trans (List.mem_singleton.mp isNew)))
  · intro slot member
    rcases List.mem_append.mp member with old | new
    · exact sound.coherent slot old
    · rw [List.mem_singleton.mp new]
      exact .fresh key channel
  · intro index
    rw [sound.mask index]
    rcases Nat.lt_trichotomy index recognizer.slots.length with before | last | beyond
    · rw [List.getElem?_append_left before]
    · subst last
      simp
    · rw [List.getElem?_eq_none (by omega), List.getElem?_eq_none (by simp; omega)]
  · rw [count]
    exact sound.alone
  · rw [count]
    exact sound.together
  · intro active
    obtain ⟨slot, member, unidle⟩ := sound.busy active
    exact ⟨slot, List.mem_append_left _ member, unidle⟩

theorem downCount_acceptPress (place : recognizer.slots[index]? = some slot)
    (up : slot.isDown = false) (instant : UInt32) :
    (recognizer.acceptPress slot index instant).value.downCount = recognizer.downCount + 1 := by
  let based := fun slot : Slot =>
    if (recognizer.chord.join index).stage = .tracking then slot.rebase recognizer.timing instant
    else slot
  have flags : ∀ slot, (based slot).isDown = slot.isDown := by
    intro slot
    simp only [based]
    split <;> simp
  have shape : (recognizer.acceptPress slot index instant).value.slots =
      (recognizer.slots.map based).modify index fun slot => slot.press recognizer.timing instant := by
    simp only [acceptPress, based]
    split <;> simp
  have found : (recognizer.slots.map based)[index]? = some (based slot) := by simp [place]
  have counted := countP_modify Slot.isDown (fun slot => slot.press recognizer.timing instant) found
  have total : (recognizer.slots.map based).countP Slot.isDown = recognizer.downCount := by
    rw [List.countP_map, downCount]
    exact List.countP_congr fun slot _ => by simp [flags]
  simp only [flags, up, Slot.isDown_press, total] at counted
  rw [downCount, shape]
  simpa using counted

theorem downCount_acceptRelease (place : recognizer.slots[index]? = some slot)
    (down : slot.isDown = true) (now : UInt32) :
    (recognizer.acceptRelease slot index now).value.downCount + 1 = recognizer.downCount := by
  have counted := countP_modify Slot.isDown
    (fun old => old.lift now (recognizer.timing.releaseGesture (slot.hold now))) place
  rw [if_pos down, if_neg (by simp)] at counted
  exact counted

/-- A press tests which keys are down before it marks its own, so that the chord it may open has two. -/
theorem acceptPress (sound : recognizer.Sound) (place : recognizer.slots[index]? = some slot)
    (unmarked : recognizer.chord.down.contains index = false) (instant : UInt32) :
    (recognizer.acceptPress slot index instant).value.Sound := by
  have up : slot.isDown = false := (sound.contains_eq place).symm.trans unmarked
  have count := downCount_acceptPress place up instant
  have slots := recognizer.slots_acceptPress slot index instant
  refine ⟨?_, ?_, ?_, ?_, ?_, ?_, ?_, ?_⟩
  · rw [slots, List.length_mapIdx]
    exact sound.fits
  · rw [slots, map_mapIdx_of_same]
    · exact sound.keysDistinct
    · intro other old
      split
      · rfl
      · split <;> simp
  · rw [slots, map_mapIdx_of_same]
    · exact sound.channelsDistinct
    · intro other old
      split
      · rfl
      · split <;> simp
  · rw [slots]
    apply forall_mem_mapIdx
    intro other old placeOther
    have coherent := sound.coherent old (List.mem_of_getElem? placeOther)
    split
    · exact .press instant
    · split
      · exact coherent.rebase instant
      · exact coherent
  · intro other
    rw [slots, List.getElem?_mapIdx]
    change (recognizer.chord.down.insert index).contains other = _
    rw [SlotSet.contains_insert (sound.index_lt place), sound.mask other]
    by_cases chosen : index = other
    · subst chosen
      simp [place]
    · simp only [Ne.symm chosen, decide_false, Bool.false_or, if_neg chosen, Option.any_map]
      congr 1
      funext old
      split <;> simp
  · intro inactive
    rw [count]
    have joined : (recognizer.chord.join index).stage = .inactive := inactive
    have empty : recognizer.chord.down.isEmpty = true := by
      simp only [Chord.join] at joined
      grind
    have none := sound.isEmpty_iff.mp empty
    omega
  · intro tracking
    rw [count]
    have joined : (recognizer.chord.join index).stage = .tracking := tracking
    simp only [Chord.join] at joined
    split at joined
    · rename_i opened
      have some : recognizer.downCount ≠ 0 := fun none => by
        have empty := sound.isEmpty_iff.mpr none
        rw [opened.2] at empty
        contradiction
      omega
    · have two := sound.together joined
      omega
  · intro _
    have pressed : (recognizer.acceptPress slot index instant).value.slots[index]? =
        some (slot.press recognizer.timing instant) := by
      rw [slots, List.getElem?_mapIdx, place]
      simp
    exact ⟨_, List.mem_of_getElem? pressed, by simp [Slot.press]⟩

theorem acceptRelease (sound : recognizer.Sound) (place : recognizer.slots[index]? = some slot)
    (marked : recognizer.chord.down.contains index = true) (now : UInt32) :
    (recognizer.acceptRelease slot index now).value.Sound := by
  have down : slot.isDown = true := (sound.contains_eq place).symm.trans marked
  have count := downCount_acceptRelease place down now
  have slots := recognizer.slots_acceptRelease slot index now
  have stage : (recognizer.acceptRelease slot index now).value.chord.stage =
      if recognizer.chord.stage = .tracking then .closed else recognizer.chord.stage :=
    Chord.stage_leave _ _ _
  refine ⟨?_, ?_, ?_, ?_, ?_, ?_, ?_, ?_⟩
  · rw [slots, List.length_mapIdx]
    exact sound.fits
  · rw [slots, map_mapIdx_of_same fun other old => by split <;> rfl]
    exact sound.keysDistinct
  · rw [slots, map_mapIdx_of_same fun other old => by split <;> rfl]
    exact sound.channelsDistinct
  · rw [slots]
    apply forall_mem_mapIdx
    intro other old placeOther
    split
    · exact .lift now _
    · exact sound.coherent old (List.mem_of_getElem? placeOther)
  · intro other
    rw [slots, List.getElem?_mapIdx]
    change (recognizer.chord.leave index _).down.contains other = _
    rw [Chord.down_leave, SlotSet.contains_erase, sound.mask other]
    by_cases chosen : index = other
    · subst chosen
      simp [place]
    · simp [chosen, Ne.symm chosen]
  · intro inactive
    have before : recognizer.chord.stage = .inactive := by
      rw [stage] at inactive
      split at inactive
      · contradiction
      · exact inactive
    have one := sound.alone before
    omega
  · intro tracking
    rw [stage] at tracking
    split at tracking
    · contradiction
    · contradiction
  · intro _
    have lifted : (recognizer.acceptRelease slot index now).value.slots[index]? =
        some (slot.lift now (recognizer.timing.releaseGesture (slot.hold now))) := by
      rw [slots, List.getElem?_mapIdx, place]
      simp
    exact ⟨_, List.mem_of_getElem? lifted, by simp [Slot.lift]⟩

theorem tick (sound : recognizer.Sound) (now : UInt32) : (recognizer.tick now).value.2.Sound := by
  have slots := recognizer.slots_tick now
  have stage := recognizer.stage_tick now
  have count := recognizer.downCount_tick now
  refine ⟨?_, ?_, ?_, ?_, ?_, ?_, ?_, ?_⟩
  · rw [slots, List.length_map]
    exact sound.fits
  · simpa [slots, Function.comp_def] using sound.keysDistinct
  · simpa [slots, Function.comp_def] using sound.channelsDistinct
  · intro slot member
    rw [slots] at member
    obtain ⟨old, listed, rfl⟩ := List.mem_map.mp member
    exact (sound.coherent old listed).tick now
  · intro index
    rw [down_tick, slots, sound.mask index, List.getElem?_map, Option.any_map]
    congr 1
    funext slot
    simp
  · intro inactive
    rw [stage] at inactive
    split at inactive
    · rename_i settled
      have rested : ∀ slot ∈ (recognizer.tick now).value.2.slots, slot.phase = .idle := by
        rw [slots]
        exact allIdle_iff.mp settled
      have none : (recognizer.tick now).value.2.downCount = 0 := by
        rw [downCount, List.countP_eq_zero]
        exact fun slot member down =>
          Slot.phase_ne_idle_of_isDown down (rested slot member)
      omega
    · rw [count]
      exact sound.alone inactive
  · intro tracking
    rw [stage] at tracking
    split at tracking
    · contradiction
    · rw [count]
      exact sound.together tracking
  · intro active
    rw [stage] at active
    split at active
    · contradiction
    · rename_i unsettled
      rw [slots]
      simp only [allIdle_iff, not_forall, exists_prop] at unsettled
      exact unsettled

theorem press (sound : recognizer.Sound) (now : UInt32) (channel : Nat) (backdate : UInt32) :
    (recognizer.press now channel backdate).value.Sound := by
  rcases recognizer.press_refused_or_accepted now channel backdate with
    refused | ⟨slot, index, place, _, unmarked, accepted⟩
  · rwa [refused]
  · rw [accepted, value_report]
    exact sound.acceptPress place unmarked _

theorem release (sound : recognizer.Sound) (now : UInt32) (channel : Nat) :
    (recognizer.release now channel).value.Sound := by
  rcases recognizer.release_refused_or_accepted now channel with
    refused | ⟨slot, index, place, _, marked, accepted⟩
  · rwa [refused]
  · rw [accepted, value_report]
    exact sound.acceptRelease place marked now

theorem register {key : Key} {channel number : Nat} {registered : Recognizer}
    (sound : recognizer.Sound)
    (accepted : recognizer.register key channel = .ok (number, registered)) : registered.Sound := by
  obtain ⟨free, ⟨slot, place, same, rfl⟩ | ⟨unknown, room, rfl, rfl⟩⟩ :=
    register_rebinds_or_adds accepted
  · exact sound.rebind place same free
  · exact sound.add room unknown free

theorem answer (sound : recognizer.Sound) (now : UInt32) (call : Call) :
    (recognizer.answer now call).value.2.Sound := by
  cases call with
  | register key channel =>
      cases answered : recognizer.register key channel with
      | ok accepted =>
          simp only [Recognizer.answer, answered]
          exact sound.register answered
      | error cause =>
          simp only [Recognizer.answer, answered]
          exact sound
  | setTiming timing => exact sound.setTiming timing
  | press channel backdate => exact sound.press now channel backdate
  | release channel => exact sound.release now channel
  | tick => exact sound.tick now
  | mute => exact sound.mute
  | resume => exact sound.resume

theorem run (sound : recognizer.Sound) (calls : List (UInt32 × Call)) : (recognizer.run calls).Sound :=
  run_preserves Sound (fun _ now call kept => kept.answer now call) sound calls

end Sound

/-- A chord ends only by every key coming to rest. -/
theorem idle_of_stage_inactive {recognizer : Recognizer} {now : UInt32} {call : Call}
    (active : recognizer.chord.stage ≠ .inactive)
    (ended : (recognizer.answer now call).value.2.chord.stage = .inactive) :
    ∀ slot ∈ (recognizer.answer now call).value.2.slots, slot.phase = .idle := by
  cases call with
  | register key channel =>
      simp only [answer] at ended
      split at ended
      · rename_i registered accepted
        rw [eq_of_register accepted] at ended
        exact absurd ended active
      · exact absurd ended active
  | setTiming timing => exact absurd ended active
  | press channel backdate =>
      have stage : (recognizer.press now channel backdate).value.chord.stage =
          recognizer.chord.stage := by
        rcases recognizer.press_refused_or_accepted now channel backdate with
          refused | ⟨_, _, _, _, _, accepted⟩
        · rw [refused]
          rfl
        · rw [accepted, value_report]
          simp only [acceptPress, Chord.join, active, false_and, if_false]
      exact absurd (stage.symm.trans ended) active
  | release channel =>
      have stage : (recognizer.release now channel).value.chord.stage ≠ .inactive := by
        rcases recognizer.release_refused_or_accepted now channel with
          refused | ⟨_, _, _, _, _, accepted⟩
        · rw [refused]
          exact active
        · rw [accepted, value_report]
          simp only [acceptRelease, Chord.stage_leave]
          split
          · simp
          · exact active
      exact absurd ended stage
  | tick =>
      change (recognizer.tick now).value.2.chord.stage = _ at ended
      rw [stage_tick] at ended
      split at ended
      · rename_i settled
        change ∀ slot ∈ (recognizer.tick now).value.2.slots, slot.phase = .idle
        rw [slots_tick]
        exact allIdle_iff.mp settled
      · exact absurd ended active
  | mute => exact absurd ended active
  | resume => exact absurd ended active

theorem countP_range_getElem? {α : Type} (wanted : α → Bool) {items : List α} {bound : Nat}
    (within : items.length ≤ bound) :
    (List.range bound).countP (fun index => items[index]?.any wanted) = items.countP wanted := by
  induction items generalizing bound with
  | nil => simp
  | cons head rest ih =>
      cases bound with
      | zero => simp at within
      | succ bound =>
          have tail : rest.length ≤ bound := by simpa using within
          rw [List.range_succ_eq_map, List.countP_cons, List.countP_map, List.countP_cons, ← ih tail]
          simp [Function.comp_def]

theorem Sound.count_eq {recognizer : Recognizer} (sound : recognizer.Sound) :
    recognizer.chord.down.count = recognizer.downCount := by
  have fits := sound.fits
  have within : recognizer.slots.length ≤ 32 := by
    simp only [maxKeys] at fits
    omega
  rw [downCount, ← countP_range_getElem? Slot.isDown within, SlotSet.count]
  exact List.countP_congr fun index _ => by rw [sound.mask index]

/-- After any calls at any readings of the clock: a key is in the set of those that are down exactly when
its slot is pressed or parked; a slot has a release time exactly while its tap window runs, so that no
window stays open for want of one; a slot keeps taps only until it is idle and a repeat only while it is
down; and the stage of the chord fits the number of keys down and is inactive once all are idle. -/
theorem phases_down_and_stage_agree (calls : List (UInt32 × Call)) :
    let reached := run {} calls
    (∀ index, reached.chord.down.contains index = true ↔
        ∃ slot, reached.slots[index]? = some slot ∧ (slot.phase = .pressed ∨ slot.phase = .parked)) ∧
      (∀ slot ∈ reached.slots, (∃ released, slot.releasedAt = some released) ↔ slot.phase = .lifted) ∧
      (∀ slot ∈ reached.slots, slot.phase = .idle → slot.taps = 0) ∧
      (∀ slot ∈ reached.slots, slot.phase ≠ .pressed → slot.phase ≠ .parked →
        slot.repeatedAt = none) ∧
      reached.chord.down.count = reached.downCount ∧
      (reached.chord.stage = .inactive → reached.downCount ≤ 1) ∧
      (reached.chord.stage = .tracking → 2 ≤ reached.downCount) ∧
      (reached.chord.stage ≠ .inactive → ∃ slot ∈ reached.slots, slot.phase ≠ .idle) := by
  intro reached
  have sound : reached.Sound := sound_fresh.run calls
  refine ⟨?_, ?_, ?_, ?_, sound.count_eq, sound.alone, sound.together, sound.busy⟩
  · intro index
    rw [sound.mask index, Option.any_eq_true]
    simp only [Slot.isDown_iff]
  · intro slot member
    rw [← Option.isSome_iff_exists]
    exact (sound.coherent slot member).released
  · exact fun slot member => (sound.coherent slot member).untapped
  · intro slot member unpressed unparked
    apply (sound.coherent slot member).unrepeated
    simp [Slot.isDown, unpressed, unparked]

end KeyGesture.Recognizer
