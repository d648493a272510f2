import KeyGesture.Proofs.Recognizer.Bindings

namespace KeyGesture

/-! Presses at one time. Each may open a chord or join one, and so move the start of every hold, but they all
move it to the same instant. What they leave is the same in whatever order they come. -/

namespace Slot

variable {timing : Timing} {instant : UInt32}

@[simp] theorem press_press (slot : Slot) :
    (slot.press timing instant).press timing instant = slot.press timing instant := rfl

/-- A hold that has just begun is given the start it has. -/
@[simp] theorem rebase_press (slot : Slot) :
    (slot.press timing instant).rebase timing instant = slot.press timing instant := rfl

@[simp] theorem rebase_rebase (slot : Slot) :
    (slot.rebase timing instant).rebase timing instant = slot.rebase timing instant := by
  by_cases idle : slot.phase = .idle
  · simp only [rebase, idle, if_true]
  · simp only [rebase, idle, if_false]

end Slot

namespace SlotSet

theorem insert_comm (slots : SlotSet) (first second : Nat) :
    (slots.insert first).insert second = (slots.insert second).insert first := by
  simp only [insert, BitVec.or_assoc, BitVec.or_comm (BitVec.twoPow 32 first)]

theorem isEmpty_insert (slots : SlotSet) {index : Nat} (bound : index < 32) :
    (slots.insert index).isEmpty = false := by
  rw [Bool.eq_false_iff, ne_eq, isEmpty_iff]
  intro absent
  have present := absent index
  rw [contains_insert bound, decide_eq_true rfl, Bool.true_or] at present
  contradiction

end SlotSet

namespace Chord

variable {first second : Nat}

/-- Two keys that go down make a chord, unless one is closed. -/
theorem join_join (chord : Chord) (bound : first < 32) :
    (chord.join first).join second = { chord with
      stage := if chord.stage = .inactive then .tracking else chord.stage
      down := (chord.down.insert first).insert second } := by
  simp only [join, chord.down.isEmpty_insert bound]
  grind

theorem join_comm (chord : Chord) (boundFirst : first < 32) (boundSecond : second < 32) :
    (chord.join first).join second = (chord.join second).join first := by
  rw [join_join chord boundFirst, join_join chord boundSecond, SlotSet.insert_comm]

theorem stage_join_ne_tracking {chord : Chord} (bound : first < 32)
    (untracked : ((chord.join first).join second).stage ≠ .tracking) :
    (chord.join first).stage ≠ .tracking := by
  rw [join_join chord bound] at untracked
  simp only [join]
  grind

end Chord

namespace Recognizer

variable {recognizer : Recognizer} {slot other : Slot} {index position channel : Nat}

/-- Each slot after two presses at one instant, whatever the order. -/
theorem slots_acceptPress_acceptPress (bound : index < 32) (instant : UInt32) :
    (((recognizer.acceptPress slot index instant).value).acceptPress other position instant).value.slots =
      recognizer.slots.mapIdx fun place old =>
        if index = place ∨ position = place then old.press recognizer.timing instant
        else if ((recognizer.chord.join index).join position).stage = .tracking then
          old.rebase recognizer.timing instant
        else old := by
  have timing : (recognizer.acceptPress slot index instant).value.timing = recognizer.timing := rfl
  have chord : (recognizer.acceptPress slot index instant).value.chord = recognizer.chord.join index := rfl
  apply List.ext_getElem?
  intro place
  rw [slots_acceptPress, slots_acceptPress, timing, chord, List.getElem?_mapIdx, List.getElem?_mapIdx,
    List.getElem?_mapIdx, Option.map_map]
  congr 1
  funext old
  rw [Function.comp_apply]
  by_cases isFirst : index = place
  · simp [isFirst]
  by_cases isSecond : position = place
  · simp only [isFirst, isSecond, if_true, if_false, or_true]
    split <;> simp
  · simp only [isFirst, isSecond, if_false, or_self]
    by_cases tracking : ((recognizer.chord.join index).join position).stage = .tracking
    · simp only [tracking, if_true]
      split <;> simp
    · have before := Chord.stage_join_ne_tracking bound tracking
      simp only [tracking, before, if_false]

theorem acceptPress_comm (boundIndex : index < 32) (boundPosition : position < 32) (slot' other' : Slot)
    (instant : UInt32) :
    ((recognizer.acceptPress slot index instant).value.acceptPress other position instant).value =
      ((recognizer.acceptPress other' position instant).value.acceptPress slot' index instant).value := by
  have chord := recognizer.chord.join_comm boundIndex boundPosition
  have slots : ((recognizer.acceptPress slot index instant).value.acceptPress other position
      instant).value.slots =
        ((recognizer.acceptPress other' position instant).value.acceptPress slot' index
          instant).value.slots := by
    rw [slots_acceptPress_acceptPress boundIndex, slots_acceptPress_acceptPress boundPosition, chord]
    simp only [or_comm]
  exact congrArg₂ (fun slots chord => { recognizer with slots, chord }) slots chord

namespace Sound

/-- A press changes nothing exactly when no key is up on its channel. -/
theorem press_eq_quiet_iff (sound : recognizer.Sound) (now : UInt32) (channel : Nat) (backdate : UInt32) :
    recognizer.press now channel backdate = .quiet recognizer ↔
      ∀ key, recognizer.channelOf? key = some channel → recognizer.isDown key = true := by
  constructor
  · intro unchanged key bound
    have pressed : (recognizer.press now channel backdate).value.isDown key = true ↔
        recognizer.isDown key = true ∨ recognizer.channelOf? key = some channel :=
      sound.isDown_press now channel backdate
    rw [unchanged] at pressed
    exact pressed.mpr (.inr bound)
  · intro down
    rcases recognizer.press_refused_or_accepted now channel backdate with
      refused | ⟨slot, index, place, rfl, unmarked, _⟩
    · exact refused
    · have bound := (sound.channelOf?_eq_channel_iff (List.mem_of_getElem? place)).mpr rfl
      have marked := down slot.key bound
      rw [sound.isDown_eq place, ← sound.contains_eq place, unmarked] at marked
      contradiction

theorem channelOf?_press (sound : recognizer.Sound) (now : UInt32) (pressed : Nat) (backdate : UInt32)
    (key : Key) : (recognizer.press now pressed backdate).value.channelOf? key = some channel ↔
      recognizer.channelOf? key = some channel := by
  rw [← (sound.press now pressed backdate).mem_bindings_iff, bindings_press, sound.mem_bindings_iff]

/-- What is refused stays refused while other keys go down. -/
theorem press_of_refused (sound : recognizer.Sound) {now backdate : UInt32} {refused : Nat}
    (unchanged : recognizer.press now refused backdate = .quiet recognizer) (pressed : Nat) :
    let after := (recognizer.press now pressed backdate).value
    after.press now refused backdate = .quiet after := by
  intro after
  rw [press_eq_quiet_iff (sound.press now pressed backdate)]
  intro key bound
  rw [sound.channelOf?_press] at bound
  have down := (sound.press_eq_quiet_iff now refused backdate).mp unchanged key bound
  exact (sound.isDown_press now pressed backdate).mpr (.inl down)

theorem value_press (sound : recognizer.Sound) (place : recognizer.slots[index]? = some slot)
    (unmarked : recognizer.chord.down.contains index = false) (now backdate : UInt32) :
    (recognizer.press now slot.channel backdate).value =
      (recognizer.acceptPress slot index (now - backdate)).value := by
  have found := atChannel?_of_getElem? sound.channelsDistinct place
  have accepted : recognizer.press? now slot.channel backdate =
      .ok (recognizer.acceptPress slot index (now - backdate)) :=
    press?_eq_ok_iff.mpr ⟨slot, index, found, unmarked, rfl⟩
  rw [Recognizer.press, accepted, ignoreRefused, value_report]

/-- The second of two presses finds its key where it was, and still up. -/
theorem value_press_press (sound : recognizer.Sound) (place : recognizer.slots[index]? = some slot)
    (unmarked : recognizer.chord.down.contains index = false)
    (placeOther : recognizer.slots[position]? = some other)
    (unmarkedOther : recognizer.chord.down.contains position = false) (different : position ≠ index)
    (now backdate : UInt32) :
    ∃ moved, ((recognizer.press now slot.channel backdate).value.press now other.channel backdate).value =
      ((recognizer.acceptPress slot index (now - backdate)).value.acceptPress moved position
        (now - backdate)).value := by
  let pressed := (recognizer.acceptPress slot index (now - backdate)).value
  have soundPressed : pressed.Sound := sound.acceptPress place unmarked _
  obtain ⟨moved, placeMoved, same⟩ :
      ∃ moved, pressed.slots[position]? = some moved ∧ moved.channel = other.channel := by
    rw [slots_acceptPress, List.getElem?_mapIdx, placeOther, Option.map_some, if_neg different.symm]
    refine ⟨_, rfl, ?_⟩
    split
    · exact Slot.channel_rebase _
    · rfl
  have unmarkedMoved : pressed.chord.down.contains position = false := by
    change (recognizer.chord.down.insert index).contains position = false
    rw [SlotSet.contains_insert (sound.index_lt place), unmarkedOther, decide_eq_false different,
      Bool.or_self]
  refine ⟨moved, ?_⟩
  rw [sound.value_press place unmarked, ← same]
  exact soundPressed.value_press placeMoved unmarkedMoved now backdate

/-- Two presses at one time can change places. -/
theorem press_press_comm (sound : recognizer.Sound) (now backdate : UInt32) (first second : Nat) :
    ((recognizer.press now first backdate).value.press now second backdate).value =
      ((recognizer.press now second backdate).value.press now first backdate).value := by
  rcases recognizer.press_refused_or_accepted now first backdate with
    refused | ⟨slot, index, place, rfl, unmarked, _⟩
  · have still := sound.press_of_refused refused second
    rw [refused, still]
    rfl
  rcases recognizer.press_refused_or_accepted now second backdate with
    refused | ⟨other, position, placeOther, rfl, unmarkedOther, _⟩
  · have still := sound.press_of_refused refused slot.channel
    rw [refused, still]
    rfl
  by_cases same : position = index
  · subst same
    rw [Option.some.inj (place.symm.trans placeOther)]
  · obtain ⟨moved, firstLast⟩ :=
      sound.value_press_press place unmarked placeOther unmarkedOther same now backdate
    obtain ⟨movedOther, lastFirst⟩ :=
      sound.value_press_press placeOther unmarkedOther place unmarked (Ne.symm same) now backdate
    rw [firstLast, lastFirst]
    exact acceptPress_comm (sound.index_lt place) (sound.index_lt placeOther) _ _ _

end Sound

/-- Presses on several channels, one after the other but at one time. -/
def pressEach (recognizer : Recognizer) (now backdate : UInt32) (channels : List Nat) : Recognizer :=
  channels.foldl (fun recognizer channel => (recognizer.press now channel backdate).value) recognizer

namespace Sound

theorem isDown_pressEach (sound : recognizer.Sound) (now backdate : UInt32) (channels : List Nat)
    (key : Key) : (recognizer.pressEach now backdate channels).isDown key = true ↔
      recognizer.isDown key = true ∨ ∃ channel ∈ channels, recognizer.channelOf? key = some channel := by
  induction channels generalizing recognizer with
  | nil => simp [Recognizer.pressEach]
  | cons pressed rest ih =>
      have later := ih (sound.press now pressed backdate)
      simp only [sound.channelOf?_press] at later
      refine later.trans ?_
      rw [sound.isDown_press, List.exists_mem_cons_iff, or_assoc]

theorem pressEach_perm (sound : recognizer.Sound) (now backdate : UInt32) {first second : List Nat}
    (reordered : first.Perm second) :
    recognizer.pressEach now backdate first = recognizer.pressEach now backdate second := by
  induction reordered generalizing recognizer with
  | nil => rfl
  | cons pressed _ ih => exact ih (sound.press now pressed backdate)
  | swap left right rest =>
      exact congrArg (·.pressEach now backdate rest) (sound.press_press_comm now backdate right left)
  | trans _ _ once again => exact (once sound).trans (again sound)

end Sound

/-- Keys that are pressed at one time, with one back-dating, can be pressed in any order: in every state that
can be reached, and whatever the channels, the recognizer is the same afterwards. The keys that are down are
those that were before and those that are on one of the channels. -/
theorem simultaneous_presses_commute (calls : List (UInt32 × Call)) (now backdate : UInt32)
    {first second : List Nat} (reordered : first.Perm second) :
    let reached := run {} calls
    reached.pressEach now backdate first = reached.pressEach now backdate second ∧
      ∀ key, (reached.pressEach now backdate first).isDown key = true ↔
        reached.isDown key = true ∨ ∃ channel ∈ first, reached.channelOf? key = some channel := by
  intro reached
  have sound : reached.Sound := sound_fresh.run calls
  exact ⟨sound.pressEach_perm now backdate reordered, sound.isDown_pressEach now backdate first⟩

/-- Of three keys one is held for long, and the other two, one of them in its tap window, join it in either
order. -/
theorem simultaneous_presses_commute_beside_held_key :
    let calls : List (UInt32 × Call) :=
      [(0, .register ⟨1, .io⟩ 5), (0, .register ⟨2, .io⟩ 6), (0, .register ⟨3, .touch⟩ 7),
        (0, .press 5 0), (8000, .tick), (8010, .press 6 0), (8020, .release 6)]
    let reached := run {} calls
    [6, 7].Perm [7, 6] ∧ reached.chord.stage = .closed ∧
      reached.pressEach 9000 500 [6, 7] = reached.pressEach 9000 500 [7, 6] ∧
        (reached.pressEach 9000 500 [6, 7]).isDown ⟨3, .touch⟩ = true := by
  intro calls reached
  have reordered : [6, 7].Perm [7, 6] := .swap 7 6 []
  obtain ⟨same, _⟩ := simultaneous_presses_commute calls 9000 500 reordered
  exact ⟨reordered, by decide, same, by decide⟩

end Recognizer

end KeyGesture
