import Mathlib.Data.List.Nodup
import KeyGesture.Proofs.Slot.Coherence
import KeyGesture.Recognizer.Call

namespace KeyGesture

/-! The table of slots: what a lookup finds in it, and what each operation of a recognizer makes of the
slot with a given number. -/

section Lists

variable {α β : Type} {items : List α} {item : α} {index : Nat}

theorem countP_modify (wanted : α → Bool) (change : α → α) (found : items[index]? = some item) :
    (items.modify index change).countP wanted + (if wanted item then 1 else 0) =
      items.countP wanted + (if wanted (change item) then 1 else 0) := by
  induction items generalizing index with
  | nil => simp at found
  | cons head rest ih =>
      cases index with
      | zero =>
          have same : head = item := by simpa using found
          subst same
          simp only [List.modify_zero_cons, List.countP_cons]
          omega
      | succ index =>
          have tail : rest[index]? = some item := by simpa using found
          have later := ih tail
          simp only [List.modify_succ_cons, List.countP_cons]
          omega

theorem modify_eq_mapIdx (items : List α) (index : Nat) (change : α → α) :
    items.modify index change =
      items.mapIdx fun other item => if index = other then change item else item := by
  apply List.ext_getElem?
  intro other
  rw [List.getElem?_modify, List.getElem?_mapIdx, Option.map_eq_map]

theorem map_mapIdx_of_same {part : α → β} {change : Nat → α → α}
    (same : ∀ index item, part (change index item) = part item) :
    (items.mapIdx change).map part = items.map part := by
  apply List.ext_getElem?
  intro index
  simp only [List.getElem?_map, List.getElem?_mapIdx, Option.map_map]
  congr 1
  funext item
  exact same index item

theorem forall_mem_mapIdx {holds : α → Prop} {change : Nat → α → α}
    (each : ∀ index item, items[index]? = some item → holds (change index item)) :
    ∀ item ∈ items.mapIdx change, holds item := by
  intro item member
  obtain ⟨index, bound, rfl⟩ := List.mem_mapIdx.mp member
  exact each index _ (List.getElem?_eq_getElem bound)

theorem nodup_map_iff {part : α → β} :
    (items.map part).Nodup ↔ ∀ (first second : Nat) (left right : α), items[first]? = some left →
      items[second]? = some right → part left = part right → first = second := by
  constructor
  · intro distinct first second left right foundLeft foundRight same
    have bound : first < (items.map part).length := by
      simpa using (List.getElem?_eq_some_iff.mp foundLeft).1
    apply (List.getElem?_inj bound distinct).mp
    simp only [List.getElem?_map, foundLeft, foundRight, Option.map_some, same]
  · intro injective
    rw [List.nodup_iff_getElem?_ne_getElem?]
    intro first second before bound same
    have within : second < items.length := by simpa using bound
    have earlier : first < items.length := by omega
    simp only [List.getElem?_map, List.getElem?_eq_getElem within, List.getElem?_eq_getElem earlier,
      Option.map_some, Option.some.injEq] at same
    have equal := injective first second items[first] items[second]
      (List.getElem?_eq_getElem earlier) (List.getElem?_eq_getElem within) same
    omega

end Lists

namespace Slot

/-- A press starts the hold anew, whatever start the key shared before. -/
@[simp] theorem press_rebase (slot : Slot) (timing : Timing) (instant : UInt32) :
    (slot.rebase timing instant).press timing instant = slot.press timing instant := by
  rw [rebase]
  split <;> rfl

end Slot

namespace Recognizer

variable {recognizer : Recognizer} {slot : Slot} {index channel : Nat}

theorem atChannel?_eq_some (found : recognizer.atChannel? channel = some (slot, index)) :
    recognizer.slots[index]? = some slot ∧ slot.channel = channel := by
  obtain ⟨place, matched⟩ := locate?_eq_some found
  exact ⟨place, by simpa using matched⟩

theorem ofKey?_eq_some {key : Key} (found : recognizer.ofKey? key = some (slot, index)) :
    recognizer.slots[index]? = some slot ∧ slot.key = key := by
  obtain ⟨place, matched⟩ := locate?_eq_some found
  exact ⟨place, by simpa using matched⟩

theorem ofKey?_eq_none_iff {key : Key} :
    recognizer.ofKey? key = none ↔ ∀ slot ∈ recognizer.slots, slot.key ≠ key := by
  simp only [ofKey?, locate?_eq_none_iff, beq_eq_false_iff_ne]

/-- A slot that is the only one of the wanted kind is the one that is found. -/
theorem locate?_of_getElem? {wanted : Slot → Bool} (place : recognizer.slots[index]? = some slot)
    (matched : wanted slot = true)
    (unique : ∀ position other, recognizer.slots[position]? = some other → wanted other = true →
      position = index) : recognizer.locate? wanted = some (slot, index) := by
  cases found : recognizer.locate? wanted with
  | none =>
      rw [locate?_eq_none_iff.mp found slot (List.mem_of_getElem? place)] at matched
      contradiction
  | some entry =>
      obtain ⟨other, position⟩ := entry
      obtain ⟨placeOther, matchedOther⟩ := locate?_eq_some found
      obtain rfl := unique position other placeOther matchedOther
      rw [placeOther, Option.some.injEq] at place
      rw [place]

theorem ofKey?_of_getElem? (distinct : (recognizer.slots.map Slot.key).Nodup)
    (place : recognizer.slots[index]? = some slot) :
    recognizer.ofKey? slot.key = some (slot, index) :=
  locate?_of_getElem? place (by simp) fun position other placeOther same =>
    nodup_map_iff.mp distinct position index other slot placeOther place (by simpa using same)

theorem atChannel?_of_getElem? (distinct : (recognizer.slots.map Slot.channel).Nodup)
    (place : recognizer.slots[index]? = some slot) :
    recognizer.atChannel? slot.channel = some (slot, index) :=
  locate?_of_getElem? place (by simp) fun position other placeOther same =>
    nodup_map_iff.mp distinct position index other slot placeOther place (by simpa using same)

/-! Each operation, slot by slot. -/

/-- The pressed key starts its hold; in a tracked chord the others that are mid-gesture share it. -/
theorem slots_acceptPress (recognizer : Recognizer) (slot : Slot) (index : Nat) (instant : UInt32) :
    (recognizer.acceptPress slot index instant).value.slots =
      recognizer.slots.mapIdx fun other old =>
        if index = other then old.press recognizer.timing instant
        else if (recognizer.chord.join index).stage = .tracking then
          old.rebase recognizer.timing instant
        else old := by
  apply List.ext_getElem?
  intro other
  simp only [acceptPress, List.getElem?_modify, List.getElem?_mapIdx, Option.map_eq_map]
  by_cases tracking : (recognizer.chord.join index).stage = .tracking
  · simp only [tracking, ↓reduceIte, List.getElem?_map, Option.map_map]
    congr 1
    funext old
    by_cases chosen : index = other <;> simp [chosen]
  · simp only [tracking, ↓reduceIte]

theorem slots_acceptRelease (recognizer : Recognizer) (slot : Slot) (index : Nat) (now : UInt32) :
    (recognizer.acceptRelease slot index now).value.slots =
      recognizer.slots.mapIdx fun other old =>
        if index = other then old.lift now (recognizer.timing.releaseGesture (slot.hold now))
        else old :=
  modify_eq_mapIdx _ _ _

@[simp] theorem slots_wrapUp : recognizer.wrapUp.2.slots = recognizer.slots := by
  rw [wrapUp]
  split
  · split <;> rfl
  · rfl

@[simp] theorem slots_tick (recognizer : Recognizer) (now : UInt32) :
    (recognizer.tick now).value.2.slots =
      recognizer.slots.map fun slot => slot.tick recognizer.timing now := by
  simp only [tick, value_report, slots_wrapUp, advance]

@[simp] theorem stage_advance (now : UInt32) :
    (recognizer.advance now).chord.stage = recognizer.chord.stage := by
  rw [advance]
  split <;> rfl

@[simp] theorem down_advance (now : UInt32) :
    (recognizer.advance now).chord.down = recognizer.chord.down := by
  rw [advance]
  split <;> rfl

@[simp] theorem down_wrapUp : recognizer.wrapUp.2.chord.down = recognizer.chord.down := by
  rw [wrapUp]
  split
  · split <;> rfl
  · rfl

theorem stage_wrapUp : recognizer.wrapUp.2.chord.stage =
    if recognizer.allIdle then .inactive else recognizer.chord.stage := by
  rw [wrapUp]
  split
  · split
    · assumption
    · rfl
  · rfl

theorem timing_tick (now : UInt32) :
    (recognizer.tick now).value.2.timing = recognizer.timing := by
  simp only [tick, value_report, wrapUp]
  split
  · split <;> rfl
  · rfl

theorem muted_tick (now : UInt32) : (recognizer.tick now).value.2.muted = recognizer.muted := by
  simp only [tick, value_report, wrapUp]
  split
  · split <;> rfl
  · rfl

@[simp] theorem down_tick (now : UInt32) :
    (recognizer.tick now).value.2.chord.down = recognizer.chord.down := by
  simp only [tick, value_report, down_wrapUp, down_advance]

theorem stage_tick (recognizer : Recognizer) (now : UInt32) : (recognizer.tick now).value.2.chord.stage =
    if (recognizer.advance now).allIdle then .inactive else recognizer.chord.stage := by
  simp only [tick, value_report, stage_wrapUp, stage_advance]

theorem allIdle_iff : recognizer.allIdle = true ↔ ∀ slot ∈ recognizer.slots, slot.phase = .idle := by
  simp [allIdle]

theorem mem_events_of_report {α : Type} {outcome : Outcome α} {event : Event}
    (reported : event ∈ (recognizer.report outcome).events) : event ∈ outcome.events := by
  rw [report] at reported
  split at reported
  · contradiction
  · exact reported

/-! A press or release is either refused or reported as accepted. -/

theorem press?_eq_ok_iff {now backdate : UInt32} {outcome : Outcome Recognizer} :
    recognizer.press? now channel backdate = .ok outcome ↔
      ∃ slot index, recognizer.atChannel? channel = some (slot, index) ∧
        recognizer.chord.down.contains index = false ∧
        recognizer.acceptPress slot index (now - backdate) = outcome := by
  rw [press?]
  cases recognizer.atChannel? channel with
  | none => simp
  | some entry =>
      obtain ⟨found, position⟩ := entry
      cases marked : recognizer.chord.down.contains position <;> simp [and_assoc, marked]

theorem release?_eq_ok_iff {now : UInt32} {outcome : Outcome Recognizer} :
    recognizer.release? now channel = .ok outcome ↔
      ∃ slot index, recognizer.atChannel? channel = some (slot, index) ∧
        recognizer.chord.down.contains index = true ∧
        recognizer.acceptRelease slot index now = outcome := by
  rw [release?]
  cases recognizer.atChannel? channel with
  | none => simp
  | some entry =>
      obtain ⟨found, position⟩ := entry
      cases marked : recognizer.chord.down.contains position <;> simp [and_assoc, marked]

theorem press_refused_or_accepted (recognizer : Recognizer) (now : UInt32) (channel : Nat)
    (backdate : UInt32) :
    recognizer.press now channel backdate = .quiet recognizer ∨
      ∃ slot index, recognizer.slots[index]? = some slot ∧ slot.channel = channel ∧
        recognizer.chord.down.contains index = false ∧
        recognizer.press now channel backdate =
          recognizer.report (recognizer.acceptPress slot index (now - backdate)) := by
  cases answered : recognizer.press? now channel backdate with
  | error cause => exact .inl (by simp only [press, answered, ignoreRefused])
  | ok outcome =>
      obtain ⟨slot, index, found, up, rfl⟩ := press?_eq_ok_iff.mp answered
      obtain ⟨place, bound⟩ := atChannel?_eq_some found
      exact .inr ⟨slot, index, place, bound, up, by simp only [press, answered, ignoreRefused]⟩

theorem release_refused_or_accepted (recognizer : Recognizer) (now : UInt32) (channel : Nat) :
    recognizer.release now channel = .quiet recognizer ∨
      ∃ slot index, recognizer.slots[index]? = some slot ∧ slot.channel = channel ∧
        recognizer.chord.down.contains index = true ∧
        recognizer.release now channel = recognizer.report (recognizer.acceptRelease slot index now) := by
  cases answered : recognizer.release? now channel with
  | error cause => exact .inl (by simp only [release, answered, ignoreRefused])
  | ok outcome =>
      obtain ⟨slot, index, found, down, rfl⟩ := release?_eq_ok_iff.mp answered
      obtain ⟨place, bound⟩ := atChannel?_eq_some found
      exact .inr ⟨slot, index, place, bound, down, by simp only [release, answered, ignoreRefused]⟩

/-- Registering a key either moves its slot to the new channel or adds a fresh slot for it. -/
theorem register_rebinds_or_adds {key : Key} {number : Nat} {registered : Recognizer}
    (accepted : recognizer.register key channel = .ok (number, registered)) :
    (∀ slot ∈ recognizer.slots, slot.channel = channel → slot.key = key) ∧
      ((∃ slot, recognizer.slots[number]? = some slot ∧ slot.key = key ∧
          registered = { recognizer with
            slots := recognizer.slots.modify number fun slot => { slot with channel } }) ∨
        ((∀ slot ∈ recognizer.slots, slot.key ≠ key) ∧ recognizer.slots.length < maxKeys ∧
          number = recognizer.slots.length ∧
          registered = { recognizer with slots := recognizer.slots ++ [Slot.fresh key channel] })) := by
  rw [register] at accepted
  split at accepted
  · contradiction
  · rename_i free
    refine ⟨?_, ?_⟩
    · intro slot member sameChannel
      simp only [List.any_eq_true, not_exists, not_and, Bool.and_eq_true, beq_iff_eq, bne_iff_ne,
        ne_eq, Decidable.not_not] at free
      exact free slot member sameChannel
    · cases found : recognizer.ofKey? key with
      | some entry =>
          obtain ⟨slot, index⟩ := entry
          obtain ⟨place, sameKey⟩ := ofKey?_eq_some found
          simp only [found, Except.ok.injEq, Prod.mk.injEq] at accepted
          obtain ⟨rfl, rfl⟩ := accepted
          exact .inl ⟨slot, place, sameKey, rfl⟩
      | none =>
          simp only [found] at accepted
          split at accepted
          · rename_i room
            simp only [Except.ok.injEq, Prod.mk.injEq] at accepted
            obtain ⟨rfl, rfl⟩ := accepted
            exact .inr ⟨ofKey?_eq_none_iff.mp found, room, rfl, rfl⟩
          · contradiction

theorem eq_of_register {key : Key} {number : Nat} {registered : Recognizer}
    (accepted : recognizer.register key channel = .ok (number, registered)) :
    registered = { recognizer with slots := registered.slots } := by
  obtain ⟨_, ⟨_, _, _, rfl⟩ | ⟨_, _, _, rfl⟩⟩ := register_rebinds_or_adds accepted
  · rfl
  · rfl

/-- A slot after a registration is one from before it, up to its channel, or the fresh slot of a new key. -/
theorem mem_slots_of_register {key : Key} {number : Nat} {registered : Recognizer}
    (accepted : recognizer.register key channel = .ok (number, registered))
    (member : slot ∈ registered.slots) :
    (∃ old ∈ recognizer.slots, ∃ bound, slot = { old with channel := bound }) ∨
      slot = Slot.fresh key channel := by
  obtain ⟨_, ⟨_, _, _, rfl⟩ | ⟨_, _, _, rfl⟩⟩ := register_rebinds_or_adds accepted
  · rw [modify_eq_mapIdx] at member
    obtain ⟨index, bound, rfl⟩ := List.mem_mapIdx.mp member
    refine .inl ⟨_, List.getElem_mem bound, ?_⟩
    split
    · exact ⟨channel, rfl⟩
    · exact ⟨_, rfl⟩
  · rcases List.mem_append.mp member with old | added
    · exact .inl ⟨slot, old, slot.channel, rfl⟩
    · exact .inr (List.mem_singleton.mp added)

end Recognizer

end KeyGesture
