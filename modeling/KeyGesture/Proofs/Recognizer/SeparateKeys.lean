import KeyGesture.Proofs.Recognizer.ChordStages
import KeyGesture.Proofs.Recognizer.KeyView
import KeyGesture.Proofs.Recognizer.SlotPairs

namespace KeyGesture

/-! Keys that are never down together. Beside the whole run there is one in which the edges of all keys
but one are left out. As long as no press comes while another key is down no chord ever opens, and then
the two runs agree on the one key; in the second run the others stay idle throughout. -/

/-- A press or release on a channel that is bound to another key. -/
def Turn.isEdgeOfOther (turn : Turn) (key : Key) : Bool :=
  match turn.call with
  | .press channel _ | .release channel =>
      (turn.before.atChannel? channel).any fun found => found.1.key != key
  | .register _ _ | .setTiming _ | .tick | .mute | .resume => false

/-- If the turn is a press that is not refused, no other key is down. -/
def Turn.PressesAlone (turn : Turn) : Prop :=
  ∀ slot, turn.Presses slot → ∀ other, other ≠ slot.key → turn.before.isDown other = false

def Turn.moment (turn : Turn) : UInt32 × Call :=
  (turn.now, turn.call)

/-- Two turns of the same call that report the same of a key and leave it in the same slot. -/
structure SameFor (key : Key) (turn other : Turn) : Prop where
  moment : other.moment = turn.moment
  slot : other.after.ofKey? key = turn.after.ofKey? key
  events : eventsNaming key other.events = eventsNaming key turn.events

namespace Slot

variable {key : Key} {slot other : Slot} {timing : Timing}

/-- The slot of the one key is the same in both runs, and another key is idle in the second. -/
structure Beside (key : Key) (slot other : Slot) : Prop where
  sameKey : other.key = slot.key
  sameChannel : other.channel = slot.channel
  same : slot.key = key → other = slot
  idle : slot.key ≠ key → other.phase = .idle

namespace Beside

theorem refl_of_idle (idle : slot.phase = .idle) : Beside key slot slot :=
  ⟨rfl, rfl, fun _ => rfl, fun _ => idle⟩

theorem pairing (key : Key) : Pairing (Beside key) where
  key beside := beside.sameKey
  channel beside := beside.sameChannel
  fresh _ _ := refl_of_idle rfl
  rebind beside _ := ⟨beside.sameKey, rfl, fun own => by rw [beside.same own], beside.idle⟩

theorem own (beside : Beside key slot other) (own : slot.key = key) (change : Slot → Slot)
    (sameKey : (change slot).key = slot.key) : Beside key (change slot) (change other) := by
  rw [beside.same own]
  exact ⟨rfl, rfl, fun _ => rfl, fun foreign => absurd (sameKey.trans own) foreign⟩

theorem foreign {next : Slot} (beside : Beside key slot other) (foreign : slot.key ≠ key)
    (sameKey : next.key = slot.key) (sameChannel : next.channel = slot.channel) :
    Beside key next other :=
  ⟨beside.sameKey.trans sameKey.symm, beside.sameChannel.trans sameChannel.symm,
    fun own => absurd (sameKey.symm.trans own) foreign, fun _ => beside.idle foreign⟩

theorem tick (beside : Beside key slot other) (timing : Timing) (now : UInt32) :
    Beside key (slot.tick timing now) (other.tick timing now) := by
  by_cases own : slot.key = key
  · exact beside.own own (·.tick timing now) (key_tick slot timing now)
  · rw [tick_of_idle now (beside.idle own)]
    exact beside.foreign own (key_tick slot timing now) (channel_tick now)

end Beside

end Slot

namespace Recognizer

variable {key : Key} {recognizer other : Recognizer} {slot : Slot} {index channel : Nat}

/-- No chord has opened in either run, and they agree on all but the slots of other keys. -/
structure Beside (key : Key) (recognizer other : Recognizer) : Prop where
  timing : other.timing = recognizer.timing
  muted : other.muted = recognizer.muted
  unchorded : recognizer.chord.stage = .inactive
  unchordedOther : other.chord.stage = .inactive
  slots : List.Forall₂ (Slot.Beside key) recognizer.slots other.slots

theorem idle_of_beside {slots others : List Slot} (beside : List.Forall₂ (Slot.Beside key) slots others) :
    ∀ other ∈ others, other.key ≠ key → other.phase = .idle := by
  induction beside with
  | nil => simp
  | cons head _ ih =>
      rw [List.forall_mem_cons]
      exact ⟨fun foreign => head.idle (head.sameKey ▸ foreign), ih⟩

/-- A press while no key is down opens no chord, and is of its own slot alone. -/
theorem acceptPress_of_isEmpty (unchorded : recognizer.chord.stage = .inactive)
    (empty : recognizer.chord.down.isEmpty = true) (instant : UInt32) :
    (recognizer.acceptPress slot index instant).value.chord.stage = .inactive ∧
      (recognizer.acceptPress slot index instant).value.slots =
        recognizer.slots.modify index fun slot => slot.press recognizer.timing instant := by
  have joined : (recognizer.chord.join index).stage = .inactive := by
    simp [Chord.join, unchorded, empty]
  refine ⟨joined, ?_⟩
  simp only [acceptPress, joined, reduceCtorEq, if_false]

theorem Sound.isEmpty_of_others_up (sound : recognizer.Sound) (place : recognizer.slots[index]? = some slot)
    (unmarked : recognizer.chord.down.contains index = false)
    (up : ∀ other ∈ recognizer.slots, other.key ≠ slot.key → other.isDown = false) :
    recognizer.chord.down.isEmpty = true := by
  by_contra occupied
  obtain ⟨other, member, down, foreign⟩ :=
    (sound.isEmpty_eq_false_iff place unmarked).mp (Bool.not_eq_true _ ▸ occupied)
  rw [up other member foreign] at down
  contradiction

theorem eventsNaming_singleFindings
    (slots : List.Forall₂ (Slot.Beside key) recognizer.slots other.slots)
    (timing : other.timing = recognizer.timing) (now : UInt32) :
    eventsNaming key (other.singleFindings now) = eventsNaming key (recognizer.singleFindings now) := by
  rw [singleFindings, singleFindings, timing]
  generalize recognizer.slots = whole, other.slots = own at slots
  induction slots with
  | nil => rfl
  | @cons slot other _ _ beside _ ih =>
      rw [List.flatMap_cons, List.flatMap_cons, eventsNaming_append, eventsNaming_append, ih]
      congr 1
      by_cases own : slot.key = key
      · rw [beside.same own]
      · rw [eventsNaming_map_single_of_ne own, eventsNaming_map_single_of_ne (beside.sameKey ▸ own)]

namespace Beside

theorem fresh (key : Key) : Beside key {} {} :=
  ⟨rfl, rfl, rfl, rfl, .nil⟩

theorem ofKey? (beside : Beside key recognizer other) : other.ofKey? key = recognizer.ofKey? key := by
  cases found : recognizer.ofKey? key with
  | none => exact (Slot.Beside.pairing key).ofKey?_eq_none beside.slots found
  | some entry =>
      obtain ⟨slot, index⟩ := entry
      obtain ⟨counterpart, foundOther, pair⟩ := (Slot.Beside.pairing key).ofKey?_eq_some beside.slots found
      rw [foundOther, pair.same (ofKey?_eq_some found).2]

theorem events_report {α : Type} {outcome same : Outcome α} (beside : Beside key recognizer other)
    (events : same.events = outcome.events) :
    (other.report same).events = (recognizer.report outcome).events := by
  rw [report, report, beside.muted]
  split
  · rfl
  · exact events

theorem isEmpty_other (beside : Beside key recognizer other) (sound : other.Sound)
    (place : other.slots[index]? = some slot) (own : slot.key = key)
    (unmarked : other.chord.down.contains index = false) : other.chord.down.isEmpty = true := by
  -- In the second run nothing but the one key is ever down, so its next press opens no chord there.
  refine sound.isEmpty_of_others_up place unmarked fun beyond member foreign => ?_
  have idle := idle_of_beside beside.slots beyond member (own ▸ foreign)
  simp [Slot.isDown, idle]

theorem register (beside : Beside key recognizer other) (added : Key) (channel : Nat) :
    (∃ number registered counterpart, recognizer.register added channel = .ok (number, registered) ∧
        other.register added channel = .ok (number, counterpart) ∧ Beside key registered counterpart) ∨
      ∃ cause, recognizer.register added channel = .error cause ∧
        other.register added channel = .error cause := by
  rcases (Slot.Beside.pairing key).register beside.slots added channel with
    ⟨number, slots, others, accepted, acceptedOther, related⟩ | refused
  · exact .inl ⟨number, _, _, accepted, acceptedOther, beside.timing, beside.muted, beside.unchorded,
      beside.unchordedOther, related⟩
  · exact .inr refused

theorem tick (beside : Beside key recognizer other) (now : UInt32) :
    Beside key (recognizer.tick now).value.2 (other.tick now).value.2 ∧
      eventsNaming key (other.tick now).events = eventsNaming key (recognizer.tick now).events := by
  refine ⟨⟨?_, ?_, ?_, ?_, ?_⟩, ?_⟩
  · rw [timing_tick, timing_tick, beside.timing]
  · rw [muted_tick, muted_tick, beside.muted]
  · rw [stage_tick, beside.unchorded, ite_self]
  · rw [stage_tick, beside.unchordedOther, ite_self]
  · rw [slots_tick, slots_tick, beside.timing, List.forall₂_map_left_iff, List.forall₂_map_right_iff]
    exact beside.slots.imp fun _ _ pair => pair.tick _ now
  · rw [Recognizer.tick, Recognizer.tick, report, report, beside.muted]
    split
    · rfl
    · simp only [tickEvents, beside.unchorded, beside.unchordedOther]
      exact eventsNaming_singleFindings beside.slots beside.timing now

theorem contains_eq (beside : Beside key recognizer other) (sound : recognizer.Sound)
    (soundOther : other.Sound) (place : recognizer.slots[index]? = some slot) (own : slot.key = key) :
    other.slots[index]? = some slot ∧
      other.chord.down.contains index = recognizer.chord.down.contains index := by
  obtain ⟨counterpart, placeOther, pair⟩ := getElem?_of_forall₂ beside.slots place
  rw [pair.same own] at placeOther
  exact ⟨placeOther, by rw [soundOther.contains_eq placeOther, sound.contains_eq place]⟩

theorem acceptPress (beside : Beside key recognizer other) (place : recognizer.slots[index]? = some slot)
    (own : slot.key = key) (empty : recognizer.chord.down.isEmpty = true)
    (emptyOther : other.chord.down.isEmpty = true) (instant : UInt32) :
    Beside key (recognizer.acceptPress slot index instant).value
        (other.acceptPress slot index instant).value ∧
      (other.acceptPress slot index instant).events =
        (recognizer.acceptPress slot index instant).events := by
  obtain ⟨stage, slots⟩ := acceptPress_of_isEmpty beside.unchorded empty instant
  obtain ⟨stageOther, slotsOther⟩ := acceptPress_of_isEmpty beside.unchordedOther emptyOther instant
  refine ⟨⟨beside.timing, beside.muted, stage, stageOther, ?_⟩, ?_⟩
  · rw [slots, slotsOther, beside.timing]
    refine forall₂_modify beside.slots fun item _ found _ pair => ?_
    rw [place, Option.some.injEq] at found
    exact pair.own (found ▸ own) (·.press recognizer.timing instant) rfl
  · simp only [Recognizer.acceptPress, beside.unchorded, beside.unchordedOther]

theorem acceptRelease (beside : Beside key recognizer other) (place : recognizer.slots[index]? = some slot)
    (own : slot.key = key) (now : UInt32) :
    Beside key (recognizer.acceptRelease slot index now).value
        (other.acceptRelease slot index now).value ∧
      (other.acceptRelease slot index now).events = (recognizer.acceptRelease slot index now).events := by
  refine ⟨⟨beside.timing, beside.muted, by simp [beside.unchorded], by simp [beside.unchordedOther], ?_⟩, ?_⟩
  · simp only [Recognizer.acceptRelease, beside.timing]
    refine forall₂_modify beside.slots fun item _ found _ pair => ?_
    rw [place, Option.some.injEq] at found
    exact pair.own (found ▸ own) (·.lift now (recognizer.timing.releaseGesture (slot.hold now))) rfl
  · simp only [Recognizer.acceptRelease, beside.timing, beside.unchorded, beside.unchordedOther,
      reduceCtorEq, if_false]

theorem atChannel? (beside : Beside key recognizer other)
    (own : ∀ slot index, recognizer.atChannel? channel = some (slot, index) → slot.key = key) :
    other.atChannel? channel = recognizer.atChannel? channel := by
  cases found : recognizer.atChannel? channel with
  | none => exact (Slot.Beside.pairing key).atChannel?_eq_none beside.slots found
  | some entry =>
      obtain ⟨slot, index⟩ := entry
      obtain ⟨counterpart, foundOther, pair⟩ :=
        (Slot.Beside.pairing key).atChannel?_eq_some beside.slots found
      rw [foundOther, pair.same (own slot index found)]

theorem ignoreRefused {outcome same : Outcome Recognizer} (beside : Beside key recognizer other)
    (agree : Beside key outcome.value same.value ∧ same.events = outcome.events) :
    Beside key (recognizer.ignoreRefused (.ok outcome)).value (other.ignoreRefused (.ok same)).value ∧
      (other.ignoreRefused (.ok same)).events = (recognizer.ignoreRefused (.ok outcome)).events :=
  ⟨by simpa only [Recognizer.ignoreRefused, value_report] using agree.1, beside.events_report agree.2⟩

theorem press (beside : Beside key recognizer other) (sound : recognizer.Sound) (soundOther : other.Sound)
    (own : ∀ slot index, recognizer.atChannel? channel = some (slot, index) → slot.key = key)
    (alone : ∀ slot index, recognizer.atChannel? channel = some (slot, index) →
      recognizer.chord.down.contains index = false → recognizer.chord.down.isEmpty = true)
    (now backdate : UInt32) :
    Beside key (recognizer.press now channel backdate).value (other.press now channel backdate).value ∧
      (other.press now channel backdate).events = (recognizer.press now channel backdate).events := by
  unfold Recognizer.press press?
  rw [beside.atChannel? own]
  cases found : recognizer.atChannel? channel with
  | none => exact ⟨beside, rfl⟩
  | some entry =>
      obtain ⟨slot, index⟩ := entry
      have place := (atChannel?_eq_some found).1
      have ownKey := own slot index found
      obtain ⟨placeOther, marks⟩ := beside.contains_eq sound soundOther place ownKey
      simp only [marks]
      cases marked : recognizer.chord.down.contains index with
      | true => exact ⟨beside, rfl⟩
      | false =>
          have emptyOther := beside.isEmpty_other soundOther placeOther ownKey (marks.trans marked)
          exact beside.ignoreRefused
            (beside.acceptPress place ownKey (alone slot index found marked) emptyOther _)

theorem release (beside : Beside key recognizer other) (sound : recognizer.Sound) (soundOther : other.Sound)
    (own : ∀ slot index, recognizer.atChannel? channel = some (slot, index) → slot.key = key)
    (now : UInt32) :
    Beside key (recognizer.release now channel).value (other.release now channel).value ∧
      (other.release now channel).events = (recognizer.release now channel).events := by
  unfold Recognizer.release release?
  rw [beside.atChannel? own]
  cases found : recognizer.atChannel? channel with
  | none => exact ⟨beside, rfl⟩
  | some entry =>
      obtain ⟨slot, index⟩ := entry
      have place := (atChannel?_eq_some found).1
      have ownKey := own slot index found
      obtain ⟨placeOther, marks⟩ := beside.contains_eq sound soundOther place ownKey
      simp only [marks]
      cases marked : recognizer.chord.down.contains index with
      | true => exact beside.ignoreRefused (beside.acceptRelease place ownKey now)
      | false => exact ⟨beside, rfl⟩

theorem omit_press (beside : Beside key recognizer other) (place : recognizer.slots[index]? = some slot)
    (foreign : slot.key ≠ key) (empty : recognizer.chord.down.isEmpty = true) (instant : UInt32) :
    Beside key (recognizer.acceptPress slot index instant).value other ∧
      eventsNaming key (recognizer.report (recognizer.acceptPress slot index instant)).events = [] := by
  obtain ⟨stage, slots⟩ := acceptPress_of_isEmpty beside.unchorded empty instant
  refine ⟨⟨beside.timing, beside.muted, stage, beside.unchordedOther, ?_⟩, ?_⟩
  · rw [slots, ← List.modify_id index other.slots]
    refine forall₂_modify beside.slots fun item _ found _ pair => ?_
    rw [place, Option.some.injEq] at found
    exact pair.foreign (found ▸ foreign) rfl rfl
  · rw [report]
    split
    · rfl
    · simp only [Recognizer.acceptPress, beside.unchorded, if_true]
      exact eventsNaming_map_single_of_ne foreign [.press]

theorem omit_release (beside : Beside key recognizer other) (place : recognizer.slots[index]? = some slot)
    (foreign : slot.key ≠ key) (now : UInt32) :
    Beside key (recognizer.acceptRelease slot index now).value other ∧
      eventsNaming key (recognizer.report (recognizer.acceptRelease slot index now)).events = [] := by
  refine ⟨⟨beside.timing, beside.muted, by simp [beside.unchorded], beside.unchordedOther, ?_⟩, ?_⟩
  · rw [← List.modify_id index other.slots]
    refine forall₂_modify beside.slots fun item _ found _ pair => ?_
    rw [place, Option.some.injEq] at found
    exact pair.foreign (found ▸ foreign) rfl rfl
  · rw [report]
    split
    · rfl
    · simp only [Recognizer.acceptRelease, beside.unchorded, reduceCtorEq, if_false]
      exact eventsNaming_map_single_of_ne foreign [.release, _]

end Beside

end Recognizer

open Recognizer

namespace Turn

variable {turn : Turn} {key : Key} {other : Recognizer} {slot : Slot}

theorem PressesAlone.isEmpty (alone : turn.PressesAlone) (sound : turn.before.Sound)
    (presses : turn.Presses slot) : turn.before.chord.down.isEmpty = true := by
  obtain ⟨index, _, place, unmarked, _⟩ := presses.exists_accepted
  refine sound.isEmpty_of_others_up place unmarked fun other member foreign => ?_
  obtain ⟨position, placeOther⟩ := List.getElem?_of_mem member
  exact (sound.isDown_eq placeOther).symm.trans (alone slot presses other.key foreign)

theorem pressesAlone_of_allUp
    (up : (turn.call matches .press ..) = true → turn.before.allUp = true) : turn.PressesAlone := by
  rintro slot ⟨_, _, _, _, called, _⟩ other _
  rw [called] at up
  have empty := SlotSet.isEmpty_iff.mp (up rfl)
  rw [isDown]
  cases turn.before.ofKey? other with
  | none => rfl
  | some found => exact empty found.2

theorem Presses.isEdgeOfOther_eq (presses : turn.Presses slot) :
    turn.isEdgeOfOther key = (slot.key != key) := by
  obtain ⟨channel, backdate, index, _, called, found, _⟩ := presses
  simp only [isEdgeOfOther, called, found, Option.any_some]

theorem Releases.isEdgeOfOther_eq (releases : turn.Releases slot) :
    turn.isEdgeOfOther key = (slot.key != key) := by
  obtain ⟨channel, index, _, called, found, _⟩ := releases
  simp only [isEdgeOfOther, called, found, Option.any_some]

/-- An edge of another key leaves the run without it where it is. -/
theorem omit_edge (beside : Beside key turn.before other) (sound : turn.before.Sound)
    (alone : turn.PressesAlone) (foreign : turn.isEdgeOfOther key = true) :
    Beside key turn.after other ∧ eventsNaming key turn.events = [] := by
  cases called : turn.call with
  | press channel backdate =>
      rcases refused_or_presses called with ⟨same, silent⟩ | ⟨slot, presses⟩
      · rw [same, silent]
        exact ⟨beside, rfl⟩
      · obtain ⟨index, instant, place, _, after, told⟩ := presses.exists_accepted
        rw [presses.isEdgeOfOther_eq, bne_iff_ne] at foreign
        rw [after, told]
        exact beside.omit_press place foreign (alone.isEmpty sound presses) instant
  | release channel =>
      rcases refused_or_releases called with ⟨same, silent⟩ | ⟨slot, releases⟩
      · rw [same, silent]
        exact ⟨beside, rfl⟩
      · obtain ⟨index, place, _, after, told⟩ := releases.exists_accepted
        rw [releases.isEdgeOfOther_eq, bne_iff_ne] at foreign
        rw [after, told]
        exact beside.omit_release place foreign turn.now
  | register | setTiming | tick | mute | resume => simp [isEdgeOfOther, called] at foreign

/-- Every other call takes both runs on alike. -/
theorem keep_call (beside : Beside key turn.before other) (sound : turn.before.Sound)
    (soundOther : other.Sound) (alone : turn.PressesAlone) (own : turn.isEdgeOfOther key = false) :
    let answered := other.answer turn.now turn.call
    Beside key turn.after answered.value.2 ∧
      eventsNaming key answered.events = eventsNaming key turn.events := by
  obtain ⟨before, now, call⟩ := turn
  simp only [after, events, outcome] at *
  cases call with
  | register added channel =>
      rcases beside.register added channel with
        ⟨number, registered, counterpart, accepted, acceptedOther, related⟩ | ⟨cause, refused, refusedOther⟩
      · simp only [answer, accepted, acceptedOther]
        exact ⟨related, rfl⟩
      · simp only [answer, refused, refusedOther]
        exact ⟨beside, rfl⟩
  | setTiming timing => exact ⟨{ beside with timing := rfl }, rfl⟩
  | press channel backdate =>
      have ownKey : ∀ slot index, before.atChannel? channel = some (slot, index) → slot.key = key :=
        fun slot index found => by simpa [isEdgeOfOther, found] using own
      have empty : ∀ slot index, before.atChannel? channel = some (slot, index) →
          before.chord.down.contains index = false → before.chord.down.isEmpty = true := by
        intro slot index found unmarked
        exact alone.isEmpty sound ⟨channel, backdate, index, _, rfl, found,
          press?_eq_ok_iff.mpr ⟨slot, index, found, unmarked, rfl⟩⟩
      obtain ⟨pressed, told⟩ := beside.press sound soundOther ownKey empty now backdate
      exact ⟨pressed, congrArg (eventsNaming key) told⟩
  | release channel =>
      have ownKey : ∀ slot index, before.atChannel? channel = some (slot, index) → slot.key = key :=
        fun slot index found => by simpa [isEdgeOfOther, found] using own
      obtain ⟨released, told⟩ := beside.release sound soundOther ownKey now
      exact ⟨released, congrArg (eventsNaming key) told⟩
  | tick => exact beside.tick now
  | mute => exact ⟨{ beside with muted := rfl }, rfl⟩
  | resume => exact ⟨{ beside with muted := rfl }, rfl⟩

end Turn

namespace Recognizer

theorem Beside.turns {key : Key} {recognizer other : Recognizer} {calls : List (UInt32 × Call)}
    (beside : Beside key recognizer other) (sound : recognizer.Sound) (soundOther : other.Sound)
    (alone : ∀ turn ∈ recognizer.turns calls, turn.PressesAlone) :
    let kept := (recognizer.turns calls).filter fun turn => !turn.isEdgeOfOther key
    let own := other.turns (kept.map Turn.moment)
    List.Forall₂ (SameFor key) kept own ∧ eventsNaming key (own.flatMap Turn.events) =
      eventsNaming key ((recognizer.turns calls).flatMap Turn.events) := by
  induction calls generalizing recognizer other with
  | nil => exact ⟨.nil, rfl⟩
  | cons moment rest ih =>
      obtain ⟨now, call⟩ := moment
      let turn : Turn := ⟨recognizer, now, call⟩
      simp only [Recognizer.turns, List.forall_mem_cons] at alone
      have soundAfter : turn.after.Sound := sound.answer now call
      simp only [Recognizer.turns, List.flatMap_cons, eventsNaming_append]
      -- Where the whole run takes an edge of another key the second waits; else both take the same call.
      cases foreign : turn.isEdgeOfOther key with
      | true =>
          obtain ⟨besideAfter, silent⟩ :=
            Turn.omit_edge (beside : Beside key turn.before other) sound alone.1 foreign
          obtain ⟨same, told⟩ := ih besideAfter soundAfter soundOther alone.2
          rw [List.filter_cons_of_neg (by simp [turn, foreign])]
          exact ⟨same, told.trans (by rw [silent]; rfl)⟩
      | false =>
          obtain ⟨besideAfter, told⟩ :=
            Turn.keep_call (beside : Beside key turn.before other) sound soundOther alone.1 foreign
          obtain ⟨same, toldLater⟩ := ih besideAfter soundAfter (soundOther.answer now call) alone.2
          rw [List.filter_cons_of_pos (by simp [turn, foreign])]
          refine ⟨.cons ⟨rfl, besideAfter.ofKey?, told⟩ same, ?_⟩
          rw [List.map_cons, Recognizer.turns, List.flatMap_cons, eventsNaming_append]
          exact congr_arg₂ (· ++ ·) told toldLater

/-- A run in which no press is taken while another key is down, and beside it the run that is left when all
edges on channels bound to other keys than one are deleted. Every call that is left reports the same
events of the one key and leaves it in the same slot, and what is deleted reports none. -/
theorem key_unaffected_by_edges_of_others (calls : List (UInt32 × Call)) (key : Key)
    (alone : ∀ turn ∈ turns {} calls, turn.PressesAlone) :
    let kept := (turns {} calls).filter fun turn => !turn.isEdgeOfOther key
    let own := turns {} (kept.map Turn.moment)
    List.Forall₂ (SameFor key) kept own ∧
      eventsNaming key (own.flatMap Turn.events) = eventsNaming key ((turns {} calls).flatMap Turn.events) :=
  (Beside.fresh key).turns sound_fresh sound_fresh alone

/-- Two keys in turn, the second while the tap window of the first is open and reporting is off for a while.
Without the second key the first reports its two taps just the same. -/
theorem key_unaffected_by_tap_between :
    let first : Key := ⟨1, .io⟩
    let calls : List (UInt32 × Call) := [(0, .register first 5), (0, .register ⟨2, .touch⟩ 11),
      (0, .press 5 0), (60, .release 5), (100, .press 11 0), (110, .mute), (150, .tick), (160, .release 11),
      (170, .resume), (200, .press 5 0), (260, .release 5), (560, .tick)]
    let own : List (UInt32 × Call) := [(0, .register first 5), (0, .register ⟨2, .touch⟩ 11),
      (0, .press 5 0), (60, .release 5), (110, .mute), (150, .tick), (170, .resume), (200, .press 5 0),
      (260, .release 5), (560, .tick)]
    (∀ turn ∈ turns {} calls, turn.PressesAlone) ∧
      gesturesOf first ((turns {} calls).flatMap Turn.events) =
        gesturesOf first ((turns {} own).flatMap Turn.events) ∧
      .tapped .double ∈ gesturesOf first ((turns {} own).flatMap Turn.events) := by
  intro first calls own
  have up : ∀ turn ∈ turns {} calls, (turn.call matches .press ..) = true → turn.before.allUp = true := by
    decide
  have alone : ∀ turn ∈ turns {} calls, turn.PressesAlone :=
    fun turn member => Turn.pressesAlone_of_allUp (up turn member)
  obtain ⟨_, told⟩ := key_unaffected_by_edges_of_others calls first alone
  have left : ((turns {} calls).filter fun turn => !turn.isEdgeOfOther first).map Turn.moment = own := by
    decide
  rw [left] at told
  exact ⟨alone, congrArg (List.map Event.gesture) told.symm, by decide⟩

end Recognizer

end KeyGesture
