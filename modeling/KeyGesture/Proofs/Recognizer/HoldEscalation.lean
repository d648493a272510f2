import KeyGesture.Proofs.Recognizer.ChordMembers
import KeyGesture.Proofs.Recognizer.HoldAmongTaps

namespace KeyGesture

/-! The tiers of a hold. A slot keeps no record of the tiers that have been reported of it, only the hold
it waits for next. That is enough: a tick reports the tier that the hold has reached exactly if it lies
above all those reported since the key went down. -/

namespace Tier

def ofRank? : Nat → Option Tier
  | 1 => some .long
  | 2 => some .veryLong
  | 3 => some .veryVeryLong
  | _ => none

theorem ofRank?_rank (tier : Tier) : ofRank? tier.rank = some tier := by
  cases tier <;> rfl

theorem rank_pos (tier : Tier) : 0 < tier.rank := by
  cases tier <;> decide

theorem exists_of_rank {rank : Nat} (some : 0 < rank) (few : rank ≤ 3) :
    ∃ tier : Tier, tier.rank = rank := by
  have cases : rank = 1 ∨ rank = 2 ∨ rank = 3 := by omega
  rcases cases with rfl | rfl | rfl
  · exact ⟨.long, rfl⟩
  · exact ⟨.veryLong, rfl⟩
  · exact ⟨.veryVeryLong, rfl⟩

/-- The tier of a level that is now seen, where a level has been reached before. -/
def beyond? (reached seen : Nat) : Option Tier :=
  if reached < seen then ofRank? seen else none

end Tier

namespace Timing

variable {timing : Timing} {hold : Nat}

/-- How many tiers a hold has reached. -/
def level (timing : Timing) (hold : Nat) : Nat :=
  if hold < timing.long then 0
  else if hold < timing.veryLong then 1
  else if hold < timing.veryVeryLong then 2
  else 3

theorem level_le (timing : Timing) (hold : Nat) : timing.level hold ≤ 3 := by
  rw [level]
  split_ifs <;> omega

theorem level_mono {longer : Nat} (le : hold ≤ longer) : timing.level hold ≤ timing.level longer := by
  rw [level, level]
  split_ifs <;> omega

theorem tier?_eq_ofRank? (valid : timing.Valid) : timing.tier? hold = Tier.ofRank? (timing.level hold) := by
  obtain ⟨long_lt, veryLong_lt, _⟩ := valid
  rw [tier?, level]
  split_ifs <;> first | rfl | omega

theorem releaseGesture_eq_elim (valid : timing.Valid) :
    timing.releaseGesture hold = (Tier.ofRank? (timing.level hold)).elim .short .heldRelease := by
  rw [releaseGesture, tier?_eq_ofRank? valid]
  cases Tier.ofRank? (timing.level hold) <;> rfl

end Timing

def Gesture.tier? : Gesture → Option Tier
  | .held tier => some tier
  | _ => none

theorem Gesture.filter_isEscalation (gestures : List Gesture) :
    gestures.filter isEscalation = (gestures.filterMap tier?).map .held := by
  induction gestures with
  | nil => rfl
  | cons gesture rest ih =>
      rw [List.filter_cons, List.filterMap_cons]
      cases gesture with
      | held tier => exact congrArg (held tier :: ·) ih
      | press | release | repeated | short | heldRelease | tapped => exact ih

/-- The tiers that events report a key to reach. -/
def tiersOf (key : Key) (events : List Event) : List Tier :=
  (gesturesOf key events).filterMap Gesture.tier?

@[simp] theorem tiersOf_append {key : Key} (first second : List Event) :
    tiersOf key (first ++ second) = tiersOf key first ++ tiersOf key second := by
  simp [tiersOf]

def escalationsOf (key : Key) (events : List Event) : List Event :=
  (eventsNaming key events).filter fun event => event.gesture.isEscalation

theorem escalationsOf_eq {key : Key} {events : List Event} {gestures : List Gesture}
    (named : eventsNaming key events = gestures.map (.single key)) :
    escalationsOf key events =
      (gestures.filterMap Gesture.tier?).map fun tier => .single key (.held tier) := by
  rw [escalationsOf, named, List.filter_map]
  change (gestures.filter Gesture.isEscalation).map _ = _
  rw [Gesture.filter_isEscalation, List.map_map]
  rfl

/-- Tiers in ascending order, the last of the given rank, and no tiers of rank zero. -/
structure Climb (reached : Nat) (tiers : List Tier) : Prop where
  ascending : tiers.Pairwise fun lower higher => lower.rank < higher.rank
  top : tiers.getLast?.elim 0 Tier.rank = reached

namespace Climb

variable {reached seen : Nat} {tiers : List Tier}

theorem rank_le (climb : Climb reached tiers) : ∀ tier ∈ tiers, tier.rank ≤ reached := by
  obtain ⟨ascending, top⟩ := climb
  intro tier member
  rcases tiers.eq_nil_or_concat with rfl | ⟨lower, last, rfl⟩
  · contradiction
  · simp only [List.concat_eq_append, List.getLast?_concat, Option.elim_some] at ascending top member
    rcases List.mem_append.mp member with earlier | same
    · have below := (List.pairwise_append.mp ascending).2.2 tier earlier last (by simp)
      omega
    · rw [List.mem_singleton.mp same, top]

theorem getLast?_eq (climb : Climb reached tiers) : tiers.getLast? = Tier.ofRank? reached := by
  rw [← climb.top]
  cases tiers.getLast? with
  | none => rfl
  | some tier => exact (Tier.ofRank?_rank tier).symm

theorem append_beyond (climb : Climb reached tiers) (few : seen ≤ 3) :
    Climb (max reached seen) (tiers ++ (Tier.beyond? reached seen).toList) := by
  rw [Tier.beyond?]
  split
  · rename_i higher
    obtain ⟨tier, rfl⟩ := Tier.exists_of_rank (Nat.zero_lt_of_lt higher) few
    rw [Tier.ofRank?_rank, Option.toList_some]
    refine ⟨?_, ?_⟩
    · rw [List.pairwise_append]
      refine ⟨climb.ascending, List.pairwise_singleton _ _, fun lower member last same => ?_⟩
      rw [List.mem_singleton.mp same]
      exact Nat.lt_of_le_of_lt (climb.rank_le lower member) higher
    · rw [List.getLast?_concat, Nat.max_eq_right (Nat.le_of_lt higher)]
      rfl
  · rename_i lower
    rw [Nat.max_eq_left (Nat.le_of_not_lt lower), Option.toList_none, List.append_nil]
    exact climb

theorem forall_rank_lt_iff (climb : Climb reached tiers) (positive : 0 < seen) :
    (∀ tier ∈ tiers, tier.rank < seen) ↔ reached < seen := by
  constructor
  · intro below
    rw [← climb.top]
    cases last : tiers.getLast? with
    | none => exact positive
    | some tier => exact below tier (List.mem_of_getLast? last)
  · exact fun beyond tier member => Nat.lt_of_le_of_lt (climb.rank_le tier member) beyond

theorem beyond?_eq (climb : Climb reached tiers) : Tier.beyond? reached seen =
    if ∀ tier ∈ tiers, tier.rank < seen then Tier.ofRank? seen else none := by
  rw [Tier.beyond?]
  rcases Nat.eq_zero_or_pos seen with rfl | positive
  · simp [Tier.ofRank?]
  · simp only [climb.forall_rank_lt_iff positive]

end Climb

namespace Slot

variable {slot other : Slot} {timing : Timing} {now : UInt32} {reached : Nat}

/-- The hold has escalated up to a level: it waits for the next tier, or is parked after the last. -/
inductive Raised (timing : Timing) (slot : Slot) : Nat → Prop where
  | fresh (pressed : slot.phase = .pressed) (waiting : slot.nextHold = timing.long) : Raised timing slot 0
  | long (pressed : slot.phase = .pressed) (waiting : slot.nextHold = timing.veryLong) :
      Raised timing slot 1
  | veryLong (pressed : slot.phase = .pressed) (waiting : slot.nextHold = timing.veryVeryLong) :
      Raised timing slot 2
  | parked (parked : slot.phase = .parked) : Raised timing slot 3

namespace Raised

theorem isDown (raised : slot.Raised timing reached) : slot.isDown = true := by
  cases raised with
  | fresh pressed | long pressed | veryLong pressed => exact isDown_iff.mpr (.inl pressed)
  | parked parked => exact isDown_iff.mpr (.inr parked)

theorem congr (raised : slot.Raised timing reached) (phase : other.phase = slot.phase)
    (nextHold : other.nextHold = slot.nextHold) : other.Raised timing reached := by
  cases raised with
  | fresh pressed waiting => exact .fresh (phase.trans pressed) (nextHold.trans waiting)
  | long pressed waiting => exact .long (phase.trans pressed) (nextHold.trans waiting)
  | veryLong pressed waiting => exact .veryLong (phase.trans pressed) (nextHold.trans waiting)
  | parked parked => exact .parked (phase.trans parked)

theorem due_iff (raised : slot.Raised timing reached) (valid : timing.Valid) (hold : Nat) :
    slot.phase = .pressed ∧ slot.nextHold ≤ hold ↔ reached < timing.level hold := by
  obtain ⟨long_lt, veryLong_lt, _⟩ := valid
  rw [Timing.level]
  cases raised with
  | fresh pressed waiting | long pressed waiting | veryLong pressed waiting =>
      simp only [pressed, waiting, true_and]
      split_ifs <;> omega
  | parked parked =>
      simp only [parked, reduceCtorEq, false_and, false_iff]
      split_ifs <;> omega

theorem escalation?_eq (raised : slot.Raised timing reached) (valid : timing.Valid) (now : UInt32) :
    slot.escalation? timing now = Tier.beyond? reached (timing.level (slot.hold now)) := by
  simp only [Slot.escalation?, Tier.beyond?, raised.due_iff valid, Timing.tier?_eq_ofRank? valid]

theorem raise (pressed : slot.phase = .pressed) (tier : Tier) :
    (slot.raise timing tier).Raised timing tier.rank := by
  cases tier with
  | long => exact .long pressed rfl
  | veryLong => exact .veryLong pressed rfl
  | veryVeryLong => exact .parked rfl

theorem tick (raised : slot.Raised timing reached) (valid : timing.Valid) (now : UInt32) :
    (slot.tick timing now).Raised timing (max reached (timing.level (slot.hold now))) := by
  rw [tick_of_isDown now raised.isDown]
  refine Raised.congr ?_ (phase_advanceRepeat now) (nextHold_advanceRepeat now)
  rw [escalate, raised.escalation?_eq valid, Tier.beyond?]
  split_ifs with higher
  · obtain ⟨tier, rank⟩ :=
      Tier.exists_of_rank (Nat.zero_lt_of_lt higher) (timing.level_le (slot.hold now))
    rw [Nat.max_eq_right (Nat.le_of_lt higher), ← rank, Tier.ofRank?_rank]
    exact raise ((raised.due_iff valid _).mpr higher).1 tier
  · rw [Nat.max_eq_left (Nat.le_of_not_lt higher)]
    exact raised

end Raised

theorem tiers_found (down : slot.isDown = true) :
    (slot.found timing now).filterMap Gesture.tier? = (slot.escalation? timing now).toList := by
  rw [found_of_isDown down, List.filterMap_append]
  cases slot.escalation? timing now <;> cases slot.repeats timing now <;> rfl

end Slot

/-- The level a turn sees a hold at. Only a tick looks. -/
def Turn.level (timing : Timing) (instant : UInt32) (turn : Turn) : Nat :=
  if turn.call = .tick then timing.level (elapsed turn.now instant) else 0

theorem Turn.level_le (timing : Timing) (instant : UInt32) (turn : Turn) :
    turn.level timing instant ≤ 3 := by
  rw [level]
  split
  · exact timing.level_le _
  · exact Nat.zero_le 3

open Recognizer

namespace Turn

variable {slot : Slot} {index : Nat}

/-- Without a chord nothing but a tick moves the gesture of a key on that stays down, or reports of it. -/
theorem kept_of_isDown (turn : Turn) (sound : turn.before.Sound)
    (place : turn.before.slots[index]? = some slot) (unticked : turn.call ≠ .tick)
    (unchorded : turn.before.chord.stage = .inactive)
    (unchordedAfter : turn.after.chord.stage = .inactive) (down : turn.before.isDown slot.key = true)
    (stays : turn.after.isDown slot.key = true) :
    (∃ channel, turn.after.slots[index]? = some { slot with channel }) ∧
      eventsNaming slot.key turn.events = [] := by
  obtain ⟨gestures, after, placeAfter, step, told⟩ := sound.keyStep place turn.now turn.call
  have soundAfter : turn.after.Sound := sound.answer turn.now turn.call
  rw [sound.isDown_eq place] at down
  rw [← step.key_eq, soundAfter.isDown_eq placeAfter] at stays
  have untracked : turn.after.chord.stage ≠ .tracking := by simp [unchordedAfter]
  obtain ⟨rfl, channel, rfl⟩ := step.kept_of_isDown unticked untracked down stays
  refine ⟨⟨channel, placeAfter⟩, ?_⟩
  cases muted : turn.before.muted with
  | false => exact told unchorded muted
  | true =>
      rw [events_of_muted muted]
      rfl

theorem ticked (turn : Turn) (sound : turn.before.Sound) (place : turn.before.slots[index]? = some slot)
    (unchorded : turn.before.chord.stage = .inactive) (ticks : turn.call = .tick) :
    turn.after.slots[index]? = some (slot.tick turn.before.timing turn.now) ∧
      (turn.before.muted = false → eventsNaming slot.key turn.events =
        (slot.found turn.before.timing turn.now).map (.single slot.key)) := by
  obtain ⟨gestures, after, placeAfter, step, told⟩ := sound.keyStep place turn.now turn.call
  rw [ticks] at step
  cases step with
  | kept _ unticked => contradiction
  | ticked => exact ⟨placeAfter, told unchorded⟩

end Turn

theorem Hold.place_before {key : Key} {backdate : UInt32} {pressing : Turn} {holding : List Turn}
    (hold : Hold key backdate pressing holding) :
    ∃ (slot : Slot) (index : Nat), pressing.before.slots[index]? = some slot ∧ slot.key = key ∧
      pressing.after.timing = pressing.before.timing := by
  obtain ⟨channel, called⟩ := hold.pressed
  have down := hold.down pressing (by simp)
  rcases Turn.refused_or_presses called with ⟨same, _⟩ | ⟨pressed, presses⟩
  · rw [same, hold.up] at down
    contradiction
  · obtain ⟨_, instant, _, _, after, _⟩ := presses.exists_accepted
    obtain ⟨⟨next, index⟩, located, _⟩ := (Option.any_eq_true _ _).mp down
    obtain ⟨placeNext, sameKey⟩ := ofKey?_eq_some located
    rw [after, slots_acceptPress, List.getElem?_mapIdx] at placeNext
    obtain ⟨slot, place, rfl⟩ := Option.map_eq_some_iff.mp placeNext
    refine ⟨slot, index, place, ?_, by rw [after]; rfl⟩
    rw [← sameKey]
    split_ifs <;> simp [Slot.press]

namespace Recognizer

variable {recognizer start : Recognizer} {calls : List (UInt32 × Call)} {slot : Slot} {index : Nat}
  {timing : Timing} {key : Key} {reached : Nat}

structure HoldsAlone (recognizer : Recognizer) (timing : Timing) (key : Key) : Prop where
  timing : recognizer.timing = timing
  unchorded : recognizer.chord.stage = .inactive
  down : recognizer.isDown key = true

namespace HoldsAlone

theorem isDown (alone : recognizer.HoldsAlone timing slot.key) (sound : recognizer.Sound)
    (place : recognizer.slots[index]? = some slot) : slot.isDown = true :=
  (sound.isDown_eq place).symm.trans alone.down

variable {turn : Turn}

theorem kept (alone : turn.before.HoldsAlone timing slot.key)
    (next : turn.after.HoldsAlone timing slot.key) (sound : turn.before.Sound)
    (place : turn.before.slots[index]? = some slot) (unticked : turn.call ≠ .tick) :
    (∃ channel, turn.after.slots[index]? = some { slot with channel }) ∧
      eventsNaming slot.key turn.events = [] :=
  turn.kept_of_isDown sound place unticked alone.unchorded next.unchorded alone.down next.down

theorem ticked (alone : turn.before.HoldsAlone timing slot.key) (sound : turn.before.Sound)
    (place : turn.before.slots[index]? = some slot) (ticks : turn.call = .tick) :
    turn.after.slots[index]? = some (slot.tick timing turn.now) ∧
      (turn.before.muted = false → eventsNaming slot.key turn.events =
        (slot.found timing turn.now).map (.single slot.key)) :=
  alone.timing ▸ turn.ticked sound place alone.unchorded ticks

theorem raised (alone : turn.before.HoldsAlone timing slot.key)
    (next : turn.after.HoldsAlone timing slot.key) (valid : timing.Valid) (sound : turn.before.Sound)
    (place : turn.before.slots[index]? = some slot) (raised : slot.Raised timing reached) :
    ∃ after, turn.after.slots[index]? = some after ∧ after.key = slot.key ∧
      after.pressedAt = slot.pressedAt ∧
      after.Raised timing (max reached (turn.level timing slot.pressedAt)) ∧
      ((turn.call = .tick → turn.before.muted = false) → tiersOf slot.key turn.events =
        (Tier.beyond? reached (turn.level timing slot.pressedAt)).toList) := by
  rw [Turn.level]
  split_ifs with ticks
  · obtain ⟨placeAfter, told⟩ := alone.ticked sound place ticks
    refine ⟨_, placeAfter, Slot.key_tick _ _ _, Slot.pressedAt_tick _, raised.tick valid turn.now,
      fun heard => ?_⟩
    rw [tiersOf, gesturesOf_eq_of_eventsNaming (told (heard ticks)), Slot.tiers_found raised.isDown,
      raised.escalation?_eq valid]
    rfl
  · obtain ⟨⟨channel, placeAfter⟩, silent⟩ := alone.kept next sound place ticks
    refine ⟨_, placeAfter, rfl, rfl, ?_, fun _ => ?_⟩
    · rw [Nat.max_zero]
      exact raised.congr rfl rfl
    · rw [tiersOf, gesturesOf, silent]
      rfl

end HoldsAlone

/-- The level a slot is raised to is the highest that any tick has seen, heard or not. The tiers that are
reported climb to it as long as the ticks are heard. -/
theorem raised_through (valid : timing.Valid) (sound : start.Sound)
    (place : start.slots[index]? = some slot) (raised : slot.Raised timing reached)
    (alone : start.HoldsAlone timing slot.key)
    (held : ∀ turn ∈ start.turns calls, turn.after.HoldsAlone timing slot.key) :
    ∃ last highest, (start.run calls).slots[index]? = some last ∧ last.key = slot.key ∧
      last.pressedAt = slot.pressedAt ∧ last.Raised timing highest ∧
      (∀ bound, highest ≤ bound ↔
        reached ≤ bound ∧ ∀ turn ∈ start.turns calls, turn.level timing slot.pressedAt ≤ bound) ∧
      ∀ told, Climb reached told →
        (∀ turn ∈ start.turns calls, turn.call = .tick → turn.before.muted = false) →
          Climb highest (told ++ tiersOf slot.key ((start.turns calls).flatMap Turn.events)) := by
  -- Forward, because each tick raises the slot from where the ticks before it have left it.
  induction calls generalizing start slot reached with
  | nil =>
      refine ⟨slot, reached, place, rfl, rfl, raised, by simp [turns], fun told climb _ => ?_⟩
      simpa [turns, tiersOf] using climb
  | cons moment rest ih =>
      obtain ⟨now, call⟩ := moment
      let turn : Turn := ⟨start, now, call⟩
      simp only [turns, List.forall_mem_cons, List.flatMap_cons, tiersOf_append] at held ⊢
      obtain ⟨next, placeNext, sameKey, since, raisedNext, tiers⟩ :=
        HoldsAlone.raised (alone : turn.before.HoldsAlone timing slot.key) held.1 valid sound place raised
      obtain ⟨last, highest, placeLast, keyLast, sinceLast, raisedLast, bounds, climbs⟩ :=
        ih (sound.answer now call) placeNext raisedNext (sameKey ▸ held.1) (sameKey ▸ held.2)
      rw [sameKey, since] at *
      refine ⟨last, highest, placeLast, keyLast, sinceLast, raisedLast, fun bound => ?_, ?_⟩
      · rw [bounds, Nat.max_le, and_assoc]
        exact Iff.rfl
      · intro told climb heard
        have climbed := climb.append_beyond (turn.level_le timing slot.pressedAt)
        rw [← tiers heard.1] at climbed
        have whole := climbs _ climbed heard.2
        rwa [List.append_assoc] at whole

/-- A hold within a run goes on from the slot of a key that was up, as it was pressed. -/
theorem exists_slot_of_hold {key : Key} {backdate : UInt32} {earlier holding : List Turn} {pressing : Turn}
    (sound : start.Sound) (split : start.turns calls = earlier ++ pressing :: holding)
    (hold : Hold key backdate pressing holding) :
    ∃ (slot : Slot) (index : Nat) (inside : List (UInt32 × Call)),
      slot.key = key ∧ slot.Coherent ∧ slot.isDown = false ∧ pressing.after.Sound ∧
        pressing.after.slots[index]? =
          some (slot.press pressing.after.timing (pressing.now - backdate)) ∧
        pressing.after.turns inside = holding ∧ start.run calls = pressing.after.run inside := by
  obtain ⟨slot, index, place, rfl, sameTiming⟩ := hold.place_before
  obtain ⟨first, second, rfl, _, tail⟩ := exists_of_turns_eq_append split
  obtain ⟨starts, inside, rfl, insideTurns⟩ := exists_of_turns_eq_cons tail
  have soundBefore : pressing.before.Sound := starts ▸ sound.run first
  have soundPressed : pressing.after.Sound := soundBefore.answer pressing.now pressing.call
  have ends : start.run (first ++ (pressing.now, pressing.call) :: inside) =
      pressing.after.run inside := by
    rw [run_append, ← starts]
    rfl
  obtain ⟨placePressed, _⟩ := hold.place_pressed soundBefore place rfl
  rw [← sameTiming] at placePressed
  exact ⟨slot, index, inside, rfl, soundBefore.coherent slot (List.mem_of_getElem? place),
    (soundBefore.isDown_eq place).symm.trans hold.up, soundPressed, placePressed, insideTurns, ends⟩

theorem raised_of_hold {backdate : UInt32} {earlier holding : List Turn} {pressing : Turn}
    (valid : timing.Valid) (sound : start.Sound)
    (split : start.turns calls = earlier ++ pressing :: holding)
    (hold : Hold key backdate pressing holding)
    (alone : ∀ turn ∈ pressing :: holding, turn.after.HoldsAlone timing key) :
    ∃ (slot : Slot) (index highest : Nat), (start.run calls).slots[index]? = some slot ∧
      slot.key = key ∧ slot.pressedAt = pressing.now - backdate ∧ slot.Raised timing highest ∧
      (∀ bound, highest ≤ bound ↔
        ∀ turn ∈ holding, turn.level timing (pressing.now - backdate) ≤ bound) ∧
      ((∀ turn ∈ holding, turn.call = .tick → turn.before.muted = false) →
        Climb highest (tiersOf key (holding.flatMap Turn.events))) := by
  obtain ⟨slot, index, inside, rfl, _, _, soundPressed, placePressed, insideTurns, ends⟩ :=
    exists_slot_of_hold sound split hold
  rw [(alone pressing (by simp)).timing] at placePressed
  have aloneInside : ∀ turn ∈ pressing.after.turns inside, turn.after.HoldsAlone timing slot.key := by
    rw [insideTurns]
    exact fun turn member => alone turn (List.mem_cons_of_mem _ member)
  obtain ⟨last, highest, placeLast, sameKey, since, raised, bounds, climbs⟩ :=
    raised_through valid soundPressed placePressed (.fresh rfl rfl) (alone pressing (by simp)) aloneInside
  rw [insideTurns] at bounds climbs
  rw [ends]
  refine ⟨last, index, highest, placeLast, sameKey, since, raised, fun bound => ?_, fun heard => ?_⟩
  · exact (bounds bound).trans ⟨And.right, fun below => ⟨Nat.zero_le bound, below⟩⟩
  · exact climbs [] ⟨.nil, rfl⟩ heard

namespace Sound

theorem escalationsOf_tick (sound : recognizer.Sound) (alone : recognizer.HoldsAlone timing slot.key)
    (audible : recognizer.muted = false) (place : recognizer.slots[index]? = some slot)
    (raised : slot.Raised timing reached) (valid : timing.Valid) (now : UInt32) :
    escalationsOf slot.key (recognizer.tick now).events =
      (Tier.beyond? reached (timing.level (slot.hold now))).toList.map fun tier =>
        .single slot.key (.held tier) := by
  have named := sound.eventsNaming_tick place now alone.unchorded audible
  rw [alone.timing] at named
  rw [escalationsOf_eq named, Slot.tiers_found raised.isDown, raised.escalation?_eq valid]

theorem events_release (sound : recognizer.Sound) (alone : recognizer.HoldsAlone timing slot.key)
    (audible : recognizer.muted = false) (place : recognizer.slots[index]? = some slot) (now : UInt32) :
    (recognizer.release now slot.channel).events = [.single slot.key .release,
      .single slot.key (timing.releaseGesture (slot.hold now))] := by
  have marked : recognizer.chord.down.contains index = true := by
    rw [sound.contains_eq place, ← sound.isDown_eq place]
    exact alone.down
  have untracked : recognizer.chord.stage ≠ .tracking := by simp [alone.unchorded]
  rw [sound.release_eq place marked, report_of_audible audible, ← alone.timing]
  simp only [Recognizer.acceptRelease, if_neg untracked]

end Sound

/-- A key is pressed, back-dated or not, and held without a chord under one valid timing, and each tick
meanwhile is heard. Then a tick at any reading of the clock reports of the key the tier that its hold has
reached, if that lies above all the tiers reported since the press, and otherwise no tier. So the tiers
ascend. Where no tick has seen the hold longer than `ticking` has, a release at the same reading is
reported as of the last of these tiers, or as short if there are none; while the holds that are seen never
decrease, the last tick is one. -/
theorem hold_escalates_tier_by_tier {timing : Timing} {key : Key} {backdate : UInt32}
    {calls : List (UInt32 × Call)} {earlier holding : List Turn} {pressing : Turn}
    (valid : timing.Valid) (split : turns {} calls = earlier ++ pressing :: holding)
    (hold : Hold key backdate pressing holding)
    (steady : ∀ turn ∈ pressing :: holding, turn.after.timing = timing)
    (unchorded : ∀ turn ∈ pressing :: holding, turn.after.chord.stage = .inactive)
    (heard : ∀ turn ∈ holding, turn.call = .tick → turn.before.muted = false)
    (audible : (run {} calls).muted = false) :
    let reached := run {} calls
    let held := fun now => elapsed now (pressing.now - backdate)
    let told := tiersOf key (holding.flatMap Turn.events)
    (∀ now, escalationsOf key (reached.tick now).events =
        (if ∀ tier ∈ told, tier.rank < timing.level (held now) then Tier.ofRank? (timing.level (held now))
          else none).toList.map fun tier => .single key (.held tier)) ∧
      told.Pairwise (fun lower higher => lower.rank < higher.rank) ∧
      ∀ ticking ∈ holding, ticking.call = .tick →
        (∀ turn ∈ holding, turn.call = .tick → held turn.now ≤ held ticking.now) →
          ∃ channel, reached.channelOf? key = some channel ∧
            (reached.release ticking.now channel).events = [.single key .release,
              .single key (told.getLast?.elim .short .heldRelease)] := by
  intro reached held told
  have sound : reached.Sound := sound_fresh.run calls
  have alone : ∀ turn ∈ pressing :: holding, turn.after.HoldsAlone timing key :=
    fun turn member => ⟨steady turn member, unchorded turn member, hold.down turn member⟩
  have aloneNow : reached.HoldsAlone timing key := by
    obtain ⟨first, second, whole, _, tail⟩ := exists_of_turns_eq_append split
    change (run {} calls).HoldsAlone timing key
    rw [whole, run_append]
    have moved : second ≠ [] := by
      rintro rfl
      contradiction
    exact run_of_forall_after (·.HoldsAlone timing key) moved (tail ▸ alone)
  obtain ⟨slot, index, highest, place, rfl, since, raised, bounds, climbs⟩ :=
    raised_of_hold valid sound_fresh split hold alone
  have climb : Climb highest told := climbs heard
  have sameHold : ∀ now, slot.hold now = held now := fun now => by rw [Slot.hold, since]
  refine ⟨fun now => ?_, climb.ascending, fun ticking member ticks longest => ?_⟩
  · rw [sound.escalationsOf_tick aloneNow audible place raised valid now, climb.beyond?_eq, sameHold]
  · have seen : highest = timing.level (held ticking.now) := by
      apply Nat.le_antisymm
      · rw [bounds]
        intro turn listed
        rw [Turn.level]
        split_ifs with looks
        · exact Timing.level_mono (longest turn listed looks)
        · exact Nat.zero_le _
      · have bound := (bounds highest).mp (Nat.le_refl _) ticking member
        rwa [Turn.level, if_pos ticks] at bound
    refine ⟨slot.channel, ?_, ?_⟩
    · rw [channelOf?, ofKey?_of_getElem? sound.keysDistinct place, Option.map_some]
    · rw [sound.events_release aloneNow audible place, sameHold, Timing.releaseGesture_eq_elim valid,
        ← seen, climb.getLast?_eq]

/-- A back-dated hold that starts before the clock starts again, seen short and then long: later it skips a
tier, and released at once it is reported as long. -/
theorem hold_escalates_past_skipped_tier :
    let key : Key := ⟨1, .io⟩
    let before : List (UInt32 × Call) := [(0, .register key 5)]
    let ticks : List (UInt32 × Call) := [(1000, .tick), (1300, .tick)]
    let pressing : Turn := ⟨run {} before, 100, .press 5 400⟩
    let holding := pressing.after.turns ticks
    let calls := before ++ (100, .press 5 400) :: ticks
    (Timing.Valid {} ∧ turns {} calls = turns {} before ++ pressing :: holding ∧
        Hold key 400 pressing holding ∧ (∀ turn ∈ pressing :: holding, turn.after.timing = {}) ∧
        (∀ turn ∈ pressing :: holding, turn.after.chord.stage = .inactive) ∧
        (∀ turn ∈ holding, turn.call = .tick → turn.before.muted = false) ∧
        (run {} calls).muted = false) ∧
      escalationsOf key ((run {} calls).tick 1400).events = [] ∧
      escalationsOf key ((run {} calls).tick 7800).events = [.single key (.held .veryVeryLong)] ∧
      ∃ channel, (run {} calls).channelOf? key = some channel ∧
        ((run {} calls).release 1300 channel).events =
          [.single key .release, .single key (.heldRelease .long)] := by
  intro key before ticks pressing holding calls
  have valid : Timing.Valid {} := Timing.validate_eq_ok_iff.mp rfl
  have split : turns {} calls = turns {} before ++ pressing :: holding := by decide
  have hold : Hold key 400 pressing holding := ⟨⟨5, rfl⟩, by decide, by decide⟩
  have steady : ∀ turn ∈ pressing :: holding, turn.after.timing = {} := by decide
  have unchorded : ∀ turn ∈ pressing :: holding, turn.after.chord.stage = .inactive := by decide
  have heard : ∀ turn ∈ holding, turn.call = .tick → turn.before.muted = false := by decide
  have audible : (run {} calls).muted = false := by decide
  obtain ⟨ticked, _, released⟩ :=
    hold_escalates_tier_by_tier valid split hold steady unchorded heard audible
  let ticking : Turn := ⟨pressing.after.run [(1000, .tick)], 1300, .tick⟩
  obtain ⟨channel, found, reported⟩ := released ticking (by decide) rfl (by decide)
  exact ⟨⟨valid, split, hold, steady, unchorded, heard, audible⟩, (ticked 1400).trans (by decide),
    (ticked 7800).trans (by decide), channel, found, reported.trans (by decide)⟩

end Recognizer

end KeyGesture
