import KeyGesture.Proofs.Recognizer.TapCounting

namespace KeyGesture

/-! A long hold among taps. What cancels the taps before it is the tick that finds the hold long, not the
release that ends it, so a hold that is released before any tick has seen it long leaves them pending. -/

def Call.isEdgeOrTick : Call → Bool
  | .press _ _ | .release _ | .tick => true
  | .register _ _ | .setTiming _ | .mute | .resume => false

/-- A turn under a given timing, with nobody else at work: the recognizer reports and has no chord. -/
structure Turn.Plain (timing : Timing) (turn : Turn) : Prop where
  timing : turn.before.timing = timing
  audible : turn.before.muted = false
  unchorded : turn.before.chord.stage = .inactive
  untracked : turn.after.chord.stage ≠ .tracking

/-- A key is pressed and stays down. -/
structure Hold (key : Key) (backdate : UInt32) (pressing : Turn) (holding : List Turn) : Prop where
  pressed : ∃ channel, pressing.call = .press channel backdate
  up : pressing.before.isDown key = false
  down : ∀ turn ∈ pressing :: holding, turn.after.isDown key = true

/-- Whether a tick sees a hold after it has become long. -/
def Noticed (timing : Timing) (backdate : UInt32) (pressing : Turn) (holding : List Turn) : Prop :=
  ∃ turn ∈ holding, turn.call = .tick ∧ timing.long ≤ elapsed turn.now (pressing.now - backdate)

namespace Slot

variable {slot : Slot} {timing : Timing} {now : UInt32}

theorem isSome_escalation?_iff (now : UInt32) (pressed : slot.phase = .pressed)
    (waiting : slot.nextHold = timing.long) :
    (slot.escalation? timing now).isSome = true ↔ timing.long ≤ slot.hold now := by
  simp only [escalation?, pressed, waiting, true_and]
  split
  · rename_i reached
    refine ⟨fun _ => reached, fun _ => ?_⟩
    rw [Option.isSome_iff_ne_none, ne_eq, Timing.tier?_eq_none_iff]
    omega
  · rename_i unreached
    simpa using unreached

theorem any_isEscalation_found (down : slot.isDown = true) :
    (slot.found timing now).any Gesture.isEscalation = (slot.escalation? timing now).isSome := by
  rw [found_of_isDown down, List.any_append]
  cases slot.escalation? timing now <;> cases slot.repeats timing now <;> rfl

/-- A tick before a hold escalates moves nothing but the last repeat. -/
theorem tick_of_not_escalated (down : slot.isDown = true)
    (unescalated : slot.escalation? timing now = none) :
    ∃ repeatedAt, slot.tick timing now = { slot with repeatedAt } := by
  rw [tick_of_isDown now down]
  simp only [escalate, unescalated, advanceRepeat]
  split
  · exact ⟨some now, rfl⟩
  · exact ⟨slot.repeatedAt, rfl⟩

end Slot

section KeyStep

variable {timing : Timing} {now : UInt32} {stage : Stage} {slot next : Slot} {call : Call}
  {gestures : List Gesture}

theorem KeyStep.press_of_down (step : KeyStep timing now stage slot call gestures next)
    (up : slot.isDown = false) (down : next.isDown = true) :
    ∃ channel backdate, call = .press channel backdate ∧ gestures = [.press] ∧
      next = slot.press timing (now - backdate) := by
  cases step with
  | kept => exact absurd (up.symm.trans down) (by simp)
  | rebased => exact absurd (up.symm.trans ((Slot.isDown_rebase _).symm.trans down)) (by simp)
  | pressed channel backdate => exact ⟨channel, backdate, rfl, rfl, rfl⟩
  | lifted => contradiction
  | ticked => exact absurd (up.symm.trans ((Slot.isDown_tick _).symm.trans down)) (by simp)

theorem KeyStep.release_of_heldRelease (step : KeyStep timing now stage slot call gestures next)
    {tier : Tier} (long : .heldRelease tier ∈ gestures) :
    slot.isDown = true ∧ gestures = [.release, .heldRelease tier] := by
  cases step with
  | kept => contradiction
  | rebased => contradiction
  | pressed => simp at long
  | lifted channel down =>
      simp only [List.mem_cons, List.not_mem_nil, or_false, reduceCtorEq, false_or] at long
      exact ⟨down, by rw [long]⟩
  | ticked => simp [Slot.mem_found_iff] at long

theorem KeyStep.not_short_of_down (step : KeyStep timing now stage slot call gestures next)
    (down : next.isDown = true) : .short ∉ gestures := by
  intro short
  cases step with
  | kept => contradiction
  | rebased => contradiction
  | pressed => simp at short
  | lifted => contradiction
  | ticked => simp [Slot.mem_found_iff] at short

end KeyStep

theorem Turn.Plain.keyStep {timing : Timing} {turn : Turn} {slot : Slot} {index : Nat}
    (plain : turn.Plain timing) (sound : turn.before.Sound)
    (place : turn.before.slots[index]? = some slot) :
    ∃ next, turn.after.slots[index]? = some next ∧
      KeyStep timing turn.now turn.after.chord.stage slot turn.call
        (gesturesOf slot.key turn.events) next := by
  obtain ⟨gestures, next, placeNext, step, reported⟩ := sound.keyStep place turn.now turn.call
  have told : gesturesOf slot.key turn.events = gestures :=
    gesturesOf_eq_of_eventsNaming (reported plain.unchorded plain.audible)
  rw [told, ← plain.timing]
  exact ⟨next, placeNext, step⟩

theorem Hold.place_pressed {key : Key} {backdate : UInt32} {pressing : Turn} {holding : List Turn}
    {slot : Slot} {index : Nat} (hold : Hold key backdate pressing holding)
    (sound : pressing.before.Sound) (place : pressing.before.slots[index]? = some slot)
    (sameKey : slot.key = key) :
    pressing.after.slots[index]? =
        some (slot.press pressing.before.timing (pressing.now - backdate)) ∧
      (pressing.before.chord.stage = .inactive → pressing.before.muted = false →
        gesturesOf key pressing.events = [.press]) := by
  subst sameKey
  obtain ⟨gestures, next, placeNext, step, told⟩ := sound.keyStep place pressing.now pressing.call
  have soundNext : pressing.after.Sound := sound.answer pressing.now pressing.call
  have down := hold.down pressing (by simp)
  rw [← step.key_eq, soundNext.isDown_eq placeNext] at down
  obtain ⟨channel, late, call, reported, rfl⟩ :=
    step.press_of_down ((sound.isDown_eq place).symm.trans hold.up) down
  obtain ⟨_, called⟩ := hold.pressed
  have sameCall := call.symm.trans called
  simp only [Call.press.injEq] at sameCall
  rw [← sameCall.2]
  refine ⟨placeNext, fun unchorded audible => ?_⟩
  rw [← reported]
  exact gesturesOf_eq_of_eventsNaming (told unchorded audible)

namespace Recognizer

variable {start : Recognizer} {calls : List (UInt32 × Call)} {slot : Slot} {index : Nat}
  {timing : Timing}

/-- While a key stays down, its hold escalates exactly if a tick comes after the hold has become long. -/
theorem escalated_iff_noticed (instant : UInt32) (sound : start.Sound)
    (place : start.slots[index]? = some slot) (pressed : slot.phase = .pressed)
    (since : slot.pressedAt = instant) (waiting : slot.nextHold = timing.long)
    (plain : ∀ turn ∈ start.turns calls, turn.Plain timing)
    (down : ∀ turn ∈ start.turns calls, turn.after.isDown slot.key = true) :
    (gesturesOf slot.key ((start.turns calls).flatMap Turn.events)).any Gesture.isEscalation = true ↔
      ∃ turn ∈ start.turns calls, turn.call = .tick ∧ timing.long ≤ elapsed turn.now instant := by
  induction calls generalizing start slot with
  | nil => simp [turns]
  | cons moment rest ih =>
      obtain ⟨now, call⟩ := moment
      simp only [turns, List.forall_mem_cons] at plain down
      obtain ⟨next, placeNext, step⟩ := plain.1.keyStep sound place
      have soundNext : Sound (Turn.after ⟨start, now, call⟩) := sound.answer now call
      have downNext : next.isDown = true := by
        rw [← soundNext.isDown_eq placeNext, step.key_eq]
        exact down.1
      have later := ih soundNext placeNext
      rw [step.key_eq] at later
      simp only [turns, List.flatMap_cons, gesturesOf_append, List.any_append, Bool.or_eq_true,
        List.exists_mem_cons_iff]
      generalize gesturesOf slot.key (Turn.events ⟨start, now, call⟩) = gestures at step
      cases step with
      | kept call unticked channel =>
          rw [later pressed since waiting plain.2 down.2]
          simp [unticked]
      -- Only a tracked chord moves the start of a hold.
      | rebased channel backdate tracked => exact absurd tracked plain.1.untracked
      | pressed channel backdate up => simp [Slot.isDown, pressed] at up
      | lifted => contradiction
      | ticked =>
          have isDown : slot.isDown = true := Slot.isDown_iff.mpr (.inl pressed)
          have due := Slot.isSome_escalation?_iff now pressed waiting
          rw [Slot.hold, since] at due
          rw [Slot.any_isEscalation_found isDown, due]
          by_cases long : timing.long ≤ elapsed now instant
          · exact ⟨fun _ => .inl ⟨rfl, long⟩, fun _ => .inl long⟩
          · have unescalated : slot.escalation? timing now = none := by
              rw [← Option.not_isSome_iff_eq_none, due]
              exact long
            obtain ⟨repeatedAt, ticked⟩ := Slot.tick_of_not_escalated isDown unescalated
            have same : (slot.tick timing now).phase = .pressed ∧
                (slot.tick timing now).pressedAt = instant ∧
                (slot.tick timing now).nextHold = timing.long := by
              rw [ticked]
              exact ⟨pressed, since, waiting⟩
            rw [later same.1 same.2.1 same.2.2 plain.2 down.2]
            simp [long]

theorem not_short_through (sound : start.Sound) (place : start.slots[index]? = some slot)
    (plain : ∀ turn ∈ start.turns calls, turn.Plain timing)
    (down : ∀ turn ∈ start.turns calls, turn.after.isDown slot.key = true) :
    .short ∉ gesturesOf slot.key ((start.turns calls).flatMap Turn.events) := by
  intro short
  obtain ⟨turn, member, reported⟩ := mem_gesturesOf_flatMap.mp short
  obtain ⟨soundTurn, old, placeOld, sameKey⟩ := place_at_turn sound place member
  obtain ⟨next, placeNext, step⟩ := (plain turn member).keyStep soundTurn placeOld
  have soundNext : turn.after.Sound := soundTurn.answer turn.now turn.call
  have downNext := down turn member
  rw [← sameKey, ← step.key_eq, soundNext.isDown_eq placeNext] at downNext
  rw [← sameKey] at reported
  exact step.not_short_of_down downNext reported

/-- A key that was up and is down has been pressed and held since. -/
theorem exists_hold (sound : start.Sound) (place : start.slots[index]? = some slot)
    (up : start.isDown slot.key = false) (down : (start.run calls).isDown slot.key = true) :
    ∃ before backdate pressing holding, start.turns calls = before ++ pressing :: holding ∧
      Hold slot.key backdate pressing holding := by
  -- From the end, because it is the last press that the key has been held since.
  induction calls using List.reverseRecOn with
  | nil => exact absurd (up.symm.trans down) (by simp)
  | append_singleton calls moment ih =>
      obtain ⟨now, call⟩ := moment
      let last : Turn := ⟨start.run calls, now, call⟩
      have made : start.turns (calls ++ [(now, call)]) = start.turns calls ++ [last] :=
        start.turns_append calls [(now, call)]
      have downLast : last.after.isDown slot.key = true := by
        rw [run_append] at down
        exact down
      cases downBefore : (start.run calls).isDown slot.key with
      | true =>
          obtain ⟨before, backdate, pressing, holding, split, hold⟩ := ih downBefore
          refine ⟨before, backdate, pressing, holding ++ [last], ?_, hold.pressed, hold.up, ?_⟩
          · rw [made, split, List.append_assoc, List.cons_append]
          · rw [← List.cons_append, List.forall_mem_append]
            exact ⟨hold.down, by simpa using downLast⟩
      | false =>
          have soundLast := sound.run calls
          obtain ⟨old, placeOld, sameKey⟩ := place_through sound place calls
          obtain ⟨_, next, placeNext, step, _⟩ := soundLast.keyStep placeOld now call
          have downNext : next.isDown = true := by
            rw [← (soundLast.answer now call).isDown_eq placeNext, step.key_eq, sameKey]
            exact downLast
          have upOld : old.isDown = false := by
            rw [← soundLast.isDown_eq placeOld, sameKey]
            exact downBefore
          obtain ⟨channel, backdate, pressed, _⟩ := step.press_of_down upOld downNext
          exact ⟨start.turns calls, backdate, last, [], made, ⟨channel, pressed⟩, downBefore,
            by simpa using downLast⟩

/-- A hold that no tick has noticed leaves the taps before it pending; a noticed one forgets them. -/
theorem taps_through_hold (sound : start.Sound) (place : start.slots[index]? = some slot)
    (plain : ∀ turn ∈ start.turns calls, turn.Plain timing) {before holding : List Turn}
    {pressing : Turn} {backdate : UInt32} (split : start.turns calls = before ++ pressing :: holding)
    (hold : Hold slot.key backdate pressing holding) :
    let told := tapsSinceHold (gesturesOf slot.key ((start.turns calls).flatMap Turn.events))
    (Noticed timing backdate pressing holding → told = 0) ∧
      (¬ Noticed timing backdate pressing holding →
        told = tapsSinceHold (gesturesOf slot.key (before.flatMap Turn.events))) := by
  intro told
  obtain ⟨earlier, during, _, _, tail⟩ := exists_of_turns_eq_append split
  obtain ⟨_, inside, _, insideTurns⟩ := exists_of_turns_eq_cons tail
  have listed : ∀ turn ∈ pressing :: holding, turn ∈ start.turns calls := by
    rw [split]
    exact fun turn member => List.mem_append_right before member
  have member : pressing ∈ start.turns calls := listed pressing (by simp)
  obtain ⟨soundPressing, old, placeOld, sameKey⟩ := place_at_turn sound place member
  obtain ⟨placeNext, reported⟩ := hold.place_pressed soundPressing placeOld sameKey
  have plainPressing := plain pressing member
  have pressed := reported plainPressing.unchorded plainPressing.audible
  rw [plainPressing.timing] at placeNext
  have soundNext : pressing.after.Sound := soundPressing.answer pressing.now pressing.call
  have plainInside : ∀ turn ∈ pressing.after.turns inside, turn.Plain timing := by
    rw [insideTurns]
    exact fun turn member => plain turn (listed turn (List.mem_cons_of_mem _ member))
  have downInside : ∀ turn ∈ pressing.after.turns inside, turn.after.isDown old.key = true := by
    rw [insideTurns, sameKey]
    exact fun turn member => hold.down turn (List.mem_cons_of_mem _ member)
  have escalated := escalated_iff_noticed (pressing.now - backdate) soundNext placeNext rfl rfl rfl
    plainInside downInside
  have untapped := not_short_through soundNext placeNext plainInside downInside
  change _ ∉ gesturesOf old.key _ at untapped
  change (gesturesOf old.key _).any _ = true ↔ _ at escalated
  rw [insideTurns, sameKey] at escalated untapped
  -- The gestures of the hold hold no short press, so all they can change is what is told of before.
  generalize held : gesturesOf slot.key (holding.flatMap Turn.events) = gestures at escalated untapped
  have whole : gesturesOf slot.key ((start.turns calls).flatMap Turn.events) =
      gesturesOf slot.key (before.flatMap Turn.events) ++ (.press :: gestures) := by
    rw [split, List.flatMap_append, List.flatMap_cons, gesturesOf_append, gesturesOf_append, pressed,
      held]
    rfl
  have silent : tapsSinceHold (.press :: gestures) = 0 := by
    have bound := tapsSinceHold_le (.press :: gestures)
    rw [List.count_eq_zero.mpr (by simpa using untapped)] at bound
    omega
  have sameEscalation : (Gesture.press :: gestures).any Gesture.isEscalation =
      gestures.any Gesture.isEscalation := rfl
  simp only [told, whole, tapsSinceHold_append, silent, sameEscalation]
  constructor
  · intro noticed
    rw [if_pos (escalated.mpr noticed)]
  · intro unnoticed
    rw [if_neg (mt escalated.mp unnoticed)]
    rfl

end Recognizer

namespace Stretch

open Recognizer

variable {start : Recognizer} {calls : List (UInt32 × Call)} {key : Key} {timing : Timing}
  {opening lifting closing : Turn} {middle sofar rest : List Turn} {tier : Tier}

/-- The turns of a stretch up to a long release end with the hold. -/
theorem exists_hold_before (stretch : Stretch start calls key opening middle closing)
    (sound : start.Sound) (plain : ∀ turn ∈ opening :: middle, turn.Plain timing)
    (parts : opening :: middle = sofar ++ lifting :: rest)
    (long : .heldRelease tier ∈ gesturesOf key lifting.events) :
    ∃ before backdate pressing holding, sofar = before ++ pressing :: holding ∧
      Hold key backdate pressing holding ∧
      gesturesOf key lifting.events = [.release, .heldRelease tier] ∧
      let told := tapsSinceHold (gesturesOf key (sofar.flatMap Turn.events))
      (Noticed timing backdate pressing holding → told = 0) ∧
        (¬ Noticed timing backdate pressing holding →
          told = tapsSinceHold (gesturesOf key (before.flatMap Turn.events))) := by
  obtain ⟨soundOpening, ⟨slot, index, place, rfl, idle⟩, inside, _, insideTurns, _⟩ :=
    stretch.exists_run sound
  rw [parts] at insideTurns plain
  obtain ⟨first, second, _, firstTurns, tail⟩ := exists_of_turns_eq_append insideTurns
  have starts : lifting.before = opening.before.run first := (exists_of_turns_eq_cons tail).1
  have soundLifting : lifting.before.Sound := starts ▸ soundOpening.run first
  obtain ⟨held, placeHeld, sameKey⟩ := place_through soundOpening place first
  rw [← starts] at placeHeld
  obtain ⟨next, _, step⟩ := (plain lifting (by simp)).keyStep soundLifting placeHeld
  rw [sameKey] at step
  obtain ⟨down, reported⟩ := step.release_of_heldRelease long
  have up : slot.isDown = false := by simp [Slot.isDown, idle]
  rw [← soundOpening.isDown_eq place] at up
  rw [← soundLifting.isDown_eq placeHeld, sameKey, starts] at down
  have plainFirst : ∀ turn ∈ opening.before.turns first, turn.Plain timing := by
    rw [firstTurns]
    exact fun turn member => plain turn (List.mem_append_left _ member)
  obtain ⟨before, backdate, pressing, holding, split, hold⟩ :=
    exists_hold soundOpening place up down
  have counted := taps_through_hold soundOpening place plainFirst split hold
  rw [firstTurns] at split counted
  exact ⟨before, backdate, pressing, holding, split, hold, reported, counted⟩

/-- The taps before a long hold are reported with those after it, unless a tick has noticed that hold or
a later hold has escalated. -/
theorem tapped_around_hold (stretch : Stretch start calls key opening middle closing)
    (sound : start.Sound) (plain : ∀ turn ∈ opening :: middle ++ [closing], turn.Plain timing)
    (parts : opening :: middle = sofar ++ lifting :: rest)
    (long : .heldRelease tier ∈ gesturesOf key lifting.events) :
    ∃ before backdate pressing holding, sofar = before ++ pressing :: holding ∧
      Hold key backdate pressing holding ∧
      let pending := tapsSinceHold (gesturesOf key (before.flatMap Turn.events))
      let later := gesturesOf key (rest.flatMap Turn.events)
      let forgotten :=
        Noticed timing backdate pressing holding ∨ later.any Gesture.isEscalation = true
      (forgotten → eventsNaming key closing.events = tapReport key (tapsSinceHold later)) ∧
        (¬ forgotten → eventsNaming key closing.events = tapReport key (pending + later.count .short)) := by
  have reported := stretch.tapped sound (fun turn member => (plain turn member).audible)
    (plain closing (by simp)).unchorded
  obtain ⟨before, backdate, pressing, holding, split, hold, released, told⟩ :=
    stretch.exists_hold_before sound (fun turn member => plain turn (List.mem_append_left _ member))
      parts long
  refine ⟨before, backdate, pressing, holding, split, hold, ?_⟩
  intro pending later forgotten
  have whole : gesturesOf key ((opening :: middle).flatMap Turn.events) =
      gesturesOf key (sofar.flatMap Turn.events) ++ ([.release, .heldRelease tier] ++ later) := by
    rw [parts, List.flatMap_append, List.flatMap_cons, gesturesOf_append, gesturesOf_append, released]
  have silent : tapsSinceHold ([.release, .heldRelease tier] ++ later) = tapsSinceHold later := by
    rw [tapsSinceHold_append]
    split
    · rfl
    · exact Nat.zero_add _
  have calm : ([Gesture.release, .heldRelease tier] ++ later).any Gesture.isEscalation =
      later.any Gesture.isEscalation := rfl
  rw [whole, tapsSinceHold_append, silent, calm] at reported
  constructor
  · rintro (noticed | escalated)
    · rwa [told.1 noticed, Nat.zero_add, ite_self] at reported
    · rwa [if_pos escalated] at reported
  · intro kept
    obtain ⟨unnoticed, unescalated⟩ := not_or.mp kept
    have every : tapsSinceHold later = later.count .short :=
      tapsSinceHold_of_not_escalated (by simpa using unescalated)
    rwa [if_neg unescalated, told.2 unnoticed, every] at reported

end Stretch

def solo (timing : Timing) (key : Key) (channel : Nat) : Recognizer :=
  Recognizer.run {} [(0, .setTiming timing), (0, .register key channel)]

/-- What stays as it is while a recognizer of one key is in use. -/
structure Solo (timing : Timing) (recognizer : Recognizer) : Prop where
  sound : recognizer.Sound
  single : recognizer.slots.length = 1
  timing : recognizer.timing = timing
  audible : recognizer.muted = false
  unchorded : recognizer.chord.stage = .inactive

namespace Solo

variable {timing : Timing} {recognizer : Recognizer}

theorem initially (timing : Timing) (key : Key) (channel : Nat) :
    Solo timing (solo timing key channel) :=
  ⟨Recognizer.sound_fresh.run _, rfl, rfl, rfl, rfl⟩

theorem untracked (solo : Solo timing recognizer) {next : Recognizer} (sound : next.Sound)
    (single : next.slots.length = recognizer.slots.length) : next.chord.stage ≠ .tracking := by
  intro tracking
  have together := sound.together tracking
  have bound : next.downCount ≤ next.slots.length := List.countP_le_length
  have one := solo.single
  omega

theorem answer (solo : Solo timing recognizer) {call : Call} (used : call.isEdgeOrTick = true)
    (now : UInt32) : Solo timing (recognizer.answer now call).value.2 := by
  have sound := solo.sound.answer now call
  cases call with
  | register | setTiming | mute | resume => contradiction
  | press channel backdate =>
      change Recognizer.Sound (recognizer.press now channel backdate).value at sound
      change Solo timing (recognizer.press now channel backdate).value
      rcases recognizer.press_refused_or_accepted now channel backdate with
        refused | ⟨slot, index, _, _, _, accepted⟩
      · rwa [refused]
      · rw [accepted, Recognizer.value_report] at sound ⊢
        have size := congrArg List.length
          (recognizer.slots_acceptPress slot index (now - backdate))
        rw [List.length_mapIdx] at size
        have stays := solo.untracked sound size
        refine ⟨sound, size.trans solo.single, solo.timing, solo.audible, ?_⟩
        simp only [Recognizer.acceptPress, Chord.join, solo.unchorded, true_and] at stays ⊢
        split at stays
        · contradiction
        · rename_i alone
          rw [if_neg alone]
  | release channel =>
      change Recognizer.Sound (recognizer.release now channel).value at sound
      change Solo timing (recognizer.release now channel).value
      rcases recognizer.release_refused_or_accepted now channel with
        refused | ⟨slot, index, _, _, _, accepted⟩
      · rwa [refused]
      · rw [accepted, Recognizer.value_report] at sound ⊢
        have size := congrArg List.length (recognizer.slots_acceptRelease slot index now)
        rw [List.length_mapIdx] at size
        refine ⟨sound, size.trans solo.single, solo.timing, solo.audible, ?_⟩
        simp only [Recognizer.acceptRelease, Chord.stage_leave, solo.unchorded]
        rfl
  | tick =>
      change Recognizer.Sound (recognizer.tick now).value.2 at sound
      change Solo timing (recognizer.tick now).value.2
      have size := congrArg List.length (recognizer.slots_tick now)
      rw [List.length_map] at size
      have stage := recognizer.stage_tick now
      rw [solo.unchorded, ite_self] at stage
      exact ⟨sound, size.trans solo.single, (Recognizer.timing_tick now).trans solo.timing,
        (Recognizer.muted_tick now).trans solo.audible, stage⟩

theorem plain_turns {calls : List (UInt32 × Call)} (solo : Solo timing recognizer)
    (used : ∀ moment ∈ calls, moment.2.isEdgeOrTick = true) :
    ∀ turn ∈ recognizer.turns calls, turn.Plain timing := by
  intro turn member
  have kept := Recognizer.forall_turns_of_preserved (Solo timing) solo
    (fun moment listed _ now each => each.answer (used moment listed) now) turn member
  exact ⟨kept.1.timing, kept.1.audible, kept.1.unchorded, by simp [kept.2.unchorded]⟩

end Solo

theorem tapped_mem_iff {key : Key} {events : List Event} {count : Nat}
    (reported : eventsNaming key events = tapReport key count) (taps : TapCount) :
    .single key (.tapped taps) ∈ events ↔ TapCount.ofNat? count = some taps := by
  have named : .single key (.tapped taps) ∈ eventsNaming key events ↔
      .single key (.tapped taps) ∈ events := by
    simp [eventsNaming, Event.contains, Event.single]
  rw [← named, reported]
  simp [tapReport, Event.single]

/-- A reported run of taps leaves pending ones out exactly if there are none or it is not reported. -/
theorem tapped_le_iff {key : Key} {events : List Event} {pending count : Nat}
    (reported : eventsNaming key events = tapReport key (pending + count)) :
    (∀ taps, .single key (.tapped taps) ∈ events → taps.toNat ≤ count) ↔
      pending = 0 ∨ 6 < pending + count := by
  simp only [tapped_mem_iff reported]
  constructor
  · intro bounded
    by_contra some
    have nameable : (TapCount.ofNat? (pending + count)).isSome :=
      TapCount.ofNat?_isSome_iff.mpr (by omega)
    obtain ⟨taps, found⟩ := Option.isSome_iff_exists.mp nameable
    have bound := bounded taps found
    rw [TapCount.toNat_of_ofNat? found] at bound
    omega
  · rintro none taps found
    have nameable := TapCount.ofNat?_isSome_iff.mp (Option.isSome_iff_exists.mpr ⟨taps, found⟩)
    rw [TapCount.toNat_of_ofNat? found]
    omega

/-- With one key in use under one timing, let a release in a stretch end a long hold. The taps reported
at the end of the stretch are those after that release, exactly if some tick has seen the hold after it
had become long, or a later hold escalates, or there were no taps to forget, or there are too many to
report. If no tick has seen it and no later hold escalates, the taps before the hold count as well. -/
theorem taps_outlive_unnoticed_hold {timing : Timing} {key : Key} {channel : Nat}
    {calls : List (UInt32 × Call)} {opening lifting closing : Turn} {middle sofar rest : List Turn}
    {tier : Tier} (used : ∀ moment ∈ calls, moment.2.isEdgeOrTick = true)
    (stretch : Stretch (solo timing key channel) calls key opening middle closing)
    (parts : opening :: middle = sofar ++ lifting :: rest)
    (long : .heldRelease tier ∈ gesturesOf key lifting.events) :
    ∃ before backdate pressing holding, sofar = before ++ pressing :: holding ∧
      Hold key backdate pressing holding ∧
      let pending := tapsSinceHold (gesturesOf key (before.flatMap Turn.events))
      let later := gesturesOf key (rest.flatMap Turn.events)
      let forgotten :=
        Noticed timing backdate pressing holding ∨ later.any Gesture.isEscalation = true
      (forgotten → eventsNaming key closing.events = tapReport key (tapsSinceHold later)) ∧
        (¬ forgotten → eventsNaming key closing.events = tapReport key (pending + later.count .short)) ∧
        ((∀ taps, .single key (.tapped taps) ∈ closing.events → taps.toNat ≤ later.count .short) ↔
          forgotten ∨ pending = 0 ∨ 6 < pending + later.count .short) := by
  have initially := Solo.initially timing key channel
  have plain := stretch.forall_turns (initially.plain_turns used)
  obtain ⟨before, backdate, pressing, holding, split, hold, whenForgotten, whenKept⟩ :=
    stretch.tapped_around_hold initially.sound plain parts long
  refine ⟨before, backdate, pressing, holding, split, hold, ?_⟩
  intro pending later forgotten
  refine ⟨whenForgotten, whenKept, ?_⟩
  by_cases forgets : forgotten
  · refine ⟨fun _ => .inl forgets, fun _ taps tapped => ?_⟩
    have found := (tapped_mem_iff (whenForgotten forgets) taps).mp tapped
    rw [TapCount.toNat_of_ofNat? found]
    exact tapsSinceHold_le later
  · rw [tapped_le_iff (whenKept forgets)]
    exact ⟨.inr, fun cause => cause.resolve_left forgets⟩

/-- A tap, a hold that no tick sees long, one that a tick does and one more tap, which alone is reported. -/
theorem later_noticed_hold_forgets_taps :
    let key : Key := ⟨1, .io⟩
    let start := solo {} key 5
    let sofar : List (UInt32 × Call) := [(0, .press 5 0), (60, .release 5), (155, .press 5 0)]
    let after : List (UInt32 × Call) := [(1800, .press 5 0), (3400, .tick), (3450, .release 5),
      (3500, .press 5 0), (3560, .release 5)]
    let calls := sofar ++ [(1690, .release 5)] ++ after ++ [(3900, .tick)]
    let opening : Turn := ⟨start, 0, .press 5 0⟩
    let lifting : Turn := ⟨start.run sofar, 1690, .release 5⟩
    let rest := lifting.after.turns after
    let middle := opening.after.turns (sofar.tail ++ [(1690, .release 5)] ++ after)
    let closing : Turn := ⟨lifting.after.run after, 3900, .tick⟩
    (∀ moment ∈ calls, moment.2.isEdgeOrTick = true) ∧
      Stretch start calls key opening middle closing ∧
      opening :: middle = start.turns sofar ++ lifting :: rest ∧
      .heldRelease .long ∈ gesturesOf key lifting.events ∧
      eventsNaming key closing.events = tapReport key 1 := by
  intro key start sofar after calls opening lifting rest middle closing
  have used : ∀ moment ∈ calls, moment.2.isEdgeOrTick = true := by decide
  have stretch : Stretch start calls key opening middle closing :=
    ⟨⟨[], [], by decide⟩, by decide, by decide, by decide⟩
  have parts : opening :: middle = start.turns sofar ++ lifting :: rest := by decide
  have long : .heldRelease .long ∈ gesturesOf key lifting.events := by decide
  obtain ⟨before, backdate, pressing, holding, _, _, forgotten, _, _⟩ :=
    taps_outlive_unnoticed_hold used stretch parts long
  exact ⟨used, stretch, parts, long, (forgotten (.inr (by decide))).trans (by decide)⟩

/-- A tap and then a hold of 1535 ms, which becomes long between one tick and the next and is released
before that: the hold is reported as long, and the tap before it all the same once the window closes. -/
theorem unnoticed_hold_keeps_taps :
    let key : Key := ⟨1, .io⟩
    let start := solo {} key 5
    let ticks := fun first count : Nat =>
      (List.range count).map fun step => (UInt32.ofNat (first + 50 * step), Call.tick)
    let sofar : List (UInt32 × Call) := [(0, .press 5 0), (50, .tick), (60, .release 5), (100, .tick),
      (150, .tick), (155, .press 5 0)] ++ ticks 200 30
    let calls := sofar ++ [(1690, .release 5)] ++ ticks 1700 6 ++ [(2000, .tick)]
    let opening : Turn := ⟨start, 0, .press 5 0⟩
    let lifting : Turn := ⟨start.run sofar, 1690, .release 5⟩
    let rest := lifting.after.turns (ticks 1700 6)
    let middle := opening.after.turns (sofar.tail ++ [(1690, .release 5)] ++ ticks 1700 6)
    let closing : Turn := ⟨lifting.after.run (ticks 1700 6), 2000, .tick⟩
    Timing.Valid {} ∧ (∀ moment ∈ calls, moment.2.isEdgeOrTick = true) ∧
      Stretch start calls key opening middle closing ∧
      opening :: middle = start.turns sofar ++ lifting :: rest ∧
      .heldRelease .long ∈ gesturesOf key lifting.events ∧
      (gesturesOf key (rest.flatMap Turn.events)).count .short = 0 ∧
      .single key (.tapped .single) ∈ closing.events := by
  intro key start ticks sofar calls opening lifting rest middle closing
  have stretch : Stretch start calls key opening middle closing :=
    ⟨⟨[], [], by decide +kernel⟩, by decide +kernel, by decide +kernel, by decide +kernel⟩
  exact ⟨Timing.validate_eq_ok_iff.mp rfl, by decide +kernel, stretch, by decide +kernel, by decide +kernel,
    by decide +kernel, by decide +kernel⟩

end KeyGesture
