import KeyGesture.Proofs.Recognizer.KeyView
import KeyGesture.Proofs.Recognizer.Run
import KeyGesture.Proofs.Recognizer.SlotTable

namespace KeyGesture

/-! A second tick at the same reading of the clock finds nothing that the first has left. All it can change
are the members that the first tick collected for a chord, and those are never looked at again: whatever
reports a chord collects its members anew. -/

namespace Slot

variable {slot : Slot} {timing : Timing}

/-- The next hold a slot waits for lies beyond the tier it was raised to, whether or not the tiers are in
order. -/
theorem escalation?_raise (now : UInt32) {tier : Tier} (reached : timing.tier? (slot.hold now) = some tier) :
    (slot.raise timing tier).escalation? timing now = none := by
  have beyond : tier = .veryVeryLong ∨ slot.hold now < (slot.raise timing tier).nextHold := by
    cases tier <;> grind [Timing.tier?, raise]
  rw [escalation?, if_neg]
  rintro ⟨pressed, waited⟩
  have same : (slot.raise timing tier).hold now = slot.hold now := by rw [hold, pressedAt_raise, hold]
  rw [same] at waited
  rcases beyond with rfl | later
  · contradiction
  · omega

theorem escalation?_escalate (slot : Slot) (timing : Timing) (now : UInt32) :
    (slot.escalate timing now).escalation? timing now = none := by
  rw [escalate]
  cases escalates : slot.escalation? timing now with
  | none => exact escalates
  | some tier =>
      rw [escalation?] at escalates
      split at escalates
      · exact escalation?_raise now escalates
      · contradiction

theorem escalation?_advanceRepeat (slot : Slot) (timing : Timing) (now : UInt32) :
    (slot.advanceRepeat timing now).escalation? timing now = slot.escalation? timing now := by
  have same : (slot.advanceRepeat timing now).hold now = slot.hold now := by
    rw [hold, pressedAt_advanceRepeat, hold]
  rw [escalation?, phase_advanceRepeat, nextHold_advanceRepeat, same, escalation?]

theorem escalation?_tick (slot : Slot) (timing : Timing) (now : UInt32) :
    (slot.tick timing now).escalation? timing now = none := by
  cases down : slot.isDown with
  | true => rw [tick_of_isDown now down, escalation?_advanceRepeat, escalation?_escalate]
  | false =>
      have up : (slot.tick timing now).isDown = false := by rwa [isDown_tick]
      rw [escalation?, if_neg]
      rintro ⟨pressed, _⟩
      rw [isDown, pressed] at up
      contradiction

/-- No time has passed since a repeat, or since repeating was armed. -/
theorem repeats_advanceRepeat (positive : 0 < timing.repeatRate) (now : UInt32) :
    (slot.advanceRepeat timing now).repeats timing now = false := by
  rw [advanceRepeat]
  split
  · have early : ¬ timing.repeatRate ≤ 0 := by omega
    simp [repeats, elapsed_self, early]
  · rename_i unmoved
    rw [Bool.eq_false_iff]
    intro due
    have started : timing.repeatStart < slot.hold now := by simp_all [repeats]
    exact unmoved ⟨started, .inr due⟩

theorem advanceRepeat_advanceRepeat (positive : 0 < timing.repeatRate) (now : UInt32) :
    (slot.advanceRepeat timing now).advanceRepeat timing now = slot.advanceRepeat timing now := by
  have quiet : (slot.advanceRepeat timing now).repeats timing now = false :=
    repeats_advanceRepeat positive now
  rw [advanceRepeat, if_neg]
  rintro ⟨started, unarmed | due⟩
  · rw [advanceRepeat] at unarmed started
    split at unarmed
    · contradiction
    · rename_i unmoved
      rw [if_neg unmoved] at started
      exact unmoved ⟨started, .inl unarmed⟩
  · rw [quiet] at due
    contradiction

theorem tick_tick (positive : 0 < timing.repeatRate) (now : UInt32) :
    (slot.tick timing now).tick timing now = slot.tick timing now := by
  rcases slot.idle_or_isDown_or_lifted with idle | down | lifted
  · rw [tick_of_idle now idle, tick_of_idle now idle]
  · have downStill : (slot.tick timing now).isDown = true := by rwa [isDown_tick]
    rw [tick_of_isDown now downStill, tick_of_isDown now down, escalate, escalation?_advanceRepeat,
      escalation?_escalate]
    exact advanceRepeat_advanceRepeat positive now
  · rw [tick_of_lifted now lifted]
    split
    · exact tick_of_idle now rfl
    · rename_i running
      rw [tick_of_lifted now lifted, if_neg running]

theorem found_tick (positive : 0 < timing.repeatRate) (now : UInt32) :
    (slot.tick timing now).found timing now = [] := by
  rcases slot.idle_or_isDown_or_lifted with idle | down | lifted
  · rw [tick_of_idle now idle, found, idle]
  · have downStill : (slot.tick timing now).isDown = true := by rwa [isDown_tick]
    have ticked : slot.tick timing now = _ := tick_of_isDown now down
    have escalates := escalation?_tick slot timing now
    have repeats : (slot.tick timing now).repeats timing now = false := by
      rw [ticked, repeats_advanceRepeat positive]
    rcases isDown_iff.mp downStill with pressed | parked
    · simp [found, pressed, escalates, repeats]
    · simp [found, parked, escalates, repeats]
  · cases ended : slot.windowOver timing now with
    | true => rw [tick_of_lifted now lifted, if_pos ended, found]; rfl
    | false =>
        rw [tick_of_lifted now lifted, if_neg (Bool.eq_false_iff.mp ended), found, lifted]
        simp [ended]

end Slot

namespace Recognizer

variable {recognizer : Recognizer}

/-- The recognizer with other members of its chord. -/
def withMembers (recognizer : Recognizer) (members : Members) : Recognizer :=
  { recognizer with chord := { recognizer.chord with members } }

/-! The members of a chord are not looked at before they are collected anew. -/

theorem report_withMembers {α : Type} (members : Members) (outcome : Outcome α) :
    (recognizer.withMembers members).report outcome = recognizer.report outcome := rfl

theorem map_report {α β : Type} (recognizer : Recognizer) (change : α → β) (outcome : Outcome α) :
    (recognizer.report outcome).map change = recognizer.report (outcome.map change) := by
  rw [report, report]
  split <;> rfl

theorem register_withMembers (recognizer : Recognizer) (members : Members) (key : Key) (channel : Nat) :
    (recognizer.withMembers members).register key channel =
      (recognizer.register key channel).map (Prod.map id (·.withMembers members)) := by
  have same : (recognizer.withMembers members).ofKey? key = recognizer.ofKey? key := rfl
  rw [register, register, same]
  change (if recognizer.slots.any _ = true then _ else _) = _
  split
  · rfl
  · cases recognizer.ofKey? key with
    | some entry => rfl
    | none =>
        change (if recognizer.slots.length < maxKeys then _ else _) = _
        dsimp only
        split <;> rfl

theorem acceptPress_withMembers (recognizer : Recognizer) (members : Members) (slot : Slot) (index : Nat)
    (instant : UInt32) : (recognizer.withMembers members).acceptPress slot index instant =
      (recognizer.acceptPress slot index instant).map (·.withMembers members) := rfl

/-- The first release of a tracked chord collects the members, any other leaves them as they are. -/
theorem acceptRelease_withMembers (recognizer : Recognizer) (members : Members) (slot : Slot)
    (index : Nat) (now : UInt32) :
    ∃ left, (recognizer.withMembers members).acceptRelease slot index now =
      (recognizer.acceptRelease slot index now).map (·.withMembers left) := by
  by_cases tracking : recognizer.chord.stage = .tracking
  · have gathers : ∀ gesture, (recognizer.withMembers members).chord.leave index gesture =
        recognizer.chord.leave index gesture := by
      intro gesture
      simp only [withMembers, Chord.leave, tracking, Chord.capture]
    refine ⟨(recognizer.acceptRelease slot index now).value.chord.members, ?_⟩
    simp only [acceptRelease, gathers]
    rfl
  · have leaves : ∀ gesture, (recognizer.withMembers members).chord.leave index gesture =
        { recognizer.chord.leave index gesture with members } := by
      intro gesture
      cases stage : recognizer.chord.stage with
      | tracking => contradiction
      | inactive | closed => simp only [withMembers, Chord.leave, stage]
    refine ⟨members, ?_⟩
    simp only [acceptRelease, leaves]
    simp only [withMembers, tracking, if_false, Outcome.map]

theorem ignoreRefused_withMembers {members : Members} (left : Members)
    {edge other : Except Rejection (Outcome Recognizer)}
    (same : other = edge.map (Outcome.map (·.withMembers left))) :
    ∃ last, (recognizer.withMembers members).ignoreRefused other =
      (recognizer.ignoreRefused edge).map (·.withMembers last) := by
  subst same
  cases edge with
  | error cause => exact ⟨members, rfl⟩
  | ok outcome => exact ⟨left, (recognizer.map_report (withMembers · left) outcome).symm⟩

theorem press_withMembers (recognizer : Recognizer) (members : Members) (now : UInt32) (channel : Nat)
    (backdate : UInt32) : ∃ left, (recognizer.withMembers members).press now channel backdate =
      (recognizer.press now channel backdate).map (·.withMembers left) := by
  apply ignoreRefused_withMembers members
  have same : (recognizer.withMembers members).atChannel? channel = recognizer.atChannel? channel := rfl
  rw [press?, press?, same]
  cases recognizer.atChannel? channel with
  | none => rfl
  | some entry =>
      change (if recognizer.chord.down.contains entry.2 then _ else _) = _
      dsimp only
      split
      · rfl
      · rw [acceptPress_withMembers]
        rfl

theorem release_withMembers (recognizer : Recognizer) (members : Members) (now : UInt32)
    (channel : Nat) : ∃ left, (recognizer.withMembers members).release now channel =
      (recognizer.release now channel).map (·.withMembers left) := by
  have released : ∃ left, (recognizer.withMembers members).release? now channel =
      (recognizer.release? now channel).map (Outcome.map (·.withMembers left)) := by
    have same : (recognizer.withMembers members).atChannel? channel = recognizer.atChannel? channel := rfl
    rw [release?, release?, same]
    cases recognizer.atChannel? channel with
    | none => exact ⟨members, rfl⟩
    | some entry =>
        obtain ⟨left, accepted⟩ := recognizer.acceptRelease_withMembers members entry.1 entry.2 now
        refine ⟨left, ?_⟩
        change (if recognizer.chord.down.contains entry.2 then _ else _) = _
        dsimp only
        split
        · rw [accepted]
          rfl
        · rfl
  obtain ⟨left, same⟩ := released
  exact ignoreRefused_withMembers left same

theorem wrapUp_withMembers (recognizer : Recognizer) (members : Members) :
    ∃ left, (recognizer.withMembers members).wrapUp =
      (recognizer.wrapUp.1, recognizer.wrapUp.2.withMembers left) := by
  have same : (recognizer.withMembers members).allIdle = recognizer.allIdle := rfl
  rw [wrapUp, wrapUp, same]
  split
  · by_cases inactive : recognizer.chord.stage = .inactive
    · exact ⟨members, by simp [withMembers, inactive]⟩
    · exact ⟨.empty, by simp [withMembers, inactive, Chord.reset]⟩
  · exact ⟨members, rfl⟩

theorem advance_withMembers (recognizer : Recognizer) (members : Members) (now : UInt32) :
    ∃ left, (recognizer.withMembers members).advance now = (recognizer.advance now).withMembers left := by
  by_cases tracking : recognizer.chord.stage = .tracking
  · refine ⟨.collect (recognizer.escalations now), ?_⟩
    simp only [advance, withMembers, tracking, if_true, escalations]
  · exact ⟨members, by simp [advance, withMembers, tracking]⟩

theorem tickEvents_withMembers (recognizer : Recognizer) (members : Members) (now : UInt32) :
    (recognizer.withMembers members).tickEvents now = recognizer.tickEvents now := by
  cases stage : recognizer.chord.stage with
  | inactive =>
      simp only [tickEvents, withMembers, stage]
      rfl
  | closed => simp only [tickEvents, withMembers, stage]
  | tracking =>
      have gathers : (recognizer.withMembers members).advance now = recognizer.advance now := by
        simp only [advance, withMembers, stage, if_true]
        rfl
      simp only [tickEvents, gathers]
      simp only [withMembers, stage]

theorem tick_withMembers (recognizer : Recognizer) (members : Members) (now : UInt32) :
    ∃ left, (recognizer.withMembers members).tick now =
      (recognizer.tick now).map (Prod.map id (·.withMembers left)) := by
  obtain ⟨gathered, advances⟩ := recognizer.advance_withMembers members now
  obtain ⟨left, wraps⟩ := (recognizer.advance now).wrapUp_withMembers gathered
  refine ⟨left, ?_⟩
  rw [tick, tick, advances, wraps, tickEvents_withMembers, report_withMembers, map_report]
  rfl

/-- Whatever members a recognizer starts a call with, it replies and reports the same. -/
theorem answer_withMembers (recognizer : Recognizer) (members : Members) (now : UInt32) (call : Call) :
    ∃ left, (recognizer.withMembers members).answer now call =
      (recognizer.answer now call).map (Prod.map id (·.withMembers left)) := by
  cases call with
  | register key channel =>
      refine ⟨members, ?_⟩
      simp only [answer, register_withMembers]
      cases recognizer.register key channel with
      | error cause => rfl
      | ok accepted => rfl
  | setTiming timing => exact ⟨members, rfl⟩
  | press channel backdate =>
      obtain ⟨left, same⟩ := recognizer.press_withMembers members now channel backdate
      exact ⟨left, by rw [answer, answer, same]; rfl⟩
  | release channel =>
      obtain ⟨left, same⟩ := recognizer.release_withMembers members now channel
      exact ⟨left, by rw [answer, answer, same]; rfl⟩
  | tick =>
      obtain ⟨left, same⟩ := recognizer.tick_withMembers members now
      exact ⟨left, by rw [answer, answer, same]; rfl⟩
  | mute | resume => exact ⟨members, rfl⟩

end Recognizer

/-- Turns of the same call at the same reading of the clock that reply and report the same and leave the
same but for the members of the chord. -/
structure Turn.Matches (turn other : Turn) : Prop where
  now : other.now = turn.now
  call : other.call = turn.call
  reply : other.reply = turn.reply
  events : other.events = turn.events
  after : ∃ members, other.after = turn.after.withMembers members

namespace Recognizer

theorem turns_withMembers (recognizer : Recognizer) (members : Members) (calls : List (UInt32 × Call)) :
    List.Forall₂ Turn.Matches (recognizer.turns calls) ((recognizer.withMembers members).turns calls) := by
  induction calls generalizing recognizer members with
  | nil => exact .nil
  | cons moment rest ih =>
      obtain ⟨now, call⟩ := moment
      obtain ⟨left, same⟩ := recognizer.answer_withMembers members now call
      have after : (Turn.mk (recognizer.withMembers members) now call).after =
          (Turn.mk recognizer now call).after.withMembers left := by
        rw [Turn.after, Turn.outcome, same]
        rfl
      refine .cons ⟨rfl, rfl, ?_, ?_, left, after⟩ ?_
      · rw [Turn.reply, Turn.outcome, same]
        rfl
      · rw [Turn.events, Turn.outcome, same]
        rfl
      · rw [after]
        exact ih _ left

/-! The second tick. -/

variable {recognizer : Recognizer}

theorem wrapUp_wrapUp (recognizer : Recognizer) : recognizer.wrapUp.2.wrapUp = recognizer.wrapUp := by
  have same : recognizer.wrapUp.2.allIdle = recognizer.allIdle := by rw [allIdle, allIdle, slots_wrapUp]
  rw [wrapUp, same, wrapUp]
  split
  · by_cases inactive : recognizer.chord.stage = .inactive
    · simp [inactive]
    · simp [inactive, Chord.reset]
  · rfl

theorem escalations_tick (recognizer : Recognizer) (now : UInt32) :
    (recognizer.tick now).value.2.escalations now = [] := by
  rw [escalations, timing_tick, slots_tick, List.filterMap_eq_nil_iff]
  rintro ⟨slot, index⟩ member
  obtain ⟨old, _, rfl⟩ := List.mem_map.mp (List.fst_mem_of_mem_zipIdx member)
  exact congrArg (Option.map _) (old.escalation?_tick recognizer.timing now)

theorem singleFindings_tick (positive : 0 < recognizer.timing.repeatRate) (now : UInt32) :
    (recognizer.tick now).value.2.singleFindings now = [] := by
  rw [singleFindings, timing_tick, slots_tick, List.flatMap_eq_nil_iff]
  intro slot member
  obtain ⟨old, _, rfl⟩ := List.mem_map.mp member
  rw [Slot.found_tick positive, List.map_nil]

theorem tickEvents_tick (positive : 0 < recognizer.timing.repeatRate) (now : UInt32) :
    (recognizer.tick now).value.2.tickEvents now = [] := by
  rw [tickEvents]
  split
  · exact singleFindings_tick positive now
  · rename_i tracking
    simp only [advance, tracking, if_true, escalations_tick]
    rfl
  · rfl

/-- The slots stay as the first tick left them; a tracked chord loses the members it collected then. -/
theorem advance_tick (positive : 0 < recognizer.timing.repeatRate) (now : UInt32) :
    ∃ left, (recognizer.tick now).value.2.advance now = (recognizer.tick now).value.2.withMembers left := by
  have slots : (recognizer.tick now).value.2.slots.map
      (fun slot => slot.tick (recognizer.tick now).value.2.timing now) =
        (recognizer.tick now).value.2.slots := by
    rw [timing_tick, slots_tick, List.map_map]
    exact List.map_congr_left fun slot _ => Slot.tick_tick positive now
  by_cases tracking : (recognizer.tick now).value.2.chord.stage = .tracking
  · exact ⟨.collect ((recognizer.tick now).value.2.escalations now), by
      rw [advance, slots, if_pos tracking]
      rfl⟩
  · exact ⟨(recognizer.tick now).value.2.chord.members, by
      rw [advance, slots, if_neg tracking]
      rfl⟩

theorem tick_tick (positive : 0 < recognizer.timing.repeatRate) (now : UInt32) :
    ∃ left, (recognizer.tick now).value.2.tick now =
      .quiet ((recognizer.tick now).value.1, (recognizer.tick now).value.2.withMembers left) := by
  obtain ⟨gathered, advances⟩ := advance_tick positive now
  obtain ⟨left, wraps⟩ := (recognizer.tick now).value.2.wrapUp_withMembers gathered
  have settled : (recognizer.tick now).value.2.wrapUp = (recognizer.tick now).value := by
    rw [tick, value_report, wrapUp_wrapUp]
  refine ⟨left, ?_⟩
  apply Outcome.ext
  · rw [tick, value_report, advances, wraps, settled]
    rfl
  · rw [tick, tickEvents_tick positive, report]
    split <;> rfl

/-- In any state, reachable or not, and whatever timings it went through: a tick right after another, at the
same reading of the clock, reports nothing, finds what the first found and leaves what the first left, but
for the members of the chord. Whatever calls follow, they reply and report the same as after the first
tick alone. -/
theorem repeated_tick_is_harmless (recognizer : Recognizer) (now : UInt32)
    (positive : 0 < recognizer.timing.repeatRate) :
    let first := recognizer.tick now
    let second := first.value.2.tick now
    second.events = [] ∧ second.value.1 = first.value.1 ∧
      (∃ members, second.value.2 = first.value.2.withMembers members) ∧
      ∀ calls, List.Forall₂ Turn.Matches (first.value.2.turns calls) (second.value.2.turns calls) := by
  intro first second
  obtain ⟨members, again⟩ := tick_tick positive now
  have value : second.value = (first.value.1, first.value.2.withMembers members) :=
    congrArg Outcome.value again
  refine ⟨congrArg Outcome.events again, by rw [value], ⟨members, by rw [value]⟩, ?_⟩
  intro calls
  rw [value]
  exact first.value.2.turns_withMembers members calls

/-- Two keys of a tracked chord escalate at a tick. The tick after it drops them from the members, and they
are reported together as before when they reach the next tier. -/
theorem repeated_tick_keeps_chord :
    let calls : List (UInt32 × Call) := [(0, .register ⟨1, .io⟩ 5), (0, .register ⟨2, .touch⟩ 11),
      (0, .press 5 0), (20, .press 11 0)]
    let reached := run {} calls
    let first := reached.tick 1600
    let second := first.value.2.tick 1600
    (0 < reached.timing.repeatRate ∧ first.events = [⟨.held .long, [⟨1, .io⟩, ⟨2, .touch⟩]⟩] ∧
        first.value.2.chord.members.size = 2 ∧ second.value.2.chord.members.size = 0) ∧
      second.events = [] ∧ second.value.1 = first.value.1 ∧
      (first.value.2.tick 4100).events = [⟨.held .veryLong, [⟨1, .io⟩, ⟨2, .touch⟩]⟩] ∧
      List.Forall₂ Turn.Matches (first.value.2.turns [(4100, .tick)])
        (second.value.2.turns [(4100, .tick)]) := by
  intro calls reached first second
  have positive : 0 < reached.timing.repeatRate := by decide
  have told : first.events = [⟨.held .long, [⟨1, .io⟩, ⟨2, .touch⟩]⟩] := by decide
  have gathered : first.value.2.chord.members.size = 2 := by decide
  have dropped : second.value.2.chord.members.size = 0 := by decide
  have later : (first.value.2.tick 4100).events = [⟨.held .veryLong, [⟨1, .io⟩, ⟨2, .touch⟩]⟩] := by
    decide
  clear_value reached
  obtain ⟨silent, found, _, same⟩ := repeated_tick_is_harmless reached 1600 positive
  exact ⟨⟨positive, told, gathered, dropped⟩, silent, found, later, same _⟩

end Recognizer

end KeyGesture
