import KeyGesture.Proofs.Slot.Beats
import KeyGesture.Proofs.Recognizer.HoldEscalation

namespace KeyGesture

/-! Repeats of a held key. They keep the cadence that the ticks of the hold set, whatever tiers the hold
escalates to meanwhile, and end with the hold. -/

def ticksOf (turns : List Turn) : List Turn :=
  turns.filter fun turn => turn.call = .tick

/-- How long each tick sees a hold that starts at the given instant. -/
def holdsSeen (instant : UInt32) (turns : List Turn) : List Nat :=
  (ticksOf turns).map fun turn => elapsed turn.now instant

section Ticks

variable {turn : Turn} {rest : List Turn} {instant : UInt32}

theorem ticksOf_cons_of_tick (ticks : turn.call = .tick) : ticksOf (turn :: rest) = turn :: ticksOf rest :=
  List.filter_cons_of_pos (by simpa using ticks)

theorem ticksOf_cons_of_ne (unticked : turn.call ≠ .tick) : ticksOf (turn :: rest) = ticksOf rest :=
  List.filter_cons_of_neg (by simpa using unticked)

end Ticks

theorem Slot.repeated_mem_found_iff {slot : Slot} {timing : Timing} {now : UInt32} :
    .repeated ∈ slot.found timing now ↔ slot.isDown = true ∧ slot.repeats timing now = true := by
  simp [mem_found_iff]

theorem KeyStep.tick_of_repeated {timing : Timing} {now : UInt32} {stage : Stage} {slot next : Slot}
    {call : Call} {gestures : List Gesture} (step : KeyStep timing now stage slot call gestures next)
    (found : .repeated ∈ gestures) : call = .tick ∧ slot.isDown = true := by
  cases step with
  | kept | rebased => contradiction
  | pressed => simp at found
  | lifted =>
      rw [List.mem_cons, List.mem_singleton, Timing.releaseGesture] at found
      split at found <;> simp at found
  | ticked => exact ⟨rfl, (Slot.repeated_mem_found_iff.mp found).1⟩

open Recognizer

namespace Turn

variable {turn : Turn} {key : Key}

/-- Nothing but a tick that finds a key down reports a repeat of it. -/
theorem tick_of_repeated (sound : turn.before.Sound) (reported : .repeated ∈ gesturesOf key turn.events) :
    turn.call = .tick ∧ turn.before.isDown key = true := by
  obtain ⟨event, listed, named, repeated⟩ := mem_gesturesOf reported
  have audible : turn.before.muted = false := by
    by_contra muted
    rw [events_of_muted (by simpa using muted)] at listed
    contradiction
  have unchorded : turn.before.chord.stage = .inactive := by
    by_contra chorded
    rcases gesture_of_chord chorded listed with release | ⟨hold, ended⟩ | ⟨tier, held⟩
    · simp [repeated] at release
    · rw [repeated, Timing.releaseGesture] at ended
      split at ended <;> contradiction
    · simp [repeated] at held
  obtain ⟨slot, member, gesture, rfl⟩ := exists_slot_eq_single (by simp [unchorded]) listed
  obtain rfl := List.mem_singleton.mp named
  obtain ⟨index, place⟩ := List.mem_iff_getElem?.mp member
  obtain ⟨gestures, next, _, step, told⟩ := sound.keyStep place turn.now turn.call
  have found : gesturesOf slot.key turn.events = gestures :=
    gesturesOf_eq_of_eventsNaming (told unchorded audible)
  rw [sound.isDown_eq place]
  exact step.tick_of_repeated (found ▸ reported)

end Turn

namespace Recognizer

variable {start : Recognizer} {calls : List (UInt32 × Call)} {slot : Slot} {index : Nat} {timing : Timing}

/-- At each tick of a hold the slot has kept what the last beat before it saw. -/
theorem paced_through {holds seen : List Nat} (growing : holds.Pairwise (· ≤ ·)) (sound : start.Sound)
    (place : start.slots[index]? = some slot)
    (split : holds = seen ++ holdsSeen slot.pressedAt (start.turns calls))
    (paced : timing.Paced holds seen.length slot.beatHold?) (alone : start.HoldsAlone timing slot.key)
    (held : ∀ turn ∈ start.turns calls, turn.after.HoldsAlone timing slot.key) :
    ∀ number turn, (ticksOf (start.turns calls))[number]? = some turn →
      turn.before.Sound ∧ turn.before.HoldsAlone timing slot.key ∧
        ∃ old, turn.before.slots[index]? = some old ∧ old.key = slot.key ∧
          old.pressedAt = slot.pressedAt ∧ timing.Paced holds (seen.length + number) old.beatHold? := by
  -- Forward, because each tick is read by what the ticks before it have left in the slot.
  induction calls generalizing start slot seen with
  | nil => simp [turns, ticksOf]
  | cons moment rest ih =>
      obtain ⟨now, call⟩ := moment
      let first : Turn := ⟨start, now, call⟩
      simp only [turns, List.forall_mem_cons] at held split ⊢
      have soundNext : first.after.Sound := sound.answer now call
      have aloneFirst : first.before.HoldsAlone timing slot.key := alone
      by_cases ticks : call = .tick
      · obtain ⟨placeNext, _⟩ := aloneFirst.ticked sound place ticks
        rw [holdsSeen, ticksOf_cons_of_tick ticks, List.map_cons] at split
        have seenNow : holds[seen.length]? = some (slot.hold now) := by
          rw [split]
          simp [Slot.hold]
        have splitNext : holds = (seen ++ [slot.hold now]) ++
            holdsSeen (slot.tick timing now).pressedAt (first.after.turns rest) := by
          simpa [holdsSeen, Slot.hold] using split
        have pacedNext : timing.Paced holds (seen ++ [slot.hold now]).length
            (slot.tick timing now).beatHold? := by
          simpa using (Slot.paced_tick (alone.isDown sound place) paced seenNow growing).1
        have later := ih soundNext placeNext splitNext pacedNext (by simpa using held.1)
          (by simpa using held.2)
        rw [ticksOf_cons_of_tick ticks]
        rintro (_ | number) turn found
        · rw [List.getElem?_cons_zero, Option.some.injEq] at found
          subst found
          exact ⟨sound, alone, slot, place, rfl, rfl, paced⟩
        · have kept := later number turn found
          rw [List.length_append, List.length_singleton, Nat.add_assoc, Nat.add_comm 1] at kept
          simpa using kept
      · obtain ⟨⟨channel, placeNext⟩, _⟩ := aloneFirst.kept held.1 sound place ticks
        rw [holdsSeen, ticksOf_cons_of_ne ticks] at split
        rw [ticksOf_cons_of_ne ticks]
        have later := ih soundNext placeNext split paced held.1 held.2
        exact later

theorem paced_of_hold {key : Key} {backdate : UInt32} {earlier holding : List Turn} {pressing : Turn}
    (growing : (holdsSeen (pressing.now - backdate) holding).Pairwise (· ≤ ·)) (sound : start.Sound)
    (split : start.turns calls = earlier ++ pressing :: holding)
    (hold : Hold key backdate pressing holding)
    (alone : ∀ turn ∈ pressing :: holding, turn.after.HoldsAlone timing key) :
    ∀ number turn, (ticksOf holding)[number]? = some turn →
      turn.before.Sound ∧ turn.before.HoldsAlone timing key ∧
        ∃ (slot : Slot) (index : Nat), turn.before.slots[index]? = some slot ∧ slot.key = key ∧
          slot.pressedAt = pressing.now - backdate ∧
          timing.Paced (holdsSeen (pressing.now - backdate) holding) number slot.beatHold? := by
  obtain ⟨slot, index, inside, rfl, coherent, up, soundPressed, placePressed, rfl, _⟩ :=
    exists_slot_of_hold sound split hold
  -- The release before this press, if there was one, has cleared the last repeat.
  have unbeaten : (slot.press pressing.after.timing (pressing.now - backdate)).beatHold? = none := by
    rw [Slot.beatHold?, Slot.press, coherent.unrepeated up, Option.map_none]
  intro number turn found
  have initially : timing.Paced (holdsSeen (pressing.now - backdate) (pressing.after.turns inside))
      ([] : List Nat).length (slot.press pressing.after.timing (pressing.now - backdate)).beatHold? :=
    unbeaten ▸ .initially
  obtain ⟨soundNow, aloneNow, old, place, sameKey, since, paced⟩ :=
    paced_through growing soundPressed placePressed rfl initially (alone pressing (by simp))
      (fun turn member => alone turn (List.mem_cons_of_mem _ member)) number turn found
  rw [List.length_nil, Nat.zero_add] at paced
  exact ⟨soundNow, aloneNow, old, index, place, sameKey, since, paced⟩

namespace HoldsAlone

variable {turn : Turn}

theorem repeated_iff (alone : turn.before.HoldsAlone timing slot.key)
    (sound : turn.before.Sound) (place : turn.before.slots[index]? = some slot)
    (ticks : turn.call = .tick) (audible : turn.before.muted = false) :
    .repeated ∈ gesturesOf slot.key turn.events ↔ slot.repeats timing turn.now = true := by
  rw [gesturesOf_eq_of_eventsNaming ((alone.ticked sound place ticks).2 audible),
    Slot.repeated_mem_found_iff, and_iff_right (alone.isDown sound place)]

/-- A tick reports what the hold escalates to and then, if the slot repeats, a repeat. -/
theorem eventsNaming_tick (alone : turn.before.HoldsAlone timing slot.key)
    (sound : turn.before.Sound) (place : turn.before.slots[index]? = some slot)
    (ticks : turn.call = .tick) (audible : turn.before.muted = false) :
    eventsNaming slot.key turn.events = escalationsOf slot.key turn.events ++
      if slot.repeats timing turn.now then [.single slot.key .repeated] else [] := by
  have named := (alone.ticked sound place ticks).2 audible
  have down := alone.isDown sound place
  rw [escalationsOf_eq named, Slot.tiers_found down, named, Slot.found_of_isDown down, List.map_append]
  cases slot.escalation? timing turn.now <;> cases slot.repeats timing turn.now <;> rfl

end HoldsAlone

/-- A key is pressed, back-dated or not, and held without a chord under one timing, and the ticks meanwhile
are heard and never see the hold shorter than before. Then a tick reports a repeat of the key exactly if it
is a beat other than the first, and it does so after all that the hold escalates to. Of ticks that see the
hold at one multiple of a period after the other, and are counted from one, the first beat is number
`repeatStart / period + 1`, and the others follow at equal distances. Whatever was called before or is called
later, only a tick that finds the key down reports a repeat of it. -/
theorem repeats_keep_cadence {timing : Timing} {key : Key} {backdate : UInt32}
    {calls : List (UInt32 × Call)} {earlier holding : List Turn} {pressing : Turn}
    (split : turns {} calls = earlier ++ pressing :: holding)
    (hold : Hold key backdate pressing holding)
    (steady : ∀ turn ∈ pressing :: holding, turn.after.timing = timing)
    (unchorded : ∀ turn ∈ pressing :: holding, turn.after.chord.stage = .inactive)
    (heard : ∀ turn ∈ holding, turn.call = .tick → turn.before.muted = false)
    (growing : (holdsSeen (pressing.now - backdate) holding).Pairwise (· ≤ ·)) :
    let holds := holdsSeen (pressing.now - backdate) holding
    let repeats := fun turn : Turn => .repeated ∈ gesturesOf key turn.events
    (∀ number turn, (ticksOf holding)[number]? = some turn →
        (repeats turn ↔ ∃ count, timing.Beat holds (count + 1) number) ∧
          (repeats turn → eventsNaming key turn.events =
            escalationsOf key turn.events ++ [.single key .repeated])) ∧
      (∀ period, 0 < period → Timing.Spaced period holds →
        ∀ number turn, (ticksOf holding)[number]? = some turn →
          (repeats turn ↔ ∃ count, number + 1 = timing.repeatStart / period + 1 +
            (count + 1) * max 1 (timing.repeatRate ⌈/⌉ period))) ∧
      ∀ later, ∀ turn ∈ turns {} (calls ++ later),
        repeats turn → turn.call = .tick ∧ turn.before.isDown key = true := by
  intro holds repeats
  have alone : ∀ turn ∈ pressing :: holding, turn.after.HoldsAlone timing key :=
    fun turn member => ⟨steady turn member, unchorded turn member, hold.down turn member⟩
  have onBeat : ∀ number turn, (ticksOf holding)[number]? = some turn →
      (repeats turn ↔ ∃ count, timing.Beat holds (count + 1) number) ∧
        (repeats turn → eventsNaming key turn.events =
          escalationsOf key turn.events ++ [.single key .repeated]) := by
    intro number turn found
    obtain ⟨sound, aloneNow, slot, index, place, rfl, since, paced⟩ :=
      paced_of_hold growing sound_fresh split hold alone number turn found
    obtain ⟨member, isTick⟩ := List.mem_filter.mp (List.mem_of_getElem? found)
    have ticks : turn.call = .tick := by simpa using isTick
    have audible := heard turn member ticks
    have placeHold : holds[number]? = some (slot.hold turn.now) := by
      rw [Slot.hold, since]
      exact List.getElem?_map.trans (congrArg _ found)
    have beats := (Slot.paced_tick (aloneNow.isDown sound place) paced placeHold growing).2
    have repeated := aloneNow.repeated_iff sound place ticks audible
    refine ⟨repeated.trans beats, fun again => ?_⟩
    rw [aloneNow.eventsNaming_tick sound place ticks audible, if_pos (repeated.mp again)]
  refine ⟨onBeat, fun period positive spaced number turn found => ?_, fun later turn member again => ?_⟩
  · have within : number < holds.length := by
      have listed := (List.getElem?_eq_some_iff.mp found).1
      rwa [← List.length_map] at listed
    rw [(onBeat number turn found).1]
    apply exists_congr
    intro count
    rw [spaced.beat_iff positive, and_iff_right within, Nat.add_right_comm, Nat.add_right_cancel_iff]
  · obtain ⟨sofar, reached⟩ := exists_of_mem_turns member
    exact Turn.tick_of_repeated (reached ▸ sound_fresh.run sofar) again

/-- Ticks 400 milliseconds apart see a back-dated hold that starts before the clock starts again. The second
is the first beat, and from there every third repeats: first with the last tier, then after it. -/
theorem repeats_keep_cadence_past_last_tier :
    let key : Key := ⟨1, .io⟩
    let timing : Timing :=
      { long := 300, veryLong := 600, veryVeryLong := 2000, repeatStart := 700, repeatRate := 900 }
    let before : List (UInt32 × Call) := [(0, .register key 5), (0, .setTiming timing)]
    let ticks : List (UInt32 × Call) := [(100, .tick), (500, .tick), (900, .tick), (1300, .tick),
      (1700, .tick), (2100, .tick), (2500, .tick), (2900, .tick)]
    let pressing : Turn := ⟨run {} before, 100, .press 5 400⟩
    let holding := pressing.after.turns ticks
    let calls := before ++ (100, .press 5 400) :: ticks
    let fifth : Turn := ⟨pressing.after.run (ticks.take 4), 1700, .tick⟩
    let eighth : Turn := ⟨pressing.after.run (ticks.take 7), 2900, .tick⟩
    (turns {} calls = turns {} before ++ pressing :: holding ∧ Hold key 400 pressing holding ∧
        (∀ turn ∈ pressing :: holding, turn.after.timing = timing) ∧
        (∀ turn ∈ pressing :: holding, turn.after.chord.stage = .inactive) ∧
        (∀ turn ∈ holding, turn.call = .tick → turn.before.muted = false) ∧
        (holdsSeen (pressing.now - 400) holding).Pairwise (· ≤ ·)) ∧
      eventsNaming key fifth.events =
        [.single key (.held .veryVeryLong), .single key .repeated] ∧
      eventsNaming key eighth.events = [.single key .repeated] := by
  intro key timing before ticks pressing holding calls fifth eighth
  have split : turns {} calls = turns {} before ++ pressing :: holding := by decide
  have hold : Hold key 400 pressing holding := ⟨⟨5, rfl⟩, by decide, by decide⟩
  have steady : ∀ turn ∈ pressing :: holding, turn.after.timing = timing := by decide
  have unchorded : ∀ turn ∈ pressing :: holding, turn.after.chord.stage = .inactive := by decide
  have heard : ∀ turn ∈ holding, turn.call = .tick → turn.before.muted = false := by decide
  have growing : (holdsSeen (pressing.now - 400) holding).Pairwise (· ≤ ·) := by decide
  have spaced : holdsSeen (pressing.now - 400) holding =
      (List.range (holdsSeen (pressing.now - 400) holding).length).map fun number => (number + 1) * 400 := by
    decide
  obtain ⟨onBeat, closed, _⟩ := repeats_keep_cadence split hold steady unchorded heard growing
  have placeFifth : (ticksOf holding)[4]? = some fifth := by decide
  have placeEighth : (ticksOf holding)[7]? = some eighth := by decide
  have fifthRepeats := (closed 400 (by decide) spaced 4 fifth placeFifth).mpr ⟨0, by decide⟩
  have eighthRepeats := (closed 400 (by decide) spaced 7 eighth placeEighth).mpr ⟨1, by decide⟩
  exact ⟨⟨split, hold, steady, unchorded, heard, growing⟩,
    ((onBeat 4 fifth placeFifth).2 fifthRepeats).trans (by decide),
    ((onBeat 7 eighth placeEighth).2 eighthRepeats).trans (by decide)⟩

end Recognizer

end KeyGesture
