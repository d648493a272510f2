import KeyGesture.Bench.Basic
import KeyGesture.Proofs.Recognizer.Settling

namespace KeyGesture

/-! How many ticks it takes until everything is settled. While no key is down each tick closes the tap
windows that are over, and those it leaves open are shorter than the pause that ends them. -/

namespace Bench

variable {bench : Bench} {period allowed : Nat}

theorem ticksToSettle_of_settled (settled : (bench.tickAfter period).1 = .settled) :
    (bench.ticksToSettle period (allowed + 1)).1 = some 1 := by
  rcases found : bench.tickAfter period with ⟨activity, after⟩
  rw [found] at settled
  subst settled
  simp only [ticksToSettle, found]

theorem ticksToSettle_of_ongoing {later : Nat} (ongoing : (bench.tickAfter period).1 = .ongoing)
    (ticks : ((bench.tickAfter period).2.ticksToSettle period allowed).1 = some later) :
    (bench.ticksToSettle period (allowed + 1)).1 = some (later + 1) := by
  rcases found : bench.tickAfter period with ⟨activity, after⟩
  rw [found] at ongoing ticks
  subst ongoing
  simp only [ticksToSettle, found, ticks, Option.map_some]

/-- All keys are up, and the spans that are compared until everything is settled do not reach the clock's
period. -/
structure Waits (bench : Bench) (period : Nat) : Prop where
  sound : bench.recognizer.Sound
  up : bench.recognizer.allUp = true
  short : ∀ released, bench.recognizer.OpenSince released →
    elapsed bench.clock released + period < clockPeriod
  fits : ∀ released, bench.recognizer.OpenSince released →
    bench.recognizer.timing.multiTap + period < clockPeriod

namespace Waits

theorem openSince_tickAfter (waits : bench.Waits period) {released : UInt32}
    (since : (bench.tickAfter period).2.recognizer.OpenSince released) :
    bench.recognizer.OpenSince released ∧
      elapsed (bench.tickAfter period).2.clock released = elapsed bench.clock released + period ∧
      elapsed bench.clock released + period < bench.recognizer.timing.multiTap := by
  obtain ⟨before, short⟩ := waits.sound.openSince_of_tick since
  have later := elapsed_add_left (waits.short released before)
  exact ⟨before, later, later ▸ short⟩

theorem tickAfter (waits : bench.Waits period) : (bench.tickAfter period).2.Waits period where
  sound := waits.sound.tick _
  up := by
    change SlotSet.isEmpty (bench.recognizer.tick _).value.2.chord.down = true
    rw [Recognizer.down_tick]
    exact waits.up
  short released since := by
    -- What is still open has been so for less than the pause, so no span grows beyond pause and period.
    obtain ⟨before, later, waiting⟩ := waits.openSince_tickAfter since
    have fits := waits.fits released before
    omega
  fits released since := by
    change (bench.recognizer.tick _).value.2.timing.multiTap + period < clockPeriod
    rw [Recognizer.timing_tick]
    exact waits.fits released (waits.openSince_tickAfter since).1

/-- If a tick does not find everything settled, some window is not over yet. -/
theorem exists_openSince (waits : bench.Waits period) (ongoing : (bench.tickAfter period).1 = .ongoing) :
    ∃ released, bench.recognizer.OpenSince released ∧
      elapsed bench.clock released + period < bench.recognizer.timing.multiTap := by
  by_contra absent
  have settled : (bench.tickAfter period).1 = .settled := by
    refine (waits.sound.settled_iff _).mpr ⟨waits.up, fun released since => ?_⟩
    have later := elapsed_add_left (waits.short released since)
    change _ ≤ elapsed (bench.clock + UInt32.ofNat period) released
    by_contra short
    exact absent ⟨released, since, by omega⟩
  rw [settled] at ongoing
  contradiction

/-- It takes one tick, or some window is not over yet at the tick before the last. -/
theorem ticksToSettle (waits : bench.Waits period) (positive : 0 < allowed)
    (enough : ∀ released, bench.recognizer.OpenSince released →
      bench.recognizer.timing.multiTap ≤ elapsed bench.clock released + allowed * period) :
    ∃ earlier, (bench.ticksToSettle period allowed).1 = some (earlier + 1) ∧
      (earlier = 0 ∨ ∃ released, bench.recognizer.OpenSince released ∧
        elapsed bench.clock released + earlier * period < bench.recognizer.timing.multiTap) := by
  induction allowed generalizing bench with
  | zero => contradiction
  | succ allowed ih =>
      cases found : (bench.tickAfter period).1 with
      | settled => exact ⟨0, ticksToSettle_of_settled found, .inl rfl⟩
      | ongoing =>
          obtain ⟨first, sinceFirst, waiting⟩ := waits.exists_openSince found
          -- The window that is not over takes at least one tick more, and those were allowed for.
          have more : 0 < allowed := by
            have reach := enough first sinceFirst
            rcases Nat.eq_zero_or_pos allowed with rfl | more
            · omega
            · exact more
          have timing : (bench.tickAfter period).2.recognizer.timing = bench.recognizer.timing :=
            Recognizer.timing_tick _
          have enoughLater : ∀ released, (bench.tickAfter period).2.recognizer.OpenSince released →
              bench.recognizer.timing.multiTap ≤
                elapsed (bench.tickAfter period).2.clock released + allowed * period := by
            intro released since
            obtain ⟨before, later, _⟩ := waits.openSince_tickAfter since
            have reach := enough released before
            rw [Nat.succ_mul] at reach
            omega
          obtain ⟨earlier, ticks, last⟩ := ih waits.tickAfter more (timing ▸ enoughLater)
          refine ⟨earlier + 1, ticksToSettle_of_ongoing found ticks, .inr ?_⟩
          rcases last with rfl | ⟨released, since, short⟩
          · exact ⟨first, sinceFirst, by omega⟩
          · obtain ⟨before, later, _⟩ := waits.openSince_tickAfter since
            refine ⟨released, before, ?_⟩
            rw [timing] at short
            rw [Nat.succ_mul]
            omega

theorem timeToSettle (waits : bench.Waits period) (positive : 0 < period) {limit : Nat}
    (within : bench.recognizer.timing.multiTap ≤ limit) :
    ∃ time, (bench.timeToSettle period limit).1 = some time ∧
      (time < bench.recognizer.timing.multiTap + period ∨ time = period) := by
  have reach : limit < (limit / period + 1) * period := by
    have whole := Nat.div_add_mod limit period
    have rest := Nat.mod_lt limit positive
    rw [Nat.succ_mul, Nat.mul_comm]
    omega
  have allowed : 0 < limit / period + 1 := Nat.succ_pos _
  obtain ⟨earlier, ticks, last⟩ := waits.ticksToSettle allowed fun released _ => by omega
  refine ⟨(earlier + 1) * period, ?_, ?_⟩
  · simp only [Bench.timeToSettle, ticks, Option.map_some]
  · rw [Nat.succ_mul]
    rcases last with rfl | ⟨released, _, short⟩
    · exact .inr (by omega)
    · exact .inl (by omega)

end Waits

end Bench

open Recognizer

/-- After any calls, at any reading of the clock: a tick finds everything settled exactly if all keys are up
and the last release of every key whose tap window is open is at least the pause ago that ends a run of
taps. Then every key is idle without taps, there is no chord, and until the next press that is not refused
every tick, at whatever reading, finds everything settled, reports nothing and changes nothing. And if all
keys are up, ticking every `period` milliseconds comes to that end in less than the pause and a period, or
at the first tick, as long as no span on the way reaches the period of the clock. -/
theorem settled_iff_windows_over (calls : List (UInt32 × Call)) (now : UInt32) :
    let reached := run {} calls
    ((reached.tick now).value.1 = .settled ↔
        reached.allUp = true ∧ ∀ slot ∈ reached.slots, slot.phase = .lifted →
          ∃ released, lastReleaseOf? slot.key (turns {} calls) = some released ∧
            reached.timing.multiTap ≤ elapsed now released) ∧
      ((reached.tick now).value.1 = .settled →
        let rested := (reached.tick now).value.2
        (∀ slot ∈ rested.slots, slot.phase = .idle ∧ slot.taps = 0) ∧
          rested.chord.stage = .inactive ∧
          ∀ later, (∀ turn ∈ rested.turns later, ∀ slot, ¬ turn.Presses slot) →
            ∀ turn ∈ rested.turns later, turn.call = .tick →
              turn.reply = .activity .settled ∧ turn.events = [] ∧ turn.after = turn.before) ∧
      (reached.allUp = true → ∀ (log : List Delivery) (period limit : Nat), 0 < period →
        reached.timing.multiTap ≤ limit → limit + period < clockPeriod →
        (∀ slot ∈ reached.slots, slot.phase = .lifted → ∀ released,
          lastReleaseOf? slot.key (turns {} calls) = some released →
            elapsed now released + reached.timing.multiTap + period < clockPeriod) →
        ∃ time, (Bench.timeToSettle ⟨now, reached, log⟩ period limit).1 = some time ∧
          (time < reached.timing.multiTap + period ∨ time = period)) := by
  intro reached
  have sound : reached.Sound := sound_fresh.run calls
  refine ⟨?_, ?_, ?_⟩
  · rw [sound.settled_iff]
    refine and_congr_right fun _ => ⟨fun past slot member lifted => ?_, fun past released since => ?_⟩
    · obtain ⟨released, since⟩ :=
        Option.isSome_iff_exists.mp ((sound.coherent slot member).released.mpr lifted)
      exact ⟨released, (releasedAt_eq_lastReleaseOf? calls slot member lifted).symm.trans since,
        past released ⟨slot, member, since⟩⟩
    · obtain ⟨slot, member, lifted, last⟩ := openSince_run_iff.mp since
      obtain ⟨latest, same, ended⟩ := past slot member lifted
      rw [last, Option.some.injEq] at same
      exact same ▸ ended
  · intro settled rested
    have atRest : rested.AtRest := atRest_of_settled settled
    have soundRested : rested.Sound := sound.tick now
    refine ⟨fun slot member => ?_, atRest.unchorded, fun later unpressed => ?_⟩
    · have idle := atRest.idle slot member
      exact ⟨idle, (soundRested.coherent slot member).untapped idle⟩
    · exact atRest.ticks_settled soundRested unpressed
  · intro up log period limit positive within _ spans
    have waits : Bench.Waits ⟨now, reached, log⟩ period := by
      refine ⟨sound, up, fun released since => ?_, fun released since => ?_⟩
      all_goals
        obtain ⟨slot, member, lifted, last⟩ := openSince_run_iff.mp since
        have span := spans slot member lifted released last
        simp only
        omega
    exact waits.timeToSettle positive within

/-- Two taps on one of two keys. At 400 the window of the second tap is open, at 570 it is over, and of ticks
every 70 milliseconds from 400 on the third finds it so. -/
theorem settles_after_double_tap :
    let calls : List (UInt32 × Call) := [(0, .register ⟨1, .io⟩ 5), (0, .register ⟨2, .touch⟩ 11),
      (0, .press 5 0), (60, .release 5), (200, .press 5 0), (270, .release 5)]
    let later : List (UInt32 × Call) := [(600, .tick), (601, .release 5), (5000, .tick)]
    let reached := run {} calls
    let rested := (reached.tick 570).value.2
    ((reached.tick 400).value.1 = .ongoing ∧ (reached.tick 570).value.1 = .settled) ∧
      (∀ turn ∈ rested.turns later, turn.call = .tick →
        turn.reply = .activity .settled ∧ turn.events = [] ∧ turn.after = turn.before) ∧
      ∃ time, (Bench.timeToSettle ⟨400, reached, []⟩ 70 300).1 = some time ∧
        (time < 370 ∨ time = 70) := by
  intro calls later reached rested
  have settled : (reached.tick 570).value.1 = .settled := by decide
  have unpressed : ∀ turn ∈ rested.turns later, ∀ slot, ¬ turn.Presses slot := by
    have others : ∀ turn ∈ rested.turns later, turn.call = .tick ∨ turn.call = .release 5 := by decide
    rintro turn member slot ⟨_, _, _, _, pressing, _⟩
    rcases others turn member with called | called
    all_goals
      rw [pressing] at called
      contradiction
  have spans : ∀ slot ∈ reached.slots, slot.phase = .lifted → ∀ released,
      lastReleaseOf? slot.key (turns {} calls) = some released →
        elapsed 400 released + reached.timing.multiTap + 70 < clockPeriod := by
    have checked : ∀ slot ∈ reached.slots, (lastReleaseOf? slot.key (turns {} calls)).all fun released =>
        decide (elapsed 400 released + reached.timing.multiTap + 70 < clockPeriod) := by decide
    intro slot member _ released last
    simpa [last] using checked slot member
  refine ⟨⟨by decide, settled⟩, ?_, ?_⟩
  · exact ((settled_iff_windows_over calls 570).2.1 settled).2.2 later unpressed
  · exact (settled_iff_windows_over calls 400).2.2 (by decide) [] 70 300 (by decide) (by decide) (by decide)
      spans

end KeyGesture
