import KeyGesture.Proofs.Bench.Agenda
import KeyGesture.Proofs.Recognizer.Run

namespace KeyGesture

/-! A replayed script. The replay goes from tick to tick and plays before each the edges that have become due
since the one before, so an edge that is due after the last tick is never played. -/

namespace Bench

variable {bench : Bench} {script : List Cue} {period tail time : Nat}

/-- Where a replay stands after some of its ticks, and what is left of the script then. -/
def playTicks (bench : Bench) (script : List Cue) (period : Nat) : (count : Nat) → Bench × List Cue
  | 0 => playUntil bench.clock 0 (bench, script)
  | count + 1 => playUntil bench.clock ((count + 1) * period) (bench.playTicks script period count)

theorem replay_eq_playTicks (bench : Bench) (script : List Cue) (period tail : Nat) :
    bench.replay script period tail =
      (bench.playTicks script period (scriptEnd script tail / period)).1 := by
  have ticked : ∀ count, ((List.range (count + 1)).map (· * period)).foldl
      (fun state time => playUntil bench.clock time state) (bench, script) =
        bench.playTicks script period count := by
    intro count
    induction count with
    | zero => simp [playTicks]
    | succ count ih => rw [List.range_succ, List.map_append, List.foldl_append, ih]; rfl
  exact congrArg Prod.fst (ticked _)

theorem clock_playUntil (start : UInt32) (time : Nat) (state : Bench × List Cue) :
    (playUntil start time state).1.clock = start + UInt32.ofNat time := by
  unfold playUntil
  dsimp only
  split <;> rfl

theorem clock_playTicks (bench : Bench) (script : List Cue) (period count : Nat) :
    (bench.playTicks script period count).1.clock = bench.clock + UInt32.ofNat (count * period) := by
  cases count with
  | zero => rw [Nat.zero_mul]; exact clock_playUntil ..
  | succ count => exact clock_playUntil ..

/-- Edges that are due at the clock's time leave the clock where it is. -/
theorem clock_foldl_play {start : UInt32} {cues : List Cue}
    (now : ∀ cue ∈ cues, start + UInt32.ofNat cue.due = bench.clock) :
    (cues.foldl (play start) bench).clock = bench.clock :=
  List.foldlRecOn (motive := fun played : Bench => played.clock = bench.clock) cues (play start) rfl
    fun _ _ cue member => now cue member

theorem playUntil_zero (chronological : Chronological script) (bench : Bench) :
    playUntil bench.clock 0 (bench, script) =
      (bench.perform bench.clock (agenda script period 0),
        script.filter fun cue => decide (0 < cue.due)) := by
  have edges : agenda script period 0 = (script.filter fun cue => decide (cue.due ≤ 0)).map Cue.entry := by
    simp [agenda, entriesAt]
  have still : ((script.filter fun cue => decide (cue.due ≤ 0)).foldl (play bench.clock) bench).clock =
      bench.clock + UInt32.ofNat 0 := by
    rw [clock_foldl_play fun cue member => ?_]
    · simp
    · have due : cue.due = 0 := by simpa using (List.mem_filter.mp member).2
      simp [due]
  rw [edges, perform_entries]
  simp only [playUntil, if_true, chronological.takeWhile_due, chronological.dropWhile_due]
  rw [← still]
  rfl

/-- From one tick to the next. -/
theorem playUntil_next (chronological : Chronological script) (start : UInt32) (played : Bench)
    {after : Nat} (lt : after < time) :
    playUntil start time (played, script.filter fun cue => decide (after < cue.due)) =
      (played.perform start ((dueWithin script after time).map Cue.entry ++ [(time, .tick)]),
        script.filter fun cue => decide (time < cue.due)) := by
  have left := chronological.filter fun cue => decide (after < cue.due)
  have due : ((script.filter fun cue => decide (after < cue.due)).filter fun cue =>
      decide (cue.due ≤ time)) = dueWithin script after time :=
    filter_filter_of_iff fun _ => Iff.rfl
  have later : ((script.filter fun cue => decide (after < cue.due)).filter fun cue =>
      decide (time < cue.due)) = script.filter fun cue => decide (time < cue.due) :=
    filter_filter_of_iff fun cue => by omega
  rw [perform_append, perform_entries]
  simp only [playUntil, left.takeWhile_due, left.dropWhile_due, due, later,
    if_neg (Nat.ne_of_gt (Nat.zero_lt_of_lt lt))]
  rfl

/-- After some ticks all has been done that was called for until the last of them, and the edges that are due
later are left. -/
theorem playTicks_eq (chronological : Chronological script) (positive : 0 < period) (count : Nat) :
    bench.playTicks script period count =
      (bench.perform bench.clock (agenda script period (count * period)),
        script.filter fun cue => decide (count * period < cue.due)) := by
  induction count with
  | zero => rw [Nat.zero_mul]; exact playUntil_zero chronological bench
  | succ count ih =>
      have lt : count * period < (count + 1) * period :=
        Nat.mul_lt_mul_of_pos_right (Nat.lt_succ_self _) positive
      rw [playTicks, ih, playUntil_next chronological _ _ lt, agenda_next chronological positive,
        List.append_assoc, perform_append bench.clock bench]

/-! Where a replay ends. -/

theorem scriptEnd_le_iff (script : List Cue) (tail time : Nat) :
    scriptEnd script tail ≤ time + tail ↔ ∀ cue ∈ script, cue.due ≤ time := by
  have greatest : ∀ start, (script.map Cue.due).foldl max start ≤ time ↔
      start ≤ time ∧ ∀ cue ∈ script, cue.due ≤ time := by
    induction script with
    | nil => simp
    | cons cue rest ih =>
        intro start
        rw [List.map_cons, List.foldl_cons, ih, List.forall_mem_cons, Nat.max_le, and_assoc]
  rw [scriptEnd, Nat.add_le_add_iff_right, greatest]
  exact and_iff_right (Nat.zero_le time)

theorem due_le_scriptEnd {cue : Cue} (member : cue ∈ script) : cue.due ≤ scriptEnd script tail :=
  Nat.le_trans ((scriptEnd_le_iff script tail _).mp (Nat.le_refl (scriptEnd script 0 + tail)) cue member)
    (Nat.le_add_right _ tail)

/-- The time of the last tick of a replay. -/
def lastTick (script : List Cue) (period tail : Nat) : Nat :=
  scriptEnd script tail / period * period

/-- The edges that are due after the last tick of a replay. -/
def missed (script : List Cue) (period tail : Nat) : List Cue :=
  script.filter fun cue => decide (lastTick script period tail < cue.due)

theorem lastTick_add_mod (script : List Cue) (period tail : Nat) :
    lastTick script period tail + scriptEnd script tail % period = scriptEnd script tail :=
  Nat.div_add_mod' _ _

theorem scriptEnd_lt_lastTick_add (script : List Cue) (tail : Nat) (positive : 0 < period) :
    scriptEnd script tail < lastTick script period tail + period :=
  Nat.lt_div_mul_add positive

theorem missed_eq_nil_iff : missed script period tail = [] ↔ scriptEnd script tail % period ≤ tail := by
  have whole := lastTick_add_mod script period tail
  simp only [missed, List.filter_eq_nil_iff, decide_eq_true_eq, Nat.not_lt]
  rw [← scriptEnd_le_iff script tail]
  omega

/-- The whole agenda is what is called for until the last tick and then the edges that are due after it. -/
theorem agenda_scriptEnd (chronological : Chronological script) (positive : 0 < period) :
    agenda script period (scriptEnd script tail) =
      agenda script period (lastTick script period tail) ++ (missed script period tail).map Cue.entry := by
  have whole := lastTick_add_mod script period tail
  have reach : scriptEnd script tail < (scriptEnd script tail / period + 1) * period := by
    rw [Nat.succ_mul]
    exact scriptEnd_lt_lastTick_add script tail positive
  have left : dueWithin script (lastTick script period tail) (scriptEnd script tail) =
      missed script period tail :=
    List.filter_congr fun cue member => decide_eq_decide.mpr (and_iff_left (due_le_scriptEnd member))
  have untimed : ∀ time, lastTick script period tail < time →
      time ≤ lastTick script period tail + scriptEnd script tail % period → ¬ period ∣ time :=
    fun time above below => not_dvd_between above (Nat.lt_of_le_of_lt (whole ▸ below) reach)
  have parted := agenda_add chronological untimed
  rwa [whole, left] at parted

theorem playTicks_last (chronological : Chronological script) (positive : 0 < period) :
    bench.playTicks script period (scriptEnd script tail / period) =
      (bench.replay script period tail, missed script period tail) := by
  rw [replay_eq_playTicks, playTicks_eq chronological positive]
  rfl

theorem replay_eq_perform (chronological : Chronological script) (positive : 0 < period) :
    bench.replay script period tail =
      bench.perform bench.clock (agenda script period (lastTick script period tail)) := by
  rw [replay_eq_playTicks, playTicks_eq chronological positive]
  rfl

theorem clock_replay (bench : Bench) (script : List Cue) (period tail : Nat) :
    (bench.replay script period tail).clock =
      bench.clock + UInt32.ofNat (lastTick script period tail) := by
  rw [replay_eq_playTicks]
  exact clock_playTicks ..

/-- Edges that are due after the last tick leave the clock past it. -/
theorem clock_foldl_play_missed {start : UInt32} {replayed : Bench}
    (fits : scriptEnd script tail < clockPeriod) (some_missed : missed script period tail ≠ []) :
    ((missed script period tail).foldl (play start) replayed).clock ≠
      start + UInt32.ofNat (lastTick script period tail) := by
  obtain ⟨earlier, latest, split⟩ := (List.eq_nil_or_concat _).resolve_left some_missed
  rw [List.concat_eq_append] at split
  have member : latest ∈ missed script period tail := by simp [split]
  obtain ⟨listed, late⟩ := List.mem_filter.mp member
  have after : lastTick script period tail < latest.due := of_decide_eq_true late
  have due : latest.due < clockPeriod := Nat.lt_of_le_of_lt (due_le_scriptEnd listed) fits
  rw [split, List.foldl_append]
  intro same
  have words : UInt32.ofNat latest.due = UInt32.ofNat (lastTick script period tail) :=
    (UInt32.add_right_inj start).mp same
  have times := congrArg UInt32.toNat words
  rw [UInt32.toNat_ofNat_of_lt' due, UInt32.toNat_ofNat_of_lt' (Nat.lt_trans after due)] at times
  exact Nat.ne_of_gt after times

/-! The replay as a loop. -/

/-- A replay as a loop that keeps its time in a word. The word is as wide as the clock and starts again at zero
where the clock does, so the loop may go on for ever; it has a final state only if it ends. -/
inductive Replays (start last period : UInt32) : UInt32 → Bench × List Cue → Bench × List Cue → Prop where
  | ended {time : UInt32} {state : Bench × List Cue} (past : last < time) :
      Replays start last period time state state
  | pass {time : UInt32} {state final : Bench × List Cue} (within : time ≤ last)
      (rest : Replays start last period (time + period) (playUntil start time.toNat state) final) :
      Replays start last period time state final

theorem Replays.unique {start last period time : UInt32} {state final other : Bench × List Cue}
    (replays : Replays start last period time state final)
    (again : Replays start last period time state other) : final = other := by
  induction replays with
  | ended past =>
      cases again with
      | ended => rfl
      | pass within => exact absurd within (UInt32.not_le.mpr past)
  | pass within _ ih =>
      cases again with
      | ended past => exact absurd within (UInt32.not_le.mpr past)
      | pass _ rest => exact ih rest

/-- The loop comes from any of its ticks to the last one, as long as its time stays below the clock's period. -/
theorem replays_playTicks (bench : Bench) (positive : 0 < period)
    (fits : lastTick script period tail + period < clockPeriod) (ahead count : Nat)
    (ends : count + ahead = scriptEnd script tail / period) :
    Replays bench.clock (.ofNat (scriptEnd script tail)) (.ofNat period) (.ofNat ((count + 1) * period))
      (bench.playTicks script period count)
      (bench.playTicks script period (scriptEnd script tail / period)) := by
  have toNat : ∀ {number : Nat}, number ≤ lastTick script period tail + period →
      (UInt32.ofNat number).toNat = number := fun le =>
    UInt32.toNat_ofNat_of_lt' (Nat.lt_of_le_of_lt le fits)
  have reach := scriptEnd_lt_lastTick_add script tail positive
  -- A replay is built up from its end, so the induction is on the ticks that are still ahead.
  induction ahead generalizing count with
  | zero =>
      obtain rfl : count = scriptEnd script tail / period := ends
      refine .ended (UInt32.lt_iff_toNat_lt.mpr ?_)
      rw [toNat (Nat.le_of_lt reach), Nat.succ_mul, ← lastTick, toNat (Nat.le_refl _)]
      exact reach
  | succ ahead ih =>
      have within : (count + 1) * period ≤ scriptEnd script tail :=
        (Nat.le_div_iff_mul_le positive).mp (by omega)
      have next := ih (count + 1) (by omega)
      rw [Nat.succ_mul (count + 1), UInt32.ofNat_add] at next
      refine .pass (UInt32.le_iff_toNat_le.mpr ?_) ?_
      · rwa [toNat (by omega), toNat (Nat.le_of_lt reach)]
      · rwa [toNat (by omega)]

theorem replays_iff (chronological : Chronological script) (positive : 0 < period)
    (fits : lastTick script period tail + period < clockPeriod) {final : Bench × List Cue} :
    Replays bench.clock (.ofNat (scriptEnd script tail)) (.ofNat period) 0 (bench, script) final ↔
      final = (bench.replay script period tail, missed script period tail) := by
  have rest := replays_playTicks bench positive fits _ 0 (Nat.zero_add _)
  rw [Nat.zero_add, Nat.one_mul, playTicks_last chronological positive] at rest
  have replays : Replays bench.clock (.ofNat (scriptEnd script tail)) (.ofNat period) 0 (bench, script)
      (bench.replay script period tail, missed script period tail) := by
    refine .pass UInt32.zero_le ?_
    rwa [UInt32.zero_add]
  exact ⟨fun ends => ends.unique replays, fun same => same ▸ replays⟩

end Bench

open Bench

/-- A replay of a script whose edges stand in the order of time, from any state and with the clock anywhere. The
loop ends, as long as its time stays below the clock's period, and there is no other end. It has done what is
called for until its last tick, the edges of each time before its tick. What is called for until the end of the
script has every edge once, in script order; it is what the replay has done and then the edges that are due after
the last tick. It comes to the same as the replay exactly if the last tick is no further from the end than the
tail is long. -/
theorem replay_stops_at_last_tick (bench : Bench) (script : List Cue) (period tail : Nat)
    (chronological : Chronological script) (positive : 0 < period)
    (fits : lastTick script period tail + period < clockPeriod) :
    let last := scriptEnd script tail
    let replayed := bench.replay script period tail
    let left := missed script period tail
    (∀ final, Replays bench.clock (.ofNat last) (.ofNat period) 0 (bench, script) final ↔
        final = (replayed, left)) ∧
      replayed = bench.perform bench.clock (agenda script period (lastTick script period tail)) ∧
      ((agenda script period last).filter fun entry => decide (entry.2 ≠ .tick)) = script.map Cue.entry ∧
      bench.perform bench.clock (agenda script period last) = left.foldl (play bench.clock) replayed ∧
      (replayed = bench.perform bench.clock (agenda script period last) ↔ last % period ≤ tail) := by
  intro last replayed left
  have stops : replayed = bench.perform bench.clock (agenda script period (lastTick script period tail)) :=
    replay_eq_perform chronological positive
  have whole : bench.perform bench.clock (agenda script period last) =
      left.foldl (play bench.clock) replayed := by
    rw [agenda_scriptEnd chronological positive, perform_append, ← stops, perform_entries]
  refine ⟨fun final => replays_iff chronological positive fits, stops, ?_, whole, ?_⟩
  · rw [edges_agenda chronological, List.filter_eq_self.mpr]
    exact fun cue member => decide_eq_true (due_le_scriptEnd member)
  · rw [← missed_eq_nil_iff, whole]
    refine ⟨fun same => ?_, fun none_missed => by simp only [left, none_missed, List.foldl_nil]⟩
    by_contra some_missed
    -- An edge may be refused and leave the recognizer as it is, so it is the clock that tells the two apart.
    have below : last < clockPeriod := Nat.lt_trans (scriptEnd_lt_lastTick_add script tail positive) fits
    have past : (left.foldl (play bench.clock) replayed).clock ≠
        bench.clock + UInt32.ofNat (lastTick script period tail) := clock_foldl_play_missed below some_missed
    rw [← same] at past
    exact past (clock_replay bench script period tail)

/-- A chord of two keys, the second one reported late at the time of a tick, and played while the clock starts
again at zero. The last tick is at 150, and the second key's release at 160 is left out. -/
theorem replay_leaves_out_release_of_chord :
    let bench : Bench :=
      { clock := 4294967200
        recognizer := Recognizer.run {} [(0, .register ⟨1, .io⟩ 5), (0, .register ⟨2, .touch⟩ 6)] }
    let script : List Cue :=
      [⟨0, .press 5⟩, ⟨50, .pressLate 6 10⟩, ⟨130, .release 5⟩, ⟨160, .release 6⟩]
    let replayed := bench.replay script 50 30
    (Chronological script ∧ lastTick script 50 30 + 50 < clockPeriod) ∧
      Replays bench.clock 190 50 0 (bench, script) (replayed, [⟨160, .release 6⟩]) ∧
      replayed = bench.perform bench.clock (agenda script 50 150) ∧
      bench.perform bench.clock (agenda script 50 190) = play bench.clock replayed ⟨160, .release 6⟩ ∧
      replayed ≠ bench.perform bench.clock (agenda script 50 190) := by
  intro bench script replayed
  have chronological : Chronological script := by decide
  have fits : lastTick script 50 30 + 50 < clockPeriod := by decide
  have ends : scriptEnd script 30 = 190 := by decide
  have ticked : lastTick script 50 30 = 150 := by decide
  have left : missed script 50 30 = [⟨160, .release 6⟩] := by decide
  have found := replay_stops_at_last_tick bench script 50 30 chronological (by decide) fits
  simp only [ends, ticked, left] at found
  obtain ⟨loop, stops, _, whole, same⟩ := found
  exact ⟨⟨chronological, fits⟩, (loop _).mpr rfl, stops, whole, mt same.mp (by decide)⟩

/-- One tap with ticks every 50 milliseconds and a tail of 30. The release at 60 is due after the last tick, so
the key is still down when the replay ends. -/
theorem release_after_last_tick_left_out :
    let bench : Bench := { recognizer := Recognizer.run {} [(0, .register ⟨1, .io⟩ 5)] }
    let script : List Cue := [⟨0, .press 5⟩, ⟨60, .release 5⟩]
    let replayed := bench.replay script 50 30
    let performed := bench.perform bench.clock (agenda script 50 (scriptEnd script 30))
    Chronological script ∧ lastTick script 50 30 + 50 < clockPeriod ∧ replayed ≠ performed ∧
      replayed.events = [.single ⟨1, .io⟩ .press] ∧ replayed.recognizer.isDown ⟨1, .io⟩ = true ∧
      performed.events =
        [.single ⟨1, .io⟩ .press, .single ⟨1, .io⟩ .release, .single ⟨1, .io⟩ .short] ∧
      performed.recognizer.isDown ⟨1, .io⟩ = false := by
  decide

end KeyGesture
