import KeyGesture.Bench.Script
import Mathlib.Data.List.TakeWhile

namespace KeyGesture

/-! What a script and a regular tick call for, put in the order of time. -/

/-- No edge of the script is due before one that stands ahead of it. -/
def Chronological (script : List Cue) : Prop :=
  script.Pairwise fun ahead behind => ahead.due ≤ behind.due

instance (script : List Cue) : Decidable (Chronological script) :=
  inferInstanceAs (Decidable (List.Pairwise _ script))

/-- The edges that are due after one time and no later than another. -/
def dueWithin (script : List Cue) (after upTo : Nat) : List Cue :=
  script.filter fun cue => decide (after < cue.due ∧ cue.due ≤ upTo)

def Cue.entry (cue : Cue) : Nat × Call :=
  (cue.due, cue.edge.toCall)

/-- What is called for at one time: the edges due then, in script order, and after them the tick, if the time
is one of its. -/
def entriesAt (script : List Cue) (period time : Nat) : List (Nat × Call) :=
  (script.filter fun cue => decide (cue.due = time)).map Cue.entry ++
    if 0 < time ∧ period ∣ time then [(time, .tick)] else []

/-- All that is called for, millisecond by millisecond. -/
def agenda (script : List Cue) (period last : Nat) : List (Nat × Call) :=
  (List.range (last + 1)).flatMap (entriesAt script period)

namespace Bench

/-- Makes each call of an agenda that was started at `start` at its own time. -/
def perform (start : UInt32) (bench : Bench) (agenda : List (Nat × Call)) : Bench :=
  agenda.foldl (fun bench entry => ((bench.setClock (start + UInt32.ofNat entry.1)).call entry.2).2) bench

theorem perform_append (start : UInt32) (bench : Bench) (first second : List (Nat × Call)) :
    bench.perform start (first ++ second) = (bench.perform start first).perform start second :=
  List.foldl_append

theorem perform_entries (start : UInt32) (bench : Bench) (cues : List Cue) :
    bench.perform start (cues.map Cue.entry) = cues.foldl (play start) bench :=
  List.foldl_map

end Bench

variable {script : List Cue} {period time after middle upTo last span : Nat}

theorem filter_filter_of_iff {first second both : Cue → Prop} [DecidablePred first] [DecidablePred second]
    [DecidablePred both] (iff : ∀ cue, first cue ∧ second cue ↔ both cue) :
    (script.filter fun cue => decide (first cue)).filter (fun cue => decide (second cue)) =
      script.filter fun cue => decide (both cue) := by
  rw [List.filter_filter]
  refine List.filter_congr fun cue _ => ?_
  rw [Bool.and_comm, ← Bool.decide_and]
  exact decide_eq_decide.mpr (iff cue)

namespace Chronological

/-- The edges that are due by a time stand ahead of those that are not. -/
theorem filter_append (chronological : Chronological script) (time : Nat) :
    (script.filter fun cue => decide (cue.due ≤ time)) ++
      (script.filter fun cue => decide (time < cue.due)) = script := by
  induction script with
  | nil => rfl
  | cons cue rest ih =>
      obtain ⟨ahead, behind⟩ := List.pairwise_cons.mp chronological
      by_cases due : cue.due ≤ time
      · simp [due, Nat.not_lt.mpr due, ih behind]
      · have later : ∀ other ∈ cue :: rest, time < other.due := by
          have first : time < cue.due := Nat.lt_of_not_le due
          exact List.forall_mem_cons.mpr
            ⟨first, fun other member => Nat.lt_of_lt_of_le first (ahead other member)⟩
        rw [List.filter_eq_nil_iff.mpr (by simpa using later), List.nil_append,
          List.filter_eq_self.mpr (by simpa using later)]

theorem takeWhile_due (chronological : Chronological script) (time : Nat) :
    (script.takeWhile fun cue => decide (cue.due ≤ time)) =
      script.filter fun cue => decide (cue.due ≤ time) := by
  have no_later : ((script.filter fun cue => decide (time < cue.due)).takeWhile
      fun cue => decide (cue.due ≤ time)) = [] := by
    refine List.eq_nil_iff_forall_not_mem.mpr fun cue member => ?_
    have due : decide (cue.due ≤ time) = true :=
      List.mem_takeWhile_imp (p := fun cue : Cue => decide (cue.due ≤ time)) member
    have later := (List.mem_filter.mp ((List.takeWhile_sublist _).subset member)).2
    exact Nat.not_le_of_lt (of_decide_eq_true later) (of_decide_eq_true due)
  have parted := congrArg (List.takeWhile fun cue => decide (cue.due ≤ time))
    (chronological.filter_append time)
  rw [List.takeWhile_append_of_pos fun cue member => (List.mem_filter.mp member).2, no_later,
    List.append_nil] at parted
  exact parted.symm

theorem dropWhile_due (chronological : Chronological script) (time : Nat) :
    (script.dropWhile fun cue => decide (cue.due ≤ time)) =
      script.filter fun cue => decide (time < cue.due) := by
  have parted := List.takeWhile_append_dropWhile (p := fun cue : Cue => decide (cue.due ≤ time))
    (l := script)
  rw [chronological.takeWhile_due] at parted
  exact List.append_cancel_left (parted.trans (chronological.filter_append time).symm)

theorem filter (chronological : Chronological script) (kept : Cue → Bool) :
    Chronological (script.filter kept) :=
  List.Pairwise.filter kept chronological

theorem dueWithin_append (chronological : Chronological script) (le : after ≤ middle)
    (le' : middle ≤ upTo) :
    dueWithin script after middle ++ dueWithin script middle upTo = dueWithin script after upTo := by
  have ordered : Chronological (dueWithin script after upTo) := chronological.filter _
  have below : (dueWithin script after upTo).filter (fun cue => decide (cue.due ≤ middle)) =
      dueWithin script after middle := filter_filter_of_iff fun cue => by omega
  have above : (dueWithin script after upTo).filter (fun cue => decide (middle < cue.due)) =
      dueWithin script middle upTo := filter_filter_of_iff fun cue => by omega
  rw [← below, ← above, ordered.filter_append]

end Chronological

theorem dueWithin_self (script : List Cue) (time : Nat) : dueWithin script time time = [] := by
  simp only [dueWithin, List.filter_eq_nil_iff, decide_eq_true_eq]
  omega

theorem dueWithin_succ (script : List Cue) (time : Nat) :
    dueWithin script time (time + 1) = script.filter fun cue => decide (cue.due = time + 1) :=
  List.filter_congr fun cue _ => decide_eq_decide.mpr (by omega)

theorem agenda_succ (script : List Cue) (period last : Nat) :
    agenda script period (last + 1) = agenda script period last ++ entriesAt script period (last + 1) := by
  rw [agenda, List.range_succ, List.flatMap_append, List.flatMap_singleton]
  rfl

/-- All edges that are due by then are on the agenda, once each and in script order. -/
theorem edges_agenda (chronological : Chronological script) (period last : Nat) :
    ((agenda script period last).filter fun entry => decide (entry.2 ≠ .tick)) =
      (script.filter fun cue => decide (cue.due ≤ last)).map Cue.entry := by
  have edges : ∀ cues : List Cue, ((cues.map Cue.entry).filter fun entry => decide (entry.2 ≠ .tick)) =
      cues.map Cue.entry := by
    refine fun cues => List.filter_eq_self.mpr fun entry member => ?_
    obtain ⟨⟨_, _ | _ | _⟩, _, rfl⟩ := List.mem_map.mp member
    all_goals rfl
  have here : ∀ time, ((entriesAt script period time).filter fun entry => decide (entry.2 ≠ .tick)) =
      (script.filter fun cue => decide (cue.due = time)).map Cue.entry := by
    intro time
    rw [entriesAt, List.filter_append, edges]
    split <;> simp
  induction last with
  | zero => simpa [agenda] using here 0
  | succ last ih =>
      have below : (script.filter fun cue => decide (cue.due ≤ last + 1)).filter
          (fun cue => decide (cue.due ≤ last)) = script.filter fun cue => decide (cue.due ≤ last) :=
        filter_filter_of_iff fun cue => by omega
      have above : (script.filter fun cue => decide (cue.due ≤ last + 1)).filter
          (fun cue => decide (last < cue.due)) = script.filter fun cue => decide (cue.due = last + 1) :=
        filter_filter_of_iff fun cue => by omega
      rw [agenda_succ, List.filter_append, ih, here, ← List.map_append, ← below, ← above,
        (chronological.filter _).filter_append]

/-- Between two ticks only edges are called for. -/
theorem agenda_add (chronological : Chronological script)
    (untimed : ∀ time, last < time → time ≤ last + span → ¬ period ∣ time) :
    agenda script period (last + span) =
      agenda script period last ++ (dueWithin script last (last + span)).map Cue.entry := by
  induction span with
  | zero => simp [dueWithin_self]
  | succ span ih =>
      have here : entriesAt script period (last + span + 1) =
          (dueWithin script (last + span) (last + span + 1)).map Cue.entry := by
        have unticked := untimed (last + span + 1) (by omega) (by omega)
        rw [entriesAt, if_neg fun timed => unticked timed.2, List.append_nil, dueWithin_succ]
      have parted := chronological.dueWithin_append (Nat.le_add_right last span) (Nat.le_succ _)
      rw [← Nat.add_assoc, agenda_succ, ih fun time above below => untimed time above (by omega), here,
        List.append_assoc, ← List.map_append, parted]

theorem not_dvd_between {count : Nat} (above : count * period < time) (below : time < (count + 1) * period) :
    ¬ period ∣ time := by
  rw [Nat.mul_comm] at above below
  exact Nat.not_dvd_of_lt_of_lt_mul_succ above below

/-- From one tick to the next. -/
theorem agenda_next (chronological : Chronological script) (positive : 0 < period) (count : Nat) :
    agenda script period ((count + 1) * period) = agenda script period (count * period) ++
      (dueWithin script (count * period) ((count + 1) * period)).map Cue.entry ++
      [((count + 1) * period, .tick)] := by
  obtain ⟨span, next⟩ : ∃ span, (count + 1) * period = count * period + span + 1 :=
    ⟨period - 1, by rw [Nat.succ_mul]; omega⟩
  have here : entriesAt script period ((count + 1) * period) =
      (dueWithin script (count * period + span) ((count + 1) * period)).map Cue.entry ++
        [((count + 1) * period, .tick)] := by
    rw [entriesAt, if_pos ⟨by omega, Nat.dvd_mul_left _ _⟩, next, dueWithin_succ]
  have between : agenda script period (count * period + span) = agenda script period (count * period) ++
      (dueWithin script (count * period) (count * period + span)).map Cue.entry :=
    agenda_add chronological fun time above below => not_dvd_between above (by omega)
  have parted : dueWithin script (count * period) (count * period + span) ++
      dueWithin script (count * period + span) ((count + 1) * period) =
        dueWithin script (count * period) ((count + 1) * period) :=
    chronological.dueWithin_append (by omega) (by omega)
  calc agenda script period ((count + 1) * period)
      = agenda script period (count * period + span) ++ entriesAt script period ((count + 1) * period) := by
        rw [next, agenda_succ]
    _ = _ := by
        rw [between, here, ← parted, List.map_append]
        simp only [List.append_assoc]

end KeyGesture
