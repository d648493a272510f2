import KeyGesture.EdgeSource.PolledPins
import Mathlib.Data.List.DropRight

namespace KeyGesture

/-! A polled pin by itself. Counting the samples in a row that differ from its debounced level comes to looking
at the last few of them. -/

/-- A debounced level of what is read one after the other. It begins as up and changes exactly when at least
`samples` readings that did not fail have come since it last changed, and the last `samples` of them differ
from it. -/
structure Debounces {α : Type} (samples : Nat) (level? : α → Option Bool) (debounced : List α → Bool) :
    Prop where
  starts : debounced [] = false
  changes : ∀ earlier since latest,
    (∀ before last, earlier = before ++ [last] → debounced earlier ≠ debounced before) →
    (∀ more, more <+: since → debounced (earlier ++ more) = debounced earlier) →
    let levels := (since ++ [latest]).filterMap level?
    (debounced (earlier ++ since ++ [latest]) ≠ debounced earlier ↔
      samples ≤ levels.length ∧ ∀ level ∈ levels.rtake samples, level ≠ debounced earlier)

theorem length_le_takeWhile_iff {α : Type} {wanted : α → Bool} {items : List α} {count : Nat} :
    count ≤ (items.takeWhile wanted).length ↔
      count ≤ items.length ∧ ∀ item ∈ items.take count, wanted item = true := by
  induction items generalizing count with
  | nil => simp
  | cons item rest ih =>
      cases count with
      | zero => simp
      | succ count =>
          cases first : wanted item with
          | false => simp [first]
          | true => simp [first, ih]

/-- The last few of the items are as wanted exactly if the run at the end is long enough. -/
theorem length_le_rtakeWhile_iff {α : Type} {wanted : α → Bool} {items : List α} {count : Nat} :
    count ≤ (items.rtakeWhile wanted).length ↔
      count ≤ items.length ∧ ∀ item ∈ items.rtake count, wanted item = true := by
  rw [List.rtakeWhile, List.length_reverse, length_le_takeWhile_iff, List.rtake_eq_reverse_take_reverse]
  simp only [List.length_reverse, List.mem_reverse]

theorem filterMap_concat {α β : Type} (part? : α → Option β) (items : List α) (item : α) :
    (items ++ [item]).filterMap part? = items.filterMap part? ++ (part? item).toList := by
  rw [List.filterMap_append]
  cases found : part? item <;> simp [found]

namespace PolledPin

variable {pin : PolledPin} {samples : Nat} {reading : Reading}

/-- The level that a reading of the pin gives, if it gives any. -/
def levelBy? (pin : PolledPin) (reading : Reading) : Option Bool :=
  ({ pin with reading } : PolledPin).level?

/-- Reads the pin and takes the sample. -/
def read (samples : Nat) (pin : PolledPin) (reading : Reading) : PolledPin :=
  ({ pin with reading } : PolledPin).sample samples

def readAll (samples : Nat) (pin : PolledPin) (readings : List Reading) : PolledPin :=
  readings.foldl (read samples) pin

theorem readAll_concat (samples : Nat) (pin : PolledPin) (readings : List Reading) (reading : Reading) :
    pin.readAll samples (readings ++ [reading]) = (pin.readAll samples readings).read samples reading :=
  List.foldl_concat _ _ _ _

/-- A sample that cannot be taken changes nothing, one that agrees with the debounced level ends the streak,
and one that differs from it makes the streak longer, or changes the level once the streak is long enough. -/
theorem sample_cases (registered : pin.registered = true) (samples : Nat) :
    pin.level? = none ∧ pin.sample samples = pin ∨
      pin.level? = some pin.stable ∧ pin.sample samples = { pin with streak := 0 } ∨
      pin.level? = some !pin.stable ∧
        (pin.streak + 1 < samples ∧ pin.sample samples = { pin with streak := pin.streak + 1 } ∨
          samples ≤ pin.streak + 1 ∧
            pin.sample samples = { pin with streak := 0, stable := !pin.stable }) := by
  rw [sample, registered]
  cases taken : pin.level? with
  | none => exact .inl ⟨rfl, rfl⟩
  | some level =>
      refine .inr ?_
      by_cases same : level = pin.stable
      · exact .inl ⟨congrArg some same, if_pos same⟩
      · obtain rfl : level = !pin.stable := Bool.eq_not_of_ne same
        refine .inr ⟨rfl, ?_⟩
        dsimp only
        rw [if_neg same]
        by_cases short : pin.streak + 1 < samples
        · exact .inl ⟨short, if_pos short⟩
        · exact .inr ⟨Nat.le_of_not_lt short, if_neg short⟩

theorem sample_of_not_registered (plain : ¬ pin.registered = true) (samples : Nat) :
    pin.sample samples = pin := by
  rw [sample, eq_false_of_ne_true plain]

/-- A sample leaves alone how the pin is wired and what it reads. -/
theorem sample_eq (pin : PolledPin) (samples : Nat) :
    ∃ streak stable, pin.sample samples = { pin with streak, stable } := by
  by_cases registered : pin.registered = true
  · rcases pin.sample_cases registered samples with
      ⟨_, same⟩ | ⟨_, ended⟩ | ⟨_, ⟨_, longer⟩ | ⟨_, changed⟩⟩
    · exact ⟨pin.streak, pin.stable, same⟩
    · exact ⟨0, pin.stable, ended⟩
    · exact ⟨pin.streak + 1, pin.stable, longer⟩
    · exact ⟨0, !pin.stable, changed⟩
  · exact ⟨pin.streak, pin.stable, sample_of_not_registered registered samples⟩

theorem readAll_eq (pin : PolledPin) (samples : Nat) (readings : List Reading) :
    ∃ reading streak stable, pin.readAll samples readings = { pin with reading, streak, stable } := by
  induction readings using List.reverseRecOn with
  | nil => exact ⟨pin.reading, pin.streak, pin.stable, rfl⟩
  | append_singleton before last ih =>
      obtain ⟨reading, streak, stable, same⟩ := ih
      rw [readAll_concat, same, read]
      obtain ⟨longer, level, sampled⟩ := sample_eq { pin with reading := last, streak, stable } samples
      exact ⟨last, longer, level, sampled⟩

theorem registered_readAll (registered : pin.registered = true) (samples : Nat) (readings : List Reading) :
    (pin.readAll samples readings).registered = true := by
  obtain ⟨_, _, _, same⟩ := pin.readAll_eq samples readings
  rwa [same]

@[simp] theorem levelBy?_readAll (pin : PolledPin) (samples : Nat) (readings : List Reading) :
    (pin.readAll samples readings).levelBy? = pin.levelBy? := by
  obtain ⟨_, _, _, same⟩ := pin.readAll_eq samples readings
  rw [same]
  rfl

theorem read_cases (registered : pin.registered = true) (samples : Nat) (reading : Reading) :
    pin.levelBy? reading = none ∧ pin.read samples reading = { pin with reading } ∨
      pin.levelBy? reading = some pin.stable ∧
          pin.read samples reading = { pin with reading, streak := 0 } ∨
      pin.levelBy? reading = some !pin.stable ∧
        (pin.streak + 1 < samples ∧
            pin.read samples reading = { pin with reading, streak := pin.streak + 1 } ∨
          samples ≤ pin.streak + 1 ∧
            pin.read samples reading = { pin with reading, streak := 0, stable := !pin.stable }) :=
  sample_cases (show ({ pin with reading } : PolledPin).registered = true from registered) samples

theorem streak_sample_lt {bound : Nat} (short : pin.streak < bound) (fits : samples ≤ bound) :
    (pin.sample samples).streak < bound := by
  by_cases registered : pin.registered = true
  · rcases sample_cases registered samples with
      ⟨_, same⟩ | ⟨_, ended⟩ | ⟨_, ⟨longer, counted⟩ | ⟨_, changed⟩⟩
    · rwa [same]
    · rw [ended]
      exact Nat.zero_lt_of_lt short
    · rw [counted]
      exact Nat.lt_of_lt_of_le longer fits
    · rw [changed]
      exact Nat.zero_lt_of_lt short
  · rwa [sample_of_not_registered registered]

theorem streak_readAll_lt (short : pin.streak < samples) (readings : List Reading) :
    (pin.readAll samples readings).streak < samples := by
  refine List.foldlRecOn (motive := fun pin : PolledPin => pin.streak < samples) _ _ short ?_
  intro next kept reading _
  have waiting : ({ next with reading } : PolledPin).streak < samples := kept
  exact streak_sample_lt waiting (Nat.le_refl _)

/-- As long as the level stays, the streak counts the run of levels at the end that differ from it. -/
theorem streak_readAll (registered : pin.registered = true) (none : pin.streak = 0) {readings : List Reading}
    (steady : ∀ more, more <+: readings → (pin.readAll samples more).stable = pin.stable) :
    (pin.readAll samples readings).streak =
      ((readings.filterMap pin.levelBy?).rtakeWhile (· != pin.stable)).length := by
  induction readings using List.reverseRecOn with
  | nil => exact none
  | append_singleton before last ih =>
      have counted := ih fun more part => steady more (part.trans (List.prefix_append before [last]))
      have level := steady before (List.prefix_append before [last])
      have after := steady (before ++ [last]) (List.prefix_refl _)
      rw [readAll_concat] at after ⊢
      have cases := read_cases (pin.registered_readAll registered samples before) samples last
      rw [levelBy?_readAll, level] at cases
      rw [filterMap_concat]
      rcases cases with ⟨taken, same⟩ | ⟨taken, ended⟩ | ⟨taken, ⟨_, longer⟩ | ⟨_, changed⟩⟩
      · rw [same, taken, Option.toList_none, List.append_nil]
        exact counted
      · rw [ended, taken, Option.toList_some,
          List.rtakeWhile_concat_neg _ _ _ (by simp)]
        rfl
      · rw [longer, taken, Option.toList_some,
          List.rtakeWhile_concat_pos _ _ _ (by simp), List.length_append, ← counted]
        rfl
      · rw [changed] at after
        simp at after

theorem streak_of_changed (registered : pin.registered = true)
    (changed : (pin.read samples reading).stable ≠ pin.stable) : (pin.read samples reading).streak = 0 := by
  rcases read_cases registered samples reading with
    ⟨_, same⟩ | ⟨_, ended⟩ | ⟨_, ⟨_, longer⟩ | ⟨_, flipped⟩⟩
  · rw [same] at changed
    contradiction
  · rw [ended]
  · rw [longer] at changed
    contradiction
  · rw [flipped]

theorem stable_read_ne_iff (registered : pin.registered = true) (short : pin.streak < samples)
    {levels : List Bool} (counted : pin.streak = (levels.rtakeWhile (· != pin.stable)).length)
    (reading : Reading) :
    (pin.read samples reading).stable ≠ pin.stable ↔
      samples ≤ ((levels ++ (pin.levelBy? reading).toList).rtakeWhile (· != pin.stable)).length := by
  rcases read_cases registered samples reading with
    ⟨taken, same⟩ | ⟨taken, ended⟩ | ⟨taken, waits⟩
  · rw [same, taken, Option.toList_none, List.append_nil, ← counted]
    exact iff_of_false (fun changed => changed rfl) (Nat.not_le_of_lt short)
  · rw [ended, taken, Option.toList_some, List.rtakeWhile_concat_neg _ _ _ (by simp)]
    exact iff_of_false (fun changed => changed rfl) (Nat.not_le_of_lt (Nat.zero_lt_of_lt short))
  · rw [taken, Option.toList_some, List.rtakeWhile_concat_pos _ _ _ (by simp), List.length_append,
      List.length_singleton, ← counted]
    rcases waits with ⟨fewer, longer⟩ | ⟨enough, flipped⟩
    · rw [longer]
      exact iff_of_false (fun changed => changed rfl) (Nat.not_le_of_lt fewer)
    · rw [flipped]
      exact iff_of_true (by simp) enough

/-- A pin that is up at first follows the levels it reads. -/
theorem debounces_readAll {α : Type} (registered : pin.registered = true) (up : pin.stable = false)
    (none : pin.streak = 0) (positive : 0 < samples) (reading : α → Reading) :
    Debounces samples (fun item => pin.levelBy? (reading item))
      (fun items => (pin.readAll samples (items.map reading)).stable) where
  starts := up
  changes := by
    intro earlier since latest changed steady levels
    let start := pin.readAll samples (earlier.map reading)
    let last := start.readAll samples (since.map reading)
    have starts : start.registered = true := registered_readAll registered samples _
    have startNone : start.streak = 0 := by
      rcases List.eq_nil_or_concat earlier with rfl | ⟨before, final, rfl⟩
      · exact none
      · have toggled := changed before final List.concat_eq_append
        dsimp only [start]
        rw [List.concat_eq_append, List.map_append, List.map_singleton, readAll_concat] at toggled ⊢
        exact streak_of_changed (registered_readAll registered samples _) toggled
    have follows : ∀ more : List α, pin.readAll samples ((earlier ++ more).map reading) =
        start.readAll samples (more.map reading) := fun more => by
      rw [List.map_append, readAll, List.foldl_append]
      rfl
    have counted : last.streak =
        (((since.map reading).filterMap start.levelBy?).rtakeWhile (· != start.stable)).length := by
      refine streak_readAll starts startNone fun more part => ?_
      obtain ⟨rest, split⟩ := part
      obtain ⟨first, _, rfl, rfl, _⟩ := List.map_eq_append_iff.mp split.symm
      rw [← follows]
      exact steady first (List.prefix_append ..)
    have level : last.stable = start.stable :=
      (congrArg stable (follows since)).symm.trans (steady since (List.prefix_refl _))
    have short : last.streak < samples := streak_readAll_lt (startNone ▸ positive) _
    have next : (pin.readAll samples ((earlier ++ since ++ [latest]).map reading)) =
        last.read samples (reading latest) := by
      rw [List.append_assoc, follows, List.map_append, List.map_singleton, readAll_concat]
    have seen : levels = (since.map reading).filterMap start.levelBy? ++
        (last.levelBy? (reading latest)).toList := by
      have same : start.levelBy? = pin.levelBy? := levelBy?_readAll pin samples _
      have sameLast : last.levelBy? = pin.levelBy? := (levelBy?_readAll start samples _).trans same
      rw [same, sameLast, List.filterMap_map]
      exact filterMap_concat _ since latest
    rw [← level] at counted
    have toggles := stable_read_ne_iff (registered_readAll starts samples _) short counted
      (reading latest)
    rw [level, ← seen, length_le_rtakeWhile_iff] at toggles
    rw [next]
    simpa only [bne_iff_ne] using toggles

end PolledPin

end KeyGesture
