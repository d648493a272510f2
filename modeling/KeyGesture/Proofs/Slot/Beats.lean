import Mathlib.Algebra.Order.Floor.Div
import Mathlib.Order.Bounds.Basic
import KeyGesture.Proofs.Slot.Coherence

namespace KeyGesture

/-! The cadence of repeats. The ticks during a hold see it grow; the first to see it past the start of
repeating is the first beat, and each later beat is the first tick that sees the hold longer than the last
beat did by the rate of repeating. A slot keeps no more of this than the time of the last beat. -/

namespace Timing

/-- The ticks, counted from zero, that see a hold past the start of repeating. -/
def armingTicks (timing : Timing) (holds : List Nat) : Set Nat :=
  { number | ∃ hold ∈ holds[number]?, timing.repeatStart < hold }

/-- The ticks after a given one that see a hold longer than that one did by the rate of repeating. -/
def dueTicks (timing : Timing) (holds : List Nat) (last : Nat) : Set Nat :=
  { number | last < number ∧
    ∃ since ∈ holds[last]?, ∃ hold ∈ holds[number]?, timing.repeatRate ≤ hold - since }

/-- The beats of a hold, each with its number. The first only arms repeating. -/
inductive Beat (timing : Timing) (holds : List Nat) : Nat → Nat → Prop where
  | first {number : Nat} (least : IsLeast (timing.armingTicks holds) number) : Beat timing holds 0 number
  | next {count last number : Nat} (beat : Beat timing holds count last)
      (least : IsLeast (timing.dueTicks holds last) number) : Beat timing holds (count + 1) number

variable {timing : Timing} {holds : List Nat} {count number other last since hold period : Nat}

theorem beat_zero_iff : timing.Beat holds 0 number ↔ IsLeast (timing.armingTicks holds) number :=
  ⟨fun | .first least => least, .first⟩

theorem beat_succ_iff : timing.Beat holds (count + 1) number ↔
    ∃ last, timing.Beat holds count last ∧ IsLeast (timing.dueTicks holds last) number :=
  ⟨fun | .next beat least => ⟨_, beat, least⟩, fun ⟨_, beat, least⟩ => .next beat least⟩

namespace Beat

theorem unique (beat : timing.Beat holds count number) (same : timing.Beat holds count other) :
    number = other := by
  induction beat generalizing other with
  | first least => exact least.unique (beat_zero_iff.mp same)
  | next _ least ih =>
      obtain ⟨last, beatOther, leastOther⟩ := beat_succ_iff.mp same
      obtain rfl := ih beatOther
      exact least.unique leastOther

theorem exists_le {earlier : Nat} (beat : timing.Beat holds count number) (le : earlier ≤ count) :
    ∃ before ≤ number, timing.Beat holds earlier before := by
  induction beat with
  | first least =>
      obtain rfl := Nat.le_zero.mp le
      exact ⟨_, Nat.le_refl _, .first least⟩
  | next beat least ih =>
      rcases Nat.lt_or_eq_of_le le with lt | rfl
      · obtain ⟨before, below, found⟩ := ih (Nat.le_of_lt_succ lt)
        exact ⟨before, Nat.le_trans below (Nat.le_of_lt least.1.1), found⟩
      · exact ⟨_, Nat.le_refl _, .next beat least⟩

end Beat

theorem mem_armingTicks_iff (place : holds[number]? = some hold) :
    number ∈ timing.armingTicks holds ↔ timing.repeatStart < hold := by
  simp [armingTicks, place]

theorem mem_dueTicks_iff (placeLast : holds[last]? = some since) (place : holds[number]? = some hold) :
    number ∈ timing.dueTicks holds last ↔ last < number ∧ timing.repeatRate ≤ hold - since := by
  simp [dueTicks, placeLast, place]

/-- Where the cadence stands once some of the ticks have passed: no beat yet, or the last beat saw the hold
as given. -/
inductive Paced (timing : Timing) (holds : List Nat) (passed : Nat) : Option Nat → Prop where
  | waiting (early : passed ∈ lowerBounds (timing.armingTicks holds)) : Paced timing holds passed none
  | beating {count last since : Nat} (beat : timing.Beat holds count last) (before : last < passed)
      (place : holds[last]? = some since) (past : timing.repeatStart < since)
      (early : passed ∈ lowerBounds (timing.dueTicks holds last)) : Paced timing holds passed (some since)

theorem succ_mem_lowerBounds {ticks : Set Nat} (early : number ∈ lowerBounds ticks)
    (unmet : number ∉ ticks) : number + 1 ∈ lowerBounds ticks := by
  intro tick member
  rcases Nat.lt_or_eq_of_le (early member) with lt | rfl
  · exact lt
  · exact absurd member unmet

/-- What the last beat saw, after a tick that sees the given hold. -/
def pace (timing : Timing) (since? : Option Nat) (hold : Nat) : Option Nat :=
  if timing.repeatStart < hold ∧ (∀ since ∈ since?, timing.repeatRate ≤ hold - since) then some hold
  else since?

namespace Paced

variable {passed : Nat} {since? : Option Nat}

theorem initially : Paced timing holds 0 none :=
  .waiting fun tick _ => Nat.zero_le tick

theorem beat_iff (paced : Paced timing holds passed since?) (place : holds[passed]? = some hold) :
    (∃ count, timing.Beat holds (count + 1) passed) ↔
      ∃ since ∈ since?, timing.repeatRate ≤ hold - since := by
  constructor
  · rintro ⟨number, here⟩
    obtain ⟨prior, beatPrior, due⟩ := beat_succ_iff.mp here
    have sooner : prior < passed := due.1.1
    cases paced with
    | waiting early =>
        obtain ⟨first, le, beatFirst⟩ := beatPrior.exists_le (Nat.zero_le number)
        have late := early (beat_zero_iff.mp beatFirst).1
        omega
    | @beating count last since beat before placeLast past early =>
        -- This beat is the one right after the last: it is none of those up to the last, and there is
        -- none in between.
        rcases Nat.lt_trichotomy number count with lt | rfl | gt
        · obtain ⟨same, le, beatSame⟩ := beat.exists_le lt
          have apart := here.unique beatSame
          omega
        · obtain rfl := beat.unique beatPrior
          exact ⟨since, rfl, ((mem_dueTicks_iff placeLast place).mp due.1).2⟩
        · obtain ⟨between, le, beatBetween⟩ := beatPrior.exists_le gt
          obtain ⟨lastBetween, beatLast, least⟩ := beat_succ_iff.mp beatBetween
          obtain rfl := beat.unique beatLast
          have late := early least.1
          omega
  · rintro ⟨since, last, due⟩
    cases paced with
    | waiting => contradiction
    | beating beat before placeLast past early =>
        obtain rfl := Option.some.inj last
        exact ⟨_, .next beat ⟨(mem_dueTicks_iff placeLast place).mpr ⟨before, due⟩, early⟩⟩

theorem past (paced : Paced timing holds passed since?) :
    ∀ since ∈ since?, timing.repeatStart < since := by
  cases paced with
  | waiting => simp
  | beating _ _ _ past => simpa using past

theorem grown (paced : Paced timing holds passed since?) (place : holds[passed]? = some hold)
    (growing : holds.Pairwise (· ≤ ·)) : ∀ since ∈ since?, since ≤ hold := by
  cases paced with
  | waiting => simp
  | @beating count last since beat before placeLast =>
      obtain ⟨within, rfl⟩ := List.getElem?_eq_some_iff.mp placeLast
      obtain ⟨withinNow, rfl⟩ := List.getElem?_eq_some_iff.mp place
      simpa using List.pairwise_iff_getElem.mp growing last passed within withinNow before

theorem next (paced : Paced timing holds passed since?) (place : holds[passed]? = some hold)
    (growing : holds.Pairwise (· ≤ ·)) : Paced timing holds (passed + 1) (timing.pace since? hold) := by
  have grown := paced.grown place growing
  cases paced with
  | waiting early =>
      by_cases past : timing.repeatStart < hold
      · have first : IsLeast (timing.armingTicks holds) passed :=
          ⟨(mem_armingTicks_iff place).mpr past, early⟩
        rw [pace, if_pos ⟨past, by simp⟩]
        exact .beating (.first first) (Nat.lt_succ_self passed) place past fun tick due => due.1
      · rw [pace, if_neg (past ·.1)]
        exact .waiting (succ_mem_lowerBounds early (mt (mem_armingTicks_iff place).mp past))
  | @beating count last since beat before placeLast past early =>
      have pastNow : timing.repeatStart < hold := Nat.lt_of_lt_of_le past (grown since rfl)
      by_cases due : timing.repeatRate ≤ hold - since
      · have least : IsLeast (timing.dueTicks holds last) passed :=
          ⟨(mem_dueTicks_iff placeLast place).mpr ⟨before, due⟩, early⟩
        rw [pace, if_pos ⟨pastNow, by simpa using due⟩]
        exact .beating (.next beat least) (Nat.lt_succ_self passed) place pastNow fun tick due => due.1
      · rw [pace, if_neg (fun paced => due (paced.2 since rfl))]
        refine .beating beat (Nat.lt_succ_of_lt before) placeLast past (succ_mem_lowerBounds early ?_)
        exact fun member => due ((mem_dueTicks_iff placeLast place).mp member).2

end Paced

section Spaced

/-- The holds are the multiples of a period, one after the other. -/
def Spaced (period : Nat) (holds : List Nat) : Prop :=
  holds = (List.range holds.length).map fun number => (number + 1) * period

theorem isLeast_Ico_iff {least above : Nat} :
    IsLeast (Set.Ico least above) number ↔ number < above ∧ number = least := by
  constructor
  · intro isLeast
    have within : least < above := Nat.lt_of_le_of_lt isLeast.1.1 isLeast.1.2
    exact ⟨isLeast.1.2, isLeast.unique (isLeast_Ico within)⟩
  · rintro ⟨within, rfl⟩
    exact isLeast_Ico within

theorem Spaced.getElem?_eq (spaced : Spaced period holds) (within : number < holds.length) :
    holds[number]? = some ((number + 1) * period) := by
  calc holds[number]?
      = ((List.range holds.length).map fun number => (number + 1) * period)[number]? :=
        congrArg (·[number]?) spaced
    _ = some ((number + 1) * period) := by
        rw [List.getElem?_map, List.getElem?_range within, Option.map_some]

theorem Spaced.armingTicks_eq (spaced : Spaced period holds) (positive : 0 < period) :
    timing.armingTicks holds = Set.Ico (timing.repeatStart / period) holds.length := by
  ext number
  by_cases within : number < holds.length
  · rw [mem_armingTicks_iff (spaced.getElem?_eq within), Set.mem_Ico, and_iff_left within,
      ← Nat.div_lt_iff_lt_mul positive, Nat.lt_succ_iff]
  · simp [armingTicks, within]

theorem Spaced.dueTicks_eq (spaced : Spaced period holds) (positive : 0 < period)
    (within : last < holds.length) : timing.dueTicks holds last =
      Set.Ico (last + max 1 (timing.repeatRate ⌈/⌉ period)) holds.length := by
  ext number
  by_cases here : number < holds.length
  · rw [mem_dueTicks_iff (spaced.getElem?_eq within) (spaced.getElem?_eq here), Set.mem_Ico,
      and_iff_left here, ← Nat.mul_sub_right_distrib, Nat.mul_comm, ← ceilDiv_le_iff_le_mul positive]
    omega
  · simp [dueTicks, here]

theorem Spaced.beat_iff (spaced : Spaced period holds) (positive : 0 < period) :
    timing.Beat holds count number ↔ number < holds.length ∧
      number = timing.repeatStart / period + count * max 1 (timing.repeatRate ⌈/⌉ period) := by
  induction count generalizing number with
  | zero => rw [beat_zero_iff, spaced.armingTicks_eq positive, isLeast_Ico_iff, Nat.zero_mul, Nat.add_zero]
  | succ count ih =>
      rw [beat_succ_iff, Nat.succ_mul, ← Nat.add_assoc]
      constructor
      · rintro ⟨last, beat, least⟩
        obtain ⟨within, rfl⟩ := ih.mp beat
        rwa [spaced.dueTicks_eq positive within, isLeast_Ico_iff] at least
      · rintro ⟨here, step⟩
        have within : timing.repeatStart / period + count * max 1 (timing.repeatRate ⌈/⌉ period) <
            holds.length :=
          Nat.lt_of_le_of_lt (step ▸ Nat.le_add_right _ _) here
        refine ⟨_, ih.mpr ⟨within, rfl⟩, ?_⟩
        rw [spaced.dueTicks_eq positive within, isLeast_Ico_iff]
        exact ⟨here, step⟩

end Spaced

end Timing

namespace Slot

variable {slot : Slot} {timing : Timing} {now : UInt32} {holds : List Nat} {passed : Nat}

@[simp] theorem repeatedAt_raise (tier : Tier) : (slot.raise timing tier).repeatedAt = slot.repeatedAt := by
  cases tier <;> rfl

@[simp] theorem repeatedAt_escalate : (slot.escalate timing now).repeatedAt = slot.repeatedAt := by
  rw [escalate]
  split <;> simp

@[simp] theorem hold_escalate (other : UInt32) :
    (slot.escalate timing now).hold other = slot.hold other := by
  rw [hold, pressedAt_escalate, hold]

@[simp] theorem repeats_escalate :
    (slot.escalate timing now).repeats timing now = slot.repeats timing now := by
  rw [repeats, hold_escalate, repeatedAt_escalate, repeats]

/-- What the last beat saw of the hold. -/
def beatHold? (slot : Slot) : Option Nat :=
  slot.repeatedAt.map fun last => elapsed last slot.pressedAt

theorem repeats_iff (grown : ∀ since ∈ slot.beatHold?, since ≤ slot.hold now) :
    slot.repeats timing now = true ↔ timing.repeatStart < slot.hold now ∧
      ∃ since ∈ slot.beatHold?, timing.repeatRate ≤ slot.hold now - since := by
  rw [repeats, Bool.and_eq_true, decide_eq_true_iff]
  cases repeated : slot.repeatedAt with
  | none => simp [beatHold?, repeated]
  | some last =>
      have le : elapsed last slot.pressedAt ≤ slot.hold now := grown _ (by simp [beatHold?, repeated])
      simp [beatHold?, repeated, elapsed_eq_sub le, hold]

theorem beatHold?_tick (down : slot.isDown = true)
    (grown : ∀ since ∈ slot.beatHold?, since ≤ slot.hold now) :
    (slot.tick timing now).beatHold? = timing.pace slot.beatHold? (slot.hold now) := by
  have since : ((slot.escalate timing now).advanceRepeat timing now).pressedAt = slot.pressedAt := by
    rw [pressedAt_advanceRepeat, pressedAt_escalate]
  have due : timing.repeatStart < slot.hold now ∧
        (slot.repeatedAt = none ∨ slot.repeats timing now = true) ↔
      timing.repeatStart < slot.hold now ∧
        ∀ since ∈ slot.beatHold?, timing.repeatRate ≤ slot.hold now - since := by
    rw [repeats_iff grown]
    cases repeated : slot.repeatedAt <;> simp +contextual [beatHold?, repeated]
  rw [tick_of_isDown now down, beatHold?, since, Timing.pace, ← if_congr due rfl rfl, advanceRepeat,
    hold_escalate, repeats_escalate, repeatedAt_escalate]
  split
  · rfl
  · rw [repeatedAt_escalate]
    rfl

theorem paced_tick (down : slot.isDown = true) (paced : timing.Paced holds passed slot.beatHold?)
    (place : holds[passed]? = some (slot.hold now)) (growing : holds.Pairwise (· ≤ ·)) :
    timing.Paced holds (passed + 1) (slot.tick timing now).beatHold? ∧
      (slot.repeats timing now = true ↔ ∃ count, timing.Beat holds (count + 1) passed) := by
  have grown := paced.grown place growing
  refine ⟨beatHold?_tick down grown ▸ paced.next place growing, ?_⟩
  rw [repeats_iff grown, paced.beat_iff place, and_iff_right_iff_imp]
  rintro ⟨since, last, _⟩
  exact Nat.lt_of_lt_of_le (paced.past since last) (grown since last)

end Slot

end KeyGesture
