import KeyGesture.Proofs.Recognizer.HoldEscalation

namespace KeyGesture

/-! Timings that change while a key is held. A slot waits for a threshold of the timing under which its
hold was last raised, but what a tick then reports is the tier that the hold has reached by the timing of
the day. So a tier is reported again, or a lower one after it, exactly if a tick comes when the hold is
past the threshold that the slot waits for and the timing has meanwhile put the hold back. -/

/-- How far a hold had come when a tier of it was last reported, and the timing that was in force then. -/
structure Mark where
  timing : Timing
  level : Nat
  deriving DecidableEq, Repr

namespace Mark

/-- The tier that a tick under a timing reports of a marked hold. -/
def tier? (mark : Mark) (timing : Timing) (hold : Nat) : Option Tier :=
  if mark.level < mark.timing.level hold then timing.tier? hold else none

def move (mark : Mark) (timing : Timing) : Option Tier → Mark
  | some tier => ⟨timing, tier.rank⟩
  | none => mark

/-- The mark after a turn, read off what the turn reports. -/
def pass (key : Key) (mark : Mark) (turn : Turn) : Mark :=
  mark.move turn.before.timing (tiersOf key turn.events).getLast?

/-- The mark after turns in which a key is held that went down under a timing. -/
def after (key : Key) (timing : Timing) (turns : List Turn) : Mark :=
  turns.foldl (pass key) ⟨timing, 0⟩

/-- What a turn reports of a marked hold that began at an instant. Only a tick looks. -/
def told? (mark : Mark) (instant : UInt32) (turn : Turn) : Option Tier :=
  if turn.call = .tick then mark.tier? turn.before.timing (elapsed turn.now instant) else none

end Mark

/-- A tick comes when the hold is past the threshold that was next at the mark, and by the timing now in
force the hold has reached a tier, but none beyond the mark. -/
def Turn.Reverts (turn : Turn) (mark : Mark) (instant : UInt32) : Prop :=
  let hold := elapsed turn.now instant
  turn.call = .tick ∧ mark.level < mark.timing.level hold ∧
    ∃ tier, turn.before.timing.tier? hold = some tier ∧ tier.rank ≤ mark.level

/-- No threshold of a tier is higher than in another timing. -/
structure Timing.Lowers (timing old : Timing) : Prop where
  long : timing.long ≤ old.long
  veryLong : timing.veryLong ≤ old.veryLong
  veryVeryLong : timing.veryVeryLong ≤ old.veryVeryLong

namespace Timing.Lowers

variable {timing old older : Timing}

theorem refl (timing : Timing) : timing.Lowers timing :=
  ⟨Nat.le_refl _, Nat.le_refl _, Nat.le_refl _⟩

theorem trans (lowers : timing.Lowers old) (lowered : old.Lowers older) : timing.Lowers older :=
  ⟨lowers.long.trans lowered.long, lowers.veryLong.trans lowered.veryLong,
    lowers.veryVeryLong.trans lowered.veryVeryLong⟩

theorem level_le (lowers : timing.Lowers old) (hold : Nat) : old.level hold ≤ timing.level hold := by
  obtain ⟨long, veryLong, veryVeryLong⟩ := lowers
  rw [level, level]
  split_ifs <;> omega

end Timing.Lowers

theorem Timing.level_le_rank {timing : Timing} {hold : Nat} {tier : Tier}
    (found : timing.tier? hold = some tier) : timing.level hold ≤ tier.rank := by
  rw [tier?] at found
  rw [level]
  split_ifs at found with last second first
  all_goals
    obtain rfl := Option.some.inj found
    simp only [Tier.rank]
    split_ifs <;> omega

/-! Slot by slot and turn by turn. -/

namespace Slot.Raised

variable {slot : Slot} {mark : Mark}

theorem escalation?_eq_tier? (raised : slot.Raised mark.timing mark.level) (valid : mark.timing.Valid)
    (timing : Timing) (now : UInt32) :
    slot.escalation? timing now = mark.tier? timing (slot.hold now) := by
  simp only [Slot.escalation?, Mark.tier?, raised.due_iff valid]

theorem tick_retimed (raised : slot.Raised mark.timing mark.level) (valid : mark.timing.Valid)
    (timing : Timing) (now : UInt32) :
    let moved := mark.move timing (mark.tier? timing (slot.hold now))
    (slot.tick timing now).Raised moved.timing moved.level := by
  intro moved
  rw [tick_of_isDown now raised.isDown]
  refine Raised.congr ?_ (phase_advanceRepeat now) (nextHold_advanceRepeat now)
  have escalates := raised.escalation?_eq_tier? valid timing now
  rw [escalate]
  cases told : slot.escalation? timing now with
  | none =>
      have kept : moved = mark := by simp only [moved, ← escalates, told, Mark.move]
      rw [kept]
      exact raised
  | some tier =>
      have reached : moved = ⟨timing, tier.rank⟩ := by simp only [moved, ← escalates, told, Mark.move]
      rw [reached]
      exact raise (phase_pressed_of_escalation? told) tier

end Slot.Raised

namespace Recognizer

variable {start : Recognizer} {calls : List (UInt32 × Call)} {slot : Slot} {index : Nat} {mark : Mark}

/-- A key is down under a valid timing, and there is no chord. -/
structure HoldsTimed (recognizer : Recognizer) (key : Key) : Prop where
  valid : recognizer.timing.Valid
  unchorded : recognizer.chord.stage = .inactive
  down : recognizer.isDown key = true

theorem HoldsTimed.retimed {turn : Turn} (timed : turn.before.HoldsTimed slot.key)
    (next : turn.after.HoldsTimed slot.key) (sound : turn.before.Sound)
    (place : turn.before.slots[index]? = some slot) (valid : mark.timing.Valid)
    (raised : slot.Raised mark.timing mark.level)
    (heard : turn.call = .tick → turn.before.muted = false) :
    tiersOf slot.key turn.events = (mark.told? slot.pressedAt turn).toList ∧
      ∃ after, turn.after.slots[index]? = some after ∧ after.key = slot.key ∧
        after.pressedAt = slot.pressedAt ∧
        after.Raised (mark.pass slot.key turn).timing (mark.pass slot.key turn).level := by
  by_cases ticks : turn.call = .tick
  · obtain ⟨placeAfter, told⟩ := turn.ticked sound place timed.unchorded ticks
    have found : mark.told? slot.pressedAt turn = mark.tier? turn.before.timing (slot.hold turn.now) :=
      if_pos ticks
    have reported : tiersOf slot.key turn.events =
        (mark.tier? turn.before.timing (slot.hold turn.now)).toList := by
      rw [tiersOf, gesturesOf_eq_of_eventsNaming (told (heard ticks)), Slot.tiers_found raised.isDown,
        raised.escalation?_eq_tier? valid]
    refine ⟨found ▸ reported, _, placeAfter, Slot.key_tick _ _ _, Slot.pressedAt_tick _, ?_⟩
    have moved := raised.tick_retimed valid turn.before.timing turn.now
    rw [Mark.pass, reported]
    cases tier : mark.tier? turn.before.timing (slot.hold turn.now) <;> rwa [tier] at moved
  · obtain ⟨⟨channel, placeAfter⟩, silent⟩ :=
      turn.kept_of_isDown sound place ticks timed.unchorded next.unchorded timed.down next.down
    have reported : tiersOf slot.key turn.events = [] := by
      rw [tiersOf, gesturesOf, silent]
      rfl
    refine ⟨?_, _, placeAfter, rfl, rfl, ?_⟩
    · rw [reported, Mark.told?, if_neg ticks]
      rfl
    · rw [Mark.pass, reported]
      exact raised.congr rfl rfl

end Recognizer

theorem Mark.valid_pass {key : Key} {mark : Mark} {turn : Turn} (valid : mark.timing.Valid)
    (validNow : turn.before.timing.Valid) : (mark.pass key turn).timing.Valid := by
  rw [pass]
  cases (tiersOf key turn.events).getLast? with
  | none => exact valid
  | some tier => exact validNow

/-- Every turn reports of a held key the tier that the mark left by the turns before it says. -/
def Marked (key : Key) (instant : UInt32) (mark : Mark) (turns : List Turn) : Prop :=
  ∀ sofar turn, sofar ++ [turn] <+: turns →
    tiersOf key turn.events = ((sofar.foldl (Mark.pass key) mark).told? instant turn).toList

theorem Recognizer.marked_through {start : Recognizer} {calls : List (UInt32 × Call)} {slot : Slot}
    {index : Nat} {mark : Mark} (sound : start.Sound) (place : start.slots[index]? = some slot)
    (valid : mark.timing.Valid) (raised : slot.Raised mark.timing mark.level)
    (timed : start.HoldsTimed slot.key)
    (held : ∀ turn ∈ start.turns calls, turn.after.HoldsTimed slot.key)
    (heard : ∀ turn ∈ start.turns calls, turn.call = .tick → turn.before.muted = false) :
    Marked slot.key slot.pressedAt mark (start.turns calls) := by
  -- Forward, because each turn moves the mark that the next one is read by.
  induction calls generalizing start slot mark with
  | nil =>
      intro sofar turn initial
      simp [turns] at initial
  | cons moment rest ih =>
      obtain ⟨now, call⟩ := moment
      simp only [turns, List.forall_mem_cons] at held heard
      let first : Turn := ⟨start, now, call⟩
      obtain ⟨told, next, placeNext, sameKey, since, raisedNext⟩ :=
        HoldsTimed.retimed (timed : first.before.HoldsTimed slot.key) held.1 sound place valid raised heard.1
      have later := ih (sound.answer now call) placeNext (Mark.valid_pass valid timed.valid) raisedNext
        (sameKey ▸ held.1) (sameKey ▸ held.2) heard.2
      intro sofar turn initial
      simp only [turns] at initial
      cases sofar with
      | nil =>
          obtain ⟨rfl, -⟩ := List.cons_prefix_cons.mp initial
          exact told
      | cons head sofar =>
          rw [List.cons_append, List.cons_prefix_cons] at initial
          obtain ⟨rfl, initial⟩ := initial
          have reported := later sofar turn initial
          rw [sameKey, since] at reported
          exact reported

section Marked

variable {key : Key} {timing : Timing} {instant : UInt32} {turns : List Turn} {turn : Turn} {mark : Mark}

theorem Mark.told?_eq_some_iff {tier : Tier} : mark.told? instant turn = some tier ↔
    turn.call = .tick ∧ mark.level < mark.timing.level (elapsed turn.now instant) ∧
      turn.before.timing.tier? (elapsed turn.now instant) = some tier := by
  simp only [told?, tier?]
  split_ifs <;> simp [*]

theorem Turn.reverts_iff : turn.Reverts mark instant ↔
    ∃ tier, mark.told? instant turn = some tier ∧ tier.rank ≤ mark.level := by
  simp only [Reverts, Mark.told?_eq_some_iff]
  grind

theorem Mark.level_after : (Mark.after key timing turns).level =
    (tiersOf key (turns.flatMap Turn.events)).getLast?.elim 0 Tier.rank := by
  induction turns using List.reverseRecOn with
  | nil => rfl
  | append_singleton turns turn ih =>
      rw [List.flatMap_append, tiersOf_append, List.getLast?_append]
      simp only [after, List.foldl_append, List.foldl_cons, List.foldl_nil, List.flatMap_singleton] at ih ⊢
      rw [pass]
      cases (tiersOf key turn.events).getLast? with
      | none => exact ih
      | some tier => rfl

/-- What is said of every initial part of a list with one more item is said of the list and of all its
own initial parts. -/
theorem forall_prefix_concat_iff {α : Type} {items : List α} {last : α} {holds : List α → α → Prop} :
    (∀ sofar item, sofar ++ [item] <+: items ++ [last] → holds sofar item) ↔
      (∀ sofar item, sofar ++ [item] <+: items → holds sofar item) ∧ holds items last := by
  simp only [List.prefix_concat_iff]
  constructor
  · exact fun each => ⟨fun sofar item initial => each sofar item (.inr initial),
      each items last (.inl rfl)⟩
  · rintro ⟨each, whole⟩ sofar item (same | initial)
    · obtain ⟨rfl, rfl⟩ := List.concat_inj.mp (by simpa using same)
      exact whole
    · exact each sofar item initial

theorem getLast?_of_mem {α : Type} {items : List α} {item : α} (member : item ∈ items)
    (last : item ∉ items.dropLast) : items.getLast? = some item := by
  rcases items.eq_nil_or_concat with rfl | ⟨front, final, rfl⟩
  · contradiction
  · rw [List.concat_eq_append, List.dropLast_concat] at last
    have same : item = final := by simpa [last] using member
    rw [List.concat_eq_append, List.getLast?_concat, same]

namespace Marked

theorem of_concat (marked : Marked key instant ⟨timing, 0⟩ (turns ++ [turn])) :
    Marked key instant ⟨timing, 0⟩ turns ∧
      tiersOf key turn.events = ((Mark.after key timing turns).told? instant turn).toList :=
  forall_prefix_concat_iff.mp marked

theorem ascending_iff (marked : Marked key instant ⟨timing, 0⟩ turns) :
    (tiersOf key (turns.flatMap Turn.events)).Pairwise (fun lower higher => lower.rank < higher.rank) ↔
      ∀ sofar turn, sofar ++ [turn] <+: turns → ¬ turn.Reverts (Mark.after key timing sofar) instant := by
  induction turns using List.reverseRecOn with
  | nil => simp [tiersOf, gesturesOf, eventsNaming]
  | append_singleton turns turn ih =>
      obtain ⟨before, told⟩ := marked.of_concat
      rw [forall_prefix_concat_iff, ← ih before, List.flatMap_append, tiersOf_append,
        List.flatMap_singleton, told, List.pairwise_append, Turn.reverts_iff]
      refine and_congr_right fun ascending => ?_
      have climb : Climb (Mark.after key timing turns).level
          (tiersOf key (turns.flatMap Turn.events)) := ⟨ascending, Mark.level_after.symm⟩
      cases (Mark.after key timing turns).told? instant turn with
      | none => simp
      | some tier => simpa using climb.forall_rank_lt_iff tier.rank_pos

theorem not_mem_dropLast (marked : Marked key instant ⟨timing, 0⟩ turns) :
    .veryVeryLong ∉ (tiersOf key (turns.flatMap Turn.events)).dropLast := by
  induction turns using List.reverseRecOn with
  | nil => simp [tiersOf, gesturesOf, eventsNaming]
  | append_singleton turns turn ih =>
      obtain ⟨before, reported⟩ := marked.of_concat
      rw [List.flatMap_append, tiersOf_append, List.flatMap_singleton, reported]
      cases told : (Mark.after key timing turns).told? instant turn with
      | none => simpa using ih before
      | some tier =>
          obtain ⟨_, due, _⟩ := Mark.told?_eq_some_iff.mp told
          rw [Option.toList_some, List.dropLast_concat]
          intro member
          have last := getLast?_of_mem member (ih before)
          have top : (Mark.after key timing turns).level = _ := Mark.level_after
          rw [last] at top
          have few := (Mark.after key timing turns).timing.level_le (elapsed turn.now instant)
          simp only [Option.elim_some, Tier.rank] at top
          omega

end Marked

theorem Turn.not_reverts_of_lowers (lowers : turn.before.timing.Lowers mark.timing) :
    ¬ turn.Reverts mark instant := by
  rintro ⟨_, due, tier, found, lower⟩
  have reached := lowers.level_le (elapsed turn.now instant)
  have named := Timing.level_le_rank found
  omega

end Marked

/-- While no threshold rises, none is ever higher than at the mark. -/
theorem Recognizer.lowers_through {start : Recognizer} {calls : List (UInt32 × Call)} {key : Key}
    {mark : Mark} (lowers : start.timing.Lowers mark.timing)
    (falling : ∀ turn ∈ start.turns calls, turn.after.timing.Lowers turn.before.timing) :
    ∀ sofar turn, sofar ++ [turn] <+: start.turns calls →
      turn.before.timing.Lowers (sofar.foldl (Mark.pass key) mark).timing := by
  induction calls generalizing start mark with
  | nil =>
      intro sofar turn initial
      simp [turns] at initial
  | cons moment rest ih =>
      obtain ⟨now, call⟩ := moment
      simp only [turns, List.forall_mem_cons] at falling
      intro sofar turn initial
      simp only [turns] at initial
      cases sofar with
      | nil =>
          obtain ⟨rfl, -⟩ := List.cons_prefix_cons.mp initial
          exact lowers
      | cons head sofar =>
          rw [List.cons_append, List.cons_prefix_cons] at initial
          obtain ⟨rfl, initial⟩ := initial
          refine ih ?_ falling.2 sofar turn initial
          rw [Mark.pass]
          cases (tiersOf key (Turn.events ⟨start, now, call⟩)).getLast? with
          | none => exact falling.1.trans lowers
          | some tier => exact falling.1

open Recognizer

/-- A key is pressed and held without a chord, under valid timings that may change at any time, and each
tick meanwhile is heard. Then each turn reports of the key exactly what the mark says that the turns before
it have left: a tick past the threshold that was next when a tier was last reported, or at the press,
reports the tier that the hold has reached by the timing now in force. So each tier is reported at most
once and they ascend, exactly if no tick reverts. After the last tier nothing more is reported, and while
no change raises a threshold no tick reverts. -/
theorem tiers_ascend_iff_no_tick_reverts {key : Key} {backdate : UInt32} {calls : List (UInt32 × Call)}
    {earlier holding : List Turn} {pressing : Turn}
    (split : turns {} calls = earlier ++ pressing :: holding)
    (hold : Hold key backdate pressing holding)
    (valid : ∀ turn ∈ pressing :: holding, turn.after.timing.Valid)
    (unchorded : ∀ turn ∈ pressing :: holding, turn.after.chord.stage = .inactive)
    (heard : ∀ turn ∈ holding, turn.call = .tick → turn.before.muted = false) :
    let instant := pressing.now - backdate
    let mark := Mark.after key pressing.after.timing
    let told := tiersOf key (holding.flatMap Turn.events)
    (∀ sofar turn, sofar ++ [turn] <+: holding →
        tiersOf key turn.events = ((mark sofar).told? instant turn).toList) ∧
      (told.Pairwise (fun lower higher => lower.rank < higher.rank) ↔
        ∀ sofar turn, sofar ++ [turn] <+: holding → ¬ turn.Reverts (mark sofar) instant) ∧
      .veryVeryLong ∉ told.dropLast ∧
      ((∀ turn ∈ holding, turn.after.timing.Lowers turn.before.timing) →
        told.Pairwise fun lower higher => lower.rank < higher.rank) := by
  intro instant mark told
  obtain ⟨slot, index, place, rfl, sameTiming⟩ := hold.place_before
  obtain ⟨first, second, rfl, _, tail⟩ := exists_of_turns_eq_append split
  obtain ⟨starts, inside, rfl, insideTurns⟩ := exists_of_turns_eq_cons tail
  have soundBefore : pressing.before.Sound := starts ▸ sound_fresh.run first
  have soundPressed : pressing.after.Sound := soundBefore.answer pressing.now pressing.call
  obtain ⟨placePressed, _⟩ := hold.place_pressed soundBefore place rfl
  have timed : ∀ turn ∈ pressing :: holding, turn.after.HoldsTimed slot.key :=
    fun turn member => ⟨valid turn member, unchorded turn member, hold.down turn member⟩
  have pressed : (slot.press pressing.before.timing instant).Raised pressing.after.timing 0 := by
    rw [sameTiming]
    exact .fresh rfl rfl
  have marked : Marked slot.key instant ⟨pressing.after.timing, 0⟩ holding := by
    rw [← insideTurns] at timed heard ⊢
    exact marked_through soundPressed placePressed (timed pressing (by simp)).valid pressed
      (timed pressing (by simp)) (fun turn member => timed turn (List.mem_cons_of_mem _ member)) heard
  refine ⟨marked, marked.ascending_iff, marked.not_mem_dropLast, fun falling => ?_⟩
  refine marked.ascending_iff.mpr fun sofar turn initial => ?_
  rw [← insideTurns] at falling initial
  exact Turn.not_reverts_of_lowers
    (lowers_through (.refl pressing.after.timing) falling sofar turn initial)

/-- The thresholds are lowered while the hold is reported as long. The slot goes on waiting for the old
threshold of the second tier, and by then the hold has reached the last one. -/
theorem tiers_ascend_past_lowered_thresholds :
    let key : Key := ⟨1, .io⟩
    let before : List (UInt32 × Call) := [(0, .register key 5)]
    let later : List (UInt32 × Call) := [(1500, .tick),
      (1600, .setTiming { long := 1000, veryLong := 2000, veryVeryLong := 3000 }), (3000, .tick), (4000, .tick)]
    let pressing : Turn := ⟨run {} before, 0, .press 5 0⟩
    let holding := pressing.after.turns later
    (turns {} (before ++ (0, .press 5 0) :: later) = turns {} before ++ pressing :: holding ∧
        Hold key 0 pressing holding ∧ (∀ turn ∈ pressing :: holding, turn.after.timing.Valid) ∧
        (∀ turn ∈ pressing :: holding, turn.after.chord.stage = .inactive) ∧
        (∀ turn ∈ holding, turn.call = .tick → turn.before.muted = false)) ∧
      tiersOf key (holding.flatMap Turn.events) = [.long, .veryVeryLong] ∧
      (tiersOf key (holding.flatMap Turn.events)).Pairwise fun lower higher => lower.rank < higher.rank := by
  intro key before later pressing holding
  have split : turns {} (before ++ (0, .press 5 0) :: later) = turns {} before ++ pressing :: holding := by
    decide
  have hold : Hold key 0 pressing holding := ⟨⟨5, rfl⟩, by decide, by decide⟩
  have valid : ∀ turn ∈ pressing :: holding, turn.after.timing.Valid := by decide
  have unchorded : ∀ turn ∈ pressing :: holding, turn.after.chord.stage = .inactive := by decide
  have heard : ∀ turn ∈ holding, turn.call = .tick → turn.before.muted = false := by decide
  obtain ⟨_, _, _, ascending⟩ := tiers_ascend_iff_no_tick_reverts split hold valid unchorded heard
  have falling : ∀ turn ∈ holding, turn.after.timing.Lowers turn.before.timing := by
    have lower : ∀ turn ∈ holding, turn.after.timing.long ≤ turn.before.timing.long ∧
        turn.after.timing.veryLong ≤ turn.before.timing.veryLong ∧
        turn.after.timing.veryVeryLong ≤ turn.before.timing.veryVeryLong := by decide
    intro turn member
    obtain ⟨long, veryLong, veryVeryLong⟩ := lower turn member
    exact ⟨long, veryLong, veryVeryLong⟩
  exact ⟨⟨split, hold, valid, unchorded, heard⟩, by decide, ascending falling⟩

/-- The thresholds are raised while the hold is reported as long. At the old threshold of the second tier
the slot looks again, and finds the hold long once more. -/
theorem raised_thresholds_repeat_tier :
    let key : Key := ⟨1, .io⟩
    let before : List (UInt32 × Call) := [(0, .register key 5)]
    let later : List (UInt32 × Call) := [(1500, .tick),
      (1500, .setTiming { long := 5000, veryLong := 6000, repeatStart := 20000 }), (5000, .tick)]
    let pressing : Turn := ⟨run {} before, 0, .press 5 0⟩
    let holding := pressing.after.turns later
    turns {} (before ++ (0, .press 5 0) :: later) = turns {} before ++ pressing :: holding ∧
      Hold key 0 pressing holding ∧ (∀ turn ∈ pressing :: holding, turn.after.timing.Valid) ∧
      (∀ turn ∈ pressing :: holding, turn.after.chord.stage = .inactive) ∧
      (∀ turn ∈ holding, turn.before.muted = false) ∧
      (holding.filter fun turn => turn.call = .tick).Pairwise
        (fun first second => elapsed first.now 0 ≤ elapsed second.now 0) ∧
      tiersOf key (holding.flatMap Turn.events) = [.long, .long] := by
  intro key before later pressing holding
  have hold : Hold key 0 pressing holding := ⟨⟨5, rfl⟩, by decide, by decide⟩
  exact ⟨by decide, hold, by decide, by decide, by decide, by decide, by decide⟩

end KeyGesture
