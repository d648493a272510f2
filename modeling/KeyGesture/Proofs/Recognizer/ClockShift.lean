import KeyGesture.Proofs.Recognizer.Invariant
import KeyGesture.Proofs.Recognizer.SlotPairs

namespace KeyGesture

/-! Only differences of clock readings count. Two runs of the same calls, one with every reading moved by
a constant, agree on all they reply and report. Their slots agree up to the constant on the timestamps
that are in use; the start of the hold is in use only while the key is down, and what is left of it
afterwards need not agree. -/

namespace Slot

variable {shift : UInt32} {slot moved : Slot}

structure Shifted (shift : UInt32) (slot moved : Slot) : Prop where
  key : moved.key = slot.key
  channel : moved.channel = slot.channel
  phase : moved.phase = slot.phase
  taps : moved.taps = slot.taps
  nextHold : moved.nextHold = slot.nextHold
  repeatedAt : moved.repeatedAt = slot.repeatedAt.map (· + shift)
  releasedAt : moved.releasedAt = slot.releasedAt.map (· + shift)
  pressedAt : slot.isDown = true → moved.pressedAt = slot.pressedAt + shift

namespace Shifted

theorem isDown (shifted : Shifted shift slot moved) : moved.isDown = slot.isDown := by
  simp only [Slot.isDown, shifted.phase]

theorem hold (shifted : Shifted shift slot moved) (down : slot.isDown = true) (now : UInt32) :
    moved.hold (now + shift) = slot.hold now := by
  simp only [Slot.hold, shifted.pressedAt down, elapsed_add_right]

theorem fresh (key : Key) (channel : Nat) :
    Shifted shift (Slot.fresh key channel) (Slot.fresh key channel) :=
  ⟨rfl, rfl, rfl, rfl, rfl, rfl, rfl, by simp⟩

theorem rebind (shifted : Shifted shift slot moved) (channel : Nat) :
    Shifted shift { slot with channel } { moved with channel } :=
  { shifted with channel := rfl }

theorem press (shifted : Shifted shift slot moved) (timing : Timing) (instant : UInt32) :
    Shifted shift (slot.press timing instant) (moved.press timing (instant + shift)) :=
  ⟨shifted.key, shifted.channel, rfl, shifted.taps, rfl, shifted.repeatedAt, rfl, fun _ => rfl⟩

theorem rebase (shifted : Shifted shift slot moved) (timing : Timing) (instant : UInt32) :
    Shifted shift (slot.rebase timing instant) (moved.rebase timing (instant + shift)) := by
  unfold Slot.rebase
  by_cases idle : slot.phase = .idle
  · rw [if_pos idle, if_pos (shifted.phase.trans idle)]
    exact shifted
  · rw [if_neg idle, if_neg (by rw [shifted.phase]; exact idle)]
    exact ⟨shifted.key, shifted.channel, shifted.phase, shifted.taps, rfl, shifted.repeatedAt,
      shifted.releasedAt, fun _ => rfl⟩

theorem lift (shifted : Shifted shift slot moved) (now : UInt32) (gesture : Gesture) :
    Shifted shift (slot.lift now gesture) (moved.lift (now + shift) gesture) := by
  refine ⟨shifted.key, shifted.channel, rfl, ?_, shifted.nextHold, rfl, rfl, by simp⟩
  simp only [Slot.lift, shifted.taps]

theorem escalation? (shifted : Shifted shift slot moved) (timing : Timing) (now : UInt32) :
    moved.escalation? timing (now + shift) = slot.escalation? timing now := by
  by_cases pressed : slot.phase = .pressed
  · have down : slot.isDown = true := isDown_iff.mpr (.inl pressed)
    simp only [Slot.escalation?, shifted.phase, shifted.nextHold, shifted.hold down]
  · simp only [Slot.escalation?, shifted.phase, pressed, false_and, if_false]

theorem raise (shifted : Shifted shift slot moved) (timing : Timing) (tier : Tier)
    (pressed : slot.phase = .pressed) :
    Shifted shift (slot.raise timing tier) (moved.raise timing tier) := by
  have down : slot.isDown = true := isDown_iff.mpr (.inl pressed)
  have start := shifted.pressedAt down
  cases tier with
  | long =>
      exact ⟨shifted.key, shifted.channel, shifted.phase, rfl, rfl, shifted.repeatedAt,
        shifted.releasedAt, fun _ => start⟩
  | veryLong =>
      exact ⟨shifted.key, shifted.channel, shifted.phase, rfl, rfl, shifted.repeatedAt,
        shifted.releasedAt, fun _ => start⟩
  | veryVeryLong =>
      exact ⟨shifted.key, shifted.channel, rfl, rfl, shifted.nextHold, shifted.repeatedAt,
        shifted.releasedAt, fun _ => start⟩

theorem escalate (shifted : Shifted shift slot moved) (timing : Timing) (now : UInt32) :
    Shifted shift (slot.escalate timing now) (moved.escalate timing (now + shift)) := by
  unfold Slot.escalate
  rw [shifted.escalation? timing now]
  cases escalates : slot.escalation? timing now with
  | none => exact shifted
  | some tier => exact shifted.raise timing tier (phase_pressed_of_escalation? escalates)

theorem repeats (shifted : Shifted shift slot moved) (down : slot.isDown = true) (timing : Timing)
    (now : UInt32) : moved.repeats timing (now + shift) = slot.repeats timing now := by
  simp only [Slot.repeats, shifted.hold down, shifted.repeatedAt, Option.any_map]
  congr 2
  funext last
  simp only [elapsed_add_right]

theorem advanceRepeat (shifted : Shifted shift slot moved) (down : slot.isDown = true)
    (timing : Timing) (now : UInt32) :
    Shifted shift (slot.advanceRepeat timing now) (moved.advanceRepeat timing (now + shift)) := by
  unfold Slot.advanceRepeat
  rw [shifted.hold down, shifted.repeats down, shifted.repeatedAt]
  simp only [Option.map_eq_none_iff]
  split
  · exact { shifted with repeatedAt := rfl }
  · exact shifted

theorem windowOver (shifted : Shifted shift slot moved) (timing : Timing) (now : UInt32) :
    moved.windowOver timing (now + shift) = slot.windowOver timing now := by
  simp only [Slot.windowOver, shifted.releasedAt, Option.any_map]
  congr 1
  funext released
  simp only [elapsed_add_right]

theorem rest (shifted : Shifted shift slot moved) : Shifted shift slot.rest moved.rest :=
  ⟨shifted.key, shifted.channel, rfl, rfl, shifted.nextHold, shifted.repeatedAt, rfl, by simp⟩

theorem tick (shifted : Shifted shift slot moved) (timing : Timing) (now : UInt32) :
    Shifted shift (slot.tick timing now) (moved.tick timing (now + shift)) := by
  rcases slot.idle_or_isDown_or_lifted with idle | down | lifted
  · rw [tick_of_idle now idle, tick_of_idle _ (shifted.phase.trans idle)]
    exact shifted
  · rw [tick_of_isDown now down, tick_of_isDown _ (shifted.isDown.trans down)]
    exact (shifted.escalate timing now).advanceRepeat (by rwa [isDown_escalate]) timing now
  · rw [tick_of_lifted now lifted, tick_of_lifted _ (shifted.phase.trans lifted),
      shifted.windowOver timing now]
    split
    · exact shifted.rest
    · exact shifted

theorem found (shifted : Shifted shift slot moved) (timing : Timing) (now : UInt32) :
    moved.found timing (now + shift) = slot.found timing now := by
  unfold Slot.found
  rw [shifted.phase]
  cases phase : slot.phase with
  | idle => rfl
  | pressed =>
      have down : slot.isDown = true := isDown_iff.mpr (.inl phase)
      simp only [shifted.escalation?, shifted.repeats down]
  | parked =>
      have down : slot.isDown = true := isDown_iff.mpr (.inr phase)
      simp only [shifted.escalation?, shifted.repeats down]
  | lifted => simp only [shifted.windowOver, shifted.taps]

theorem pairing (shift : UInt32) : Pairing (Shifted shift) :=
  ⟨fun shifted => shifted.key, fun shifted => shifted.channel, fresh, rebind⟩

end Shifted

end Slot

namespace Recognizer

variable {shift : UInt32} {recognizer moved : Recognizer}

structure Shifted (shift : UInt32) (recognizer moved : Recognizer) : Prop where
  timing : moved.timing = recognizer.timing
  chord : moved.chord = recognizer.chord
  muted : moved.muted = recognizer.muted
  slots : List.Forall₂ (Slot.Shifted shift) recognizer.slots moved.slots

namespace Shifted

theorem empty : Shifted shift {} {} :=
  ⟨rfl, rfl, rfl, .nil⟩

theorem register (shifted : Shifted shift recognizer moved) (key : Key) (channel : Nat) :
    (∃ number registered other, recognizer.register key channel = .ok (number, registered) ∧
        moved.register key channel = .ok (number, other) ∧ Shifted shift registered other) ∨
      ∃ cause, recognizer.register key channel = .error cause ∧
        moved.register key channel = .error cause := by
  rcases (Slot.Shifted.pairing shift).register shifted.slots key channel with
    ⟨number, slots, others, accepted, acceptedMoved, related⟩ | refused
  · exact .inl ⟨number, _, _, accepted, acceptedMoved, shifted.timing, shifted.chord, shifted.muted, related⟩
  · exact .inr refused

theorem acceptPress (shifted : Shifted shift recognizer moved) (slot other : Slot)
    (related : Slot.Shifted shift slot other) (index : Nat) (instant : UInt32) :
    (moved.acceptPress other index (instant + shift)).events =
        (recognizer.acceptPress slot index instant).events ∧
      Shifted shift (recognizer.acceptPress slot index instant).value
        (moved.acceptPress other index (instant + shift)).value := by
  refine ⟨?_, shifted.timing, ?_, shifted.muted, ?_⟩
  · simp only [Recognizer.acceptPress, shifted.chord, related.key]
  · simp only [Recognizer.acceptPress, shifted.chord]
  · rw [slots_acceptPress, slots_acceptPress, shifted.chord, shifted.timing]
    apply forall₂_mapIdx shifted.slots
    intro position old otherOld _ _ relatedOld
    split
    · exact relatedOld.press _ instant
    · split
      · exact relatedOld.rebase _ instant
      · exact relatedOld

theorem memberKeys (shifted : Shifted shift recognizer moved) :
    moved.memberKeys = recognizer.memberKeys := by
  have keys : moved.slots.map Slot.key = recognizer.slots.map Slot.key :=
    map_eq_of_forall₂ shifted.slots fun _ _ related => related.key
  simp only [Recognizer.memberKeys, shifted.chord, ← List.getElem?_map, keys]

theorem chordEvent (shifted : Shifted shift recognizer moved) :
    moved.chordEvent = recognizer.chordEvent := by
  funext gesture
  simp only [Recognizer.chordEvent, shifted.memberKeys]

theorem acceptRelease (shifted : Shifted shift recognizer moved) (slot other : Slot)
    (related : Slot.Shifted shift slot other) (down : slot.isDown = true) (index : Nat)
    (now : UInt32) :
    (moved.acceptRelease other index (now + shift)).events =
        (recognizer.acceptRelease slot index now).events ∧
      Shifted shift (recognizer.acceptRelease slot index now).value
        (moved.acceptRelease other index (now + shift)).value := by
  have gesture : moved.timing.releaseGesture (other.hold (now + shift)) =
      recognizer.timing.releaseGesture (slot.hold now) := by
    rw [shifted.timing, related.hold down]
  have released : Shifted shift (recognizer.acceptRelease slot index now).value
      (moved.acceptRelease other index (now + shift)).value := by
    refine ⟨shifted.timing, ?_, shifted.muted, ?_⟩
    · simp only [Recognizer.acceptRelease, shifted.chord, gesture]
    · rw [slots_acceptRelease, slots_acceptRelease, gesture]
      apply forall₂_mapIdx shifted.slots
      intro position old otherOld _ _ relatedOld
      split
      · exact relatedOld.lift now _
      · exact relatedOld
  refine ⟨?_, released⟩
  have event := released.chordEvent
  simp only [Recognizer.acceptRelease] at event ⊢
  rw [event, gesture, shifted.chord, related.key]

theorem allIdle (shifted : Shifted shift recognizer moved) : moved.allIdle = recognizer.allIdle := by
  have phases : moved.slots.map Slot.phase = recognizer.slots.map Slot.phase :=
    map_eq_of_forall₂ shifted.slots fun _ _ related => related.phase
  have idle := congrArg (List.all · (· == .idle)) phases
  rw [List.all_map, List.all_map] at idle
  exact idle

theorem wrapUp (shifted : Shifted shift recognizer moved) :
    moved.wrapUp.1 = recognizer.wrapUp.1 ∧ Shifted shift recognizer.wrapUp.2 moved.wrapUp.2 := by
  unfold Recognizer.wrapUp
  rw [shifted.allIdle, shifted.chord]
  split
  · refine ⟨rfl, ?_⟩
    dsimp only
    split
    · exact shifted
    · exact { shifted with chord := rfl }
  · exact ⟨rfl, shifted⟩

theorem escalations (shifted : Shifted shift recognizer moved) (now : UInt32) :
    moved.escalations (now + shift) = recognizer.escalations now := by
  have tiers : moved.slots.map (fun slot => slot.escalation? moved.timing (now + shift)) =
      recognizer.slots.map (fun slot => slot.escalation? recognizer.timing now) := by
    rw [shifted.timing]
    exact map_eq_of_forall₂ shifted.slots fun _ _ related => related.escalation? _ now
  have numbered := congrArg (fun tiers => tiers.zipIdx.filterMap fun entry =>
    entry.1.map fun tier => (entry.2, Gesture.held tier)) tiers
  simp only [List.zipIdx_map, List.filterMap_map] at numbered
  exact numbered

theorem singleFindings (shifted : Shifted shift recognizer moved) (now : UInt32) :
    moved.singleFindings (now + shift) = recognizer.singleFindings now := by
  have findings : moved.slots.map (fun slot =>
        (slot.found moved.timing (now + shift)).map fun gesture => Event.single slot.key gesture) =
      recognizer.slots.map (fun slot =>
        (slot.found recognizer.timing now).map fun gesture => Event.single slot.key gesture) := by
    rw [shifted.timing]
    exact map_eq_of_forall₂ shifted.slots fun _ _ related => by
      rw [related.found, related.key]
  rw [Recognizer.singleFindings, Recognizer.singleFindings, List.flatMap_def, List.flatMap_def,
    findings]

theorem advance (shifted : Shifted shift recognizer moved) (now : UInt32) :
    Shifted shift (recognizer.advance now) (moved.advance (now + shift)) := by
  refine ⟨shifted.timing, ?_, shifted.muted, ?_⟩
  · simp only [Recognizer.advance, shifted.chord, shifted.escalations now]
  · simp only [Recognizer.advance, shifted.timing]
    rw [List.forall₂_map_left_iff, List.forall₂_map_right_iff]
    exact shifted.slots.imp fun _ _ related => related.tick _ now

theorem tickEvents (shifted : Shifted shift recognizer moved) (now : UInt32) :
    moved.tickEvents (now + shift) = recognizer.tickEvents now := by
  have advanced := shifted.advance now
  unfold Recognizer.tickEvents
  rw [shifted.chord]
  split
  · exact shifted.singleFindings now
  · simp only [advanced.chord, advanced.chordEvent]
  · rfl

theorem report_agrees {α : Type} (shifted : Shifted shift recognizer moved)
    {outcome other : Outcome α} (events : other.events = outcome.events) :
    (moved.report other).events = (recognizer.report outcome).events := by
  unfold Recognizer.report
  rw [shifted.muted]
  split
  · rfl
  · exact events

theorem tick (shifted : Shifted shift recognizer moved) (now : UInt32) :
    (moved.tick (now + shift)).events = (recognizer.tick now).events ∧
      (moved.tick (now + shift)).value.1 = (recognizer.tick now).value.1 ∧
      Shifted shift (recognizer.tick now).value.2 (moved.tick (now + shift)).value.2 := by
  have wrapped := (shifted.advance now).wrapUp
  refine ⟨shifted.report_agrees (shifted.tickEvents now), ?_, ?_⟩
  · simpa only [Recognizer.tick, value_report] using wrapped.1
  · simpa only [Recognizer.tick, value_report] using wrapped.2

theorem ignoreRefused (shifted : Shifted shift recognizer moved) {outcome other : Outcome Recognizer}
    (agree : other.events = outcome.events ∧ Shifted shift outcome.value other.value) :
    (moved.ignoreRefused (.ok other)).events = (recognizer.ignoreRefused (.ok outcome)).events ∧
      Shifted shift (recognizer.ignoreRefused (.ok outcome)).value
        (moved.ignoreRefused (.ok other)).value :=
  ⟨shifted.report_agrees agree.1, by simpa only [Recognizer.ignoreRefused, value_report] using agree.2⟩

theorem press (shifted : Shifted shift recognizer moved) (now : UInt32) (channel : Nat)
    (backdate : UInt32) :
    (moved.press (now + shift) channel backdate).events =
        (recognizer.press now channel backdate).events ∧
      Shifted shift (recognizer.press now channel backdate).value
        (moved.press (now + shift) channel backdate).value := by
  have instant : now + shift - backdate = now - backdate + shift := by
    simp only [UInt32.sub_eq_add_neg]
    ac_rfl
  unfold Recognizer.press press?
  cases found : recognizer.atChannel? channel with
  | none =>
      simp only [(Slot.Shifted.pairing shift).atChannel?_eq_none shifted.slots found]
      exact ⟨rfl, shifted⟩
  | some entry =>
      obtain ⟨slot, index⟩ := entry
      obtain ⟨other, foundMoved, related⟩ :=
        (Slot.Shifted.pairing shift).atChannel?_eq_some shifted.slots found
      simp only [foundMoved, shifted.chord, instant]
      split
      · exact ⟨rfl, shifted⟩
      · exact shifted.ignoreRefused (shifted.acceptPress slot other related index _)

/-- A release reads the start of the hold, but only of a key that is down. -/
theorem release (shifted : Shifted shift recognizer moved) (sound : recognizer.Sound) (now : UInt32)
    (channel : Nat) :
    (moved.release (now + shift) channel).events = (recognizer.release now channel).events ∧
      Shifted shift (recognizer.release now channel).value
        (moved.release (now + shift) channel).value := by
  unfold Recognizer.release release?
  cases found : recognizer.atChannel? channel with
  | none =>
      simp only [(Slot.Shifted.pairing shift).atChannel?_eq_none shifted.slots found]
      exact ⟨rfl, shifted⟩
  | some entry =>
      obtain ⟨slot, index⟩ := entry
      obtain ⟨other, foundMoved, related⟩ :=
        (Slot.Shifted.pairing shift).atChannel?_eq_some shifted.slots found
      have place := (atChannel?_eq_some found).1
      simp only [foundMoved, shifted.chord]
      split
      · rename_i marked
        have down : slot.isDown = true := (sound.contains_eq place).symm.trans marked
        exact shifted.ignoreRefused (shifted.acceptRelease slot other related down index now)
      · exact ⟨rfl, shifted⟩

theorem answer (shifted : Shifted shift recognizer moved) (sound : recognizer.Sound) (now : UInt32)
    (call : Call) :
    (moved.answer (now + shift) call).value.1 = (recognizer.answer now call).value.1 ∧
      (moved.answer (now + shift) call).events = (recognizer.answer now call).events ∧
      Shifted shift (recognizer.answer now call).value.2
        (moved.answer (now + shift) call).value.2 := by
  cases call with
  | register key channel =>
      simp only [Recognizer.answer]
      rcases shifted.register key channel with
        ⟨number, registered, other, accepted, acceptedMoved, related⟩ | ⟨cause, refused, refusedMoved⟩
      · simp only [accepted, acceptedMoved]
        exact ⟨rfl, rfl, related⟩
      · simp only [refused, refusedMoved]
        exact ⟨rfl, rfl, shifted⟩
  | setTiming timing => exact ⟨rfl, rfl, { shifted with timing := rfl }⟩
  | press channel backdate =>
      obtain ⟨events, pressed⟩ := shifted.press now channel backdate
      exact ⟨rfl, events, pressed⟩
  | release channel =>
      obtain ⟨events, released⟩ := shifted.release sound now channel
      exact ⟨rfl, events, released⟩
  | tick =>
      obtain ⟨events, found, ticked⟩ := shifted.tick now
      exact ⟨congrArg Reply.activity found, events, ticked⟩
  | mute => exact ⟨rfl, rfl, { shifted with muted := rfl }⟩
  | resume => exact ⟨rfl, rfl, { shifted with muted := rfl }⟩

end Shifted

/-- The readings of the clock at which the calls of a script are made: each comes some milliseconds after
the one before, the first after `clock`. -/
def stamp (clock : UInt32) : List (Nat × Call) → List (UInt32 × Call)
  | [] => []
  | (ahead, call) :: rest =>
      let now := clock + UInt32.ofNat ahead
      (now, call) :: stamp now rest

/-- Two turns that reply and report the same and leave the same but for the readings of the clock. -/
structure TurnsAgree (shift : UInt32) (turn moved : Turn) : Prop where
  call : moved.call = turn.call
  reply : moved.reply = turn.reply
  events : moved.events = turn.events
  after : Shifted shift turn.after moved.after

theorem Shifted.turns (shifted : Shifted shift recognizer moved) (sound : recognizer.Sound)
    (clock : UInt32) (script : List (Nat × Call)) :
    List.Forall₂ (TurnsAgree shift) (recognizer.turns (stamp clock script))
      (moved.turns (stamp (clock + shift) script)) := by
  induction script generalizing recognizer moved clock with
  | nil => exact .nil
  | cons cue rest ih =>
      obtain ⟨ahead, call⟩ := cue
      have reading : clock + shift + UInt32.ofNat ahead = clock + UInt32.ofNat ahead + shift := by
        ac_rfl
      obtain ⟨reply, events, after⟩ := shifted.answer sound (clock + UInt32.ofNat ahead) call
      simp only [stamp, Recognizer.turns, reading]
      exact .cons ⟨rfl, reply, events, after⟩ (ih after (sound.answer _ call) _)

/-- Where the clock stands when a script starts makes no difference: it may start again at zero anywhere
in the run, and edges may fall on zero. Every call gets the same reply, reports the same events and leaves
the same phases, counts of taps, keys down and stage of the chord, and the holds of the keys that are down
start as much later as the clock does. -/
theorem runs_agree_up_to_clock_start (script : List (Nat × Call)) (clock shift : UInt32) :
    List.Forall₂ (TurnsAgree shift) (turns {} (stamp clock script))
      (turns {} (stamp (clock + shift) script)) :=
  Shifted.empty.turns sound_fresh clock script

end Recognizer

end KeyGesture
