import Mathlib.Data.List.Induction
import KeyGesture.Proofs.Sensor.HeldAtStart
import KeyGesture.Proofs.Sensor.LineMoves

namespace KeyGesture

/-! Lines that are shut down turn presses and ticks away, so nothing starts their ticker and no key goes down,
but for a key that is found held at start: it is let in, and the ticker it starts runs on for good. -/

/-- Hardware that, shut down, has its ticker stopped and leaves every message but one to the recognizer's
releases. -/
structure StopsWhenShutDown (δ : Type) [EdgeSource δ] [SelfReporting δ] : Prop where
  detach : ∀ (source : δ) wakes,
    (SelfReporting.intake (EdgeSource.detach source wakes)).ticker.period = none
  process : ∀ (sensor : Sensor δ) now message, sensor.atIntake.source.isShutDown = true →
    message.isHeldAtStart = false →
      sensor.recognizer.LiftedAt now (sensor.process now message).value.recognizer ∧
        (sensor.process now message).value.atIntake.source = sensor.atIntake.source

namespace DebouncedLines

variable {sensor : Sensor DebouncedLines}

theorem process_pressed_of_isShutDown (retired : sensor.source.isShutDown = true) (now : UInt32)
    (channel : Nat) : sensor.process now (.pressed channel) = .quiet sensor :=
  if_pos retired

theorem process_tick_of_isShutDown (retired : sensor.source.isShutDown = true) (now : UInt32) :
    sensor.process now .tick = .quiet sensor :=
  if_pos retired

theorem stopsWhenShutDown : StopsWhenShutDown DebouncedLines where
  detach lines wakes := by cases wakes <;> rfl
  process sensor now message retired other := by
    have unmoved := Recognizer.LiftedAt.refl now sensor.recognizer
    cases message with
    | heldAtStart channel => contradiction
    | pressed channel =>
        rw [process_pressed_of_isShutDown retired]
        exact ⟨unmoved, rfl⟩
    | released channel => exact ⟨.release _ now channel, rfl⟩
    | tick =>
        rw [process_tick_of_isShutDown retired]
        exact ⟨unmoved, rfl⟩
    | setEnabled enable => exact ⟨unmoved, rfl⟩

end DebouncedLines

namespace GatedLine

variable {sensor : Sensor GatedLine}

theorem process_pressed_of_isShutDown (retired : sensor.source.isShutDown = true) (now : UInt32)
    (channel : Nat) : sensor.process now (.pressed channel) = .quiet sensor :=
  if_pos (.inl retired)

theorem process_tick_of_isShutDown (retired : sensor.source.isShutDown = true) (now : UInt32) :
    sensor.process now .tick = .quiet sensor :=
  if_pos retired

theorem stopsWhenShutDown : StopsWhenShutDown GatedLine where
  detach line wakes := by
    change (detach line wakes).ticker.period = none
    unfold detach
    split <;> rfl
  process sensor now message retired other := by
    have unmoved := Recognizer.LiftedAt.refl now sensor.recognizer
    cases message with
    | heldAtStart channel => contradiction
    | pressed channel =>
        rw [process_pressed_of_isShutDown retired]
        exact ⟨unmoved, rfl⟩
    | released channel =>
        change sensor.recognizer.LiftedAt now (handle sensor now (.released channel)).value.recognizer ∧
          (handle sensor now (.released channel)).value.source.toIntake = _
        rw [handle]
        split
        · exact ⟨.release _ now channel, rfl⟩
        · exact ⟨unmoved, rfl⟩
    | tick =>
        rw [process_tick_of_isShutDown retired]
        exact ⟨unmoved, rfl⟩
    | setEnabled enable =>
        exact ⟨lifted_setEnabled sensor now enable,
          (congrArg GatedLine.toIntake (source_setEnabled sensor now enable)).trans rfl⟩

end GatedLine

namespace Sensor

variable {δ : Type} [EdgeSource δ] [SelfReporting δ] {sensor : Sensor δ}

theorem period_process (stops : StopsWhenShutDown δ) (retired : sensor.atIntake.source.isShutDown = true)
    (now : UInt32) (message : Message) : (sensor.process now message).value.tickPeriod =
      if message.isHeldAtStart then some (sensor.tickPeriod.getD checkPeriod) else sensor.tickPeriod := by
  rw [tickPeriod_eq, tickPeriod_eq]
  cases held : message.isHeldAtStart with
  | false => rw [(stops.process sensor now message retired held).2]; rfl
  | true =>
      cases message with
      | heldAtStart channel =>
          rw [atIntake_process_heldAtStart]
          exact Ticker.period_ensure _ _
      | pressed | released | tick | setEnabled => contradiction

theorem period_processEach (stops : StopsWhenShutDown δ)
    (retired : sensor.atIntake.source.isShutDown = true) (stopped : sensor.tickPeriod = none)
    (messages : List (UInt32 × Message)) : (sensor.processEach messages).tickPeriod =
      if messages.any fun moment => moment.2.isHeldAtStart then some checkPeriod else none := by
  induction messages using List.reverseRecOn with
  | nil => exact stopped
  | append_singleton earlier moment ih =>
      have retiredStill : (sensor.processEach earlier).atIntake.source.isShutDown = true :=
        (sensor.moves_processEach earlier).steps.isShutDown_eq.trans retired
      rw [processEach_concat, period_process stops retiredStill, ih, List.any_append, List.any_cons,
        List.any_nil, Bool.or_false]
      cases earlier.any fun moment => moment.2.isHeldAtStart <;>
        cases moment.2.isHeldAtStart <;> rfl

theorem heedsOnlyHeldAtStart_of_isShutDown (stops : StopsWhenShutDown δ)
    (retired : sensor.atIntake.source.isShutDown = true) (sound : sensor.recognizer.Sound) :
    sensor.HeedsOnlyHeldAtStart :=
  heedsOnlyHeldAtStart sound fun now message other _ down =>
    (stops.process sensor now message retired other).1.isDown_of_isDown sound down

end Sensor

/-- Shut down in whatever state, with reporting ended or not, and whatever messages are processed then: no
message lets a key go down but that it was found held at start, and the ticker runs only if there was such a
message, and then for good. -/
def QuietUnlessHeldAtStart {δ : Type} [EdgeSource δ] [SelfReporting δ] (fresh : Sensor δ) : Prop :=
  ∀ (history : List (UInt32 × Operation δ)) (wakes muted : Bool) (messages : List (UInt32 × Message)),
    let reached := fresh.serve history
    let shut : Sensor δ :=
      { recognizer := { reached.recognizer with muted }
        source := EdgeSource.detach reached.source wakes }
    let later := shut.processEach messages
    later.HeedsOnlyHeldAtStart ∧
      later.tickPeriod =
        if messages.any fun moment => moment.2.isHeldAtStart then some checkPeriod else none

theorem StopsWhenShutDown.quietUnlessHeldAtStart {δ : Type} [EdgeSource δ] [SelfReporting δ] {source : δ}
    (stops : StopsWhenShutDown δ) (stopped : (SelfReporting.intake source).ticker.period = none) :
    QuietUnlessHeldAtStart (Sensor.mk {} source) := by
  intro history wakes muted messages reached shut later
  have attended : reached.atIntake.Attended := (Sensor.Attended.fresh stopped).serve history
  have retired : shut.atIntake.source.isShutDown = true := SelfReporting.detach reached.source wakes
  have sound : shut.recognizer.Sound := by
    cases muted with
    | true => exact attended.sound.mute
    | false => exact attended.sound.resume
  have moves := shut.moves_processEach messages
  have shutAttended : shut.atIntake.Attended :=
    ⟨sound, fun inUse => absurd (retired.symm.trans inUse) (by decide)⟩
  have retiredStill : later.atIntake.source.isShutDown = true := moves.steps.isShutDown_eq.trans retired
  refine ⟨Sensor.heedsOnlyHeldAtStart_of_isShutDown stops retiredStill (shutAttended.moves moves).sound, ?_⟩
  exact Sensor.period_processEach stops retired
    ((Sensor.tickPeriod_eq shut).trans (stops.detach reached.source wakes)) messages

theorem shut_down_lines_heed_only_held_at_start (board : Board) (wokeBy : Option WakeSource) :
    QuietUnlessHeldAtStart (Sensor.mk {} (DebouncedLines.fresh board wokeBy)) ∧
      QuietUnlessHeldAtStart (Sensor.mk {} (GatedLine.fresh board wokeBy)) :=
  ⟨DebouncedLines.stopsWhenShutDown.quietUnlessHeldAtStart rfl,
    GatedLine.stopsWhenShutDown.quietUnlessHeldAtStart rfl⟩

/-- A key that is found held after the shutdown goes down and sets the ticker going, on either kind of line. -/
theorem held_at_start_wakes_shut_down_lines :
    let key : Key := ⟨1, .io⟩
    let lines := (Sensor.mk {} (DebouncedLines.fresh { wiring := [(key, 7)] } none)).serve
      [(0, .start { roster := ⟨[key], by decide⟩ }), (0, .shutDown true)]
    let chip : Key := ⟨2, .external⟩
    let line := (Sensor.mk {} (GatedLine.fresh { wiring := [(chip, 9)] } none)).serve
      [(0, .start { roster := ⟨[chip], by decide⟩ }), (0, .shutDown true)]
    let linesHeld := lines.processEach [(0, .heldAtStart 7)]
    let lineHeld := line.processEach [(0, .heldAtStart 9)]
    (lines.recognizer.isDown key = false ∧ linesHeld.recognizer.isDown key = true ∧
        lines.tickPeriod = none ∧ linesHeld.tickPeriod = some checkPeriod) ∧
      line.recognizer.isDown chip = false ∧ lineHeld.recognizer.isDown chip = true ∧
        line.tickPeriod = none ∧ lineHeld.tickPeriod = some checkPeriod := by
  decide

end KeyGesture
