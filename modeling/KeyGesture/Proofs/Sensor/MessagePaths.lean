import KeyGesture.EdgeSource.PolledPins
import KeyGesture.Proofs.Sensor.TickerUpkeep

namespace KeyGesture

/-! A message can reach hardware in two ways: through the processing of its sensor, which hands messages about
the gate to the gate, and directly. Both come to the same on all hardware but a gated line, which by itself
lets messages about its gate pass. -/

/-- Processing a message is what the hardware makes of it by itself. -/
def PassesOn (δ : Type) [EdgeSource δ] : Prop :=
  ∀ (sensor : Sensor δ) (now : UInt32) (message : Message),
    sensor.process now message = EdgeSource.handle sensor now message

theorem DebouncedLines.passesOn : PassesOn DebouncedLines := by
  intro sensor now message
  cases message with
  | setEnabled enable => rfl
  | heldAtStart | pressed | released | tick => rfl

theorem PolledPins.passesOn : PassesOn PolledPins := by
  intro sensor now message
  cases message with
  | setEnabled enable => rfl
  | heldAtStart | pressed | released | tick => rfl

theorem TouchPads.passesOn : PassesOn TouchPads := by
  intro sensor now message
  cases message with
  | setEnabled enable => rfl
  | heldAtStart | pressed | released | tick => rfl

namespace GatedLine

variable {sensor : Sensor GatedLine}

/-- Whether a message changes something at the gate: it opens a closed gate, or closes an open one, or
closes a closed one over a key that is down on the line's channel. -/
def ActsOn (sensor : Sensor GatedLine) : Message → Prop
  | .setEnabled true => sensor.source.isEnabled = false
  | .setEnabled false => sensor.source.isEnabled = true ∨
      ∃ key, sensor.recognizer.isDown key = true ∧
        sensor.recognizer.channelOf? key = sensor.source.channel?
  | .heldAtStart _ | .pressed _ | .released _ | .tick => False

/-- What a gate that closes does to the recognizer. -/
def releaseLine (sensor : Sensor GatedLine) (now : UInt32) : Outcome Recognizer :=
  match sensor.source.channel? with
  | some channel => sensor.recognizer.release now channel
  | none => .quiet sensor.recognizer

theorem process_closing (sensor : Sensor GatedLine) (now : UInt32) :
    sensor.process now (.setEnabled false) =
      (releaseLine sensor now).map fun recognizer =>
        { recognizer, source := { sensor.source with isEnabled := false } } := by
  change (setEnabled sensor now false).map Attempt.state = _
  unfold setEnabled releaseLine
  cases sensor.source.channel? <;> rfl

theorem releaseLine_eq_quiet_iff (sound : sensor.recognizer.Sound) (now : UInt32) :
    releaseLine sensor now = .quiet sensor.recognizer ↔ ∀ key, sensor.recognizer.isDown key = true →
      sensor.recognizer.channelOf? key ≠ sensor.source.channel? := by
  unfold releaseLine
  cases sensor.source.channel? with
  | some channel => exact sound.release_eq_quiet_iff now channel
  | none =>
      refine iff_of_true rfl fun key down unbound => ?_
      obtain ⟨channel, bound⟩ := sound.exists_binding_of_isDown down
      rw [sound.mem_bindings_iff.mp bound] at unbound
      contradiction

theorem isEnabled_iff (enable : Bool) :
    ({ sensor with source := { sensor.source with isEnabled := enable } } : Sensor GatedLine) = sensor ↔
      sensor.source.isEnabled = enable := by
  constructor
  · exact fun same => (congrArg (fun next : Sensor GatedLine => next.source.isEnabled) same).symm
  · rintro rfl
    rfl

/-- Directly given, a message about the gate does nothing; processed, it does something exactly when the gate
has to act on it. -/
theorem process_eq_handle_iff (sound : sensor.recognizer.Sound) (now : UInt32) (message : Message) :
    sensor.process now message = EdgeSource.handle sensor now message ↔ ¬ ActsOn sensor message := by
  cases message with
  | heldAtStart | pressed | released | tick => exact iff_of_true rfl not_false
  | setEnabled enable =>
      change sensor.process now (.setEnabled enable) = .quiet sensor ↔ _
      cases enable with
      | true =>
          change Outcome.quiet _ = Outcome.quiet sensor ↔ ¬ sensor.source.isEnabled = false
          rw [Bool.not_eq_false, ← isEnabled_iff true]
          exact ⟨congrArg Outcome.value, congrArg Outcome.quiet⟩
      | false =>
          have untouched : ¬ ActsOn sensor (.setEnabled false) ↔ sensor.source.isEnabled = false ∧
              releaseLine sensor now = .quiet sensor.recognizer := by
            rw [releaseLine_eq_quiet_iff sound]
            simp only [ActsOn, not_or, Bool.not_eq_true, not_exists, not_and, ne_eq]
          rw [untouched, process_closing]
          constructor
          · intro unchanged
            have gate := congrArg (fun closed => closed.value.source.isEnabled) unchanged
            have events : (releaseLine sensor now).events = [] := congrArg Outcome.events unchanged
            have recognizer : (releaseLine sensor now).value = sensor.recognizer :=
              congrArg (fun closed => closed.value.recognizer) unchanged
            exact ⟨gate.symm, Outcome.ext recognizer events⟩
          · rintro ⟨gate, released⟩
            rw [released]
            exact congrArg Outcome.quiet ((isEnabled_iff false).mpr gate)

end GatedLine

/-- Processing a message and giving it to the hardware directly leave the same sensor and report the same, in
every state of debounced lines, pads and polled pins. On a gated line, in whatever state operations left it,
they do so exactly for the messages its gate need not act on: all that are not about the gate, and those that
leave the gate as it is and find no key down that they would release. -/
theorem processing_passes_messages_on (board : Board) (wokeBy : Option WakeSource) :
    (PassesOn DebouncedLines ∧ PassesOn TouchPads ∧ PassesOn PolledPins) ∧
      ∀ (history : List (UInt32 × Operation GatedLine)) (now : UInt32) (message : Message),
        let reached := (Sensor.mk {} (GatedLine.fresh board wokeBy)).serve history
        reached.process now message = EdgeSource.handle reached now message ↔
          ¬ GatedLine.ActsOn reached message := by
  refine ⟨⟨DebouncedLines.passesOn, TouchPads.passesOn, PolledPins.passesOn⟩, ?_⟩
  intro history now message reached
  have attended : reached.atIntake.Attended := (Sensor.Attended.fresh rfl).serve history
  exact GatedLine.process_eq_handle_iff attended.sound now message

/-- The key of a gated line is down as its gate is to close. The sensor closes the gate and reports the
release; the line by itself leaves the gate open and the key down. -/
theorem closing_message_ignored_by_line :
    let chip : Key := ⟨2, .external⟩
    let held := (Sensor.mk {} (GatedLine.fresh { wiring := [(chip, 9)] } none)).serve
      [(1000, .start { roster := ⟨[chip], by decide⟩ }), (1000, .process (.pressed 9))]
    let processed := held.process 1060 (.setEnabled false)
    let handled := EdgeSource.handle held 1060 (.setEnabled false)
    (processed.value.source.isEnabled = false ∧ processed.value.recognizer.isDown chip = false ∧
        processed.events = [.single chip .release, .single chip .short]) ∧
      handled.value.source.isEnabled = true ∧ handled.value.recognizer.isDown chip = true ∧
        handled.events = [] := by
  decide

end KeyGesture
