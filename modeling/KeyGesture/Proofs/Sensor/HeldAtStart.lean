import KeyGesture.Proofs.Sensor.Service

namespace KeyGesture

/-! A key that is found held while the hardware starts up is let in by every kind of hardware in every state,
also where a press of it would be turned away. -/

def Message.isHeldAtStart : Message → Bool
  | .heldAtStart _ => true
  | .pressed _ | .released _ | .tick | .setEnabled _ => false

namespace Sensor

variable {δ : Type} [EdgeSource δ] [SelfReporting δ] {sensor : Sensor δ}

/-- Of all messages only that its key was found held at start lets a key go down that is up. -/
def HeedsOnlyHeldAtStart (sensor : Sensor δ) : Prop :=
  ∀ now message key, sensor.recognizer.isDown key = false →
    ((sensor.process now message).value.recognizer.isDown key = true ↔
      ∃ channel, message = .heldAtStart channel ∧ sensor.recognizer.channelOf? key = some channel)

theorem atIntake_process_heldAtStart (sensor : Sensor δ) (now : UInt32) (channel : Nat) :
    (sensor.process now (.heldAtStart channel)).value.atIntake =
      (sensor.atIntake.press now channel wakeLatency).value.mapSource .run :=
  SelfReporting.heldAtStart sensor now channel

theorem heedsOnlyHeldAtStart (sound : sensor.recognizer.Sound)
    (others : ∀ now message, message.isHeldAtStart = false → ∀ key,
      (sensor.process now message).value.recognizer.isDown key = true →
        sensor.recognizer.isDown key = true) : sensor.HeedsOnlyHeldAtStart := by
  intro now message key up
  cases held : message.isHeldAtStart with
  | false =>
      refine iff_of_false (fun down => ?_) ?_
      · rw [others now message held key down] at up
        contradiction
      · rintro ⟨channel, rfl, _⟩
        contradiction
  | true =>
      cases message with
      | pressed | released | tick | setEnabled => contradiction
      | heldAtStart channel =>
          have pressed : (sensor.process now (.heldAtStart channel)).value.recognizer =
              (sensor.recognizer.press now channel wakeLatency).value :=
            congrArg Sensor.recognizer (sensor.atIntake_process_heldAtStart now channel)
          rw [pressed, sound.isDown_press, up]
          simp

end Sensor

end KeyGesture
