import KeyGesture.Proofs.Sensor.HeldAtStart
import KeyGesture.Proofs.Sensor.LineMoves
import KeyGesture.Proofs.Sensor.PadMoves

namespace KeyGesture

/-! A gate that is closed stays closed until it is opened, and meanwhile turns presses away; a key that is
found held at start is let in all the same. -/

namespace Sensor

variable {δ : Type} [EdgeSource δ]

/-- Until the gate is opened, no message lets a key go down but that it was found held at start. -/
def ShutsOut (sensor : Sensor δ) : Prop :=
  ∀ messages : List (UInt32 × Message), (∀ moment ∈ messages, moment.2 ≠ .setEnabled true) →
    (sensor.processEach messages).HeedsOnlyHeldAtStart

end Sensor

/-- What a gate does while it is closed. -/
structure GateCloses (δ : Type) [EdgeSource δ] (isOpen : δ → Bool) : Prop where
  staysClosed : ∀ (sensor : Sensor δ) now message, isOpen sensor.source = false →
    message ≠ .setEnabled true → isOpen (sensor.process now message).value.source = false
  keepsUp : ∀ (sensor : Sensor δ) now message, isOpen sensor.source = false → sensor.recognizer.Sound →
    message.isHeldAtStart = false → ∀ key,
      (sensor.process now message).value.recognizer.isDown key = true →
        sensor.recognizer.isDown key = true

theorem GateCloses.shutsOut {δ : Type} [EdgeSource δ] [SelfReporting δ] {isOpen : δ → Bool}
    {sensor : Sensor δ} (closes : GateCloses δ isOpen) (attended : sensor.atIntake.Attended)
    (closed : isOpen sensor.source = false) : sensor.ShutsOut := by
  intro messages unopened
  have closedStill : isOpen (sensor.processEach messages).source = false := by
    refine List.foldlRecOn
      (motive := fun between : Sensor δ => isOpen between.source = false) _ _ closed ?_
    exact fun between kept moment member =>
      closes.staysClosed between moment.1 moment.2 kept (unopened moment member)
  have sound := (attended.processEach messages).sound
  exact Sensor.heedsOnlyHeldAtStart sound fun now message other =>
    closes.keepsUp _ now message closedStill sound other

theorem Sensor.isDown_tick {δ : Type} {sensor : Sensor δ} {key : Key} (sound : sensor.recognizer.Sound)
    (now : UInt32) (onSettled : δ → δ) :
    (sensor.tick now onSettled).value.recognizer.isDown key = true ↔
      sensor.recognizer.isDown key = true := by
  rw [Sensor.value_tick]
  exact sound.isDown_tick now

namespace GatedLine

variable {sensor : Sensor GatedLine}

theorem process_pressed_of_closed (closed : sensor.source.isEnabled = false) (now : UInt32)
    (channel : Nat) : sensor.process now (.pressed channel) = .quiet sensor :=
  if_pos (.inr closed)

theorem process_released_of_closed (closed : sensor.source.isEnabled = false) (now : UInt32)
    (channel : Nat) : sensor.process now (.released channel) = .quiet sensor :=
  if_neg (Bool.eq_false_iff.mp closed)

theorem gateCloses : GateCloses GatedLine isEnabled where
  staysClosed sensor now message closed unopened := by
    cases message with
    | heldAtStart channel => exact closed
    | pressed channel => rwa [process_pressed_of_closed closed]
    | released channel => rwa [process_released_of_closed closed]
    | tick =>
        change (handle sensor now .tick).value.source.isEnabled = false
        rw [handle]
        split
        · exact closed
        · exact Eq.trans (sensor.source_tick now fun _ => rfl) closed
    | setEnabled enable =>
        cases enable with
        | true => contradiction
        | false => exact congrArg isEnabled (source_setEnabled sensor now false)
  keepsUp sensor now message closed sound other key down := by
    cases message with
    | heldAtStart channel => contradiction
    | pressed channel => rwa [process_pressed_of_closed closed] at down
    | released channel => rwa [process_released_of_closed closed] at down
    | tick =>
        change (handle sensor now .tick).value.recognizer.isDown key = true at down
        rw [handle] at down
        split at down
        · exact down
        · exact (Sensor.isDown_tick sound now _).mp down
    | setEnabled enable => exact (lifted_setEnabled sensor now enable).isDown_of_isDown sound down

end GatedLine

namespace TouchPads

variable {sensor : Sensor TouchPads} {now : UInt32} {key : Key}

theorem process_pressed_of_closed (closed : sensor.source.isEnabled = false) (now : UInt32)
    (channel : Nat) : sensor.process now (.pressed channel) = .quiet sensor :=
  if_pos (.inr closed)

theorem isDown_tick (sound : sensor.recognizer.Sound) :
    (tick sensor now).value.recognizer.isDown key = true ↔ sensor.recognizer.isDown key = true := by
  rw [tick]
  split
  · dsimp only [Outcome.quiet]
    split <;> rfl
  · exact Sensor.isDown_tick sound now _

theorem gateCloses : GateCloses TouchPads isEnabled where
  staysClosed sensor now message closed unopened := by
    cases message with
    | heldAtStart channel => exact closed
    | pressed channel => rwa [process_pressed_of_closed closed]
    | released channel => exact (freed_release sensor now channel).isEnabled_eq.trans closed
    | tick =>
        have freed := freed_selfRelease sensor now
        exact Eq.trans (source_tick _ now fun _ => rfl) (freed.isEnabled_eq.trans closed)
    | setEnabled enable =>
        cases enable with
        | true => contradiction
        | false =>
            obtain ⟨isEnabled, shut, freed⟩ := freed_setEnabled sensor now false
            refine freed.isEnabled_eq.trans ?_
            rcases shut with rfl | rfl
            · rfl
            · exact closed
  keepsUp sensor now message closed sound other key down := by
    cases message with
    | heldAtStart channel => contradiction
    | pressed channel => rwa [process_pressed_of_closed closed] at down
    | released channel => exact (freed_release sensor now channel).lifted.isDown_of_isDown sound down
    | tick =>
        have lifted := (freed_selfRelease sensor now).lifted
        exact lifted.isDown_of_isDown sound ((isDown_tick (lifted.sound sound)).mp down)
    | setEnabled enable =>
        obtain ⟨_, _, freed⟩ := freed_setEnabled sensor now enable
        exact freed.lifted.isDown_of_isDown sound down

end TouchPads

end KeyGesture
