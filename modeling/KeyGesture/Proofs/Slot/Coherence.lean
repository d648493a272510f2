import KeyGesture.Slot

namespace KeyGesture.Slot

/-! What the phase of a slot says about its other parts, and how each operation on a slot keeps it so. -/

variable {slot : Slot} {timing : Timing}

theorem isDown_iff : slot.isDown = true ↔ slot.phase = .pressed ∨ slot.phase = .parked := by
  simp [isDown]

theorem phase_ne_idle_of_isDown (down : slot.isDown = true) : slot.phase ≠ .idle := by
  rcases isDown_iff.mp down with pressed | parked
  · simp [pressed]
  · simp [parked]

@[simp] theorem isDown_fresh (key : Key) (channel : Nat) : (fresh key channel).isDown = false := rfl

@[simp] theorem isDown_press (instant : UInt32) : (slot.press timing instant).isDown = true := rfl

@[simp] theorem isDown_lift (now : UInt32) (gesture : Gesture) :
    (slot.lift now gesture).isDown = false := rfl

@[simp] theorem isDown_rest : slot.rest.isDown = false := rfl

@[simp] theorem isDown_rebase (instant : UInt32) :
    (slot.rebase timing instant).isDown = slot.isDown := by
  simp [isDown]

@[simp] theorem releasedAt_rebase (instant : UInt32) :
    (slot.rebase timing instant).releasedAt = slot.releasedAt := by
  rw [rebase]
  split <;> rfl

@[simp] theorem repeatedAt_rebase (instant : UInt32) :
    (slot.rebase timing instant).repeatedAt = slot.repeatedAt := by
  rw [rebase]
  split <;> rfl

@[simp] theorem taps_rebase (instant : UInt32) :
    (slot.rebase timing instant).taps = slot.taps := by
  rw [rebase]
  split <;> rfl

@[simp] theorem channel_rebase (instant : UInt32) :
    (slot.rebase timing instant).channel = slot.channel := by
  rw [rebase]
  split <;> rfl

@[simp] theorem releasedAt_raise (tier : Tier) :
    (slot.raise timing tier).releasedAt = slot.releasedAt := by
  cases tier <;> rfl

@[simp] theorem channel_raise (tier : Tier) : (slot.raise timing tier).channel = slot.channel := by
  cases tier <;> rfl

@[simp] theorem taps_raise (tier : Tier) : (slot.raise timing tier).taps = 0 := by
  cases tier <;> rfl

theorem phase_pressed_of_escalation? {now : UInt32} {tier : Tier}
    (escalates : slot.escalation? timing now = some tier) : slot.phase = .pressed := by
  rw [escalation?] at escalates
  split at escalates
  · rename_i reached
    exact reached.1
  · contradiction

theorem isDown_escalate (now : UInt32) : (slot.escalate timing now).isDown = slot.isDown := by
  rw [escalate]
  cases escalates : slot.escalation? timing now with
  | none => rfl
  | some tier =>
      have pressed := phase_pressed_of_escalation? escalates
      cases tier <;> simp [raise, isDown, pressed]

@[simp] theorem releasedAt_escalate (now : UInt32) :
    (slot.escalate timing now).releasedAt = slot.releasedAt := by
  rw [escalate]
  split <;> simp

@[simp] theorem channel_escalate (now : UInt32) :
    (slot.escalate timing now).channel = slot.channel := by
  rw [escalate]
  split <;> simp

@[simp] theorem phase_advanceRepeat (now : UInt32) :
    (slot.advanceRepeat timing now).phase = slot.phase := by
  rw [advanceRepeat]
  split <;> rfl

@[simp] theorem isDown_advanceRepeat (now : UInt32) :
    (slot.advanceRepeat timing now).isDown = slot.isDown := by
  simp [isDown]

@[simp] theorem releasedAt_advanceRepeat (now : UInt32) :
    (slot.advanceRepeat timing now).releasedAt = slot.releasedAt := by
  rw [advanceRepeat]
  split <;> rfl

@[simp] theorem channel_advanceRepeat (now : UInt32) :
    (slot.advanceRepeat timing now).channel = slot.channel := by
  rw [advanceRepeat]
  split <;> rfl

@[simp] theorem taps_advanceRepeat (now : UInt32) :
    (slot.advanceRepeat timing now).taps = slot.taps := by
  rw [advanceRepeat]
  split <;> rfl

@[simp] theorem pressedAt_advanceRepeat (now : UInt32) :
    (slot.advanceRepeat timing now).pressedAt = slot.pressedAt := by
  rw [advanceRepeat]
  split <;> rfl

@[simp] theorem nextHold_advanceRepeat (now : UInt32) :
    (slot.advanceRepeat timing now).nextHold = slot.nextHold := by
  rw [advanceRepeat]
  split <;> rfl

theorem tick_of_idle (now : UInt32) (idle : slot.phase = .idle) : slot.tick timing now = slot := by
  simp only [tick, idle]

theorem tick_of_isDown (now : UInt32) (down : slot.isDown = true) :
    slot.tick timing now = (slot.escalate timing now).advanceRepeat timing now := by
  rcases isDown_iff.mp down with pressed | parked
  · simp only [tick, pressed]
  · simp only [tick, parked]

theorem tick_of_lifted (now : UInt32) (lifted : slot.phase = .lifted) :
    slot.tick timing now = if slot.windowOver timing now then slot.rest else slot := by
  simp only [tick, lifted]

theorem idle_or_isDown_or_lifted (slot : Slot) :
    slot.phase = .idle ∨ slot.isDown = true ∨ slot.phase = .lifted := by
  cases phase : slot.phase <;> simp [isDown, phase]

/-- No tick lets a key come up or go down. -/
@[simp] theorem isDown_tick (now : UInt32) : (slot.tick timing now).isDown = slot.isDown := by
  rcases slot.idle_or_isDown_or_lifted with idle | down | lifted
  · rw [tick_of_idle now idle]
  · rw [tick_of_isDown now down, isDown_advanceRepeat, isDown_escalate]
  · rw [tick_of_lifted now lifted]
    have up : slot.isDown = false := by simp [isDown, lifted]
    split <;> simp [up]

@[simp] theorem channel_tick (now : UInt32) : (slot.tick timing now).channel = slot.channel := by
  rw [tick]
  split
  · rfl
  · simp
  · simp
  · split <;> rfl

@[simp] theorem pressedAt_tick (now : UInt32) :
    (slot.tick timing now).pressedAt = slot.pressedAt := by
  rcases slot.idle_or_isDown_or_lifted with idle | down | lifted
  · rw [tick_of_idle now idle]
  · rw [tick_of_isDown now down, pressedAt_advanceRepeat, pressedAt_escalate]
  · rw [tick_of_lifted now lifted]
    split <;> rfl

/-- The timestamps and the count of taps are kept only in the phases that use them. -/
structure Coherent (slot : Slot) : Prop where
  released : slot.releasedAt.isSome = true ↔ slot.phase = .lifted
  untapped : slot.phase = .idle → slot.taps = 0
  unrepeated : slot.isDown = false → slot.repeatedAt = none

namespace Coherent

theorem fresh (key : Key) (channel : Nat) : (Slot.fresh key channel).Coherent :=
  ⟨by simp [Slot.fresh], fun _ => rfl, fun _ => rfl⟩

theorem rebind (coherent : slot.Coherent) (channel : Nat) : Coherent { slot with channel } :=
  ⟨coherent.released, coherent.untapped, coherent.unrepeated⟩

theorem press (instant : UInt32) : (slot.press timing instant).Coherent :=
  ⟨by simp [Slot.press], by simp [Slot.press], by simp⟩

theorem rebase (coherent : slot.Coherent) (instant : UInt32) :
    (slot.rebase timing instant).Coherent :=
  ⟨by simpa using coherent.released, by simpa using coherent.untapped,
    by simpa using coherent.unrepeated⟩

theorem lift (now : UInt32) (gesture : Gesture) : (slot.lift now gesture).Coherent :=
  ⟨by simp [Slot.lift], by simp [Slot.lift], by simp [Slot.lift]⟩

theorem rest (coherent : slot.Coherent) (lifted : slot.phase = .lifted) : slot.rest.Coherent := by
  have up : slot.isDown = false := by simp [isDown, lifted]
  exact ⟨by simp [Slot.rest], fun _ => rfl, fun _ => coherent.unrepeated up⟩

theorem tick (coherent : slot.Coherent) (now : UInt32) : (slot.tick timing now).Coherent := by
  rcases slot.idle_or_isDown_or_lifted with idle | down | lifted
  · rwa [tick_of_idle now idle]
  · have stays : (slot.tick timing now).isDown = true := by simpa using down
    have unlifted : slot.phase ≠ .lifted := by
      rcases isDown_iff.mp down with pressed | parked <;> simp [*]
    have unreleased : slot.releasedAt.isSome ≠ true := fun released =>
      unlifted (coherent.released.mp released)
    refine ⟨?_, ?_, ?_⟩
    · have kept : (slot.tick timing now).releasedAt = slot.releasedAt := by
        rw [tick_of_isDown now down, releasedAt_advanceRepeat, releasedAt_escalate]
      rw [kept]
      refine ⟨fun released => absurd released unreleased, fun lifted => ?_⟩
      rw [isDown, lifted] at stays
      contradiction
    · exact fun idle => absurd idle (phase_ne_idle_of_isDown stays)
    · exact fun up => absurd stays (by simp [up])
  · rw [tick_of_lifted now lifted]
    split
    · exact coherent.rest lifted
    · exact coherent

end Coherent

end KeyGesture.Slot
