import KeyGesture.Proofs.Sensor.LineMoves
import KeyGesture.Proofs.Sensor.PadMoves
import KeyGesture.Proofs.Sensor.Service

namespace KeyGesture

/-! No gesture waits for a tick that does not come. The ticker is part of the hardware and the gestures are
part of the recognizer; what joins the two is that hardware which is in use is attended. -/

namespace Sensor

variable {δ : Type} [EdgeSource δ] [SelfReporting δ]

namespace Attended

variable {sensor : Sensor Intake}

theorem running_of_not_idle (attended : sensor.Attended) (inUse : sensor.source.isShutDown = false)
    (busy : ∃ slot ∈ sensor.recognizer.slots, slot.phase ≠ .idle) :
    sensor.source.ticker.period = some checkPeriod := by
  rcases attended.ticking inUse with running | ⟨_, atRest⟩
  · exact running
  · obtain ⟨slot, member, unidle⟩ := busy
    exact absurd (atRest.idle slot member) unidle

theorem atRest_of_stopped (attended : sensor.Attended) (inUse : sensor.source.isShutDown = false)
    (stopped : sensor.source.ticker.period = none) : sensor.recognizer.AtRest := by
  rcases attended.ticking inUse with running | ⟨_, atRest⟩
  · rw [stopped] at running
    contradiction
  · exact atRest

theorem stopped_tick_iff (attended : sensor.Attended) (inUse : sensor.source.isShutDown = false)
    (now : UInt32) : (sensor.tick now .rest).value.source.ticker.period = none ↔
      (sensor.recognizer.tick now).value.1 = .settled := by
  rw [value_tick]
  dsimp only
  split
  · rename_i settled
    exact iff_of_true rfl settled
  · rename_i unsettled
    refine iff_of_false (fun stopped => unsettled ?_) unsettled
    rw [(attended.atRest_of_stopped inUse stopped).tick_eq]
    rfl

end Attended

/-- The windows that can be open when a tick takes effect: those open before it, and those of keys that are
released by the tick itself. -/
def PendingAt (sensor : Sensor δ) (now released : UInt32) : Prop :=
  sensor.recognizer.OpenSince released ∨ released = now ∧ sensor.recognizer.allUp = false

theorem Attended.stopped_process_tick_iff {sensor : Sensor δ} (attended : sensor.atIntake.Attended)
    (inUse : sensor.atIntake.source.isShutDown = false) (now : UInt32) :
    let ticked := (sensor.process now .tick).value
    ticked.tickPeriod = none ↔ ticked.recognizer.allUp = true ∧
      ∀ released, sensor.PendingAt now released →
        sensor.recognizer.timing.multiTap ≤ elapsed now released := by
  intro ticked
  obtain ⟨recognizer, lifted, handled⟩ := SelfReporting.tick sensor now inUse
  let freed : Sensor Intake := { sensor.atIntake with recognizer }
  have reached : ticked.atIntake = (freed.tick now .rest).value := handled
  have attendedFreed : freed.Attended := attended.move (.lifted lifted)
  have up : ticked.recognizer.allUp = recognizer.allUp := by
    have same : ticked.recognizer = (recognizer.tick now).value.2 :=
      (congrArg Sensor.recognizer reached).trans (by rw [value_tick])
    rw [same, Recognizer.allUp, Recognizer.down_tick, Recognizer.allUp]
  rw [tickPeriod_eq, reached, attendedFreed.stopped_tick_iff inUse, attendedFreed.sound.settled_iff, up,
    lifted.timing_eq]
  exact and_congr_right fun allUp => forall_congr' fun released =>
    imp_congr_left (lifted.openSince_iff attended.sound allUp)

end Sensor

/-- As long as the sensor is not shut down, its ticker runs while any key is in the middle of a gesture, so
that where it is stopped the recognizer is at rest; and a tick leaves it stopped exactly when all keys are up
after it and every window that was pending is over. -/
def TicksThroughGestures {δ : Type} [EdgeSource δ] [SelfReporting δ] (fresh : Sensor δ) : Prop :=
  ∀ history : List (UInt32 × Operation δ), (∀ moment ∈ history, moment.2.isShutDown = false) →
    let reached := fresh.serve history
    ((∃ slot ∈ reached.recognizer.slots, slot.phase ≠ .idle) → reached.tickPeriod = some checkPeriod) ∧
      (reached.tickPeriod = none → reached.recognizer.AtRest) ∧
      ∀ now, let ticked := (reached.process now .tick).value
        ticked.tickPeriod = none ↔ ticked.recognizer.allUp = true ∧
          ∀ released, reached.PendingAt now released →
            reached.recognizer.timing.multiTap ≤ elapsed now released

theorem ticksThroughGestures_of_fresh {δ : Type} [EdgeSource δ] [SelfReporting δ] {source : δ}
    (stopped : (SelfReporting.intake source).ticker.period = none)
    (inUse : (SelfReporting.intake source).isShutDown = false) :
    TicksThroughGestures (Sensor.mk {} source) := by
  intro history plain reached
  have attended : reached.atIntake.Attended := (Sensor.Attended.fresh stopped).serve history
  have inUseStill : reached.atIntake.source.isShutDown = false :=
    (Sensor.isShutDown_serve _ plain).trans inUse
  refine ⟨fun busy => ?_, fun none => ?_, attended.stopped_process_tick_iff inUseStill⟩
  · rw [Sensor.tickPeriod_eq]
    exact attended.running_of_not_idle inUseStill busy
  · rw [Sensor.tickPeriod_eq] at none
    exact attended.atRest_of_stopped inUseStill none

/-- Every kind of hardware that reports edges by itself keeps its ticker running through gestures, whatever
it is wired to, whatever faults it has and whatever woke it. -/
theorem ticker_runs_through_gestures (board : Board) (controller : Peripheral PadCommand)
    (wokeBy : Option WakeSource) :
    TicksThroughGestures (Sensor.mk {} (DebouncedLines.fresh board wokeBy)) ∧
      TicksThroughGestures (Sensor.mk {} (GatedLine.fresh board wokeBy)) ∧
      TicksThroughGestures (Sensor.mk {} (TouchPads.fresh board controller wokeBy)) :=
  ⟨ticksThroughGestures_of_fresh rfl rfl, ticksThroughGestures_of_fresh rfl rfl,
    ticksThroughGestures_of_fresh rfl rfl⟩

/-- A tap on a pad keeps the ticker running until the window after it is over. -/
theorem ticker_runs_through_tap :
    let key : Key := ⟨1, .touch⟩
    let pads := TouchPads.fresh { wiring := [(key, 4)] } .ideal none
    let pressing : List (UInt32 × Operation TouchPads) :=
      [(0, .start { roster := ⟨[key], by decide⟩ }), (10, .process (.pressed 4))]
    let down := (Sensor.mk {} pads).serve pressing
    let up := (Sensor.mk {} pads).serve (pressing ++ [(60, .process (.released 4))])
    down.tickPeriod = some checkPeriod ∧ (up.process 359 .tick).value.tickPeriod ≠ none ∧
      (up.process 360 .tick).value.tickPeriod = none := by
  intro key pads pressing down up
  have ticks : TicksThroughGestures (Sensor.mk {} pads) :=
    (ticker_runs_through_gestures { wiring := [(key, 4)] } .ideal none).2.2
  obtain ⟨runs, _, _⟩ := ticks pressing (by simp [pressing, Operation.isShutDown])
  obtain ⟨_, _, stops⟩ := ticks (pressing ++ [(60, .process (.released 4))])
    (by simp [pressing, Operation.isShutDown])
  have opened : ∀ slot ∈ up.recognizer.slots, slot.releasedAt = some 60 := by decide
  have window : up.recognizer.OpenSince 60 := ⟨up.recognizer.slots[0], by decide, by decide⟩
  refine ⟨runs (by decide), ?_, ?_⟩
  · intro stopped
    have ended := ((stops 359).mp stopped).2 60 (.inl window)
    exact absurd ended (by decide)
  · refine (stops 360).mpr ⟨by decide, ?_⟩
    rintro released (⟨slot, member, since⟩ | ⟨_, someDown⟩)
    · obtain rfl : 60 = released := Option.some.inj ((opened slot member).symm.trans since)
      decide
    · exact absurd someDown (by decide)

end KeyGesture
