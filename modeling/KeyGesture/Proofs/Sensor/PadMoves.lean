import KeyGesture.EdgeSource.TouchPads.Tuning
import KeyGesture.Proofs.Sensor.Moves

namespace KeyGesture.TouchPads

/-! Touch pads do nothing but steps. They release keys of their own accord: when they are held too long, when
the gate closes and when the controller is programmed anew. -/

open Sensor

/-- Keys are released, and all that changes of the hardware is its controller and its count of ticks. -/
structure Freed (now : UInt32) (before after : Sensor TouchPads) : Prop where
  lifted : before.recognizer.LiftedAt now after.recognizer
  source : ∃ controller heldTicks, after.source = { before.source with controller, heldTicks }

namespace Freed

variable {now : UInt32} {before middle after : Sensor TouchPads}

theorem refl (now : UInt32) (sensor : Sensor TouchPads) : Freed now sensor sensor :=
  ⟨.refl now _, _, _, rfl⟩

theorem trans (first : Freed now before middle) (second : Freed now middle after) :
    Freed now before after := by
  obtain ⟨lifted, _, _, source⟩ := first
  obtain ⟨lifts, controller, heldTicks, sourceAfter⟩ := second
  exact ⟨lifted.trans lifts, controller, heldTicks, by rw [sourceAfter, source]⟩

theorem foldlM {step : Sensor TouchPads → Pad → Outcome (Sensor TouchPads)}
    (each : ∀ sensor pad, Freed now sensor (step sensor pad).value) (sensor : Sensor TouchPads)
    (pads : List Pad) : Freed now sensor (pads.foldlM step sensor).value := by
  rw [Outcome.value_foldlM]
  exact List.foldlRecOn pads _ (refl now sensor) fun between freed pad _ => freed.trans (each between pad)

theorem focus_eq (freed : Freed now before after) :
    after.focus toIntake = { before.focus toIntake with recognizer := after.recognizer } := by
  obtain ⟨_, _, source⟩ := freed.source
  rw [focus, source]
  rfl

theorem isEnabled_eq (freed : Freed now before after) :
    after.source.isEnabled = before.source.isEnabled := by
  obtain ⟨_, _, source⟩ := freed.source
  rw [source]

theorem moves (freed : Freed now before after) :
    (before.focus toIntake).Moves (after.focus toIntake) := by
  rw [freed.focus_eq]
  exact .single (.lifted freed.lifted)

end Freed

variable (sensor : Sensor TouchPads) (now : UInt32)

theorem freed_release (channel : Nat) : Freed now sensor (release sensor now channel).value :=
  ⟨.release _ now channel, _, _, rfl⟩

theorem freed_releaseIfDown (pad : Pad) : Freed now sensor (releaseIfDown sensor now pad).value := by
  rw [releaseIfDown]
  split
  · exact freed_release sensor now pad.channel
  · exact .refl now sensor

theorem freed_freePad (pad : Pad) : Freed now sensor (freePad now sensor pad).value := by
  rw [freePad]
  split
  · exact (freed_release sensor now pad.channel).trans ⟨.refl now _, _, _, rfl⟩
  · exact .refl now sensor

theorem freed_releaseHeld : Freed now sensor (releaseHeld sensor now).value :=
  .foldlM (fun between pad => freed_freePad between now pad) sensor _

theorem freed_selfRelease : Freed now sensor (selfRelease sensor now).value := by
  have forgotten : ∀ heldTicks,
      Freed now sensor (sensor.mapSource fun touch => { touch with heldTicks }) :=
    fun heldTicks => ⟨.refl now _, _, _, rfl⟩
  rw [selfRelease]
  split
  · exact forgotten _
  · exact (forgotten 0).trans (freed_releaseHeld _ now)

/-- Work on the pads is refused, which leaves the sensor as it is, or it has passed both checks. -/
theorem state_of_checked (kept : Sensor TouchPads → Prop) {unready mistaken : Prop} [Decidable unready]
    [Decidable mistaken] {work : Outcome (Sensor TouchPads)} (same : kept sensor)
    (passed : ¬ unready → ¬ mistaken → kept work.value) :
    let refused (fault : Fault) : Outcome (Attempt (Sensor TouchPads)) := .quiet (.failed sensor fault)
    kept (if unready then refused .notReady else if mistaken then refused .badConfig
      else work.map .done).value.state := by
  intro refused
  split
  · exact same
  · rename_i ready
    split
    · exact same
    · rename_i inRange
      exact passed ready inRange

theorem freed_setPadThresholds (thresholds : Thresholds) (pad : Pad) :
    Freed now sensor (setPadThresholds now thresholds sensor pad).value :=
  (freed_releaseIfDown sensor now pad).trans ⟨.refl now _, _, _, rfl⟩

theorem freed_adjustThresholds (rise : Thresholds) :
    Freed now sensor (adjustThresholds sensor now rise).value.state :=
  state_of_checked sensor (Freed now sensor) (.refl now sensor) fun _ _ =>
    .foldlM (fun between pad => freed_setPadThresholds between now _ pad) sensor _

theorem freed_setPadTriggers (triggers : Triggers) (pad : Pad) :
    Freed now sensor (setPadTriggers now triggers sensor pad).value :=
  (freed_releaseIfDown sensor now pad).trans ⟨.refl now _, _, _, rfl⟩

theorem freed_adjustTriggers (wanted : Triggers) :
    Freed now sensor (adjustTriggers sensor now wanted).value.state :=
  state_of_checked sensor (Freed now sensor) (.refl now sensor) fun _ _ =>
    .foldlM (fun between pad => freed_setPadTriggers between now _ pad) sensor _

/-! Attaching. -/

theorem steps_addPad (key : Key) :
    (sensor.focus toIntake).Steps ((addPad sensor key).focus toIntake) := by
  rw [addPad]
  split
  · exact .refl
  · split
    · exact .refl
    · split
      · exact .refl
      · rename_i registered accepted
        exact (steps_of_register? accepted : (sensor.focus toIntake).Steps (registered.focus toIntake))

theorem program_state (touch : TouchPads) (pad : Pad) :
    ∃ board controller, (program touch pad).state = { touch with board, controller } := by
  let changed (state : TouchPads) := ∃ board controller, state = { touch with board, controller }
  refine Attempt.andThen_keeps changed (Attempt.andThen_keeps changed ⟨_, _, rfl⟩ ?_) ?_
  · rintro _ ⟨board, controller, rfl⟩
    exact ⟨_, _, rfl⟩
  · rintro _ ⟨board, controller, rfl⟩
    exact ⟨_, _, rfl⟩

theorem forEach_program_state (touch : TouchPads) (pads : List Pad) :
    ∃ board controller,
      (Attempt.forEach touch pads program).state = { touch with board, controller } := by
  refine Attempt.forEach_keeps
    (fun state : TouchPads => ∃ board controller, state = { touch with board, controller }) ?_
    ⟨_, _, rfl⟩ pads
  rintro _ pad ⟨board, controller, rfl⟩
  exact program_state { touch with board, controller } pad

theorem toIntake_forEach_program (touch : TouchPads) (pads : List Pad) :
    (Attempt.forEach touch pads program).state.toIntake = touch.toIntake := by
  obtain ⟨_, _, programmed⟩ := forEach_program_state touch pads
  rw [programmed]

theorem steps_attach (config : Config) :
    (sensor.focus toIntake).Steps ((attach sensor config).state.focus toIntake) := by
  have bound : (sensor.focus toIntake).Steps
      (((config.roster.withSource .touch).foldl addPad sensor).focus toIntake) := by
    refine List.foldlRecOn
      (motive := fun between : Sensor TouchPads => (sensor.focus toIntake).Steps (between.focus toIntake))
      _ addPad .refl ?_
    exact fun between path key _ => path.trans (steps_addPad between key)
  unfold attach
  dsimp only
  split
  · exact bound
  · change Steps _ ⟨_, (Attempt.forEach _ _ program).state.toIntake⟩
    rw [toIntake_forEach_program]
    exact bound

/-- A part of the pads that listing them leaves alone. -/
theorem source_addPads {α : Type} (part : TouchPads → α)
    (same : ∀ (touch : TouchPads) pads, part { touch with pads } = part touch) (keys : List Key) :
    part (keys.foldl addPad sensor).source = part sensor.source := by
  refine List.foldlRecOn
    (motive := fun between : Sensor TouchPads => part between.source = part sensor.source) keys addPad rfl ?_
  intro between kept key _
  refine Eq.trans ?_ kept
  rw [addPad]
  split
  · rfl
  · split
    · rfl
    · split
      · rfl
      · rename_i registered accepted
        obtain ⟨_, _, _, rfl⟩ := register?_eq_some_iff.mp accepted
        exact same between.source _

/-- A part of the pads that attaching leaves alone. -/
theorem source_attach {α : Type} (part : TouchPads → α)
    (same : ∀ (touch : TouchPads) board controller thresholds triggers pads,
      part { touch with board, controller, thresholds, triggers, pads } = part touch) (config : Config) :
    part (attach sensor config).state.source = part sensor.source := by
  have bound : part ((config.roster.withSource .touch).foldl addPad sensor).source = part sensor.source :=
    source_addPads sensor part (fun touch pads => same touch _ _ _ _ pads) _
  unfold attach
  dsimp only
  split
  · exact bound
  · let listed := ((config.roster.withSource .touch).foldl addPad sensor).source
    let touch := { listed with thresholds := decode config.thresholds, triggers := defaultTriggers }
    obtain ⟨board, controller, programmed⟩ := forEach_program_state touch touch.pads
    change part (Attempt.forEach touch touch.pads program).state = _
    rw [programmed]
    exact (same listed board controller _ _ listed.pads).trans bound

/-! Messages. -/

theorem focus_tick : (sensor.tick now (·.mapIntake .rest)).value.focus toIntake =
    ((sensor.focus toIntake).tick now .rest).value :=
  Sensor.focus_tick sensor now rfl

/-- A part of the pads that the intake is no part of. -/
theorem source_tick {α : Type} {part : TouchPads → α}
    (same : ∀ touch, part (mapIntake touch .rest) = part touch) :
    part (tick sensor now).value.source = part sensor.source := by
  rw [tick]
  split
  · dsimp only [Outcome.quiet]
    split
    · exact same sensor.source
    · rfl
  · exact sensor.source_tick now same

theorem moves_tick : (sensor.focus toIntake).Moves ((tick sensor now).value.focus toIntake) := by
  rw [tick]
  split
  · rename_i retired
    change (sensor.focus toIntake).Moves (Sensor.focus toIntake (if sensor.recognizer.allUp then _ else _))
    split
    · exact .single (.ended retired)
    · exact .refl
  · rename_i inUse
    rw [focus_tick]
    exact .single (.ticked now (Bool.eq_false_iff.mpr inUse))

/-- The gate is moved first, unless the pads were never attached; a gate that closes then frees them. -/
theorem freed_setEnabled (enable : Bool) :
    ∃ isEnabled, (isEnabled = enable ∨ isEnabled = sensor.source.isEnabled) ∧
      Freed now (sensor.mapSource fun touch => { touch with isEnabled })
        (setEnabled sensor now enable).value.state := by
  rw [setEnabled]
  split
  · refine ⟨enable, .inl rfl, ?_⟩
    cases enable with
    | true => exact .refl now _
    | false => exact freed_releaseHeld _ now
  · exact ⟨_, .inr rfl, .refl now sensor⟩

theorem moves_setEnabled (enable : Bool) :
    (sensor.focus toIntake).Moves ((setEnabled sensor now enable).value.state.focus toIntake) := by
  obtain ⟨_, _, freed⟩ := freed_setEnabled sensor now enable
  exact freed.moves

theorem moves_handle (message : Message) :
    (sensor.focus toIntake).Moves ((handle sensor now message).value.focus toIntake) := by
  cases message with
  | heldAtStart channel => exact .single (.heldAtStart now channel)
  | pressed channel =>
      rw [handle]
      split
      · exact .refl
      · rename_i gate
        exact .single (.pressed now channel (Bool.eq_false_iff.mpr fun retired => gate (.inl retired)))
  | released channel => exact (freed_release sensor now channel).moves
  | tick => exact (freed_selfRelease sensor now).moves.trans (moves_tick _ now)
  | setEnabled enable => exact moves_setEnabled sensor now enable

/-- How the controller can be programmed anew while the pads are in use. -/
inductive Work where
  /-- The board and the controller change: other wiring, or other faults. -/
  | refit (board : Board) (controller : Peripheral PadCommand)
  | adjustThresholds (rise : Thresholds)
  | adjustTriggers (wanted : Triggers)

instance : SelfReporting TouchPads where
  intake := toIntake
  Work := Work
  carryOut sensor now
    | .refit board controller => sensor.mapSource fun touch => { touch with board, controller }
    | .adjustThresholds rise => (adjustThresholds sensor now rise).value.state
    | .adjustTriggers wanted => (adjustTriggers sensor now wanted).value.state
  tickPeriod_eq _ := rfl
  attach := steps_attach
  handle := moves_handle
  setEnabled := moves_setEnabled
  carriesOut sensor now work := by
    cases work with
    | refit board controller => exact .refl
    | adjustThresholds rise => exact (freed_adjustThresholds sensor now rise).moves
    | adjustTriggers wanted => exact (freed_adjustTriggers sensor now wanted).moves
  detach touch wakes := by cases wakes <;> rfl
  heldAtStart _ _ _ := rfl
  tick sensor now inUse := by
    have freed := freed_selfRelease sensor now
    let released := (selfRelease sensor now).value
    have inUseStill : released.source.isShutDown = false :=
      (congrArg (·.source.isShutDown) freed.focus_eq).trans inUse
    have ticks : tick released now = released.tick now (·.mapIntake .rest) :=
      if_neg (Bool.eq_false_iff.mp inUseStill)
    refine ⟨released.recognizer, freed.lifted, ?_⟩
    change (tick released now).value.focus toIntake = _
    rw [ticks, focus_tick, freed.focus_eq]

end KeyGesture.TouchPads
