import KeyGesture.Proofs.Sensor.HeldTicks
import KeyGesture.Proofs.Sensor.PadProgramming
import KeyGesture.Proofs.Sensor.Records

namespace KeyGesture.TouchPads

/-! Changes made to pads in use. Each is checked first, and if it is refused nothing happens at all; otherwise
all keys come up before the pads are programmed anew, whatever the controller answers. What is programmed is
worked out from what was configured, not from what was programmed last. -/

open Sensor

variable {sensor : Sensor TouchPads} {now : UInt32}

/-- A change to pads in use. -/
inductive Retuning where
  | gate (enable : Bool)
  | thresholds (rise : Thresholds)
  | triggers (wanted : Triggers)
  deriving DecidableEq, Repr

namespace Retuning

def apply (sensor : Sensor TouchPads) (now : UInt32) : Retuning → Outcome (Attempt (Sensor TouchPads))
  | .gate enable => sensor.setEnabled now enable
  | .thresholds rise => adjustThresholds sensor now rise
  | .triggers wanted => adjustTriggers sensor now wanted

/-- What a change asks the controller for, pad by pad, where it programs all of them. -/
def commands? (configured : TouchPads) : Retuning → Option (Pad → List PadCommand)
  | .gate _ => none
  | .thresholds rise => some fun pad => [.reset pad.channel, .setThresholds pad.channel
      (configured.thresholds.climb + rise.climb) (configured.thresholds.fall + rise.fall)]
  | .triggers wanted => some fun pad => [.setTriggers pad.channel
      (if wanted.climb = 0 then configured.triggers.climb else wanted.climb)
      (if wanted.fall = 0 then configured.triggers.fall else wanted.fall)]

end Retuning

/-- The commands the controller was asked for, oldest first, whether they worked or not. -/
def asked (touch : TouchPads) : List PadCommand :=
  touch.controller.asked

theorem asked_tryIssue (touch : TouchPads) (command : PadCommand) :
    (touch.tryIssue command).asked = touch.asked ++ [command] :=
  touch.controller.asked_issue command

theorem asked_releaseIfDown (sensor : Sensor TouchPads) (now : UInt32) (pad : Pad) :
    (releaseIfDown sensor now pad).value.source.asked = sensor.source.asked :=
  congrArg Peripheral.asked (controller_releaseIfDown sensor now pad)

theorem asked_foldlM {step : Sensor TouchPads → Pad → Outcome (Sensor TouchPads)}
    {commands : Pad → List PadCommand}
    (each : ∀ sensor pad, (step sensor pad).value.source.asked = sensor.source.asked ++ commands pad)
    (sensor : Sensor TouchPads) (pads : List Pad) :
    (pads.foldlM step sensor).value.source.asked = sensor.source.asked ++ pads.flatMap commands := by
  induction pads generalizing sensor with
  | nil => simp
  | cons pad rest ih =>
      rw [List.foldlM_cons, Outcome.value_bind, ih, each, List.flatMap_cons, List.append_assoc]

/-- What a change that is not refused comes to. -/
structure Retuned (retuning : Retuning) (before after : Sensor TouchPads) : Prop where
  thresholds : after.source.thresholds = before.source.thresholds
  triggers : after.source.triggers = before.source.triggers
  up : retuning ≠ .gate true → ∀ key, after.recognizer.isDown key = false
  asked : ∀ commands, retuning.commands? before.source = some commands →
    after.source.asked = before.source.asked ++ before.source.pads.flatMap commands

theorem Freed.retuned {after : Sensor TouchPads} {retuning : Retuning} (freed : Freed now sensor after)
    (up : ∀ key, after.recognizer.isDown key = false)
    (asked : ∀ commands, retuning.commands? sensor.source = some commands →
      after.source.asked = sensor.source.asked ++ sensor.source.pads.flatMap commands) :
    Retuned retuning sensor after := by
  obtain ⟨_, _, source⟩ := freed.source
  exact ⟨by rw [source], by rw [source], fun _ => up, asked⟩

theorem setEnabled_refused_or_retuned (listed : Listed sensor) (sound : sensor.recognizer.Sound)
    (now : UInt32) (enable : Bool) :
    (∃ fault, setEnabled sensor now enable = .quiet (.failed sensor fault)) ∨
      (setEnabled sensor now enable).value.fault = none ∧
        Retuned (.gate enable) sensor (setEnabled sensor now enable).value.state := by
  have unprogrammed (commands : Pad → List PadCommand) (source : TouchPads) :
      (Retuning.gate enable).commands? source ≠ some commands := (Option.some_ne_none commands).symm
  rw [setEnabled]
  split
  · right
    cases enable with
    | true =>
        exact ⟨rfl, rfl, rfl, fun opens => absurd rfl opens,
          fun commands programs => absurd programs (unprogrammed commands _)⟩
    | false =>
        let closed := sensor.mapSource fun touch => { touch with isEnabled := false }
        have listedClosed : Listed closed := listed
        have freed : Retuned (.gate false) closed (releaseHeld closed now).value :=
          (freed_releaseHeld closed now).retuned (listedClosed.up_releaseHeld sound now)
            fun commands programs => absurd programs (unprogrammed commands _)
        exact ⟨rfl, freed.thresholds, freed.triggers, freed.up,
          fun commands programs => absurd programs (unprogrammed commands _)⟩
  · exact .inl ⟨_, rfl⟩

/-- Work on the pads is refused, or it has passed both checks and frees each pad while it programs it. -/
theorem Frees.refused_or_retuned {free : Sensor TouchPads → Pad → Outcome (Sensor TouchPads)}
    (frees : Frees now free) (listed : Listed sensor) (sound : sensor.recognizer.Sound)
    {retuning : Retuning} {commands : Pad → List PadCommand}
    (programs : retuning.commands? sensor.source = some commands)
    (each : ∀ between pad, (free between pad).value.source.asked = between.source.asked ++ commands pad)
    {unready mistaken : Prop} [Decidable unready] [Decidable mistaken] :
    let refused (fault : Fault) : Outcome (Attempt (Sensor TouchPads)) := .quiet (.failed sensor fault)
    let outcome := if unready then refused .notReady else if mistaken then refused .badConfig
      else (sensor.source.pads.foldlM free sensor).map .done
    (∃ fault, outcome = refused fault) ∨
      outcome.value.fault = none ∧ Retuned retuning sensor outcome.value.state := by
  intro refused outcome
  have retuned : Retuned retuning sensor (sensor.source.pads.foldlM free sensor).value := by
    refine (frees.foldlM sensor _).retuned (frees.allUp listed sound) fun other same => ?_
    obtain rfl := Option.some.inj (programs.symm.trans same)
    exact asked_foldlM each sensor _
  simp only [outcome]
  split
  · exact .inl ⟨_, rfl⟩
  · split
    · exact .inl ⟨_, rfl⟩
    · exact .inr ⟨rfl, retuned⟩

theorem asked_setPadThresholds (thresholds : Thresholds) (sensor : Sensor TouchPads) (pad : Pad) :
    (setPadThresholds now thresholds sensor pad).value.source.asked = sensor.source.asked ++
      [.reset pad.channel, .setThresholds pad.channel thresholds.climb thresholds.fall] := by
  rw [← asked_releaseIfDown sensor now pad]
  simp only [setPadThresholds, Outcome.map, mapSource, asked_tryIssue, List.append_assoc]
  rfl

theorem asked_setPadTriggers (triggers : Triggers) (sensor : Sensor TouchPads) (pad : Pad) :
    (setPadTriggers now triggers sensor pad).value.source.asked =
      sensor.source.asked ++ [.setTriggers pad.channel triggers.climb triggers.fall] := by
  rw [← asked_releaseIfDown sensor now pad]
  simp only [setPadTriggers, Outcome.map, mapSource, asked_tryIssue]

theorem apply_refused_or_retuned (listed : Listed sensor) (sound : sensor.recognizer.Sound) (now : UInt32)
    (retuning : Retuning) :
    (∃ fault, retuning.apply sensor now = .quiet (.failed sensor fault)) ∨
      (retuning.apply sensor now).value.fault = none ∧
        Retuned retuning sensor (retuning.apply sensor now).value.state := by
  cases retuning with
  | gate enable => exact setEnabled_refused_or_retuned listed sound now enable
  | thresholds rise =>
      exact (frees_setPadThresholds now _).refused_or_retuned listed sound rfl (asked_setPadThresholds _)
  | triggers wanted =>
      exact (frees_setPadTriggers now _).refused_or_retuned listed sound rfl (asked_setPadTriggers _)

/-- Whatever is done with the pads and their recognizer, all keys stay on record, unless the recognizer is
made to register one. -/
theorem Listed.actAll (listed : Listed sensor) (sound : sensor.recognizer.Sound)
    {history : List (UInt32 × Action TouchPads)} (unregistered : Unregistered history) :
    Listed (sensor.actAll history) :=
  setAtStart_pads.record_actAll
    (fun bindings pads => ∀ binding ∈ bindings, (⟨binding.2, binding.1⟩ : Pad) ∈ pads)
    (fun _ config sound (listed : Listed _) => Listed.operate listed sound 0 (.start config))
    sound listed unregistered fun _ _ _ _ => trivial

/-- A change to pads that is refused leaves everything as it is and reports nothing. One that is not leaves
what was configured as it is and, unless it opens the gate, all keys up, whatever the controller answers; and
if it programs the pads, what it asks for follows from the configuration alone. This is so whatever was done
with the pads before, as long as starts alone registered keys. -/
theorem retuning_frees_pads_or_changes_nothing (board : Board) (controller : Peripheral PadCommand)
    (wokeBy : Option WakeSource) {history : List (UInt32 × Action TouchPads)}
    (unregistered : Unregistered history) (now : UInt32) (retuning : Retuning) :
    let reached := (Sensor.mk {} (TouchPads.fresh board controller wokeBy)).actAll history
    let outcome := retuning.apply reached now
    (outcome.value.fault = none → Retuned retuning reached outcome.value.state) ∧
      (outcome.value.fault ≠ none → outcome.value.state = reached ∧ outcome.events = []) := by
  intro reached outcome
  have unbound : Listed (Sensor.mk {} (TouchPads.fresh board controller wokeBy)) := List.forall_mem_nil _
  have listed : Listed reached := unbound.actAll Recognizer.sound_fresh unregistered
  have sound : reached.recognizer.Sound := sound_actAll Recognizer.sound_fresh history
  rcases apply_refused_or_retuned listed sound now retuning with ⟨fault, refused⟩ | ⟨well, retuned⟩
  · have same : outcome = .quiet (.failed reached fault) := refused
    rw [same]
    exact ⟨nofun, fun _ => ⟨rfl, rfl⟩⟩
  · exact ⟨fun _ => retuned, fun faulty => absurd well faulty⟩

/-- A key that was moved to another pad is listed twice, on the old pad and on the new one, and the controller
answers nothing but faults: it comes up all the same when the thresholds are raised. -/
theorem retuning_frees_moved_key_despite_faults :
    let key : Key := ⟨1, .touch⟩
    let start : Action TouchPads := .operation (.start { roster := ⟨[key], by decide⟩ })
    let faulty : Peripheral PadCommand := .failing (fun _ => true) .pad
    let history : List (UInt32 × Action TouchPads) := [(0, start),
      (0, .operation (.work (.refit { wiring := [(key, 5)] } faulty))), (10, start), (20, .call (.press 5 0))]
    let reached := (Sensor.mk {} (TouchPads.fresh { wiring := [(key, 3)] } .ideal none)).actAll history
    let raised := (Retuning.thresholds ⟨40, 8⟩).apply reached 60
    Unregistered history ∧ reached.source.pads.map Pad.channel = [3, 5] ∧
      reached.recognizer.isDown key = true ∧ raised.value.fault = none ∧
        Retuned (.thresholds ⟨40, 8⟩) reached raised.value.state := by
  intro key start faulty history reached raised
  have unregistered : Unregistered history := by simp [Unregistered, history, start]
  have well : raised.value.fault = none := by decide
  have pads : reached.source.pads.map Pad.channel = [3, 5] := by decide
  have held : reached.recognizer.isDown key = true := by decide
  have retuned := (retuning_frees_pads_or_changes_nothing { wiring := [(key, 3)] } .ideal none unregistered 60
    (.thresholds ⟨40, 8⟩)).1
  refine ⟨unregistered, pads, held, well, ?_⟩
  -- Both sides are the same runs as written; without this bound they would be evaluated to be compared.
  with_reducible exact retuned well

end KeyGesture.TouchPads
