import KeyGesture.Proofs.Sensor.GateRelease
import KeyGesture.Proofs.Sensor.Unrolling

namespace KeyGesture

/-! How touch pads count ticks while keys are held. The count is shared by all pads. Every release sets it
back to zero, whether it is reported by the controller or is made here; apart from that it goes up with every
tick, until it may not go higher and all pads are freed. -/

namespace TouchPads

open Sensor

variable {sensor : Sensor TouchPads} {now : UInt32}

/-! Ways to free all pads. -/

theorem recounted_releaseIfDown (sensor : Sensor TouchPads) (now : UInt32) (pad : Pad) :
    Recounted sensor (releaseIfDown sensor now pad).value := by
  rw [releaseIfDown]
  split
  · exact .inr rfl
  · exact .inl rfl

theorem up_releaseIfDown (sound : sensor.recognizer.Sound) (now : UInt32) {pad : Pad}
    (bound : (pad.key, pad.channel) ∈ sensor.recognizer.bindings) :
    (releaseIfDown sensor now pad).value.recognizer.isDown pad.key = false := by
  rw [releaseIfDown]
  split
  · exact up_release sound now bound
  · rename_i up
    exact Bool.eq_false_iff.mpr up

theorem frees_setPadThresholds (now : UInt32) (thresholds : Thresholds) :
    Frees now (setPadThresholds now thresholds) where
  freed sensor pad := freed_setPadThresholds sensor now thresholds pad
  recounted sensor pad := recounted_releaseIfDown sensor now pad
  up _ _ sound bound := up_releaseIfDown sound now bound

theorem frees_setPadTriggers (now : UInt32) (triggers : Triggers) :
    Frees now (setPadTriggers now triggers) where
  freed sensor pad := freed_setPadTriggers sensor now triggers pad
  recounted sensor pad := recounted_releaseIfDown sensor now pad
  up _ _ sound bound := up_releaseIfDown sound now bound

theorem Frees.recounted_foldlM {free : Sensor TouchPads → Pad → Outcome (Sensor TouchPads)}
    (frees : Frees now free) (sensor : Sensor TouchPads) (pads : List Pad) :
    Recounted sensor (pads.foldlM free sensor).value := by
  rw [Outcome.value_foldlM]
  refine List.foldlRecOn (motive := Recounted sensor) pads _ (.inl rfl) ?_
  intro between kept pad _
  rcases frees.recounted between pad with same | zero
  · exact kept.imp same.trans same.trans
  · exact .inr zero

/-- The count is as it was, or counting starts over with all keys up. -/
def KeepsCount (before after : Sensor TouchPads) : Prop :=
  after.source.heldTicks = before.source.heldTicks ∨
    after.source.heldTicks = 0 ∧ ∀ key, after.recognizer.isDown key = false

theorem Frees.keepsCount {free : Sensor TouchPads → Pad → Outcome (Sensor TouchPads)}
    (frees : Frees now free) (listed : Listed sensor) (sound : sensor.recognizer.Sound) :
    KeepsCount sensor (sensor.source.pads.foldlM free sensor).value :=
  (frees.recounted_foldlM sensor _).imp_right fun zero => ⟨zero, frees.allUp listed sound⟩

theorem keepsCount_setEnabled (listed : Listed sensor) (sound : sensor.recognizer.Sound) (now : UInt32)
    (enable : Bool) : KeepsCount sensor (setEnabled sensor now enable).value.state := by
  rw [setEnabled]
  split
  · cases enable with
    | true => exact .inl rfl
    | false =>
        let gated := sensor.mapSource fun touch => { touch with isEnabled := false }
        have listedGated : Listed gated := listed
        exact (frees_freePad now).keepsCount listedGated sound
  · exact .inl rfl

theorem keepsCount_adjustThresholds (listed : Listed sensor) (sound : sensor.recognizer.Sound)
    (now : UInt32) (rise : Thresholds) :
    KeepsCount sensor (adjustThresholds sensor now rise).value.state :=
  state_of_checked sensor (KeepsCount sensor) (.inl rfl) fun _ _ =>
    (frees_setPadThresholds now _).keepsCount listed sound

theorem keepsCount_adjustTriggers (listed : Listed sensor) (sound : sensor.recognizer.Sound)
    (now : UInt32) (wanted : Triggers) :
    KeepsCount sensor (adjustTriggers sensor now wanted).value.state :=
  state_of_checked sensor (KeepsCount sensor) (.inl rfl) fun _ _ =>
    (frees_setPadTriggers now _).keepsCount listed sound

/-! One operation at a time. -/

/-- A tick is counted and no key moves, or as many are counted as may be and all keys are freed. -/
theorem process_tick_cases (listed : Listed sensor) (sound : sensor.recognizer.Sound) (now : UInt32) :
    let ticked := (sensor.process now .tick).value
    (sensor.source.heldTicks < maxHeldTicks ∧ ticked.source.heldTicks = sensor.source.heldTicks + 1 ∧
        ∀ key, ticked.recognizer.isDown key = sensor.recognizer.isDown key) ∨
      maxHeldTicks ≤ sensor.source.heldTicks ∧ ticked.source.heldTicks = 0 ∧
        ∀ key, ticked.recognizer.isDown key = false := by
  intro ticked
  let checked := (selfRelease sensor now).value
  have reached : ticked = (tick checked now).value := rfl
  have soundChecked : checked.recognizer.Sound := (freed_selfRelease sensor now).lifted.sound sound
  have count : ticked.source.heldTicks = checked.source.heldTicks :=
    source_tick checked now fun _ => rfl
  have keys (key : Key) : ticked.recognizer.isDown key = checked.recognizer.isDown key :=
    Bool.eq_iff_iff.mpr (isDown_tick soundChecked)
  rw [count]
  simp only [keys]
  by_cases below : sensor.source.heldTicks < maxHeldTicks
  · have counted : checked =
        sensor.mapSource fun touch => { touch with heldTicks := touch.heldTicks + 1 } := by
      simp only [checked, selfRelease, below, if_true, Outcome.quiet]
    rw [counted]
    exact .inl ⟨below, rfl, fun _ => rfl⟩
  · let forgotten := sensor.mapSource forgetHold
    have freed : checked = (releaseHeld forgotten now).value := by
      simp only [checked, selfRelease, below, if_false, forgotten]
    have listedForgotten : Listed forgotten := listed
    have zero : (releaseHeld forgotten now).value.source.heldTicks = 0 :=
      ((frees_freePad now).recounted_foldlM forgotten _).elim id id
    rw [freed]
    exact .inr ⟨Nat.le_of_not_lt below, zero, listedForgotten.up_releaseHeld sound now⟩

/-- Besides ticks only releases make a difference to the count, those that come in and those made here. -/
theorem keepsCount_operate (listed : Listed sensor) (sound : sensor.recognizer.Sound) (now : UInt32)
    {operation : Operation TouchPads} (single : operation.isDrain = false)
    (unticked : .tick ∉ operation.messages) (unreleased : ∀ channel, .released channel ∉ operation.messages) :
    KeepsCount sensor (sensor.operate now operation) := by
  cases operation with
  | start config =>
      let timed : Sensor TouchPads :=
        { sensor with recognizer := sensor.recognizer.setTiming config.timing }
      exact .inl (source_attach timed heldTicks (fun _ _ _ _ _ _ => rfl) config)
  | process message =>
      cases message with
      | heldAtStart channel => exact .inl rfl
      | pressed channel =>
          refine .inl ?_
          change (handle sensor now (.pressed channel)).value.source.heldTicks = _
          rw [handle]
          split <;> rfl
      | released channel => exact absurd (List.mem_singleton_self _) (unreleased channel)
      | tick => exact absurd (List.mem_singleton_self _) unticked
      | setEnabled enable => exact keepsCount_setEnabled listed sound now enable
  | drain mailbox => contradiction
  | setEnabled enable => exact keepsCount_setEnabled listed sound now enable
  | shutDown wakes => cases wakes <;> exact .inl rfl
  | work work =>
      cases work with
      | refit board controller => exact .inl rfl
      | adjustThresholds rise => exact keepsCount_adjustThresholds listed sound now rise
      | adjustTriggers wanted => exact keepsCount_adjustTriggers listed sound now wanted

/-- What holds of pads whatever was done with them. -/
structure InService (sensor : Sensor TouchPads) : Prop where
  attended : sensor.atIntake.Attended
  listed : Listed sensor
  bounded : sensor.source.heldTicks ≤ maxHeldTicks

namespace InService

theorem fresh (board : Board) (controller : Peripheral PadCommand) (wokeBy : Option WakeSource) :
    InService (Sensor.mk {} (TouchPads.fresh board controller wokeBy)) :=
  ⟨.fresh rfl, List.forall_mem_nil _, Nat.zero_le _⟩

theorem sound (service : InService sensor) : sensor.recognizer.Sound :=
  service.attended.sound

theorem bounded_operate (service : InService sensor) (now : UInt32) {operation : Operation TouchPads}
    (single : operation.isDrain = false) :
    (sensor.operate now operation).source.heldTicks ≤ maxHeldTicks := by
  rcases operation.tick_or_released_or_other single with rfl | ⟨channel, rfl⟩ | ⟨unticked, unreleased⟩
  · rcases process_tick_cases service.listed service.sound now with ⟨below, count, _⟩ | ⟨_, count, _⟩
    · exact Nat.le_trans (Nat.le_of_eq count) below
    · exact Nat.le_trans (Nat.le_of_eq count) (Nat.zero_le _)
  · exact Nat.zero_le _
  · have keeps := keepsCount_operate service.listed service.sound now single unticked unreleased
    rcases keeps with same | ⟨zero, _⟩
    · exact Nat.le_trans (Nat.le_of_eq same) service.bounded
    · exact Nat.le_trans (Nat.le_of_eq zero) (Nat.zero_le _)

theorem operate (service : InService sensor) (now : UInt32) {operation : Operation TouchPads}
    (single : operation.isDrain = false) : InService (sensor.operate now operation) :=
  ⟨service.attended.operate now operation, service.listed.operate service.sound now operation,
    service.bounded_operate now single⟩

/-- For histories of one message at a time this is an induction, and all histories come to the same. -/
theorem serve (service : InService sensor) (history : List (UInt32 × Operation TouchPads)) :
    InService (sensor.serve history) := by
  rw [← sensor.serve_unroll]
  exact List.foldlRecOn (motive := InService) _ _ service
    fun _ kept moment member => kept.operate moment.1 (isDrain_unroll member)

end InService

end TouchPads

end KeyGesture
