import KeyGesture.Proofs.Sensor.GateRelease

namespace KeyGesture

/-! Everything that can be done with a sensor. Whoever has one can also call its recognizer without the
hardware knowing, and so register keys that the hardware has no part in. -/

namespace Recognizer

/-- Only a registration binds keys. -/
theorem bindings_answer (recognizer : Recognizer) (now : UInt32) {call : Call}
    (unregistered : ∀ key channel, call ≠ .register key channel) :
    (recognizer.answer now call).value.2.bindings = recognizer.bindings := by
  cases call with
  | register key channel => exact absurd rfl (unregistered key channel)
  | press channel backdate => exact recognizer.bindings_press now channel backdate
  | release channel => exact recognizer.bindings_release now channel
  | tick => exact recognizer.bindings_tick now
  | setTiming | mute | resume => rfl

end Recognizer

/-- An operation of a sensor, or a call of its recognizer alone. -/
inductive Action (δ : Type) [EdgeSource δ] [SelfReporting δ] where
  | operation (operation : Operation δ)
  | call (call : Call)

variable {δ : Type} [EdgeSource δ] [SelfReporting δ]

namespace Sensor

def act (sensor : Sensor δ) (now : UInt32) : Action δ → Sensor δ
  | .operation operation => sensor.operate now operation
  | .call call => { sensor with recognizer := (sensor.recognizer.answer now call).value.2 }

def actAll (sensor : Sensor δ) (history : List (UInt32 × Action δ)) : Sensor δ :=
  history.foldl (fun sensor moment => sensor.act moment.1 moment.2) sensor

/-- What each action of a history keeps, the history keeps. -/
theorem actAll_keeps (kept : Sensor δ → Prop) {sensor : Sensor δ} (initially : kept sensor)
    {history : List (UInt32 × Action δ)}
    (each : ∀ moment ∈ history, ∀ between : Sensor δ, kept between → kept (between.act moment.1 moment.2)) :
    kept (sensor.actAll history) :=
  List.foldlRecOn (motive := kept) history _ initially fun between holds moment member =>
    each moment member between holds

theorem sound_act {sensor : Sensor δ} (sound : sensor.recognizer.Sound) (now : UInt32)
    (action : Action δ) : (sensor.act now action).recognizer.Sound := by
  cases action with
  | operation operation => exact sound_operate sound now operation
  | call call => exact sound.answer now call

theorem sound_actAll {sensor : Sensor δ} (sound : sensor.recognizer.Sound)
    (history : List (UInt32 × Action δ)) : (sensor.actAll history).recognizer.Sound :=
  actAll_keeps (fun between => between.recognizer.Sound) sound fun moment _ _ kept =>
    sound_act kept moment.1 moment.2

end Sensor

/-- Keys are registered by starts only. -/
def Unregistered (history : List (UInt32 × Action δ)) : Prop :=
  ∀ moment ∈ history, ∀ key channel, moment.2 ≠ .call (.register key channel)

/-- All work that is done spares a part of the hardware. -/
def Spared (spares : SelfReporting.Work δ → Prop) (history : List (UInt32 × Action δ)) : Prop :=
  ∀ moment ∈ history, ∀ work, moment.2 = .operation (.work work) → spares work

section Records

variable {α : Type} {part : δ → α} {spares : SelfReporting.Work δ → Prop} {sensor : Sensor δ}
  {action : Action δ} {history : List (UInt32 × Action δ)}

theorem Action.isStart_eq_false {operation : Operation δ}
    (unstarted : ∀ config, Action.operation operation ≠ .operation (.start config)) :
    operation.isStart = false := by
  cases operation with
  | start config => exact absurd rfl (unstarted config)
  | process | drain | setEnabled | shutDown | work => rfl

theorem LastsBetweenStarts.act (lasts : LastsBetweenStarts part spares) (sensor : Sensor δ) (now : UInt32)
    (unstarted : ∀ config, action ≠ .operation (.start config))
    (spared : ∀ work, action = .operation (.work work) → spares work) :
    part (sensor.act now action).source = part sensor.source := by
  cases action with
  | operation operation =>
      exact lasts.operate sensor now (Action.isStart_eq_false unstarted) fun work same =>
        spared work (congrArg Action.operation same)
  | call call => rfl

theorem Sensor.bindings_act (sensor : Sensor δ) (now : UInt32)
    (unstarted : ∀ config, action ≠ .operation (.start config))
    (unregistered : ∀ key channel, action ≠ .call (.register key channel)) :
    (sensor.act now action).recognizer.bindings = sensor.recognizer.bindings := by
  cases action with
  | operation operation => exact sensor.bindings_operate now (Action.isStart_eq_false unstarted)
  | call call =>
      exact sensor.recognizer.bindings_answer now fun key channel same =>
        unregistered key channel (congrArg Action.call same)

/-- What starts keep of a part that only they change is kept, whoever registers keys. -/
theorem LastsBetweenStarts.part_actAll (lasts : LastsBetweenStarts part spares) (kept : α → Prop)
    (start : ∀ (sensor : Sensor δ) config, kept (part sensor.source) →
      kept (part (sensor.start config).state.source))
    (initially : kept (part sensor.source)) (spared : Spared spares history) :
    kept (part (sensor.actAll history).source) := by
  refine sensor.actAll_keeps (fun between => kept (part between.source)) initially ?_
  rintro ⟨now, action⟩ member between holds
  by_cases starting : ∃ config, action = .operation (.start config)
  · obtain ⟨config, rfl⟩ := starting
    exact start between config holds
  · rw [lasts.act between now (not_exists.mp starting) (spared _ member)]
    exact holds

/-- What starts keep of the bindings and of a part that only they change is kept, if they alone register
keys. -/
theorem LastsBetweenStarts.record_actAll (lasts : LastsBetweenStarts part spares)
    (kept : List (Key × Nat) → α → Prop)
    (start : ∀ (sensor : Sensor δ) config, sensor.recognizer.Sound →
      kept sensor.recognizer.bindings (part sensor.source) →
      kept (sensor.start config).state.recognizer.bindings (part (sensor.start config).state.source))
    (sound : sensor.recognizer.Sound) (initially : kept sensor.recognizer.bindings (part sensor.source))
    (unregistered : Unregistered history) (spared : Spared spares history) :
    kept (sensor.actAll history).recognizer.bindings (part (sensor.actAll history).source) := by
  refine (sensor.actAll_keeps (fun between => between.recognizer.Sound ∧
    kept between.recognizer.bindings (part between.source)) ⟨sound, initially⟩ ?_).2
  rintro ⟨now, action⟩ member between ⟨soundThen, holds⟩
  refine ⟨Sensor.sound_act soundThen now action, ?_⟩
  by_cases starting : ∃ config, action = .operation (.start config)
  · obtain ⟨config, rfl⟩ := starting
    exact start between config soundThen holds
  · have unstarted := not_exists.mp starting
    rw [lasts.act between now unstarted (spared _ member),
      between.bindings_act now unstarted (unregistered _ member)]
    exact holds

end Records

end KeyGesture
