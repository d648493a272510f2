import KeyGesture.Proofs.Sensor.Moves

namespace KeyGesture

/-! A sensor in service: started, fed with messages, switched and reprogrammed in any order, at any readings
of the clock. Until it is shut down its ticker runs whenever a gesture is under way. -/

namespace Sensor

variable {δ : Type} [EdgeSource δ]

/-- One message after the other, each at a reading of the clock of its own. -/
def processEach (sensor : Sensor δ) (messages : List (UInt32 × Message)) : Sensor δ :=
  messages.foldl (fun sensor moment => (sensor.process moment.1 moment.2).value) sensor

theorem processEach_concat (sensor : Sensor δ) (messages : List (UInt32 × Message))
    (moment : UInt32 × Message) : sensor.processEach (messages ++ [moment]) =
      ((sensor.processEach messages).process moment.1 moment.2).value :=
  List.foldl_concat _ _ _ _

theorem value_drain (sensor : Sensor δ) (now : UInt32) (mailbox : Mailbox) :
    (sensor.drain now mailbox).2.2.value = sensor.processEach (mailbox.waiting.map (now, ·)) := by
  rw [processEach, List.foldl_map]
  exact Outcome.value_foldlM _ sensor mailbox.waiting

end Sensor

/-- An operation of a sensor, or what is done to its hardware meanwhile. -/
inductive Operation (δ : Type) [EdgeSource δ] [SelfReporting δ] where
  | start (config : Config)
  | process (message : Message)
  | drain (mailbox : Mailbox)
  | setEnabled (enable : Bool)
  | shutDown (wakes : Bool)
  | work (work : SelfReporting.Work δ)

variable {δ : Type} [EdgeSource δ] [SelfReporting δ]

def Operation.isShutDown : Operation δ → Bool
  | .shutDown _ => true
  | .start _ | .process _ | .drain _ | .setEnabled _ | .work _ => false

namespace Sensor

def operate (sensor : Sensor δ) (now : UInt32) : Operation δ → Sensor δ
  | .start config => (sensor.start config).state
  | .process message => (sensor.process now message).value
  | .drain mailbox => (sensor.drain now mailbox).2.2.value
  | .setEnabled enable => (sensor.setEnabled now enable).value.state
  | .shutDown wakes => sensor.shutDown wakes
  | .work work => SelfReporting.carryOut sensor now work

def serve (sensor : Sensor δ) (history : List (UInt32 × Operation δ)) : Sensor δ :=
  history.foldl (fun sensor moment => sensor.operate moment.1 moment.2) sensor

theorem serve_concat (sensor : Sensor δ) (history : List (UInt32 × Operation δ))
    (moment : UInt32 × Operation δ) :
    sensor.serve (history ++ [moment]) = (sensor.serve history).operate moment.1 moment.2 :=
  List.foldl_concat _ _ _ _

/-- The recognizer and the intake, which is what steps are about. -/
def atIntake (sensor : Sensor δ) : Sensor Intake :=
  sensor.focus SelfReporting.intake

theorem tickPeriod_eq (sensor : Sensor δ) : sensor.tickPeriod = sensor.atIntake.source.ticker.period :=
  SelfReporting.tickPeriod_eq sensor.source

theorem moves_process (sensor : Sensor δ) (now : UInt32) (message : Message) :
    sensor.atIntake.Moves (sensor.process now message).value.atIntake := by
  cases message with
  | setEnabled enable => exact SelfReporting.setEnabled sensor now enable
  | heldAtStart | pressed | released | tick => exact SelfReporting.handle sensor now _

theorem moves_processEach (sensor : Sensor δ) (messages : List (UInt32 × Message)) :
    sensor.atIntake.Moves (sensor.processEach messages).atIntake := by
  refine List.foldlRecOn
    (motive := fun between : Sensor δ => sensor.atIntake.Moves between.atIntake) _ _ .refl ?_
  exact fun between path moment _ => path.trans (between.moves_process moment.1 moment.2)

theorem moves_drain (sensor : Sensor δ) (now : UInt32) (mailbox : Mailbox) :
    sensor.atIntake.Moves (sensor.drain now mailbox).2.2.value.atIntake := by
  rw [value_drain]
  exact sensor.moves_processEach _

theorem steps_operate (sensor : Sensor δ) (now : UInt32) {operation : Operation δ}
    (inUse : operation.isShutDown = false) :
    sensor.atIntake.Steps (sensor.operate now operation).atIntake := by
  cases operation with
  | start config =>
      let timed : Sensor δ := { sensor with recognizer := sensor.recognizer.setTiming config.timing }
      exact .head (.timed config.timing) (SelfReporting.attach timed config)
  | process message => exact (sensor.moves_process now message).steps
  | drain mailbox => exact (sensor.moves_drain now mailbox).steps
  | setEnabled enable => exact (SelfReporting.setEnabled sensor now enable).steps
  | shutDown wakes => contradiction
  | work work => exact (SelfReporting.carriesOut sensor now work).steps

theorem isShutDown_shutDown (sensor : Sensor δ) (wakes : Bool) :
    (sensor.shutDown wakes).atIntake.source.isShutDown = true :=
  SelfReporting.detach sensor.source wakes

/-! What steps keep. -/

variable {before after : Sensor Intake}

theorem Move.isShutDown_eq (move : before.Move after) :
    after.source.isShutDown = before.source.isShutDown := by
  cases move with
  | heldAtStart | pressed | lifted | ended => rfl
  | ticked now => exact before.source_tick now fun _ => rfl

theorem Step.isShutDown_eq (step : before.Step after) :
    after.source.isShutDown = before.source.isShutDown := by
  cases step with
  | moved move => exact move.isShutDown_eq
  | timed => rfl
  | registered accepted =>
      obtain ⟨_, _, _, rfl⟩ := register?_eq_some_iff.mp accepted
      rfl

theorem Steps.isShutDown_eq (steps : before.Steps after) :
    after.source.isShutDown = before.source.isShutDown := by
  induction steps with
  | refl => rfl
  | tail _ step ih => exact step.isShutDown_eq.trans ih

theorem isShutDown_operate (sensor : Sensor δ) (now : UInt32) (operation : Operation δ) :
    (sensor.operate now operation).atIntake.source.isShutDown =
      (sensor.atIntake.source.isShutDown || operation.isShutDown) := by
  cases ending : operation.isShutDown with
  | false => rw [(sensor.steps_operate now ending).isShutDown_eq, Bool.or_false]
  | true =>
      cases operation with
      | shutDown wakes => rw [Bool.or_true]; exact sensor.isShutDown_shutDown wakes
      | start | process | drain | setEnabled | work => contradiction

theorem isShutDown_serve_eq (sensor : Sensor δ) (history : List (UInt32 × Operation δ)) :
    (sensor.serve history).atIntake.source.isShutDown =
      (sensor.atIntake.source.isShutDown || history.any fun moment => moment.2.isShutDown) := by
  induction history generalizing sensor with
  | nil => exact (Bool.or_false _).symm
  | cons moment rest ih =>
      rw [List.any_cons, ← Bool.or_assoc, ← sensor.isShutDown_operate moment.1 moment.2]
      exact ih _

theorem isShutDown_serve (sensor : Sensor δ) {history : List (UInt32 × Operation δ)}
    (inUse : ∀ moment ∈ history, moment.2.isShutDown = false) :
    (sensor.serve history).atIntake.source.isShutDown = sensor.atIntake.source.isShutDown := by
  have never : history.any (fun moment => moment.2.isShutDown) = false :=
    List.any_eq_false.mpr fun moment member => Bool.eq_false_iff.mp (inUse moment member)
  rw [isShutDown_serve_eq, never, Bool.or_false]

theorem Move.sound (sound : before.recognizer.Sound) (move : before.Move after) :
    after.recognizer.Sound := by
  cases move with
  | heldAtStart now channel => exact sound.press now channel _
  | pressed now channel => exact sound.press now channel _
  | lifted lifted => exact lifted.sound sound
  | ticked now =>
      rw [value_tick]
      exact sound.tick now
  | ended => exact sound

theorem Step.sound (sound : before.recognizer.Sound) (step : before.Step after) :
    after.recognizer.Sound := by
  cases step with
  | moved move => exact move.sound sound
  | timed timing => exact sound.setTiming timing
  | registered accepted =>
      obtain ⟨_, _, done, rfl⟩ := register?_eq_some_iff.mp accepted
      exact sound.register done

theorem Steps.sound (sound : before.recognizer.Sound) (steps : before.Steps after) :
    after.recognizer.Sound := by
  induction steps with
  | refl => exact sound
  | tail _ step ih => exact step.sound ih

theorem sound_operate {sensor : Sensor δ} (sound : sensor.recognizer.Sound) (now : UInt32)
    (operation : Operation δ) : (sensor.operate now operation).recognizer.Sound := by
  cases ending : operation.isShutDown with
  | false => exact (sensor.steps_operate now ending).sound sound
  | true =>
      cases operation with
      | shutDown wakes => exact sound.mute
      | start | process | drain | setEnabled | work => contradiction

/-- While the hardware is in use, either the ticker runs or nothing is under way. -/
structure Attended (sensor : Sensor Intake) : Prop where
  sound : sensor.recognizer.Sound
  ticking : sensor.source.isShutDown = false →
    sensor.source.ticker.period = some checkPeriod ∨
      sensor.source.ticker.period = none ∧ sensor.recognizer.AtRest

namespace Attended

theorem fresh {source : δ} (stopped : (SelfReporting.intake source).ticker.period = none) :
    (Sensor.mk {} source).atIntake.Attended :=
  ⟨Recognizer.sound_fresh, fun _ => .inr ⟨stopped, List.forall_mem_nil _, rfl⟩⟩

theorem period_ensure (attended : before.Attended) (inUse : before.source.isShutDown = false) :
    (before.source.ticker.ensure checkPeriod).period = some checkPeriod := by
  rw [Ticker.period_ensure]
  rcases attended.ticking inUse with running | ⟨stopped, _⟩
  · rw [running, Option.getD_some]
  · rw [stopped, Option.getD_none]

theorem tick (attended : before.Attended) (now : UInt32) : (before.tick now .rest).value.Attended := by
  rw [value_tick]
  refine ⟨attended.sound.tick now, ?_⟩
  dsimp only
  split
  · rename_i settled
    exact fun _ => .inr ⟨rfl, Recognizer.atRest_of_settled settled⟩
  · rename_i unsettled
    intro inUse
    rcases attended.ticking inUse with running | ⟨_, atRest⟩
    · exact .inl running
    · exact absurd (by rw [atRest.tick_eq]; rfl) unsettled

theorem move (attended : before.Attended) (move : before.Move after) : after.Attended := by
  refine ⟨move.sound attended.sound, ?_⟩
  cases move with
  | heldAtStart | pressed => exact fun inUse => .inl (attended.period_ensure inUse)
  | lifted lifted =>
      exact fun inUse => (attended.ticking inUse).imp_right fun ⟨stopped, atRest⟩ =>
        ⟨stopped, lifted.atRest attended.sound atRest⟩
  | ticked now => exact (attended.tick now).ticking
  | ended retired => exact fun inUse => absurd (retired.symm.trans inUse) (by decide)

theorem step (attended : before.Attended) (step : before.Step after) : after.Attended := by
  refine ⟨step.sound attended.sound, ?_⟩
  cases step with
  | moved move => exact (attended.move move).ticking
  | timed timing =>
      exact fun inUse => (attended.ticking inUse).imp_right fun ⟨stopped, atRest⟩ =>
        ⟨stopped, atRest.idle, atRest.unchorded⟩
  | registered accepted =>
      obtain ⟨_, _, done, rfl⟩ := register?_eq_some_iff.mp accepted
      exact fun inUse => (attended.ticking inUse).imp_right fun ⟨stopped, atRest⟩ =>
        ⟨stopped, atRest.register done⟩

theorem moves (attended : before.Attended) (moves : before.Moves after) : after.Attended := by
  induction moves with
  | refl => exact attended
  | tail _ move ih => exact ih.move move

theorem steps (attended : before.Attended) (steps : before.Steps after) : after.Attended := by
  induction steps with
  | refl => exact attended
  | tail _ step ih => exact ih.step step

theorem operate {sensor : Sensor δ} (attended : sensor.atIntake.Attended) (now : UInt32)
    (operation : Operation δ) : (sensor.operate now operation).atIntake.Attended := by
  cases ending : operation.isShutDown with
  | false => exact attended.steps (sensor.steps_operate now ending)
  | true =>
      cases operation with
      | shutDown wakes =>
          exact ⟨attended.sound.mute, fun inUse =>
            absurd ((sensor.isShutDown_shutDown wakes).symm.trans inUse) (by decide)⟩
      | start | process | drain | setEnabled | work => contradiction

theorem serve {sensor : Sensor δ} (attended : sensor.atIntake.Attended)
    (history : List (UInt32 × Operation δ)) : (sensor.serve history).atIntake.Attended :=
  List.foldlRecOn (motive := fun between : Sensor δ => between.atIntake.Attended) _ _ attended
    fun _ kept moment _ => kept.operate moment.1 moment.2

theorem processEach {sensor : Sensor δ} (attended : sensor.atIntake.Attended)
    (messages : List (UInt32 × Message)) : (sensor.processEach messages).atIntake.Attended :=
  attended.moves (sensor.moves_processEach messages)

end Attended

end Sensor

end KeyGesture
