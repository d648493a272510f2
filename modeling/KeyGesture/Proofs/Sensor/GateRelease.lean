import Mathlib.Data.List.Induction
import KeyGesture.Proofs.Sensor.ClosedGate

namespace KeyGesture

/-! Which keys a gate releases when it closes: those on the channels the hardware has on record. The record is
made by starts and by nothing else, so is the binding of keys to channels, and a start can fail between the
two. -/

namespace Sensor

variable {before after : Sensor Intake}

theorem Move.bindings_eq (move : before.Move after) :
    after.recognizer.bindings = before.recognizer.bindings := by
  cases move with
  | heldAtStart now channel => exact before.recognizer.bindings_press now channel _
  | pressed now channel => exact before.recognizer.bindings_press now channel _
  | lifted lifted => exact lifted.bindings_eq
  | ticked now =>
      rw [value_tick]
      exact before.recognizer.bindings_tick now
  | ended => rfl

theorem Moves.bindings_eq (moves : before.Moves after) :
    after.recognizer.bindings = before.recognizer.bindings := by
  induction moves with
  | refl => rfl
  | tail _ move ih => exact move.bindings_eq.trans ih

end Sensor

section Starts

variable {δ α : Type} [EdgeSource δ] [SelfReporting δ] {part : δ → α}

def Operation.isStart : Operation δ → Bool
  | .start _ => true
  | .process _ | .drain _ | .setEnabled _ | .shutDown _ | .work _ => false

/-- A part of the hardware that stays as it is between starts, unless work is done that does not spare it. -/
structure LastsBetweenStarts (part : δ → α) (spares : SelfReporting.Work δ → Prop) : Prop where
  process : ∀ (sensor : Sensor δ) now message,
    part (sensor.process now message).value.source = part sensor.source
  carryOut : ∀ (sensor : Sensor δ) now work, spares work →
    part (SelfReporting.carryOut sensor now work).source = part sensor.source
  detach : ∀ source wakes, part (EdgeSource.detach source wakes) = part source

namespace LastsBetweenStarts

variable {spares : SelfReporting.Work δ → Prop}

theorem processEach (lasts : LastsBetweenStarts part spares) (sensor : Sensor δ)
    (messages : List (UInt32 × Message)) :
    part (sensor.processEach messages).source = part sensor.source :=
  List.foldlRecOn (motive := fun between : Sensor δ => part between.source = part sensor.source) _ _ rfl
    fun between kept moment _ => (lasts.process between moment.1 moment.2).trans kept

theorem operate (lasts : LastsBetweenStarts part spares) (sensor : Sensor δ) (now : UInt32)
    {operation : Operation δ} (unstarted : operation.isStart = false)
    (spared : ∀ work, operation = .work work → spares work) :
    part (sensor.operate now operation).source = part sensor.source := by
  cases operation with
  | start config => contradiction
  | process message => exact lasts.process sensor now message
  | drain mailbox =>
      rw [Sensor.operate, Sensor.value_drain]
      exact lasts.processEach sensor _
  | setEnabled enable => exact lasts.process sensor now (.setEnabled enable)
  | shutDown wakes => exact lasts.detach sensor.source wakes
  | work work => exact lasts.carryOut sensor now work (spared work rfl)

end LastsBetweenStarts

/-- A part of the hardware that stays as it is between starts, whatever work is done. -/
abbrev SetAtStart (part : δ → α) : Prop :=
  LastsBetweenStarts part fun _ => True

theorem SetAtStart.operate (setAtStart : SetAtStart part) (sensor : Sensor δ) (now : UInt32)
    {operation : Operation δ} (unstarted : operation.isStart = false) :
    part (sensor.operate now operation).source = part sensor.source :=
  LastsBetweenStarts.operate setAtStart sensor now unstarted fun _ _ => trivial

theorem Sensor.bindings_operate (sensor : Sensor δ) (now : UInt32) {operation : Operation δ}
    (unstarted : operation.isStart = false) :
    (sensor.operate now operation).recognizer.bindings = sensor.recognizer.bindings := by
  cases operation with
  | start config => contradiction
  | process message => exact (sensor.moves_process now message).bindings_eq
  | drain mailbox => exact (sensor.moves_drain now mailbox).bindings_eq
  | setEnabled enable => exact (sensor.moves_process now (.setEnabled enable)).bindings_eq
  | shutDown wakes => rfl
  | work work => exact Sensor.Moves.bindings_eq (SelfReporting.carriesOut sensor now work)

end Starts

namespace GatedLine

variable {sensor : Sensor GatedLine} {key : Key}

/-- The board is not replaced. -/
def SparesBoard : SelfReporting.Work GatedLine → Prop :=
  fun _ => False

/-- What messages do not move lasts as long as the board does, if shutting down leaves it alone. -/
theorem lastsBetweenStarts {α : Type} (part : GatedLine → α)
    (same : ∀ (line : GatedLine) toIntake isEnabled, part { line with toIntake, isEnabled } = part line)
    (detach : ∀ line wakes, part (GatedLine.detach line wakes) = part line) :
    LastsBetweenStarts part SparesBoard := by
  refine ⟨fun sensor now message => ?_, fun _ _ _ spared => spared.elim, detach⟩
  cases message with
  | heldAtStart channel => exact same sensor.source _ _
  | pressed channel =>
      change part (handle sensor now (.pressed channel)).value.source = _
      rw [handle]
      split
      · rfl
      · exact same sensor.source _ _
  | released channel =>
      change part (handle sensor now (.released channel)).value.source = _
      rw [handle]
      split <;> rfl
  | tick =>
      change part (handle sensor now .tick).value.source = _
      rw [handle]
      split
      · rfl
      · exact sensor.source_tick now fun line => same line _ _
  | setEnabled enable =>
      exact (congrArg part (source_setEnabled sensor now enable)).trans (same sensor.source _ _)

theorem channel?_detach (line : GatedLine) (wakes : Bool) : (detach line wakes).channel? = line.channel? := by
  unfold detach
  split <;> rfl

theorem setAtStart_channel? : SetAtStart GatedLine.channel? where
  process := (lastsBetweenStarts GatedLine.channel? (fun _ _ _ => rfl) channel?_detach).process
  carryOut _ _ _ _ := rfl
  detach := channel?_detach

/-- Closing releases the key on the recorded channel and no other. -/
theorem isDown_closing (sound : sensor.recognizer.Sound) (now : UInt32) (key : Key) :
    (setEnabled sensor now false).value.state.recognizer.isDown key = true ↔
      sensor.recognizer.isDown key = true ∧ sensor.recognizer.channelOf? key ≠ sensor.source.channel? := by
  cases recorded : sensor.source.channel? with
  | none =>
      have unreleased : (setEnabled sensor now false).value.state.recognizer = sensor.recognizer := by
        simp only [setEnabled, recorded]
        rfl
      rw [unreleased, iff_self_and]
      intro down
      obtain ⟨channel, bound⟩ := sound.exists_binding_of_isDown down
      rw [sound.mem_bindings_iff.mp bound]
      exact Option.some_ne_none channel
  | some channel =>
      have released : (setEnabled sensor now false).value.state.recognizer =
          (sensor.recognizer.release now channel).value := by
        simp only [setEnabled, recorded]
        rfl
      rw [released]
      exact sound.isDown_release now channel

/-- The key is the only one there is, and its channel is on record. -/
def Recorded (key : Key) (sensor : Sensor GatedLine) : Prop :=
  ∀ binding ∈ sensor.recognizer.bindings, binding.1 = key ∧ sensor.source.channel? = some binding.2

theorem Recorded.up_closing (recorded : Recorded key sensor) (sound : sensor.recognizer.Sound)
    (now : UInt32) (other : Key) :
    (setEnabled sensor now false).value.state.recognizer.isDown other = false := by
  rw [Bool.eq_false_iff, ne_eq, isDown_closing sound]
  rintro ⟨down, elsewhere⟩
  obtain ⟨channel, bound⟩ := sound.exists_binding_of_isDown down
  exact elsewhere ((sound.mem_bindings_iff.mp bound).trans (recorded _ bound).2.symm)

theorem Recorded.attach {config : Config} (recorded : Recorded key sensor)
    (sound : sensor.recognizer.Sound) (first : (config.roster.withSource .external).head? = some key)
    (well : (attach sensor config).fault = none) : Recorded key (attach sensor config).state := by
  simp only [GatedLine.attach, first] at well ⊢
  split at well
  · contradiction
  · split at well
    · contradiction
    · rename_i channel _ _ registered accepted
      obtain ⟨number, recognizer, done, rfl⟩ := Sensor.register?_eq_some_iff.mp accepted
      let attached := (sensor.source.issue (.enable channel .external config.timing.debounce)).andThen
        fun line : GatedLine => .done { line with channel? := some channel }
      have noted : attached.state.channel? = some channel :=
        congrArg (·.state.channel?) (Attempt.andThen_of_fault_eq_none (show attached.fault = none from well))
      intro binding member
      rcases sound.binding_of_register done binding member with rfl | ⟨old, foreign⟩
      · exact ⟨rfl, noted⟩
      · exact absurd (recorded binding old).1 foreign

end GatedLine

namespace TouchPads

variable {sensor : Sensor TouchPads} {now : UInt32}

/-- The board is not replaced. -/
def SparesBoard : SelfReporting.Work TouchPads → Prop
  | .refit _ _ => False
  | .adjustThresholds _ | .adjustTriggers _ => True

/-- What messages do not move lasts as long as the board does, if shutting down leaves it alone. -/
theorem lastsBetweenStarts {α : Type} (part : TouchPads → α)
    (same : ∀ (touch : TouchPads) toIntake controller isEnabled heldTicks,
      part { touch with toIntake, controller, isEnabled, heldTicks } = part touch)
    (detach : ∀ touch wakes, part (TouchPads.detach touch wakes) = part touch) :
    LastsBetweenStarts part SparesBoard := by
  have freed {now : UInt32} {before after : Sensor TouchPads} (freed : Freed now before after) :
      part after.source = part before.source := by
    obtain ⟨controller, heldTicks, source⟩ := freed.source
    rw [source]
    exact same before.source _ _ _ _
  have intake (touch : TouchPads) (change : Intake → Intake) : part (touch.mapIntake change) = part touch :=
    same touch _ _ _ _
  refine ⟨fun sensor now message => ?_, fun sensor now work spared => ?_, detach⟩
  · cases message with
    | heldAtStart channel => exact intake sensor.source _
    | pressed channel =>
        change part (handle sensor now (.pressed channel)).value.source = _
        rw [handle]
        split
        · rfl
        · exact intake sensor.source _
    | released channel => exact freed (freed_release sensor now channel)
    | tick =>
        have ticked := source_tick (selfRelease sensor now).value now fun touch => intake touch _
        exact ticked.trans (freed (freed_selfRelease sensor now))
    | setEnabled enable =>
        obtain ⟨isEnabled, _, released⟩ := freed_setEnabled sensor now enable
        exact (freed released).trans (same sensor.source _ _ _ _)
  · cases work with
    | refit board controller => exact spared.elim
    | adjustThresholds rise => exact freed (freed_adjustThresholds sensor now rise)
    | adjustTriggers wanted => exact freed (freed_adjustTriggers sensor now wanted)

/-- What is neither moved by messages nor replaced with the board or the controller is set by attaching. -/
theorem setAtStart {α : Type} (part : TouchPads → α)
    (same : ∀ (touch : TouchPads) toIntake board controller isEnabled heldTicks,
      part { touch with toIntake, board, controller, isEnabled, heldTicks } = part touch) :
    SetAtStart part := by
  have detach (touch : TouchPads) (wakes : Bool) : part (TouchPads.detach touch wakes) = part touch := by
    cases wakes with
    | true => exact same touch _ _ _ _ _
    | false => exact same touch _ _ _ _ _
  have lasts := lastsBetweenStarts part (fun touch _ => same touch _ touch.board) detach
  refine ⟨lasts.process, fun sensor now work _ => ?_, detach⟩
  cases work with
  | refit board controller => exact same sensor.source _ _ _ _ _
  | adjustThresholds | adjustTriggers => exact lasts.carryOut sensor now _ trivial

theorem setAtStart_pads : SetAtStart TouchPads.pads :=
  setAtStart _ fun _ _ _ _ _ _ => rfl

/-- Every key is on a pad that is on record. -/
def Listed (sensor : Sensor TouchPads) : Prop :=
  ∀ binding ∈ sensor.recognizer.bindings, ⟨binding.2, binding.1⟩ ∈ sensor.source.pads

theorem Listed.addPad (listed : Listed sensor) (sound : sensor.recognizer.Sound) (key : Key) :
    Listed (addPad sensor key) := by
  unfold TouchPads.addPad
  split
  · exact listed
  · split
    · exact listed
    · split
      · exact listed
      · rename_i channel _ _ registered accepted
        obtain ⟨number, recognizer, done, rfl⟩ := Sensor.register?_eq_some_iff.mp accepted
        intro binding member
        refine List.mem_append.mpr ?_
        rcases sound.binding_of_register done binding member with rfl | ⟨old, _⟩
        · exact .inr (List.mem_singleton_self _)
        · exact .inl (listed binding old)

/-- Ticks go on being counted, or are counted from zero. -/
def Recounted (before after : Sensor TouchPads) : Prop :=
  after.source.heldTicks = before.source.heldTicks ∨ after.source.heldTicks = 0

/-- A way of freeing one pad, whose key comes up. -/
structure Frees (now : UInt32) (free : Sensor TouchPads → Pad → Outcome (Sensor TouchPads)) : Prop where
  freed : ∀ sensor pad, Freed now sensor (free sensor pad).value
  recounted : ∀ sensor pad, Recounted sensor (free sensor pad).value
  up : ∀ sensor pad, sensor.recognizer.Sound → (pad.key, pad.channel) ∈ sensor.recognizer.bindings →
    (free sensor pad).value.recognizer.isDown pad.key = false

theorem up_release (sound : sensor.recognizer.Sound) (now : UInt32) {pad : Pad}
    (bound : (pad.key, pad.channel) ∈ sensor.recognizer.bindings) :
    (release sensor now pad.channel).value.recognizer.isDown pad.key = false := by
  rw [Bool.eq_false_iff]
  intro down
  have released := (sound.isDown_release now pad.channel).mp down
  exact released.2 (sound.mem_bindings_iff.mp bound)

theorem frees_freePad (now : UInt32) : Frees now (freePad now) where
  freed sensor pad := freed_freePad sensor now pad
  recounted sensor pad := by
    rw [freePad]
    split
    · exact .inr rfl
    · exact .inl rfl
  up sensor pad sound bound := by
    rw [freePad]
    split
    · exact up_release sound now bound
    · rename_i up
      exact Bool.eq_false_iff.mpr up

namespace Frees

variable {free : Sensor TouchPads → Pad → Outcome (Sensor TouchPads)}

theorem foldlM (frees : Frees now free) (sensor : Sensor TouchPads) (pads : List Pad) :
    Freed now sensor (pads.foldlM free sensor).value :=
  .foldlM frees.freed sensor pads

/-- Each pad that its key is on has been freed at the end, and stays so while the others are. -/
theorem up_foldlM (frees : Frees now free) (sound : sensor.recognizer.Sound) (pads : List Pad) :
    ∀ pad ∈ pads, (pad.key, pad.channel) ∈ sensor.recognizer.bindings →
      (pads.foldlM free sensor).value.recognizer.isDown pad.key = false := by
  induction pads generalizing sensor with
  | nil => simp
  | cons first rest ih =>
      have freed := frees.freed sensor first
      have later := frees.foldlM (free sensor first).value rest
      rw [List.foldlM_cons, Outcome.value_bind]
      intro pad member bound
      rcases List.mem_cons.mp member with rfl | listed
      · have up := frees.up sensor pad sound bound
        rw [Bool.eq_false_iff] at up ⊢
        exact fun down => up (later.lifted.isDown_of_isDown (freed.lifted.sound sound) down)
      · refine ih (freed.lifted.sound sound) pad listed ?_
        rw [freed.lifted.bindings_eq]
        exact bound

theorem allUp (frees : Frees now free) (listed : Listed sensor) (sound : sensor.recognizer.Sound)
    (key : Key) :
    (sensor.source.pads.foldlM free sensor).value.recognizer.isDown key = false := by
  have lifted := (frees.foldlM sensor sensor.source.pads).lifted
  rw [Bool.eq_false_iff]
  intro down
  obtain ⟨channel, bound⟩ := (lifted.sound sound).exists_binding_of_isDown down
  rw [lifted.bindings_eq] at bound
  have up := frees.up_foldlM sound sensor.source.pads ⟨channel, key⟩ (listed _ bound) bound
  exact Bool.eq_false_iff.mp up down

end Frees

theorem Listed.up_releaseHeld (listed : Listed sensor) (sound : sensor.recognizer.Sound) (now : UInt32)
    (key : Key) : (releaseHeld sensor now).value.recognizer.isDown key = false :=
  (frees_freePad now).allUp listed sound key

theorem closing_of_fault_eq_none (well : (setEnabled sensor now false).value.fault = none) :
    (setEnabled sensor now false).value.state =
      (releaseHeld (sensor.mapSource fun touch => { touch with isEnabled := false }) now).value := by
  rw [setEnabled] at well ⊢
  split
  · rfl
  · rename_i unconfigured
    rw [if_neg unconfigured] at well
    contradiction

theorem pads_forEach_program (touch : TouchPads) (pads : List Pad) :
    (Attempt.forEach touch pads program).state.pads = touch.pads := by
  obtain ⟨_, _, programmed⟩ := forEach_program_state touch pads
  rw [programmed]

theorem Listed.attach (listed : Listed sensor) (sound : sensor.recognizer.Sound) (config : Config) :
    Listed (attach sensor config).state := by
  have bound : Listed ((config.roster.withSource .touch).foldl TouchPads.addPad sensor) := by
    refine (List.foldlRecOn
      (motive := fun between : Sensor TouchPads => between.recognizer.Sound ∧ Listed between)
      _ TouchPads.addPad ⟨sound, listed⟩ ?_).2
    exact fun between kept key _ =>
      ⟨(steps_addPad between key).sound kept.1, kept.2.addPad kept.1 key⟩
  unfold TouchPads.attach
  dsimp only
  split
  · exact bound
  · intro binding member
    change _ ∈ (Attempt.forEach _ _ program).state.pads
    rw [pads_forEach_program]
    exact bound binding member

/-- Whatever is done with the pads, all keys stay on record. -/
theorem Listed.operate (listed : Listed sensor) (sound : sensor.recognizer.Sound) (now : UInt32)
    (operation : Operation TouchPads) : Listed (sensor.operate now operation) := by
  cases starting : operation.isStart with
  | true =>
      cases operation with
      | start config =>
          have timed : Listed { sensor with recognizer := sensor.recognizer.setTiming config.timing } :=
            listed
          exact timed.attach (sound.setTiming config.timing) config
      | process | drain | setEnabled | shutDown | work => contradiction
  | false =>
      intro binding member
      rw [sensor.bindings_operate now starting] at member
      rw [setAtStart_pads.operate sensor now starting]
      exact listed binding member

theorem Listed.serve (listed : Listed sensor) (attended : sensor.atIntake.Attended)
    (history : List (UInt32 × Operation TouchPads)) : Listed (sensor.serve history) := by
  refine (List.foldlRecOn
    (motive := fun between : Sensor TouchPads => between.recognizer.Sound ∧ Listed between)
    history _ ⟨attended.sound, listed⟩ ?_).2
  exact fun _ kept moment _ =>
    ⟨Sensor.sound_operate kept.1 moment.1 moment.2, kept.2.operate kept.1 moment.1 moment.2⟩

end TouchPads

namespace GatedLine

variable {fresh : Sensor GatedLine} {key : Key}

/-- Every start so far was for the same first external key and went well. -/
def StartedFor (key : Key) (fresh : Sensor GatedLine) (history : List (UInt32 × Operation GatedLine)) :
    Prop :=
  ∀ earlier now config later, history = earlier ++ (now, .start config) :: later →
    (config.roster.withSource .external).head? = some key ∧
      ((fresh.serve earlier).start config).fault = none

theorem Recorded.serve (recorded : Recorded key fresh) (attended : fresh.atIntake.Attended)
    {history : List (UInt32 × Operation GatedLine)} (started : StartedFor key fresh history) :
    Recorded key (fresh.serve history) := by
  induction history using List.reverseRecOn with
  | nil => exact recorded
  | append_singleton earlier moment ih =>
      obtain ⟨now, operation⟩ := moment
      have before : Recorded key (fresh.serve earlier) := by
        refine ih fun first instant config later parts => ?_
        exact started first instant config (later ++ [(now, operation)]) (by simp [parts])
      rw [Sensor.serve_concat]
      cases starting : operation.isStart with
      | true =>
          cases operation with
          | start config =>
              obtain ⟨first, well⟩ := started earlier now config [] rfl
              let reached := fresh.serve earlier
              have timed :
                  Recorded key { reached with recognizer := reached.recognizer.setTiming config.timing } :=
                before
              exact timed.attach ((attended.serve earlier).sound.setTiming config.timing) first well
          | process | drain | setEnabled | shutDown | work => contradiction
      | false =>
          intro binding member
          rw [Sensor.bindings_operate _ now starting] at member
          rw [setAtStart_channel?.operate _ now starting]
          exact before binding member

end GatedLine

/-- A gate that closes, in whatever state the sensor is. On a gated line it releases the key whose channel is
on record, which is every key if all starts were for the same one and went well; a key that was bound but not
recorded, or whose record was replaced, stays down. On pads it releases all keys. From then on, until the
gate is opened, a key goes down only if it is found held at start. -/
theorem closing_gate_releases_recorded_keys (board : Board) (controller : Peripheral PadCommand)
    (wokeBy : Option WakeSource) :
    (∀ (history : List (UInt32 × Operation GatedLine)) (now : UInt32),
      let fresh : Sensor GatedLine := { source := .fresh board wokeBy }
      let reached := fresh.serve history
      let closing := (reached.setEnabled now false).value
      closing.fault = none ∧
        (∀ key, closing.state.recognizer.isDown key = true ↔ reached.recognizer.isDown key = true ∧
          reached.recognizer.channelOf? key ≠ reached.source.channel?) ∧
        (∀ only, GatedLine.StartedFor only fresh history →
          ∀ key, closing.state.recognizer.isDown key = false) ∧
        closing.state.ShutsOut) ∧
      ∀ (history : List (UInt32 × Operation TouchPads)) (now : UInt32),
        let fresh : Sensor TouchPads := { source := .fresh board controller wokeBy }
        let closing := ((fresh.serve history).setEnabled now false).value
        closing.fault = none →
          (∀ key, closing.state.recognizer.isDown key = false) ∧ closing.state.ShutsOut := by
  constructor
  · intro history now fresh reached closing
    have initially : fresh.atIntake.Attended := .fresh rfl
    have attended := initially.serve history
    refine ⟨rfl, GatedLine.isDown_closing attended.sound now, fun only started => ?_, ?_⟩
    · have unbound : GatedLine.Recorded only fresh := List.forall_mem_nil _
      exact (unbound.serve initially started).up_closing attended.sound now
    · refine GatedLine.gateCloses.shutsOut
        (attended.moves (SelfReporting.setEnabled reached now false)) ?_
      exact congrArg GatedLine.isEnabled (GatedLine.source_setEnabled reached now false)
  · intro history now fresh closing well
    have initially : fresh.atIntake.Attended := .fresh rfl
    have unbound : TouchPads.Listed fresh := List.forall_mem_nil _
    have attended := initially.serve history
    have released := TouchPads.closing_of_fault_eq_none well
    let closed := (fresh.serve history).mapSource fun touch => { touch with isEnabled := false }
    have listed : TouchPads.Listed closed := unbound.serve initially history
    refine ⟨fun key => ?_, TouchPads.gateCloses.shutsOut
      (attended.moves (SelfReporting.setEnabled _ now false)) ?_⟩
    · exact (congrArg (·.recognizer.isDown key) released).trans
        (listed.up_releaseHeld attended.sound now key)
    · exact (congrArg (·.source.isEnabled) released).trans
        (TouchPads.freed_releaseHeld closed now).isEnabled_eq

/-- A key on a gated line and a key on a pad, both down when their gates close. -/
theorem closing_gate_releases_held_keys :
    let chip : Key := ⟨2, .external⟩
    let config : Config := { roster := ⟨[chip], by decide⟩ }
    let history : List (UInt32 × Operation GatedLine) := [(0, .start config), (10, .process (.pressed 9))]
    let line := (Sensor.mk {} (GatedLine.fresh { wiring := [(chip, 9)] } none)).serve history
    let pad : Key := ⟨1, .touch⟩
    let pads := (Sensor.mk {} (TouchPads.fresh { wiring := [(pad, 4)] } .ideal none)).serve
      [(0, .start { roster := ⟨[pad], by decide⟩ }), (10, .process (.pressed 4))]
    let lineClosing := (line.setEnabled 60 false).value
    let padsClosing := (pads.setEnabled 60 false).value
    (line.recognizer.isDown chip = true ∧ lineClosing.fault = none ∧
        lineClosing.state.recognizer.isDown chip = false ∧ lineClosing.state.ShutsOut) ∧
      pads.recognizer.isDown pad = true ∧ padsClosing.fault = none ∧
        padsClosing.state.recognizer.isDown pad = false ∧ padsClosing.state.ShutsOut := by
  intro chip config history line pad pads lineClosing padsClosing
  have started :
      GatedLine.StartedFor chip (Sensor.mk {} (GatedLine.fresh { wiring := [(chip, 9)] } none)) history := by
    intro earlier now other later parts
    cases earlier with
    | nil =>
        obtain ⟨rfl, rfl⟩ : now = 0 ∧ other = config := by simp_all [history]
        exact ⟨rfl, rfl⟩
    | cons head rest =>
        cases rest with
        | nil => simp [history] at parts
        | cons next rest => simp [history] at parts
  obtain ⟨well, _, all, shuts⟩ :=
    (closing_gate_releases_recorded_keys { wiring := [(chip, 9)] } .ideal none).1 history 60
  have padsWell : padsClosing.fault = none := by decide
  obtain ⟨up, padsShut⟩ :=
    (closing_gate_releases_recorded_keys { wiring := [(pad, 4)] } .ideal none).2 _ 60 padsWell
  exact ⟨⟨by decide, well, all chip started chip, shuts⟩, by decide, padsWell, up pad, padsShut⟩

/-- Behind a closed gate, on a line and on a pad, a key that is found held at start goes down. And if the
chip's line could not be enabled, its key is bound and not recorded: it stays down as the gate closes, and its
release is dropped. -/
theorem keys_down_behind_closed_gate :
    let chip : Key := ⟨2, .external⟩
    let start : Operation GatedLine := .start { roster := ⟨[chip], by decide⟩ }
    let line := (Sensor.mk {} (GatedLine.fresh { wiring := [(chip, 9)] } none)).serve
      [(0, start), (0, .setEnabled false)]
    let pad : Key := ⟨1, .touch⟩
    let pads := (Sensor.mk {} (TouchPads.fresh { wiring := [(pad, 4)] } .ideal none)).serve
      [(0, .start { roster := ⟨[pad], by decide⟩ }), (0, .setEnabled false)]
    let faulty : Board := { wiring := [(chip, 9)], lines := .failing LineCommand.isEnable .line }
    let unrecorded := (Sensor.mk {} (GatedLine.fresh faulty none)).serve
      [(0, start), (10, .process (.pressed 9))]
    let closing := (unrecorded.setEnabled 60 false).value
    (line.source.isEnabled = false ∧ line.recognizer.isDown chip = false ∧
        (line.processEach [(0, .heldAtStart 9)]).recognizer.isDown chip = true) ∧
      (pads.source.isEnabled = false ∧ pads.recognizer.isDown pad = false ∧
        (pads.processEach [(0, .heldAtStart 4)]).recognizer.isDown pad = true) ∧
      closing.fault = none ∧ closing.state.recognizer.isDown chip = true ∧
        (closing.state.processEach [(70, .released 9)]).recognizer.isDown chip = true := by
  decide

end KeyGesture
