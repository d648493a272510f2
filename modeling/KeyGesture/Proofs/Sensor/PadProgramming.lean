import KeyGesture.Proofs.Sensor.GateRelease

namespace KeyGesture

/-! What the touch controller is asked for. Changes that are made while the pads are in use are checked
against the limits of the controller; attaching takes the configured thresholds as they are. -/

namespace PadCommand

/-- Neither value is zero, and neither is above the limit. -/
def InRange (limit climb fall : Nat) : Prop :=
  (1 ≤ climb ∧ climb ≤ limit) ∧ 1 ≤ fall ∧ fall ≤ limit

/-- A command the controller is made for. -/
def Legal : PadCommand → Prop
  | .reset _ => True
  | .setThresholds _ climb fall => InRange TouchPads.maxThreshold climb fall
  | .setTriggers _ climb fall => InRange TouchPads.maxTrigger climb fall

instance decidableLegal : (command : PadCommand) → Decidable command.Legal
  | .reset _ => inferInstanceAs (Decidable True)
  | .setThresholds _ _ _ => inferInstanceAs (Decidable ((_ ∧ _) ∧ _))
  | .setTriggers _ _ _ => inferInstanceAs (Decidable ((_ ∧ _) ∧ _))

end PadCommand

namespace TouchPads

open Sensor

/-- The controller was asked for commands of a kind only. -/
def Asked (kind : PadCommand → Prop) (before after : TouchPads) : Prop :=
  ∃ issued, after.controller.history = before.controller.history ++ issued ∧ ∀ entry ∈ issued, kind entry.1

namespace Asked

variable {kind : PadCommand → Prop} {before middle after : TouchPads}

theorem of_same (same : after.controller = before.controller) : Asked kind before after :=
  ⟨[], by rw [same, List.append_nil], List.forall_mem_nil _⟩

theorem trans (first : Asked kind before middle) (second : Asked kind middle after) :
    Asked kind before after := by
  obtain ⟨issued, history, kinds⟩ := first
  obtain ⟨more, historyAfter, kindsAfter⟩ := second
  refine ⟨issued ++ more, by rw [historyAfter, history, List.append_assoc], ?_⟩
  exact List.forall_mem_append.mpr ⟨kinds, kindsAfter⟩

theorem tryIssue (touch : TouchPads) (command : PadCommand) (asked : kind command) :
    Asked kind touch (touch.tryIssue command) :=
  ⟨[(command, (touch.controller.issue command).fault)], rfl, List.forall_mem_singleton.mpr asked⟩

theorem foldlM {step : Sensor TouchPads → Pad → Outcome (Sensor TouchPads)}
    (each : ∀ sensor pad, Asked kind sensor.source (step sensor pad).value.source) (sensor : Sensor TouchPads)
    (pads : List Pad) : Asked kind sensor.source (pads.foldlM step sensor).value.source := by
  rw [Outcome.value_foldlM]
  refine List.foldlRecOn (motive := fun between : Sensor TouchPads => Asked kind sensor.source between.source)
    pads _ (.of_same rfl) ?_
  exact fun between asked pad _ => asked.trans (each between pad)

end Asked

variable {sensor : Sensor TouchPads} {now : UInt32}

/-! While the pads are in use. -/

theorem asked_releaseHeld (sensor : Sensor TouchPads) (now : UInt32) :
    Asked PadCommand.Legal sensor.source (releaseHeld sensor now).value.source := by
  refine .foldlM (fun between pad => ?_) sensor sensor.source.pads
  rw [freePad]
  split
  · exact .tryIssue (forgetHold between.source) (.reset pad.channel) trivial
  · exact .of_same rfl

theorem asked_selfRelease (sensor : Sensor TouchPads) (now : UInt32) :
    Asked PadCommand.Legal sensor.source (selfRelease sensor now).value.source := by
  rw [selfRelease]
  split
  · exact .of_same rfl
  · exact asked_releaseHeld (sensor.mapSource forgetHold) now

theorem asked_setEnabled (sensor : Sensor TouchPads) (now : UInt32) (enable : Bool) :
    Asked PadCommand.Legal sensor.source (setEnabled sensor now enable).value.state.source := by
  rw [setEnabled]
  split
  · cases enable with
    | true => exact .of_same rfl
    | false => exact asked_releaseHeld (sensor.mapSource fun touch => { touch with isEnabled := false }) now
  · exact .of_same rfl

theorem asked_process (sensor : Sensor TouchPads) (now : UInt32) (message : Message) :
    Asked PadCommand.Legal sensor.source (sensor.process now message).value.source := by
  cases message with
  | heldAtStart channel => exact .of_same rfl
  | pressed channel =>
      refine .of_same ?_
      change (handle sensor now (.pressed channel)).value.source.controller = _
      rw [handle]
      split <;> rfl
  | released channel => exact .of_same rfl
  | tick =>
      exact (asked_selfRelease sensor now).trans (.of_same (source_tick _ now fun _ => rfl))
  | setEnabled enable => exact asked_setEnabled sensor now enable

theorem asked_drain (sensor : Sensor TouchPads) (now : UInt32) (mailbox : Mailbox) :
    Asked PadCommand.Legal sensor.source (sensor.drain now mailbox).2.2.value.source := by
  rw [value_drain]
  refine List.foldlRecOn (motive := fun between : Sensor TouchPads => Asked _ sensor.source between.source)
    _ _ (.of_same rfl) ?_
  exact fun between asked moment _ => asked.trans (asked_process between moment.1 moment.2)

theorem controller_releaseIfDown (sensor : Sensor TouchPads) (now : UInt32) (pad : Pad) :
    (releaseIfDown sensor now pad).value.source.controller = sensor.source.controller := by
  rw [releaseIfDown]
  split <;> rfl

theorem one_le_of_isConfigured {touch : TouchPads} (configured : touch.isConfigured = true) :
    1 ≤ touch.thresholds.climb ∧ 1 ≤ touch.thresholds.fall := by
  simp only [isConfigured, Bool.and_eq_true, bne_iff_ne] at configured
  omega

/-- Thresholds are only raised, from values that are not zero and up to the limit. -/
theorem asked_adjustThresholds (sensor : Sensor TouchPads) (now : UInt32) (rise : Thresholds) :
    Asked PadCommand.Legal sensor.source (adjustThresholds sensor now rise).value.state.source := by
  refine state_of_checked sensor (fun after => Asked _ sensor.source after.source) (.of_same rfl) ?_
  intro configured inRange
  rw [Bool.not_eq_false] at configured
  rw [not_or, Nat.not_lt, Nat.not_lt] at inRange
  obtain ⟨climb, fall⟩ := one_le_of_isConfigured configured
  refine .foldlM (fun between pad => ?_) sensor sensor.source.pads
  let released := (releaseIfDown between now pad).value.source
  refine (Asked.of_same (controller_releaseIfDown between now pad)).trans ?_
  refine (Asked.tryIssue released (.reset pad.channel) trivial).trans (.tryIssue _ _ ?_)
  exact ⟨⟨Nat.le_add_right_of_le climb, inRange.1⟩, Nat.le_add_right_of_le fall, inRange.2⟩

/-- Where thresholds are configured, so are triggers. -/
def Configured (sensor : Sensor TouchPads) : Prop :=
  sensor.source.isConfigured = true → sensor.source.triggers = defaultTriggers

theorem asked_adjustTriggers (whole : Configured sensor) (now : UInt32) (wanted : Triggers) :
    Asked PadCommand.Legal sensor.source (adjustTriggers sensor now wanted).value.state.source := by
  refine state_of_checked sensor (fun after => Asked _ sensor.source after.source) (.of_same rfl) ?_
  intro configured inRange
  rw [Bool.not_eq_false] at configured
  rw [not_or, Nat.not_lt, Nat.not_lt] at inRange
  have stored := whole configured
  refine .foldlM (fun between pad => ?_) sensor sensor.source.pads
  refine (Asked.of_same (controller_releaseIfDown between now pad)).trans (.tryIssue _ _ ?_)
  refine ⟨⟨?_, inRange.1⟩, ?_, inRange.2⟩
  · dsimp only
    split
    · rw [stored]
      decide
    · omega
  · dsimp only
    split
    · rw [stored]
      decide
    · omega

/-! Attaching. -/

/-- The commands that program pads. -/
inductive Programs (thresholds : Thresholds) (triggers : Triggers) : PadCommand → Prop where
  | thresholds (pad : Nat) :
      Programs thresholds triggers (.setThresholds pad thresholds.climb thresholds.fall)
  | triggers (pad : Nat) : Programs thresholds triggers (.setTriggers pad triggers.climb triggers.fall)

/-- Pads that are being programmed: what they are programmed with stays, and nothing else is asked for. -/
structure Programming (start touch : TouchPads) : Prop where
  thresholds : touch.thresholds = start.thresholds
  triggers : touch.triggers = start.triggers
  asked : Asked (Programs start.thresholds start.triggers) start touch

namespace Programming

variable {start touch : TouchPads}

theorem refl (start : TouchPads) : Programming start start :=
  ⟨rfl, rfl, .of_same rfl⟩

theorem issue (programming : Programming start touch) {command : PadCommand}
    (programs : Programs touch.thresholds touch.triggers command) :
    Programming start (touch.issue command).state := by
  rw [programming.thresholds, programming.triggers] at programs
  have asked := programming.asked.trans (.tryIssue touch command programs)
  exact ⟨programming.thresholds, programming.triggers, asked⟩

/-- The steps of programming a pad after the first. -/
theorem andThen {first : Attempt TouchPads} (programming : Programming start first.state) (pad : Pad) :
    Programming start ((first.andThen fun touch =>
      touch.issue (.setTriggers pad.channel touch.triggers.climb touch.triggers.fall)).andThen fun touch =>
        (touch.board.issue (.enable pad.channel .touch 0)).map fun board => { touch with board }).state := by
  let kept := Programming start
  refine Attempt.andThen_keeps kept (Attempt.andThen_keeps kept programming ?_) ?_
  · exact fun touch programming => programming.issue (.triggers pad.channel)
  · exact fun touch programming =>
      ⟨programming.thresholds, programming.triggers, programming.asked.trans (.of_same rfl)⟩

theorem forEach (programming : Programming start touch) (pads : List Pad) :
    Programming start (Attempt.forEach touch pads program).state := by
  refine Attempt.forEach_keeps (Programming start) (fun touch pad programming => ?_) programming pads
  exact (programming.issue (.thresholds pad.channel)).andThen pad

end Programming

/-- The first thing the controller is asked for is to set the thresholds of the first pad. -/
theorem programming_forEach (touch : TouchPads) (pad : Pad) (rest : List Pad) :
    Programming (touch.issue (.setThresholds pad.channel touch.thresholds.climb touch.thresholds.fall)).state
      (Attempt.forEach touch (pad :: rest) program).state := by
  rw [Attempt.forEach_cons]
  refine Attempt.andThen_keeps (Programming _) ((Programming.refl _).andThen pad) ?_
  exact fun _ programming => programming.forEach rest

/-- Without a pad nothing is programmed; with one the thresholds are, and nothing is asked for but what
programs pads. -/
theorem attach_cases (sensor : Sensor TouchPads) (config : Config) :
    let after := (attach sensor config).state.source
    let thresholds := decode config.thresholds
    (after.pads = [] ∧ after.controller = sensor.source.controller ∧
        after.thresholds = sensor.source.thresholds ∧ after.triggers = sensor.source.triggers) ∨
      after.pads ≠ [] ∧ after.thresholds = thresholds ∧ after.triggers = defaultTriggers ∧
        ∃ issued, after.controller.history = sensor.source.controller.history ++ issued ∧
          (∀ entry ∈ issued, Programs thresholds defaultTriggers entry.1) ∧
          ∃ entry ∈ issued, ∃ pad, entry.1 = .setThresholds pad thresholds.climb thresholds.fall := by
  intro after thresholds
  let listed := ((config.roster.withSource .touch).foldl addPad sensor).source
  have kept {α : Type} (part : TouchPads → α)
      (same : ∀ (touch : TouchPads) pads, part { touch with pads } = part touch) :
      part listed = part sensor.source :=
    source_addPads sensor part same _
  let touch := { listed with thresholds, triggers := defaultTriggers }
  have reached : after = if listed.pads.isEmpty then listed
      else (Attempt.forEach touch touch.pads program).state := by
    simp only [after, attach]
    split <;> rfl
  rw [reached]
  cases pads : listed.pads with
  | nil =>
      exact .inl ⟨pads, kept controller fun _ _ => rfl, kept TouchPads.thresholds fun _ _ => rfl,
        kept TouchPads.triggers fun _ _ => rfl⟩
  | cons first rest =>
      have programming := programming_forEach touch first rest
      obtain ⟨more, history, programs⟩ := programming.asked
      let command := PadCommand.setThresholds first.channel thresholds.climb thresholds.fall
      let fault := (touch.controller.issue command).fault
      have asked : (touch.issue command).state.controller.history =
          sensor.source.controller.history ++ [(command, fault)] := by
        rw [← kept controller fun _ _ => rfl]
        rfl
      rw [List.isEmpty_cons, if_neg Bool.false_ne_true]
      refine .inr ⟨?_, programming.thresholds, programming.triggers, (command, fault) :: more, ?_, ?_, ?_⟩
      · rw [pads_forEach_program]
        exact pads ▸ List.cons_ne_nil first rest
      · rw [history, asked, List.append_assoc]
        rfl
      · exact List.forall_mem_cons.mpr ⟨.thresholds first.channel, programs⟩
      · exact ⟨_, List.mem_cons_self, first.channel, rfl⟩

theorem Configured.operate (whole : Configured sensor) (now : UInt32) (operation : Operation TouchPads) :
    Configured (sensor.operate now operation) := by
  cases starting : operation.isStart with
  | true =>
      cases operation with
      | start config =>
          let timed : Sensor TouchPads :=
            { sensor with recognizer := sensor.recognizer.setTiming config.timing }
          rcases attach_cases timed config with ⟨_, _, thresholds, triggers⟩ | ⟨_, _, triggers, _⟩
          · intro configured
            refine Eq.trans triggers (whole ?_)
            rw [isConfigured] at configured ⊢
            rw [← thresholds]
            exact configured
          · exact fun _ => triggers
      | process | drain | setEnabled | shutDown | work => contradiction
  | false =>
      have same := (setAtStart (fun touch => (touch.thresholds, touch.triggers))
        fun _ _ _ _ _ _ => rfl).operate sensor now starting
      obtain ⟨thresholds, triggers⟩ := Prod.mk.inj same
      intro configured
      rw [isConfigured, thresholds] at configured
      rw [triggers]
      exact whole configured

theorem Configured.serve (whole : Configured sensor) (history : List (UInt32 × Operation TouchPads)) :
    Configured (sensor.serve history) :=
  List.foldlRecOn (motive := Configured) _ _ whole fun _ kept moment _ => kept.operate moment.1 moment.2

/-- While the pads are in use, the controller is only asked for what it is made for. -/
theorem asked_operate (whole : Configured sensor) (now : UInt32) {operation : Operation TouchPads}
    (unstarted : operation.isStart = false)
    (unfitted : ∀ board controller, operation ≠ .work (.refit board controller)) :
    Asked PadCommand.Legal sensor.source (sensor.operate now operation).source := by
  cases operation with
  | start config => contradiction
  | process message => exact asked_process sensor now message
  | drain mailbox => exact asked_drain sensor now mailbox
  | setEnabled enable => exact asked_setEnabled sensor now enable
  | shutDown wakes => cases wakes <;> exact .of_same rfl
  | work work =>
      cases work with
      | refit board controller => exact absurd rfl (unfitted board controller)
      | adjustThresholds rise => exact asked_adjustThresholds sensor now rise
      | adjustTriggers wanted => exact asked_adjustTriggers whole now wanted

theorem legal_defaultTriggers (pad : Nat) :
    (PadCommand.setTriggers pad defaultTriggers.climb defaultTriggers.fall).Legal :=
  ⟨by decide, by decide⟩

theorem decodeThreshold_inRange_iff (setting : Nat) {default : Nat} (positive : 1 ≤ default)
    (small : default ≤ maxThreshold) :
    1 ≤ decodeThreshold setting default ∧ decodeThreshold setting default ≤ maxThreshold ↔
      setting % voltageUnit ≤ maxThreshold := by
  rw [decodeThreshold]
  split
  · rename_i zero
    exact iff_of_true ⟨positive, small⟩ (zero ▸ Nat.zero_le _)
  · rename_i nonzero
    exact and_iff_right (Nat.one_le_iff_ne_zero.mpr nonzero)

theorem inRange_decode_iff (settings : Thresholds) :
    PadCommand.InRange maxThreshold (decode settings).climb (decode settings).fall ↔
      settings.climb % voltageUnit ≤ maxThreshold ∧ settings.fall % voltageUnit ≤ maxThreshold :=
  and_congr (decodeThreshold_inRange_iff _ (by decide) (by decide))
    (decodeThreshold_inRange_iff _ (by decide) (by decide))

end TouchPads

open TouchPads

/-- Whatever was done with the pads before, an operation asks the controller for legal commands only, but for
a start, which sets the thresholds it is configured with: those it decodes from settings whose last four
digits are above the limit are illegal, and they are asked for exactly if there is a pad. -/
theorem pads_programmed_within_limits (board : Board) (controller : Peripheral PadCommand)
    (wokeBy : Option WakeSource) (history : List (UInt32 × Operation TouchPads)) (now : UInt32)
    (operation : Operation TouchPads)
    (unfitted : ∀ board controller, operation ≠ .work (.refit board controller)) :
    let reached := (Sensor.mk {} (TouchPads.fresh board controller wokeBy)).serve history
    let after := reached.operate now operation
    ∃ issued, after.source.controller.history = reached.source.controller.history ++ issued ∧
      (∀ entry ∈ issued, entry.1.Legal ∨ ∃ config pad, operation = .start config ∧
        entry.1 = .setThresholds pad (decode config.thresholds).climb (decode config.thresholds).fall) ∧
      ((∀ entry ∈ issued, entry.1.Legal) ↔ ∀ config, operation = .start config →
        after.source.pads = [] ∨ config.thresholds.climb % voltageUnit ≤ maxThreshold ∧
          config.thresholds.fall % voltageUnit ≤ maxThreshold) := by
  intro reached after
  have unattached : Configured (Sensor.mk {} (TouchPads.fresh board controller wokeBy)) :=
    fun configured => absurd (show false = true from configured) Bool.false_ne_true
  cases starting : operation.isStart with
  | false =>
      obtain ⟨issued, same, legal⟩ := asked_operate (unattached.serve history) now starting unfitted
      refine ⟨issued, same, fun entry member => .inl (legal entry member), iff_of_true legal ?_⟩
      rintro config rfl
      contradiction
  | true =>
      cases operation with
      | start config =>
          let timed : Sensor TouchPads :=
            { reached with recognizer := reached.recognizer.setTiming config.timing }
          rcases attach_cases timed config with
            ⟨pads, same, _⟩ | ⟨pads, _, _, issued, same, programs, entry, member, pad, sets⟩
          · refine ⟨[], ?_, List.forall_mem_nil _, iff_of_true (List.forall_mem_nil _) fun _ _ => .inl pads⟩
            rw [List.append_nil]
            exact congrArg Peripheral.history same
          · have legal : (∀ entry ∈ issued, entry.1.Legal) ↔ PadCommand.InRange maxThreshold
                (decode config.thresholds).climb (decode config.thresholds).fall := by
              constructor
              · intro all
                have programmed := all entry member
                rwa [sets] at programmed
              · rintro inRange ⟨command, fault⟩ issuedHere
                cases programs _ issuedHere with
                | thresholds pad => exact inRange
                | triggers pad => exact legal_defaultTriggers pad
            refine ⟨issued, same, ?_, legal.trans ((inRange_decode_iff _).trans ⟨?_, ?_⟩)⟩
            · rintro ⟨command, fault⟩ issuedHere
              cases programs _ issuedHere with
              | thresholds pad => exact .inr ⟨config, pad, rfl, rfl⟩
              | triggers pad => exact .inl (legal_defaultTriggers pad)
            · rintro limits other ⟨⟩
              exact .inr limits
            · exact fun all => (all config rfl).resolve_left pads
      | process | drain | setEnabled | shutDown | work => contradiction

/-- Settings that also choose a reference voltage, and stand for legal thresholds. -/
theorem pads_programmed_with_reference_voltage :
    let key : Key := ⟨1, .touch⟩
    let config : Config := { roster := ⟨[key], by decide⟩, thresholds := ⟨31200, 20000⟩ }
    let fresh : Sensor TouchPads := { source := .fresh { wiring := [(key, 3)] } .ideal none }
    let controller := (fresh.operate 0 (.start config)).source.controller
    controller.accepted = [.setThresholds 3 1200 512, .setTriggers 3 3 4] ∧
      ∀ entry ∈ controller.history, entry.1.Legal := by
  intro key config fresh controller
  obtain ⟨issued, same, _, legal⟩ :=
    pads_programmed_within_limits { wiring := [(key, 3)] } .ideal none [] 0 (.start config) (by simp)
  refine ⟨by decide, ?_⟩
  have asked : controller.history = issued := same
  rw [asked]
  refine legal.mpr fun other started => .inr ?_
  rw [← Operation.start.inj started]
  decide

/-- A setting of 9999 is programmed as it is, though the same threshold is refused when it is asked for
later. -/
theorem configured_threshold_programmed_beyond_limit :
    let key : Key := ⟨1, .touch⟩
    let config : Config := { roster := ⟨[key], by decide⟩ }
    let fresh : Sensor TouchPads := { source := .fresh { wiring := [(key, 3)] } .ideal none }
    let excessive := fresh.start { config with thresholds := ⟨9999, 0⟩ }
    let usual := fresh.start config
    (excessive.fault = none ∧
        PadCommand.setThresholds 3 9999 512 ∈ excessive.state.source.controller.accepted ∧
        ¬ (PadCommand.setThresholds 3 9999 512).Legal) ∧
      usual.state.source.thresholds.climb + 9039 = 9999 ∧
        (adjustThresholds usual.state 0 ⟨9039, 0⟩).value.fault = some .badConfig := by
  decide

end KeyGesture
