import KeyGesture.Proofs.Sensor.Attaching
import KeyGesture.Proofs.Sensor.Retuning

namespace KeyGesture

/-! Starting again with the configuration of the last start. If keys were never put on other channels than
those they are wired to, the recognizer stays as it is, and so does what lines have on record; but a pad that
is on record already is listed once more if there is room. -/

namespace Peripheral

variable {γ : Type} {peripheral : Peripheral γ}

/-- From now on every command works. -/
def Works (peripheral : Peripheral γ) : Prop :=
  ∀ more command, peripheral.respond (peripheral.history ++ more) command = none

theorem Works.fault_issue (works : peripheral.Works) (command : γ) :
    (peripheral.issue command).fault = none := by
  have answered := works [] command
  rw [List.append_nil] at answered
  exact answered

theorem Works.issue (works : peripheral.Works) (command : γ) : (peripheral.issue command).state.Works := by
  intro more other
  rw [respond_issue, history_issue, List.append_assoc]
  exact works _ other

end Peripheral

namespace DebouncedLines

variable {sensor : Sensor DebouncedLines} {wiring : Wiring} {earlier keys : List Key}

/-- Lines that are being attached, after the given keys: their board works and is wired as it was, and each of
these keys that is on the channel it is wired to has it on record. -/
structure Attaching (wiring : Wiring) (keys : List Key) (sensor : Sensor DebouncedLines) : Prop where
  works : sensor.source.board.lines.Works
  sameWiring : sensor.source.board.wiring = wiring
  sound : sensor.recognizer.Sound
  noted : ∀ key ∈ keys, ∀ channel, wiring.channel? key = some channel →
    (key, channel) ∈ sensor.recognizer.bindings → sensor.source.Noted channel

namespace Attaching

variable {debounce : Nat}

/-- What one key's turn comes to on a board that works. -/
theorem attachKey_eq (attaching : Attaching wiring earlier sensor) (debounce : Nat) (key : Key) :
    sensor.recognizer.LeftOut wiring key ∧ attachKey debounce sensor key = .done sensor ∨
      ∃ channel number, wiring.channel? key = some channel ∧
        sensor.recognizer.register key channel = .ok (number, sensor.recognizer.seat wiring key) ∧
        attachKey debounce sensor key = .done
          { recognizer := sensor.recognizer.seat wiring key
            source := (sensor.source.issue (.enable channel .io debounce)).state.note channel } := by
  have outcome := attachKey_left_out_or_issued debounce sensor key
  rw [attaching.sameWiring] at outcome
  refine outcome.imp_right fun ⟨channel, number, wired, accepted, issued⟩ => ?_
  refine ⟨channel, number, wired, accepted, ?_⟩
  have well : (sensor.source.issue (.enable channel .io debounce)).fault = none :=
    attaching.works.fault_issue _
  rw [issued, Attempt.andThen_of_well well]
  rfl

theorem attachKey (attaching : Attaching wiring earlier sensor) (debounce : Nat) (key : Key) :
    let attached := DebouncedLines.attachKey debounce sensor key
    attached.fault = none ∧ Attaching wiring (earlier ++ [key]) attached.state ∧
      attached.state.recognizer = sensor.recognizer.seat wiring key := by
  intro attached
  rcases attaching.attachKey_eq debounce key with
    ⟨leftOut, same⟩ | ⟨channel, number, wired, accepted, enabled⟩
  · simp only [attached, same]
    refine ⟨rfl, ⟨attaching.works, attaching.sameWiring, attaching.sound, ?_⟩, leftOut.seat.symm⟩
    rw [List.forall_mem_append, List.forall_mem_singleton]
    exact ⟨attaching.noted, fun channel wired bound =>
      absurd leftOut (attaching.sound.not_leftOut_of_bound wired bound)⟩
  · let issued := (sensor.source.issue (.enable channel .io debounce)).state
    simp only [attached, enabled]
    refine ⟨rfl, ⟨?_, ?_, attaching.sound.seat wiring key, ?_⟩, rfl⟩
    · change (issued.note channel).board.lines.Works
      rw [board_note]
      exact attaching.works.issue _
    · change (issued.note channel).board.wiring = wiring
      rw [board_note]
      exact attaching.sameWiring
    · intro other member own wiredOther bound
      change (issued.note channel).Noted own
      rcases attaching.sound.binding_of_register accepted _ bound with itself | ⟨old, different⟩
      · rw [(Prod.mk.inj itself).2]
        exact issued.noted_note channel
      · have listed : other ∈ earlier := by
          rcases List.mem_append.mp member with listed | last
          · exact listed
          · exact absurd (List.mem_singleton.mp last) different
        have noted : issued.Noted own := attaching.noted other listed own wiredOther old
        exact noted.note channel

theorem attachAll (attaching : Attaching wiring earlier sensor) (debounce : Nat) (keys : List Key) :
    let attached := Attempt.forEach sensor keys (DebouncedLines.attachKey debounce)
    attached.fault = none ∧ Attaching wiring (earlier ++ keys) attached.state ∧
      attached.state.recognizer = sensor.recognizer.seatAll wiring keys := by
  induction keys generalizing sensor earlier with
  | nil =>
      rw [List.append_nil]
      exact ⟨rfl, attaching, rfl⟩
  | cons key rest ih =>
      obtain ⟨well, attached, seated⟩ := attaching.attachKey debounce key
      have later := ih attached
      rw [seated, List.append_assoc] at later
      rw [Attempt.forEach_cons, Attempt.andThen_of_well well]
      exact later

/-- Where there is no more to be done for any key, all channels that are enabled again are on record. -/
theorem channels_attachAll (attaching : Attaching wiring keys sensor) {rest : List Key}
    (within : ∀ key ∈ rest, key ∈ keys) (decided : ∀ key ∈ rest, sensor.recognizer.Decided wiring key) :
    (Attempt.forEach sensor rest (DebouncedLines.attachKey debounce)).state.source.channels =
      sensor.source.channels := by
  induction rest generalizing sensor with
  | nil => rfl
  | cons key rest ih =>
      rw [List.forall_mem_cons] at within decided
      obtain ⟨well, attached, seated⟩ := attaching.attachKey debounce key
      have unmoved : sensor.recognizer.seat wiring key = sensor.recognizer :=
        attaching.sound.seat_eq_self_iff.mpr decided.1
      have same : (DebouncedLines.attachKey debounce sensor key).state.source.channels =
          sensor.source.channels := by
        rcases attaching.attachKey_eq debounce key with ⟨_, same⟩ | ⟨channel, _, wired, accepted, enabled⟩
        · rw [same]
          rfl
        · have bound := Recognizer.mem_bindings_register accepted
          rw [unmoved] at bound
          let issued := (sensor.source.issue (.enable channel .io debounce)).state
          have noted : issued.Noted channel := attaching.noted key within.1 channel wired bound
          rw [enabled]
          change (issued.note channel).channels = _
          rw [note_of_noted noted]
          rfl
      rw [Attempt.forEach_cons, Attempt.andThen_of_well well, ← same]
      refine ih ⟨attached.works, attached.sameWiring, attached.sound, ?_⟩ within.2 ?_
      · exact fun other listed => attached.noted other (List.mem_append_left _ listed)
      · rw [seated, unmoved]
        exact decided.2

end Attaching

/-- What starting again comes to, compared with the start before. -/
structure Restarted (config : Config) (opened again : Attempt (Sensor DebouncedLines)) : Prop where
  well : again.fault = none
  unchanged_iff : again.state.recognizer = opened.state.recognizer ∧
      again.state.source.channels = opened.state.source.channels ↔
    ∀ key ∈ config.roster.withSource .io,
      opened.state.recognizer.Decided opened.state.source.board.wiring key

theorem attaching_start (works : sensor.source.board.lines.Works) (sound : sensor.recognizer.Sound)
    (config : Config) : (sensor.start config).fault = none ∧
      Attaching sensor.source.board.wiring (config.roster.withSource .io) (sensor.start config).state ∧
      (sensor.start config).state.recognizer = (sensor.recognizer.setTiming config.timing).seatAll
        sensor.source.board.wiring (config.roster.withSource .io) := by
  have unattached : Attaching sensor.source.board.wiring [] (sensor.timed config) :=
    ⟨works, rfl, Sensor.sound_timed sound, List.forall_mem_nil _⟩
  exact unattached.attachAll config.timing.debounce (config.roster.withSource .io)

theorem restarted (works : sensor.source.board.lines.Works) (sound : sensor.recognizer.Sound)
    (config : Config) :
    Restarted config (sensor.start config) ((sensor.start config).state.start config) := by
  obtain ⟨_, attaching, seated⟩ := attaching_start works sound config
  have timing : (sensor.start config).state.recognizer.timing = config.timing := by
    rw [seated, Recognizer.timing_seatAll]
    rfl
  rw [Sensor.start_of_timing_eq timing]
  obtain ⟨well, _, seatedAgain⟩ := attaching.attachAll config.timing.debounce (config.roster.withSource .io)
  refine ⟨well, ?_⟩
  rw [attaching.sameWiring, ← attaching.sound.seatAll_eq_self_iff, ← seatedAgain]
  refine ⟨And.left, fun same => ⟨same, ?_⟩⟩
  rw [seatedAgain, attaching.sound.seatAll_eq_self_iff] at same
  exact attaching.channels_attachAll (fun _ member => member) same

/-- If all keys are on the channels they are wired to, nothing changes. -/
theorem restarted_in_place (works : sensor.source.board.lines.Works) (sound : sensor.recognizer.Sound)
    (placed : sensor.recognizer.Placed sensor.source.board.wiring) (config : Config) :
    let opened := (sensor.start config).state
    let again := (opened.start config).state
    again.recognizer = opened.recognizer ∧ again.source.channels = opened.source.channels := by
  intro opened again
  obtain ⟨_, attaching, seated⟩ := attaching_start works sound config
  have placedTimed : (sensor.timed config).recognizer.Placed sensor.source.board.wiring := placed
  refine (restarted works sound config).unchanged_iff.mpr ?_
  rw [attaching.sameWiring, seated]
  exact (placedTimed.seatAll (Sensor.sound_timed sound) _).2.2

end DebouncedLines

namespace GatedLine

variable {sensor : Sensor GatedLine}

/-- Starting again leaves everything as it is, but for what the board was asked for. -/
structure Restarted (opened again : Attempt (Sensor GatedLine)) : Prop where
  well : again.fault = none
  recognizer : again.state.recognizer = opened.state.recognizer
  channel : again.state.source.channel? = opened.state.source.channel?

/-- What attaching leaves where a key is registered and its channel enabled. -/
def enabled (sensor : Sensor GatedLine) (recognizer : Recognizer) (channel debounce : Nat) :
    Sensor GatedLine where
  recognizer := recognizer
  source := { sensor.source with
    board := (sensor.source.board.issue (.enable channel .external debounce)).state
    channel? := some channel }

variable {config : Config} {key : Key} {channel number : Nat} {recognizer : Recognizer}

theorem attach_of_registered (works : sensor.source.board.lines.Works)
    (first : (config.roster.withSource .external).head? = some key)
    (wired : sensor.source.board.channel? key = some channel)
    (accepted : sensor.recognizer.register key channel = .ok (number, recognizer)) :
    attach sensor config = .done (enabled sensor recognizer channel config.timing.debounce) := by
  have well : (sensor.source.issue (.enable channel .external config.timing.debounce)).fault = none :=
    works.fault_issue _
  simp only [attach, first, wired, Sensor.register?, accepted]
  rw [Attempt.andThen_of_well well]
  rfl

/-- A start that goes well has no key to register, or it registers one. -/
theorem empty_or_registered_of_well (well : (attach sensor config).fault = none) :
    (config.roster.withSource .external).head? = none ∨
      ∃ key channel number recognizer, (config.roster.withSource .external).head? = some key ∧
        sensor.source.board.channel? key = some channel ∧
        sensor.recognizer.register key channel = .ok (number, recognizer) := by
  cases first : (config.roster.withSource .external).head? with
  | none => exact .inl rfl
  | some key =>
      simp only [attach, first] at well
      split at well
      · contradiction
      · rename_i channel wired
        split at well
        · contradiction
        · rename_i registered accepted
          obtain ⟨number, recognizer, done, _⟩ := Sensor.register?_eq_some_iff.mp accepted
          exact .inr ⟨key, channel, number, recognizer, rfl, wired, done⟩

theorem attach_of_empty (sensor : Sensor GatedLine)
    (empty : (config.roster.withSource .external).head? = none) : attach sensor config = .done sensor := by
  simp only [attach, empty]

theorem restarted (works : sensor.source.board.lines.Works) (sound : sensor.recognizer.Sound)
    (well : (sensor.start config).fault = none) :
    Restarted (sensor.start config) ((sensor.start config).state.start config) := by
  let timed := sensor.timed config
  have soundTimed : timed.recognizer.Sound := Sensor.sound_timed sound
  have start : sensor.start config = attach timed config := sensor.start_eq config
  rw [start] at well ⊢
  rcases empty_or_registered_of_well well with
    empty | ⟨key, channel, number, recognizer, first, wired, accepted⟩
  · rw [attach_of_empty timed empty]
    have again : (Attempt.done timed).state.start config = .done timed := attach_of_empty timed empty
    rw [again]
    exact ⟨rfl, rfl, rfl⟩
  · let opened := enabled timed recognizer channel config.timing.debounce
    have attached : attach timed config = .done opened := attach_of_registered works first wired accepted
    have timing : opened.recognizer.timing = config.timing := by
      change recognizer.timing = _
      rw [Recognizer.eq_of_register accepted]
      rfl
    have bound := Recognizer.mem_bindings_register accepted
    obtain ⟨_, stays⟩ := (soundTimed.register accepted).register_of_bound bound
    have again : opened.start config = .done (enabled opened recognizer channel config.timing.debounce) := by
      rw [Sensor.start_of_timing_eq timing]
      exact attach_of_registered (works.issue _) first wired stays
    rw [attached]
    change Restarted (.done opened) (opened.start config)
    rw [again]
    exact ⟨rfl, rfl, rfl⟩

end GatedLine

namespace TouchPads

variable {sensor : Sensor TouchPads} {key : Key} {keys : List Key}

/-- From now on every command works, be it to the board or to the controller. -/
def Works (touch : TouchPads) : Prop :=
  touch.controller.Works ∧ touch.board.lines.Works

theorem Works.program {touch : TouchPads} (works : touch.Works) (pad : Pad) :
    (TouchPads.program touch pad).fault = none ∧ (TouchPads.program touch pad).state.Works := by
  obtain ⟨controller, lines⟩ := works
  let first := touch.issue (.setThresholds pad.channel touch.thresholds.climb touch.thresholds.fall)
  let second := first.state.issue (.setTriggers pad.channel touch.triggers.climb touch.triggers.fall)
  have wellFirst : first.fault = none := controller.fault_issue _
  have wellSecond : second.fault = none := (controller.issue _).fault_issue _
  have programmed : TouchPads.program touch pad =
      (second.state.board.issue (.enable pad.channel .touch 0)).map fun board =>
        { second.state with board } := by
    unfold TouchPads.program
    rw [Attempt.andThen_of_well wellFirst]
    exact Attempt.andThen_of_well wellSecond _
  rw [programmed]
  exact ⟨lines.fault_issue _, (controller.issue _).issue _, lines.issue _⟩

theorem Works.forEach_program {touch : TouchPads} (works : touch.Works) (pads : List Pad) :
    (Attempt.forEach touch pads TouchPads.program).fault = none ∧
      (Attempt.forEach touch pads TouchPads.program).state.Works := by
  induction pads generalizing touch with
  | nil => exact ⟨rfl, works⟩
  | cons pad rest ih =>
      obtain ⟨well, worksThen⟩ := works.program pad
      rw [Attempt.forEach_cons, Attempt.andThen_of_well well]
      exact ih worksThen

theorem attach_of_works (works : sensor.source.Works) {config : Config}
    (listed : ((config.roster.withSource .touch).foldl addPad sensor).source.pads ≠ []) :
    (attach sensor config).fault = none ∧ (attach sensor config).state.source.Works := by
  let bound := (config.roster.withSource .touch).foldl addPad sensor
  have worksBound : (configured bound.source config).Works := by
    have controller : bound.source.controller = sensor.source.controller :=
      source_addPads sensor TouchPads.controller (fun _ _ => rfl) _
    have board : bound.source.board = sensor.source.board := board_addPads sensor _
    change bound.source.controller.Works ∧ bound.source.board.lines.Works
    rw [controller, board]
    exact works
  rcases attach_unlisted_or_programmed sensor config with ⟨empty, _⟩ | ⟨_, programmed⟩
  · exact absurd empty listed
  · rw [programmed]
    exact worksBound.forEach_program bound.source.pads

/-- What starting again comes to, compared with the start before. -/
structure Restarted (config : Config) (opened again : Attempt (Sensor TouchPads)) : Prop where
  well : again.fault = none
  unchanged_iff : again.state.source.pads = opened.state.source.pads ↔ opened.state.source.IsFull ∨
    ∀ key ∈ config.roster.withSource .touch,
      opened.state.recognizer.LeftOut opened.state.source.board.wiring key
  recognizer : again.state.source.pads = opened.state.source.pads →
    again.state.recognizer = opened.state.recognizer

theorem restarted (works : sensor.source.Works) {config : Config}
    (well : (sensor.start config).fault = none) :
    Restarted config (sensor.start config) ((sensor.start config).state.start config) := by
  let timed := sensor.timed config
  let opened := (attach timed config).state
  have again : opened.start config = attach opened config :=
    Sensor.start_of_timing_eq (timing_start sensor config)
  have listed := listed_of_well (show (attach timed config).fault = none from well)
  have worksThen : opened.source.Works := (attach_of_works (show timed.source.Works from works) listed).2
  have listedAgain : ((config.roster.withSource .touch).foldl addPad opened).source.pads ≠ [] := by
    intro empty
    have kept := pads_prefix_addPads opened (config.roster.withSource .touch)
    rw [empty, List.prefix_nil, (attach_leaves timed config).2.1] at kept
    exact listed kept
  obtain ⟨recognizer, pads, _⟩ := attach_leaves opened config
  change Restarted config (attach timed config) (opened.start config)
  rw [again]
  refine ⟨(attach_of_works worksThen listedAgain).1, ?_, ?_⟩
  · rw [pads]
    exact pads_addPads_eq_iff opened _
  · rw [pads, recognizer]
    intro same
    rw [addPads_of_idle ((pads_addPads_eq_iff opened _).mp same)]

/-- A key's turn, where it is on the channel it is wired to or left out and its pad is the only one on record:
nothing happens, or the pad is listed once more. -/
theorem addPad_of_decided {pad : Pad} (sound : sensor.recognizer.Sound) (only : sensor.source.pads = [pad])
    (recorded : Listed sensor) (decided : sensor.recognizer.Decided sensor.source.board.wiring key) :
    addPad sensor key = sensor ∨
      addPad sensor key = { sensor with source := { sensor.source with pads := [pad, pad] } } := by
  have settled := sound.seat_eq_self_iff.mpr decided
  rcases addPad_unchanged_or_listed sensor key with ⟨_, same⟩ | ⟨_, channel, _, _, accepted, listed⟩
  · exact .inl same
  · have bound := Recognizer.mem_bindings_register accepted
    rw [settled] at bound listed
    have own := recorded _ bound
    rw [only, List.mem_singleton] at own
    rw [own, only] at listed
    exact .inr listed

theorem addPads_of_decided {pad : Pad} (sound : sensor.recognizer.Sound) (only : sensor.source.pads = [pad])
    (recorded : Listed sensor)
    (decided : ∀ key ∈ keys, sensor.recognizer.Decided sensor.source.board.wiring key) :
    keys.foldl addPad sensor = sensor ∨
      keys.foldl addPad sensor = { sensor with source := { sensor.source with pads := [pad, pad] } } := by
  induction keys with
  | nil => exact .inl rfl
  | cons key rest ih =>
      rw [List.forall_mem_cons] at decided
      rw [List.foldl_cons]
      rcases addPad_of_decided sound only recorded decided.1 with same | twice
      · rw [same]
        exact ih decided.2
      · have full : IsFull { sensor.source with pads := [pad, pad] } := Nat.le_refl _
        rw [twice]
        exact .inr (addPads_of_idle (.inl full))

/-- If keys are on the channels they are wired to and their pads on record, they stay so, and all that can
happen is that the only pad there is gets listed once more. -/
theorem restarted_in_place (works : sensor.source.Works) (sound : sensor.recognizer.Sound)
    (placed : sensor.recognizer.Placed sensor.source.board.wiring) (recorded : Listed sensor)
    {config : Config} (well : (sensor.start config).fault = none) :
    let opened := (sensor.start config).state
    let again := (opened.start config).state
    again.recognizer = opened.recognizer ∧
      (again.source.pads = opened.source.pads ∨
        ∃ pad, opened.source.pads = [pad] ∧ again.source.pads = [pad, pad]) := by
  intro opened again
  have restart := restarted works well
  by_cases full : opened.source.IsFull
  · have same := restart.unchanged_iff.mpr (.inl full)
    exact ⟨restart.recognizer same, .inl same⟩
  let timed := sensor.timed config
  let keys := config.roster.withSource .touch
  have start : opened = (attach timed config).state := rfl
  obtain ⟨bound, pads, wiring⟩ := attach_leaves timed config
  rw [← start] at bound pads wiring
  have decided : ∀ key ∈ keys, opened.recognizer.Decided opened.source.board.wiring key := by
    have room : ¬ (keys.foldl addPad timed).source.IsFull := by
      rw [IsFull, ← pads]
      exact full
    have placedTimed : timed.recognizer.Placed timed.source.board.wiring := placed
    rw [bound, recognizer_addPads_of_room keys room, wiring]
    exact (placedTimed.seatAll (Sensor.sound_timed sound) keys).2.2
  obtain ⟨pad, only⟩ : ∃ pad, opened.source.pads = [pad] := by
    have listed := listed_of_well (show (attach timed config).fault = none from well)
    rw [← pads] at listed
    rw [IsFull, maxPads, Nat.not_le] at full
    rw [← List.length_eq_one_iff]
    have some := List.length_pos_of_ne_nil listed
    omega
  have soundThen : opened.recognizer.Sound := Sensor.sound_operate sound 0 (.start config)
  have recordedThen : Listed opened := recorded.operate sound 0 (.start config)
  have start : again = (attach opened config).state := by
    change (opened.start config).state = _
    rw [Sensor.start_of_timing_eq (timing_start sensor config)]
    rfl
  obtain ⟨boundAgain, padsAgain, _⟩ := attach_leaves opened config
  rw [start, boundAgain, padsAgain]
  rcases addPads_of_decided soundThen only recordedThen decided with same | twice
  · rw [same]
    exact ⟨rfl, .inl rfl⟩
  · rw [twice]
    exact ⟨rfl, .inr ⟨pad, only, rfl⟩⟩

end TouchPads

/-- Starting again with the configuration of the last start, which went well, on hardware that works. It goes
well again. On debounced lines it changes nothing exactly if each key is on the channel it is wired to or left
out, and no channel is ever on record twice; on a gated line it changes nothing. On pads it lists none exactly
if there is no room or all keys are left out. If starts alone registered keys, and all on one board, then it
changes nothing but that a pad which is the only one on record gets listed once more. -/
theorem second_start_may_list_only_pad_twice (board : Board) (controller : Peripheral PadCommand)
    (wokeBy : Option WakeSource) (config : Config) :
    (∀ history : List (UInt32 × Action DebouncedLines),
      let reached := (Sensor.mk {} (DebouncedLines.fresh board wokeBy)).actAll history
      let opened := reached.start config
      let again := opened.state.start config
      reached.source.board.lines.Works →
        opened.fault = none ∧ DebouncedLines.Restarted config opened again ∧
          again.state.source.channels.Nodup ∧
          (Unregistered history → Spared DebouncedLines.SparesBoard history →
            again.state.recognizer = opened.state.recognizer ∧
              again.state.source.channels = opened.state.source.channels)) ∧
    (∀ history : List (UInt32 × Action GatedLine),
      let reached := (Sensor.mk {} (GatedLine.fresh board wokeBy)).actAll history
      let opened := reached.start config
      reached.source.board.lines.Works → opened.fault = none →
        GatedLine.Restarted opened (opened.state.start config)) ∧
    ∀ history : List (UInt32 × Action TouchPads),
      let reached := (Sensor.mk {} (TouchPads.fresh board controller wokeBy)).actAll history
      let opened := reached.start config
      let again := opened.state.start config
      reached.source.Works → opened.fault = none →
        TouchPads.Restarted config opened again ∧
          (Unregistered history → Spared TouchPads.SparesBoard history →
            again.state.recognizer = opened.state.recognizer ∧
              (again.state.source.pads = opened.state.source.pads ∨
                ∃ pad, opened.state.source.pads = [pad] ∧ again.state.source.pads = [pad, pad])) := by
  refine ⟨fun history => ?_, fun history => ?_, fun history => ?_⟩
  · intro reached opened again works
    have sound : reached.recognizer.Sound := Sensor.sound_actAll Recognizer.sound_fresh history
    have distinct : reached.source.channels.Nodup := DebouncedLines.nodup_actAll List.nodup_nil history
    refine ⟨(DebouncedLines.attaching_start works sound config).1,
      DebouncedLines.restarted works sound config,
      DebouncedLines.nodup_start (DebouncedLines.nodup_start distinct config) config, ?_⟩
    intro unregistered spared
    have placed : reached.recognizer.Placed reached.source.board.wiring :=
      DebouncedLines.placed_actAll Recognizer.sound_fresh (Recognizer.placed_fresh _) unregistered spared
    exact DebouncedLines.restarted_in_place works sound placed config
  · intro reached opened works well
    exact GatedLine.restarted works (Sensor.sound_actAll Recognizer.sound_fresh history) well
  · intro reached opened again works well
    refine ⟨TouchPads.restarted works well, fun unregistered spared => ?_⟩
    have unbound : TouchPads.Listed (Sensor.mk {} (TouchPads.fresh board controller wokeBy)) :=
      List.forall_mem_nil _
    exact TouchPads.restarted_in_place works (Sensor.sound_actAll Recognizer.sound_fresh history)
      (TouchPads.placed_actAll Recognizer.sound_fresh (Recognizer.placed_fresh _) unregistered spared)
      (unbound.actAll Recognizer.sound_fresh unregistered) well

/-- One board for all kinds of hardware: a key that another keeps off its channel is left out both times, the
chip's line stays on record, and the pad comes to be listed twice. -/
theorem second_start_lists_pad_twice :
    let config : Config := { roster := ⟨[⟨2, .io⟩, ⟨3, .external⟩, ⟨4, .touch⟩], by decide⟩ }
    let earlier : Config := { roster := ⟨[⟨1, .io⟩], by decide⟩ }
    let board : Board :=
      { wiring := [(⟨1, .io⟩, 5), (⟨2, .io⟩, 5), (⟨3, .external⟩, 9), (⟨4, .touch⟩, 3)] }
    let started : List (UInt32 × Action DebouncedLines) := [(0, .operation (.start earlier))]
    let lines := (Sensor.mk {} (DebouncedLines.fresh board none)).actAll started
    let line := (Sensor.mk {} (GatedLine.fresh board none)).actAll []
    let pads := (Sensor.mk {} (TouchPads.fresh board .ideal none)).actAll []
    (lines.source.board.lines.Works ∧ Unregistered started ∧ Spared DebouncedLines.SparesBoard started ∧
        ((lines.start config).state.start config).state.source.channels =
          (lines.start config).state.source.channels) ∧
      (line.source.board.lines.Works ∧ (line.start config).fault = none ∧
        GatedLine.Restarted (line.start config) ((line.start config).state.start config)) ∧
      pads.source.Works ∧ (pads.start config).fault = none ∧
        TouchPads.Restarted config (pads.start config) ((pads.start config).state.start config) ∧
        (pads.start config).state.source.pads = [⟨3, ⟨4, .touch⟩⟩] ∧
        ((pads.start config).state.start config).state.source.pads =
          [⟨3, ⟨4, .touch⟩⟩, ⟨3, ⟨4, .touch⟩⟩] := by
  intro config earlier board started lines line pads
  have unregistered : Unregistered started := by simp [Unregistered, started]
  have spared : Spared DebouncedLines.SparesBoard started := by simp [Spared, started]
  have linesWork : lines.source.board.lines.Works := fun _ _ => rfl
  have lineWorks : line.source.board.lines.Works := fun _ _ => rfl
  have padsWork : pads.source.Works := ⟨fun _ _ => rfl, fun _ _ => rfl⟩
  have lineStarts : (line.start config).fault = none := by decide
  have padsStart : (pads.start config).fault = none := by decide
  obtain ⟨onLines, onLine, onPads⟩ := second_start_may_list_only_pad_twice board .ideal none config
  obtain ⟨_, _, _, inPlace⟩ := onLines started linesWork
  obtain ⟨restarted, _⟩ := onPads [] padsWork padsStart
  refine ⟨⟨linesWork, unregistered, spared, (inPlace unregistered spared).2⟩,
    ⟨lineWorks, lineStarts, ?_⟩, padsWork, padsStart, ?_, by decide, by decide⟩
  · with_reducible exact onLine [] lineWorks lineStarts
  · with_reducible exact restarted

/-- A pad that is the only one there is comes to be listed twice. -/
theorem lone_pad_listed_twice :
    let config : Config := { roster := ⟨[⟨1, .touch⟩], by decide⟩ }
    let board : Board := { wiring := [(⟨1, .touch⟩, 3)] }
    let opened := (Sensor.mk {} (TouchPads.fresh board .ideal none)).start config
    let again := opened.state.start config
    opened.fault = none ∧ opened.state.source.pads.map Pad.channel = [3] ∧
      again.fault = none ∧ again.state.source.pads.map Pad.channel = [3, 3] := by
  decide

end KeyGesture
