import KeyGesture.Proofs.Recognizer.Seating
import KeyGesture.Proofs.Sensor.Records

namespace KeyGesture

/-! Attaching keys to lines and pads. Key by key, a key is put on the channel it is wired to, unless it is
left out; then the channel is noted. Whatever fails, keys never get to other channels that way. -/

theorem Attempt.andThen_of_well {σ : Type} {attempt : Attempt σ} (well : attempt.fault = none)
    (next : σ → Attempt σ) : attempt.andThen next = next attempt.state := by
  simp only [andThen, well]

theorem Attempt.andThen_of_faulty {σ : Type} {attempt : Attempt σ} {fault : Fault}
    (faulty : attempt.fault = some fault) (next : σ → Attempt σ) : attempt.andThen next = attempt := by
  simp only [andThen, faulty]

namespace Sensor

variable {δ : Type} {sensor : Sensor δ} {config : Config}

/-- The timing of a configuration is in force, and nothing is attached yet. -/
def timed (sensor : Sensor δ) (config : Config) : Sensor δ :=
  { sensor with recognizer := sensor.recognizer.setTiming config.timing }

theorem sound_timed (sound : sensor.recognizer.Sound) : (sensor.timed config).recognizer.Sound :=
  sound.setTiming config.timing

variable [EdgeSource δ]

theorem start_eq (sensor : Sensor δ) (config : Config) :
    sensor.start config = EdgeSource.attach (sensor.timed config) config :=
  rfl

theorem start_of_timing_eq (same : sensor.recognizer.timing = config.timing) :
    sensor.start config = EdgeSource.attach sensor config := by
  rw [start_eq, timed, ← same]
  rfl

end Sensor

namespace DebouncedLines

variable {sensor : Sensor DebouncedLines} {channel : Nat}

/-- What becomes of a key: it is left out, or its channel is enabled and noted. -/
theorem attachKey_left_out_or_issued (debounce : Nat) (sensor : Sensor DebouncedLines) (key : Key) :
    sensor.recognizer.LeftOut sensor.source.board.wiring key ∧ attachKey debounce sensor key = .done sensor ∨
      ∃ channel number, sensor.source.board.wiring.channel? key = some channel ∧
        sensor.recognizer.register key channel =
          .ok (number, sensor.recognizer.seat sensor.source.board.wiring key) ∧
        attachKey debounce sensor key =
          ((sensor.source.issue (.enable channel .io debounce)).andThen fun lines =>
            .done (lines.note channel)).map fun source =>
              { recognizer := sensor.recognizer.seat sensor.source.board.wiring key, source } := by
  unfold attachKey Board.channel?
  rcases sensor.recognizer.left_out_or_registered sensor.source.board.wiring key with
    leftOut | ⟨channel, number, wired, accepted⟩
  · refine .inl ⟨leftOut, ?_⟩
    split
    · rfl
    · rename_i channel wired
      obtain ⟨cause, refused⟩ := leftOut channel wired
      simp only [Sensor.register?, refused]
  · refine .inr ⟨channel, number, wired, accepted, ?_⟩
    simp only [wired, Sensor.register?, accepted]

/-- The channel is on record, or there is no more room for it. -/
def Noted (lines : DebouncedLines) (channel : Nat) : Prop :=
  channel ∈ lines.channels ∨ maxKeys ≤ lines.channels.length

theorem note_of_noted {lines : DebouncedLines} (noted : lines.Noted channel) : lines.note channel = lines :=
  if_pos noted

theorem note_noted_or_appended (lines : DebouncedLines) (channel : Nat) :
    lines.Noted channel ∧ lines.note channel = lines ∨
      ¬ lines.Noted channel ∧
        lines.note channel = { lines with channels := lines.channels ++ [channel] } := by
  by_cases noted : lines.Noted channel
  · exact .inl ⟨noted, note_of_noted noted⟩
  · exact .inr ⟨noted, if_neg noted⟩

theorem noted_note (lines : DebouncedLines) (channel : Nat) : (lines.note channel).Noted channel := by
  rcases lines.note_noted_or_appended channel with ⟨noted, same⟩ | ⟨_, appended⟩
  · rw [same]
    exact noted
  · rw [appended]
    exact .inl (List.mem_append_right _ (List.mem_singleton_self _))

theorem Noted.note {lines : DebouncedLines} (noted : lines.Noted channel) (other : Nat) :
    (lines.note other).Noted channel := by
  rcases lines.note_noted_or_appended other with ⟨_, same⟩ | ⟨_, appended⟩
  · rw [same]
    exact noted
  · rw [appended]
    refine noted.imp (List.mem_append_left _) fun full => ?_
    rw [List.length_append]
    exact Nat.le_add_right_of_le full

theorem board_note (lines : DebouncedLines) (channel : Nat) : (lines.note channel).board = lines.board := by
  rcases lines.note_noted_or_appended channel with ⟨_, same⟩ | ⟨_, appended⟩
  · rw [same]
  · rw [appended]

theorem nodup_note {lines : DebouncedLines} (distinct : lines.channels.Nodup) (channel : Nat) :
    (lines.note channel).channels.Nodup := by
  rcases lines.note_noted_or_appended channel with ⟨_, same⟩ | ⟨unnoted, appended⟩
  · rw [same]
    exact distinct
  · rw [appended]
    exact List.nodup_append_comm.mp (List.nodup_cons.mpr ⟨fun member => unnoted (.inl member), distinct⟩)

theorem recognizer_attachKey (debounce : Nat) (sensor : Sensor DebouncedLines) (key : Key) :
    (attachKey debounce sensor key).state.recognizer =
      sensor.recognizer.seat sensor.source.board.wiring key := by
  rcases attachKey_left_out_or_issued debounce sensor key with
    ⟨leftOut, same⟩ | ⟨channel, number, _, _, issued⟩
  · rw [same, leftOut.seat]
    rfl
  · rw [issued]
    rfl

theorem wiring_attachKey (debounce : Nat) (sensor : Sensor DebouncedLines) (key : Key) :
    (attachKey debounce sensor key).state.source.board.wiring = sensor.source.board.wiring := by
  rcases attachKey_left_out_or_issued debounce sensor key with
    ⟨leftOut, same⟩ | ⟨channel, number, _, _, issued⟩
  · rw [same]
    rfl
  · rw [issued]
    refine Attempt.andThen_keeps
      (fun lines : DebouncedLines => lines.board.wiring = sensor.source.board.wiring) rfl ?_
    intro lines same
    exact (congrArg Board.wiring (lines.board_note channel)).trans same

/-- What each key's turn keeps, a start keeps. -/
theorem start_keeps (kept : Sensor DebouncedLines → Prop) {config : Config}
    (initially : kept (sensor.timed config))
    (each : ∀ between key, kept between → kept (attachKey config.timing.debounce between key).state) :
    kept (sensor.start config).state :=
  Attempt.forEach_keeps kept each initially _

/-- However a start goes, it puts keys on the channels they are wired to. -/
theorem placed_start (sound : sensor.recognizer.Sound)
    (placed : sensor.recognizer.Placed sensor.source.board.wiring) (config : Config) :
    (sensor.start config).state.recognizer.Placed (sensor.start config).state.source.board.wiring := by
  refine (start_keeps (fun between => between.recognizer.Sound ∧
    between.recognizer.Placed between.source.board.wiring) ⟨Sensor.sound_timed sound, placed⟩ ?_).2
  rintro between key ⟨soundThen, placedThen⟩
  rw [wiring_attachKey, recognizer_attachKey]
  exact ⟨soundThen.seat _ key, placedThen.seat soundThen key⟩

theorem placed_actAll (sound : sensor.recognizer.Sound)
    (placed : sensor.recognizer.Placed sensor.source.board.wiring)
    {history : List (UInt32 × Action DebouncedLines)} (unregistered : Unregistered history)
    (spared : Spared SparesBoard history) :
    (sensor.actAll history).recognizer.Placed (sensor.actAll history).source.board.wiring :=
  lasts_record.record_actAll
    (fun bindings record => ∀ binding ∈ bindings, record.2.1.channel? binding.1 = some binding.2)
    (fun _ config soundThen placedThen => placed_start soundThen placedThen config) sound placed
    unregistered spared

theorem nodup_start (distinct : sensor.source.channels.Nodup) (config : Config) :
    (sensor.start config).state.source.channels.Nodup := by
  refine start_keeps (fun between => between.source.channels.Nodup) distinct ?_
  intro between key distinctThen
  rcases attachKey_left_out_or_issued config.timing.debounce between key with
    ⟨leftOut, same⟩ | ⟨channel, number, _, _, issued⟩
  · rw [same]
    exact distinctThen
  · rw [issued]
    exact Attempt.andThen_keeps (fun lines : DebouncedLines => lines.channels.Nodup) distinctThen
      fun lines noted => nodup_note noted channel

/-- No channel is ever on record twice. -/
theorem nodup_actAll (distinct : sensor.source.channels.Nodup)
    (history : List (UInt32 × Action DebouncedLines)) :
    (sensor.actAll history).source.channels.Nodup :=
  setAtStart_channels.part_actAll List.Nodup
    (fun _ config distinctThen => nodup_start distinctThen config) distinct fun _ _ _ _ => trivial

end DebouncedLines

namespace TouchPads

variable {sensor : Sensor TouchPads} {key : Key} {keys : List Key}

/-- There is no room for another pad. -/
def IsFull (touch : TouchPads) : Prop :=
  maxPads ≤ touch.pads.length

/-- What becomes of a key: there is no room for it or it is left out, or it is registered and listed. -/
theorem addPad_unchanged_or_listed (sensor : Sensor TouchPads) (key : Key) :
    (sensor.source.IsFull ∨ sensor.recognizer.LeftOut sensor.source.board.wiring key) ∧
        addPad sensor key = sensor ∨
      ¬ sensor.source.IsFull ∧ ∃ channel number, sensor.source.board.wiring.channel? key = some channel ∧
        sensor.recognizer.register key channel =
          .ok (number, sensor.recognizer.seat sensor.source.board.wiring key) ∧
        addPad sensor key =
          { recognizer := sensor.recognizer.seat sensor.source.board.wiring key
            source := { sensor.source with pads := sensor.source.pads ++ [⟨channel, key⟩] } } := by
  by_cases full : sensor.source.IsFull
  · exact .inl ⟨.inl full, if_pos full⟩
  · have room : addPad sensor key = _ := if_neg full
    rw [room, Board.channel?]
    rcases sensor.recognizer.left_out_or_registered sensor.source.board.wiring key with
      leftOut | ⟨channel, number, wired, accepted⟩
    · refine .inl ⟨.inr leftOut, ?_⟩
      split
      · rfl
      · rename_i channel wired
        obtain ⟨cause, refused⟩ := leftOut channel wired
        simp only [Sensor.register?, refused]
    · refine .inr ⟨full, channel, number, wired, accepted, ?_⟩
      simp only [wired, Sensor.register?, accepted]
      rfl

theorem addPad_of_idle
    (idle : sensor.source.IsFull ∨ sensor.recognizer.LeftOut sensor.source.board.wiring key) :
    addPad sensor key = sensor := by
  rcases addPad_unchanged_or_listed sensor key with ⟨_, same⟩ | ⟨room, channel, _, wired, accepted, _⟩
  · exact same
  · obtain ⟨cause, refused⟩ := idle.resolve_left room channel wired
    rw [refused] at accepted
    contradiction

theorem addPads_of_idle (idle : sensor.source.IsFull ∨
      ∀ key ∈ keys, sensor.recognizer.LeftOut sensor.source.board.wiring key) :
    keys.foldl addPad sensor = sensor :=
  List.foldlRecOn (motive := fun between : Sensor TouchPads => between = sensor) keys _ rfl
    fun between same key member => by
      rw [same]
      exact addPad_of_idle (idle.imp_right fun leftOut => leftOut key member)

theorem pads_prefix_addPads (sensor : Sensor TouchPads) (keys : List Key) :
    sensor.source.pads <+: (keys.foldl addPad sensor).source.pads := by
  refine List.foldlRecOn
    (motive := fun between : Sensor TouchPads => sensor.source.pads <+: between.source.pads)
    keys _ (List.prefix_refl _) ?_
  intro between kept key _
  rcases addPad_unchanged_or_listed between key with ⟨_, same⟩ | ⟨_, channel, _, _, _, listed⟩
  · rw [same]
    exact kept
  · rw [listed]
    exact kept.trans (List.prefix_append _ _)

/-- No pad is listed only if there is no room or all keys are left out. -/
theorem pads_addPads_eq_iff (sensor : Sensor TouchPads) (keys : List Key) :
    (keys.foldl addPad sensor).source.pads = sensor.source.pads ↔ sensor.source.IsFull ∨
      ∀ key ∈ keys, sensor.recognizer.LeftOut sensor.source.board.wiring key := by
  refine ⟨fun same => ?_, fun idle => by rw [addPads_of_idle idle]⟩
  induction keys generalizing sensor with
  | nil => exact .inr (List.forall_mem_nil _)
  | cons key rest ih =>
      rw [List.foldl_cons] at same
      rcases addPad_unchanged_or_listed sensor key with ⟨idle, unmoved⟩ | ⟨_, channel, _, _, _, listed⟩
      · rw [unmoved] at same
        rcases ih sensor same with full | later
        · exact .inl full
        · exact idle.imp_right fun leftOut => List.forall_mem_cons.mpr ⟨leftOut, later⟩
      · have grown := (pads_prefix_addPads (addPad sensor key) rest).length_le
        rw [same, listed, List.length_append, List.length_singleton] at grown
        exact absurd grown (Nat.not_succ_le_self _)

theorem board_addPads (sensor : Sensor TouchPads) (keys : List Key) :
    (keys.foldl addPad sensor).source.board = sensor.source.board :=
  source_addPads sensor TouchPads.board (fun _ _ => rfl) keys

/-- A key's turn is that of putting it on the channel it is wired to, or there is no room for it. -/
theorem recognizer_addPad (sensor : Sensor TouchPads) (key : Key) :
    (addPad sensor key).recognizer = sensor.recognizer ∨
      (addPad sensor key).recognizer = sensor.recognizer.seat sensor.source.board.wiring key := by
  rcases addPad_unchanged_or_listed sensor key with ⟨_, same⟩ | ⟨_, _, _, _, _, listed⟩
  · exact .inl (congrArg Sensor.recognizer same)
  · exact .inr (congrArg Sensor.recognizer listed)

/-- What putting keys on the channels they are wired to keeps of the recognizer. -/
theorem recognizer_addPads_keeps (sensor : Sensor TouchPads) (kept : Recognizer → Prop)
    (initially : kept sensor.recognizer) (keys : List Key)
    (each : ∀ recognizer, kept recognizer → ∀ key ∈ keys,
      kept (recognizer.seat sensor.source.board.wiring key)) :
    kept (keys.foldl addPad sensor).recognizer := by
  refine (List.foldlRecOn (motive := fun between : Sensor TouchPads =>
    between.source.board = sensor.source.board ∧ kept between.recognizer)
    keys addPad ⟨rfl, initially⟩ ?_).2
  rintro between ⟨board, holds⟩ key member
  refine ⟨(source_addPads between TouchPads.board (fun _ _ => rfl) [key]).trans board, ?_⟩
  rcases recognizer_addPad between key with same | seated
  · rw [same]
    exact holds
  · rw [seated, board]
    exact each _ holds key member

/-- As long as there is room, every key has its turn. -/
theorem recognizer_addPads_of_room (keys : List Key)
    (room : ¬ (keys.foldl addPad sensor).source.IsFull) :
    (keys.foldl addPad sensor).recognizer = sensor.recognizer.seatAll sensor.source.board.wiring keys := by
  induction keys generalizing sensor with
  | nil => rfl
  | cons key rest ih =>
      rw [List.foldl_cons] at room ⊢
      have roomThen : ¬ (addPad sensor key).source.IsFull := fun full =>
        room (Nat.le_trans full (pads_prefix_addPads (addPad sensor key) rest).length_le)
      have board : (addPad sensor key).source.board = sensor.source.board := board_addPads sensor [key]
      rw [ih room, board, Recognizer.seatAll, Recognizer.seatAll, List.foldl_cons]
      congr 1
      rcases addPad_unchanged_or_listed sensor key with ⟨full | leftOut, same⟩ | ⟨_, _, _, _, _, listed⟩
      · rw [same] at roomThen
        exact absurd full roomThen
      · rw [same, leftOut.seat]
      · rw [listed]

/-- The pads with the settings of a configuration stored. -/
def configured (touch : TouchPads) (config : Config) : TouchPads :=
  { touch with thresholds := decode config.thresholds, triggers := defaultTriggers }

/-- Attaching ends with nothing programmed if no pad is listed; else all that are listed are programmed. -/
theorem attach_unlisted_or_programmed (sensor : Sensor TouchPads) (config : Config) :
    let bound := (config.roster.withSource .touch).foldl addPad sensor
    bound.source.pads = [] ∧ attach sensor config = .failed bound .notReady ∨
      bound.source.pads ≠ [] ∧ attach sensor config =
        (Attempt.forEach (configured bound.source config) bound.source.pads program).map fun source =>
          { bound with source } := by
  intro bound
  by_cases unlisted : bound.source.pads = []
  · exact .inl ⟨unlisted, if_pos (List.isEmpty_iff.mpr unlisted)⟩
  · exact .inr ⟨unlisted, if_neg fun empty => unlisted (List.isEmpty_iff.mp empty)⟩

theorem wiring_program (touch : TouchPads) (pad : Pad) :
    (program touch pad).state.board.wiring = touch.board.wiring := by
  let kept (state : TouchPads) : Prop := state.board.wiring = touch.board.wiring
  refine Attempt.andThen_keeps kept (Attempt.andThen_keeps kept rfl ?_) ?_
  · exact fun _ same => same
  · exact fun _ same => same

/-- What attaching leaves but for the commands it issues. -/
theorem attach_leaves (sensor : Sensor TouchPads) (config : Config) :
    let bound := (config.roster.withSource .touch).foldl addPad sensor
    let attached := (attach sensor config).state
    attached.recognizer = bound.recognizer ∧ attached.source.pads = bound.source.pads ∧
      attached.source.board.wiring = sensor.source.board.wiring := by
  intro bound attached
  have board : bound.source.board = sensor.source.board := board_addPads sensor _
  rcases attach_unlisted_or_programmed sensor config with ⟨_, failed⟩ | ⟨_, programmed⟩
  · simp only [attached, failed]
    exact ⟨rfl, rfl, congrArg Board.wiring board⟩
  · simp only [attached, programmed]
    let kept (touch : TouchPads) : Prop := touch.board.wiring = sensor.source.board.wiring
    have initially : kept (configured bound.source config) := congrArg Board.wiring board
    exact ⟨rfl, pads_forEach_program (configured bound.source config) _,
      Attempt.forEach_keeps kept (fun touch pad same => (wiring_program touch pad).trans same)
        initially bound.source.pads⟩

theorem wiring_start (sensor : Sensor TouchPads) (config : Config) :
    (sensor.start config).state.source.board.wiring = sensor.source.board.wiring :=
  (attach_leaves (sensor.timed config) config).2.2

theorem timing_start (sensor : Sensor TouchPads) (config : Config) :
    (sensor.start config).state.recognizer.timing = config.timing := by
  change (attach (sensor.timed config) config).state.recognizer.timing = _
  rw [(attach_leaves (sensor.timed config) config).1]
  refine recognizer_addPads_keeps (sensor.timed config) (fun recognizer => recognizer.timing = config.timing) rfl _ ?_
  intro recognizer same key _
  rw [Recognizer.timing_seat, same]

theorem listed_of_well {config : Config} (well : (attach sensor config).fault = none) :
    ((config.roster.withSource .touch).foldl addPad sensor).source.pads ≠ [] := by
  rcases attach_unlisted_or_programmed sensor config with ⟨_, failed⟩ | ⟨listed, _⟩
  · rw [failed] at well
    contradiction
  · exact listed

/-- However a start goes, it puts keys on the channels they are wired to. -/
theorem placed_start (sound : sensor.recognizer.Sound)
    (placed : sensor.recognizer.Placed sensor.source.board.wiring) (config : Config) :
    (sensor.start config).state.recognizer.Placed (sensor.start config).state.source.board.wiring := by
  let wiring := sensor.source.board.wiring
  obtain ⟨_, placedAfter⟩ := recognizer_addPads_keeps (sensor.timed config)
    (fun recognizer => recognizer.Sound ∧ recognizer.Placed wiring)
    ⟨Sensor.sound_timed sound, placed⟩ (config.roster.withSource .touch)
    fun recognizer kept key _ => ⟨kept.1.seat wiring key, kept.2.seat kept.1 key⟩
  rw [wiring_start]
  change (attach (sensor.timed config) config).state.recognizer.Placed wiring
  rw [(attach_leaves (sensor.timed config) config).1]
  exact placedAfter

theorem placed_actAll (sound : sensor.recognizer.Sound)
    (placed : sensor.recognizer.Placed sensor.source.board.wiring)
    {history : List (UInt32 × Action TouchPads)} (unregistered : Unregistered history)
    (spared : Spared SparesBoard history) :
    (sensor.actAll history).recognizer.Placed (sensor.actAll history).source.board.wiring :=
  lasts_record.record_actAll
    (fun bindings record => ∀ binding ∈ bindings, record.2.1.channel? binding.1 = some binding.2)
    (fun _ config soundThen placedThen => placed_start soundThen placedThen config) sound placed
    unregistered spared

end TouchPads

end KeyGesture
