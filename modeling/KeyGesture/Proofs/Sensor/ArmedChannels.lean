import Mathlib.Data.List.Perm.Subperm
import KeyGesture.Proofs.Sensor.Attaching

namespace KeyGesture

/-! Channels that were enabled, and what a shutdown for power-off makes of them. It disables the channels on
record. Debounced lines and pads record every channel they ever enabled; a gated line has room for one channel
only, so the ones before the last stay armed. -/

/-- A shutdown disables channels, one command each, unless they are to wake the system. -/
structure ShutsOff (channels : List Nat) (source : Source) (before : Board) (after : Bool → Board) : Prop where
  waking : after true = before
  final : (after false).lines.asked =
    before.lines.asked ++ channels.map fun channel => .disable channel source

theorem Board.shutsOff (board : Board) (source : Source) (channels : List Nat) :
    ShutsOff channels source board (board.shutOff source channels) :=
  ⟨rfl, board.asked_disableAll source channels⟩

namespace DebouncedLines

variable {sensor : Sensor DebouncedLines} {wiring : Wiring} {key : Key} {channel number : Nat}
  {bindings : List (Key × Nat)} {record : List Nat × Wiring × List (Nat × Nat)}

/-- Keys are on the channels they are wired to, the channels on record are those of keys, each once, and among
them are all that were enabled. -/
structure Accounted (bindings : List (Key × Nat)) (record : List Nat × Wiring × List (Nat × Nat)) : Prop where
  placed : ∀ binding ∈ bindings, record.2.1.channel? binding.1 = some binding.2
  distinct : record.1.Nodup
  bound : ∀ channel ∈ record.1, channel ∈ bindings.map Prod.snd
  armed : ∀ entry ∈ record.2.2, entry.1 ∈ record.1

/-- There are no more channels on record than keys, so there is room for the channel of a key. -/
theorem Accounted.room (accounted : Accounted bindings record) (fits : bindings.length ≤ maxKeys)
    (bound : (key, channel) ∈ bindings) : channel ∈ record.1 ∨ record.1.length < maxKeys := by
  by_cases noted : channel ∈ record.1
  · exact .inl noted
  · right
    have distinct : (channel :: record.1).Nodup := List.nodup_cons.mpr ⟨noted, accounted.distinct⟩
    have within : channel :: record.1 ⊆ bindings.map Prod.snd :=
      List.cons_subset.mpr ⟨List.mem_map_of_mem bound, accounted.bound⟩
    have fewer := (List.subperm_of_subset distinct within).length_le
    rw [List.length_cons, List.length_map] at fewer
    exact Nat.lt_of_lt_of_le fewer fits

/-- A key that is put on the channel it is wired to takes no channel on record from its key. -/
theorem Accounted.seat (sound : sensor.recognizer.Sound)
    (accounted : Accounted sensor.recognizer.bindings sensor.source.record) (key : Key) :
    Accounted (sensor.recognizer.seat sensor.source.board.wiring key).bindings sensor.source.record := by
  have placed : sensor.recognizer.Placed sensor.source.board.wiring := accounted.placed
  refine ⟨placed.seat sound key, accounted.distinct, ?_, accounted.armed⟩
  intro channel noted
  obtain ⟨⟨holder, own⟩, bound, rfl⟩ := List.mem_map.mp (accounted.bound channel noted)
  exact List.mem_map_of_mem (Recognizer.mem_bindings_seat (placed _ bound) bound key)

theorem mem_channels_note (lines : DebouncedLines)
    (room : channel ∈ lines.channels ∨ lines.channels.length < maxKeys) (other : Nat) :
    other ∈ (lines.note channel).channels ↔ other ∈ lines.channels ∨ other = channel := by
  rcases lines.note_noted_or_appended channel with ⟨noted, same⟩ | ⟨_, appended⟩
  · have listed : channel ∈ lines.channels :=
      room.elim id fun fewer => noted.resolve_right (Nat.not_le_of_lt fewer)
    rw [same]
    refine ⟨.inl, ?_⟩
    rintro (old | rfl)
    · exact old
    · exact listed
  · rw [appended, List.mem_append, List.mem_singleton]

/-- A key's channel that was enabled is noted, and then all channels that were enabled are on record again. -/
theorem Accounted.note {lines : DebouncedLines} {earlier : List (Nat × Nat)} {debounce : Nat}
    (accounted : Accounted bindings (lines.channels, lines.board.wiring, earlier))
    (fits : bindings.length ≤ maxKeys) (bound : (key, channel) ∈ bindings)
    (enabled : lines.board.enabled = earlier ++ [(channel, debounce)]) :
    Accounted bindings (lines.note channel).record := by
  have noted := mem_channels_note lines (accounted.room fits bound)
  refine ⟨?_, nodup_note accounted.distinct channel, ?_, ?_⟩
  · change ∀ binding ∈ bindings, (lines.note channel).board.wiring.channel? binding.1 = some binding.2
    rw [board_note]
    exact accounted.placed
  · intro other member
    rcases (noted other).mp member with old | rfl
    · exact accounted.bound other old
    · exact List.mem_map_of_mem bound
  · change ∀ entry ∈ (lines.note channel).board.enabled, entry.1 ∈ (lines.note channel).channels
    rw [board_note, enabled, List.forall_mem_append, List.forall_mem_singleton]
    exact ⟨fun entry member => (noted entry.1).mpr (.inl (accounted.armed entry member)),
      (noted channel).mpr (.inr rfl)⟩

theorem accounted_attachKey (sound : sensor.recognizer.Sound)
    (accounted : Accounted sensor.recognizer.bindings sensor.source.record) (debounce : Nat) (key : Key) :
    (attachKey debounce sensor key).state.recognizer.Sound ∧
      Accounted (attachKey debounce sensor key).state.recognizer.bindings
        (attachKey debounce sensor key).state.source.record := by
  rcases attachKey_left_out_or_issued debounce sensor key with
    ⟨_, same⟩ | ⟨channel, number, wired, accepted, attached⟩
  · rw [same]
    exact ⟨sound, accounted⟩
  · have seated := accounted.seat sound key
    have soundThen := sound.seat sensor.source.board.wiring key
    let issued := sensor.source.issue (.enable channel .io debounce)
    have fits : (sensor.recognizer.seat sensor.source.board.wiring key).bindings.length ≤ maxKeys := by
      rw [Recognizer.bindings, List.length_map]
      exact soundThen.fits
    rw [attached]
    refine ⟨soundThen, ?_⟩
    change Accounted (sensor.recognizer.seat sensor.source.board.wiring key).bindings
      (issued.andThen fun lines => .done (lines.note channel)).state.record
    cases answered : issued.fault with
    | none =>
        rw [Attempt.andThen_of_well answered]
        have before : Accounted (sensor.recognizer.seat sensor.source.board.wiring key).bindings
            (issued.state.channels, issued.state.board.wiring, sensor.source.board.enabled) := seated
        exact before.note fits (Recognizer.mem_bindings_register accepted)
          (Board.enabled_issue_of_well answered)
    | some fault =>
        rw [Attempt.andThen_of_faulty answered]
        refine ⟨seated.placed, seated.distinct, seated.bound, ?_⟩
        have same : issued.state.board.enabled = sensor.source.board.enabled :=
          Board.enabled_issue_of_faulty answered
        change ∀ entry ∈ issued.state.board.enabled, entry.1 ∈ sensor.source.channels
        rw [same]
        exact seated.armed

theorem accounted_start (sound : sensor.recognizer.Sound)
    (accounted : Accounted sensor.recognizer.bindings sensor.source.record) (config : Config) :
    Accounted (sensor.start config).state.recognizer.bindings (sensor.start config).state.source.record :=
  (start_keeps (fun between => between.recognizer.Sound ∧
    Accounted between.recognizer.bindings between.source.record) ⟨Sensor.sound_timed sound, accounted⟩
    fun _ key kept => accounted_attachKey kept.1 kept.2 config.timing.debounce key).2

theorem accounted_actAll (sound : sensor.recognizer.Sound)
    (accounted : Accounted sensor.recognizer.bindings sensor.source.record)
    {history : List (UInt32 × Action DebouncedLines)} (unregistered : Unregistered history)
    (spared : Spared SparesBoard history) :
    Accounted (sensor.actAll history).recognizer.bindings (sensor.actAll history).source.record :=
  lasts_record.record_actAll Accounted
    (fun _ config soundThen accountedThen => accounted_start soundThen accountedThen config) sound accounted
    unregistered spared

/-- Whenever a start registers a key, its channel is on record or there is room to note it. -/
def NeverOverflows (sensor : Sensor DebouncedLines) (config : Config) : Prop :=
  let timed := { sensor with recognizer := sensor.recognizer.setTiming config.timing }
  ∀ earlier key later, config.roster.withSource .io = earlier ++ key :: later →
    let between := (Attempt.forEach timed earlier (attachKey config.timing.debounce)).state
    ∀ channel registered, between.source.board.channel? key = some channel →
      between.register? key channel = some registered →
        channel ∈ registered.source.channels ∨ registered.source.channels.length < maxKeys

theorem Accounted.neverOverflows (sound : sensor.recognizer.Sound)
    (accounted : Accounted sensor.recognizer.bindings sensor.source.record) (config : Config) :
    NeverOverflows sensor config := by
  intro earlier key later _ between channel registered wired accepted
  obtain ⟨number, recognizer, done, rfl⟩ := Sensor.register?_eq_some_iff.mp accepted
  have initially : (sensor.timed config).recognizer.Sound ∧
      Accounted (sensor.timed config).recognizer.bindings (sensor.timed config).source.record :=
    ⟨Sensor.sound_timed sound, accounted⟩
  have kept : between.recognizer.Sound ∧
      Accounted between.recognizer.bindings between.source.record :=
    Attempt.forEach_keeps
      (fun between : Sensor DebouncedLines => between.recognizer.Sound ∧
        Accounted between.recognizer.bindings between.source.record)
      (fun _ key kept => accounted_attachKey kept.1 kept.2 config.timing.debounce key) initially earlier
  have seated := kept.2.seat kept.1 key
  rw [Recognizer.seat_of_registered wired done] at seated
  have fits : recognizer.bindings.length ≤ maxKeys := by
    rw [Recognizer.bindings, List.length_map]
    exact (kept.1.register done).fits
  exact seated.room fits (Recognizer.mem_bindings_register done)

end DebouncedLines

namespace GatedLine

/-- The channel on record is the last one that was enabled. -/
theorem channel?_start {sensor : Sensor GatedLine}
    (last : sensor.source.channel? = sensor.source.board.enabled.getLast?.map Prod.fst) (config : Config) :
    (sensor.start config).state.source.channel? =
      (sensor.start config).state.source.board.enabled.getLast?.map Prod.fst := by
  let timed := sensor.timed config
  change (attach timed config).state.source.channel? =
    (attach timed config).state.source.board.enabled.getLast?.map Prod.fst
  rw [attach]
  split
  · exact last
  · split
    · exact last
    · split
      · exact last
      · rename_i channel _ _ registered accepted
        obtain ⟨_, recognizer, _, rfl⟩ := Sensor.register?_eq_some_iff.mp accepted
        let issued := timed.source.issue (.enable channel .external config.timing.debounce)
        let attached := issued.andThen fun line : GatedLine => .done { line with channel? := some channel }
        change attached.state.channel? = attached.state.board.enabled.getLast?.map Prod.fst
        simp only [attached]
        cases answered : issued.fault with
        | none =>
            have enabled : issued.state.board.enabled =
                sensor.source.board.enabled ++ [(channel, config.timing.debounce)] :=
              Board.enabled_issue_of_well answered
            rw [Attempt.andThen_of_well answered]
            change some channel = issued.state.board.enabled.getLast?.map Prod.fst
            rw [enabled, List.getLast?_concat]
            rfl
        | some fault =>
            have same : issued.state.board.enabled = sensor.source.board.enabled :=
              Board.enabled_issue_of_faulty answered
            rw [Attempt.andThen_of_faulty answered, same]
            exact last

theorem channel?_actAll {sensor : Sensor GatedLine}
    (last : sensor.source.channel? = sensor.source.board.enabled.getLast?.map Prod.fst)
    {history : List (UInt32 × Action GatedLine)} (spared : Spared SparesBoard history) :
    (sensor.actAll history).source.channel? =
      (sensor.actAll history).source.board.enabled.getLast?.map Prod.fst :=
  lasts_record.part_actAll (fun record => record.1 = record.2.2.getLast?.map Prod.fst)
    (fun _ config lastThen => channel?_start lastThen config) last spared

end GatedLine

namespace TouchPads

variable {sensor : Sensor TouchPads}

/-- Programming a pad enables no channel but its own. -/
theorem enabled_program (touch : TouchPads) (pad : Pad) : ∀ entry ∈ (program touch pad).state.board.enabled,
    entry ∈ touch.board.enabled ∨ entry = (pad.channel, 0) := by
  let kept (state : TouchPads) : Prop :=
    ∀ entry ∈ state.board.enabled, entry ∈ touch.board.enabled ∨ entry = (pad.channel, 0)
  have untouched : kept touch := fun _ => .inl
  refine Attempt.andThen_keeps kept (Attempt.andThen_keeps kept untouched fun _ same => same) ?_
  intro state holds
  change ∀ entry ∈ (state.board.issue (.enable pad.channel .touch 0)).state.enabled, _
  cases answered : (state.board.issue (.enable pad.channel .touch 0)).fault with
  | none =>
      rw [Board.enabled_issue_of_well answered, List.forall_mem_append, List.forall_mem_singleton]
      exact ⟨holds, .inr rfl⟩
  | some fault =>
      rw [Board.enabled_issue_of_faulty answered]
      exact holds

/-- Programming pads that are on record enables no channel but theirs. -/
theorem armed_forEach_program (touch : TouchPads) {recorded pads : List Pad} (within : pads ⊆ recorded)
    (armed : ∀ entry ∈ touch.board.enabled, entry.1 ∈ recorded.map Pad.channel) :
    ∀ entry ∈ (Attempt.forEach touch pads program).state.board.enabled,
      entry.1 ∈ recorded.map Pad.channel := by
  induction pads generalizing touch with
  | nil => exact armed
  | cons pad rest ih =>
      obtain ⟨own, others⟩ := List.cons_subset.mp within
      have programmed : ∀ entry ∈ (program touch pad).state.board.enabled,
          entry.1 ∈ recorded.map Pad.channel := by
        intro entry member
        rcases enabled_program touch pad entry member with old | rfl
        · exact armed entry old
        · exact List.mem_map_of_mem own
      rw [Attempt.forEach_cons]
      exact Attempt.andThen_keeps (fun touch : TouchPads =>
        ∀ entry ∈ touch.board.enabled, entry.1 ∈ recorded.map Pad.channel) programmed fun next => ih next others

/-- All channels that were enabled are those of pads on record. -/
theorem armed_start (armed : ∀ entry ∈ sensor.source.board.enabled,
      entry.1 ∈ sensor.source.pads.map Pad.channel) (config : Config) :
    ∀ entry ∈ (sensor.start config).state.source.board.enabled,
      entry.1 ∈ (sensor.start config).state.source.pads.map Pad.channel := by
  let timed := sensor.timed config
  let bound := (config.roster.withSource .touch).foldl addPad timed
  have armedBound : ∀ entry ∈ bound.source.board.enabled, entry.1 ∈ bound.source.pads.map Pad.channel := by
    rw [board_addPads timed]
    intro entry member
    exact List.map_subset _ (pads_prefix_addPads timed _).subset (armed entry member)
  change ∀ entry ∈ (attach timed config).state.source.board.enabled,
    entry.1 ∈ (attach timed config).state.source.pads.map Pad.channel
  rw [(attach_leaves timed config).2.1]
  rcases attach_unlisted_or_programmed timed config with ⟨_, failed⟩ | ⟨_, programmed⟩
  · rw [failed]
    exact armedBound
  · rw [programmed]
    exact armed_forEach_program (configured bound.source config) (List.Subset.refl _) armedBound

theorem armed_actAll (armed : ∀ entry ∈ sensor.source.board.enabled,
      entry.1 ∈ sensor.source.pads.map Pad.channel)
    {history : List (UInt32 × Action TouchPads)} (spared : Spared SparesBoard history) :
    ∀ entry ∈ (sensor.actAll history).source.board.enabled,
      entry.1 ∈ (sensor.actAll history).source.pads.map Pad.channel :=
  lasts_record.part_actAll (fun record => ∀ entry ∈ record.2.2, entry.1 ∈ record.1.map Pad.channel)
    (fun _ config armedThen => armed_start armedThen config) armed spared

end TouchPads

/-- A shutdown disables the channels on record, unless they are to wake the system. Whatever was done before on
one board, and whichever of its commands failed, every channel that was ever enabled is on record on pads, and
on debounced lines if starts alone registered keys, where room to note the channel of a key is never lacking.
On a gated line the last channel that was enabled is on record, and no other. -/
theorem shutdown_disables_channels_on_record (wiring : Wiring)
    (respond : List (LineCommand × Option Fault) → LineCommand → Option Fault)
    (controller : Peripheral PadCommand) (wokeBy : Option WakeSource) :
    let board : Board := { wiring, lines := { respond } }
    (∀ history : List (UInt32 × Action DebouncedLines),
      Unregistered history → Spared DebouncedLines.SparesBoard history →
        let reached := (Sensor.mk {} (DebouncedLines.fresh board wokeBy)).actAll history
        ShutsOff reached.source.channels .io reached.source.board
            (fun wakes => (reached.shutDown wakes).source.board) ∧
          (∀ entry ∈ reached.source.board.enabled, entry.1 ∈ reached.source.channels) ∧
          ∀ config, DebouncedLines.NeverOverflows reached config) ∧
    (∀ history : List (UInt32 × Action GatedLine), Spared GatedLine.SparesBoard history →
      let reached := (Sensor.mk {} (GatedLine.fresh board wokeBy)).actAll history
      ShutsOff reached.source.channel?.toList .external reached.source.board
          (fun wakes => (reached.shutDown wakes).source.board) ∧
        reached.source.channel? = reached.source.board.enabled.getLast?.map Prod.fst) ∧
    ∀ history : List (UInt32 × Action TouchPads), Spared TouchPads.SparesBoard history →
      let reached := (Sensor.mk {} (TouchPads.fresh board controller wokeBy)).actAll history
      ShutsOff (reached.source.pads.map Pad.channel) .touch reached.source.board
          (fun wakes => (reached.shutDown wakes).source.board) ∧
        ∀ entry ∈ reached.source.board.enabled, entry.1 ∈ reached.source.pads.map Pad.channel := by
  intro board
  refine ⟨fun history unregistered spared => ?_, fun history spared => ?_, fun history spared => ?_⟩
  · intro reached
    have off : (fun wakes => (reached.shutDown wakes).source.board) =
        reached.source.board.shutOff .io reached.source.channels := funext reached.source.board_detach
    let fresh := Sensor.mk {} (DebouncedLines.fresh board wokeBy)
    have unused : DebouncedLines.Accounted fresh.recognizer.bindings fresh.source.record :=
      ⟨List.forall_mem_nil _, List.nodup_nil, List.forall_mem_nil _, List.forall_mem_nil _⟩
    have accounted : DebouncedLines.Accounted reached.recognizer.bindings reached.source.record :=
      DebouncedLines.accounted_actAll Recognizer.sound_fresh unused unregistered spared
    have sound : reached.recognizer.Sound := Sensor.sound_actAll Recognizer.sound_fresh history
    rw [off]
    exact ⟨reached.source.board.shutsOff _ _, accounted.armed, accounted.neverOverflows sound⟩
  · intro reached
    have off : (fun wakes => (reached.shutDown wakes).source.board) =
        reached.source.board.shutOff .external reached.source.channel?.toList :=
      funext reached.source.board_detach
    rw [off]
    exact ⟨reached.source.board.shutsOff _ _, GatedLine.channel?_actAll rfl spared⟩
  · intro reached
    have off : (fun wakes => (reached.shutDown wakes).source.board) =
        reached.source.board.shutOff .touch (reached.source.pads.map Pad.channel) :=
      funext reached.source.board_detach
    rw [off]
    exact ⟨reached.source.board.shutsOff _ _, TouchPads.armed_actAll (List.forall_mem_nil _) spared⟩

/-- The second start fails on its first channel. The channel of the first start is on record all the same, and
the shutdown disables it. -/
theorem shutdown_after_failed_start :
    let wiring : Wiring := [(⟨1, .io⟩, 5), (⟨2, .io⟩, 6), (⟨3, .external⟩, 9), (⟨4, .touch⟩, 3)]
    let respond : List (LineCommand × Option Fault) → LineCommand → Option Fault :=
      fun _ command => if command = .enable 6 .io 20 then some .line else none
    let board : Board := { wiring, lines := { respond } }
    let first : Config := { roster := ⟨[⟨1, .io⟩, ⟨3, .external⟩, ⟨4, .touch⟩], by decide⟩ }
    let second : Config := { roster := ⟨[⟨2, .io⟩, ⟨1, .io⟩], by decide⟩ }
    let starts : List (UInt32 × Action DebouncedLines) :=
      [(0, .operation (.start first)), (0, .operation (.start second))]
    let lines := (Sensor.mk {} (DebouncedLines.fresh board none)).actAll starts
    let line := (Sensor.mk {} (GatedLine.fresh board none)).actAll [(0, .operation (.start first))]
    let pads := (Sensor.mk {} (TouchPads.fresh board .ideal none)).actAll [(0, .operation (.start first))]
    (Unregistered starts ∧ Spared DebouncedLines.SparesBoard starts ∧
        lines.recognizer.bindings = [(⟨1, .io⟩, 5), (⟨2, .io⟩, 6)] ∧ lines.source.channels = [5] ∧
        (∀ entry ∈ lines.source.board.enabled, entry.1 ∈ lines.source.channels) ∧
        ShutsOff lines.source.channels .io lines.source.board
          (fun wakes => (lines.shutDown wakes).source.board)) ∧
      (line.source.channel? = some 9 ∧ ShutsOff line.source.channel?.toList .external line.source.board
        (fun wakes => (line.shutDown wakes).source.board)) ∧
      pads.source.board.enabled = [(3, 0)] ∧
        ShutsOff (pads.source.pads.map Pad.channel) .touch pads.source.board
          (fun wakes => (pads.shutDown wakes).source.board) := by
  intro wiring respond board first second starts lines line pads
  have unregistered : Unregistered starts := by simp [Unregistered, starts]
  have spared : Spared DebouncedLines.SparesBoard starts := by simp [Spared, starts]
  have sparedLine : Spared GatedLine.SparesBoard [(0, .operation (.start first))] := by simp [Spared]
  have sparedPads : Spared TouchPads.SparesBoard [(0, .operation (.start first))] := by simp [Spared]
  have bindings : lines.recognizer.bindings = [(⟨1, .io⟩, 5), (⟨2, .io⟩, 6)] := by decide
  have channels : lines.source.channels = [5] := by decide
  have channel : line.source.channel? = some 9 := by decide
  have enabled : pads.source.board.enabled = [(3, 0)] := by decide
  obtain ⟨onLines, onLine, onPads⟩ := shutdown_disables_channels_on_record wiring respond .ideal none
  obtain ⟨offLines, armed, _⟩ := onLines starts unregistered spared
  obtain ⟨offLine, _⟩ := onLine _ sparedLine
  obtain ⟨offPads, _⟩ := onPads _ sparedPads
  refine ⟨⟨unregistered, spared, bindings, channels, ?_, ?_⟩, ⟨channel, ?_⟩, enabled, ?_⟩
  · with_reducible exact armed
  · with_reducible exact offLines
  · with_reducible exact offLine
  · with_reducible exact offPads

/-- A gated line that is started for one key and then for another keeps no record of the first channel, which
is armed still after the shutdown. -/
theorem replaced_line_stays_armed :
    let first : Config := { roster := ⟨[⟨1, .external⟩], by decide⟩ }
    let second : Config := { roster := ⟨[⟨2, .external⟩], by decide⟩ }
    let board : Board := { wiring := [(⟨1, .external⟩, 9), (⟨2, .external⟩, 10)] }
    let started := (Sensor.mk {} (GatedLine.fresh board none)).start first
    let replaced := started.state.start second
    started.fault = none ∧ replaced.fault = none ∧
      replaced.state.source.board.enabled = [(9, 20), (10, 20)] ∧
      (replaced.state.shutDown false).source.board.disabled = [10] := by
  decide

end KeyGesture
