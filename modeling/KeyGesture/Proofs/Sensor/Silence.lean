import KeyGesture.EdgeSource.DebouncedLines
import KeyGesture.EdgeSource.GatedLine
import KeyGesture.EdgeSource.PolledPins
import KeyGesture.EdgeSource.TouchPads.Processing
import KeyGesture.Proofs.Recognizer.Muting
import KeyGesture.Sensor.Control

namespace KeyGesture

/-! A sensor that has been shut down reports nothing any more. Only the recognizer reports, it is muted, and
nothing the processing of a sensor does with it ends that. -/

/-- An operation of a sensor, or something that happens to its hardware meanwhile. -/
inductive SensorCall (δ : Type) where
  | start (config : Config)
  | process (message : Message)
  | drain (mailbox : Mailbox)
  | setEnabled (enable : Bool)
  | shutDown (wakes : Bool)
  | hardware (change : δ → δ)

/-- Nothing is reported, and what is left is as wanted. -/
structure Outcome.Silent {α : Type} (kept : α → Prop) (outcome : Outcome α) : Prop where
  events : outcome.events = []
  value : kept outcome.value

namespace Outcome.Silent

variable {α β : Type} {kept : α → Prop} {wanted : β → Prop} {outcome : Outcome α}

theorem quiet {value : α} (holds : kept value) : Silent kept (.quiet value) :=
  ⟨rfl, holds⟩

theorem andThen {next : α → Outcome β} (first : Silent kept outcome)
    (later : ∀ value, kept value → Silent wanted (next value)) : Silent wanted (outcome.andThen next) := by
  obtain ⟨silent, holds⟩ := later outcome.value first.value
  exact ⟨by simp only [Outcome.andThen, first.events, silent, List.append_nil], holds⟩

theorem map {change : α → β} (silent : Silent kept outcome)
    (changed : ∀ value, kept value → wanted (change value)) : Silent wanted (outcome.map change) :=
  ⟨silent.events, changed _ silent.value⟩

theorem ite {gate : Prop} [Decidable gate] {other : Outcome α} (first : Silent kept outcome)
    (second : Silent kept other) : Silent kept (if gate then outcome else other) := by
  split
  · exact first
  · exact second

theorem foldlM {step : α → β → Outcome α}
    (each : ∀ state item, kept state → Silent kept (step state item)) {state : α}
    (initially : kept state) (items : List β) : Silent kept (items.foldlM step state) := by
  induction items generalizing state with
  | nil => exact .quiet initially
  | cons item rest ih =>
      rw [List.foldlM_cons]
      exact (each state item initially).andThen fun _ next => ih next

end Outcome.Silent

namespace Recognizer

variable {recognizer : Recognizer}

theorem silent_answer (muted : recognizer.muted = true) (now : UInt32) (call : Call)
    (plain : call.isSwitch = false) :
    (recognizer.answer now call).Silent fun answered => answered.2.muted = true := by
  refine ⟨Turn.events_of_muted (show (Turn.mk recognizer now call).before.muted = true from muted), ?_⟩
  rw [muted_answer, plain]
  exact muted

theorem silent_press (muted : recognizer.muted = true) (now : UInt32) (channel : Nat) (backdate : UInt32) :
    (recognizer.press now channel backdate).Silent fun pressed => pressed.muted = true :=
  have answered := silent_answer muted now (.press channel backdate) rfl
  ⟨answered.events, answered.value⟩

theorem silent_release (muted : recognizer.muted = true) (now : UInt32) (channel : Nat) :
    (recognizer.release now channel).Silent fun released => released.muted = true :=
  have answered := silent_answer muted now (.release channel) rfl
  ⟨answered.events, answered.value⟩

theorem silent_tick (muted : recognizer.muted = true) (now : UInt32) :
    (recognizer.tick now).Silent fun ticked => ticked.2.muted = true :=
  have answered := silent_answer muted now .tick rfl
  ⟨answered.events, answered.value⟩

end Recognizer

namespace Sensor

variable {δ : Type} {sensor : Sensor δ}

def IsMuted (sensor : Sensor δ) : Prop :=
  sensor.recognizer.muted = true

theorem IsMuted.mapSource (muted : sensor.IsMuted) (change : δ → δ) : (sensor.mapSource change).IsMuted :=
  muted

theorem silent_recognize {step : Recognizer → Outcome Recognizer}
    (silent : (step sensor.recognizer).Silent fun left => left.muted = true) :
    (sensor.recognize step).Silent IsMuted :=
  silent.map fun _ kept => kept

theorem silent_press (muted : sensor.IsMuted) (now : UInt32) (channel : Nat) (backdate : UInt32) :
    (sensor.press now channel backdate).Silent IsMuted :=
  silent_recognize (Recognizer.silent_press muted now channel backdate)

theorem silent_release (muted : sensor.IsMuted) (now : UInt32) (channel : Nat) :
    (sensor.release now channel).Silent IsMuted :=
  silent_recognize (Recognizer.silent_release muted now channel)

theorem silent_tick (muted : sensor.IsMuted) (now : UInt32) (onSettled : δ → δ) :
    (sensor.tick now onSettled).Silent IsMuted := by
  refine (Recognizer.silent_tick muted now).map ?_
  rintro ⟨found, ticked⟩ kept
  dsimp only
  split
  · exact kept
  · exact kept

theorem silent_mapSource {outcome : Outcome (Sensor δ)} (silent : outcome.Silent IsMuted)
    (change : δ → δ) : (outcome.map (·.mapSource change)).Silent IsMuted :=
  silent.map fun _ kept => kept

theorem isMuted_of_register? {registered : Sensor δ} {key : Key} {channel : Nat} (muted : sensor.IsMuted)
    (accepted : sensor.register? key channel = some registered) : registered.IsMuted := by
  rw [register?] at accepted
  cases answered : sensor.recognizer.register key channel with
  | error cause => simp [answered] at accepted
  | ok found =>
      simp only [answered, Option.some.injEq] at accepted
      subst accepted
      have answer := Recognizer.muted_answer sensor.recognizer 0 (.register key channel)
      simp only [Recognizer.answer, answered] at answer
      exact answer.trans muted

end Sensor

/-- What hardware does with a recognizer that is muted leaves it muted and reports nothing. -/
structure SilentSource (δ : Type) [EdgeSource δ] : Prop where
  attach : ∀ (sensor : Sensor δ) config, sensor.IsMuted → (EdgeSource.attach sensor config).state.IsMuted
  handle : ∀ (sensor : Sensor δ) now message, sensor.IsMuted →
    (EdgeSource.handle sensor now message).Silent Sensor.IsMuted
  setEnabled : ∀ (sensor : Sensor δ) now enable, sensor.IsMuted →
    (EdgeSource.setEnabled sensor now enable).Silent fun attempt => attempt.state.IsMuted

namespace Sensor

variable {δ : Type} [EdgeSource δ] {sensor : Sensor δ}

def perform (sensor : Sensor δ) (now : UInt32) : SensorCall δ → Outcome (Sensor δ)
  | .start config => .quiet (sensor.start config).state
  | .process message => sensor.process now message
  | .drain mailbox => (sensor.drain now mailbox).2.2
  | .setEnabled enable => (sensor.setEnabled now enable).map Attempt.state
  | .shutDown wakes => .quiet (sensor.shutDown wakes)
  | .hardware change => .quiet (sensor.mapSource change)

/-- One call after the other, each at a reading of the clock of its own. -/
def performAll (sensor : Sensor δ) (calls : List (UInt32 × SensorCall δ)) : Outcome (Sensor δ) :=
  calls.foldlM (fun sensor moment => sensor.perform moment.1 moment.2) sensor

theorem performAll_singleton (sensor : Sensor δ) (now : UInt32) (call : SensorCall δ) :
    sensor.performAll [(now, call)] = sensor.perform now call := by
  rw [performAll, List.foldlM_cons]
  exact bind_pure _

theorem performAll_append (sensor : Sensor δ) (first second : List (UInt32 × SensorCall δ)) :
    sensor.performAll (first ++ second) =
      (sensor.performAll first).andThen fun next => next.performAll second :=
  List.foldlM_append

theorem silent_process (silent : SilentSource δ) (muted : sensor.IsMuted) (now : UInt32)
    (message : Message) : (sensor.process now message).Silent IsMuted := by
  cases message with
  | setEnabled enable => exact (silent.setEnabled sensor now enable muted).map fun _ kept => kept
  | heldAtStart | pressed | released | tick => exact silent.handle sensor now _ muted

theorem silent_perform (silent : SilentSource δ) (muted : sensor.IsMuted) (now : UInt32)
    (call : SensorCall δ) : (sensor.perform now call).Silent IsMuted := by
  cases call with
  | start config => exact .quiet (silent.attach _ config muted)
  | process message => exact silent_process silent muted now message
  | drain mailbox =>
      exact .foldlM (fun _ message kept => silent_process silent kept now message) muted mailbox.waiting
  | setEnabled enable => exact (silent.setEnabled sensor now enable muted).map fun _ kept => kept
  | shutDown wakes => exact .quiet rfl
  | hardware change => exact .quiet muted

theorem silent_performAll (silent : SilentSource δ) (muted : sensor.IsMuted)
    (calls : List (UInt32 × SensorCall δ)) : (sensor.performAll calls).Silent IsMuted := by
  refine .foldlM ?_ muted calls
  exact fun _ moment kept => silent_perform silent kept moment.1 moment.2

end Sensor

/-! Each kind of hardware. -/

namespace DebouncedLines

variable {sensor : Sensor DebouncedLines}

theorem isMuted_attachKey (muted : sensor.IsMuted) (debounce : Nat) (key : Key) :
    (attachKey debounce sensor key).state.IsMuted := by
  rw [attachKey]
  split
  · exact muted
  · split
    · exact muted
    · rename_i registered accepted
      exact (Sensor.isMuted_of_register? muted accepted : registered.IsMuted)

theorem isMuted_attach (muted : sensor.IsMuted) (config : Config) :
    (attach sensor config).state.IsMuted := by
  refine Attempt.forEach_keeps Sensor.IsMuted ?_ muted _
  exact fun _ key kept => isMuted_attachKey kept config.timing.debounce key

theorem silent_handle (muted : sensor.IsMuted) (now : UInt32) (message : Message) :
    (handle sensor now message).Silent Sensor.IsMuted := by
  cases message with
  | heldAtStart channel => exact Sensor.silent_mapSource (Sensor.silent_press muted now channel _) _
  | pressed channel =>
      exact .ite (.quiet muted) (Sensor.silent_mapSource (Sensor.silent_press muted now channel _) _)
  | released channel => exact Sensor.silent_release muted now channel
  | tick => exact .ite (.quiet muted) (Sensor.silent_tick muted now _)
  | setEnabled enable => exact .quiet muted

theorem silentSource : SilentSource DebouncedLines where
  attach _ config muted := isMuted_attach muted config
  handle _ now message muted := silent_handle muted now message
  setEnabled _ _ _ muted := .quiet muted

end DebouncedLines

namespace GatedLine

variable {sensor : Sensor GatedLine}

theorem isMuted_attach (muted : sensor.IsMuted) (config : Config) :
    (attach sensor config).state.IsMuted := by
  rw [attach]
  split
  · exact muted
  · split
    · exact muted
    · split
      · exact muted
      · rename_i registered accepted
        exact (Sensor.isMuted_of_register? muted accepted : registered.IsMuted)

theorem silent_handle (muted : sensor.IsMuted) (now : UInt32) (message : Message) :
    (handle sensor now message).Silent Sensor.IsMuted := by
  cases message with
  | heldAtStart channel => exact Sensor.silent_mapSource (Sensor.silent_press muted now channel _) _
  | pressed channel =>
      exact .ite (.quiet muted) (Sensor.silent_mapSource (Sensor.silent_press muted now channel _) _)
  | released channel => exact .ite (Sensor.silent_release muted now channel) (.quiet muted)
  | tick => exact .ite (.quiet muted) (Sensor.silent_tick muted now _)
  | setEnabled enable => exact .quiet muted

theorem silent_setEnabled (muted : sensor.IsMuted) (now : UInt32) (enable : Bool) :
    (setEnabled sensor now enable).Silent fun attempt => attempt.state.IsMuted := by
  unfold setEnabled
  refine Outcome.Silent.map ?_ fun _ kept => kept
  split
  · exact Sensor.silent_release muted now _
  · exact .quiet muted

theorem silentSource : SilentSource GatedLine where
  attach _ config muted := isMuted_attach muted config
  handle _ now message muted := silent_handle muted now message
  setEnabled _ now enable muted := silent_setEnabled muted now enable

end GatedLine

namespace PolledPins

variable {sensor : Sensor PolledPins} {recognizer : Recognizer}

theorem isMuted_attachKey (muted : sensor.IsMuted) (key : Key) : (attachKey sensor key).IsMuted := by
  rw [attachKey]
  split
  · exact muted
  · split
    · exact muted
    · rename_i registered accepted
      exact (Sensor.isMuted_of_register? muted accepted : registered.IsMuted)

theorem isMuted_attach (muted : sensor.IsMuted) (config : Config) :
    (attach sensor config).state.IsMuted :=
  List.foldlRecOn (motive := Sensor.IsMuted) _ attachKey muted
    fun _ kept key _ => isMuted_attachKey kept key

theorem silent_edge (muted : recognizer.muted = true) (now : UInt32) (before after : PolledPin) :
    (edge recognizer now before after).Silent fun next => next.muted = true :=
  .ite (.quiet muted)
    (.ite (Recognizer.silent_press muted now _ 0) (Recognizer.silent_release muted now _))

theorem silent_pollPins (muted : recognizer.muted = true) (now : UInt32) (samples : Nat)
    (pins : List PolledPin) :
    (pollPins now samples recognizer pins).Silent fun polled => polled.1.muted = true := by
  induction pins generalizing recognizer with
  | nil => exact .quiet muted
  | cons pin rest ih =>
      rw [pollPins]
      exact (silent_edge muted now pin _).andThen fun _ kept => (ih kept).map fun _ kept => kept

theorem silent_poll (muted : sensor.IsMuted) (now : UInt32) :
    (poll sensor now).Silent Sensor.IsMuted := by
  refine (silent_pollPins muted now _ _).andThen ?_
  rintro ⟨recognizer, pins⟩ kept
  have polled : ({ recognizer, source := { sensor.source with pins } } : Sensor PolledPins).IsMuted := kept
  exact Sensor.silent_tick polled now id

theorem silent_handle (muted : sensor.IsMuted) (now : UInt32) (message : Message) :
    (handle sensor now message).Silent Sensor.IsMuted := by
  cases message with
  | heldAtStart channel | pressed channel => exact Sensor.silent_press muted now channel 0
  | released channel => exact Sensor.silent_release muted now channel
  | tick => exact .ite (silent_poll muted now) (.quiet muted)
  | setEnabled enable => exact .quiet muted

theorem silentSource : SilentSource PolledPins where
  attach _ config muted := isMuted_attach muted config
  handle _ now message muted := silent_handle muted now message
  setEnabled _ _ _ muted := .quiet muted

end PolledPins

namespace TouchPads

variable {sensor : Sensor TouchPads}

theorem isMuted_addPad (muted : sensor.IsMuted) (key : Key) : (addPad sensor key).IsMuted := by
  rw [addPad]
  split
  · exact muted
  · split
    · exact muted
    · split
      · exact muted
      · rename_i registered accepted
        exact (Sensor.isMuted_of_register? muted accepted : registered.IsMuted)

theorem isMuted_attach (muted : sensor.IsMuted) (config : Config) :
    (attach sensor config).state.IsMuted := by
  have bound : ((config.roster.withSource .touch).foldl addPad sensor).IsMuted :=
    List.foldlRecOn _ addPad muted fun _ kept key _ => isMuted_addPad kept key
  unfold attach
  dsimp only
  split
  · exact bound
  · exact bound

theorem silent_release (muted : sensor.IsMuted) (now : UInt32) (channel : Nat) :
    (release sensor now channel).Silent Sensor.IsMuted :=
  Sensor.silent_release (muted.mapSource forgetHold) now channel

theorem silent_freePad (muted : sensor.IsMuted) (now : UInt32) (pad : Pad) :
    (freePad now sensor pad).Silent Sensor.IsMuted :=
  .ite (Sensor.silent_mapSource (silent_release muted now pad.channel) _) (.quiet muted)

theorem silent_releaseHeld (muted : sensor.IsMuted) (now : UInt32) :
    (releaseHeld sensor now).Silent Sensor.IsMuted :=
  .foldlM (fun _ pad kept => silent_freePad kept now pad) muted sensor.source.pads

theorem silent_selfRelease (muted : sensor.IsMuted) (now : UInt32) :
    (selfRelease sensor now).Silent Sensor.IsMuted :=
  .ite (.quiet muted) (silent_releaseHeld (muted.mapSource forgetHold) now)

theorem silent_tick (muted : sensor.IsMuted) (now : UInt32) : (tick sensor now).Silent Sensor.IsMuted := by
  refine .ite (.quiet ?_) (Sensor.silent_tick muted now _)
  split
  · exact muted
  · exact muted

theorem silent_setEnabled (muted : sensor.IsMuted) (now : UInt32) (enable : Bool) :
    (setEnabled sensor now enable).Silent fun attempt => attempt.state.IsMuted := by
  have gated := muted.mapSource fun touch => { touch with isEnabled := enable }
  refine .ite ?_ (.quiet muted)
  exact Outcome.Silent.map (.ite (.quiet gated) (silent_releaseHeld gated now)) fun _ kept => kept

theorem silent_handle (muted : sensor.IsMuted) (now : UInt32) (message : Message) :
    (handle sensor now message).Silent Sensor.IsMuted := by
  cases message with
  | heldAtStart channel => exact Sensor.silent_mapSource (Sensor.silent_press muted now channel _) _
  | pressed channel =>
      exact .ite (.quiet muted) (Sensor.silent_mapSource (Sensor.silent_press muted now channel _) _)
  | released channel => exact silent_release muted now channel
  | tick => exact (silent_selfRelease muted now).andThen fun _ kept => silent_tick kept now
  | setEnabled enable => exact (silent_setEnabled muted now enable).map fun _ kept => kept

theorem silentSource : SilentSource TouchPads where
  attach _ config muted := isMuted_attach muted config
  handle _ now message muted := silent_handle muted now message
  setEnabled _ now enable muted := silent_setEnabled muted now enable

end TouchPads

/-- Whatever becomes of a sensor after it was shut down, and whenever, it reports nothing. -/
def SilentAfterShutDown (δ : Type) [EdgeSource δ] : Prop :=
  ∀ (sensor : Sensor δ) (wakes : Bool) (calls : List (UInt32 × SensorCall δ)),
    ((sensor.shutDown wakes).performAll calls).events = []

theorem SilentSource.silentAfterShutDown {δ : Type} [EdgeSource δ] (silent : SilentSource δ) :
    SilentAfterShutDown δ := fun sensor wakes calls =>
  (Sensor.silent_performAll silent (show (sensor.shutDown wakes).IsMuted from rfl) calls).events

/-- Muting decides what gets through and nothing else. After any calls, at any readings of the clock, the
timing, the slots and the chord are those of the run without its mutes and resumes; the next call replies
what it replies there and reports what it reports there, unless reporting was last switched off, when it
reports nothing. Switching reports nothing itself. A sensor that was shut down stays silent on every kind
of hardware, through starts, messages, drained mailboxes, gates and further shutdowns in any order. -/
theorem muting_only_silences :
    (∀ (calls : List (UInt32 × Call)) (now : UInt32) (call : Call),
      let turn : Turn := ⟨.run {} calls, now, call⟩
      let plain : Turn := ⟨.run {} (unswitched calls), now, call⟩
      turn.before.timing = plain.before.timing ∧ turn.before.slots = plain.before.slots ∧
        turn.before.chord = plain.before.chord ∧
        if call.isSwitch then turn.reply = .done ∧ turn.events = []
        else
          turn.reply = plain.reply ∧
            turn.events = if switchedOff calls then [] else plain.events) ∧
      SilentAfterShutDown DebouncedLines ∧ SilentAfterShutDown GatedLine ∧
      SilentAfterShutDown TouchPads ∧ SilentAfterShutDown PolledPins := by
  refine ⟨?_, DebouncedLines.silentSource.silentAfterShutDown, GatedLine.silentSource.silentAfterShutDown,
    TouchPads.silentSource.silentAfterShutDown, PolledPins.silentSource.silentAfterShutDown⟩
  intro calls now call turn plain
  have same : turn.before.resume = plain.before := Recognizer.resume_run {} calls
  refine ⟨by rw [← same]; rfl, by rw [← same]; rfl, by rw [← same]; rfl, ?_⟩
  cases switch : call.isSwitch with
  | true =>
      have answered := turn.before.answer_of_switch switch now
      exact ⟨congrArg (·.value.1) answered, congrArg (·.events) answered⟩
  | false =>
      have filters := turn.before.filters_answer switch now
      rw [same, Recognizer.muted_run calls] at filters
      exact ⟨(congrArg Prod.fst filters.value).symm, filters.events⟩

end KeyGesture
