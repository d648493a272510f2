import KeyGesture.Proofs.Sensor.PolledKeys
import KeyGesture.Proofs.Sensor.Silence

namespace KeyGesture

/-! From the start of a sensor on, each polled key is down as its debounced level says. -/

namespace PolledPins

variable {sensor : Sensor PolledPins}

/-- Of the pins with a key, the first is registered, if its channel is free. -/
theorem attachKey_cases (sensor : Sensor PolledPins) (key : Key) :
    attachKey sensor key = sensor ∨
      ∃ before pin after number recognizer, sensor.source.pins = before ++ pin :: after ∧
        (∀ earlier ∈ before, earlier.key ≠ key) ∧ pin.key = key ∧
        sensor.recognizer.register key pin.channel = .ok (number, recognizer) ∧
        attachKey sensor key =
          { recognizer
            source := { sensor.source with
              pins := before ++ { pin with registered := true } :: after } } := by
  unfold attachKey
  split
  · exact .inl rfl
  · rename_i pin index found
    split
    · exact .inl rfl
    · rename_i registered accepted
      obtain ⟨number, recognizer, done, rfl⟩ := Sensor.register?_eq_some_iff.mp accepted
      obtain ⟨wanted, front, back, split, unwanted⟩ := List.find?_eq_some_iff_append.mp found
      obtain ⟨before, others, pins, rfl, numbered⟩ := List.zipIdx_eq_append_iff.mp split
      cases others with
      | nil => contradiction
      | cons first after =>
          rw [List.zipIdx_cons, List.cons.injEq, Prod.mk.injEq, Nat.zero_add] at numbered
          obtain ⟨⟨rfl, rfl⟩, _⟩ := numbered
          refine .inr ⟨before, pin, after, number, recognizer, pins, fun earlier member => ?_,
            beq_iff_eq.mp wanted, done, ?_⟩
          · obtain ⟨place, listed⟩ := List.getElem?_of_mem member
            have front := unwanted (earlier, place) (List.mk_mem_zipIdx_iff_getElem?.mpr listed)
            simpa using front
          · have marked : (before ++ pin :: after).modify before.length
                (fun pin => { pin with registered := true }) =
                before ++ { pin with registered := true } :: after := by
              rw [List.modify_eq_take_drop, List.take_left, List.drop_left]
              rfl
            rw [Sensor.mapSource, pins, marked]

/-- A sensor that has not polled its pins yet. -/
structure Unpolled (sensor : Sensor PolledPins) : Prop where
  agree : Agree sensor.recognizer sensor.source.pins
  up : ∀ key, sensor.recognizer.isDown key = false
  fresh : ∀ pin ∈ sensor.source.pins, pin.stable = false ∧ pin.streak = 0

/-- Registering the first pin of a key; the recognizer agrees with the others as it did. -/
theorem Agree.register {recognizer registered : Recognizer} {before after : List PolledPin} {pin : PolledPin}
    {number : Nat} (agree : Agree recognizer (before ++ pin :: after))
    (first : ∀ earlier ∈ before, earlier.key ≠ pin.key)
    (accepted : recognizer.register pin.key pin.channel = .ok (number, registered))
    (agrees : ∀ other ∈ before ++ { pin with registered := true } :: after, other.registered = true →
      registered.isDown other.key = other.stable) :
    Agree registered (before ++ { pin with registered := true } :: after) := by
  obtain ⟨firstsBefore, firstsFrom, firstsAcross⟩ := List.pairwise_append.mp agree.firsts
  obtain ⟨ahead, firstsAfter⟩ := List.pairwise_cons.mp firstsFrom
  obtain ⟨boundBefore, boundFrom⟩ := List.forall_mem_append.mp agree.bound
  obtain ⟨_, boundAfter⟩ := List.forall_mem_cons.mp boundFrom
  have kept : ∀ other : PolledPin, (other.key, other.channel) ∈ recognizer.bindings →
      other.key ≠ pin.key → (other.key, other.channel) ∈ registered.bindings :=
    fun other => Recognizer.mem_bindings_of_register accepted
  refine ⟨agree.sound.register accepted, ?_, ?_, agrees⟩
  · refine List.pairwise_append.mpr ⟨firstsBefore, List.pairwise_cons.mpr ⟨ahead, firstsAfter⟩, ?_⟩
    intro earlier member
    exact List.forall_mem_cons.mpr ⟨fun _ => first earlier member,
      fun later listed => firstsAcross earlier member later (List.mem_cons_of_mem _ listed)⟩
  · refine List.forall_mem_append.mpr ⟨fun earlier member wired => ?_, List.forall_mem_cons.mpr
      ⟨fun _ => Recognizer.mem_bindings_register accepted, fun later member wired => ?_⟩⟩
    · exact kept earlier (boundBefore earlier member wired) (first earlier member)
    · exact kept later (boundAfter later member wired) (ahead later member wired).symm

theorem Unpolled.attachKey (unpolled : Unpolled sensor) (key : Key) : Unpolled (attachKey sensor key) := by
  rcases attachKey_cases sensor key with
    same | ⟨before, pin, after, number, recognizer, split, first, rfl, accepted, attached⟩
  · rwa [same]
  · have agree := unpolled.agree
    have fresh := unpolled.fresh
    rw [split] at agree fresh
    have up : ∀ other, recognizer.isDown other = false := fun other =>
      (agree.sound.isDown_of_register accepted other).trans (unpolled.up other)
    have freshNow : ∀ other ∈ before ++ { pin with registered := true } :: after,
        other.stable = false ∧ other.streak = 0 := by
      rw [List.forall_mem_append, List.forall_mem_cons] at fresh ⊢
      exact fresh
    rw [attached]
    exact ⟨agree.register first accepted fun other member _ =>
      (up other.key).trans (freshNow other member).1.symm, up, freshNow⟩

theorem samples_attachKey (sensor : Sensor PolledPins) (key : Key) :
    (attachKey sensor key).source.samples = sensor.source.samples := by
  rcases attachKey_cases sensor key with same | ⟨_, _, _, _, _, _, _, _, _, attached⟩
  · rw [same]
  · rw [attached]

/-- What the new timing leaves as wanted, and each registration and the start of the polling keep. -/
theorem start_keeps (kept : Sensor PolledPins → Prop) {config : Config}
    (timed : kept { recognizer := sensor.recognizer.setTiming config.timing
                    source := { sensor.source with samples := samplesFor config.timing.debounce } })
    (registers : ∀ sensor key, kept sensor → kept (attachKey sensor key))
    (polls : ∀ sensor, kept sensor →
      kept (sensor.mapSource fun polled => { polled with isPolling := true })) :
    kept (sensor.start config).state :=
  polls _ (List.foldlRecOn (config.roster.withSource .io) attachKey timed
    fun sensor holds key _ => registers sensor key holds)

theorem samples_start (sensor : Sensor PolledPins) (config : Config) :
    (sensor.start config).state.source.samples = samplesFor config.timing.debounce :=
  start_keeps (fun next => next.source.samples = samplesFor config.timing.debounce) rfl
    (fun sensor key kept => (samples_attachKey sensor key).trans kept) fun _ kept => kept

theorem Unpolled.start (unpolled : Unpolled sensor) (config : Config) :
    Unpolled (sensor.start config).state := by
  refine start_keeps Unpolled ?_ (fun _ key kept => kept.attachKey key)
    fun _ kept => ⟨kept.agree, kept.up, kept.fresh⟩
  exact ⟨⟨unpolled.agree.sound.setTiming config.timing, unpolled.agree.firsts, unpolled.agree.bound,
    unpolled.agree.agrees⟩, unpolled.up, unpolled.fresh⟩

theorem Unpolled.follows (unpolled : Unpolled sensor) (config : Config) :
    Follows (sensor.start config).state :=
  ⟨rfl, (unpolled.start config).agree⟩

/-- How a pin is wired, and what it reads before it is polled. -/
structure PinWiring where
  keyId : Nat
  channel : Nat
  activeLow : Bool
  reading : Reading

/-- Pins are added as long as there is room. -/
def wired (wirings : List PinWiring) : PolledPins :=
  wirings.foldl (fun polled wiring =>
    (polled.addPin wiring.keyId wiring.channel wiring.activeLow wiring.reading).state) {}

theorem plain_wired (wirings : List PinWiring) : (wired wirings).samples = 1 ∧
    ∀ pin ∈ (wired wirings).pins, pin.registered = false ∧ pin.stable = false ∧ pin.streak = 0 := by
  refine List.foldlRecOn
    (motive := fun polled : PolledPins => polled.samples = 1 ∧
      ∀ pin ∈ polled.pins, pin.registered = false ∧ pin.stable = false ∧ pin.streak = 0)
    _ _ ⟨rfl, List.forall_mem_nil _⟩ fun polled kept wiring _ => ?_
  unfold addPin
  split
  · exact ⟨kept.1,
      List.forall_mem_append.mpr ⟨kept.2, List.forall_mem_singleton.mpr ⟨rfl, rfl, rfl⟩⟩⟩
  · exact kept

theorem unpolled_wired (wirings : List PinWiring) : Unpolled { source := wired wirings } := by
  have plain := (plain_wired wirings).2
  have unregistered : ∀ pin ∈ (wired wirings).pins, ¬ pin.registered = true :=
    fun pin member => ne_true_of_eq_false (plain pin member).1
  exact ⟨⟨Recognizer.sound_fresh,
      List.pairwise_of_forall_mem_list fun _ _ later member registered =>
        absurd registered (unregistered later member),
      fun pin member registered => absurd registered (unregistered pin member),
      fun pin member registered => absurd registered (unregistered pin member)⟩,
    fun _ => rfl, fun pin member => (plain pin member).2⟩

/-! However often the pins are started anew, a streak stays short of what the counter can hold. -/

/-- No streak has come to the largest number of samples that can be asked for. -/
def StreaksFit (sensor : Sensor PolledPins) : Prop :=
  sensor.source.samples ≤ maxSamples ∧ ∀ pin ∈ sensor.source.pins, pin.streak < maxSamples

/-- Nothing is done to the pins but reading them. -/
def OnlyReads (calls : List (UInt32 × SensorCall PolledPins)) : Prop :=
  ∀ moment ∈ calls, ∀ change, moment.2 = .hardware change →
    ∃ readings, change = fun polled => polled.setReadings readings

theorem samplesFor_le (debounce : Nat) : samplesFor debounce ≤ maxSamples := by
  unfold samplesFor maxSamples
  omega

theorem streaksFit_wired (wirings : List PinWiring) : StreaksFit { source := wired wirings } := by
  obtain ⟨samples, plain⟩ := plain_wired wirings
  refine ⟨Nat.le_trans (Nat.le_of_eq samples) (by decide), fun pin member => ?_⟩
  rw [(plain pin member).2.2]
  decide

theorem StreaksFit.attachKey (fit : StreaksFit sensor) (key : Key) : StreaksFit (attachKey sensor key) := by
  rcases attachKey_cases sensor key with same | ⟨before, pin, after, _, _, split, _, _, _, attached⟩
  · rwa [same]
  · obtain ⟨samples, short⟩ := fit
    rw [split, List.forall_mem_append, List.forall_mem_cons] at short
    rw [attached]
    exact ⟨samples, List.forall_mem_append.mpr ⟨short.1, List.forall_mem_cons.mpr short.2⟩⟩

theorem StreaksFit.start (fit : StreaksFit sensor) (config : Config) : StreaksFit (sensor.start config).state :=
  start_keeps StreaksFit ⟨samplesFor_le config.timing.debounce, fit.2⟩
    (fun _ key kept => kept.attachKey key) fun _ kept => kept

theorem StreaksFit.poll (fit : StreaksFit sensor) (now : UInt32) : StreaksFit (poll sensor now).value := by
  rw [value_poll, pins_pollPins]
  exact ⟨fit.1, List.forall_mem_map.mpr fun pin member =>
    PolledPin.streak_sample_lt (fit.2 pin member) fit.1⟩

theorem StreaksFit.process (fit : StreaksFit sensor) (now : UInt32) (message : Message) :
    StreaksFit (sensor.process now message).value := by
  cases message with
  | tick =>
      by_cases polling : sensor.source.isPolling = true
      · have polled : sensor.process now .tick = PolledPins.poll sensor now := if_pos polling
        rw [polled]
        exact fit.poll now
      · have quiet : sensor.process now .tick = .quiet sensor := if_neg polling
        rwa [quiet]
  | heldAtStart | pressed | released | setEnabled => exact fit

theorem StreaksFit.perform (fit : StreaksFit sensor) (now : UInt32) {call : SensorCall PolledPins}
    (reads : ∀ change, call = .hardware change →
      ∃ readings, change = fun polled => polled.setReadings readings) :
    StreaksFit (sensor.perform now call).value := by
  cases call with
  | start config => exact fit.start config
  | process message => exact fit.process now message
  | drain mailbox =>
      change StreaksFit (sensor.processAll now mailbox.waiting).value
      rw [Sensor.processAll, Outcome.value_foldlM]
      exact List.foldlRecOn (motive := StreaksFit) mailbox.waiting _ fit
        fun _ kept message _ => kept.process now message
  | setEnabled | shutDown => exact fit
  | hardware change =>
      obtain ⟨readings, rfl⟩ := reads change rfl
      exact ⟨fit.1, forall_mem_mapIdx fun _ pin place => fit.2 pin (List.mem_of_getElem? place)⟩

theorem StreaksFit.performAll (fit : StreaksFit sensor) {calls : List (UInt32 × SensorCall PolledPins)}
    (reads : OnlyReads calls) : StreaksFit (sensor.performAll calls).value := by
  rw [Sensor.performAll, Outcome.value_foldlM]
  exact List.foldlRecOn (motive := StreaksFit) calls _ fit
    fun _ kept moment member => kept.perform moment.1 (reads moment member)

end PolledPins

/-- Once a sensor with polled pins was started, each registered pin follows its own readings: its debounced
level changes exactly as the last of those that count all differ from it, it is the same whatever the other
pins read and whenever they are polled, and its key is down as it says. So the recognizer takes every edge. And
whatever is done with the sensor, however often it is started with other debounce times, no streak is so long
that one more sample would overflow the byte it is counted in. -/
theorem polled_keys_follow_debounced_pins (wirings : List PolledPins.PinWiring) (config : Config) :
    let wired : Sensor PolledPins := { source := .wired wirings }
    let started := (wired.start config).state
    let samples := PolledPins.samplesFor config.timing.debounce
    (∀ index pin, started.source.pins[index]? = some pin → pin.registered = true →
      let debounced := fun rounds => PolledPins.stableAt (PolledPins.observeAll started rounds) index
      Debounces samples (fun round => pin.levelBy? (round.readings index)) debounced ∧
        (∀ rounds others, rounds.map (·.readings index) = others.map (·.readings index) →
          debounced rounds = debounced others) ∧
        ∀ rounds, (PolledPins.observeAll started rounds).recognizer.isDown pin.key = debounced rounds) ∧
      (∀ rounds (round : PolledPins.Round),
        let polled := PolledPins.observeAll started rounds
        PolledPins.AcceptsAll round.now samples polled.recognizer
          (polled.source.setReadings round.readings).pins) ∧
      ∀ calls, PolledPins.OnlyReads calls → ∀ pin ∈ (wired.performAll calls).value.source.pins,
        pin.streak + 1 < UInt8.size := by
  intro wired started samples
  have unpolled : PolledPins.Unpolled wired := PolledPins.unpolled_wired wirings
  have follows : PolledPins.Follows started := unpolled.follows config
  have asked : started.source.samples = samples := PolledPins.samples_start wired config
  refine ⟨fun index pin place registered => ?_, fun rounds round => ?_, fun calls reads pin member => ?_⟩
  · intro debounced
    have own : ∀ rounds, debounced rounds =
        (pin.readAll samples (rounds.map (·.readings index))).stable := fun rounds => by
      dsimp only [debounced]
      rw [PolledPins.stableAt, follows.pins_observeAll, place, asked]
      rfl
    have positive : 0 < samples := Nat.le_max_left ..
    obtain ⟨up, none⟩ := (unpolled.start config).fresh pin (List.mem_of_getElem? place)
    refine ⟨?_, fun rounds others same => ?_, fun rounds => ?_⟩
    · rw [funext own]
      exact PolledPin.debounces_readAll registered up none positive _
    · rw [own, own, same]
    · have later := follows.pins_observeAll rounds index
      rw [place, asked, Option.map_some] at later
      have agrees := (follows.observeAll rounds).agree.agrees _ (List.mem_of_getElem? later)
        (PolledPin.registered_readAll registered samples _)
      obtain ⟨_, _, _, same⟩ := pin.readAll_eq samples (rounds.map (·.readings index))
      rw [own]
      rw [same] at agrees ⊢
      exact agrees
  · have agree := (follows.observeAll rounds).agree.setReadings round.readings
    exact agree.acceptsAll round.now samples
  · have short := ((PolledPins.streaksFit_wired wirings).performAll reads).2 pin member
    exact Nat.succ_lt_succ short

/-- Three pins, of which the second has the key of the first and the third its channel. Neither is registered,
and the key of the first is down once three samples in a row say so, over a glitch and two readings that
fail. -/
theorem polled_key_ignores_glitch :
    let key : Key := ⟨0, .io⟩
    let wirings : List PolledPins.PinWiring :=
      [⟨0, 12, false, .low⟩, ⟨0, 13, true, .low⟩, ⟨1, 12, true, .high⟩]
    let config : Config :=
      { roster := ⟨[key, ⟨1, .io⟩], by decide⟩, timing := { debounce := 30 } }
    let started := ((Sensor.mk {} (.wired wirings)).start config).state
    let rounds := [Reading.high, .high, .low, .failed, .high, .failed, .high].map
      fun reading => PolledPins.Round.mk 0 fun _ => reading
    started.source.pins.map PolledPin.registered = [true, false, false] ∧
      (PolledPins.observeAll started rounds).recognizer.isDown key = false ∧
      (PolledPins.observeAll started (rounds ++ [⟨0, fun _ => .high⟩])).recognizer.isDown key = true := by
  intro key wirings config started rounds
  obtain ⟨each, _⟩ := polled_keys_follow_debounced_pins wirings config
  obtain ⟨_, _, follows⟩ := each 0 _ rfl rfl
  exact ⟨by decide, (follows rounds).trans (by decide), (follows _).trans (by decide)⟩

end KeyGesture
