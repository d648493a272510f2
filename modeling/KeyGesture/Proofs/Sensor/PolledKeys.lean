import KeyGesture.Proofs.Sensor.Moves
import KeyGesture.Proofs.Sensor.PinSamples

namespace KeyGesture

/-! Polled pins and the recognizer they feed agree after every round of samples on which keys are down, so no
edge is refused. -/

namespace PolledPins

variable {recognizer : Recognizer} {before after pin : PolledPin} {pins : List PolledPin} {now : UInt32}
  {samples : Nat} {key : Key}

/-! One edge. -/

/-- The recognizer takes the edge, if there is one. -/
def Accepts (recognizer : Recognizer) (now : UInt32) (before after : PolledPin) : Prop :=
  after.stable ≠ before.stable →
    if after.stable then ∃ outcome, recognizer.press? now after.channel 0 = .ok outcome
    else ∃ outcome, recognizer.release? now after.channel = .ok outcome

theorem edge_of_same (same : after.stable = before.stable) :
    edge recognizer now before after = .quiet recognizer :=
  if_pos same

theorem sound_edge (sound : recognizer.Sound) (now : UInt32) (before after : PolledPin) :
    (edge recognizer now before after).value.Sound := by
  unfold edge
  split
  · exact sound
  · split
    · exact sound.press now after.channel 0
    · exact sound.release now after.channel

theorem bindings_edge (recognizer : Recognizer) (now : UInt32) (before after : PolledPin) :
    (edge recognizer now before after).value.bindings = recognizer.bindings := by
  unfold edge
  split
  · rfl
  · split
    · exact recognizer.bindings_press now after.channel 0
    · exact recognizer.bindings_release now after.channel

/-- An edge moves the key of its pin, which was where the pin was before it, and no other. -/
theorem isDown_edge (sound : recognizer.Sound) (bound : (after.key, after.channel) ∈ recognizer.bindings)
    (agrees : recognizer.isDown after.key = before.stable) :
    (edge recognizer now before after).value.isDown key =
      if key = after.key then after.stable else recognizer.isDown key := by
  have wired : recognizer.channelOf? key = some after.channel ↔ key = after.key :=
    sound.channelOf?_eq_some_iff_of_bound bound
  by_cases same : after.stable = before.stable
  · rw [edge_of_same same]
    by_cases own : key = after.key
    · rw [if_pos own, own, same]
      exact agrees
    · rw [if_neg own]
      rfl
  · rw [edge, if_neg same]
    cases level : after.stable with
    | true =>
        have pressed : (recognizer.press now after.channel 0).value.isDown key = true ↔
            recognizer.isDown key = true ∨ recognizer.channelOf? key = some after.channel :=
          sound.isDown_press now after.channel 0
        rw [wired] at pressed
        rw [Bool.eq_iff_iff, if_pos rfl, pressed]
        split <;> simp_all
    | false =>
        have released : (recognizer.release now after.channel).value.isDown key = true ↔
            recognizer.isDown key = true ∧ recognizer.channelOf? key ≠ some after.channel :=
          sound.isDown_release now after.channel
        rw [ne_eq, wired] at released
        rw [Bool.eq_iff_iff, if_neg Bool.false_ne_true, released]
        split <;> simp_all

theorem accepts_edge (sound : recognizer.Sound) (bound : (after.key, after.channel) ∈ recognizer.bindings)
    (agrees : recognizer.isDown after.key = before.stable) : Accepts recognizer now before after := by
  intro changed
  have opposite : recognizer.isDown after.key = !after.stable :=
    agrees.trans (Bool.eq_not_of_ne (Ne.symm changed))
  split
  · rename_i down
    exact sound.press?_ok bound (by rw [opposite, down]; rfl) now 0
  · rename_i up
    exact sound.release?_ok bound (by rw [opposite, eq_false_of_ne_true up]; rfl) now

/-! One round of samples. -/

/-- The recognizer takes every edge of a round, each as it comes to be its turn. -/
def AcceptsAll (now : UInt32) (samples : Nat) : Recognizer → List PolledPin → Prop
  | _, [] => True
  | recognizer, pin :: rest =>
      Accepts recognizer now pin (pin.sample samples) ∧
        AcceptsAll now samples (edge recognizer now pin (pin.sample samples)).value rest

theorem pins_pollPins (now : UInt32) (samples : Nat) (recognizer : Recognizer) (pins : List PolledPin) :
    (pollPins now samples recognizer pins).value.2 = pins.map (·.sample samples) := by
  induction pins generalizing recognizer with
  | nil => rfl
  | cons pin rest ih => exact congrArg (pin.sample samples :: ·) (ih _)

theorem pollPins_cons (now : UInt32) (samples : Nat) (recognizer : Recognizer) (pin : PolledPin)
    (rest : List PolledPin) : (pollPins now samples recognizer (pin :: rest)).value.1 =
      (pollPins now samples (edge recognizer now pin (pin.sample samples)).value rest).value.1 := rfl

theorem sound_pollPins (sound : recognizer.Sound) (now : UInt32) (samples : Nat) (pins : List PolledPin) :
    (pollPins now samples recognizer pins).value.1.Sound := by
  induction pins generalizing recognizer with
  | nil => exact sound
  | cons pin rest ih => exact ih (sound_edge sound now pin _)

theorem bindings_pollPins (now : UInt32) (samples : Nat) (recognizer : Recognizer) (pins : List PolledPin) :
    (pollPins now samples recognizer pins).value.1.bindings = recognizer.bindings := by
  induction pins generalizing recognizer with
  | nil => rfl
  | cons pin rest ih => rw [pollPins_cons, ih, bindings_edge]

/-- Each registered pin is the first one of its key, and the recognizer has the key on its channel, down or up
as the pin is. -/
structure Agree (recognizer : Recognizer) (pins : List PolledPin) : Prop where
  sound : recognizer.Sound
  firsts : pins.Pairwise fun earlier later => later.registered = true → earlier.key ≠ later.key
  bound : ∀ pin ∈ pins, pin.registered = true → (pin.key, pin.channel) ∈ recognizer.bindings
  agrees : ∀ pin ∈ pins, pin.registered = true → recognizer.isDown pin.key = pin.stable

namespace Agree

theorem isDown_edge (agree : Agree recognizer (pin :: pins)) (now : UInt32) (samples : Nat) :
    (edge recognizer now pin (pin.sample samples)).value.isDown key =
      if pin.registered = true ∧ key = pin.key then (pin.sample samples).stable
      else recognizer.isDown key := by
  by_cases registered : pin.registered = true
  · have bound := agree.bound pin List.mem_cons_self registered
    have level := agree.agrees pin List.mem_cons_self registered
    obtain ⟨streak, stable, sampled⟩ := pin.sample_eq samples
    simp only [registered, true_and]
    rw [sampled]
    exact PolledPins.isDown_edge agree.sound bound level
  · rw [PolledPin.sample_of_not_registered registered, edge_of_same rfl, if_neg fun own => registered own.1]
    rfl

theorem accepts (agree : Agree recognizer (pin :: pins)) (now : UInt32) (samples : Nat) :
    Accepts recognizer now pin (pin.sample samples) := by
  by_cases registered : pin.registered = true
  · have bound := agree.bound pin List.mem_cons_self registered
    have level := agree.agrees pin List.mem_cons_self registered
    obtain ⟨streak, stable, sampled⟩ := pin.sample_eq samples
    rw [sampled]
    exact accepts_edge agree.sound bound level
  · rw [PolledPin.sample_of_not_registered registered]
    exact fun changed => absurd rfl changed

/-- After the edge of a pin the recognizer still agrees with the pins that are sampled next. -/
theorem rest (agree : Agree recognizer (pin :: pins)) (now : UInt32) (samples : Nat) :
    Agree (edge recognizer now pin (pin.sample samples)).value pins where
  sound := sound_edge agree.sound now pin _
  firsts := agree.firsts.of_cons
  bound later member registered := by
    rw [bindings_edge]
    exact agree.bound later (List.mem_cons_of_mem _ member) registered
  agrees later member registered := by
    have other : pin.key ≠ later.key := List.rel_of_pairwise_cons agree.firsts member registered
    rw [agree.isDown_edge, if_neg fun own => other own.2.symm]
    exact agree.agrees later (List.mem_cons_of_mem _ member) registered

theorem acceptsAll (agree : Agree recognizer pins) (now : UInt32) (samples : Nat) :
    AcceptsAll now samples recognizer pins := by
  induction pins generalizing recognizer with
  | nil => trivial
  | cons pin rest ih => exact ⟨agree.accepts now samples, ih (agree.rest now samples)⟩

theorem isDown_pollPins_of_other (agree : Agree recognizer pins)
    (other : ∀ pin ∈ pins, pin.registered = true → pin.key ≠ key) (now : UInt32) (samples : Nat) :
    (pollPins now samples recognizer pins).value.1.isDown key = recognizer.isDown key := by
  induction pins generalizing recognizer with
  | nil => rfl
  | cons pin rest ih =>
      obtain ⟨otherPin, otherRest⟩ := List.forall_mem_cons.mp other
      rw [pollPins_cons, ih (agree.rest now samples) otherRest, agree.isDown_edge,
        if_neg fun own => otherPin own.1 own.2.symm]

theorem isDown_pollPins (agree : Agree recognizer pins) (now : UInt32) (samples : Nat) :
    ∀ pin ∈ pins, pin.registered = true →
      (pollPins now samples recognizer pins).value.1.isDown pin.key = (pin.sample samples).stable := by
  induction pins generalizing recognizer with
  | nil => exact List.forall_mem_nil _
  | cons pin rest ih =>
      refine List.forall_mem_cons.mpr ⟨fun registered => ?_, ih (agree.rest now samples)⟩
      have later : ∀ other ∈ rest, other.registered = true → other.key ≠ pin.key :=
        fun other member listed => (List.rel_of_pairwise_cons agree.firsts member listed).symm
      rw [pollPins_cons, (agree.rest now samples).isDown_pollPins_of_other later, agree.isDown_edge,
        if_pos ⟨registered, rfl⟩]

theorem polled (agree : Agree recognizer pins) (now : UInt32) (samples : Nat) :
    Agree (pollPins now samples recognizer pins).value.1 (pins.map (·.sample samples)) where
  sound := sound_pollPins agree.sound now samples pins
  firsts := by
    refine List.pairwise_map.mpr (agree.firsts.imp fun {earlier later} distinct => ?_)
    obtain ⟨_, _, first⟩ := earlier.sample_eq samples
    obtain ⟨_, _, second⟩ := later.sample_eq samples
    rwa [first, second]
  bound := by
    refine List.forall_mem_map.mpr fun pin member => ?_
    obtain ⟨_, _, sampled⟩ := pin.sample_eq samples
    rw [bindings_pollPins, sampled]
    exact agree.bound pin member
  agrees := by
    refine List.forall_mem_map.mpr fun pin member => ?_
    have level := agree.isDown_pollPins now samples pin member
    obtain ⟨_, _, sampled⟩ := pin.sample_eq samples
    rw [sampled] at level ⊢
    exact level

theorem tick (agree : Agree recognizer pins) (now : UInt32) :
    Agree (recognizer.tick now).value.2 pins where
  sound := agree.sound.tick now
  firsts := agree.firsts
  bound pin member registered := by
    rw [Recognizer.bindings_tick]
    exact agree.bound pin member registered
  agrees pin member registered := by
    rw [← agree.agrees pin member registered, Bool.eq_iff_iff]
    exact agree.sound.isDown_tick now

end Agree

/-! One round after the other. -/

/-- What the pins read in one round of samples, and when. -/
structure Round where
  now : UInt32
  readings : Nat → Reading

def setReadings (polled : PolledPins) (readings : Nat → Reading) : PolledPins :=
  { polled with pins := polled.pins.mapIdx fun index pin => { pin with reading := readings index } }

theorem Agree.setReadings {polled : PolledPins} (agree : Agree recognizer polled.pins)
    (readings : Nat → Reading) : Agree recognizer (polled.setReadings readings).pins where
  sound := agree.sound
  firsts := by
    have numbered := agree.firsts
    rw [← List.zipIdx_map_fst 0 polled.pins, List.pairwise_map] at numbered
    rw [PolledPins.setReadings, List.mapIdx_eq_zipIdx_map]
    exact List.pairwise_map.mpr numbered
  bound := forall_mem_mapIdx fun _ pin place => agree.bound pin (List.mem_of_getElem? place)
  agrees := forall_mem_mapIdx fun _ pin place => agree.agrees pin (List.mem_of_getElem? place)

/-- The sensor after a tick that finds the pins reading as they do. -/
def observe (sensor : Sensor PolledPins) (round : Round) : Sensor PolledPins :=
  ((sensor.mapSource (·.setReadings round.readings)).process round.now .tick).value

def observeAll (sensor : Sensor PolledPins) (rounds : List Round) : Sensor PolledPins :=
  rounds.foldl observe sensor

/-- Whether a pin counts as down. -/
def stableAt (sensor : Sensor PolledPins) (index : Nat) : Bool :=
  sensor.source.pins[index]?.any PolledPin.stable

variable {sensor : Sensor PolledPins}

theorem observeAll_concat (sensor : Sensor PolledPins) (rounds : List Round) (round : Round) :
    observeAll sensor (rounds ++ [round]) = observe (observeAll sensor rounds) round :=
  List.foldl_concat _ _ _ _

/-- The tick that ends a round leaves the pins alone, whatever it finds. -/
theorem value_poll (sensor : Sensor PolledPins) (now : UInt32) :
    let polled := (pollPins now sensor.source.samples sensor.recognizer sensor.source.pins).value
    (poll sensor now).value =
      { recognizer := (polled.1.tick now).value.2, source := { sensor.source with pins := polled.2 } } := by
  intro polled
  change (({ recognizer := polled.1, source := { sensor.source with pins := polled.2 } } :
    Sensor PolledPins).tick now id).value = _
  rw [Sensor.value_tick, id, ite_self]

theorem observe_eq (polling : sensor.source.isPolling = true) (round : Round) :
    observe sensor round =
      (poll (sensor.mapSource (·.setReadings round.readings)) round.now).value :=
  congrArg Outcome.value (if_pos polling)

theorem source_observe (polling : sensor.source.isPolling = true) (round : Round) :
    (observe sensor round).source =
      { sensor.source with
        pins := sensor.source.pins.mapIdx fun index pin =>
          pin.read sensor.source.samples (round.readings index) } := by
  rw [observe_eq polling, value_poll, pins_pollPins]
  simp only [Sensor.mapSource, setReadings, List.mapIdx_eq_zipIdx_map, List.map_map]
  rfl

theorem Agree.observe (agree : Agree sensor.recognizer sensor.source.pins)
    (polling : sensor.source.isPolling = true) (round : Round) :
    Agree (observe sensor round).recognizer (observe sensor round).source.pins := by
  rw [observe_eq polling, value_poll, pins_pollPins]
  exact ((agree.setReadings round.readings).polled round.now sensor.source.samples).tick round.now

/-- A sensor whose pins are polled, as it agrees with them. -/
structure Follows (sensor : Sensor PolledPins) : Prop where
  polling : sensor.source.isPolling = true
  agree : Agree sensor.recognizer sensor.source.pins

theorem Follows.observe (follows : Follows sensor) (round : Round) : Follows (observe sensor round) where
  polling := by
    rw [source_observe follows.polling]
    exact follows.polling
  agree := follows.agree.observe follows.polling round

theorem Follows.observeAll (follows : Follows sensor) (rounds : List Round) :
    Follows (observeAll sensor rounds) :=
  List.foldlRecOn (motive := Follows) _ _ follows fun _ kept round _ => kept.observe round

theorem Follows.samples_observeAll (follows : Follows sensor) (rounds : List Round) :
    (PolledPins.observeAll sensor rounds).source.samples = sensor.source.samples := by
  induction rounds using List.reverseRecOn with
  | nil => rfl
  | append_singleton before last ih =>
      rw [observeAll_concat, source_observe (follows.observeAll before).polling]
      exact ih

/-- Each pin goes its own way, by its own readings. -/
theorem Follows.pins_observeAll (follows : Follows sensor) (rounds : List Round) (index : Nat) :
    (PolledPins.observeAll sensor rounds).source.pins[index]? = sensor.source.pins[index]?.map fun pin =>
      pin.readAll sensor.source.samples (rounds.map (·.readings index)) := by
  induction rounds using List.reverseRecOn with
  | nil => exact Option.map_id'.symm
  | append_singleton before last ih =>
      rw [observeAll_concat, source_observe (follows.observeAll before).polling, List.getElem?_mapIdx, ih,
        follows.samples_observeAll, Option.map_map]
      congr 1
      funext pin
      rw [List.map_append]
      exact (PolledPin.readAll_concat _ _ _ _).symm

end PolledPins

end KeyGesture
