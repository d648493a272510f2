import KeyGesture.Proofs.Sensor.HeldTicks
import KeyGesture.Proofs.Sensor.TickerUpkeep

namespace KeyGesture

/-! No pad stays down for good, whatever the controller misses. As long as no release comes in, every tick is
counted until all keys are up; and after a shutdown no key goes down again but one that is found held at
start, so the ticker stops as well. -/

namespace TouchPads

open Sensor

variable {sensor : Sensor TouchPads} {now : UInt32}

theorem operate_up_or_counted (service : InService sensor) (now : UInt32) {operation : Operation TouchPads}
    (single : operation.isDrain = false) (unreleased : ∀ channel, .released channel ∉ operation.messages) :
    (∀ key, (sensor.operate now operation).recognizer.isDown key = false) ∨
      (sensor.operate now operation).source.heldTicks =
        sensor.source.heldTicks + operation.messages.count .tick := by
  rcases operation.tick_or_released_or_other single with rfl | ⟨channel, rfl⟩ | ⟨unticked, _⟩
  · rcases process_tick_cases service.listed service.sound now with ⟨_, count, _⟩ | ⟨_, _, up⟩
    · exact .inr count
    · exact .inl up
  · exact absurd (List.mem_singleton_self _) (unreleased channel)
  · rw [List.count_eq_zero.mpr unticked]
    rcases keepsCount_operate service.listed service.sound now single unticked unreleased with same | ⟨_, up⟩
    · exact .inr same
    · exact .inl up

theorem serve_up_or_counted (service : InService sensor) {run : List (UInt32 × Operation TouchPads)}
    (singles : ∀ moment ∈ run, moment.2.isDrain = false)
    (unreleased : ∀ channel, .released channel ∉ messages run) :
    (∃ earlier, earlier <+: run ∧ ∀ key, (sensor.serve earlier).recognizer.isDown key = false) ∨
      (sensor.serve run).source.heldTicks = sensor.source.heldTicks + (messages run).count .tick := by
  induction run using List.reverseRecOn with
  | nil => exact .inr rfl
  | append_singleton earlier moment ih =>
      rw [messages_concat] at unreleased ⊢
      simp only [List.mem_append, not_or] at singles unreleased
      rcases ih (fun other member => singles other (.inl member)) fun channel => (unreleased channel).1 with
        ⟨first, before, up⟩ | counted
      · exact .inl ⟨first, before.trans (List.prefix_append _ _), up⟩
      · have single := singles moment (.inr (List.mem_singleton_self _))
        rw [serve_concat, List.count_append, ← Nat.add_assoc, ← counted]
        rcases operate_up_or_counted (service.serve earlier) moment.1 single
            fun channel => (unreleased channel).2 with up | count
        · refine .inl ⟨earlier ++ [moment], List.prefix_rfl, ?_⟩
          rw [serve_concat]
          exact up
        · exact .inr count

/-! After a shutdown. -/

theorem isShutDown_selfRelease (retired : sensor.source.isShutDown = true) (now : UInt32) :
    (selfRelease sensor now).value.source.isShutDown = true :=
  (congrArg (·.source.isShutDown) (freed_selfRelease sensor now).focus_eq).trans retired

/-- Shut down, pads only look whether all keys are up, and stop ticking once they are. -/
theorem tick_of_isShutDown (retired : sensor.source.isShutDown = true) (now : UInt32) :
    (tick sensor now).value =
      if sensor.recognizer.allUp then sensor.mapSource (·.mapIntake .rest) else sensor := by
  rw [tick, if_pos retired]
  rfl

theorem stopped_of_allUp (retired : sensor.source.isShutDown = true) (now : UInt32)
    (allUp : (sensor.process now .tick).value.recognizer.allUp = true) :
    (sensor.process now .tick).value.tickPeriod = none := by
  let checked := (selfRelease sensor now).value
  have reached : (sensor.process now .tick).value = (tick checked now).value := rfl
  rw [reached, tick_of_isShutDown (isShutDown_selfRelease retired now)] at allUp ⊢
  split at allUp
  · rename_i up
    rw [if_pos up]
    rfl
  · contradiction

/-- No key goes down, and the ticker does not start, nor stop before all keys are up. -/
structure WindsDown (before after : Sensor TouchPads) : Prop where
  period : after.tickPeriod = before.tickPeriod ∨
    after.tickPeriod = none ∧ after.recognizer.allUp = true
  keys : ∀ key, after.recognizer.isDown key = true → before.recognizer.isDown key = true

theorem WindsDown.refl (sensor : Sensor TouchPads) : WindsDown sensor sensor :=
  ⟨.inl rfl, fun _ => id⟩

theorem WindsDown.allUp {before after : Sensor TouchPads} (winds : WindsDown before after)
    (sound : before.recognizer.Sound) (soundAfter : after.recognizer.Sound)
    (allUp : before.recognizer.allUp = true) : after.recognizer.allUp = true := by
  have up := sound.allUp_iff_isDown.mp allUp
  refine soundAfter.allUp_iff_isDown.mpr fun key => Bool.eq_false_iff.mpr fun down => ?_
  exact Bool.eq_false_iff.mp (up key) (winds.keys key down)

theorem Freed.windsDown {before after : Sensor TouchPads} (freed : Freed now before after)
    (sound : before.recognizer.Sound) : WindsDown before after :=
  ⟨.inl (congrArg (·.source.ticker.period) freed.focus_eq), fun _ => freed.lifted.isDown_of_isDown sound⟩

theorem windsDown_attach (attended : sensor.atIntake.Attended) (config : Config) :
    WindsDown sensor (attach sensor config).state := by
  have added (between : Sensor TouchPads) (key other : Key) (sound : between.recognizer.Sound)
      (down : (addPad between key).recognizer.isDown other = true) :
      between.recognizer.isDown other = true := by
    rw [addPad] at down
    split at down
    · exact down
    · split at down
      · exact down
      · split at down
        · exact down
        · rename_i registered accepted
          obtain ⟨_, _, done, rfl⟩ := register?_eq_some_iff.mp accepted
          exact (sound.isDown_of_register done other).symm.trans down
  have bound := List.foldlRecOn
    (motive := fun between : Sensor TouchPads => between.atIntake.Attended ∧
      ∀ key, between.recognizer.isDown key = true → sensor.recognizer.isDown key = true)
    (config.roster.withSource .touch) addPad ⟨attended, fun _ => id⟩
    fun between kept key _ => ⟨kept.1.steps (steps_addPad between key),
      fun other down => kept.2 other (added between key other kept.1.sound down)⟩
  refine ⟨.inl (source_attach sensor (·.ticker.period) (fun _ _ _ _ _ _ => rfl) config), ?_⟩
  unfold attach
  dsimp only
  split
  · exact bound.2
  · exact bound.2

theorem windsDown_tick (retired : sensor.source.isShutDown = true) (sound : sensor.recognizer.Sound)
    (now : UInt32) : WindsDown sensor (sensor.process now .tick).value := by
  let checked := (selfRelease sensor now).value
  have freed : WindsDown sensor checked := (freed_selfRelease sensor now).windsDown sound
  change WindsDown sensor (tick checked now).value
  rw [tick_of_isShutDown (isShutDown_selfRelease retired now)]
  split
  · rename_i allUp
    exact ⟨.inr ⟨rfl, allUp⟩, freed.keys⟩
  · exact freed

theorem windsDown_setEnabled (sound : sensor.recognizer.Sound) (now : UInt32) (enable : Bool) :
    WindsDown sensor (setEnabled sensor now enable).value.state := by
  obtain ⟨_, _, freed⟩ := freed_setEnabled sensor now enable
  have windsDown := freed.windsDown sound
  exact ⟨windsDown.period, windsDown.keys⟩

theorem windsDown_operate (retired : sensor.source.isShutDown = true) (service : InService sensor)
    (now : UInt32) {operation : Operation TouchPads} (single : operation.isDrain = false)
    (unheld : ∀ channel, .heldAtStart channel ∉ operation.messages) :
    WindsDown sensor (sensor.operate now operation) := by
  have sound := service.sound
  cases operation with
  | start config =>
      let timed : Sensor TouchPads :=
        { sensor with recognizer := sensor.recognizer.setTiming config.timing }
      have attended : timed.atIntake.Attended := service.attended.step (.timed config.timing)
      have windsDown := windsDown_attach attended config
      exact ⟨windsDown.period, windsDown.keys⟩
  | process message =>
      cases message with
      | heldAtStart channel => exact absurd (List.mem_singleton_self _) (unheld channel)
      | pressed channel =>
          have turnedAway : sensor.process now (.pressed channel) = .quiet sensor := if_pos (.inl retired)
          rw [operate, turnedAway]
          exact .refl sensor
      | released channel => exact (freed_release sensor now channel).windsDown sound
      | tick => exact windsDown_tick retired sound now
      | setEnabled enable => exact windsDown_setEnabled sound now enable
  | drain mailbox => contradiction
  | setEnabled enable => exact windsDown_setEnabled sound now enable
  | shutDown wakes => cases wakes <;> exact ⟨.inl rfl, fun _ => id⟩
  | work work =>
      cases work with
      | refit board controller => exact ⟨.inl rfl, fun _ => id⟩
      | adjustThresholds rise => exact (freed_adjustThresholds sensor now rise).windsDown sound
      | adjustTriggers wanted => exact (freed_adjustTriggers sensor now wanted).windsDown sound

theorem isShutDown_serve_of_isShutDown (retired : sensor.source.isShutDown = true)
    (run : List (UInt32 × Operation TouchPads)) : (sensor.serve run).source.isShutDown = true :=
  (sensor.isShutDown_serve_eq run).trans (Bool.or_eq_true_iff.mpr (.inl retired))

theorem stopped_serve (retired : sensor.source.isShutDown = true) (service : InService sensor)
    (stopped : sensor.tickPeriod = none) {run : List (UInt32 × Operation TouchPads)}
    (singles : ∀ moment ∈ run, moment.2.isDrain = false)
    (unheld : ∀ channel, .heldAtStart channel ∉ messages run) : (sensor.serve run).tickPeriod = none := by
  induction run using List.reverseRecOn with
  | nil => exact stopped
  | append_singleton earlier moment ih =>
      simp only [messages_concat, List.mem_append, not_or] at singles unheld
      have stoppedStill := ih (fun other member => singles other (.inl member))
        fun channel => (unheld channel).1
      have winds := windsDown_operate (isShutDown_serve_of_isShutDown retired earlier)
        (service.serve earlier) moment.1 (singles moment (.inr (List.mem_singleton_self _)))
        fun channel => (unheld channel).2
      rw [serve_concat]
      exact winds.period.elim (fun same => same.trans stoppedStill) And.left

/-- The ticker runs as long as a key is down, also after a shutdown. -/
def Watched (sensor : Sensor TouchPads) : Prop :=
  sensor.tickPeriod = none → sensor.recognizer.allUp = true

theorem WindsDown.watched {before after : Sensor TouchPads} (winds : WindsDown before after)
    (watched : Watched before) (sound : before.recognizer.Sound) (soundAfter : after.recognizer.Sound) :
    Watched after := by
  intro stopped
  rcases winds.period with same | ⟨_, allUp⟩
  · exact winds.allUp sound soundAfter (watched (same.symm.trans stopped))
  · exact allUp

theorem Watched.operate (watched : Watched sensor) (service : InService sensor) (now : UInt32)
    {operation : Operation TouchPads} (single : operation.isDrain = false) :
    Watched (sensor.operate now operation) := by
  have serviceNext := service.operate now single
  cases retired : (sensor.operate now operation).atIntake.source.isShutDown with
  | false =>
      -- In use, pads whose ticker is stopped are at rest.
      intro stopped
      exact (serviceNext.attended.atRest_of_stopped retired stopped).allUp serviceNext.sound
  | true =>
      rw [isShutDown_operate, Bool.or_eq_true_iff] at retired
      rcases retired with already | ending
      · by_cases held : ∃ channel, .heldAtStart channel ∈ operation.messages
        · obtain ⟨channel, member⟩ := held
          obtain rfl := Operation.eq_process_of_mem_messages single member
          intro stopped
          have running := Ticker.period_ensure sensor.source.ticker checkPeriod
          exact absurd (running.symm.trans stopped) (Option.some_ne_none _)
        · exact (windsDown_operate already service now single (not_exists.mp held)).watched watched
            service.sound serviceNext.sound
      · cases operation with
        | shutDown wakes => cases wakes <;> exact watched
        | start | process | drain | setEnabled | work => contradiction

/-- After `ticks` ticks all keys are up, and ticking has stopped if there were ticks enough; or every tick so
far has been counted, from `start` on. -/
def StoppedOrCounting (start ticks : Nat) (sensor : Sensor TouchPads) : Prop :=
  (sensor.recognizer.allUp = true ∧ (sensor.tickPeriod = none ∨ ticks ≤ maxHeldTicks)) ∨
    sensor.source.heldTicks = start + ticks

theorem StoppedOrCounting.stopped_or_few {start ticks : Nat} (before : StoppedOrCounting start ticks sensor)
    (service : InService sensor) : sensor.tickPeriod = none ∨ ticks ≤ maxHeldTicks := by
  rcases before with ⟨_, calm⟩ | counted
  · exact calm
  · have bounded := service.bounded
    omega

theorem StoppedOrCounting.operate {start ticks : Nat} (before : StoppedOrCounting start ticks sensor)
    (retired : sensor.source.isShutDown = true) (service : InService sensor) (now : UInt32)
    {operation : Operation TouchPads} (single : operation.isDrain = false)
    (unreleased : ∀ channel, .released channel ∉ operation.messages)
    (unheld : ∀ channel, .heldAtStart channel ∉ operation.messages) :
    StoppedOrCounting start (ticks + operation.messages.count .tick) (sensor.operate now operation) := by
  have winds := windsDown_operate retired service now single unheld
  have serviceNext := service.operate now single
  have next : (sensor.operate now operation).recognizer.allUp = true ∨
      (sensor.operate now operation).source.heldTicks = start + (ticks + operation.messages.count .tick) := by
    rcases before with ⟨allUp, _⟩ | counted
    · exact .inl (winds.allUp service.sound serviceNext.sound allUp)
    · rw [← Nat.add_assoc, ← counted, serviceNext.sound.allUp_iff_isDown]
      exact operate_up_or_counted service now single unreleased
  refine next.imp_left fun allUp => ⟨allUp, ?_⟩
  rcases operation.tick_or_released_or_other single with rfl | ⟨channel, rfl⟩ | ⟨unticked, _⟩
  · exact .inl (stopped_of_allUp retired now allUp)
  · exact absurd (List.mem_singleton_self _) (unreleased channel)
  · rw [List.count_eq_zero.mpr unticked, Nat.add_zero]
    rcases before.stopped_or_few service with stopped | few
    · exact .inl (winds.period.elim (fun same => same.trans stopped) And.left)
    · exact .inr few

theorem StoppedOrCounting.serve (retired : sensor.source.isShutDown = true) (service : InService sensor)
    {run : List (UInt32 × Operation TouchPads)} (singles : ∀ moment ∈ run, moment.2.isDrain = false)
    (unreleased : ∀ channel, .released channel ∉ messages run)
    (unheld : ∀ channel, .heldAtStart channel ∉ messages run) :
    StoppedOrCounting sensor.source.heldTicks ((messages run).count .tick) (sensor.serve run) := by
  induction run using List.reverseRecOn with
  | nil => exact .inr rfl
  | append_singleton earlier moment ih =>
      rw [messages_concat] at unreleased unheld ⊢
      simp only [List.mem_append, not_or] at singles unreleased unheld
      rw [serve_concat, List.count_append]
      have before := ih (fun other member => singles other (.inl member))
        (fun channel => (unreleased channel).1) fun channel => (unheld channel).1
      exact before.operate (isShutDown_serve_of_isShutDown retired earlier) (service.serve earlier) moment.1
        (singles moment (.inr (List.mem_singleton_self _))) (fun channel => (unreleased channel).2)
        fun channel => (unheld channel).2

end TouchPads

/-- Touch pads in whatever state their sensor was brought to, with whatever faults their controller has. The
count of ticks never exceeds its limit. If more ticks than that are to come and no release, there is a moment
at which all keys are up. Once the sensor is shut down, each tick that ends with all keys up leaves the ticker
stopped, and only a key that is found held at start sets it going again; so that, if none is, after as many
ticks all keys are up and the ticker is stopped. -/
theorem stuck_pads_come_up (board : Board) (controller : Peripheral PadCommand) (wokeBy : Option WakeSource)
    (history continuation : List (UInt32 × Operation TouchPads)) :
    let reached := (Sensor.mk {} (TouchPads.fresh board controller wokeBy)).serve history
    let posted := messages continuation
    reached.source.heldTicks ≤ TouchPads.maxHeldTicks ∧
      (TouchPads.maxHeldTicks < posted.count .tick → (∀ channel, .released channel ∉ posted) →
        ∃ earlier, earlier <+: unroll continuation ∧
          ∀ key, (reached.serve earlier).recognizer.isDown key = false) ∧
      ((∃ moment ∈ history, moment.2.isShutDown = true) →
        (∀ now, let ticked := (reached.process now .tick).value
          ticked.recognizer.allUp = true → ticked.tickPeriod = none) ∧
        (∀ now operation, reached.tickPeriod = none → (reached.operate now operation).tickPeriod ≠ none →
          ∃ channel, .heldAtStart channel ∈ operation.messages) ∧
        (TouchPads.maxHeldTicks < posted.count .tick → (∀ channel, .released channel ∉ posted) →
          (∀ channel, .heldAtStart channel ∉ posted) →
            (reached.serve continuation).recognizer.allUp = true ∧
              (reached.serve continuation).tickPeriod = none)) := by
  intro reached posted
  have service : TouchPads.InService reached :=
    (TouchPads.InService.fresh board controller wokeBy).serve history
  have singles : ∀ moment ∈ unroll continuation, moment.2.isDrain = false := fun _ => isDrain_unroll
  have same : messages (unroll continuation) = posted := messages_unroll continuation
  refine ⟨service.bounded, fun many unreleased => ?_, fun ended => ?_⟩
  · rw [← same] at many unreleased
    rcases TouchPads.serve_up_or_counted service singles unreleased with up | counted
    · exact up
    · have bounded := (service.serve (unroll continuation)).bounded
      omega
  · have retired : reached.source.isShutDown = true :=
      (Sensor.isShutDown_serve_eq _ history).trans
        (Bool.or_eq_true_iff.mpr (.inr (List.any_eq_true.mpr ended)))
    refine ⟨TouchPads.stopped_of_allUp retired, fun now operation stopped running => ?_, ?_⟩
    · by_contra unheld
      have unheldParts : ∀ channel, .heldAtStart channel ∉ messages (unroll [(now, operation)]) := by
        intro channel held
        rw [messages_unroll] at held
        exact unheld ⟨channel, by simpa [messages] using held⟩
      have stays := TouchPads.stopped_serve retired service stopped (fun _ => isDrain_unroll) unheldParts
      rw [reached.serve_unroll] at stays
      exact running stays
    · intro many unreleased unheld
      rw [← same] at many unreleased unheld
      rw [← reached.serve_unroll]
      rcases TouchPads.StoppedOrCounting.serve retired service singles unreleased unheld with
        ⟨allUp, stopped | few⟩ | counted
      · exact ⟨allUp, stopped⟩
      · omega
      · have bounded := (service.serve (unroll continuation)).bounded
        omega

/-- Every command to the controller fails, and no release of the pad comes in: it is up after 121 ticks, and
if the sensor is shut down meanwhile the ticker stops. -/
theorem stuck_pad_comes_up_despite_faults :
    let key : Key := ⟨1, .touch⟩
    let pads := TouchPads.fresh { wiring := [(key, 4)] } (.failing (fun _ => true) .pad) none
    let pressing : List (UInt32 × Operation TouchPads) :=
      [(0, .start { roster := ⟨[key], by decide⟩ }), (10, .process (.pressed 4))]
    let ending : List (UInt32 × Operation TouchPads) := pressing ++ [(60, .shutDown true)]
    let ticks : List (UInt32 × Operation TouchPads) := List.replicate 121 (110, .process .tick)
    let down := (Sensor.mk {} pads).serve pressing
    let shut := (Sensor.mk {} pads).serve ending
    (down.recognizer.isDown key = true ∧ ∃ earlier, earlier <+: unroll ticks ∧
        (down.serve earlier).recognizer.isDown key = false) ∧
      shut.recognizer.isDown key = true ∧ shut.tickPeriod = some checkPeriod ∧
        (shut.serve ticks).recognizer.allUp = true ∧ (shut.serve ticks).tickPeriod = none := by
  intro key pads pressing ending ticks down shut
  have posted : messages ticks = List.replicate 121 .tick := by
    simp [ticks, messages, Operation.messages]
  have many : TouchPads.maxHeldTicks < (messages ticks).count .tick := by
    rw [posted, List.count_replicate_self]
    decide
  have others : ∀ message ∈ messages ticks, message = .tick := by
    rw [posted]
    exact fun message => List.eq_of_mem_replicate
  have unreleased : ∀ channel, .released channel ∉ messages ticks := fun channel member =>
    Message.noConfusion (others _ member)
  have unheld : ∀ channel, .heldAtStart channel ∉ messages ticks := fun channel member =>
    Message.noConfusion (others _ member)
  have stuck := stuck_pads_come_up { wiring := [(key, 4)] } (.failing (fun _ => true) .pad) none
  obtain ⟨_, comesUp, _⟩ := stuck pressing ticks
  obtain ⟨_, _, afterwards⟩ := stuck ending ticks
  have ended : ∃ moment ∈ ending, moment.2.isShutDown = true := ⟨(60, .shutDown true), by simp [ending], rfl⟩
  have isDown : down.recognizer.isDown key = true := by decide
  have running : shut.recognizer.isDown key = true ∧ shut.tickPeriod = some checkPeriod := by decide
  obtain ⟨earlier, before, up⟩ := comesUp many unreleased
  obtain ⟨_, _, stops⟩ := afterwards ended
  exact ⟨⟨isDown, earlier, before, up key⟩, running.1, running.2, stops many unreleased unheld⟩

end KeyGesture
