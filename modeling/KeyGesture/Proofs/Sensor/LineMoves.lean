import KeyGesture.EdgeSource.DebouncedLines
import KeyGesture.EdgeSource.GatedLine
import KeyGesture.Proofs.Sensor.Moves

namespace KeyGesture

/-! Lines behind a debounce controller do nothing but steps. What is done to them from outside is that their
board is changed: wired differently, or with other faults. -/

open Sensor

namespace DebouncedLines

theorem toIntake_note (lines : DebouncedLines) (channel : Nat) :
    (lines.note channel).toIntake = lines.toIntake := by
  rw [note]
  split <;> rfl

theorem steps_attachKey (sensor : Sensor DebouncedLines) (debounce : Nat) (key : Key) :
    (sensor.focus toIntake).Steps ((attachKey debounce sensor key).state.focus toIntake) := by
  rw [attachKey]
  split
  · exact .refl
  · split
    · exact .refl
    · rename_i channel _ _ registered accepted
      let noted := (registered.source.issue (.enable channel .io debounce)).andThen
        fun lines : DebouncedLines => .done (lines.note channel)
      have same : noted.state.toIntake = registered.source.toIntake :=
        Attempt.andThen_keeps (fun lines : DebouncedLines => lines.toIntake = registered.source.toIntake)
          rfl fun lines kept => (lines.toIntake_note channel).trans kept
      change Steps _ ⟨registered.recognizer, noted.state.toIntake⟩
      rw [same]
      exact steps_of_register? accepted

theorem steps_attach (sensor : Sensor DebouncedLines) (config : Config) :
    (sensor.focus toIntake).Steps ((attach sensor config).state.focus toIntake) := by
  refine Attempt.forEach_keeps
    (fun state : Sensor DebouncedLines => (sensor.focus toIntake).Steps (state.focus toIntake)) ?_ .refl _
  exact fun state key path => path.trans (steps_attachKey state config.timing.debounce key)

theorem focus_tick (sensor : Sensor DebouncedLines) (now : UInt32) :
    (sensor.tick now (·.mapIntake .rest)).value.focus toIntake =
      ((sensor.focus toIntake).tick now .rest).value :=
  Sensor.focus_tick sensor now rfl

theorem moves_handle (sensor : Sensor DebouncedLines) (now : UInt32) (message : Message) :
    (sensor.focus toIntake).Moves ((handle sensor now message).value.focus toIntake) := by
  cases message with
  | heldAtStart channel => exact .single (.heldAtStart now channel)
  | pressed channel =>
      rw [handle]
      split
      · exact .refl
      · rename_i inUse
        exact .single (.pressed now channel (Bool.eq_false_iff.mpr inUse))
  | released channel => exact .single (.lifted (.release _ now channel))
  | tick =>
      rw [handle]
      split
      · exact .refl
      · rename_i inUse
        rw [focus_tick]
        exact .single (.ticked now (Bool.eq_false_iff.mpr inUse))
  | setEnabled enable => exact .refl

instance : SelfReporting DebouncedLines where
  intake := toIntake
  Work := Board
  carryOut sensor _ board := sensor.mapSource fun lines => { lines with board }
  tickPeriod_eq _ := rfl
  attach := steps_attach
  handle := moves_handle
  setEnabled _ _ _ := .refl
  carriesOut _ _ _ := .refl
  detach lines wakes := by cases wakes <;> rfl
  heldAtStart _ _ _ := rfl
  tick sensor now inUse := by
    refine ⟨_, .refl now _, ?_⟩
    have ticks : EdgeSource.handle sensor now .tick = sensor.tick now (·.mapIntake .rest) :=
      if_neg (Bool.eq_false_iff.mp inUse)
    rw [ticks, focus_tick]
    rfl

end DebouncedLines

namespace GatedLine

theorem steps_attach (sensor : Sensor GatedLine) (config : Config) :
    (sensor.focus toIntake).Steps ((attach sensor config).state.focus toIntake) := by
  rw [attach]
  split
  · exact .refl
  · split
    · exact .refl
    · split
      · exact .refl
      · rename_i channel _ _ registered accepted
        let attached := (registered.source.issue (.enable channel .external config.timing.debounce)).andThen
          fun line : GatedLine => .done { line with channel? := some channel }
        have same : attached.state.toIntake = registered.source.toIntake :=
          Attempt.andThen_keeps (fun line : GatedLine => line.toIntake = registered.source.toIntake) rfl
            fun _ kept => kept
        change Steps _ ⟨registered.recognizer, attached.state.toIntake⟩
        rw [same]
        exact steps_of_register? accepted

theorem focus_tick (sensor : Sensor GatedLine) (now : UInt32) :
    (sensor.tick now (·.mapIntake .rest)).value.focus toIntake =
      ((sensor.focus toIntake).tick now .rest).value :=
  Sensor.focus_tick sensor now rfl

theorem moves_handle (sensor : Sensor GatedLine) (now : UInt32) (message : Message) :
    (sensor.focus toIntake).Moves ((handle sensor now message).value.focus toIntake) := by
  cases message with
  | heldAtStart channel => exact .single (.heldAtStart now channel)
  | pressed channel =>
      rw [handle]
      split
      · exact .refl
      · rename_i gate
        exact .single (.pressed now channel (Bool.eq_false_iff.mpr fun retired => gate (.inl retired)))
  | released channel =>
      rw [handle]
      split
      · exact .single (.lifted (.release _ now channel))
      · exact .refl
  | tick =>
      rw [handle]
      split
      · exact .refl
      · rename_i inUse
        rw [focus_tick]
        exact .single (.ticked now (Bool.eq_false_iff.mpr inUse))
  | setEnabled enable => exact .refl

theorem lifted_setEnabled (sensor : Sensor GatedLine) (now : UInt32) (enable : Bool) :
    sensor.recognizer.LiftedAt now (setEnabled sensor now enable).value.state.recognizer := by
  unfold setEnabled
  split
  · exact .release _ now _
  · exact .refl now _

theorem source_setEnabled (sensor : Sensor GatedLine) (now : UInt32) (enable : Bool) :
    (setEnabled sensor now enable).value.state.source = { sensor.source with isEnabled := enable } := by
  unfold setEnabled
  split <;> rfl

theorem moves_setEnabled (sensor : Sensor GatedLine) (now : UInt32) (enable : Bool) :
    (sensor.focus toIntake).Moves ((setEnabled sensor now enable).value.state.focus toIntake) := by
  simp only [focus, source_setEnabled]
  exact .single (.lifted (lifted_setEnabled sensor now enable))

instance : SelfReporting GatedLine where
  intake := toIntake
  Work := Board
  carryOut sensor _ board := sensor.mapSource fun line => { line with board }
  tickPeriod_eq _ := rfl
  attach := steps_attach
  handle := moves_handle
  setEnabled := moves_setEnabled
  carriesOut _ _ _ := .refl
  detach line wakes := by
    change (detach line wakes).isShutDown = true
    unfold detach
    split <;> rfl
  heldAtStart _ _ _ := rfl
  tick sensor now inUse := by
    refine ⟨_, .refl now _, ?_⟩
    have ticks : EdgeSource.handle sensor now .tick = sensor.tick now (·.mapIntake .rest) :=
      if_neg (Bool.eq_false_iff.mp inUse)
    rw [ticks, focus_tick]
    rfl

end GatedLine

end KeyGesture
