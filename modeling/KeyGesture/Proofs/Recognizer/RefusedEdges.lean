import KeyGesture.Proofs.Recognizer.DownKeys

namespace KeyGesture.Recognizer

/-! Edges that are refused. The set of keys that are down decides which edges are, and the phases of the
slots say the same. A refused edge leaves no trace, so any number of them may be put into a run anywhere
without the other turns noticing. -/

variable {recognizer start : Recognizer} {slot : Slot} {index channel : Nat}
  {calls longer : List (UInt32 × Call)}

/-- The call is an edge that does not fit what its channel is known for: no key is bound to it, or it
presses a key that is down or releases one that is up. -/
def Misfits (recognizer : Recognizer) : Call → Prop
  | .press channel _ => recognizer.phase? channel = none ∨
      recognizer.phase? channel = some .pressed ∨ recognizer.phase? channel = some .parked
  | .release channel => recognizer.phase? channel = none ∨
      recognizer.phase? channel = some .idle ∨ recognizer.phase? channel = some .lifted
  | .register _ _ | .setTiming _ | .tick | .mute | .resume => False

instance (recognizer : Recognizer) : (call : Call) → Decidable (recognizer.Misfits call)
  | .press _ _ | .release _ => inferInstanceAs (Decidable (_ ∨ _ ∨ _))
  | .register _ _ | .setTiming _ | .tick | .mute | .resume => inferInstanceAs (Decidable False)

/-- The calls with misfitting edges put between them, each when its turn comes. -/
inductive Padded : Recognizer → List (UInt32 × Call) → List (UInt32 × Call) → Prop where
  | nil (recognizer : Recognizer) : Padded recognizer [] []
  | made {recognizer : Recognizer} {calls longer : List (UInt32 × Call)} (now : UInt32) (call : Call)
      (rest : Padded (recognizer.answer now call).value.2 calls longer) :
      Padded recognizer ((now, call) :: calls) ((now, call) :: longer)
  | added {recognizer : Recognizer} {calls longer : List (UInt32 × Call)} (now : UInt32) (edge : Call)
      (misfits : recognizer.Misfits edge) (rest : Padded recognizer calls longer) :
      Padded recognizer calls ((now, edge) :: longer)

theorem phase?_of_atChannel? (found : recognizer.atChannel? channel = some (slot, index)) :
    recognizer.phase? channel = some slot.phase := by
  rw [phase?, found, Option.map_some]

theorem phase?_eq_none_iff :
    recognizer.phase? channel = none ↔ recognizer.atChannel? channel = none := by
  rw [phase?, Option.map_eq_none_iff]

namespace Sound

theorem refuses_press_iff (sound : recognizer.Sound) (now : UInt32) (channel : Nat)
    (backdate : UInt32) :
    (∃ cause, recognizer.press? now channel backdate = .error cause) ↔
      recognizer.Misfits (.press channel backdate) := by
  cases found : recognizer.atChannel? channel with
  | none => simp [press?, Misfits, found, phase?_eq_none_iff.mpr found]
  | some entry =>
      obtain ⟨slot, index⟩ := entry
      have marks := sound.contains_eq (atChannel?_eq_some found).1
      simp only [press?, found, marks, Misfits, phase?_of_atChannel? found, Slot.isDown]
      cases slot.phase <;> simp

theorem refuses_release_iff (sound : recognizer.Sound) (now : UInt32) (channel : Nat) :
    (∃ cause, recognizer.release? now channel = .error cause) ↔
      recognizer.Misfits (.release channel) := by
  cases found : recognizer.atChannel? channel with
  | none => simp [release?, Misfits, found, phase?_eq_none_iff.mpr found]
  | some entry =>
      obtain ⟨slot, index⟩ := entry
      have marks := sound.contains_eq (atChannel?_eq_some found).1
      simp only [release?, found, marks, Misfits, phase?_of_atChannel? found, Slot.isDown]
      cases slot.phase <;> simp

end Sound

theorem press_of_error {now backdate : UInt32} {cause : Rejection}
    (refused : recognizer.press? now channel backdate = .error cause) :
    recognizer.press now channel backdate = .quiet recognizer := by
  rw [press, refused, ignoreRefused]

theorem release_of_error {now : UInt32} {cause : Rejection}
    (refused : recognizer.release? now channel = .error cause) :
    recognizer.release now channel = .quiet recognizer := by
  rw [release, refused, ignoreRefused]

namespace Sound

theorem answer_of_misfits (sound : recognizer.Sound) {edge : Call} (misfits : recognizer.Misfits edge)
    (now : UInt32) : recognizer.answer now edge = .quiet (.done, recognizer) := by
  cases edge with
  | press channel backdate =>
      obtain ⟨cause, refused⟩ := (sound.refuses_press_iff now channel backdate).mpr misfits
      rw [Recognizer.answer, press_of_error refused]
      rfl
  | release channel =>
      obtain ⟨cause, refused⟩ := (sound.refuses_release_iff now channel).mpr misfits
      rw [Recognizer.answer, release_of_error refused]
      rfl
  | register | setTiming | tick | mute | resume => contradiction

theorem isDown_of_atChannel? (sound : recognizer.Sound)
    (found : recognizer.atChannel? channel = some (slot, index)) :
    recognizer.isDown slot.key = recognizer.chord.down.contains index := by
  have place := (atChannel?_eq_some found).1
  rw [sound.isDown_eq place, sound.contains_eq place]

theorem channelOf?_of_atChannel? (sound : recognizer.Sound)
    (found : recognizer.atChannel? channel = some (slot, index)) (key : Key) :
    recognizer.channelOf? key = some channel ↔ key = slot.key := by
  obtain ⟨place, rfl⟩ := atChannel?_eq_some found
  rw [sound.channelOf?_eq_channel_iff (List.mem_of_getElem? place), eq_comm]

theorem flips_of_press (sound : recognizer.Sound) {now backdate : UInt32} {outcome : Outcome Recognizer}
    (accepted : recognizer.press? now channel backdate = .ok outcome) :
    ∃ key, recognizer.channelOf? key = some channel ∧ ∀ other,
      (recognizer.press now channel backdate).value.isDown other ≠ recognizer.isDown other ↔
        other = key := by
  obtain ⟨slot, index, found, unmarked, _⟩ := press?_eq_ok_iff.mp accepted
  have up : recognizer.isDown slot.key = false := (sound.isDown_of_atChannel? found).trans unmarked
  refine ⟨slot.key, (sound.channelOf?_of_atChannel? found _).mpr rfl, fun other => ?_⟩
  rw [ne_eq, Bool.eq_iff_iff, sound.isDown_press, sound.channelOf?_of_atChannel? found]
  constructor
  · intro changed
    by_contra different
    exact changed (or_iff_left different)
  · rintro rfl
    simp [up]

theorem flips_of_release (sound : recognizer.Sound) {now : UInt32} {outcome : Outcome Recognizer}
    (accepted : recognizer.release? now channel = .ok outcome) :
    ∃ key, recognizer.channelOf? key = some channel ∧ ∀ other,
      (recognizer.release now channel).value.isDown other ≠ recognizer.isDown other ↔ other = key := by
  obtain ⟨slot, index, found, marked, _⟩ := release?_eq_ok_iff.mp accepted
  have down : recognizer.isDown slot.key = true := (sound.isDown_of_atChannel? found).trans marked
  refine ⟨slot.key, (sound.channelOf?_of_atChannel? found _).mpr rfl, fun other => ?_⟩
  rw [ne_eq, Bool.eq_iff_iff, sound.isDown_release, ne_eq, sound.channelOf?_of_atChannel? found]
  constructor
  · intro changed
    by_contra different
    exact changed (and_iff_left different)
  · rintro rfl
    simp [down]

end Sound

/-- The turns of a padded run are those of the run itself, with silent ones that change nothing between
them. -/
theorem Padded.leaves_turns (padded : Padded start calls longer) (sound : start.Sound) :
    start.run longer = start.run calls ∧ (start.turns calls).Sublist (start.turns longer) ∧
      (start.turns longer).flatMap Turn.events = (start.turns calls).flatMap Turn.events := by
  induction padded with
  | nil recognizer => exact ⟨rfl, .slnil, rfl⟩
  | made now call _ ih =>
      obtain ⟨reached, kept, told⟩ := ih (sound.answer now call)
      refine ⟨reached, kept.cons_cons _, ?_⟩
      rw [turns, turns, List.flatMap_cons, List.flatMap_cons]
      exact congrArg _ told
  | @added recognizer _ _ now edge misfits _ ih =>
      obtain ⟨reached, kept, told⟩ := ih sound
      have nothing := sound.answer_of_misfits misfits now
      have silent : (Turn.mk recognizer now edge).events = [] := congrArg Outcome.events nothing
      have same : (Turn.mk recognizer now edge).after = recognizer :=
        congrArg (fun outcome => outcome.value.2) nothing
      refine ⟨?_, ?_, ?_⟩
      · rw [run, nothing]
        exact reached
      · rw [turns, same]
        exact kept.cons _
      · rw [turns, same, List.flatMap_cons, silent, List.nil_append, told]

/-- In every state that can be reached, at every reading of the clock: a press is refused exactly if no key
is bound to its channel or that key is pressed or parked, and a release exactly if no key is bound to it
or that key is idle or lifted. A refused edge changes nothing and reports nothing, and any other lets
exactly the key of its channel go down or come up. So with refused edges put anywhere between the calls,
all calls take the turns they take without, and nothing else is reported. -/
theorem refused_edges_leave_no_trace (calls : List (UInt32 × Call)) :
    let reached := run {} calls
    (∀ now channel backdate,
        ((∃ cause, reached.press? now channel backdate = .error cause) ↔
            reached.Misfits (.press channel backdate)) ∧
          (∀ cause, reached.press? now channel backdate = .error cause →
            reached.press now channel backdate = .quiet reached) ∧
          ∀ outcome, reached.press? now channel backdate = .ok outcome →
            ∃ key, reached.channelOf? key = some channel ∧ ∀ other,
              (reached.press now channel backdate).value.isDown other ≠ reached.isDown other ↔
                other = key) ∧
      (∀ now channel,
        ((∃ cause, reached.release? now channel = .error cause) ↔ reached.Misfits (.release channel)) ∧
          (∀ cause, reached.release? now channel = .error cause →
            reached.release now channel = .quiet reached) ∧
          ∀ outcome, reached.release? now channel = .ok outcome →
            ∃ key, reached.channelOf? key = some channel ∧ ∀ other,
              (reached.release now channel).value.isDown other ≠ reached.isDown other ↔ other = key) ∧
      ∀ longer, Padded {} calls longer →
        run {} longer = reached ∧ (turns {} calls).Sublist (turns {} longer) ∧
          (turns {} longer).flatMap Turn.events = (turns {} calls).flatMap Turn.events := by
  intro reached
  have sound : reached.Sound := sound_fresh.run calls
  refine ⟨fun now channel backdate => ?_, fun now channel => ?_, fun longer padded => ?_⟩
  · exact ⟨sound.refuses_press_iff now channel backdate, fun _ => press_of_error,
      fun _ => sound.flips_of_press⟩
  · exact ⟨sound.refuses_release_iff now channel, fun _ => release_of_error,
      fun _ => sound.flips_of_release⟩
  · exact padded.leaves_turns sound_fresh

/-- A second press of a key that is down, a second release of the one that closed the chord and an edge of
a channel that nothing is bound to. -/
theorem refused_edges_leave_no_trace_in_chord :
    let calls : List (UInt32 × Call) := [(0, .register ⟨1, .io⟩ 5), (0, .register ⟨2, .touch⟩ 11),
      (0, .press 5 0), (20, .press 11 0), (60, .release 5), (80, .release 11)]
    let longer : List (UInt32 × Call) := [(0, .register ⟨1, .io⟩ 5), (0, .register ⟨2, .touch⟩ 11),
      (0, .press 5 0), (10, .press 5 7), (20, .press 11 0), (60, .release 5), (65, .release 5),
      (70, .press 77 0), (80, .release 11)]
    Padded {} calls longer ∧ run {} longer = run {} calls ∧
      (turns {} longer).flatMap Turn.events = [.single ⟨1, .io⟩ .press, .single ⟨2, .touch⟩ .press,
        ⟨.short, [⟨1, .io⟩, ⟨2, .touch⟩]⟩, .single ⟨2, .touch⟩ .release, .single ⟨2, .touch⟩ .short] := by
  intro calls longer
  have padded : Padded {} calls longer :=
    .made _ _ (.made _ _ (.made _ _ (.added _ _ (by decide) (.made _ _ (.made _ _ (.added _ _ (by decide)
      (.added _ _ (by decide) (.made _ _ (.nil _)))))))))
  obtain ⟨reached, _, told⟩ := (refused_edges_leave_no_trace calls).2.2 longer padded
  exact ⟨padded, reached, told.trans (by decide)⟩

end KeyGesture.Recognizer
