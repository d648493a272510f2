import Mathlib.Logic.Relation
import KeyGesture.Proofs.Recognizer.Bindings
import KeyGesture.Proofs.Recognizer.Settling

namespace KeyGesture.Recognizer

/-! Releases in a row, all at one reading of the clock. They can only let keys come up, each of which then
has a tap window that began at that time. -/

variable {recognizer after : Recognizer} {now released : UInt32} {key : Key}

theorem timing_release (recognizer : Recognizer) (now : UInt32) (channel : Nat) :
    (recognizer.release now channel).value.timing = recognizer.timing := by
  rcases recognizer.release_refused_or_accepted now channel with
    refused | ⟨slot, index, _, _, _, accepted⟩
  · rw [refused]
    rfl
  · rw [accepted, value_report]
    rfl

/-- A release that is not refused opens a tap window, and none is over by it. -/
theorem Sound.release_eq_or_opens (sound : recognizer.Sound) (now : UInt32) (channel : Nat) :
    (recognizer.release now channel).value = recognizer ∨
      recognizer.allUp = false ∧ ∀ released, (recognizer.release now channel).value.OpenSince released ↔
        recognizer.OpenSince released ∨ released = now := by
  rcases recognizer.release_refused_or_accepted now channel with
    refused | ⟨slot, index, place, _, marked, accepted⟩
  · exact .inl (by rw [refused]; rfl)
  right
  have down : slot.isDown = true := (sound.contains_eq place).symm.trans marked
  rw [accepted, value_report]
  refine ⟨?_, fun released => ⟨?_, ?_⟩⟩
  · rw [Bool.eq_false_iff]
    intro allUp
    have up := sound.allUp_iff.mp allUp slot (List.mem_of_getElem? place)
    rw [down] at up
    contradiction
  · rintro ⟨next, member, since⟩
    rw [slots_acceptRelease] at member
    obtain ⟨other, bound, rfl⟩ := List.mem_mapIdx.mp member
    split at since
    · exact .inr (Option.some.inj since).symm
    · exact .inl ⟨_, List.getElem_mem bound, since⟩
  · rintro (⟨old, member, since⟩ | same)
    · -- The slot that comes up has no window yet.
      obtain ⟨other, placeOther⟩ := List.getElem?_of_mem member
      have unchosen : index ≠ other := by
        rintro rfl
        obtain rfl : slot = old := Option.some.inj (place.symm.trans placeOther)
        have lifted := (sound.coherent slot member).released.mp (Option.isSome_of_eq_some since)
        simp [Slot.isDown, lifted] at down
      refine ⟨old, List.mem_of_getElem? (i := other) ?_, since⟩
      rw [slots_acceptRelease, List.getElem?_mapIdx, placeOther, Option.map_some, if_neg unchosen]
    · have lifts : (recognizer.acceptRelease slot index now).value.slots[index]? =
          some (slot.lift now (recognizer.timing.releaseGesture (slot.hold now))) := by
        rw [slots_acceptRelease, List.getElem?_mapIdx, place, Option.map_some, if_pos rfl]
      exact ⟨_, List.mem_of_getElem? lifts, congrArg some same.symm⟩

theorem Sound.allUp_iff_isDown (sound : recognizer.Sound) :
    recognizer.allUp = true ↔ ∀ key, recognizer.isDown key = false := by
  rw [sound.allUp_iff]
  constructor
  · intro up key
    rw [Bool.eq_false_iff, ne_eq, sound.isDown_iff]
    rintro ⟨slot, member, _, down⟩
    rw [up slot member] at down
    contradiction
  · intro up slot member
    rw [Bool.eq_false_iff]
    exact fun down => Bool.eq_false_iff.mp (up slot.key) (sound.isDown_iff.mpr ⟨slot, member, rfl, down⟩)

def LiftedAt (now : UInt32) (before after : Recognizer) : Prop :=
  Relation.ReflTransGen (fun before after => ∃ channel, after = (before.release now channel).value)
    before after

theorem AtRest.release (atRest : recognizer.AtRest) (sound : recognizer.Sound) (now : UInt32)
    (channel : Nat) : (recognizer.release now channel).value.AtRest := by
  let turn : Turn := ⟨recognizer, now, .release channel⟩
  have unpressed : ∀ slot, ¬ turn.Presses slot := by
    rintro slot ⟨_, _, _, _, calling, _⟩
    contradiction
  exact AtRest.after_turn (show turn.before.AtRest from atRest) sound unpressed

namespace LiftedAt

theorem refl (now : UInt32) (recognizer : Recognizer) : recognizer.LiftedAt now recognizer :=
  Relation.ReflTransGen.refl

theorem release (recognizer : Recognizer) (now : UInt32) (channel : Nat) :
    recognizer.LiftedAt now (recognizer.release now channel).value :=
  .single ⟨channel, rfl⟩

theorem trans {middle : Recognizer} (first : recognizer.LiftedAt now middle)
    (second : middle.LiftedAt now after) : recognizer.LiftedAt now after :=
  Relation.ReflTransGen.trans first second

/-- What each release keeps, all of them keep. -/
theorem keeps (kept : Recognizer → Prop) (lifted : recognizer.LiftedAt now after)
    (initially : kept recognizer)
    (each : ∀ between channel, kept between → kept (between.release now channel).value) : kept after := by
  induction lifted with
  | refl => exact initially
  | tail _ released ih =>
      obtain ⟨channel, rfl⟩ := released
      exact each _ channel ih

theorem sound (lifted : recognizer.LiftedAt now after) (sound : recognizer.Sound) : after.Sound :=
  lifted.keeps Sound sound fun _ channel kept => kept.release now channel

/-- What each release keeps of a sound recognizer, all of them keep. -/
theorem keepsOfSound (kept : Recognizer → Prop) (lifted : recognizer.LiftedAt now after)
    (sound : recognizer.Sound) (initially : kept recognizer)
    (each : ∀ between channel, between.Sound → kept between →
      kept (between.release now channel).value) : kept after := by
  have both := lifted.keeps (fun between => between.Sound ∧ kept between) ⟨sound, initially⟩
    fun between channel before =>
      ⟨before.1.release now channel, each between channel before.1 before.2⟩
  exact both.2

theorem bindings_eq (lifted : recognizer.LiftedAt now after) : after.bindings = recognizer.bindings :=
  lifted.keeps (fun between => between.bindings = recognizer.bindings) rfl
    fun between channel kept => (between.bindings_release now channel).trans kept

theorem timing_eq (lifted : recognizer.LiftedAt now after) : after.timing = recognizer.timing :=
  lifted.keeps (fun between => between.timing = recognizer.timing) rfl
    fun between channel kept => (between.timing_release now channel).trans kept

theorem atRest (lifted : recognizer.LiftedAt now after) (sound : recognizer.Sound)
    (atRest : recognizer.AtRest) : after.AtRest :=
  lifted.keepsOfSound AtRest sound atRest fun _ channel sound kept => kept.release sound now channel

theorem isDown_of_isDown (lifted : recognizer.LiftedAt now after) (sound : recognizer.Sound)
    (down : after.isDown key = true) : recognizer.isDown key = true :=
  lifted.keepsOfSound (fun between => between.isDown key = true → recognizer.isDown key = true) sound id
    (fun _ channel sound kept down => kept ((sound.isDown_release now channel).mp down).1) down

theorem eq_or_opens (lifted : recognizer.LiftedAt now after) (sound : recognizer.Sound) :
    after = recognizer ∨ recognizer.allUp = false ∧
      ∀ released, after.OpenSince released ↔ recognizer.OpenSince released ∨ released = now := by
  refine lifted.keepsOfSound (fun between => between = recognizer ∨ recognizer.allUp = false ∧
    ∀ released, between.OpenSince released ↔ recognizer.OpenSince released ∨ released = now)
    sound (.inl rfl) ?_
  intro between channel soundBetween before
  rcases soundBetween.release_eq_or_opens now channel with same | ⟨someDown, opens⟩
  · rwa [same]
  · right
    rcases before with rfl | ⟨someDownBefore, opensBefore⟩
    · exact ⟨someDown, opens⟩
    · refine ⟨someDownBefore, fun released => ?_⟩
      rw [opens, opensBefore, or_assoc, or_self]

/-- Once all keys are up, the open windows are the earlier ones and, if any key came up, those since now. -/
theorem openSince_iff (lifted : recognizer.LiftedAt now after) (sound : recognizer.Sound)
    (up : after.allUp = true) : after.OpenSince released ↔
      recognizer.OpenSince released ∨ released = now ∧ recognizer.allUp = false := by
  rcases lifted.eq_or_opens sound with rfl | ⟨someDown, opens⟩
  · simp [up]
  · rw [opens, someDown, and_iff_left rfl]

end LiftedAt

end KeyGesture.Recognizer
