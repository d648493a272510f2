import Mathlib.Data.List.Induction
import KeyGesture.Hardware.Board
import KeyGesture.Proofs.Recognizer.Bindings

namespace KeyGesture.Recognizer

/-! Putting keys on the channels a board wires them to, one after the other. What becomes of a key depends on
where the others are, so doing it again may change more; but not if no key was ever put elsewhere. -/

variable {recognizer registered : Recognizer} {wiring : Wiring} {key other : Key} {channel number : Nat}

theorem modify_rebind_eq_self {slots : List Slot} {slot : Slot} {index : Nat}
    (place : slots[index]? = some slot) :
    (slots.modify index fun old => { old with channel := slot.channel }) = slots := by
  apply List.ext_getElem?
  intro position
  rw [List.getElem?_modify]
  split
  · rename_i same
    subst same
    rw [place]
    rfl
  · rw [Option.map_eq_map, Option.map_id']

/-- A key that is on the channel already stays as it is. -/
theorem Sound.register_of_bound (sound : recognizer.Sound) (bound : (key, channel) ∈ recognizer.bindings) :
    ∃ number, recognizer.register key channel = .ok (number, recognizer) := by
  have free : ¬ recognizer.taken key channel = true := by
    rw [sound.taken_iff]
    rintro ⟨other, different, taken⟩
    exact different ((sound.channelOf?_eq_some_iff_of_bound bound).mp taken)
  obtain ⟨slot, member, same⟩ := List.mem_map.mp bound
  obtain ⟨rfl, rfl⟩ := Prod.mk.inj same
  obtain ⟨index, place⟩ := List.getElem?_of_mem member
  refine ⟨index, ?_⟩
  rw [register_of_known free (ofKey?_of_getElem? sound.keysDistinct place), modify_rebind_eq_self place]

theorem length_bindings_register (accepted : recognizer.register key channel = .ok (number, registered)) :
    recognizer.bindings.length ≤ registered.bindings.length := by
  obtain ⟨_, ⟨_, _, _, rfl⟩ | ⟨_, _, _, rfl⟩⟩ := register_rebinds_or_adds accepted <;> simp [bindings]

/-- A key is refused a channel that another key is on, and any channel if it is new and there is no room. -/
theorem Sound.refused_iff (sound : recognizer.Sound) :
    (∃ cause, recognizer.register key channel = .error cause) ↔
      (∃ other, other ≠ key ∧ (other, channel) ∈ recognizer.bindings) ∨
        (∀ binding ∈ recognizer.bindings, binding.1 ≠ key) ∧ maxKeys ≤ recognizer.bindings.length := by
  have taken : (∃ other, other ≠ key ∧ (other, channel) ∈ recognizer.bindings) ↔
      recognizer.taken key channel = true := by
    rw [sound.taken_iff]
    simp only [sound.mem_bindings_iff]
  have unknown : (∀ binding ∈ recognizer.bindings, binding.1 ≠ key) ↔ recognizer.ofKey? key = none := by
    rw [ofKey?_eq_none_iff, bindings, List.forall_mem_map]
  rw [taken, unknown, bindings, List.length_map]
  constructor
  · rintro ⟨cause, refused⟩
    rcases register_error_cases refused with rfl | rfl
    · exact .inl (register_channelTaken_iff.mp refused)
    · exact .inr (register_full_iff.mp refused).2
  · intro barred
    by_cases free : recognizer.taken key channel = true
    · exact ⟨_, register_of_taken free⟩
    · exact ⟨_, register_full_iff.mpr ⟨free, barred.resolve_left free⟩⟩

/-- Registers a key on the channel it is wired to. One without a channel, or one that is refused, is left
out. -/
def seat (wiring : Wiring) (recognizer : Recognizer) (key : Key) : Recognizer :=
  match wiring.channel? key with
  | none => recognizer
  | some channel =>
      match recognizer.register key channel with
      | .ok (_, registered) => registered
      | .error _ => recognizer

def seatAll (wiring : Wiring) (recognizer : Recognizer) (keys : List Key) : Recognizer :=
  keys.foldl (seat wiring) recognizer

/-- The key has no channel, or it is refused the channel it is wired to. -/
def LeftOut (wiring : Wiring) (recognizer : Recognizer) (key : Key) : Prop :=
  ∀ channel, wiring.channel? key = some channel → ∃ cause, recognizer.register key channel = .error cause

/-- There is no more to be done for the key: it is on the channel it is wired to, if it is not left out. -/
def Decided (wiring : Wiring) (recognizer : Recognizer) (key : Key) : Prop :=
  recognizer.LeftOut wiring key ∨
    ∃ channel, wiring.channel? key = some channel ∧ (key, channel) ∈ recognizer.bindings

theorem LeftOut.seat (leftOut : recognizer.LeftOut wiring key) : recognizer.seat wiring key = recognizer := by
  rw [Recognizer.seat]
  split
  · rfl
  · rename_i channel wired
    obtain ⟨cause, refused⟩ := leftOut channel wired
    rw [refused]

theorem seat_of_registered (wired : wiring.channel? key = some channel)
    (accepted : recognizer.register key channel = .ok (number, registered)) :
    recognizer.seat wiring key = registered := by
  simp only [seat, wired, accepted]

theorem left_out_or_registered (wiring : Wiring) (recognizer : Recognizer) (key : Key) :
    recognizer.LeftOut wiring key ∨ ∃ channel number, wiring.channel? key = some channel ∧
      recognizer.register key channel = .ok (number, recognizer.seat wiring key) := by
  cases wired : wiring.channel? key with
  | none =>
      refine .inl fun channel found => ?_
      rw [wired] at found
      contradiction
  | some channel =>
      cases answered : recognizer.register key channel with
      | error cause =>
          refine .inl fun own found => ?_
          obtain rfl := Option.some.inj (wired.symm.trans found)
          exact ⟨cause, answered⟩
      | ok entry =>
          obtain ⟨number, registered⟩ := entry
          rw [seat_of_registered wired answered]
          exact .inr ⟨channel, number, rfl, answered⟩

theorem Sound.not_leftOut_of_bound (sound : recognizer.Sound) (wired : wiring.channel? key = some channel)
    (bound : (key, channel) ∈ recognizer.bindings) : ¬ recognizer.LeftOut wiring key := by
  intro leftOut
  obtain ⟨cause, refused⟩ := leftOut channel wired
  obtain ⟨number, stays⟩ := sound.register_of_bound bound
  rw [refused] at stays
  contradiction

/-! What one key's turn keeps. -/

theorem timing_seat (wiring : Wiring) (recognizer : Recognizer) (key : Key) :
    (recognizer.seat wiring key).timing = recognizer.timing := by
  rcases recognizer.left_out_or_registered wiring key with leftOut | ⟨_, _, _, accepted⟩
  · rw [leftOut.seat]
  · rw [eq_of_register accepted]

theorem timing_seatAll (wiring : Wiring) (recognizer : Recognizer) (keys : List Key) :
    (recognizer.seatAll wiring keys).timing = recognizer.timing :=
  List.foldlRecOn (motive := fun between : Recognizer => between.timing = recognizer.timing) keys _ rfl
    fun between kept key _ => (timing_seat wiring between key).trans kept

theorem Sound.seat (sound : recognizer.Sound) (wiring : Wiring) (key : Key) :
    (recognizer.seat wiring key).Sound := by
  rcases recognizer.left_out_or_registered wiring key with leftOut | ⟨_, _, _, accepted⟩
  · rw [leftOut.seat]
    exact sound
  · exact sound.register accepted

/-- A key that is on the channel it is wired to stays there. -/
theorem mem_bindings_seat (wired : wiring.channel? other = some channel)
    (bound : (other, channel) ∈ recognizer.bindings) (key : Key) :
    (other, channel) ∈ (recognizer.seat wiring key).bindings := by
  rcases recognizer.left_out_or_registered wiring key with leftOut | ⟨own, _, wiredOwn, accepted⟩
  · rw [leftOut.seat]
    exact bound
  · by_cases itself : other = key
    · subst itself
      obtain rfl := Option.some.inj (wired.symm.trans wiredOwn)
      exact mem_bindings_register accepted
    · exact mem_bindings_of_register accepted bound itself

theorem mem_bindings_seatAll (wired : wiring.channel? other = some channel)
    (bound : (other, channel) ∈ recognizer.bindings) (keys : List Key) :
    (other, channel) ∈ (recognizer.seatAll wiring keys).bindings :=
  List.foldlRecOn (motive := fun between : Recognizer => (other, channel) ∈ between.bindings) keys _ bound
    fun _ kept key _ => mem_bindings_seat wired kept key

theorem Sound.seat_eq_self_iff (sound : recognizer.Sound) :
    recognizer.seat wiring key = recognizer ↔ recognizer.Decided wiring key := by
  constructor
  · intro same
    refine (recognizer.left_out_or_registered wiring key).imp_right fun ⟨channel, _, wired, accepted⟩ => ?_
    rw [same] at accepted
    exact ⟨channel, wired, mem_bindings_register accepted⟩
  · rintro (leftOut | ⟨channel, wired, bound⟩)
    · exact leftOut.seat
    · obtain ⟨_, stays⟩ := sound.register_of_bound bound
      exact seat_of_registered wired stays

/-- If all turns together change nothing, then no turn does: the first that did would have put its key on the
channel it is wired to, where it would be still. -/
theorem Sound.seatAll_eq_self_iff (sound : recognizer.Sound) {keys : List Key} :
    recognizer.seatAll wiring keys = recognizer ↔ ∀ key ∈ keys, recognizer.Decided wiring key := by
  induction keys with
  | nil => exact iff_of_true rfl (List.forall_mem_nil _)
  | cons key rest ih =>
      rw [List.forall_mem_cons, ← ih, ← sound.seat_eq_self_iff]
      constructor
      · intro same
        have first : recognizer.seat wiring key = recognizer := by
          rw [sound.seat_eq_self_iff]
          refine (recognizer.left_out_or_registered wiring key).imp_right
            fun ⟨channel, _, wired, accepted⟩ => ⟨channel, wired, ?_⟩
          rw [← same]
          exact mem_bindings_seatAll wired (mem_bindings_register accepted) rest
        refine ⟨first, ?_⟩
        rw [seatAll, List.foldl_cons, first] at same
        exact same
      · rintro ⟨first, later⟩
        rw [seatAll, List.foldl_cons, first]
        exact later

/-! Keys that are nowhere but on the channels they are wired to. -/

/-- All keys are on the channels they are wired to. -/
def Placed (wiring : Wiring) (recognizer : Recognizer) : Prop :=
  ∀ binding ∈ recognizer.bindings, wiring.channel? binding.1 = some binding.2

theorem placed_fresh (wiring : Wiring) : Placed wiring {} :=
  List.forall_mem_nil _

theorem Placed.seat (placed : recognizer.Placed wiring) (sound : recognizer.Sound) (key : Key) :
    (recognizer.seat wiring key).Placed wiring := by
  rcases recognizer.left_out_or_registered wiring key with leftOut | ⟨channel, number, wired, accepted⟩
  · rw [leftOut.seat]
    exact placed
  · intro binding member
    rcases sound.binding_of_register accepted binding member with rfl | ⟨old, _⟩
    · exact wired
    · exact placed binding old

/-- Where all keys are on the channels they are wired to, what is in the way of a key stays in its way. -/
theorem Placed.leftOut_seat (placed : recognizer.Placed wiring) (sound : recognizer.Sound)
    (leftOut : recognizer.LeftOut wiring key) (other : Key) :
    (recognizer.seat wiring other).LeftOut wiring key := by
  rcases recognizer.left_out_or_registered wiring other with out | ⟨_, _, wiredOther, accepted⟩
  · rw [out.seat]
    exact leftOut
  · intro channel wired
    have refused := leftOut channel wired
    rw [(sound.register accepted).refused_iff]
    rcases sound.refused_iff.mp refused with ⟨holder, different, taken⟩ | ⟨unknown, full⟩
    · exact .inl ⟨holder, different, mem_bindings_seat (placed _ taken) taken other⟩
    · refine .inr ⟨?_, Nat.le_trans full (length_bindings_register accepted)⟩
      intro binding member
      rcases sound.binding_of_register accepted binding member with rfl | ⟨old, _⟩
      · rintro rfl
        obtain ⟨cause, refused⟩ := refused
        obtain rfl := Option.some.inj (wired.symm.trans wiredOther)
        rw [refused] at accepted
        contradiction
      · exact unknown binding old

theorem Placed.decided_seat (placed : recognizer.Placed wiring) (sound : recognizer.Sound)
    (decided : recognizer.Decided wiring key) (other : Key) :
    (recognizer.seat wiring other).Decided wiring key :=
  decided.imp (placed.leftOut_seat sound · other)
    fun ⟨channel, wired, bound⟩ => ⟨channel, wired, mem_bindings_seat wired bound other⟩

theorem decided_seat_self (wiring : Wiring) (recognizer : Recognizer) (key : Key) :
    (recognizer.seat wiring key).Decided wiring key := by
  rcases recognizer.left_out_or_registered wiring key with leftOut | ⟨channel, _, wired, accepted⟩
  · rw [leftOut.seat]
    exact .inl leftOut
  · exact .inr ⟨channel, wired, mem_bindings_register accepted⟩

/-- All keys being where they are wired to, once every key has had its turn there is no more to be done. -/
theorem Placed.seatAll (placed : recognizer.Placed wiring) (sound : recognizer.Sound) (keys : List Key) :
    (recognizer.seatAll wiring keys).Sound ∧ (recognizer.seatAll wiring keys).Placed wiring ∧
      ∀ key ∈ keys, (recognizer.seatAll wiring keys).Decided wiring key := by
  induction keys using List.reverseRecOn with
  | nil => exact ⟨sound, placed, List.forall_mem_nil _⟩
  | append_singleton earlier last ih =>
      obtain ⟨soundThen, placedThen, decided⟩ := ih
      rw [Recognizer.seatAll, List.foldl_concat]
      refine ⟨soundThen.seat wiring last, placedThen.seat soundThen last, ?_⟩
      rw [List.forall_mem_append, List.forall_mem_singleton]
      exact ⟨fun key member => placedThen.decided_seat soundThen (decided key member) last,
        decided_seat_self wiring _ last⟩

end KeyGesture.Recognizer
