import Mathlib.Data.List.Forall2
import KeyGesture.Proofs.Recognizer.SlotTable

namespace KeyGesture

/-! Two recognizers side by side, with slots that are related number by number. Whatever relates them, as
long as it keeps to slots of the same key on the same channel, lookups find the same numbers in both and
registering goes the same way. -/

section Lists

variable {α β : Type} {related : α → α → Prop} {items others : List α}

theorem forall₂_mapIdx {left right : Nat → α → α} (relation : List.Forall₂ related items others)
    (each : ∀ index item other, items[index]? = some item → others[index]? = some other →
      related item other → related (left index item) (right index other)) :
    List.Forall₂ related (items.mapIdx left) (others.mapIdx right) := by
  induction relation generalizing left right with
  | nil => exact .nil
  | cons head _ ih =>
      simp only [List.mapIdx_cons]
      refine .cons (each 0 _ _ rfl rfl head) (ih ?_)
      intro index item other found foundOther
      exact each (index + 1) item other (by simpa using found) (by simpa using foundOther)

theorem forall₂_modify {index : Nat} {left right : α → α} (relation : List.Forall₂ related items others)
    (each : ∀ item other, items[index]? = some item → others[index]? = some other →
      related item other → related (left item) (right other)) :
    List.Forall₂ related (items.modify index left) (others.modify index right) := by
  rw [modify_eq_mapIdx, modify_eq_mapIdx]
  apply forall₂_mapIdx relation
  intro position item other found foundOther relatedOther
  split
  · rename_i chosen
    subst chosen
    exact each item other found foundOther relatedOther
  · exact relatedOther

theorem getElem?_of_forall₂ {index : Nat} {item : α} (relation : List.Forall₂ related items others)
    (found : items[index]? = some item) :
    ∃ other, others[index]? = some other ∧ related item other := by
  induction relation generalizing index with
  | nil => simp at found
  | cons head _ ih =>
      cases index with
      | zero =>
          obtain rfl : _ = item := by simpa using found
          exact ⟨_, rfl, head⟩
      | succ index =>
          obtain ⟨other, foundOther, relatedOther⟩ := ih (by simpa using found)
          exact ⟨other, by simpa using foundOther, relatedOther⟩

theorem map_eq_of_forall₂ {left right : α → β} (relation : List.Forall₂ related items others)
    (same : ∀ item other, related item other → right other = left item) :
    others.map right = items.map left := by
  induction relation with
  | nil => rfl
  | cons head _ ih => rw [List.map_cons, List.map_cons, same _ _ head, ih]

end Lists

/-- A relation that only slots of the same key on the same channel are in, that two new slots are in, and
that stays when both move to another channel. -/
structure Slot.Pairing (related : Slot → Slot → Prop) : Prop where
  key : ∀ {slot other}, related slot other → other.key = slot.key
  channel : ∀ {slot other}, related slot other → other.channel = slot.channel
  fresh : ∀ key channel, related (Slot.fresh key channel) (Slot.fresh key channel)
  rebind : ∀ {slot other}, related slot other →
    ∀ channel, related { slot with channel } { other with channel }

namespace Slot.Pairing

variable {related : Slot → Slot → Prop} {recognizer other : Recognizer} {slot : Slot} {index channel : Nat}
  {key : Key}

theorem locate? (slots : List.Forall₂ related recognizer.slots other.slots) {wanted : Slot → Bool}
    (same : ∀ slot counterpart, related slot counterpart → wanted counterpart = wanted slot) :
    (other.locate? wanted).map Prod.snd = (recognizer.locate? wanted).map Prod.snd := by
  have flags : other.slots.map wanted = recognizer.slots.map wanted := map_eq_of_forall₂ slots same
  have number : ∀ slots : List Slot, slots.findIdx? wanted = (slots.map wanted).findIdx? id := by
    intro slots
    rw [List.findIdx?_map, Function.id_comp]
  calc (other.locate? wanted).map Prod.snd
      = other.slots.findIdx? wanted := List.findIdx?_eq_fst_find?_zipIdx.symm
    _ = recognizer.slots.findIdx? wanted := by rw [number, number, flags]
    _ = (recognizer.locate? wanted).map Prod.snd := List.findIdx?_eq_fst_find?_zipIdx

theorem locate?_eq_none (slots : List.Forall₂ related recognizer.slots other.slots) {wanted : Slot → Bool}
    (same : ∀ slot counterpart, related slot counterpart → wanted counterpart = wanted slot)
    (absent : recognizer.locate? wanted = none) : other.locate? wanted = none := by
  have numbers := locate? slots same
  rwa [absent, Option.map_none, Option.map_eq_none_iff] at numbers

theorem locate?_eq_some (slots : List.Forall₂ related recognizer.slots other.slots) {wanted : Slot → Bool}
    (same : ∀ slot counterpart, related slot counterpart → wanted counterpart = wanted slot)
    (found : recognizer.locate? wanted = some (slot, index)) :
    ∃ counterpart, other.locate? wanted = some (counterpart, index) ∧ related slot counterpart := by
  have numbers := locate? slots same
  rw [found, Option.map_some, Option.map_eq_some_iff] at numbers
  obtain ⟨⟨counterpart, number⟩, foundOther, rfl⟩ := numbers
  obtain ⟨place, _⟩ := Recognizer.locate?_eq_some found
  obtain ⟨placeOther, _⟩ := Recognizer.locate?_eq_some foundOther
  obtain ⟨partner, placePartner, relatedPartner⟩ := getElem?_of_forall₂ slots place
  rw [placeOther, Option.some.injEq] at placePartner
  subst placePartner
  exact ⟨counterpart, foundOther, relatedPartner⟩

theorem atChannel?_eq_none (pairing : Pairing related)
    (slots : List.Forall₂ related recognizer.slots other.slots)
    (absent : recognizer.atChannel? channel = none) : other.atChannel? channel = none :=
  locate?_eq_none slots (fun _ _ pair => by rw [pairing.channel pair]) absent

theorem atChannel?_eq_some (pairing : Pairing related)
    (slots : List.Forall₂ related recognizer.slots other.slots)
    (found : recognizer.atChannel? channel = some (slot, index)) :
    ∃ counterpart, other.atChannel? channel = some (counterpart, index) ∧ related slot counterpart :=
  locate?_eq_some slots (fun _ _ pair => by rw [pairing.channel pair]) found

theorem ofKey?_eq_none (pairing : Pairing related)
    (slots : List.Forall₂ related recognizer.slots other.slots)
    (absent : recognizer.ofKey? key = none) : other.ofKey? key = none :=
  locate?_eq_none slots (fun _ _ pair => by rw [pairing.key pair]) absent

theorem ofKey?_eq_some (pairing : Pairing related)
    (slots : List.Forall₂ related recognizer.slots other.slots)
    (found : recognizer.ofKey? key = some (slot, index)) :
    ∃ counterpart, other.ofKey? key = some (counterpart, index) ∧ related slot counterpart :=
  locate?_eq_some slots (fun _ _ pair => by rw [pairing.key pair]) found

theorem register (pairing : Pairing related) (slots : List.Forall₂ related recognizer.slots other.slots)
    (key : Key) (channel : Nat) :
    (∃ number moved counterparts,
        recognizer.register key channel = .ok (number, { recognizer with slots := moved }) ∧
          other.register key channel = .ok (number, { other with slots := counterparts }) ∧
          List.Forall₂ related moved counterparts) ∨
      ∃ cause, recognizer.register key channel = .error cause ∧ other.register key channel = .error cause := by
  have taken : other.slots.any (fun slot => slot.channel == channel && slot.key != key) =
      recognizer.slots.any (fun slot => slot.channel == channel && slot.key != key) := by
    let clashes := fun slot : Slot => slot.channel == channel && slot.key != key
    have flags : other.slots.map clashes = recognizer.slots.map clashes :=
      map_eq_of_forall₂ slots fun slot counterpart pair => by
        simp only [clashes, pairing.channel pair, pairing.key pair]
    simpa only [List.any_map, Function.id_comp] using congrArg (List.any · id) flags
  unfold Recognizer.register
  rw [taken, slots.length_eq]
  split
  · exact .inr ⟨_, rfl, rfl⟩
  · cases found : recognizer.ofKey? key with
    | some entry =>
        obtain ⟨slot, index⟩ := entry
        obtain ⟨counterpart, foundOther, _⟩ := pairing.ofKey?_eq_some slots found
        simp only [foundOther]
        exact .inl ⟨_, _, _, rfl, rfl, forall₂_modify slots fun _ _ _ _ pair => pairing.rebind pair channel⟩
    | none =>
        simp only [pairing.ofKey?_eq_none slots found]
        split
        · exact .inl ⟨_, _, _, rfl, rfl, List.rel_append slots (.cons (pairing.fresh key channel) .nil)⟩
        · exact .inr ⟨_, rfl, rfl⟩

end Slot.Pairing

end KeyGesture
