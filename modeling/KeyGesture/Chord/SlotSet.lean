import KeyGesture.Key

namespace KeyGesture

/-- A set of slot numbers, one bit for each. -/
structure SlotSet where
  bits : BitVec 32
  deriving DecidableEq, Repr

namespace SlotSet

def empty : SlotSet :=
  ⟨0⟩

def insert (slots : SlotSet) (index : Nat) : SlotSet :=
  ⟨slots.bits ||| BitVec.twoPow 32 index⟩

def erase (slots : SlotSet) (index : Nat) : SlotSet :=
  ⟨slots.bits &&& ~~~BitVec.twoPow 32 index⟩

def contains (slots : SlotSet) (index : Nat) : Bool :=
  slots.bits.getLsbD index

def count (slots : SlotSet) : Nat :=
  (List.range 32).countP slots.contains

def isEmpty (slots : SlotSet) : Bool :=
  slots.bits == 0

/-- The slots of a recognizer that are in the set, in ascending order. -/
def indices (slots : SlotSet) : List Nat :=
  (List.range maxKeys).filter slots.contains

@[simp] theorem contains_empty (index : Nat) : empty.contains index = false := by
  simp [contains, empty]

theorem contains_insert {slots : SlotSet} {added index : Nat} (bound : added < 32) :
    (slots.insert added).contains index = (decide (index = added) || slots.contains index) := by
  simp only [contains, insert, BitVec.getLsbD_or, BitVec.getLsbD_twoPow]
  grind

theorem contains_erase {slots : SlotSet} {removed index : Nat} :
    (slots.erase removed).contains index = (slots.contains index && decide (index ≠ removed)) := by
  have outside : ¬ index < 32 → slots.bits.getLsbD index = false :=
    fun large => BitVec.getLsbD_of_ge _ _ (by omega)
  simp only [contains, erase, BitVec.getLsbD_and, BitVec.getLsbD_not, BitVec.getLsbD_twoPow]
  grind

theorem isEmpty_iff {slots : SlotSet} : slots.isEmpty = true ↔ ∀ index, slots.contains index = false := by
  constructor
  · intro absent index
    simp_all [isEmpty, contains]
  · intro absent
    simp only [isEmpty, beq_iff_eq]
    apply BitVec.eq_of_getLsbD_eq
    intro index bound
    simpa [contains] using absent index

end SlotSet

end KeyGesture
