namespace KeyGesture

/-- How many milliseconds the clock counts before it starts again at zero. -/
def clockPeriod : Nat := UInt32.size

/-- Milliseconds from `since` to `now`. The difference is taken on the clock's circle, so it is right
whether or not the clock started again in between, for any span shorter than `clockPeriod`. -/
def elapsed (now since : UInt32) : Nat :=
  (now - since).toNat

theorem elapsed_self (now : UInt32) : elapsed now now = 0 := by
  simp [elapsed]

theorem elapsed_add_right (now since shift : UInt32) :
    elapsed (now + shift) (since + shift) = elapsed now since := by
  have same : now + shift - (since + shift) = now - since := by
    rw [UInt32.sub_eq_add_neg, UInt32.neg_add, UInt32.sub_eq_add_neg]
    grind
  simp only [elapsed, same]

/-- As long as it stays below the clock's period, a span grows with the clock. -/
theorem elapsed_add_left {now since : UInt32} {duration : Nat}
    (short : elapsed now since + duration < clockPeriod) :
    elapsed (now + UInt32.ofNat duration) since = elapsed now since + duration := by
  have moved : now + UInt32.ofNat duration - since = (now - since) + UInt32.ofNat duration := by
    rw [UInt32.sub_eq_add_neg, UInt32.sub_eq_add_neg]
    grind
  have small : duration < UInt32.size := Nat.lt_of_le_of_lt (Nat.le_add_left _ _) short
  rw [elapsed, moved, UInt32.toNat_add, UInt32.toNat_ofNat_of_lt' small]
  exact Nat.mod_eq_of_lt short

/-- The time between two instants, where a third one sees both and the later one no nearer. -/
theorem elapsed_eq_sub {now last since : UInt32} (le : elapsed last since ≤ elapsed now since) :
    elapsed now last = elapsed now since - elapsed last since := by
  have moved : now - last = now - since - (last - since) := by
    simp only [UInt32.sub_eq_add_neg, UInt32.neg_add, UInt32.neg_neg]
    grind
  rw [elapsed, moved, UInt32.toNat_sub_of_le _ _ (UInt32.le_iff_toNat_le.mpr le)]
  rfl

end KeyGesture
