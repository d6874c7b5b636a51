import Intake.Proofs.Number.Rounding

/-!
# Whole numbers: where double-precision arithmetic is exact

A whole number below `2 ^ 53` is a double, and the sum of two of them is rounded once, from the exact sum. A counter that only
ever grows by whole numbers is therefore exact for as long as it stays below `2 ^ 53`.
-/

namespace Intake.Binary64

variable {a b k l m n : Nat}

/-- A whole number below `2 ^ 53` is rounded to bits that say just it. -/
theorem exists_bits_whole (hn : n < 2 ^ 53) :
    ∃ a k m : Nat, roundQuotient n 1 = a ∧ a < infinityBits ∧ Digits a k m ∧ m * 2 ^ k = n * 2 ^ places := by
  have hexact : ∀ {a k m : Nat}, Digits a k m → a < infinityBits → m * 2 ^ k = n * 2 ^ places → roundQuotient n 1 = a :=
    fun hdigits hfinite heq => roundQuotient_of_exact hdigits (Nat.le_of_lt hfinite) Nat.one_pos (by rw [Nat.one_mul, heq])
  rcases Nat.eq_zero_or_pos n with rfl | hpos
  · have hzero : 0 * 2 ^ 0 = 0 * 2 ^ places := by rw [Nat.zero_mul, Nat.zero_mul]
    have hdigits : Digits 0 0 0 := digits_least (by decide)
    exact ⟨0, 0, 0, hexact hdigits (by decide) hzero, by decide, hdigits, hzero⟩
  · -- Shifted until its first digit is the hidden bit.
    have hlog : n.log2 < 53 := (Nat.log2_lt (Nat.ne_of_gt hpos)).2 hn
    have hlow := Nat.mul_le_mul_right (2 ^ (52 - n.log2)) (Nat.log2_self_le (Nat.ne_of_gt hpos))
    have hhigh := Nat.mul_lt_mul_of_pos_right (Nat.lt_log2_self (n := n)) (Nat.two_pow_pos (52 - n.log2))
    rw [← Nat.pow_add, show n.log2 + (52 - n.log2) = 52 by omega] at hlow
    rw [← Nat.pow_add, show n.log2 + 1 + (52 - n.log2) = 53 by omega] at hhigh
    have hunits : n * 2 ^ (52 - n.log2) * 2 ^ (n.log2 + 1022) = n * 2 ^ places := by
      rw [Nat.mul_assoc, ← Nat.pow_add, show 52 - n.log2 + (n.log2 + 1022) = places by unfold places; omega]
    have hdigits : Digits _ (n.log2 + 1022) (n * 2 ^ (52 - n.log2)) := ⟨rfl, hhigh, fun _ => hlow⟩
    have hfinite : (n.log2 + 1022) * hiddenBit + n * 2 ^ (52 - n.log2) < infinityBits := by
      unfold hiddenBit infinityBits
      omega
    exact ⟨_, _, _, hexact hdigits hfinite hunits, hfinite, hdigits, hunits⟩

/-- A whole number below `2 ^ 53` is a double. -/
theorem exists_digits_whole (hn : n < 2 ^ 53) :
    ∃ k m : Nat, (ofNat n).value = .finite false m ((k : Int) - 1074) ∧ m * 2 ^ k = n * 2 ^ places := by
  obtain ⟨a, k, m, hround, hfinite, hdigits, hunits⟩ := exists_bits_whole hn
  refine ⟨k, m, ?_, hunits⟩
  rw [ofNat, ofQuotient, hround]
  exact hdigits.value hfinite false

/-- A whole number is rounded the same in units of doubles. -/
theorem roundQuotient_units {units : Nat} (h : m * 2 ^ units = n * 2 ^ places) :
    roundQuotient (m * 2 ^ (units - places)) (2 ^ (places - units)) = roundQuotient n 1 := by
  have hquotient : m * 2 ^ (units - places) = n * 2 ^ (places - units) :=
    Nat.le_antisymm (scale_le (Nat.le_of_eq h) (by omega)) (scale_le (Nat.le_of_eq h.symm) (by omega))
  have hround := roundQuotient_scale n 1 (places - units) Nat.one_pos
  rw [Nat.one_mul] at hround
  rw [hquotient, hround]

/-- A whole number that is counted in units of doubles is rounded as itself. -/
theorem ofScaled_whole {units : Nat} (h : m * 2 ^ units = n * 2 ^ places) : ofScaled m ((units : Int) - 1074) false = ofNat n := by
  rw [ofScaled_natCast, ofQuotient, roundQuotient_units h]
  rfl

/-- The sum of two whole numbers below `2 ^ 53` is rounded once, from the exact sum. -/
theorem add_ofNat (ha : a < 2 ^ 53) (hb : b < 2 ^ 53) : (ofNat a).add (ofNat b) = ofNat (a + b) := by
  obtain ⟨k, m, hx, hm⟩ := exists_digits_whole ha
  obtain ⟨l, n, hy, hn⟩ := exists_digits_whole hb
  rw [add_digits hx hy]
  refine ofScaled_whole ?_
  rw [Nat.add_mul, units_whole (Nat.min_le_left k l), units_whole (Nat.min_le_right k l), hm, hn, Nat.add_mul]

/-- The quotient of two whole numbers below `2 ^ 53` is rounded once, from the exact quotient. -/
theorem div_ofNat (ha : a < 2 ^ 53) (hb : b < 2 ^ 53) (hpos : 0 < b) : (ofNat a).div (ofNat b) = ofQuotient false a b := by
  obtain ⟨k, m, hx, hm⟩ := exists_digits_whole ha
  obtain ⟨l, n, hy, hn⟩ := exists_digits_whole hb
  have hne : n ≠ 0 := by
    rintro rfl
    rw [Nat.zero_mul] at hn
    exact Nat.ne_of_lt (Nat.mul_pos hpos (Nat.two_pow_pos places)) hn
  have hden : 0 < n * 2 ^ (l - k) := Nat.mul_pos (Nat.pos_of_ne_zero hne) (Nat.two_pow_pos _)
  unfold div
  rw [hx, hy]
  simp only [if_neg hne, bne_self_eq_false]
  unfold ofQuotient
  rw [Nat.shiftLeft_eq, Nat.shiftLeft_eq, show ((k : Int) - 1074 - ((l : Int) - 1074)).toNat = k - l by omega,
    show ((l : Int) - 1074 - ((k : Int) - 1074)).toNat = l - k by omega]
  -- Both are counted in units of the least double.
  rw [← roundQuotient_scale _ _ (min k l) hden, Nat.mul_assoc, Nat.mul_assoc, ← Nat.pow_add, ← Nat.pow_add,
    show k - l + min k l = k by omega, show l - k + min k l = l by omega, hm, hn, roundQuotient_scale a b places hpos]

end Intake.Binary64
