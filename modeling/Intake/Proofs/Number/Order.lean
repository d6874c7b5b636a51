import Intake.Proofs.Number.Whole
import Intake.Time.Span

/-!
# Order: double-precision arithmetic on numbers that are not negative

Rounding goes past no double. So a sum of numbers that are not negative is no less than either of them (`upTo_add`), a difference that is
not negative is no more than what it was taken from (`UpTo.sub`), and none of this asks for results that are exact.
-/

namespace Intake.Binary64

variable {a b k l m n num den : Nat} {x y z : Binary64}

/-! ## Numbers that are not negative -/

/-- Zero, a number above it, or infinity. -/
def NonNegative (x : Binary64) : Prop := ∃ a ≤ infinityBits, x = ofMagnitude false a

/-- A number above zero, or infinity. -/
def Positive (x : Binary64) : Prop := ∃ a, 0 < a ∧ a ≤ infinityBits ∧ x = ofMagnitude false a

/-- Two numbers that are not negative, in their order. -/
def UpTo (x y : Binary64) : Prop := ∃ a b, a ≤ b ∧ b ≤ infinityBits ∧ x = ofMagnitude false a ∧ y = ofMagnitude false b

theorem ofMagnitude_inj (ha : a ≤ infinityBits) (hb : b ≤ infinityBits) (h : ofMagnitude false a = ofMagnitude false b) : a = b := by
  have hsign : infinityBits < signBit := by decide
  rw [← magnitude_ofMagnitude false (Nat.lt_of_le_of_lt ha hsign), h, magnitude_ofMagnitude false (Nat.lt_of_le_of_lt hb hsign)]

theorem UpTo.trans (h : x.UpTo y) (h' : y.UpTo z) : x.UpTo z := by
  obtain ⟨a, b, hab, hb, rfl, rfl⟩ := h
  obtain ⟨b', c, hbc, hc, hsame, rfl⟩ := h'
  obtain rfl := ofMagnitude_inj hb (Nat.le_trans hbc hc) hsame
  exact ⟨a, c, Nat.le_trans hab hbc, hc, rfl, rfl⟩

theorem NonNegative.upTo_self (h : x.NonNegative) : x.UpTo x := by
  obtain ⟨a, ha, rfl⟩ := h
  exact ⟨a, a, Nat.le_refl a, ha, rfl, rfl⟩

theorem NonNegative.zero_upTo (h : x.NonNegative) : zero.UpTo x := by
  obtain ⟨a, ha, rfl⟩ := h
  exact ⟨0, a, Nat.zero_le a, ha, rfl, rfl⟩

theorem UpTo.left (h : x.UpTo y) : x.NonNegative := by
  obtain ⟨a, b, hab, hb, rfl, -⟩ := h
  exact ⟨a, Nat.le_trans hab hb, rfl⟩

theorem UpTo.right (h : x.UpTo y) : y.NonNegative := by
  obtain ⟨-, b, -, hb, -, rfl⟩ := h
  exact ⟨b, hb, rfl⟩

theorem lt_infinityBits (ha : a ≤ infinityBits) (h : ofMagnitude false a ≠ infinity false) : a < infinityBits :=
  Nat.lt_of_le_of_ne ha fun heq => h (congrArg (ofMagnitude false) heq)

/-- What lies below a finite number is finite. -/
theorem UpTo.ne_infinity (h : x.UpTo y) (hy : y ≠ infinity false) : x ≠ infinity false := by
  obtain ⟨a, b, hab, hb, rfl, rfl⟩ := h
  intro hx
  have hinfinite := ofMagnitude_inj (Nat.le_trans hab hb) (Nat.le_refl _) hx
  exact hy (congrArg (ofMagnitude false) (Nat.le_antisymm hb (hinfinite ▸ hab)))

theorem UpTo.positive (h : x.UpTo y) (hx : x.Positive) : y.Positive := by
  obtain ⟨a, b, hab, hb, rfl, rfl⟩ := h
  obtain ⟨a', hpos, ha', hsame⟩ := hx
  obtain rfl := ofMagnitude_inj (Nat.le_trans hab hb) ha' hsame
  exact ⟨b, Nat.lt_of_lt_of_le hpos hab, hb, rfl⟩

theorem nonNegative_zero : zero.NonNegative := ⟨0, Nat.zero_le _, rfl⟩

theorem nonNegative_ofQuotient (num den : Nat) : (ofQuotient false num den).NonNegative :=
  ⟨roundQuotient num den, roundQuotient_le num den, rfl⟩

theorem nonNegative_ofNat (n : Nat) : (ofNat n).NonNegative := nonNegative_ofQuotient n 1

/-- The order is the numeric one. -/
theorem UpTo.le (h : x.UpTo y) : x.le y = true := by
  obtain ⟨a, b, hab, hb, rfl, rfl⟩ := h
  unfold Binary64.le
  rcases Nat.lt_or_eq_of_le (Nat.le_trans hab hb) with ha | rfl
  · obtain ⟨k, m, hm, hx⟩ := exists_digits ha
    rcases Nat.lt_or_eq_of_le hb with hb | rfl
    · obtain ⟨l, n, hn, hy⟩ := exists_digits hb
      rw [hx, hy]
      simp only [min_units, decide_eq_true_eq]
      rw [scaled_units false (Nat.min_le_left k l), scaled_units false (Nat.min_le_right k l)]
      exact Int.ofNat_le.2 (scale_le (hm.le hn hab) (by omega))
    · rw [hx, value_infinity]
      rfl
  · obtain rfl := Nat.le_antisymm hb hab
    rw [value_infinity]
    rfl

/-- A number of units that is no less than a double is not rounded to less. -/
theorem le_ofScaled {j : Nat} (h : Digits a k m) (ha : a ≤ infinityBits) (hle : m * 2 ^ k ≤ n * 2 ^ j) :
    (ofMagnitude false a).UpTo (ofScaled n ((j : Int) - 1074) false) := by
  rw [ofScaled_natCast]
  refine ⟨a, _, le_roundQuotient h ha (Nat.two_pow_pos _) ?_, roundQuotient_le _ _, rfl, rfl⟩
  rw [← Nat.pow_add 2 (places - j) k, Nat.mul_assoc n, ← Nat.pow_add 2 (j - places) places]
  exact scale_le hle (by omega)

/-- A number of units that is no more than a double is not rounded to more. -/
theorem ofScaled_le {j : Nat} (h : Digits a k m) (ha : a ≤ infinityBits) (hle : n * 2 ^ j ≤ m * 2 ^ k) :
    (ofScaled n ((j : Int) - 1074) false).UpTo (ofMagnitude false a) := by
  rw [ofScaled_natCast]
  refine ⟨_, a, roundQuotient_le_of_le h (Nat.two_pow_pos _) ?_, ha, rfl, rfl⟩
  rw [← Nat.pow_add 2 (places - j) k, Nat.mul_assoc n, ← Nat.pow_add 2 (j - places) places]
  exact scale_le hle (by omega)

/-! ## Sums, differences and quotients -/

/-- A sum is no less than either of its parts. -/
theorem upTo_add (hx : x.NonNegative) (hy : y.NonNegative) : x.UpTo (x.add y) ∧ y.UpTo (x.add y) := by
  have hinfinity : ∀ {a}, a ≤ infinityBits → (ofMagnitude false a).UpTo (infinity false) := fun ha =>
    ⟨_, infinityBits, ha, Nat.le_refl _, rfl, rfl⟩
  obtain ⟨a, ha, rfl⟩ := hx
  obtain ⟨b, hb, rfl⟩ := hy
  rcases Nat.lt_or_eq_of_le ha with ha' | rfl
  · obtain ⟨k, m, hm, hx⟩ := exists_digits ha'
    rcases Nat.lt_or_eq_of_le hb with hb' | rfl
    · obtain ⟨l, n, hn, hy⟩ := exists_digits hb'
      have hsum : (m * 2 ^ (k - min k l) + n * 2 ^ (l - min k l)) * 2 ^ min k l = m * 2 ^ k + n * 2 ^ l := by
        rw [Nat.add_mul, units_whole (Nat.min_le_left k l), units_whole (Nat.min_le_right k l)]
      rw [add_digits (hx false) (hy false)]
      exact ⟨le_ofScaled hm ha (hsum ▸ Nat.le_add_right _ _), le_ofScaled hn hb (hsum ▸ Nat.le_add_left _ _)⟩
    · unfold add
      rw [hx, value_infinity]
      exact ⟨hinfinity ha, hinfinity hb⟩
  · have hsum : (ofMagnitude false infinityBits).add (ofMagnitude false b) = infinity false := by
      unfold add
      rw [value_infinity]
      rcases Nat.lt_or_eq_of_le hb with hb' | rfl
      · obtain ⟨l, n, -, hy⟩ := exists_digits hb'
        rw [hy]
      · rw [value_infinity]
        rfl
    rw [hsum]
    exact ⟨hinfinity ha, hinfinity hb⟩

/-- To take a number away is to add it with the other sign. -/
theorem sub_ofMagnitude (hb : b ≤ infinityBits) : x.sub (ofMagnitude false b) = x.add (ofMagnitude true b) := by
  have hsign : b < signBit := Nat.lt_of_le_of_lt hb (by decide)
  have hnumber : (ofMagnitude false b).isNaN = false := by
    rw [isNaN, magnitude_ofMagnitude false hsign, decide_eq_false_iff_not]
    exact Nat.not_lt.2 hb
  unfold Binary64.sub neg
  rw [hnumber, magnitude_ofMagnitude false hsign, isNegative_ofMagnitude false hsign]
  rfl

/-- A difference that is not negative is no more than the finite number that it was taken from. -/
theorem UpTo.sub (h : y.UpTo x) (hx : x ≠ infinity false) : (x.sub y).UpTo x := by
  obtain ⟨b, a, hba, ha, rfl, rfl⟩ := h
  have ha' : a < infinityBits := lt_infinityBits ha hx
  have hb' : b < infinityBits := Nat.lt_of_le_of_lt hba ha'
  obtain ⟨k, m, hm, hx⟩ := exists_digits ha'
  obtain ⟨l, n, hn, hy⟩ := exists_digits hb'
  have hle : n * 2 ^ (l - min k l) ≤ m * 2 ^ (k - min k l) := scale_le (hn.le hm hba) (by omega)
  have hdifference : signed false (m * 2 ^ (k - min k l)) + signed true (n * 2 ^ (l - min k l)) =
      ((m * 2 ^ (k - min k l) - n * 2 ^ (l - min k l) : Nat) : Int) := by
    simp only [signed, Bool.false_eq_true, if_false, if_true]
    omega
  rw [sub_ofMagnitude (Nat.le_of_lt hb')]
  unfold add
  rw [hx, hy]
  simp only [min_units, Bool.false_and]
  rw [scaled_units false (Nat.min_le_left k l), scaled_units true (Nat.min_le_right k l), hdifference]
  refine ofScaled_le hm ha ?_
  rw [Nat.sub_mul, units_whole (Nat.min_le_left k l)]
  exact Nat.sub_le _ _

/-- A finite number that is not negative stays so when it is divided by a number above zero. -/
theorem NonNegative.div (hx : x.NonNegative) (hfinite : x ≠ infinity false) (hy : y.Positive) : (x.div y).NonNegative := by
  obtain ⟨a, ha, rfl⟩ := hx
  obtain ⟨b, hpos, hb, rfl⟩ := hy
  obtain ⟨k, m, -, hx⟩ := exists_digits (lt_infinityBits ha hfinite)
  unfold Binary64.div
  rcases Nat.lt_or_eq_of_le hb with hb' | rfl
  · obtain ⟨l, n, hn, hy⟩ := exists_digits hb'
    have hne : n ≠ 0 := by
      rintro rfl
      exact Nat.ne_of_gt hpos hn.eq_zero
    rw [hx, hy]
    simp only [if_neg hne]
    exact nonNegative_ofQuotient _ _
  · rw [hx, value_infinity]
    exact ⟨0, Nat.zero_le _, rfl⟩

/-- A quotient that is no smaller than the least double is not rounded to zero. -/
theorem positive_ofQuotient (hden : 0 < den) (h : den ≤ num * 2 ^ places) : (ofQuotient false num den).Positive := by
  refine ⟨_, le_roundQuotient (digits_least (m := 1) (by decide)) (by decide) hden ?_, roundQuotient_le _ _, rfl⟩
  rwa [Nat.one_mul, Nat.pow_zero, Nat.mul_one]

/-- A length of time that is not empty has seconds above zero. -/
theorem positive_seconds {d : Span} (h : 0 < d.nanos) : d.seconds.Positive := by
  have hrest : d.nanos % 1000000000 < 2 ^ 53 := Nat.lt_trans (Nat.mod_lt _ (by decide)) (by decide)
  have hquotient := div_ofNat hrest (b := 1000000000) (by decide) (by decide)
  unfold Span.seconds
  rw [hquotient]
  obtain ⟨hwhole, hfraction⟩ := upTo_add (nonNegative_ofNat (d.nanos / 1000000000))
    (nonNegative_ofQuotient (d.nanos % 1000000000) 1000000000)
  by_cases hseconds : 0 < d.nanos / 1000000000
  · refine hwhole.positive (positive_ofQuotient Nat.one_pos ?_)
    exact Nat.mul_pos hseconds (Nat.two_pow_pos _)
  · have hpos : 0 < d.nanos % 1000000000 := by omega
    refine hfraction.positive (positive_ofQuotient (by decide) ?_)
    calc 1000000000 ≤ 2 ^ 30 := by decide
      _ ≤ 2 ^ places := Nat.pow_le_pow_right (by decide) (by decide)
      _ ≤ d.nanos % 1000000000 * 2 ^ places := Nat.le_mul_of_pos_left _ hpos

end Intake.Binary64
