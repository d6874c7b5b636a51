import Mathlib.Algebra.Order.Field.Basic
import Mathlib.Data.Rat.Cast.Order
import Intake.Proofs.Number.Order

/-!
# Exact numbers: differences of whole numbers

A finite double is a rational number (`number`). A whole number below `2 ^ 53`, with either sign, is a double and stands for itself
(`number_ofInt`); the difference of two such that are not negative is rounded to itself (`sub_ofNat`), and so is what is divided by one
(`ofInt_div_one`).
-/

namespace Intake.Binary64

variable {a b k m n units : Nat} {i z : Int}

/-- The number that a double stands for; an infinity and a not-a-number stand for none. -/
def number (x : Binary64) : Option ℚ :=
  match x.value with
  | .finite s m e => some (signed s m * 2 ^ e)
  | _ => none

theorem signed_natAbs (i : Int) : signed (decide (i < 0)) i.natAbs = i := by
  unfold signed
  split
  · next hneg =>
    have := of_decide_eq_true hneg
    omega
  · next hneg =>
    have := of_decide_eq_false (Bool.eq_false_iff.2 hneg)
    omega

theorem signed_mul (s : Bool) (m n : Nat) : signed s (m * n) = signed s m * n := by
  cases s <;> simp [signed]

/-- A whole number below `2 ^ 53` with its sign is a double. -/
theorem exists_bits_int (hi : i.natAbs < 2 ^ 53) :
    ∃ a k m : Nat, ofInt i = ofMagnitude (decide (i < 0)) a ∧ a < infinityBits ∧ Digits a k m ∧ m * 2 ^ k = i.natAbs * 2 ^ places := by
  obtain ⟨a, k, m, hround, hfinite, hdigits, hunits⟩ := exists_bits_whole hi
  exact ⟨a, k, m, congrArg (ofMagnitude _) hround, hfinite, hdigits, hunits⟩

/-- A whole number below `2 ^ 53` stands for itself. -/
theorem number_ofInt (hi : i.natAbs < 2 ^ 53) : (ofInt i).number = some (i : ℚ) := by
  obtain ⟨a, k, m, hbits, hfinite, hdigits, hunits⟩ := exists_bits_int hi
  have hwhole : signed (decide (i < 0)) m * (2 : ℤ) ^ k = i * 2 ^ places := by
    have hcast : signed (decide (i < 0)) (m * 2 ^ k) = signed (decide (i < 0)) (i.natAbs * 2 ^ places) := by rw [hunits]
    rw [signed_mul, signed_mul, signed_natAbs] at hcast
    exact_mod_cast hcast
  have hrational : (signed (decide (i < 0)) m : ℚ) * 2 ^ k = i * 2 ^ places := by exact_mod_cast hwhole
  have hne : (2 : ℚ) ^ places ≠ 0 := pow_ne_zero _ two_ne_zero
  have hexponent : (2 : ℚ) ^ ((k : ℤ) - 1074) = 2 ^ k / 2 ^ places := by
    rw [show ((k : ℤ) - 1074) = (k : ℤ) - (places : ℤ) from rfl, zpow_sub₀ two_ne_zero, zpow_natCast, zpow_natCast]
  unfold number
  rw [hbits, hdigits.value hfinite]
  simp only [hexponent, Option.some.injEq]
  rw [← mul_div_assoc, hrational, mul_div_assoc, div_self hne, mul_one]

/-! ## Differences -/

theorem ofInt_natCast (n : Nat) : ofInt n = ofNat n := by
  have hsign : decide ((n : Int) < 0) = false := by
    rw [decide_eq_false_iff_not]
    omega
  rw [ofInt, hsign, Int.natAbs_natCast]
  rfl

/-- A number of units below zero is rounded as the quotient that it is. -/
theorem ofScaled_neg (hn : 0 < n) (j : Nat) :
    ofScaled (-n) ((j : Int) - 1074) false = ofQuotient true (n * 2 ^ (j - places)) (2 ^ (places - j)) := by
  have hplaces : places = 1074 := rfl
  unfold ofScaled
  rw [if_neg (by omega), decide_eq_true (show -(n : Int) < 0 by omega), Int.natAbs_neg, Int.natAbs_natCast, Nat.shiftLeft_eq,
    Nat.shiftLeft_eq, Nat.one_mul, show ((j : Int) - 1074).toNat = j - places by omega,
    show (-((j : Int) - 1074)).toNat = places - j by omega]

/-- A whole number that is counted in units of doubles is rounded as itself, whatever its sign is. -/
theorem ofScaled_int (h : z * 2 ^ units = i * 2 ^ places) : ofScaled z ((units : Int) - 1074) false = ofInt i := by
  have hunits : (0 : Int) < 2 ^ units := pow_pos two_pos _
  have hplaces : (0 : Int) < 2 ^ places := pow_pos two_pos _
  have hsign : 0 ≤ z ↔ 0 ≤ i := by rw [← mul_nonneg_iff_of_pos_right hunits, h, mul_nonneg_iff_of_pos_right hplaces]
  rcases lt_or_ge z 0 with hz | hz
  · have hi : i < 0 := not_le.1 (mt hsign.2 (not_le.2 hz))
    obtain ⟨m, rfl⟩ := Int.exists_eq_neg_ofNat hz.le
    obtain ⟨n, rfl⟩ := Int.exists_eq_neg_ofNat hi.le
    have hwhole : m * 2 ^ units = n * 2 ^ places := by
      rw [neg_mul, neg_mul, neg_inj] at h
      exact_mod_cast h
    rw [ofScaled_neg (by omega), ofQuotient, roundQuotient_units hwhole, ofInt, decide_eq_true hi, Int.natAbs_neg, Int.natAbs_natCast]
    rfl
  · have hi := hsign.1 hz
    obtain ⟨m, rfl⟩ := Int.eq_ofNat_of_zero_le hz
    obtain ⟨n, rfl⟩ := Int.eq_ofNat_of_zero_le hi
    rw [ofInt_natCast, ofScaled_whole (by exact_mod_cast h)]

/-- The difference of two whole numbers below `2 ^ 53` is rounded once, from the exact difference. -/
theorem sub_ofNat (ha : a < 2 ^ 53) (hb : b < 2 ^ 53) : (ofNat a).sub (ofNat b) = ofInt (a - b) := by
  obtain ⟨k, m, hx, hm⟩ := exists_digits_whole ha
  obtain ⟨b', l, n, hround, hfinite, hn, hunits⟩ := exists_bits_whole hb
  rw [show ofNat b = ofMagnitude false b' from congrArg (ofMagnitude false) hround, sub_ofMagnitude (Nat.le_of_lt hfinite)]
  unfold add
  rw [hx, hn.value hfinite]
  simp only [min_units, Bool.false_and]
  rw [scaled_units false (Nat.min_le_left k l), scaled_units true (Nat.min_le_right k l)]
  refine ofScaled_int ?_
  have hfirst : m * 2 ^ (k - min k l) * 2 ^ min k l = a * 2 ^ places := by rw [units_whole (Nat.min_le_left k l), hm]
  have hsecond : n * 2 ^ (l - min k l) * 2 ^ min k l = b * 2 ^ places := by rw [units_whole (Nat.min_le_right k l), hunits]
  simp only [signed, Bool.false_eq_true, if_false, if_true]
  rw [← sub_eq_add_neg, sub_mul, sub_mul]
  exact_mod_cast congrArg₂ (fun x y : Nat => (x : Int) - y) hfirst hsecond

/-! ## Quotients -/

/-- What is divided by one stays. -/
theorem ofInt_div_one (hi : i.natAbs < 2 ^ 53) : (ofInt i).div (ofNat 1) = ofInt i := by
  obtain ⟨a, k, m, hbits, hfinite, hdigits, -⟩ := exists_bits_int hi
  have hone : (ofNat 1).value = .finite false hiddenBit (((1022 : Nat) : Int) - 1074) := by decide +kernel
  have hround : roundQuotient (m * 2 ^ (k - 1022)) (hiddenBit * 2 ^ (1022 - k)) = a := by
    refine roundQuotient_of_exact hdigits (Nat.le_of_lt hfinite) (Nat.mul_pos (by decide) (Nat.two_pow_pos _)) ?_
    rw [hiddenBit_mul, ← Nat.pow_add, Nat.mul_assoc, ← Nat.pow_add, show 1022 - k + 52 + k = k - 1022 + places by unfold places; omega]
  rw [hbits]
  unfold div
  rw [hdigits.value hfinite, hone]
  simp only [if_neg (show hiddenBit ≠ 0 by decide), Bool.bne_false]
  rw [ofQuotient, Nat.shiftLeft_eq, Nat.shiftLeft_eq, show ((k : Int) - 1074 - (((1022 : Nat) : Int) - 1074)).toNat = k - 1022 by omega,
    show (((1022 : Nat) : Int) - 1074 - ((k : Int) - 1074)).toNat = 1022 - k by omega, hround]

end Intake.Binary64
