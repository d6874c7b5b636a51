import Mathlib.Algebra.Order.Ring.Nat
import Intake.Number.Binary64

/-!
# Rounding: the double nearest to a quotient

The rounding of a quotient depends on the quotient alone (`roundQuotient_scale`). Doubles are ordered as their bits are, and rounding goes
past no double: what lies above one is not rounded to less (`le_roundQuotient`), what lies below one not to more
(`roundQuotient_le_of_le`), and so a quotient that is a double is rounded to itself (`roundQuotient_of_exact`).
-/

namespace Intake.Binary64

/-! ## Rounding depends on the quotient alone -/

theorem divHalfEven_scale (num den c : Nat) (hc : 0 < c) : divHalfEven (num * c) (den * c) = divHalfEven num den := by
  have hr : 2 * (num % den * c) = 2 * (num % den) * c := by rw [Nat.mul_assoc]
  unfold divHalfEven
  simp only [Nat.mul_div_mul_right num den hc, Nat.mul_mod_mul_right, hr, Nat.mul_lt_mul_right hc]

theorem log2_scale (n j : Nat) (hn : 0 < n) : (n * 2 ^ j).log2 = n.log2 + j := by
  rw [Nat.log2_eq_iff (Nat.ne_of_gt (Nat.mul_pos hn (Nat.two_pow_pos j)))]
  constructor
  · rw [Nat.pow_add]
    exact Nat.mul_le_mul_right _ (Nat.log2_self_le (by omega))
  · have := Nat.mul_lt_mul_of_pos_right (Nat.lt_log2_self (n := n)) (Nat.two_pow_pos j)
    rw [← Nat.pow_add] at this
    rwa [show n.log2 + j + 1 = n.log2 + 1 + j by omega]

theorem floorLog2_scale (num den j : Nat) (hn : 0 < num) (hd : 0 < den) :
    floorLog2 (num * 2 ^ j) (den * 2 ^ j) = floorLog2 num den := by
  have hk : (((num * 2 ^ j).log2 : Nat) : Int) - ((den * 2 ^ j).log2 : Nat) = (num.log2 : Int) - den.log2 := by
    rw [log2_scale num j hn, log2_scale den j hd]
    omega
  unfold floorLog2
  simp only [hk, Nat.shiftLeft_eq]
  have hswap : ∀ a b : Nat, a * 2 ^ j * 2 ^ b = a * 2 ^ b * 2 ^ j := fun a b => Nat.mul_right_comm _ _ _
  rw [hswap, hswap]
  simp only [Nat.mul_le_mul_right_iff (Nat.two_pow_pos j)]

/-- A quotient of numbers that have a power of two in common is rounded as the quotient without it. -/
theorem roundQuotient_scale (num den j : Nat) (hd : 0 < den) :
    roundQuotient (num * 2 ^ j) (den * 2 ^ j) = roundQuotient num den := by
  unfold roundQuotient
  by_cases hn : num = 0
  · simp [hn]
  · have hpos : 0 < num := Nat.pos_of_ne_zero hn
    have hn' : num * 2 ^ j ≠ 0 := Nat.ne_of_gt (Nat.mul_pos hpos (Nat.two_pow_pos j))
    have hswap : ∀ a b : Nat, a * 2 ^ j * 2 ^ b = a * 2 ^ b * 2 ^ j := fun a b => Nat.mul_right_comm _ _ _
    rw [if_neg hn, if_neg hn', floorLog2_scale num den j hpos hd]
    simp only [Nat.shiftLeft_eq]
    rw [hswap, hswap, divHalfEven_scale _ _ _ (Nat.two_pow_pos j)]

/-! ## Bits and values -/

theorem magnitude_ofMagnitude (s : Bool) {mag : Nat} (h : mag < signBit) : (ofMagnitude s mag).magnitude = mag := by
  unfold magnitude ofMagnitude
  unfold signBit at h ⊢
  cases s with
  | true => simp only [if_true, UInt64.toNat_ofNat']; omega
  | false => simp only [Bool.false_eq_true, if_false, UInt64.toNat_ofNat']; omega

theorem isNegative_ofMagnitude (s : Bool) {mag : Nat} (h : mag < signBit) : (ofMagnitude s mag).isNegative = s := by
  unfold isNegative ofMagnitude
  unfold signBit at h ⊢
  cases s with
  | true => simp only [if_true, UInt64.toNat_ofNat', decide_eq_true_eq]; omega
  | false => simp only [Bool.false_eq_true, if_false, UInt64.toNat_ofNat', decide_eq_false_iff_not]; omega

/-- Bits below the sign that say `m * 2 ^ k` times the least double. Only in units of one such the mantissa may lack its hidden bit. -/
structure Digits (mag k m : Nat) : Prop where
  bits : mag = k * hiddenBit + m
  below : m < 2 * hiddenBit
  full : 0 < k → hiddenBit ≤ m

variable {a b k l m n num den : Nat} {x y : Binary64}

/-- Few bits are a number in units of the least double. -/
theorem digits_least (h : m < 2 * hiddenBit) : Digits m 0 m where
  bits := by rw [Nat.zero_mul, Nat.zero_add]
  below := h
  full hk := absurd hk (Nat.lt_irrefl 0)

/-- Bits below those of infinity say a finite number. -/
theorem exists_digits (h : a < infinityBits) :
    ∃ k m, Digits a k m ∧ ∀ s, (ofMagnitude s a).value = .finite s m ((k : Int) - 1074) := by
  have hsign : a < signBit := Nat.lt_trans h (by decide)
  have hnumber := Nat.lt_asymm h
  have hfinite := Nat.ne_of_lt h
  have hfraction : a % hiddenBit < hiddenBit := Nat.mod_lt _ (by decide)
  have hdiv := Nat.div_add_mod' a hiddenBit
  by_cases hfield : a / hiddenBit = 0
  · rw [hfield, Nat.zero_mul, Nat.zero_add] at hdiv
    refine ⟨0, a, digits_least (by omega), fun s => ?_⟩
    unfold value
    simp only [magnitude_ofMagnitude s hsign, isNegative_ofMagnitude s hsign, if_neg hnumber, if_neg hfinite, if_pos hfield, hdiv]
    rfl
  · obtain ⟨k, hk⟩ := Nat.exists_eq_succ_of_ne_zero hfield
    refine ⟨k, hiddenBit + a % hiddenBit, ⟨?_, by omega, fun _ => Nat.le_add_right _ _⟩, fun s => ?_⟩
    · rw [hk, Nat.succ_mul] at hdiv
      omega
    · unfold value
      simp only [magnitude_ofMagnitude s hsign, isNegative_ofMagnitude s hsign, if_neg hnumber, if_neg hfinite, if_neg hfield]
      congr 1
      omega

theorem value_infinity (s : Bool) : (ofMagnitude s infinityBits).value = .infinite s := by
  cases s <;> decide

/-- Only zero has no mantissa. -/
theorem Digits.eq_zero (h : Digits a k 0) : a = 0 := by
  rcases Nat.eq_zero_or_pos k with rfl | hk
  · rw [h.bits, Nat.zero_mul]
  · exact absurd (h.full hk) (by decide)

/-- Greater units make a greater number, and greater bits. -/
theorem Digits.lt (ha : Digits a k m) (hb : Digits b l n) (h : k < l) : m * 2 ^ k < n * 2 ^ l ∧ a < b := by
  have hbelow := ha.below
  have hfull := hb.full (by omega)
  constructor
  · calc m * 2 ^ k < 2 * hiddenBit * 2 ^ k := Nat.mul_lt_mul_of_pos_right hbelow (Nat.two_pow_pos k)
      _ = hiddenBit * 2 ^ (k + 1) := by rw [Nat.pow_succ', Nat.mul_left_comm, Nat.mul_assoc]
      _ ≤ n * 2 ^ l := Nat.mul_le_mul hfull (Nat.pow_le_pow_right (by decide) h)
  · have hunits := Nat.mul_le_mul_right hiddenBit h
    rw [Nat.succ_mul] at hunits
    rw [ha.bits, hb.bits]
    omega

/-- Doubles are ordered as their bits are. -/
theorem Digits.le (ha : Digits a k m) (hb : Digits b l n) (h : a ≤ b) : m * 2 ^ k ≤ n * 2 ^ l := by
  rcases Nat.lt_trichotomy k l with hkl | rfl | hlk
  · exact Nat.le_of_lt (ha.lt hb hkl).1
  · rw [ha.bits, hb.bits] at h
    exact Nat.mul_le_mul_right _ (Nat.le_of_add_le_add_left h)
  · exact absurd h (Nat.not_le.2 (hb.lt ha hlk).2)

/-- Bits say one mantissa only. -/
theorem Digits.unique (h : Digits a k m) (h' : Digits a l n) : k = l ∧ m = n := by
  rcases Nat.lt_trichotomy k l with hlt | rfl | hlt
  · exact absurd (h.lt h' hlt).2 (Nat.lt_irrefl a)
  · exact ⟨rfl, Nat.add_left_cancel (h.bits.symm.trans h'.bits)⟩
  · exact absurd (h'.lt h hlt).2 (Nat.lt_irrefl a)

/-- The value of bits that say a finite number. -/
theorem Digits.value (h : Digits a k m) (ha : a < infinityBits) (s : Bool) :
    (ofMagnitude s a).value = .finite s m ((k : Int) - 1074) := by
  obtain ⟨l, n, h', hvalue⟩ := exists_digits ha
  obtain ⟨rfl, rfl⟩ := h.unique h'
  exact hvalue s

/-! ## Rounding goes past no double -/

theorem roundQuotient_le (num den : Nat) : roundQuotient num den ≤ infinityBits := by
  unfold roundQuotient
  split
  · exact Nat.zero_le _
  · exact Nat.min_le_left _ _

/-- Two numbers compare in all units as they do in one. -/
theorem scale_le {u v p q i j : Nat} (h : u * 2 ^ p ≤ v * 2 ^ q) (hunits : i + q ≤ j + p) : u * 2 ^ i ≤ v * 2 ^ j := by
  refine Nat.le_of_mul_le_mul_right ?_ (Nat.two_pow_pos (p + q))
  calc u * 2 ^ i * 2 ^ (p + q) = u * 2 ^ p * 2 ^ (i + q) := by rw [pow_add, pow_add]; ac_rfl
    _ ≤ v * 2 ^ q * 2 ^ (j + p) := Nat.mul_le_mul h (Nat.pow_le_pow_right (by decide) hunits)
    _ = v * 2 ^ j * 2 ^ (p + q) := by rw [pow_add, pow_add]; ac_rfl

theorem scale_lt {u v p q i j : Nat} (h : u * 2 ^ p < v * 2 ^ q) (hunits : i + q ≤ j + p) : u * 2 ^ i < v * 2 ^ j :=
  Nat.not_le.1 fun hle => Nat.not_le.2 h (scale_le hle (by omega))

/-- A quotient lies below each power of two above `floorLog2`. -/
theorem lt_of_floorLog2_lt (hden : 0 < den) {i j : Nat} (h : floorLog2 num den < (j : Int) - i) :
    num * 2 ^ i < den * 2 ^ j := by
  unfold floorLog2 at h
  simp only [Nat.shiftLeft_eq] at h
  split at h
  · have hlogs : num * 2 ^ den.log2 < den * 2 ^ (num.log2 + 1) := by
      rw [Nat.mul_comm den]
      exact Nat.mul_lt_mul_of_lt_of_le Nat.lt_log2_self (Nat.log2_self_le (Nat.ne_of_gt hden)) hden
    exact scale_lt hlogs (by omega)
  · next hlt => exact scale_lt (Nat.not_le.1 hlt) (by omega)

/-- A quotient lies above each power of two up to `floorLog2`. -/
theorem le_of_le_floorLog2 (hnum : 0 < num) {i j : Nat} (h : (j : Int) - i ≤ floorLog2 num den) :
    den * 2 ^ j ≤ num * 2 ^ i := by
  unfold floorLog2 at h
  simp only [Nat.shiftLeft_eq] at h
  split at h
  · next hle => exact scale_le hle (by omega)
  · have hlogs : den * 2 ^ num.log2 ≤ num * 2 ^ (den.log2 + 1) := by
      rw [Nat.mul_comm num]
      exact Nat.mul_le_mul (Nat.le_of_lt Nat.lt_log2_self) (Nat.log2_self_le (Nat.ne_of_gt hnum))
    exact scale_le hlogs (by omega)

/-- How many binary places the least double has. -/
def places : Nat := 1074

/-- A quotient is rounded in units in which it has fifty-three digits, or in the least units. -/
theorem exists_units (hnum : 0 < num) (hden : 0 < den) :
    ∃ u, roundQuotient num den = min infinityBits (u * hiddenBit + divHalfEven (num * 2 ^ places) (den * 2 ^ u)) ∧
      num * 2 ^ places < den * 2 ^ (u + 53) ∧ (0 < u → den * 2 ^ (u + 52) ≤ num * 2 ^ places) := by
  have hplaces : places = 1074 := rfl
  unfold roundQuotient
  rw [if_neg (Nat.ne_of_gt hnum)]
  obtain ⟨e, he⟩ : ∃ e, e = max (floorLog2 num den - 52) (-1074) := ⟨_, rfl⟩
  simp only [← he, Nat.shiftLeft_eq]
  refine ⟨(e + 1074).toNat, ?_, lt_of_floorLog2_lt hden (by omega), fun hu => le_of_le_floorLog2 hnum (by omega)⟩
  -- The units are those of `e`, made smaller so that they are whole ones of the least double.
  rw [← divHalfEven_scale (num * 2 ^ (-e).toNat) (den * 2 ^ e.toNat) (2 ^ (places - (-e).toNat)) (Nat.two_pow_pos _), Nat.mul_assoc,
    Nat.mul_assoc, ← Nat.pow_add, ← Nat.pow_add, show (-e).toNat + (places - (-e).toNat) = places by omega,
    show e.toNat + (places - (-e).toNat) = (e + 1074).toNat by omega]

theorem le_divHalfEven (h : n * den ≤ num) (hden : 0 < den) : n ≤ divHalfEven num den := by
  have hquotient := (Nat.le_div_iff_mul_le hden).2 h
  unfold divHalfEven
  dsimp only
  split
  · exact hquotient
  · split
    · exact Nat.le_succ_of_le hquotient
    · split
      · exact hquotient
      · exact Nat.le_succ_of_le hquotient

theorem divHalfEven_le (h : num ≤ n * den) : divHalfEven num den ≤ n := by
  have hquotient : num / den ≤ n := Nat.div_le_of_le_mul (Nat.mul_comm n den ▸ h)
  -- A quotient of `n` leaves no remainder, so it is not rounded up.
  have hup : den ≤ 2 * (num % den) → 0 < den → num / den + 1 ≤ n := by
    intro hhalf hpos
    refine Nat.lt_of_le_of_ne hquotient fun heq => ?_
    have hdiv := Nat.div_add_mod' num den
    rw [heq] at hdiv
    omega
  rcases Nat.eq_zero_or_pos den with rfl | hpos
  · rw [Nat.mul_zero] at h
    rw [Nat.le_zero.1 h]
    exact Nat.zero_le n
  · unfold divHalfEven
    dsimp only
    split
    · exact hquotient
    · split
      · exact hup (by omega) hpos
      · split
        · exact hquotient
        · exact hup (by omega) hpos

theorem hiddenBit_mul (k : Nat) : hiddenBit * 2 ^ k = 2 ^ (k + 52) := by
  rw [Nat.pow_add, Nat.mul_comm]
  rfl

/-- What lies above a double is not rounded to less. -/
theorem le_roundQuotient (h : Digits a k m) (ha : a ≤ infinityBits) (hden : 0 < den) (hle : m * (den * 2 ^ k) ≤ num * 2 ^ places) :
    a ≤ roundQuotient num den := by
  have hbelow := h.below
  rcases Nat.eq_zero_or_pos num with rfl | hnum
  · -- Only zero lies below zero.
    rw [Nat.zero_mul, Nat.le_zero, Nat.mul_eq_zero] at hle
    obtain rfl := hle.resolve_right (Nat.ne_of_gt (Nat.mul_pos hden (Nat.two_pow_pos k)))
    rw [h.eq_zero]
    exact Nat.zero_le _
  · obtain ⟨u, hround, hupper, hlower⟩ := exists_units hnum hden
    have hpos : 0 < den * 2 ^ u := Nat.mul_pos hden (Nat.two_pow_pos u)
    rw [hround]
    refine Nat.le_min.2 ⟨ha, ?_⟩
    rw [h.bits]
    rcases Nat.lt_trichotomy u k with hlt | rfl | hlt
    · have hfull := h.full (Nat.zero_lt_of_lt hlt)
      have hreach : den * 2 ^ (u + 53) ≤ m * (den * 2 ^ k) := by
        rw [Nat.mul_left_comm]
        refine Nat.mul_le_mul_left den ?_
        calc 2 ^ (u + 53) ≤ 2 ^ (k + 52) := Nat.pow_le_pow_right (by decide) (by omega)
          _ = hiddenBit * 2 ^ k := (hiddenBit_mul k).symm
          _ ≤ m * 2 ^ k := Nat.mul_le_mul_right _ hfull
      exact absurd (Nat.le_trans hreach hle) (Nat.not_le.2 hupper)
    · exact Nat.add_le_add_left (le_divHalfEven hle hpos) _
    · have hdigits : hiddenBit ≤ divHalfEven (num * 2 ^ places) (den * 2 ^ u) := by
        refine le_divHalfEven ?_ hpos
        rw [Nat.mul_left_comm, hiddenBit_mul]
        exact hlower (Nat.zero_lt_of_lt hlt)
      have hunits := Nat.mul_le_mul_right hiddenBit hlt
      rw [Nat.succ_mul] at hunits
      omega

/-- What lies below a double is not rounded to more. -/
theorem roundQuotient_le_of_le (h : Digits a k m) (hden : 0 < den) (hle : num * 2 ^ places ≤ m * (den * 2 ^ k)) :
    roundQuotient num den ≤ a := by
  have hbelow := h.below
  rcases Nat.eq_zero_or_pos num with rfl | hnum
  · rw [roundQuotient, if_pos rfl]
    exact Nat.zero_le a
  · obtain ⟨u, hround, hupper, hlower⟩ := exists_units hnum hden
    rw [hround, h.bits]
    refine Nat.le_trans (Nat.min_le_right _ _) ?_
    rcases Nat.lt_trichotomy u k with hlt | rfl | hlt
    · have hfull := h.full (Nat.zero_lt_of_lt hlt)
      have hdigits : divHalfEven (num * 2 ^ places) (den * 2 ^ u) ≤ 2 * hiddenBit := by
        refine divHalfEven_le (Nat.le_of_lt ?_)
        calc num * 2 ^ places < den * 2 ^ (u + 53) := hupper
          _ = 2 * hiddenBit * (den * 2 ^ u) := by rw [Nat.mul_left_comm, Nat.mul_assoc, hiddenBit_mul, ← Nat.pow_succ']
      have hunits := Nat.mul_le_mul_right hiddenBit hlt
      rw [Nat.succ_mul] at hunits
      omega
    · exact Nat.add_le_add_left (divHalfEven_le hle) _
    · have hreach : m * (den * 2 ^ k) < den * 2 ^ (u + 52) := by
        rw [Nat.mul_left_comm]
        refine Nat.mul_lt_mul_of_pos_left ?_ hden
        calc m * 2 ^ k < 2 * hiddenBit * 2 ^ k := Nat.mul_lt_mul_of_pos_right hbelow (Nat.two_pow_pos k)
          _ = 2 ^ (k + 53) := by rw [Nat.mul_assoc, hiddenBit_mul, ← Nat.pow_succ']
          _ ≤ 2 ^ (u + 52) := Nat.pow_le_pow_right (by decide) (by omega)
      exact absurd (Nat.le_trans (hlower (Nat.zero_lt_of_lt hlt)) hle) (Nat.not_le.2 hreach)

/-- A quotient that is a double is rounded to itself. -/
theorem roundQuotient_of_exact (h : Digits a k m) (ha : a ≤ infinityBits) (hden : 0 < den)
    (hexact : m * (den * 2 ^ k) = num * 2 ^ places) : roundQuotient num den = a :=
  Nat.le_antisymm (roundQuotient_le_of_le h hden (Nat.le_of_eq hexact.symm)) (le_roundQuotient h ha hden (Nat.le_of_eq hexact))

/-! ## Numbers in units of the least double -/

/-- A whole number with a sign. -/
def signed (s : Bool) (n : Nat) : Int := if s then -(n : Int) else n

/-- A finite number in units that are not its own. -/
theorem scaled_units (s : Bool) {j : Nat} (h : j ≤ k) :
    scaled s m ((k : Int) - 1074) ((j : Int) - 1074) = signed s (m * 2 ^ (k - j)) := by
  unfold scaled signed
  rw [Nat.shiftLeft_eq, show ((k : Int) - 1074 - ((j : Int) - 1074)).toNat = k - j by omega]

theorem min_units (k l : Nat) : min ((k : Int) - 1074) ((l : Int) - 1074) = ((min k l : Nat) : Int) - 1074 := by
  omega

theorem units_whole {j : Nat} (h : j ≤ k) : m * 2 ^ (k - j) * 2 ^ j = m * 2 ^ k := by
  rw [Nat.mul_assoc, ← Nat.pow_add, Nat.sub_add_cancel h]

/-- A number of units is rounded as the quotient that it is. -/
theorem ofScaled_natCast (n j : Nat) :
    ofScaled n ((j : Int) - 1074) false = ofQuotient false (n * 2 ^ (j - places)) (2 ^ (places - j)) := by
  have hplaces : places = 1074 := rfl
  have hsign : decide ((n : Int) < 0) = false := by
    rw [decide_eq_false_iff_not]
    omega
  unfold ofScaled
  rw [hsign, Int.natAbs_natCast, Nat.shiftLeft_eq, Nat.shiftLeft_eq, Nat.one_mul, show ((j : Int) - 1074).toNat = j - places by omega,
    show (-((j : Int) - 1074)).toNat = places - j by omega]
  by_cases hn : n = 0
  · rw [if_pos (Int.ofNat_eq_zero.2 hn), hn, Nat.zero_mul, ofQuotient, roundQuotient, if_pos rfl]
  · rw [if_neg (mt Int.ofNat_eq_zero.1 hn)]

/-- Numbers that are not negative are added in the smaller of their units. -/
theorem add_digits (hx : x.value = .finite false m ((k : Int) - 1074)) (hy : y.value = .finite false n ((l : Int) - 1074)) :
    x.add y = ofScaled ((m * 2 ^ (k - min k l) + n * 2 ^ (l - min k l) : Nat) : Int) (((min k l : Nat) : Int) - 1074) false := by
  unfold add
  rw [hx, hy]
  simp only [min_units, Bool.and_false]
  rw [scaled_units false (Nat.min_le_left k l), scaled_units false (Nat.min_le_right k l)]
  rfl

end Intake.Binary64
