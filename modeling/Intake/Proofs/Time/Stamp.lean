import Intake.Proofs.Time.Calendar

/-!
# Stamp: the text of an instant is read back

A number that was written with leading zeros is read back from its digits, whatever follows them (`readDigits?_padded`), and so is
a year with or without a sign (`readYear?_yearText`). Date and time of day are put together from these, and the fraction stands
behind them.
-/

namespace Intake

namespace Calendar

/-! ## Numbers -/

/-- The characters are all digits. -/
def Digits (cs : List Char) : Prop := ∀ c ∈ cs, c.isDigit = true

theorem digits_padded (width n : Nat) : Digits (padded width n) := by
  intro c hc
  rcases List.mem_append.1 hc with hzero | hdigit
  · rw [(List.mem_replicate.1 hzero).2]
    rfl
  · exact Nat.isDigit_of_mem_toDigits (by decide) (by decide) hdigit

theorem le_length_padded (width n : Nat) : width ≤ (padded width n).length := by
  unfold padded
  rw [List.length_append, List.length_replicate]
  omega

theorem length_padded {width n : Nat} (hwidth : 0 < width) (h : n < Nat.pow 10 width) : (padded width n).length = width := by
  have hlength := (Nat.length_toDigits_le_iff (by decide) hwidth).2 h
  unfold padded
  rw [List.length_append, List.length_replicate]
  omega

/-- Leading zeros do not count. -/
theorem ofDigitChars_padded (width n : Nat) : Nat.ofDigitChars 10 (padded width n) 0 = n := by
  have hzeros : ∀ k, Nat.ofDigitChars 10 (List.replicate k '0') 0 = 0 := by
    intro k
    induction k with
    | zero => rfl
    | succ k ih =>
      rw [List.replicate_succ, Nat.ofDigitChars_cons]
      exact ih
  unfold padded
  rw [Nat.ofDigitChars_append, hzeros, Nat.ofDigitChars_toDigits (by decide) (by decide)]

/-- A run of digits is read as the number it writes. -/
theorem readDigits?_digits {cs : List Char} (h : Digits cs) (n : Nat) (rest : List Char) :
    readDigits? cs.length n (cs ++ rest) = some (Nat.ofDigitChars 10 cs n, rest) := by
  induction cs generalizing n with
  | nil => rfl
  | cons c cs ih =>
    obtain ⟨hc, hcs⟩ := List.forall_mem_cons.1 h
    rw [List.length_cons, List.cons_append, readDigits?, if_pos hc, ih hcs, Nat.ofDigitChars_cons]

/-- A number is read back from its digits, of which some may be leading zeros. -/
theorem readDigits?_padded {width n : Nat} (hwidth : 0 < width) (h : n < Nat.pow 10 width) (rest : List Char) :
    readDigits? width 0 (padded width n ++ rest) = some (n, rest) := by
  have hread := readDigits?_digits (digits_padded width n) 0 rest
  rw [length_padded hwidth h, ofDigitChars_padded] at hread
  exact hread

theorem readPart?_padded (mark : Char) {n : Nat} (h : n < 100) (rest : List Char) :
    readPart? mark (mark :: (padded 2 n ++ rest)) = some (n, rest) := by
  rw [readPart?, if_pos rfl]
  exact readDigits?_padded (by decide) h rest

/-! ## Years -/

theorem takeWhile_digits {cs : List Char} (h : Digits cs) {c : Char} (hc : c.isDigit = false) (rest : List Char) :
    (cs ++ c :: rest).takeWhile Char.isDigit = cs := by
  rw [List.takeWhile_append_of_pos h, List.takeWhile_cons_of_neg (by rw [hc]; decide), List.append_nil]

/-- A year that begins with a digit has four of them. -/
theorem readYear?_of_digit {c : Char} (h : c.isDigit = true) (rest : List Char) :
    readYear? (c :: rest) = (readDigits? 4 0 (c :: rest)).map fun p => ((p.1 : Int), p.2) := by
  have hminus : c ≠ '-' := fun hc => absurd (hc ▸ h) (by decide)
  have hplus : c ≠ '+' := fun hc => absurd (hc ▸ h) (by decide)
  unfold readYear?
  split
  · next hcs => exact absurd (List.cons.inj hcs).1 hminus
  · next hcs => exact absurd (List.cons.inj hcs).1 hplus
  · rfl

/-- A year is read back as far as its digits go. -/
theorem readYear?_yearText (year : Int) {c : Char} (hc : c.isDigit = false) (rest : List Char) :
    readYear? (yearText year ++ c :: rest) = some (year, c :: rest) := by
  unfold yearText
  split
  · next hfour =>
    obtain ⟨first, more, hfirst⟩ := List.exists_cons_of_length_pos (Nat.lt_of_lt_of_le (by decide) (le_length_padded 4 year.toNat))
    have hdigit : first.isDigit = true := digits_padded 4 year.toNat first (hfirst ▸ List.mem_cons_self)
    have hread := readDigits?_padded (n := year.toNat) (by decide : 0 < 4) (show year.toNat < 10000 by omega) (c :: rest)
    rw [hfirst, List.cons_append] at hread ⊢
    rw [readYear?_of_digit hdigit, hread, Option.map_some, Int.toNat_of_nonneg hfour.1]
  · next hsigned =>
    have hdigits := takeWhile_digits (digits_padded 4 year.natAbs) hc rest
    have hread := readDigits?_digits (digits_padded 4 year.natAbs) 0 (c :: rest)
    have hlength : ¬ (padded 4 year.natAbs).length < 4 := Nat.not_lt.2 (le_length_padded 4 _)
    rw [ofDigitChars_padded] at hread
    by_cases hneg : year < 0
    · have habs : -(year.natAbs : Int) = year := by omega
      rw [if_pos hneg, List.cons_append, readYear?]
      simp only [hdigits, if_neg hlength, hread, Option.map_some, habs]
    · have habs : (year.natAbs : Int) = year := by omega
      rw [if_neg hneg, List.cons_append, readYear?]
      simp only [hdigits, if_neg hlength, hread, Option.map_some, habs]

/-! ## Instants -/

/-- The fraction of a second: none, or a point and three digits. -/
inductive Fraction : Nat → List Char → Prop where
  | none : Fraction 0 []
  | millis {n : Nat} : n < 1000 → Fraction n ('.' :: padded 3 n)

theorem readMillis?_fraction {millis : Nat} {cs : List Char} (h : Fraction millis cs) : readMillis? (cs ++ ['Z']) = some (millis, ['Z']) := by
  cases h with
  | none => rfl
  | millis hn => exact readDigits?_padded (by decide) hn ['Z']

theorem monthDays_le (year : Int) (month : Nat) : monthDays year month ≤ 31 := by
  unfold monthDays
  repeat' split
  all_goals decide

/-- A number of seconds is read back from its text, with the fraction behind it. -/
theorem readChars?_secondText (seconds : Int) {millis : Nat} {fraction : List Char} (h : Fraction millis fraction) :
    readChars? (secondText seconds ++ (fraction ++ ['Z'])) = some (1000 * seconds + millis) := by
  obtain ⟨hvalid, hcount⟩ := daysOfDate_dateOfDays (seconds.fdiv 86400)
  obtain ⟨inDay, hinDay⟩ : ∃ inDay, inDay = (seconds.fmod 86400).toNat := ⟨_, rfl⟩
  have hmonth := Nat.lt_of_le_of_lt hvalid.month_le (by decide : 12 < 100)
  have hday := Nat.lt_of_le_of_lt (Nat.le_trans hvalid.day_le (monthDays_le _ _)) (by decide : 31 < 100)
  have hseconds : seconds.fdiv 86400 * 86400 + inDay = seconds ∧ inDay < 86400 := by
    rw [Int.fdiv_eq_ediv_of_nonneg _ (by decide), hinDay, Int.fmod_eq_emod_of_nonneg _ (by decide)]
    omega
  have hdash : Char.isDigit '-' = false := rfl
  unfold secondText dateText
  dsimp only
  rw [← hinDay]
  simp only [List.append_assoc, List.cons_append]
  unfold readChars?
  simp only [readYear?_yearText _ hdash, readPart?_padded '-' hmonth, readPart?_padded '-' hday,
    readPart?_padded 'T' (show inDay / 3600 < 100 by omega), readPart?_padded ':' (show inDay / 60 % 60 < 100 by omega),
    readPart?_padded ':' (show inDay % 60 < 100 by omega), readMillis?_fraction h, Option.bind_eq_bind, Option.bind_some]
  rw [if_pos ⟨trivial, hvalid.month_pos, hvalid.month_le, hvalid.day_pos, hvalid.day_le, by omega, by omega, by omega⟩, hcount]
  unfold dayMillis
  congr 1
  omega

/-- An instant is read back from its text. -/
theorem read?_stampMillis (ms : Int) : read? (stampMillis ms) = some ms := by
  have hmillis : (ms.fmod 1000).toNat < 1000 ∧ 1000 * ms.fdiv 1000 + (ms.fmod 1000).toNat = ms := by
    rw [Int.fdiv_eq_ediv_of_nonneg _ (by decide), Int.fmod_eq_emod_of_nonneg _ (by decide)]
    omega
  have hread := readChars?_secondText (ms.fdiv 1000) (.millis hmillis.1)
  rw [hmillis.2] at hread
  unfold read? stampMillis
  rw [String.toList_ofList, List.append_assoc]
  exact hread

/-- The text without a fraction is read as the greatest whole second that is not after the instant. -/
theorem read?_stampSeconds (ms : Int) :
    ∃ second, read? (stampSeconds ms) = some (1000 * second) ∧ 1000 * second ≤ ms ∧ ms < 1000 * (second + 1) := by
  have hread := readChars?_secondText (ms.fdiv 1000) .none
  rw [List.nil_append, Int.natCast_zero, Int.add_zero] at hread
  refine ⟨ms.fdiv 1000, ?_, ?_, ?_⟩
  · unfold read? stampSeconds
    rw [String.toList_ofList]
    exact hread
  · rw [Int.fdiv_eq_ediv_of_nonneg _ (by decide)]
    omega
  · rw [Int.fdiv_eq_ediv_of_nonneg _ (by decide)]
    omega

end Calendar

end Intake
