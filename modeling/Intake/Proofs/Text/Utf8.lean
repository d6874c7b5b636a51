import Intake.Text.Utf8

/-!
# UTF-8: texts and their bytes

A text is read back from its bytes, so two texts with the same bytes are one. The order by bytes is therefore a strict linear
order of texts: of two different texts exactly one stands before the other.
-/

namespace Intake.Utf8

theorem decode?_bytes (s : String) : decode? (bytes s) = some s := by
  unfold decode? bytes String.fromUTF8?
  exact dif_pos s.isValidUTF8

/-- Only the bytes of a text are read as that text. -/
theorem decode?_eq_some {bs : List UInt8} {s : String} : decode? bs = some s ↔ bs = bytes s := by
  constructor
  · intro h
    unfold decode? String.fromUTF8? at h
    split at h
    · cases h
      rfl
    · cases h
  · rintro rfl
    exact decode?_bytes s

theorem bytes_injective {a b : String} (h : bytes a = bytes b) : a = b := by
  have hdecode := decode?_bytes a
  rw [h, decode?_bytes b] at hdecode
  exact (Option.some.inj hdecode).symm

/-! ## The order by bytes -/

variable {a b c : String}

theorem before_irrefl (a : String) : before a a = false := by
  unfold before
  rw [decide_eq_false_iff_not]
  exact List.lt_irrefl (bytes a)

theorem before_trans (hab : before a b = true) (hbc : before b c = true) : before a c = true := by
  unfold before at *
  rw [decide_eq_true_eq] at *
  exact List.lt_trans hab hbc

/-- Texts of which neither stands before the other are the same. -/
theorem eq_of_not_before (hab : before a b = false) (hba : before b a = false) : a = b := by
  unfold before at *
  rw [decide_eq_false_iff_not, List.not_lt] at *
  exact bytes_injective (List.le_antisymm hba hab)

theorem atMost_total (a b : String) : (atMost a b || atMost b a) = true := by
  unfold atMost
  cases hba : before b a with
  | false => rfl
  | true =>
    cases hab : before a b with
    | false => rfl
    | true => exact absurd (before_trans hab hba) (by rw [before_irrefl]; decide)

theorem atMost_trans (hab : atMost a b = true) (hbc : atMost b c = true) : atMost a c = true := by
  unfold atMost before at *
  simp only [Bool.not_eq_true', decide_eq_false_iff_not, List.not_lt] at *
  exact List.le_trans hab hbc

/-- A text that is at most another one stands before it or is it. -/
theorem before_of_atMost (hab : atMost a b = true) (hne : a ≠ b) : before a b = true := by
  unfold atMost at hab
  rw [Bool.not_eq_true'] at hab
  cases h : before a b with
  | true => rfl
  | false => exact absurd (eq_of_not_before h hab) hne

end Intake.Utf8
