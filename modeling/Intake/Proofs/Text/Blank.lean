import Mathlib.Data.List.TakeWhile
import Intake.Text.Blank

/-!
# Blanks: what is left between the blanks at both ends

A list that is trimmed is its word with blanks before and behind it (`trimEnds_eq_iff`).
-/

namespace Intake

variable {p : Char → Bool} {cs word : List Char}

/-- What was taken off the ends was accepted. -/
theorem trimEnds_spec (p : Char → Bool) (cs : List Char) :
    ∃ lead trail, cs = lead ++ trimEnds p cs ++ trail ∧ (∀ c ∈ lead, p c = true) ∧ ∀ c ∈ trail, p c = true := by
  refine ⟨cs.takeWhile p, ((cs.dropWhile p).reverse.takeWhile p).reverse, ?_, fun c hc => List.mem_takeWhile_imp hc, fun c hc => ?_⟩
  · rw [trimEnds, List.append_assoc, ← List.reverse_append, List.takeWhile_append_dropWhile, List.reverse_reverse,
      List.takeWhile_append_dropWhile]
  · exact List.mem_takeWhile_imp (List.mem_reverse.1 hc)

/-- A word without blanks is left of a list exactly if there are only blanks before and behind it. -/
theorem trimEnds_eq_iff (hne : word ≠ []) (hword : ∀ c ∈ word, p c = false) :
    trimEnds p cs = word ↔ ∃ lead trail, cs = lead ++ word ++ trail ∧ (∀ c ∈ lead, p c = true) ∧ ∀ c ∈ trail, p c = true := by
  constructor
  · rintro rfl
    exact trimEnds_spec p cs
  · rintro ⟨lead, trail, rfl, hlead, htrail⟩
    have hself : ∀ w : List Char, w ≠ [] → (∀ c ∈ w, p c = false) → ∀ rest, (w ++ rest).dropWhile p = w ++ rest := by
      intro w hw hp rest
      obtain ⟨c, w, rfl⟩ := List.exists_cons_of_ne_nil hw
      exact List.dropWhile_cons_of_neg (by simp [hp c List.mem_cons_self])
    rw [trimEnds, List.append_assoc, List.dropWhile_append_of_pos hlead, hself word hne hword, List.reverse_append,
      List.dropWhile_append_of_pos (by simpa using htrail)]
    have hreverse := hself word.reverse (by simpa using hne) (by simpa using hword) []
    rw [List.append_nil] at hreverse
    rw [hreverse, List.reverse_reverse]

end Intake
