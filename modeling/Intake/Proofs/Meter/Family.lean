import Intake.Meter.Basic

/-!
# Family: the children of a family of meters

A child is found under its label value. Changing one child leaves the others as they are, and a child that is only touched keeps
what it has counted.
-/

namespace Intake

namespace Family

variable {α : Type}

/-- The child that is changed; a new one is made first. -/
theorem lookup_update (init : α) (label : String) (f : α → α) (m : Family α) :
    (m.update init label f).lookup label = some (f ((m.lookup label).getD init)) := by
  induction m with
  | nil => simp [update]
  | cons child rest ih =>
    obtain ⟨k, a⟩ := child
    unfold update
    by_cases hk : k = label
    · simp [hk]
    · have hne : (label == k) = false := by simpa using Ne.symm hk
      simp [hk, List.lookup_cons, hne, ih]

/-- The other children stay as they are. -/
theorem lookup_update_of_ne {label other : String} (h : other ≠ label) (init : α) (f : α → α) (m : Family α) :
    (m.update init label f).lookup other = m.lookup other := by
  induction m with
  | nil => simp [update, h]
  | cons child rest ih =>
    obtain ⟨k, a⟩ := child
    unfold update
    by_cases hk : k = label
    · have hother : (other == k) = false := by simpa [hk] using h
      simp [hk, List.lookup_cons, hk ▸ hother]
    · cases hother : other == k <;> simp [hk, List.lookup_cons, hother, ih]

/-- A child that is only touched counts what it counted before. -/
theorem lookup_touch (init : α) (label : String) (m : Family α) :
    ((m.touch init label).lookup label).getD init = (m.lookup label).getD init := by
  rw [touch, lookup_update]
  rfl

end Family

end Intake
