import Intake.Proofs.Settings.Fields

/-!
# Environment: which variables count, and what they set

A variable counts if it is not empty and its name begins with `adapter__`, in small letters or in capitals
(`mem_environmentEntries`). What stands behind that in its name is the key that it sets, with a point for every two underscores. So a
variable that names a section and a field sets that field (`variableKey?_section`).
-/

namespace Intake

/-- The variable of a setting, in small letters. -/
def Setting.variableName (f : Setting) : String := "adapter__" ++ f.path.1 ++ "__" ++ f.path.2

namespace Layers

variable {s : Surroundings} {name key : String} {n : Node}

/-- What stands before the first underscore stays as it is. -/
theorem dotted_append {front : List Char} (h : '_' ∉ front) (rest : List Char) : dotted (front ++ rest) = front ++ dotted rest := by
  induction front with
  | nil => rfl
  | cons c cs ih =>
    rw [List.mem_cons, not_or] at h
    rw [List.cons_append, dotted, ih h.2, List.cons_append]
    intro r hc
    exact absurd hc.symm h.1

/-- Single underscores stay as they are. -/
theorem dotted_of_single {cs : List Char} (h : ¬"__".toList <:+: cs) : dotted cs = cs := by
  induction cs using dotted.induct with
  | case1 r _ => exact absurd (List.prefix_append "__".toList r).isInfix h
  | case2 c r hne ih =>
    rw [dotted, ih fun hr => h (hr.trans (List.suffix_cons c r).isInfix)]
    exact hne
  | case3 => rfl

/-- The variables that set a key are those whose names begin like `adapter__`. -/
theorem variableKey?_eq_some : variableKey? name = some key ↔
    ∃ rest, (lowerText name).toList = variableStart ++ rest ∧ key = String.ofList (dotted rest) := by
  unfold variableKey?
  dsimp only
  split
  · next hstart =>
    obtain ⟨rest, hrest⟩ := List.isPrefixOf_iff_prefix.1 hstart
    rw [← hrest, List.drop_left, Option.some.injEq]
    constructor
    · rintro rfl
      exact ⟨rest, rfl, rfl⟩
    · rintro ⟨rest', heq, rfl⟩
      rw [List.append_cancel_left heq]
  · next hstart =>
    constructor
    · intro h
      cases h
    · rintro ⟨rest, heq, -⟩
      exact absurd (List.isPrefixOf_iff_prefix.2 ⟨rest, heq.symm⟩) hstart

/-- The environment sets a key to a value if a variable does that counts: one that is not empty and begins like `adapter__`, whatever its
letter case. -/
theorem mem_environmentEntries : (key, n) ∈ environmentEntries s ↔
    ∃ name value rest, (name, value) ∈ s.environment ∧ value ≠ "" ∧ (lowerText name).toList = "adapter__".toList ++ rest ∧
      key = String.ofList (dotted rest) ∧ n = .scalar (some environmentOrigin) (variableValue value) := by
  rw [environmentEntries, List.mem_filterMap]
  constructor
  · rintro ⟨⟨name, value⟩, hmem, hentry⟩
    dsimp only at hentry
    by_cases hvalue : value = ""
    · simp [hvalue] at hentry
    · rw [if_neg hvalue, Option.map_eq_some_iff] at hentry
      obtain ⟨key', hkey, heq⟩ := hentry
      cases heq
      obtain ⟨rest, hname, hkey⟩ := variableKey?_eq_some.1 hkey
      exact ⟨name, value, rest, hmem, hvalue, hname, hkey, rfl⟩
  · rintro ⟨name, value, rest, hmem, hvalue, hname, hkey, rfl⟩
    refine ⟨(name, value), hmem, ?_⟩
    dsimp only
    rw [if_neg hvalue, variableKey?_eq_some.2 ⟨rest, hname, hkey⟩]
    rfl

/-- A variable that names a section and a field sets the field. -/
theorem variableKey?_section {part field : String} (hname : lowerText name = "adapter__" ++ part ++ "__" ++ field)
    (hpart : '_' ∉ part.toList) (hfield : ¬"__".toList <:+: field.toList) : variableKey? name = some (part ++ "." ++ field) := by
  have hrest : dotted ("__".toList ++ field.toList) = '.' :: field.toList := by
    have hseparator : "__".toList = ['_', '_'] := rfl
    rw [hseparator, List.cons_append, List.cons_append, List.nil_append, dotted, dotted_of_single hfield]
  have hkey : part ++ "." ++ field = String.ofList (dotted (part.toList ++ ("__".toList ++ field.toList))) := by
    rw [dotted_append hpart, hrest, ← String.toList_inj, String.toList_ofList, String.toList_append, String.toList_append,
      List.append_assoc]
    rfl
  have hstart : (lowerText name).toList = variableStart ++ (part.toList ++ ("__".toList ++ field.toList)) := by
    rw [hname, String.toList_append, String.toList_append, String.toList_append, List.append_assoc, List.append_assoc]
    rfl
  exact variableKey?_eq_some.2 ⟨_, hstart, hkey⟩

/-- So a variable sets the setting that it names. -/
theorem key_of_variableName {f : Setting} (hf : f ∈ Setting.all) (hname : lowerText name = f.variableName) :
    variableKey? name = some f.key := by
  have hnames : ∀ f ∈ Setting.all, '_' ∉ f.path.1.toList ∧ ¬"__".toList <:+: f.path.2.toList := by decide +kernel
  obtain ⟨hpart, hfield⟩ := hnames f hf
  exact variableKey?_section hname hpart hfield

end Layers

end Intake
