import Intake.Postgres.Statements
import Mathlib.Data.List.Basic

/-!
# Statements: told apart by how they begin

Whatever the table prefix is, no two statements of a batch are the same, and none of them handles a transaction. All of this can be
seen from how they begin.
-/

namespace Intake

/-- A text that begins with another one begins with its first character. -/
theorem head?_append {a : String} {c : Char} (b : String) (h : a.toList.head? = some c) : (a ++ b).toList.head? = some c := by
  rw [String.toList_append, List.head?_append, h]
  rfl

namespace Statements

variable {table sql : String}

theorem head?_createStaging (table : String) : (ofTable table).createStaging.toList.head? = some 'c' :=
  head?_append _ (head?_append _ rfl)

theorem head?_copyStaging (table : String) : (ofTable table).copyStaging.toList.head? = some 'c' :=
  head?_append _ (head?_append _ rfl)

theorem head?_insertLabels (table : String) : (ofTable table).insertLabels.toList.head? = some 'i' :=
  head?_append _ (head?_append _ (head?_append _ (head?_append _ rfl)))

theorem head?_insertValues (table : String) : (ofTable table).insertValues.toList.head? = some 'i' :=
  head?_append _ (head?_append _ (head?_append _ (head?_append _ (head?_append _ (head?_append _ rfl)))))

theorem head?_dropStaging (table : String) : (ofTable table).dropStaging.toList.head? = some 'd' := head?_append _ rfl

theorem head?_of_mem_all (h : sql ∈ (ofTable table).all) : sql.toList.head? ∈ [some 'c', some 'i', some 'd'] := by
  simp only [all, List.mem_cons, List.not_mem_nil, or_false] at h
  rcases h with rfl | rfl | rfl | rfl | rfl
  · rw [head?_createStaging]; decide
  · rw [head?_copyStaging]; decide
  · rw [head?_insertLabels]; decide
  · rw [head?_insertValues]; decide
  · rw [head?_dropStaging]; decide

/-- The words that handle a transaction begin otherwise. -/
theorem head?_word {word : String} (hword : word ∈ ["BEGIN", "COMMIT", "ROLLBACK"]) :
    word.toList.head? ∉ [some 'c', some 'i', some 'd'] := by
  simp only [List.mem_cons, List.not_mem_nil, or_false] at hword
  rcases hword with rfl | rfl | rfl
  · rw [show "BEGIN".toList.head? = some 'B' from rfl]; decide
  · rw [show "COMMIT".toList.head? = some 'C' from rfl]; decide
  · rw [show "ROLLBACK".toList.head? = some 'R' from rfl]; decide

/-- No statement of a batch is one that handles a transaction. -/
theorem ne_of_mem_all (table : String) (h : sql ∈ (ofTable table).all) {word : String}
    (hword : word ∈ ["BEGIN", "COMMIT", "ROLLBACK"]) : sql ≠ word := by
  rintro rfl
  exact head?_word hword (head?_of_mem_all h)

/-- Statements that begin otherwise are different. -/
theorem ne_of_head? {a b : String} {c d : Char} (ha : a.toList.head? = some c) (hb : b.toList.head? = some d) (hcd : c ≠ d) :
    a ≠ b := by
  rintro rfl
  exact hcd (Option.some.inj (ha.symm.trans hb))

/-- Texts that go on differently after a common beginning are different. -/
theorem append_ne {a b : String} {c d : Char} (front : String) (ha : a.toList[1]? = some c) (hb : b.toList[1]? = some d)
    (hcd : c ≠ d) (x y : String) : front ++ (a ++ x) ≠ front ++ (b ++ y) := by
  intro h
  have hlist := congrArg String.toList h
  simp only [String.toList_append] at hlist
  rw [List.append_cancel_left_eq] at hlist
  have hsecond := congrArg (fun l => l[1]?) hlist
  have hshort : 1 < a.toList.length := (List.getElem?_eq_some_iff.1 ha).1
  have hshort' : 1 < b.toList.length := (List.getElem?_eq_some_iff.1 hb).1
  rw [List.getElem?_append_left hshort, List.getElem?_append_left hshort', ha, hb] at hsecond
  exact hcd (Option.some.inj hsecond)

/-- Labels and values are inserted by different statements. -/
theorem insertLabels_ne_insertValues (table : String) : (ofTable table).insertLabels ≠ (ofTable table).insertValues := by
  have hdiffer := append_ne ("insert into " ++ table) (a := "_labels") (b := "_values") (c := 'l') (d := 'v') rfl rfl (by decide)
  unfold ofTable labelsTable valuesTable
  simpa only [String.append_assoc] using hdiffer _ _

end Statements

end Intake
