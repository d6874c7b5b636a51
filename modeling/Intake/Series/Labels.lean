import Intake.Text.Utf8
import Intake.Text.JsonObject

/-!
# Labels: what identifies a series

A series is identified by its labels: a map from names to values in which the reserved name `__name__` carries the name of the
metric. `LabelSet` is the canonical form of such a map, by which series are told apart in the store: the metric name, and the
text of a JSON object with all other labels in the byte order of their names.
-/

namespace Intake

/-- The label whose value names the metric. -/
def metricNameLabel : String := "__name__"

/-- A map from label names to label values; no name stands twice. -/
structure Labels where
  pairs : List (String × String)
  nodup : (pairs.map Prod.fst).Nodup

namespace Labels

def empty : Labels := ⟨[], by simp⟩

/-- The value of a label. -/
def get? (m : Labels) (name : String) : Option String := m.pairs.lookup name

/-- Gives a label a value, in place of the one it had. -/
def set (m : Labels) (name value : String) : Labels where
  pairs := m.pairs.filter (fun p => p.1 ≠ name) ++ [(name, value)]
  nodup := by
    have h : ((m.pairs.filter (fun p => p.1 ≠ name)).map Prod.fst).Nodup :=
      m.nodup.sublist ((List.filter_sublist (p := fun p => p.1 ≠ name)).map Prod.fst)
    rw [List.map_append, List.nodup_append]
    refine ⟨h, by simp, ?_⟩
    intro a ha b hb
    simp only [List.map_cons, List.map_nil, List.mem_singleton] at hb
    obtain ⟨p, hp, rfl⟩ := List.mem_map.mp ha
    have := (List.mem_filter.mp hp).2
    simpa [hb] using this

/-- The map that a list of pairs gives when they are set in order: of a repeated name the last value stays. -/
def ofPairs (ps : List (String × String)) : Labels := ps.foldl (fun m p => m.set p.1 p.2) empty

/-- The name of the metric, empty when no label carries one. -/
def metricName (m : Labels) : String := (m.get? metricNameLabel).getD ""

/-- The labels other than the metric name, in the byte order of their names. -/
def others (m : Labels) : List (String × String) :=
  (m.pairs.filter (fun p => p.1 ≠ metricNameLabel)).mergeSort (fun a b => Utf8.atMost a.1 b.1)

end Labels

/-- The key under which the store tells series apart. -/
structure LabelSet where
  metricName : String
  /-- The text of a JSON object with the other labels. -/
  labels : String
  deriving DecidableEq, Inhabited, Repr

namespace LabelSet

/-- The canonical form of a label map. -/
def ofLabels (m : Labels) : LabelSet where
  metricName := m.metricName
  labels := String.ofList (JsonObject.render (m.others.map fun p => (p.1.toList, p.2.toList)))

/-- The order of label sets: by the bytes of the name, then by the bytes of the labels. -/
def atMost (a b : LabelSet) : Bool :=
  if a.metricName = b.metricName then Utf8.atMost a.labels b.labels else Utf8.before a.metricName b.metricName

/-- The labels that the text writes, read back as JSON. -/
def members? (s : LabelSet) : Option (List (String × String)) :=
  (JsonObject.read? s.labels.toList).map fun ms => ms.map fun m => (String.ofList m.1, String.ofList m.2)

end LabelSet

end Intake
