import Intake.Series.Sample

/-!
# Tables: what is stored

Two tables hold the data: one row for each label set, with a number of its own, and one row for each sample, which refers to its
label set by that number. A batch first adds the label sets that the store has not seen, then one value row for each of its
rows. The numbers come from a counter, which moves when a label set is added and at no other time.
-/

namespace Intake

structure ValueRow where
  time : Instant
  value : Binary64
  /-- The number of the label set; none if the store did not know it. -/
  labelsId : Option Nat
  deriving DecidableEq, Inhabited, Repr

@[ext]
structure Tables where
  /-- Label sets with their numbers, in the order in which they were added. -/
  labels : List (LabelSet × Nat)
  /-- Value rows in the order in which they were added. -/
  values : List ValueRow
  /-- The number that the next new label set gets. -/
  nextId : Nat
  deriving DecidableEq, Repr

namespace Tables

def empty : Tables := ⟨[], [], 1⟩

instance : Inhabited Tables := ⟨empty⟩

/-- The number of a label set. -/
def idOf? (t : Tables) (s : LabelSet) : Option Nat := t.labels.lookup s

/-- Adds a label set with the next number, unless the store has it. -/
def addLabel (t : Tables) (s : LabelSet) : Tables :=
  if (t.idOf? s).isSome then t else { t with labels := t.labels ++ [(s, t.nextId)], nextId := t.nextId + 1 }

/-- Adds the label sets of the rows that are missing, in the order of the rows. -/
def addLabels (t : Tables) (rows : List StagedRow) : Tables := rows.foldl (fun t r => t.addLabel r.labelSet) t

/-- The value row of a staged row. -/
def valueRow (t : Tables) (r : StagedRow) : ValueRow := ⟨r.time, r.value, t.idOf? r.labelSet⟩

/-- Adds one value row for each row. -/
def addValues (t : Tables) (rows : List StagedRow) : Tables := { t with values := t.values ++ rows.map t.valueRow }

/-- The label rows in the order of their label sets. -/
def sortedLabels (t : Tables) : List (LabelSet × Nat) := t.labels.mergeSort fun a b => LabelSet.atMost a.1 b.1

end Tables

end Intake
