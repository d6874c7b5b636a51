import Intake.Number.Decimal
import Intake.Postgres.CopyText
import Intake.Series.Labels
import Intake.Time.Calendar

/-!
# Samples and the rows they are staged as

A sample is one data point of a series. Before it is stored it becomes a row: its time must be one that the time column can
hold, and its labels are brought into canonical form. A row is written in two ways, as a line for a human reader and as a
record of the bulk-load format.
-/

namespace Intake

/-- One data point. -/
structure Sample where
  labels : Labels
  value : Binary64
  /-- Milliseconds since the Unix epoch. -/
  timestampMs : Int

def Sample.labelSet (s : Sample) : LabelSet := LabelSet.ofLabels s.labels

/-- A time that the time column can hold. -/
structure Instant where
  millis : Int
  earliest_le : -8334601228800000 ≤ millis := by decide
  le_latest : millis ≤ 8210266876799999 := by decide
  deriving DecidableEq, Repr

instance : Inhabited Instant := ⟨{ millis := 0 }⟩

/-- The instant of a number of milliseconds since the epoch, if the time column can hold it. -/
def Instant.ofMillis? (ms : Int) : Option Instant :=
  if h : -8334601228800000 ≤ ms ∧ ms ≤ 8210266876799999 then some ⟨ms, h.1, h.2⟩ else none

/-- The text of a value: the shortest decimal, with words for the values that are no numbers. -/
def valueText (x : Binary64) : String :=
  match x.value with
  | .nan => "NaN"
  | .infinite s => if s then "-Infinity" else "Infinity"
  | .finite .. => Decimal.text x

/-- A sample ready to be stored. -/
structure StagedRow where
  time : Instant
  value : Binary64
  labelSet : LabelSet
  deriving DecidableEq, Inhabited, Repr

namespace StagedRow

/-- The row of a sample; none when its timestamp is no time of the column. -/
def ofSample? (s : Sample) : Option StagedRow :=
  (Instant.ofMillis? s.timestampMs).map fun t => ⟨t, s.value, s.labelSet⟩

/-- The line for a human reader: time to the second, value, metric name and labels, separated by tabs. -/
def displayLine (r : StagedRow) : String :=
  Calendar.stampSeconds r.time.millis ++ "\t" ++ valueText r.value ++ "\t" ++ r.labelSet.metricName ++ "\t" ++ r.labelSet.labels

/-- The four fields of the bulk-load record, before escaping. -/
def copyFields (r : StagedRow) : List String :=
  [Calendar.stampMillis r.time.millis, valueText r.value, r.labelSet.metricName, r.labelSet.labels]

/-- The record of the bulk-load format, with its newline. -/
def copyLine (r : StagedRow) : String :=
  Calendar.stampMillis r.time.millis ++ "\t" ++ valueText r.value ++ "\t"
    ++ String.ofList (CopyText.escape r.labelSet.metricName.toList) ++ "\t"
    ++ String.ofList (CopyText.escape r.labelSet.labels.toList) ++ "\n"

end StagedRow

end Intake
