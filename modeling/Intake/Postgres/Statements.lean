/-!
# Statements: what is asked of the database, for one table prefix

All relations of the service have names that begin with one prefix. The statements of a batch are fixed but for that prefix,
which stands in them without quotes and must therefore be a plain identifier (`Settings.Check`).
-/

namespace Intake

/-- The relation into which a session loads its batch; it lives as long as the session. -/
def stagingTable (table : String) : String := table ++ "_tmp"

/-- The relation of the label sets. -/
def labelsTable (table : String) : String := table ++ "_labels"

/-- The relation of the values. -/
def valuesTable (table : String) : String := table ++ "_values"

/-- The statements of a batch. -/
structure Statements where
  createStaging : String
  copyStaging : String
  insertLabels : String
  insertValues : String
  dropStaging : String
  deriving DecidableEq, Inhabited, Repr

/-- The statements for a table prefix. -/
def Statements.ofTable (table : String) : Statements where
  createStaging := "create temporary table " ++ stagingTable table
    ++ " (time timestamp with time zone, value double precision, metric_name text, labels jsonb) on commit preserve rows"
  copyStaging := "copy " ++ stagingTable table ++ " (time, value, metric_name, labels) from stdin"
  insertLabels := "insert into " ++ labelsTable table
    ++ " (metric_name, labels) select distinct sample.metric_name, sample.labels from " ++ stagingTable table
    ++ " sample on conflict do nothing"
  insertValues := "insert into " ++ valuesTable table
    ++ " (time, value, labels_id) select sample.time, sample.value, lbl.id from " ++ stagingTable table
    ++ " sample left join " ++ labelsTable table
    ++ " lbl on lbl.metric_name = sample.metric_name and lbl.labels = sample.labels"
  dropStaging := "drop table if exists " ++ stagingTable table

/-- The statements in the order in which a batch sends them. -/
def Statements.all (s : Statements) : List String :=
  [s.createStaging, s.copyStaging, s.insertLabels, s.insertValues, s.dropStaging]

end Intake
