/-!
# Phases of a batch write
-/

namespace Intake

/-- The phases of one batch write, in the order in which they run. -/
inductive WritePhase where
  /-- Reserve a session. -/
  | acquire
  /-- Create the staging table of the session. -/
  | createStaging
  /-- Load the rows into the staging table. -/
  | bulkLoad
  /-- Insert the label sets that the store has not seen, in a transaction of its own. -/
  | insertLabels
  /-- Insert one value row for each staged row, in a transaction of its own. -/
  | insertValues
  /-- Drop the staging table and hand the session back. -/
  | release
  deriving DecidableEq, Inhabited, Repr

namespace WritePhase

def name : WritePhase → String
  | .acquire => "acquire"
  | .createStaging => "create_staging"
  | .bulkLoad => "bulk_load"
  | .insertLabels => "insert_labels"
  | .insertValues => "insert_values"
  | .release => "release"

/-- The name as one word. -/
def word : WritePhase → String
  | .acquire => "Acquire"
  | .createStaging => "CreateStaging"
  | .bulkLoad => "BulkLoad"
  | .insertLabels => "InsertLabels"
  | .insertValues => "InsertValues"
  | .release => "Release"

def all : List WritePhase := [.acquire, .createStaging, .bulkLoad, .insertLabels, .insertValues, .release]

/-- The phase of a name. -/
def ofName? (s : String) : Option WritePhase := all.find? fun p => p.name = s

end WritePhase

end Intake
