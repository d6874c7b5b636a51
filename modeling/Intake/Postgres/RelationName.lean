import Intake.Postgres.Statements

/-!
# Relation names: which relation a plain name denotes

A name without quotes is folded to lower case, and only its first 63 bytes count. The names here consist of ASCII characters, of
which each is one byte.
-/

namespace Intake

/-- How much of a name counts. -/
def nameLimit : Nat := 63

/-- What a plain name denotes: names with the same denotation are the same relation. -/
def denotation (name : String) : List Char := (name.toList.map Char.toLower).take nameLimit

/-- The relations of the service for a table prefix. -/
def relationNames (table : String) : List String := [stagingTable table, labelsTable table, valuesTable table]

end Intake
