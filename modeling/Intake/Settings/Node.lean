import Intake.Number.Decimal
import Intake.Text.Lower

/-!
# Nodes: settings before they are read

A source of settings is a tree: tables of named entries, lists, and scalars. A node that a source holds as a whole remembers where
it came from, so that an error can say which source holds the value that cannot be used; a table or a list that was made on the
way to one of its parts came from nowhere. Names do not depend on letter case: an entry is set under the small letters of its
name.
-/

namespace Intake

/-- A value without parts. -/
inductive Scalar where
  | text (s : String)
  | integer (i : Int)
  | decimal (x : Binary64)
  | boolean (b : Bool)
  /-- An entry that is there but holds nothing. -/
  | nothing
  deriving DecidableEq, Inhabited, Repr

/-- A tree of settings. The origin is the name of the source, if there is one to name. -/
inductive Node where
  | scalar (origin : Option String) (value : Scalar)
  | list (origin : Option String) (items : List Node)
  | table (origin : Option String) (entries : List (String × Node))

/-- One step of a path into a tree. -/
inductive Step where
  /-- To the entry of a name in a table. -/
  | entry (name : String)
  /-- To a place in a list; a negative one counts from the end. -/
  | item (index : Int)
  deriving DecidableEq, Inhabited, Repr

namespace Node

instance : Inhabited Node := ⟨.table none []⟩

/-- What stands in a place that nothing was put into. -/
def nothing : Node := .scalar none .nothing

def origin : Node → Option String
  | .scalar o _ => o
  | .list o _ => o
  | .table o _ => o

/-- The entries of a table; a node of another kind has none. -/
def entries : Node → List (String × Node)
  | .table _ es => es
  | _ => []

/-- The items of a list; a node of another kind has none. -/
def items : Node → List Node
  | .list _ ns => ns
  | _ => []

/-- Replaces the entries of a table; a node of another kind gives way to a new table. -/
def withEntries (es : List (String × Node)) : Node → Node
  | .table o _ => .table o es
  | _ => .table none es

/-- Replaces the items of a list; a node of another kind gives way to a new list. -/
def withItems (ns : List Node) : Node → Node
  | .list o _ => .list o ns
  | _ => .list none ns

/-- Replaces the entry of a name, in its place, or adds one at the end. -/
def putEntry (name : String) (n : Node) : List (String × Node) → List (String × Node)
  | [] => [(name, n)]
  | (k, m) :: es => if k = name then (name, n) :: es else (k, m) :: putEntry name n es

mutual

/-- Sets an entry of a table. A scalar or a list takes the place of what was there; a table is merged into it entry by entry, so
an empty one changes nothing but that the entry exists. What is no table becomes one. -/
def set (root : Node) (name : String) : Node → Node
  | .table _ es =>
    let base := root.entries
    let old := (base.lookup (lowerText name)).getD (.table none [])
    root.withEntries (putEntry (lowerText name) (setAll old es) base)
  | n => root.withEntries (putEntry (lowerText name) n root.entries)

/-- Sets several entries in order. -/
def setAll (root : Node) : List (String × Node) → Node
  | [] => root
  | (k, n) :: es => setAll (root.set k n) es

end

/-- The place in a list of some length that an index means. -/
def place (index : Int) (length : Nat) : Nat := if 0 ≤ index then index.toNat else length - index.natAbs

/-- Replaces what stands in a place; places before it that are missing hold nothing. -/
def putItem (i : Nat) (n : Node) (ns : List Node) : List Node :=
  (ns ++ List.replicate (i + 1 - ns.length) nothing).set i n

/-- Sets what a path leads to. What is on the way is made where there is none, and gives way where it is of the wrong kind. -/
def setPath (root : Node) : List Step → Node → Node
  | [], _ => root
  | [.entry name], n => root.set name n
  | [.item index], n => root.withItems (putItem (place index root.items.length) n root.items)
  | .entry name :: path, n =>
    let old := (root.entries.lookup (lowerText name)).getD nothing
    root.withEntries (putEntry (lowerText name) (old.setPath path n) root.entries)
  | .item index :: path, n =>
    let i := place index root.items.length
    let old := (root.items[i]?).getD nothing
    root.withItems (putItem i (old.setPath path n) root.items)

end Node

end Intake
