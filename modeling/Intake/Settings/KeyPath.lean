import Intake.Settings.Node

/-!
# Key paths: keys that lead into a tree

A key such as `section.field[0]` is a path: a name, then names after points and places between brackets. Names consist of ASCII
letters, digits, blanks, `_` and `-`. A key of another form is no path and names a single entry.
-/

namespace Intake

namespace KeyPath

def isNameChar (c : Char) : Bool := c.isAlphanum || c = '_' || c = '-' || c = ' '

/-- A name at the front, and the rest. -/
def name? (cs : List Char) : Option (Step × List Char) :=
  match cs.takeWhile isNameChar with
  | [] => none
  | name => some (.entry (String.ofList name), cs.dropWhile isNameChar)

def skipBlanks (cs : List Char) : List Char := cs.dropWhile fun c => c = ' ' || c = '\t'

/-- Whether a number can be a place: it fits sixty-four bits with a sign. -/
def fitsPlace (i : Int) : Bool := -0x8000000000000000 ≤ i && i < 0x8000000000000000

/-- A place with its closing bracket, and the rest. Blanks may stand around the number. -/
def place? (cs : List Char) : Option (Step × List Char) :=
  let cs := skipBlanks cs
  let negative := cs.head? = some '-'
  let body := if negative then cs.drop 1 else cs
  match Decimal.digitsValue? (body.takeWhile Char.isDigit), skipBlanks (body.dropWhile Char.isDigit) with
  | some n, ']' :: rest =>
    let index : Int := if negative then -(n : Int) else n
    if fitsPlace index then some (.item index, rest) else none
  | _, _ => none

/-- The steps after the first. Every turn takes one. -/
def steps? : (turns : Nat) → List Char → Option (List Step)
  | _, [] => some []
  | 0, _ :: _ => none
  | turns + 1, c :: cs =>
    let step := if c = '.' then name? cs else if c = '[' then place? cs else none
    step.bind fun s => (steps? turns s.2).map (s.1 :: ·)

/-- The path that a key stands for. -/
def ofKey (key : String) : List Step :=
  let path := (name? key.toList).bind fun s => (steps? key.length s.2).map (s.1 :: ·)
  path.getD [.entry key]

end KeyPath

end Intake
