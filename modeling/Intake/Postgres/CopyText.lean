/-!
# COPY text: the bulk-load format, written and read

A record is a line: its fields are separated by tabs and it ends with a newline. Inside a field a backslash, a tab, a newline
and a carriage return are written as a backslash and a letter (or a second backslash), so that no field holds a raw separator.

`read` is the reader of the format: a backslash takes the next character out of the grammar, an unescaped field `\N` is a null,
a line `\.` ends the data, and the escapes for controls, octal and hexadecimal codes are decoded.
-/

namespace Intake

namespace CopyText

/-- One character inside a field. -/
def escapeChar (c : Char) : List Char :=
  if c = '\\' then ['\\', '\\']
  else if c = '\t' then ['\\', 't']
  else if c = '\n' then ['\\', 'n']
  else if c = '\r' then ['\\', 'r']
  else [c]

def escape (s : List Char) : List Char := s.flatMap escapeChar

/-! ## Reading -/

/-- Puts a character in front of the first piece. -/
def consFirst (cs : List Char) : List (List Char) → List (List Char)
  | [] => [cs]
  | p :: ps => (cs ++ p) :: ps

/-- The pieces between separators. A backslash keeps the character after it in its piece, whatever it is. -/
def pieces (sep : Char) : List Char → List (List Char)
  | [] => [[]]
  | '\\' :: c :: rest => consFirst ['\\', c] (pieces sep rest)
  | c :: rest => if c = sep then [] :: pieces sep rest else consFirst [c] (pieces sep rest)

def isOctal (c : Char) : Bool := '0' ≤ c && c ≤ '7'

def hexDigit? (c : Char) : Option Nat :=
  if c.isDigit then some (c.toNat - '0'.toNat)
  else if 'a' ≤ c ∧ c ≤ 'f' then some (c.toNat - 'a'.toNat + 10)
  else if 'A' ≤ c ∧ c ≤ 'F' then some (c.toNat - 'A'.toNat + 10)
  else none

/-- The character that a letter behind a backslash stands for; any other character stands for itself. -/
def unescapeLetter (c : Char) : Char :=
  if c = 'b' then '\x08'
  else if c = 'f' then '\x0c'
  else if c = 'n' then '\n'
  else if c = 'r' then '\r'
  else if c = 't' then '\t'
  else if c = 'v' then '\x0b'
  else c

/-- The content of a field behind its first `read` characters, which belong to a code that stands before them: escapes are
replaced by what they stand for. Of an octal code the lowest eight bits count. -/
def unescapeAfter : (read : Nat) → List Char → List Char
  | _, [] => []
  | read + 1, _ :: rest => unescapeAfter read rest
  | 0, ['\\'] => ['\\']
  | 0, '\\' :: c :: rest =>
    if isOctal c then
      let more := (rest.take 2).takeWhile isOctal
      let code := (c :: more).foldl (fun n d => 8 * n + (d.toNat - '0'.toNat)) 0
      Char.ofNat (code % 256) :: unescapeAfter more.length rest
    else if c = 'x' then
      match (rest.take 2).takeWhile (fun d => (hexDigit? d).isSome) with
      | [] => 'x' :: unescapeAfter 0 rest
      | ds => Char.ofNat (ds.foldl (fun n d => 16 * n + (hexDigit? d).getD 0) 0) :: unescapeAfter ds.length rest
    else unescapeLetter c :: unescapeAfter 0 rest
  | 0, c :: rest => c :: unescapeAfter 0 rest

/-- The content of a field. -/
def unescape (cs : List Char) : List Char := unescapeAfter 0 cs

/-- A field: none for the null marker, its content otherwise. -/
def field (raw : List Char) : Option (List Char) := if raw = ['\\', 'N'] then none else some (unescape raw)

/-- The lines of the data: what follows the last newline is a line only if it is not empty. -/
def lines (cs : List Char) : List (List Char) :=
  let ps := pieces '\n' cs
  if ps.getLast? = some [] then ps.dropLast else ps

/-- The records of the data, up to the end marker. -/
def read (cs : List Char) : List (List (Option (List Char))) :=
  ((lines cs).takeWhile (fun l => l ≠ ['\\', '.'])).map fun l => (pieces '\t' l).map field

end CopyText

end Intake
