import Intake.Text.Quoted

/-!
# JSON strings: writing and reading

A JSON string is written with the least escaping: quote and backslash behind a backslash, the five controls that have a letter
by that letter, the other controls below the space as `\u00` and two digits, and everything else as it is. The reader accepts
every form the grammar of JSON allows, surrogate pairs included, so that it is a reader of JSON and not of this writer only.
-/

namespace Intake

namespace JsonString

/-- One character inside a JSON string. -/
def escape (c : Char) : List Char :=
  if c = '"' then ['\\', '"']
  else if c = '\\' then ['\\', '\\']
  else if c = '\x08' then ['\\', 'b']
  else if c = '\x0c' then ['\\', 'f']
  else if c = '\n' then ['\\', 'n']
  else if c = '\r' then ['\\', 'r']
  else if c = '\t' then ['\\', 't']
  else if c.toNat < 0x20 then
    ['\\', 'u', '0', '0', Nat.digitChar (c.toNat / 16), Nat.digitChar (c.toNat % 16)]
  else [c]

/-- A string with its quotes. -/
def encode (s : List Char) : List Char := '"' :: s.flatMap escape ++ ['"']

/-- The value of a hexadecimal digit. -/
def hexValue? (c : Char) : Option Nat :=
  if c.isDigit then some (c.toNat - '0'.toNat)
  else if 'a' ≤ c ∧ c ≤ 'f' then some (c.toNat - 'a'.toNat + 10)
  else if 'A' ≤ c ∧ c ≤ 'F' then some (c.toNat - 'A'.toNat + 10)
  else none

/-- Four hexadecimal digits. -/
def hex4? (a b c d : Char) : Option Nat :=
  match hexValue? a, hexValue? b, hexValue? c, hexValue? d with
  | some a, some b, some c, some d => some (((a * 16 + b) * 16 + c) * 16 + d)
  | _, _, _, _ => none

/-- The character that a letter behind a backslash stands for. -/
def letter? (c : Char) : Option Char :=
  if c = '"' ∨ c = '\\' ∨ c = '/' then some c
  else if c = 'b' then some '\x08'
  else if c = 'f' then some '\x0c'
  else if c = 'n' then some '\n'
  else if c = 'r' then some '\r'
  else if c = 't' then some '\t'
  else none

/-- The character of one sixteen-bit unit outside the surrogates. -/
def unit? (u : Nat) : Option Char := if 0xd800 ≤ u ∧ u < 0xe000 then none else some (Char.ofNat u)

/-- The character of a surrogate pair. -/
def pair? (high low : Nat) : Option Char :=
  if 0xd800 ≤ high ∧ high < 0xdc00 ∧ 0xdc00 ≤ low ∧ low < 0xe000 then
    some (Char.ofNat (0x10000 + (high - 0xd800) * 0x400 + (low - 0xdc00)))
  else none

/-- Puts a character in front of the string read so far. -/
def push (c : Option Char) (r : Option (List Char × List Char)) : Option (List Char × List Char) :=
  match c, r with
  | some c, some (s, rest) => some (c :: s, rest)
  | _, _ => none

/-- Reads the inside of a string up to its closing quote: the string and what follows the quote. -/
def decodeBody : List Char → Option (List Char × List Char)
  | [] => none
  | '"' :: rest => some ([], rest)
  | '\\' :: 'u' :: a :: b :: c :: d :: '\\' :: 'u' :: e :: f :: g :: h :: rest =>
    match hex4? a b c d, hex4? e f g h with
    | some u, some v =>
      match pair? u v with
      | some p => push (some p) (decodeBody rest)
      | none => push (unit? u) (decodeBody ('\\' :: 'u' :: e :: f :: g :: h :: rest))
    | some u, none => push (unit? u) (decodeBody ('\\' :: 'u' :: e :: f :: g :: h :: rest))
    | none, _ => none
  | '\\' :: 'u' :: a :: b :: c :: d :: rest => push ((hex4? a b c d).bind unit?) (decodeBody rest)
  | '\\' :: c :: rest => push (letter? c) (decodeBody rest)
  | c :: rest => if c.toNat < 0x20 ∨ c = '\\' then none else push (some c) (decodeBody rest)

/-- Reads a string with its quotes: the string and what follows. -/
def decode? : List Char → Option (List Char × List Char)
  | '"' :: rest => decodeBody rest
  | _ => none

end JsonString

end Intake
