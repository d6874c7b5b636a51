import Intake.Text.Blank
import Intake.Text.Letter

/-!
# Patterns: whether a regular expression is well formed

A pattern describes texts: characters that stand for themselves, `.` for any character, classes between brackets, groups between
parentheses, alternatives, repetitions, and escapes behind a backslash. Nothing is matched here; it is only said whether a text is a
pattern at all.

Three switches change how a pattern is read, up to the end of the group they are set in: whether blanks and comments are left
out, whether letter case counts, and whether characters or bytes are described. There are no tables of letters, so where
characters are described, a class of letters, digits or blanks of all scripts is refused, as is a text in which letter case does
not count; where bytes are described, what could match half a character is refused. A brace is refused wherever it would count
a repetition or enclose a name: no closing brace can stand in a pattern. Refused too is a pattern whose parts enclose one another too
deeply.
-/

namespace Intake

namespace Pattern

/-- The switches. -/
structure Mode where
  /-- Whether blanks and comments are left out. -/
  verbose : Bool := false
  /-- Whether letter case does not count. -/
  caseless : Bool := false
  /-- Whether bytes are described. -/
  bytes : Bool := false
  deriving DecidableEq, Inhabited, Repr

/-- Whether a mode needs tables to compare letters. -/
def Mode.needsTables (m : Mode) : Bool := m.caseless && !m.bytes

/-- What follows the blanks and comments at the front; every turn takes a character. -/
def skipVerbose (inComment : Bool) : List Char → List Char
  | [] => []
  | c :: cs =>
    if inComment then skipVerbose (c ≠ '\n') cs
    else if isBlank c then skipVerbose false cs
    else if c = '#' then skipVerbose true cs
    else c :: cs

/-- What is left to read in a mode. -/
def skip (m : Mode) (cs : List Char) : List Char := if m.verbose then skipVerbose false cs else cs

/-! ## Depth -/

/-- How deep a pattern may go: so many groups, classes, repetitions, alternatives and rows may enclose one another. -/
def maxDepth : Nat := 250

/-- How deep things go that stand side by side. One alone goes no deeper for that. -/
def abreast : List Nat → Nat
  | [] => 0
  | [d] => d
  | ds => 1 + ds.foldl max 0

/-! ## Escapes -/

/-- What stands for one thing in a pattern. -/
inductive Atom where
  /-- A character by its number. -/
  | literal (code : Nat)
  /-- One of several characters. -/
  | oneOf
  /-- A place between two characters. -/
  | place
  deriving DecidableEq, Inhabited, Repr

/-- The value of a hexadecimal digit. -/
def hexValue? (c : Char) : Option Nat :=
  if '0' ≤ c && c ≤ '9' then some (c.toNat - 0x30)
  else if 'a' ≤ c && c ≤ 'f' then some (c.toNat - 0x57)
  else if 'A' ≤ c && c ≤ 'F' then some (c.toNat - 0x37)
  else none

/-- Some hexadecimal digits, with what they stand for so far. -/
def hexDigits? (m : Mode) : (count : Nat) → (value : Nat) → List Char → Option (Nat × List Char)
  | 0, value, cs => some (value, cs)
  | count + 1, value, cs =>
    match skip m cs with
    | [] => none
    | c :: r => (hexValue? c).bind fun d => hexDigits? m count (16 * value + d) r

/-- Whether a number is that of a character. -/
def isScalar (n : Nat) : Bool := decide (n < 0xd800) || (decide (0xdfff < n) && decide (n < 0x110000))

/-- A character by its number, in two digits, four or eight. Where bytes are described two digits are a byte. -/
def numbered? (m : Mode) (digits : Nat) (cs : List Char) : Option (Atom × List Char) :=
  (hexDigits? m digits 0 cs).bind fun (n, r) =>
    if isScalar n && !(m.bytes && digits = 2 && decide (0x7f < n)) then some (.literal n, r) else none

/-- What a backslash and some characters stand for, and the rest. -/
def escape? (m : Mode) : List Char → Option (Atom × List Char)
  | [] => none
  | c :: r =>
    match c with
    | 'x' => numbered? m 2 r
    | 'u' => numbered? m 4 r
    | 'U' => numbered? m 8 r
    | 'a' | 'f' | 't' | 'n' | 'r' | 'v' => some (.literal c.toNat, r)
    | 'A' | 'z' => some (.place, r)
    | 'b' | 'B' | '<' | '>' => if m.bytes then some (.place, r) else none
    | 'd' | 's' | 'w' => if m.bytes then some (.oneOf, r) else none
    | _ => if c.toNat < 0x80 && !c.isAlphanum then some (.literal c.toNat, r) else none

/-! ## Classes -/

/-- The names of the classes of ASCII characters. -/
def classNames : List String :=
  ["alnum", "alpha", "ascii", "blank", "cntrl", "digit", "graph", "lower", "print", "punct", "space", "upper", "word", "xdigit"]

/-- A class by its name, as `[:digit:]`, behind its bracket: whether it is negated, and the rest. -/
def named? (cs : List Char) : Option (Bool × List Char) :=
  match cs with
  | ':' :: r =>
    let negated := r.head? = some '^'
    let r := if negated then r.drop 1 else r
    let name := r.takeWhile (· ≠ ':')
    match r.dropWhile (· ≠ ':') with
    | ':' :: ']' :: rest => if classNames.contains (String.ofList name) then some (negated, rest) else none
    | _ => none
  | _ => none

/-- How many hyphens stand at the front of a class, and what follows them. -/
def skipHyphens (m : Mode) : (turns : Nat) → List Char → Nat × List Char
  | 0, cs => (0, cs)
  | turns + 1, cs =>
    match cs with
    | '-' :: r => ((skipHyphens m turns (skip m r)).1 + 1, (skipHyphens m turns (skip m r)).2)
    | cs => (0, cs)

/-- What a class begins with behind its bracket, a sign of negation apart: how many hyphens that stand for themselves, or a closing
bracket that stands for itself. And what follows them. -/
def openClass? (m : Mode) (cs : List Char) : Option (Nat × List Char) :=
  if m.needsTables then none
  else
    match skip m cs with
    | [] => none
    | '^' :: r => if m.bytes then none else some (inside (skip m r))
    | cs => some (inside cs)
where
  inside (cs : List Char) : Nat × List Char :=
    match cs with
    | '-' :: _ => skipHyphens m cs.length cs
    | ']' :: r => (1, skip m r)
    | cs => (0, cs)

/-- One end of a range, or a whole item. -/
def item? (m : Mode) : List Char → Option (Atom × List Char)
  | [] => none
  | '\\' :: r => escape? m r
  | c :: r => some (.literal c.toNat, r)

/-- Whether an atom can stand in a class: no place can, and no character beyond ASCII where bytes are described. -/
def fitsClass (m : Mode) : Atom → Bool
  | .literal n => !m.bytes || decide (n < 0x80)
  | .oneOf => true
  | .place => false

/-- The rest behind an item or a range of a class. -/
def range? (m : Mode) (cs : List Char) : Option (List Char) :=
  (item? m cs).bind fun (a, r) =>
    let r := skip m r
    let next := match r with | '-' :: q => (skip m q).head? | _ => some ']'
    if !fitsClass m a || r.isEmpty then none
    else if next = some ']' || next = some '-' then some r
    else
      (item? m (skip m (r.drop 1))).bind fun (b, r) =>
        match a, b with
        | .literal x, .literal y => if decide (x ≤ y) && fitsClass m b then some r else none
        | _, _ => none

/-- How far a class has been read: how deep its items go, the latest first, and how deep it goes that stands to the left of a sign
such as `&&`. -/
structure ClassPart where
  items : List Nat
  left : Option Nat := none
  deriving Inhabited

namespace ClassPart

/-- A class that begins with some characters. -/
def beginning (count : Nat) : ClassPart := { items := List.replicate count 0 }

def depth (p : ClassPart) : Nat :=
  match p.left with
  | none => abreast p.items
  | some l => 1 + max l (abreast p.items)

def push (p : ClassPart) (item : Nat) : ClassPart := { p with items := item :: p.items }

end ClassPart

/-- How deep a class goes, and the rest behind it; around it are other classes, the innermost first. -/
def bracketed? (m : Mode) : (turns : Nat) → ClassPart → (around : List ClassPart) → List Char → Option (Nat × List Char)
  | 0, _, _, _ => none
  | turns + 1, p, around, cs =>
    let operator := bracketed? m turns { items := [], left := some p.depth } around
    match skip m cs with
    | [] => none
    | '[' :: r =>
      match named? r with
      | some (negated, rest) => if m.bytes && negated then none else bracketed? m turns (p.push 0) around rest
      | none => (openClass? m r).bind fun (count, r) => bracketed? m turns (.beginning count) (p :: around) r
    | ']' :: r =>
      match around with
      | [] => some (p.depth + 1, r)
      | q :: around => bracketed? m turns (q.push (p.depth + 1)) around r
    | '&' :: '&' :: r => operator r
    | '-' :: '-' :: r => operator r
    | '~' :: '~' :: r => operator r
    | cs => (range? m cs).bind (bracketed? m turns (p.push 0) around)

/-! ## Groups -/

/-- What is written between the sign of a group and its end: letters of switches, a hyphen before those that are set off. -/
structure Switches where
  letters : List Char
  deriving Inhabited

namespace Switches

/-- Whether every letter is known, none stands twice, and a hyphen has a letter behind it. -/
def isValid (s : Switches) : Bool :=
  s.letters.all (fun c => ['i', 'm', 's', 'U', 'u', 'R', 'x', '-'].contains c)
    && s.letters.eraseDups.length = s.letters.length && s.letters.getLast? != some '-'

/-- How a switch is set; none when it is not among the letters. -/
def setting? (s : Switches) (letter : Char) : Option Bool :=
  if s.letters.contains letter then some (!(s.letters.takeWhile (· ≠ letter)).contains '-') else none

/-- A mode with the switches set. -/
def apply (s : Switches) (m : Mode) : Mode where
  verbose := (s.setting? 'x').getD m.verbose
  caseless := (s.setting? 'i').getD m.caseless
  bytes := ((s.setting? 'u').map (!·)).getD m.bytes

end Switches

/-- What an opening parenthesis begins. -/
inductive Opening where
  /-- A group, in a mode of its own, under its name if it has one. -/
  | group (mode : Mode) (name : Option String)
  /-- Switches for the rest of the group around it. -/
  | switches (mode : Mode)

/-- Whether a character can begin the name of a group, or stand in it. -/
def isNameStart (c : Char) : Bool := c = '_' || isLetter c

def isNamePart (c : Char) : Bool := c = '_' || c = '.' || c = '[' || c = ']' || isLetterOrNumber c

/-- A group with a name, behind the bracket before the name. -/
def namedGroup? (m : Mode) (cs : List Char) : Option (Opening × List Char) :=
  match cs.takeWhile (· ≠ '>'), cs.dropWhile (· ≠ '>') with
  | c :: name, _ :: r =>
    if isNameStart c && name.all isNamePart then some (.group m (some (String.ofList (c :: name))), r) else none
  | _, _ => none

/-- What an opening parenthesis begins, and the rest. A look ahead or behind is refused. -/
def opening? (m : Mode) (cs : List Char) : Option (Opening × List Char) :=
  match skip m cs with
  | '?' :: '=' :: _ | '?' :: '!' :: _ | '?' :: '<' :: '=' :: _ | '?' :: '<' :: '!' :: _ => none
  | '?' :: 'P' :: '<' :: r => namedGroup? m r
  | '?' :: '<' :: r => namedGroup? m r
  | '?' :: r =>
    let isEnd (c : Char) := c = ':' || c = ')'
    let s : Switches := ⟨r.takeWhile fun c => !isEnd c⟩
    match r.dropWhile fun c => !isEnd c with
    | [] => none
    | c :: rest =>
      if !s.isValid then none
      else if c = ':' then some (.group (s.apply m) none, rest)
      else if s.letters.isEmpty then none
      else some (.switches (s.apply m), rest)
  | cs => some (.group m none, cs)

/-! ## The whole -/

/-- How far a group has been read, or the whole. -/
structure Frame where
  mode : Mode := {}
  /-- How deep the parts of the current alternative go, the latest first. -/
  parts : List Nat := []
  /-- How deep the alternatives before it go. -/
  alternatives : List Nat := []

namespace Frame

def depth (f : Frame) : Nat := abreast (abreast f.parts :: f.alternatives)

/-- Adds a part. -/
def push (f : Frame) (part : Nat) : Frame := { f with parts := part :: f.parts }

/-- Repeats the latest part. -/
def repeated (f : Frame) : Frame :=
  match f.parts with
  | [] => f
  | d :: ds => { f with parts := (d + 1) :: ds }

/-- Begins another alternative. -/
def another (f : Frame) : Frame := { f with parts := [], alternatives := abreast f.parts :: f.alternatives }

end Frame

/-- How far a pattern has been read. -/
structure State where
  inner : Frame := {}
  /-- The groups around the innermost one that is open, and the whole. -/
  around : List Frame := []
  /-- The names that groups have. -/
  names : List String := []
  /-- Whether there is something that can be repeated. -/
  repeatable : Bool := false

namespace State

def afterPart (s : State) (depth : Nat) : State := { s with inner := s.inner.push depth, repeatable := true }

def enter (s : State) : Opening → Option State
  | .switches mode => some { s with inner := { s.inner.push 0 with mode }, repeatable := false }
  | .group mode name =>
    if name.any s.names.contains then none
    else some { inner := { mode }, around := s.inner :: s.around, names := name.toList ++ s.names, repeatable := false }

/-- Leaves the innermost group. -/
def leave (s : State) : Option State :=
  match s.around with
  | [] => none
  | f :: around => some { s with inner := f.push (s.inner.depth + 1), around, repeatable := true }

end State

/-- Whether what is left makes a pattern of what was read. Every turn takes a character or more. -/
def finishes : (turns : Nat) → State → List Char → Bool
  | 0, _, _ => false
  | turns + 1, s, cs =>
    let mode := s.inner.mode
    match skip mode cs with
    | [] => s.around.isEmpty && decide (s.inner.depth ≤ maxDepth)
    | '(' :: r =>
      match opening? mode r with
      | none => false
      | some (o, r) =>
        match s.enter o with
        | none => false
        | some s => finishes turns s r
    | ')' :: r =>
      match s.leave with
      | none => false
      | some s => finishes turns s r
    | '|' :: r => finishes turns { s with inner := s.inner.another, repeatable := false } r
    | '[' :: r =>
      match (openClass? mode r).bind fun (count, r) => bracketed? mode (r.length + 1) (.beginning count) [] r with
      | none => false
      | some (depth, r) => finishes turns (s.afterPart depth) r
    | '\\' :: r =>
      match escape? mode r with
      | none => false
      | some (a, r) => !(a matches .literal _ && mode.needsTables) && finishes turns (s.afterPart 0) r
    | c :: r =>
      if c = '?' || c = '*' || c = '+' then
        s.repeatable && finishes turns { s with inner := s.inner.repeated } (match r with | '?' :: r => r | r => r)
      else if c = '\x7b' then false
      else if c = '.' then !mode.bytes && finishes turns (s.afterPart 0) r
      else if c = '^' || c = '$' then finishes turns (s.afterPart 0) r
      else !mode.needsTables && finishes turns (s.afterPart 0) r

/-- Whether a text is a pattern. -/
def isWellFormed (s : String) : Bool := finishes (s.length + 1) {} s.toList

end Pattern

end Intake
