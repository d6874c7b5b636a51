import Intake.Settings.Node
import Intake.Time.Calendar

/-!
# TOML: the format of settings files

A settings file is a TOML document. Reading gives the tree of its tables, or nothing when the document is not well formed: a
syntax error, a key defined twice, a table opened twice, a number that is too large, nesting that is too deep. Dates and times are
kept as text. A table whose first key is `$__toml_private_datetime` stands for the date or time that is its value.

While a document is read, a table remembers how it came about, because the format allows some ways of adding to it and forbids
others (`TomlTable`).
-/

namespace Intake

namespace Toml

abbrev Reader (α : Type) := List Char → Option (α × List Char)

def isSpace (c : Char) : Bool := c = ' ' || c = '\t'

def skipSpace (cs : List Char) : List Char := cs.dropWhile isSpace

/-- A line break at the front, if there is one. -/
def newline? : List Char → Option (List Char)
  | '\n' :: r => some r
  | '\r' :: '\n' :: r => some r
  | _ => none

/-- A character that may stand in a comment or a string as it is. -/
def isPlain (c : Char) : Bool := c = '\t' || (0x20 ≤ c.toNat && c.toNat ≠ 0x7f)

/-- Skips a comment, if there is one, up to the end of its line. -/
def skipComment : List Char → List Char
  | '#' :: r => r.dropWhile isPlain
  | r => r

/-- The end of a statement: blanks, a comment, and a line break or the end of the document. -/
def endOfLine? (cs : List Char) : Option (List Char) :=
  match skipComment (skipSpace cs) with
  | [] => some []
  | r => newline? r

/-- Skips blanks, comments and line breaks. Each turn takes a line. -/
def skipLines : (turns : Nat) → List Char → List Char
  | 0, cs => cs
  | turns + 1, cs =>
    let r := skipComment (skipSpace cs)
    match newline? r with
    | some r => skipLines turns r
    | none => r

/-! ## Strings -/

def hexValue? (c : Char) : Option Nat :=
  if c.isDigit then some (c.toNat - '0'.toNat)
  else if 'a' ≤ c ∧ c ≤ 'f' then some (c.toNat - 'a'.toNat + 10)
  else if 'A' ≤ c ∧ c ≤ 'F' then some (c.toNat - 'A'.toNat + 10)
  else none

/-- A character by its code point in exactly `width` hexadecimal digits. -/
def codePoint? (width : Nat) (cs : List Char) : Option (Char × List Char) :=
  let ds := cs.take width
  let n := ds.foldl (fun n c => 16 * n + (hexValue? c).getD 0) 0
  if ds.length = width ∧ ds.all (fun c => (hexValue? c).isSome) ∧ (n < 0xd800 ∨ (0xe000 ≤ n ∧ n ≤ 0x10ffff)) then
    some (Char.ofNat n, cs.drop width)
  else none

/-- What stands behind a backslash in a string. -/
def escape? : Reader Char
  | 'b' :: r => some ('\x08', r)
  | 't' :: r => some ('\t', r)
  | 'n' :: r => some ('\n', r)
  | 'f' :: r => some ('\x0c', r)
  | 'r' :: r => some ('\r', r)
  | '"' :: r => some ('"', r)
  | '\\' :: r => some ('\\', r)
  | 'u' :: r => codePoint? 4 r
  | 'U' :: r => codePoint? 8 r
  | _ => none

/-- The inside of a string on one line, up to the closing `mark`; only the double-quoted kind has escapes. -/
def lineString : (turns : Nat) → (mark : Char) → Reader (List Char)
  | 0, _, _ => none
  | _ + 1, _, [] => none
  | turns + 1, mark, c :: r =>
    if c = mark then some ([], r)
    else if c = '\\' ∧ mark = '"' then
      (escape? r).bind fun e => (lineString turns mark e.2).map fun s => (e.1 :: s.1, s.2)
    else if isPlain c then (lineString turns mark r).map fun s => (c :: s.1, s.2)
    else none

/-- Whether only blanks stand before the next line break. -/
def blankLine (cs : List Char) : Bool := (newline? (skipSpace cs)).isSome

def skipBlankLines : (turns : Nat) → List Char → List Char
  | 0, cs => cs
  | turns + 1, cs =>
    match newline? (skipSpace cs) with
    | some r => skipBlankLines turns r
    | none => skipSpace cs

/-- The inside of a string over several lines, up to three closing marks; one or two marks may stand right before them. A
backslash at the end of a line in the double-quoted kind takes away the blanks up to the next text. -/
def blockString : (turns : Nat) → (mark : Char) → Reader (List Char)
  | 0, _, _ => none
  | _ + 1, _, [] => none
  | turns + 1, mark, c :: r =>
    if c = mark then
      match r with
      | d :: e :: r' =>
        if d = mark ∧ e = mark then
          match r' with
          | f :: g :: r'' =>
            if f = mark ∧ g = mark then some ([mark, mark], r'')
            else if f = mark then some ([mark], g :: r'')
            else some ([], r')
          | [f] => if f = mark then some ([mark], []) else some ([], r')
          | [] => some ([], r')
        else (blockString turns mark r).map fun s => (c :: s.1, s.2)
      | _ => none
    else if c = '\\' ∧ mark = '"' then
      if blankLine r then blockString turns mark (skipBlankLines r.length r)
      else (escape? r).bind fun e => (blockString turns mark e.2).map fun s => (e.1 :: s.1, s.2)
    else
      match newline? (c :: r) with
      | some r' => (blockString turns mark r').map fun s => ('\n' :: s.1, s.2)
      | none => if isPlain c then (blockString turns mark r).map fun s => (c :: s.1, s.2) else none

/-- A line break right after the opening marks of a block does not count. -/
def trimFirstLine (cs : List Char) : List Char := (newline? cs).getD cs

/-- A string of any of the four kinds. -/
def string? : Reader String
  | '"' :: '"' :: '"' :: r =>
    (blockString (r.length + 1) '"' (trimFirstLine r)).map fun s => (String.ofList s.1, s.2)
  | '\'' :: '\'' :: '\'' :: r =>
    (blockString (r.length + 1) '\'' (trimFirstLine r)).map fun s => (String.ofList s.1, s.2)
  | '"' :: r => (lineString (r.length + 1) '"' r).map fun s => (String.ofList s.1, s.2)
  | '\'' :: r => (lineString (r.length + 1) '\'' r).map fun s => (String.ofList s.1, s.2)
  | _ => none

/-! ## Keys -/

def isBareKey (c : Char) : Bool := c.isAlphanum || c = '_' || c = '-'

/-- One part of a key: bare, or a string on one line. -/
def keyPart? : Reader String
  | '"' :: r => (lineString (r.length + 1) '"' r).map fun s => (String.ofList s.1, s.2)
  | '\'' :: r => (lineString (r.length + 1) '\'' r).map fun s => (String.ofList s.1, s.2)
  | cs =>
    let name := cs.takeWhile isBareKey
    if name.isEmpty then none else some (String.ofList name, cs.drop name.length)

/-- A key: parts separated by points, with blanks around them. -/
def key? : (turns : Nat) → Reader (List String)
  | 0, _ => none
  | turns + 1, cs =>
    (keyPart? (skipSpace cs)).bind fun p =>
      match skipSpace p.2 with
      | '.' :: r => (key? turns r).map fun ks => (p.1 :: ks.1, ks.2)
      | r => some ([p.1], r)

/-! ## Numbers, dates and times -/

/-- Digits with single underscores between them: the digits without the underscores. -/
def groupedDigits? (isDigit : Char → Bool) (cs : List Char) : Option (List Char) :=
  let ok := match cs with
    | [] => false
    | c :: r => isDigit c && (c :: r).getLast?.all isDigit && (cs.zip r).all fun p => isDigit p.1 || isDigit p.2
  if ok && cs.all (fun c => isDigit c || c = '_') then some (cs.filter isDigit) else none

def digitsValue (base : Nat) (cs : List Char) : Nat := cs.foldl (fun n c => base * n + (hexValue? c).getD 0) 0

/-- The characters that a number, a word or a date is made of. -/
def isTokenChar (c : Char) : Bool := c.isAlphanum || c = '_' || c = '-' || c = '+' || c = '.' || c = ':'

def isBinary (c : Char) : Bool := c = '0' || c = '1'

def isOctal (c : Char) : Bool := '0' ≤ c && c ≤ '7'

def isHex (c : Char) : Bool := (hexValue? c).isSome

/-- A decimal number without a needless leading zero. -/
def decimalDigits? (cs : List Char) : Option (List Char) :=
  (groupedDigits? Char.isDigit cs).filter fun ds => ds.length = 1 || ds.head? ≠ some '0'

/-- Whether a number fits sixty-four bits with a sign. -/
def fitsInt (i : Int) : Bool := -0x8000000000000000 ≤ i && i < 0x8000000000000000

def splitSign : List Char → Bool × List Char
  | '-' :: r => (true, r)
  | '+' :: r => (false, r)
  | r => (false, r)

def integer? (cs : List Char) : Option Int :=
  let value : Option Int := match cs with
    | '0' :: 'x' :: r => (groupedDigits? isHex r).map fun ds => (digitsValue 16 ds : Int)
    | '0' :: 'o' :: r => (groupedDigits? isOctal r).map fun ds => (digitsValue 8 ds : Int)
    | '0' :: 'b' :: r => (groupedDigits? isBinary r).map fun ds => (digitsValue 2 ds : Int)
    | cs =>
      let (negative, ds) := splitSign cs
      (decimalDigits? ds).map fun ds => if negative then -(digitsValue 10 ds : Int) else digitsValue 10 ds
  value.filter fitsInt

/-- The exponent of a number: a sign and digits. -/
def exponent? (cs : List Char) : Option Int :=
  let (negative, ds) := splitSign cs
  (groupedDigits? Char.isDigit ds).map fun ds => if negative then -(digitsValue 10 ds : Int) else digitsValue 10 ds

/-- A decimal number with a point or an exponent, or one of the words `inf` and `nan`. A literal so large that it would be
infinite is none, unless it is negative. -/
def float? (cs : List Char) : Option Binary64 :=
  let (negative, body) := splitSign cs
  if body = ['i', 'n', 'f'] then some (Binary64.infinity negative)
  else if body = ['n', 'a', 'n'] then some Binary64.nan
  else
    let isMark (c : Char) : Bool := c = '.' || c = 'e' || c = 'E'
    let whole := body.takeWhile fun c => !isMark c
    let fraction (cs : List Char) := cs.takeWhile fun c => !(c = 'e' || c = 'E')
    let finish (places : List Char) (e : Int) : Option Binary64 :=
      ((decimalDigits? whole).map fun ds =>
        Decimal.toBinary64 negative (digitsValue 10 (ds ++ places)) (e - places.length)).filter fun x =>
          x ≠ Binary64.infinity false
    match body.dropWhile fun c => !isMark c with
    | '.' :: r =>
      (groupedDigits? Char.isDigit (fraction r)).bind fun places =>
        match r.drop (fraction r).length with
        | [] => finish places 0
        | _ :: e => (exponent? e).bind (finish places)
    | 'e' :: r => (exponent? r).bind (finish [])
    | 'E' :: r => (exponent? r).bind (finish [])
    | _ => none

def twoDigits? : Reader Nat
  | a :: b :: r => if a.isDigit ∧ b.isDigit then some (digitsValue 10 [a, b], r) else none
  | _ => none

/-- A date: its text and the rest. -/
def date? (cs : List Char) : Option (List Char × List Char) :=
  match Calendar.readDigits? 4 0 cs with
  | none => none
  | some (year, r) =>
    match r with
    | '-' :: r =>
      (twoDigits? r).bind fun (month, r) =>
        match r with
        | '-' :: r =>
          (twoDigits? r).bind fun (day, r) =>
            if 1 ≤ month ∧ month ≤ 12 ∧ 1 ≤ day ∧ day ≤ Calendar.monthDays year month then some (cs.take 10, r) else none
        | _ => none
    | _ => none

/-- A time of day with seconds and an optional fraction: its text and the rest. -/
def time? (cs : List Char) : Option (List Char × List Char) :=
  (twoDigits? cs).bind fun (hour, r) =>
    match r with
    | ':' :: r =>
      (twoDigits? r).bind fun (minute, r) =>
        match r with
        | ':' :: r =>
          (twoDigits? r).bind fun (second, r) =>
            if 24 ≤ hour ∨ 60 ≤ minute ∨ 60 < second then none
            else
              match r with
              | '.' :: r =>
                let ds := r.takeWhile Char.isDigit
                let kept := ((ds.take 9).reverse.dropWhile (· = '0')).reverse
                if ds.isEmpty then none
                else some (cs.take 8 ++ (if kept.isEmpty then [] else '.' :: kept), r.drop ds.length)
              | r => some (cs.take 8, r)
        | _ => none
    | _ => none

/-- The distance of a local time from universal time. No distance is written with a plus. -/
def zone? : List Char → Option (List Char)
  | ['Z'] => some ['Z']
  | ['z'] => some ['Z']
  | s :: r =>
    if s = '+' ∨ s = '-' then
      (twoDigits? r).bind fun (hour, r') =>
        match r' with
        | ':' :: r'' =>
          (twoDigits? r'').bind fun (minute, rest) =>
            if rest.isEmpty ∧ hour < 24 ∧ minute < 60 then some ((if hour = 0 ∧ minute = 0 then '+' else s) :: r) else none
        | _ => none
    else none
  | [] => none

/-- A date, a time, or both, as text. -/
def moment? (cs : List Char) : Option (List Char) :=
  match date? cs with
  | some (d, []) => some d
  | some (d, sep :: r) =>
    if sep = 'T' ∨ sep = 't' ∨ sep = ' ' then
      (time? r).bind fun (t, rest) =>
        if rest.isEmpty then some (d ++ 'T' :: t) else (zone? rest).map fun z => d ++ 'T' :: t ++ z
    else none
  | none => (time? cs).bind fun (t, rest) => if rest.isEmpty then some t else none

/-- The characters of a token; a date may be followed by one blank and a time. -/
def token (cs : List Char) : List Char :=
  let first := cs.takeWhile isTokenChar
  match date? first, cs.drop first.length with
  | some (_, []), ' ' :: r =>
    if (twoDigits? r).isSome then first ++ ' ' :: r.takeWhile isTokenChar else first
  | _, _ => first

/-- A value that is no string, list or table. -/
inductive Plain where
  | scalar (v : Scalar)
  /-- A date, a time, or both, by its text. -/
  | moment (text : String)
  deriving DecidableEq, Repr

def plainValue? (cs : List Char) : Option Plain :=
  if cs = "true".toList then some (.scalar (.boolean true))
  else if cs = "false".toList then some (.scalar (.boolean false))
  else
    match integer? cs with
    | some i => some (.scalar (.integer i))
    | none =>
      match float? cs with
      | some x => some (.scalar (.decimal x))
      | none => (moment? cs).map fun t => .moment (String.ofList t)

/-! ## Tables -/

/-- How a table came about: as a step on the way to another table, by its own header, by a key with points, or in braces. -/
inductive Origin where
  | step | header | dotted | braces
  deriving DecidableEq, Repr

/-- The tree of a document while it is read. -/
inductive Tree where
  | plain (v : Plain)
  | list (items : List Tree)
  | table (origin : Origin) (entries : List (String × Tree))
  /-- The tables of a header in double brackets, the last one first. -/
  | tables (items : List (List (String × Tree)))

abbrev Entries := List (String × Tree)

def put (name : String) (t : Tree) : Entries → Entries
  | [] => [(name, t)]
  | (k, u) :: es => if k = name then (name, t) :: es else (k, u) :: put name t es

/-- Puts an entry at the end, where it stands as if it were new. -/
def putLast (name : String) (t : Tree) (es : Entries) : Entries := es.filter (fun e => e.1 ≠ name) ++ [(name, t)]

/-- Adds a key with its value. The last name must be new. With points in the key, the last table on the way must have been made by
such a key; before it, the key may also lead through tables that are only steps, and through the last table of a header in double
brackets. -/
def insertKey : List String → Tree → Entries → Option Entries
  | [], _, _ => none
  | [name], t, es => if (es.lookup name).isSome then none else some (put name t es)
  | name :: path, t, es =>
    match es.lookup name with
    | none => (insertKey path t []).map fun inner => put name (.table .dotted inner) es
    | some (.table .dotted inner) => (insertKey path t inner).map fun inner => put name (.table .dotted inner) es
    | some (.table .step inner) =>
      if path.length = 1 then none else (insertKey path t inner).map fun inner => put name (.table .step inner) es
    | some (.tables (last :: before)) =>
      if path.length = 1 then none else (insertKey path t last).map fun inner => put name (.tables (inner :: before)) es
    | some _ => none

/-- Changes the table that a path leads to, making tables on the way. -/
def atPath (f : Entries → Option Entries) : List String → Entries → Option Entries
  | [], es => f es
  | name :: path, es =>
    match es.lookup name with
    | none => (atPath f path []).map fun inner => put name (.table .step inner) es
    | some (.table .braces _) => none
    | some (.table o inner) => (atPath f path inner).map fun inner => put name (.table o inner) es
    | some (.tables (last :: before)) =>
      (atPath f path last).map fun inner => put name (.tables (inner :: before)) es
    | some _ => none

/-- Opens the table of a header. It must not have been opened before. -/
def openTable (path : List String) (es : Entries) : Option Entries :=
  match path.getLast? with
  | none => none
  | some name =>
    atPath (fun inner =>
      match inner.lookup name with
      | none => some (putLast name (.table .header []) inner)
      | some (.table .step below) => some (putLast name (.table .header below) inner)
      | some _ => none) path.dropLast es

/-- Opens a further table of a header in double brackets. -/
def openNext (path : List String) (es : Entries) : Option Entries :=
  match path.getLast? with
  | none => none
  | some name =>
    atPath (fun inner =>
      match inner.lookup name with
      | none => some (putLast name (.tables [[]]) inner)
      | some (.tables items) => some (put name (.tables ([] :: items)) inner)
      | some _ => none) path.dropLast es

/-! ## Values and documents -/

/-- How deep lists and tables in braces may be nested, and how many parts a key may have. -/
def maxDepth : Nat := 79

/-- A key that is not too long. -/
def path? (cs : List Char) : Option (List String × List Char) :=
  (key? (cs.length + 1) cs).filter fun k => decide (k.1.length ≤ maxDepth)

/-- Skips what may stand between the items of a list. -/
def skipBetween (cs : List Char) : List Char := skipSpace (skipLines (cs.length + 1) cs)

mutual

/-- A value. Every turn takes at least one character, and `room` is how much deeper values may be nested. -/
def value? : (turns room : Nat) → Reader Tree
  | 0, _, _ => none
  | turns + 1, room, cs =>
    match cs with
    | '"' :: _ => (string? cs).map fun s => (.plain (.scalar (.text s.1)), s.2)
    | '\'' :: _ => (string? cs).map fun s => (.plain (.scalar (.text s.1)), s.2)
    | '[' :: r => if room = 0 then none else (items? turns (room - 1) (skipBetween r)).map fun l => (.list l.1, l.2)
    | '\x7b' :: r =>
      if room = 0 then none
      else
        match skipSpace r with
        | '\x7d' :: r => some (.table .braces [], r)
        | r => (members? turns (room - 1) [] r).map fun m => (.table .braces m.1, m.2)
    | cs =>
      let t := token cs
      (plainValue? t).map fun v => (.plain v, cs.drop t.length)

/-- The items of a list after its bracket; the last may be followed by a comma. -/
def items? : (turns room : Nat) → Reader (List Tree)
  | 0, _, _ => none
  | turns + 1, room, cs =>
    match cs with
    | ']' :: r => some ([], r)
    | cs =>
      match value? turns room cs with
      | none => none
      | some (v, rest) =>
        match skipBetween rest with
        | ',' :: r => (items? turns room (skipBetween r)).map fun l => (v :: l.1, l.2)
        | ']' :: r => some ([v], r)
        | _ => none

/-- The members of a table in braces. -/
def members? : (turns room : Nat) → Entries → Reader Entries
  | 0, _, _, _ => none
  | turns + 1, room, es, cs =>
    match path? cs with
    | none => none
    | some (path, rest) =>
      match rest with
      | '=' :: r =>
        match value? turns room (skipSpace r) with
        | none => none
        | some (v, rest) =>
          match insertKey path v es with
          | none => none
          | some es =>
            match skipSpace rest with
            | ',' :: r => members? turns room es r
            | '\x7d' :: r => some (es, r)
            | _ => none
      | _ => none

end

/-- A key and its value, put into the table that is open. -/
def keyValue? (current : List String) (doc : Entries) (cs : List Char) : Option (Entries × List Char) :=
  match path? cs with
  | some (path, '=' :: r) =>
    match value? (2 * r.length + 2) maxDepth (skipSpace r) with
    | some (v, rest) =>
      match atPath (insertKey path v) current doc, endOfLine? rest with
      | some doc, some rest => some (doc, rest)
      | _, _ => none
    | none => none
  | _ => none

/-- A header: the path of the table it opens. -/
def header? (cs : List Char) : Option (List String × Bool × List Char) :=
  match cs with
  | '[' :: '[' :: r =>
    match path? r with
    | some (path, ']' :: ']' :: rest) => (endOfLine? rest).map fun rest => (path, true, rest)
    | _ => none
  | '[' :: r =>
    match path? r with
    | some (path, ']' :: rest) => (endOfLine? rest).map fun rest => (path, false, rest)
    | _ => none
  | _ => none

/-- The statements of a document, in order. Each takes at least one character. -/
def statements? : (turns : Nat) → (current : List String) → Entries → List Char → Option Entries
  | 0, _, _, _ => none
  | turns + 1, current, doc, cs =>
    match skipSpace (skipLines (cs.length + 1) cs) with
    | [] => some doc
    | '[' :: r =>
      match header? ('[' :: r) with
      | none => none
      | some (path, more, rest) =>
        match if more then openNext path doc else openTable path doc with
        | none => none
        | some doc => statements? turns path doc rest
    | cs =>
      match keyValue? current doc cs with
      | none => none
      | some (doc, rest) => statements? turns current doc rest

/-! ## The tree as settings -/

/-- The key of a table that stands for a date or a time. -/
def momentKey : String := "$__toml_private_datetime"

mutual

/-- The tree as a node of settings. -/
def toNode? (source : String) : Tree → Option Node
  | .plain (.scalar v) => some (.scalar (some source) v)
  | .plain (.moment text) => some (.scalar (some source) (.text text))
  | .list items => (toNodes? source items).map fun ns => .list (some source) ns
  | .table _ es => tableNode? source es
  | .tables items => (toTables? source items).map fun ns => .list (some source) ns.reverse

def toNodes? (source : String) : List Tree → Option (List Node)
  | [] => some []
  | t :: ts => (toNode? source t).bind fun n => (toNodes? source ts).map (n :: ·)

def toEntries? (source : String) : List (String × Tree) → Option (List (String × Node))
  | [] => some []
  | (k, t) :: es => (toNode? source t).bind fun n => (toEntries? source es).map ((k, n) :: ·)

def toTables? (source : String) : List (List (String × Tree)) → Option (List Node)
  | [] => some []
  | es :: ts => (tableNode? source es).bind fun n => (toTables? source ts).map (n :: ·)

/-- A table as a node: the moment that it stands for, or its entries. -/
def tableNode? (source : String) : List (String × Tree) → Option Node
  | [] => some (.table (some source) [])
  | (k, t) :: es =>
    if k = momentKey then
      match t with
      | .plain (.scalar (.text s)) => (moment? s.toList).map fun m => .scalar (some source) (.text (String.ofList m))
      | _ => none
    else
      (toNode? source t).bind fun n => (toEntries? source es).map fun ns => .table (some source) ((k, n) :: ns)

end

/-- What follows a byte order mark, which may stand at the very beginning. -/
def skipMark : List Char → List Char
  | [] => []
  | c :: cs => if c.toNat = 0xfeff then cs else c :: cs

/-- Reads a document. The entries of its top table, each with the name of the source as its origin. -/
def read? (source text : String) : Option (List (String × Node)) :=
  match (statements? (text.length + 1) [] [] (skipMark text.toList)).bind (tableNode? source) with
  | some (.table _ es) => some es
  | _ => none

end Toml

end Intake
