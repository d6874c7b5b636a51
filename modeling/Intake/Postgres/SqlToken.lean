import Intake.Postgres.Statements

/-!
# SQL tokens: how a statement is split into words

The lexical rules of the database. A text is a sequence of words (names and keywords), numbers, texts and names in quotes, parameters,
operators and marks; blanks and comments between them do not count. A token is what is written: that names are folded and cut comes
later (`RelationName`). A text may hold several statements with semicolons between them. Two texts with the same tokens mean the same.
-/

namespace Intake

inductive SqlToken where
  /-- A name or a keyword without quotes. -/
  | word (text : List Char)
  | number (text : List Char)
  /-- What stands between quotes, as it is written. The opening is a quote, with the letters before it if there are any, or a tag between
  dollar signs. -/
  | quoted (opening content : List Char)
  /-- A dollar sign with the digits behind it. -/
  | parameter (digits : List Char)
  | operator (text : List Char)
  | mark (text : List Char)
  deriving DecidableEq, Repr

namespace SqlToken

def isLineBreak (c : Char) : Bool := c = '\n' || c = '\r'

def isBlank (c : Char) : Bool := c = ' ' || c = '\t' || isLineBreak c || c = '\x0c' || c = '\x0b'

/-- A letter, an underscore, or any character beyond ASCII. -/
def isWordStart (c : Char) : Bool := c.isAlpha || c = '_' || 128 ≤ c.toNat

def isWordPart (c : Char) : Bool := isWordStart c || c.isDigit || c = '$'

def isOperatorChar (c : Char) : Bool :=
  ['+', '-', '*', '/', '<', '>', '=', '~', '!', '@', '#', '%', '^', '&', '|', '\x60', '?'].contains c

/-! ## Comments -/

def beginsLineComment (cs : List Char) : Bool := ['-', '-'].isPrefixOf cs

def beginsBlockComment (cs : List Char) : Bool := ['/', '*'].isPrefixOf cs

/-- What follows a line comment. -/
def afterLine (cs : List Char) : List Char := cs.dropWhile fun c => !isLineBreak c

/-- What follows a block comment of some depth; none when it does not end. -/
def afterBlock : (depth : Nat) → List Char → Option (List Char)
  | 0, cs => some cs
  | depth + 1, '*' :: '/' :: cs => afterBlock depth cs
  | depth + 1, '/' :: '*' :: cs => afterBlock (depth + 2) cs
  | depth + 1, _ :: cs => afterBlock (depth + 1) cs
  | _ + 1, [] => none
  termination_by _ cs => cs.length

/-! ## Quotes -/

/-- What a text or a name in quotes may begin with. -/
def openings : List (List Char) :=
  [['\''], ['"'], ['e', '\''], ['E', '\''], ['b', '\''], ['B', '\''], ['x', '\''], ['X', '\''], ['n', '\''], ['N', '\''],
    ['u', '&', '\''], ['U', '&', '\''], ['u', '&', '"'], ['U', '&', '"']]

/-- What stands before the closing quote, and what follows it; none when there is no closing quote. A doubled quote does not close, and
where `escapes` one behind a backslash does not either. -/
def upToQuote (quote : Char) (escapes : Bool) : List Char → Option (List Char × List Char)
  | [] => none
  | c :: cs =>
    if c = quote then
      match cs with
      | d :: ds =>
        if d = quote then (upToQuote quote escapes ds).map fun r => (c :: d :: r.1, r.2) else some ([], d :: ds)
      | [] => some ([], [])
    else if escapes && c = '\\' then
      match cs with
      | d :: ds => (upToQuote quote escapes ds).map fun r => (c :: d :: r.1, r.2)
      | [] => none
    else (upToQuote quote escapes cs).map fun r => (c :: r.1, r.2)

/-- A text in quotes, in some parts at most: another quote goes on with it if there are only blanks before it, and a line break among
them. -/
def quotedText (escapes : Bool) : (parts : Nat) → List Char → Option (List Char × List Char)
  | 0, _ => none
  | parts + 1, cs =>
    (upToQuote '\'' escapes cs).bind fun (content, rest) =>
      let blanks := rest.takeWhile isBlank
      match rest.drop blanks.length with
      | '\'' :: more =>
        if blanks.any isLineBreak then (quotedText escapes parts more).map fun r => (content ++ r.1, r.2) else some (content, rest)
      | _ => some (content, rest)

/-- A text or a name in quotes, behind its opening. A name is not empty. -/
def quoted? (opening cs : List Char) : Option (SqlToken × List Char) :=
  if opening.getLast? = some '"' then
    (upToQuote '"' false cs).bind fun (content, rest) => if content.isEmpty then none else some (.quoted opening content, rest)
  else
    (quotedText (opening = ['e', '\''] || opening = ['E', '\'']) (cs.length + 1) cs).map fun r => (.quoted opening r.1, r.2)

/-- What stands before a tag, and what follows the tag. -/
def upToTag (tag : List Char) : List Char → Option (List Char × List Char)
  | [] => none
  | c :: cs => if tag.isPrefixOf (c :: cs) then some ([], (c :: cs).drop tag.length) else (upToTag tag cs).map fun r => (c :: r.1, r.2)

/-- What begins with a dollar sign, behind it: a parameter, or a text between two tags. -/
def dollar? (cs : List Char) : Option (SqlToken × List Char) :=
  let digits := cs.takeWhile Char.isDigit
  let tag := cs.takeWhile fun c => isWordPart c && c ≠ '$'
  if !digits.isEmpty then if tag.length = digits.length then some (.parameter digits, cs.drop digits.length) else none
  else
    match cs.drop tag.length with
    | '$' :: rest => (upToTag ('$' :: tag ++ ['$']) rest).map fun r => (.quoted ('$' :: tag ++ ['$']) r.1, r.2)
    | _ => none

/-! ## Numbers -/

/-- Digits, with single underscores between them or before them. -/
def digitRun (isDigit : Char → Bool) : List Char → List Char
  | [] => []
  | c :: cs =>
    if isDigit c then c :: digitRun isDigit cs
    else
      match c, cs with
      | '_', d :: ds => if isDigit d then c :: d :: digitRun isDigit ds else []
      | _, _ => []

/-- Digits that begin with a digit. -/
def decimalRun (cs : List Char) : List Char := if (cs.head?.any Char.isDigit) then digitRun Char.isDigit cs else []

/-- The fraction of a number, if there is one. Two points are a mark of their own. -/
def fractionRun : List Char → List Char
  | '.' :: cs => if cs.head? = some '.' then [] else '.' :: decimalRun cs
  | _ => []

/-- The exponent of a number, if there is one. -/
def exponentRun : List Char → List Char
  | [] => []
  | e :: cs =>
    let sign := (cs.take 1).filter fun c => c = '+' || c = '-'
    let digits := decimalRun (cs.drop sign.length)
    if (e = 'e' || e = 'E') && !digits.isEmpty then e :: sign ++ digits else []

/-- The digits of a number whose base is given by the letter behind a zero. -/
def radixDigit? (c : Char) : Option (Char → Bool) :=
  if c = 'x' || c = 'X' then some fun d => d.isDigit || ('a' ≤ d && d ≤ 'f') || ('A' ≤ d && d ≤ 'F')
  else if c = 'o' || c = 'O' then some fun d => '0' ≤ d && d ≤ '7'
  else if c = 'b' || c = 'B' then some fun d => d = '0' || d = '1'
  else none

/-- The characters of a number, which begins with a digit or with a point and a digit. -/
def numberRun (cs : List Char) : List Char :=
  let radix := if cs.head? = some '0' then cs.tail.head?.bind radixDigit? else none
  match radix with
  | some isDigit =>
    let digits := digitRun isDigit (cs.drop 2)
    if digits.isEmpty then ['0'] else cs.take 2 ++ digits
  | none =>
    let whole := decimalRun cs
    let fraction := fractionRun (cs.drop whole.length)
    whole ++ fraction ++ exponentRun (cs.drop (whole ++ fraction).length)

/-- Whether a number begins here. -/
def startsNumber (cs : List Char) : Bool :=
  if cs.head? = some '.' then cs.tail.head?.any Char.isDigit else cs.head?.any Char.isDigit

/-- A number. No word begins directly behind it. -/
def number? (cs : List Char) : Option (SqlToken × List Char) :=
  let run := numberRun cs
  let rest := cs.drop run.length
  if rest.head?.any isWordStart then none else some (.number run, rest)

/-! ## Operators and marks -/

/-- The characters of an operator: a comment may begin among them and ends it. -/
def operatorRun : List Char → List Char
  | [] => []
  | c :: cs =>
    if beginsLineComment (c :: cs) || beginsBlockComment (c :: cs) then []
    else if isOperatorChar c then c :: operatorRun cs
    else []

/-- Whether an operator may end in a plus or minus: only with one of these characters in it. -/
def mayEndInSign (op : List Char) : Bool := op.any fun c => ['~', '!', '@', '#', '%', '^', '&', '|', '\x60', '?'].contains c

/-- An operator of several characters that may not end in a sign loses its signs at the end. -/
def trimSigns (op : List Char) : List Char :=
  if mayEndInSign op then op
  else
    match (op.reverse.dropWhile fun c => c = '+' || c = '-').reverse with
    | [] => op.take 1
    | kept => kept

/-- The marks; the longer ones come first. -/
def marks : List (List Char) := [[':', ':'], [':', '='], ['.', '.'], ['('], [')'], ['['], [']'], [','], [';'], [':'], ['.']]

/-! ## Texts -/

/-- The first token of some characters that begin with no blank and no comment, and what follows it. -/
def first? (cs : List Char) : Option (SqlToken × List Char) :=
  match openings.find? (·.isPrefixOf cs) with
  | some opening => quoted? opening (cs.drop opening.length)
  | none =>
    match cs with
    | [] => none
    | c :: rest =>
      if isWordStart c then
        let tail := rest.takeWhile isWordPart
        some (.word (c :: tail), rest.drop tail.length)
      else if startsNumber cs then number? cs
      else if c = '$' then dollar? rest
      else if isOperatorChar c then
        let op := trimSigns (operatorRun cs)
        some (.operator op, cs.drop op.length)
      else (marks.find? (·.isPrefixOf cs)).map fun m => (.mark m, cs.drop m.length)

/-- The tokens of some characters; none when there is something that is no token. Every turn uses up a character. -/
def split : (turns : Nat) → List Char → Option (List SqlToken)
  | _, [] => some []
  | 0, _ :: _ => none
  | turns + 1, c :: cs =>
    if isBlank c then split turns cs
    else if beginsLineComment (c :: cs) then split turns (afterLine cs)
    else if beginsBlockComment (c :: cs) then (afterBlock 1 (cs.drop 1)).bind (split turns)
    else (first? (c :: cs)).bind fun t => (split turns t.2).map (t.1 :: ·)

/-- The tokens of a text. -/
def ofText? (sql : String) : Option (List SqlToken) := split sql.toList.length sql.toList

/-- The statements among the tokens of a text: what stands between semicolons, where that is anything. -/
def statements (tokens : List SqlToken) : List (List SqlToken) := (tokens.splitOn (.mark [';'])).filter fun ts => !ts.isEmpty

/-- The keywords that have an underscore. Every other word with an underscore is a name. -/
def compoundKeywords : List String :=
  ["current_catalog", "current_date", "current_role", "current_schema", "current_time", "current_timestamp", "current_user", "json_array",
    "json_arrayagg", "json_exists", "json_object", "json_objectagg", "json_query", "json_scalar", "json_serialize", "json_table",
    "json_value", "merge_action", "session_user", "system_user"]

/-- A name without quotes that has an underscore. Keywords can be written in letters of any case. -/
def IsName (text : List Char) : Prop := '_' ∈ text ∧ ∀ keyword ∈ compoundKeywords, keyword.toList ≠ text.map Char.toLower

end SqlToken

end Intake
