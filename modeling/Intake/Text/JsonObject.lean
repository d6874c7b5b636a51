import Intake.Text.JsonString

/-!
# JSON objects of strings

The labels of a series are kept as the text of a JSON object whose members are strings. `render` writes such an object in one
fixed way; `read?` reads any JSON object of strings, with blanks where the grammar allows them, and gives its members in the
order they stand.
-/

namespace Intake

namespace JsonObject

abbrev Member := List Char × List Char

/-- One member: name, colon, one space, value. -/
def renderMember (m : Member) : List Char := JsonString.encode m.1 ++ [':', ' '] ++ JsonString.encode m.2

/-- The members joined by commas, without the braces. -/
def renderMembers : List Member → List Char
  | [] => []
  | [m] => renderMember m
  | m :: ms => renderMember m ++ ',' :: renderMembers ms

/-- The object with its braces. -/
def render (ms : List Member) : List Char := '\x7b' :: renderMembers ms ++ ['\x7d']

/-- The blanks of JSON. -/
def isBlankChar (c : Char) : Bool := c = ' ' || c = '\t' || c = '\n' || c = '\r'

def skipBlank (cs : List Char) : List Char := cs.dropWhile isBlankChar

/-- Reads one member and the blanks around it. -/
def readMember? (cs : List Char) : Option (Member × List Char) :=
  match JsonString.decode? (skipBlank cs) with
  | none => none
  | some (name, rest) =>
    match skipBlank rest with
    | ':' :: rest =>
      match JsonString.decode? (skipBlank rest) with
      | some (value, rest) => some ((name, value), skipBlank rest)
      | none => none
    | _ => none

/-- Reads the members after an opening brace, up to the closing one. Every member takes at least one character, so as many turns
as there are characters are enough. -/
def readMembers? : Nat → List Char → Option (List Member × List Char)
  | 0, _ => none
  | turns + 1, cs =>
    match readMember? cs with
    | none => none
    | some (m, '\x7d' :: rest) => some ([m], rest)
    | some (m, ',' :: rest) => (readMembers? turns rest).map fun r => (m :: r.1, r.2)
    | some _ => none

/-- Reads a whole object and nothing after it. -/
def read? (cs : List Char) : Option (List Member) :=
  match skipBlank cs with
  | '\x7b' :: rest =>
    let members : Option (List Member × List Char) := match skipBlank rest with
      | '\x7d' :: after => some ([], after)
      | body => readMembers? body.length body
    members.bind fun r => if (skipBlank r.2).isEmpty then some r.1 else none
  | _ => none

end JsonObject

end Intake
