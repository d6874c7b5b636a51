import Intake.Event
import Intake.Text.Blank
import Intake.Text.Letter
import Intake.Text.Pattern
import Intake.Text.Utf8

/-!
# Log filter: which events are shown

A filter is a list of directives with commas between them. A directive is a level for everything, the beginning of a target with
a level (`store=info`), or the beginning of a target alone, which then shows everything. In brackets a directive may name a field
that an event must have (`[{lock_id}]=info`), or a span of time and the value of a field, which is a number or a pattern; the
service has no spans of time, so such a directive shows none of its events. Of the directives that fit an event the most particular decides, and of two alike the
later one; an event that none fits is not shown. A filter with a malformed directive is none.

Places in a directive are counted from its first character that is no blank, but the texts at these places are cut out of the
directive with its blanks: a blank in front makes it a directive about another target, or a malformed one.
-/

namespace Intake

structure LogDirective where
  /-- What the targets begin with that the directive is about; every target begins with nothing. -/
  start : List Char
  /-- The field that an event must have. -/
  field : Option String := none
  /-- Whether the directive is about spans of time only. -/
  inSpan : Bool := false
  /-- How many levels are shown, counted from the most important one. -/
  shown : Nat
  deriving DecidableEq, Inhabited, Repr

namespace LogFilter

/-! ## Reading -/

/-- All levels. -/
def everything : Nat := 5

/-- How many levels a word or a number stands for. -/
def levelCount? (word : String) : Option Nat :=
  let lower := word.toList.map Char.toLower
  match ["off", "error", "warn", "info", "debug", "trace"].findIdx? (fun w => w.toList = lower) with
  | some n => some n
  | none =>
    if word.toList.head? = some '-' then none
    else (Decimal.readInt? word).bind fun i => if i ≤ everything then some i.toNat else none

/-- How many levels are shown by what stands behind an equals sign; nothing shows everything. -/
def shownBy? (text : String) : Option Nat := if text = "" then some everything else levelCount? text

/-- Whether a directive can begin with a character, one in brackets apart. -/
def isTargetStart (c : Char) : Bool := c = '-' || c = ':' || c = '_' || isLetterOrNumber c

/-- The text between two places; none when one of them divides a character. -/
def cut? (whole : List UInt8) (start stop : Nat) : Option String := Utf8.decode? ((whole.drop start).take (stop - start))

/-- The text from a place on. -/
def rest? (whole : List UInt8) (start : Nat) : Option String := Utf8.decode? (whole.drop start)

/-- The first place, from a place on, where one of some characters stands. -/
def placeOf? (marks : List Char) (inner : List UInt8) (start : Nat) : Option Nat :=
  ((inner.drop start).findIdx? fun b => marks.any fun c => c.toUInt8 = b).map (start + ·)

/-- How many levels are shown by what follows the brackets: nothing, or an equals sign and a level. -/
def shownBehind? (whole inner : List UInt8) (place : Nat) : Option Nat :=
  match inner[place]? with
  | none => some everything
  | some b => if b = '='.toUInt8 then (rest? whole (place + 1)).bind shownBy? else none

/-- The name of a field, and its value if it has one; what follows a second equals sign does not count. None when the value is
neither a number nor a pattern. -/
def fieldOf? (text : String) : Option (String × Option String) :=
  match text.splitOn "=" with
  | name :: value :: _ =>
    if (Decimal.read? value).isSome || Pattern.isWellFormed value then some (name, some value) else none
  | _ => some (text, none)

/-- A directive about a target whose brackets have been opened before a place. -/
def inBrackets? (whole inner : List UInt8) (start : List Char) (place : Nat) : Option LogDirective := do
  let nameEnd ← placeOf? [']', '\x7b'] inner place
  if inner[nameEnd]? = some ']'.toUInt8 then
    return { start, inSpan := true, shown := ← shownBehind? whole inner (nameEnd + 1) }
  else
    let fieldEnd ← placeOf? ['\x7d'] inner (nameEnd + 1)
    let text ← cut? whole (nameEnd + 1) fieldEnd
    if text = "" ∨ inner[fieldEnd + 1]? ≠ some ']'.toUInt8 then none
    else
      let (field, value) ← fieldOf? text
      let shown ← shownBehind? whole inner (fieldEnd + 2)
      return { start, field := some field, inSpan := decide (place < nameEnd) || value.isSome, shown }

/-- The directive that a piece stands for. -/
def directive? (piece : String) : Option LogDirective :=
  let inside := trimBlank piece
  let whole := Utf8.bytes piece
  let inner := Utf8.bytes inside
  match inside.toList.head? with
  | none => none
  | some '[' => inBrackets? whole inner [] 1
  | some c =>
    if !isTargetStart c then none
    else
      match placeOf? ['=', '['] inner 0 with
      | none =>
        match levelCount? piece with
        | some shown => some { start := [], shown }
        | none => some { start := piece.toList, shown := everything }
      | some place =>
        (cut? whole 0 place).bind fun start =>
          if inner[place]? = some '['.toUInt8 then inBrackets? whole inner start.toList (place + 1)
          else
            (rest? whole (place + 1)).bind fun level => (shownBy? level).map fun shown =>
              ({ start := start.toList, shown } : LogDirective)

/-- The directives of a filter; none when one of them is malformed. -/
def read? (s : String) : Option (List LogDirective) := ((s.splitOn ",").filter (· ≠ "")).mapM directive?

/-! ## Showing -/

/-- Whether a directive is about an event with some fields under a target. -/
def fits (target : List Char) (fields : List String) (d : LogDirective) : Bool :=
  !d.inSpan && d.start.isPrefixOf target && d.field.all fields.contains

/-- Whether one directive that fits an event is not more particular than another one: first the longer beginning of the target
counts, then a field, and then which of two fields comes later by its bytes. -/
def yields (a b : LogDirective) : Bool :=
  if a.start.length = b.start.length then
    match a.field, b.field with
    | none, _ => true
    | some _, none => false
    | some x, some y => Utf8.atMost x y
  else decide (a.start.length < b.start.length)

/-- How many levels are shown of an event with some fields under a target. -/
def shownFor (target : List Char) (fields : List String) (ds : List LogDirective) : Nat :=
  (((ds.filter (fits target fields)).foldl (fun (best : Option LogDirective) d =>
    if best.all fun b => yields b d then some d else best) none).map LogDirective.shown).getD 0

/-- Whether an event is shown under a target. What is not logged at all is not shown. -/
def shows (ds : List LogDirective) (target : String) (e : Event) : Bool :=
  e.level?.any fun l => decide (l.rank < shownFor target.toList e.fieldNames ds)

end LogFilter

end Intake
