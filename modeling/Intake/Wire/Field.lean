import Intake.Wire.Input

/-!
# Fields: the grammar of tagged messages

A message is a sequence of fields. A field is a key, which names its number and its wire type, and a content of that type. The
reader of a message hands each field it knows to the message's own function and skips every other one, groups included.
Lengths are checked against all the input that is left, not against the enclosing message; a message whose fields ran past its
end is refused after the field that overran.

Messages and groups inside each other use up a budget, so the depth of nesting is bounded.
-/

namespace Intake

/-- How the content of a field is laid out. -/
inductive WireType where
  | varint | sixtyFourBit | lengthDelimited | startGroup | endGroup | thirtyTwoBit
  deriving DecidableEq, Repr

namespace WireType

def name : WireType → String
  | .varint => "Varint"
  | .sixtyFourBit => "SixtyFourBit"
  | .lengthDelimited => "LengthDelimited"
  | .startGroup => "StartGroup"
  | .endGroup => "EndGroup"
  | .thirtyTwoBit => "ThirtyTwoBit"

/-- The three low bits of a key that stand for the type. -/
def code : WireType → Nat
  | .varint => 0
  | .sixtyFourBit => 1
  | .lengthDelimited => 2
  | .startGroup => 3
  | .endGroup => 4
  | .thirtyTwoBit => 5

def ofCode? : Nat → Option WireType
  | 0 => some .varint
  | 1 => some .sixtyFourBit
  | 2 => some .lengthDelimited
  | 3 => some .startGroup
  | 4 => some .endGroup
  | 5 => some .thirtyTwoBit
  | _ => none

end WireType

/-- What is wrong with the bytes of a field. -/
inductive FieldFault where
  | badVarint
  | badKey (key : Nat)
  | badWireType (code : Nat)
  | zeroTag
  | wrongWireType (got expected : WireType)
  /-- The content is longer than the input that is left. -/
  | underflow
  /-- The fields of a message ran past its end. -/
  | overrun
  | notUtf8
  | strayEndGroup
  | tooDeep
  deriving DecidableEq, Repr

def FieldFault.message : FieldFault → String
  | .badVarint => "invalid varint"
  | .badKey k => "invalid key value: " ++ toString k
  | .badWireType c => "invalid wire type value: " ++ toString c
  | .zeroTag => "invalid tag value: 0"
  | .wrongWireType a b => "invalid wire type: " ++ a.name ++ " (expected " ++ b.name ++ ")"
  | .underflow => "buffer underflow"
  | .overrun => "delimited length exceeded"
  | .notUtf8 => "invalid string value: data is not UTF-8 encoded"
  | .strayEndGroup => "unexpected end group tag"
  | .tooDeep => "recursion limit reached"

/-- A fault and the known fields it lies in, innermost first. -/
structure MessageError where
  path : List String
  fault : FieldFault
  deriving DecidableEq, Repr

namespace MessageError

def message (e : MessageError) : String :=
  "failed to decode Protobuf message: " ++ String.join (e.path.map (· ++ ": ")) ++ e.fault.message

/-- The error seen from outside a known field. -/
def within (field : String) (e : MessageError) : MessageError := { e with path := e.path ++ [field] }

end MessageError

abbrev FieldResult (α : Type) := Except MessageError (α × Input)

namespace Field

def fault (f : FieldFault) : MessageError := ⟨[], f⟩

/-- Reads a varint. -/
def varint (i : Input) : FieldResult Nat :=
  match i.varint? with
  | some r => .ok r
  | none => .error (fault .badVarint)

/-- Reads a key: the number and the wire type of a field. -/
def key (i : Input) : FieldResult (Nat × WireType) :=
  match varint i with
  | .error e => .error e
  | .ok (k, rest) =>
    if 0x100000000 ≤ k then .error (fault (.badKey k))
    else
      match WireType.ofCode? (k % 8) with
      | none => .error (fault (.badWireType (k % 8)))
      | some w => if k / 8 = 0 then .error (fault .zeroTag) else .ok ((k / 8, w), rest)

/-- The depth of nesting a whole message may use. -/
def depthBudget : Nat := 100

/-- Takes `n` bytes that must be there. -/
def bytes (n : Nat) (i : Input) : FieldResult (List UInt8) :=
  match i.take? n with
  | some r => .ok r
  | none => .error (fault .underflow)

/-- Reads a length and that many bytes. -/
def delimited (i : Input) : FieldResult (List UInt8) :=
  match varint i with
  | .error e => .error e
  | .ok (n, rest) => bytes n rest

/-- Drops what a reader read. -/
def restOf {α : Type} : FieldResult α → Except MessageError Input
  | .error e => .error e
  | .ok (_, rest) => .ok rest

/-- Skips the fields of a group up to its end, which must have the number of its start; `skip` skips one field. -/
def skipGroup (skip : WireType → Nat → Input → Except MessageError Input) (number : Nat) (i : Input) :
    Except MessageError Input :=
  match key i with
  | .error e => .error e
  | .ok ((n, .endGroup), rest) => if n = number then .ok rest else .error (fault .strayEndGroup)
  | .ok ((n, w), rest) =>
    match skip w n rest with
    | .error e => .error e
    | .ok next => if next.left < i.left then skipGroup skip number next else .ok next
  termination_by i.left

/-- Skips the content of a field nobody knows. -/
def skip : (depth : Nat) → WireType → (number : Nat) → Input → Except MessageError Input
  | 0, _, _, _ => .error (fault .tooDeep)
  | depth + 1, w, number, i =>
    match w with
    | .varint => restOf (varint i)
    | .thirtyTwoBit => restOf (bytes 4 i)
    | .sixtyFourBit => restOf (bytes 8 i)
    | .lengthDelimited => restOf (delimited i)
    | .startGroup => skipGroup (skip depth) number i
    | .endGroup => .error (fault .strayEndGroup)

/-- The type that a known field must have. -/
def expect (expected got : WireType) : Except MessageError Unit :=
  if got = expected then .ok () else .error (fault (.wrongWireType got expected))

/-- How a message takes in one field: the message so far, the number and type of the field, and the input at its content. -/
abbrev Merge (α : Type) := α → Nat → WireType → Input → FieldResult α

/-- Reads fields while more than `limit` bytes are left, and checks that exactly that many are left then. -/
def fields {α : Type} (merge : Merge α) (limit : Nat) (acc : α) (i : Input) : FieldResult α :=
  if limit < i.left then
    match key i with
    | .error e => .error e
    | .ok ((number, w), rest) =>
      match merge acc number w rest with
      | .error e => .error e
      | .ok (acc, next) => if next.left < i.left then fields merge limit acc next else .ok (acc, next)
  else if i.left = limit then .ok (acc, i)
  else .error (fault .overrun)
  termination_by i.left

/-- A field no message knows: it is skipped. -/
def unknown {α : Type} (depth : Nat) (acc : α) (number : Nat) (w : WireType) (i : Input) : FieldResult α :=
  match skip depth w number i with
  | .error e => .error e
  | .ok rest => .ok (acc, rest)

/-- A nested message: its length and its fields. `merge` is the message's function at the depth inside it. -/
def message {α : Type} (merge : Nat → Merge α) (init : α) : (depth : Nat) → WireType → Input → FieldResult α
  | depth, w, i =>
    match expect .lengthDelimited w with
    | .error e => .error e
    | .ok () =>
      match depth with
      | 0 => .error (fault .tooDeep)
      | depth + 1 =>
        match varint i with
        | .error e => .error e
        | .ok (n, rest) =>
          if rest.left < n then .error (fault .underflow) else fields (merge depth) (rest.left - n) init rest

/-- A known field: errors inside it name it. -/
def known {α : Type} (name : String) (r : FieldResult α) : FieldResult α :=
  match r with
  | .error e => .error (e.within name)
  | .ok p => .ok p

end Field

end Intake
