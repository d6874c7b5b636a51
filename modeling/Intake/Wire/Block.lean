import Intake.Wire.Input

/-!
# Block: compressed bodies

A body is compressed as one block: a varint with the length of the content, then elements until the input ends. An element is a
literal, which carries its bytes, or a copy, which repeats bytes already written from a given distance back and may overlap what
it writes. The content must have exactly the announced length.
-/

namespace Intake

/-- Why a block cannot be expanded. -/
inductive BlockError where
  | empty
  | badHeader
  | tooLarge (announced : Nat)
  /-- The bytes of a literal, or of its length, are not there or do not fit. -/
  | literal (length inputLeft outputLeft : Nat)
  /-- The bytes of a copy's offset are not there. -/
  | copyOffset (length inputLeft : Nat)
  /-- A copy starts before the beginning, or nowhere. -/
  | badOffset (offset written : Nat)
  /-- A copy does not fit. -/
  | copyOverrun (length outputLeft : Nat)
  | wrongLength (announced written : Nat)
  deriving DecidableEq, Repr

/-- The greatest length a header may announce. -/
def maxBlockLength : Nat := 4294967295

def BlockError.message : BlockError → String
  | .empty => "snappy: corrupt input (empty)"
  | .badHeader => "snappy: corrupt input (invalid header)"
  | .tooLarge n =>
    "snappy: input buffer (size = " ++ toString n ++ ") is larger than allowed (size = " ++ toString maxBlockLength ++ ")"
  | .literal n s d =>
    "snappy: corrupt input (expected literal read of length " ++ toString n ++ "; remaining src: " ++ toString s
      ++ "; remaining dst: " ++ toString d ++ ")"
  | .copyOffset n s =>
    "snappy: corrupt input (expected copy read of length " ++ toString n ++ "; remaining src: " ++ toString s ++ ")"
  | .badOffset o w =>
    "snappy: corrupt input (expected valid offset but got offset " ++ toString o ++ "; dst position: " ++ toString w ++ ")"
  | .copyOverrun n d =>
    "snappy: corrupt input (expected copy write of length " ++ toString n ++ "; remaining dst: " ++ toString d ++ ")"
  | .wrongLength e g =>
    "snappy: corrupt input (header mismatch; expected " ++ toString e ++ " decompressed bytes but got " ++ toString g ++ ")"

namespace Block

/-- Appends `n` bytes to the output, each the one `offset` back from where it is written. -/
def repeatBack (offset : Nat) : (n : Nat) → Array UInt8 → Array UInt8
  | 0, out => out
  | n + 1, out => repeatBack offset n (out.push (out.getD (out.size - offset) 0))

/-- A literal with the tag's upper six bits. Lengths up to 60 stand in the tag, longer ones in one to four bytes behind it. -/
def literal (announced tagRest : Nat) (i : Input) (out : Array UInt8) : Except BlockError (Input × Array UInt8) :=
  let room := announced - out.size
  let body (n : Nat) (i : Input) : Except BlockError (Input × Array UInt8) :=
    match i.take? n with
    | some (bs, rest) => if n ≤ room then .ok (rest, out ++ bs.toArray) else .error (.literal n i.left room)
    | none => .error (.literal n i.left room)
  if tagRest < 60 then body (tagRest + 1) i
  else
    match i.take? (tagRest - 59) with
    | some (bs, rest) => body (Input.littleEndian bs + 1) rest
    | none => .error (.literal (tagRest - 59) i.left room)

/-- A copy of `n` bytes whose offset has `high` as its upper part and `width` further bytes behind the tag. -/
def copy (announced n high width : Nat) (i : Input) (out : Array UInt8) : Except BlockError (Input × Array UInt8) :=
  match i.take? width with
  | none => .error (.copyOffset width i.left)
  | some (bs, rest) =>
    let offset := high * 256 + Input.littleEndian bs
    if offset = 0 ∨ out.size < offset then .error (.badOffset offset out.size)
    else if announced - out.size < n then .error (.copyOverrun n (announced - out.size))
    else .ok (rest, repeatBack offset n out)

/-- One element: the two low bits of its tag tell the kind. -/
def element (announced : Nat) (tag : Nat) (i : Input) (out : Array UInt8) : Except BlockError (Input × Array UInt8) :=
  match tag % 4 with
  | 0 => literal announced (tag / 4) i out
  | 1 => copy announced (4 + tag / 4 % 8) (tag / 32) 1 i out
  | 2 => copy announced (tag / 4 + 1) 0 2 i out
  | _ => copy announced (tag / 4 + 1) 0 4 i out

/-- Elements until the input ends. An element takes its tag off the input, so the input gets shorter with each. -/
def elements (announced : Nat) (i : Input) (out : Array UInt8) : Except BlockError (Array UInt8) :=
  match i.next? with
  | none => .ok out
  | some (tag, rest) =>
    match element announced tag.toNat rest out with
    | .error e => .error e
    | .ok (next, out) => if next.left < i.left then elements announced next out else .ok out
  termination_by i.left

/-- The length that the header announces, and the elements behind it. -/
def header (i : Input) : Except BlockError (Nat × Input) :=
  if i.left = 0 then .error .empty
  else
    match Input.varintOf? 5 i with
    | none => .error .badHeader
    | some (n, rest) => if maxBlockLength < n then .error (.tooLarge n) else .ok (n, rest)

/-- Expands a whole block. -/
def expand (body : List UInt8) : Except BlockError (List UInt8) :=
  match header (Input.ofList body) with
  | .error e => .error e
  | .ok (announced, rest) =>
    match elements announced rest #[] with
    | .error e => .error e
    | .ok out => if out.size = announced then .ok out.toList else .error (.wrongLength announced out.size)

end Block

end Intake
