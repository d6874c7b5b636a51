import Intake.Wire.Field

/-!
# Grammar: fields that any sender may write

What a well-formed field is, beside the reader of messages (`Field.fields`) and for fields of every number and type. A number may be
written with more bytes than it needs, and a group holds fields of its own.

`MessageKind.Inserts` is the relation between a message and the same message with one more field that nobody knows. The field may
stand wherever one can begin: between two fields of the message, or between those of a message inside it, whose length is then written
anew.
-/

namespace Intake

namespace Grammar

/-- The bytes write a number in groups of seven bits, the lowest first. All bytes but the last have their top bit set; the last
groups may be zero. -/
inductive Septets : Nat → List UInt8 → Prop where
  | last {b : UInt8} : b.toNat < 128 → Septets b.toNat [b]
  | more {b : UInt8} {n : Nat} {bs : List UInt8} : 128 ≤ b.toNat → Septets n bs → Septets (b.toNat - 128 + 128 * n) (b :: bs)

/-- The bytes are a varint of sixty-four bits. -/
structure Varint (n : Nat) (bs : List UInt8) : Prop where
  septets : Septets n bs
  length_le : bs.length ≤ 10
  lt : n < 0x10000000000000000

/-- The bytes are the key of a field. -/
structure Key (number : Nat) (w : WireType) (bs : List UInt8) : Prop where
  pos : 1 ≤ number
  lt : number < 0x20000000
  varint : Varint (8 * number + w.code) bs

end Grammar

/-- A field as it stands in a message. -/
structure RawField where
  number : Nat
  type : WireType
  key : List UInt8
  content : List UInt8

def RawField.bytes (f : RawField) : List UInt8 := f.key ++ f.content

/-- Some fields, one after the other. -/
def RawField.allBytes (fs : List RawField) : List UInt8 := fs.flatMap RawField.bytes

/-- The bytes are the content of a field with this number and type. Groups in it are nested at most `depth` deep; a group ends with
a key that has the number of its start. -/
inductive Grammar.Content : (depth number : Nat) → WireType → List UInt8 → Prop where
  | varint {depth number n : Nat} {bs : List UInt8} : Grammar.Varint n bs → Content depth number .varint bs
  | sixtyFourBit {depth number : Nat} {bs : List UInt8} : bs.length = 8 → Content depth number .sixtyFourBit bs
  | thirtyTwoBit {depth number : Nat} {bs : List UInt8} : bs.length = 4 → Content depth number .thirtyTwoBit bs
  | lengthDelimited {depth number : Nat} {length bs : List UInt8} : Grammar.Varint bs.length length →
      Content depth number .lengthDelimited (length ++ bs)
  | group {depth number : Nat} {fields : List RawField} {last : List UInt8} :
      (∀ f ∈ fields, Grammar.Key f.number f.type f.key) → (∀ f ∈ fields, Content depth f.number f.type f.content) →
      Grammar.Key number .endGroup last → Content (depth + 1) number .startGroup (RawField.allBytes fields ++ last)

/-- The field is well formed, with groups nested at most `depth` deep. -/
structure RawField.WellFormed (depth : Nat) (f : RawField) : Prop where
  key : Grammar.Key f.number f.type f.key
  content : Grammar.Content depth f.number f.type f.content

/-- The messages that a write request is made of. -/
inductive MessageKind where
  | request | series | label | sample
  deriving DecidableEq, Repr

namespace MessageKind

/-- The numbers of the fields that a message knows. -/
def fieldNumbers : MessageKind → List Nat
  | .request => [1]
  | .series | .label | .sample => [1, 2]

/-- The message that a field holds, if it holds one. -/
def inner? : MessageKind → Nat → Option MessageKind
  | .request, 1 => some .series
  | .series, 1 => some .label
  | .series, 2 => some .sample
  | _, _ => none

/-- The second message is the first one with one more field somewhere, which is unknown where it stands. -/
inductive Inserts : MessageKind → List UInt8 → List UInt8 → Prop where
  | here {kind : MessageKind} {before : List RawField} {f : RawField} (after : List UInt8) :
      (∀ g ∈ before, ∃ depth, g.WellFormed depth) → f.WellFormed 90 → f.number ∉ kind.fieldNumbers →
      Inserts kind (RawField.allBytes before ++ after) (RawField.allBytes before ++ f.bytes ++ after)
  | inside {kind inner : MessageKind} {before : List RawField} {number : Nat} {key length length' content content' : List UInt8}
      (after : List UInt8) : (∀ g ∈ before, ∃ depth, g.WellFormed depth) → kind.inner? number = some inner →
      Grammar.Key number .lengthDelimited key → Grammar.Varint content.length length → Grammar.Varint content'.length length' →
      Inserts inner content content' →
      Inserts kind (RawField.allBytes before ++ (key ++ length ++ content) ++ after)
        (RawField.allBytes before ++ (key ++ length' ++ content') ++ after)

end MessageKind

end Intake
