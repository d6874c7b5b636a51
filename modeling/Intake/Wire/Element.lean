import Intake.Wire.Block
import Intake.Wire.Encoding

/-!
# Elements: what a block is made of

What a compressor writes, beside the expander (`Block.expand`). After the length of its content a block is a sequence of elements:
literal bytes, and copies of bytes that were written before. A copy may reach into itself. The same bytes can be written as
elements in many ways; `Block.Holds` is the relation between a block and its content.
-/

namespace Intake

/-- One element of a block. -/
inductive BlockElement where
  /-- Literal bytes whose number is written in the tag. -/
  | shortLiteral (bytes : List UInt8)
  /-- Literal bytes whose number is written in some bytes behind the tag. -/
  | longLiteral (width : Nat) (bytes : List UInt8)
  /-- A copy of four to eleven bytes from nearby: eleven bits of offset, three in the tag. -/
  | nearCopy (length offset : Nat)
  /-- A copy with two or four bytes of offset. -/
  | farCopy (wide : Bool) (length offset : Nat)
  deriving DecidableEq, Repr

namespace BlockElement

/-- The element as it is written. -/
def encode : BlockElement → List UInt8
  | .shortLiteral bs => UInt8.ofNat (4 * (bs.length - 1)) :: bs
  | .longLiteral width bs => UInt8.ofNat (4 * (59 + width)) :: (Encoding.littleEndian width (bs.length - 1) ++ bs)
  | .nearCopy length offset =>
    [UInt8.ofNat (1 + 4 * (length - 4) + 32 * (offset / 256)), UInt8.ofNat (offset % 256)]
  | .farCopy false length offset => UInt8.ofNat (2 + 4 * (length - 1)) :: Encoding.littleEndian 2 offset
  | .farCopy true length offset => UInt8.ofNat (3 + 4 * (length - 1)) :: Encoding.littleEndian 4 offset

/-- The bytes that a copy yields: each is the one that stands `offset` before it. -/
def copied (offset : Nat) : (length : Nat) → List UInt8 → List UInt8
  | 0, out => out
  | length + 1, out => copied offset length (out ++ [out.getD (out.length - offset) 0])

/-- What has been written once the element is. -/
def apply (out : List UInt8) : BlockElement → List UInt8
  | .shortLiteral bs => out ++ bs
  | .longLiteral _ bs => out ++ bs
  | .nearCopy length offset => copied offset length out
  | .farCopy _ length offset => copied offset length out

/-- Whether the element can stand where so many bytes have been written. -/
def Fits (written : Nat) : BlockElement → Prop
  | .shortLiteral bs => 1 ≤ bs.length ∧ bs.length ≤ 60
  | .longLiteral width bs => 1 ≤ width ∧ width ≤ 4 ∧ 1 ≤ bs.length ∧ bs.length ≤ Nat.pow 256 width
  | .nearCopy length offset => 4 ≤ length ∧ length ≤ 11 ∧ 1 ≤ offset ∧ offset ≤ written ∧ offset < 2048
  | .farCopy wide length offset =>
    1 ≤ length ∧ length ≤ 64 ∧ 1 ≤ offset ∧ offset ≤ written ∧ offset < (if wide then 0x100000000 else 0x10000)

instance (written : Nat) : (e : BlockElement) → Decidable (e.Fits written)
  | .shortLiteral bs => inferInstanceAs (Decidable (1 ≤ bs.length ∧ bs.length ≤ 60))
  | .longLiteral width bs =>
    inferInstanceAs (Decidable (1 ≤ width ∧ width ≤ 4 ∧ 1 ≤ bs.length ∧ bs.length ≤ Nat.pow 256 width))
  | .nearCopy length offset =>
    inferInstanceAs (Decidable (4 ≤ length ∧ length ≤ 11 ∧ 1 ≤ offset ∧ offset ≤ written ∧ offset < 2048))
  | .farCopy wide length offset =>
    inferInstanceAs (Decidable (1 ≤ length ∧ length ≤ 64 ∧ 1 ≤ offset ∧ offset ≤ written ∧
      offset < (if wide then 0x100000000 else 0x10000)))

end BlockElement

namespace Block

/-- The elements turn what has been written into the content. -/
inductive Expands : List UInt8 → List BlockElement → List UInt8 → Prop where
  | done (content : List UInt8) : Expands content [] content
  | step {out content : List UInt8} {e : BlockElement} {rest : List BlockElement} : e.Fits out.length →
      Expands (e.apply out) rest content → Expands out (e :: rest) content

/-- The bytes are a block with this content. -/
def Holds (block content : List UInt8) : Prop :=
  ∃ elements : List BlockElement, Expands [] elements content ∧
    block = Encoding.varint content.length ++ elements.flatMap BlockElement.encode

end Block

end Intake
