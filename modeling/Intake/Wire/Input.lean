/-!
# Input: the bytes still to be read

A reader takes bytes off the front of its input and answers what it read with the rest. The input knows how many bytes it has
left, because both wire formats check lengths against that number and report it in their errors.

A varint is a number as groups of seven bits, lowest first, every byte but the last with its high bit set.
-/

namespace Intake

/-- Bytes with their number. -/
structure Input where
  bytes : List UInt8
  left : Nat
  left_eq : left = bytes.length := by rfl

namespace Input

def ofList (bs : List UInt8) : Input := { bytes := bs, left := bs.length }

/-- The first byte and the rest. -/
def next? : Input → Option (UInt8 × Input)
  | ⟨[], _, _⟩ => none
  | ⟨b :: bs, n, h⟩ => some (b, ⟨bs, n - 1, by simp [h]⟩)

/-- The first `n` bytes and the rest, if there are that many. -/
def take? (i : Input) (n : Nat) : Option (List UInt8 × Input) :=
  if n ≤ i.left then some (i.bytes.take n, ⟨i.bytes.drop n, i.left - n, by simp [i.left_eq]⟩) else none

/-- The number that bytes write with the lowest first. -/
def littleEndian (bs : List UInt8) : Nat := bs.foldr (fun b n => b.toNat + 256 * n) 0

/-- Reads a varint of at most `allowed` bytes. -/
def varintOf? : (allowed : Nat) → Input → Option (Nat × Input)
  | 0, _ => none
  | allowed + 1, i =>
    match i.next? with
    | none => none
    | some (b, rest) =>
      if b.toNat < 128 then some (b.toNat, rest)
      else (varintOf? allowed rest).map fun r => (b.toNat - 128 + 128 * r.1, r.2)

/-- Reads a varint that fits sixty-four bits. -/
def varint? (i : Input) : Option (Nat × Input) := (varintOf? 10 i).filter fun r => decide (r.1 < 0x10000000000000000)

end Input

end Intake
