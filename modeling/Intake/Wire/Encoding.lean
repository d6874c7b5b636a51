import Intake.Wire.WriteRequest

/-!
# Encoding: write requests as bytes

What a sender writes, beside the reader (`WriteRequest.ofMessage`). Fields stand in the order of their numbers. An empty text is
left out; a number that is zero may be left out or written, so a request has more than one encoding and `WriteRequest.EncodesTo`
is a relation.
-/

namespace Intake

namespace Encoding

/-- A number in groups of seven bits, the lowest first; all bytes but the last have their top bit set. -/
def varint (n : Nat) : List UInt8 :=
  if n < 128 then [UInt8.ofNat n] else UInt8.ofNat (n % 128 + 128) :: varint (n / 128)

/-- The key that opens a field. -/
def key (number : Nat) (w : WireType) : List UInt8 := varint (8 * number + w.code)

/-- The lowest bytes of a number, the lowest first. -/
def littleEndian : (count : Nat) → Nat → List UInt8
  | 0, _ => []
  | count + 1, n => UInt8.ofNat (n % 256) :: littleEndian count (n / 256)

/-- A field that holds bytes. -/
def delimited (number : Nat) (bs : List UInt8) : List UInt8 := key number .lengthDelimited ++ varint bs.length ++ bs

/-- A field that holds a text; an empty one is left out. -/
def text (number : Nat) (s : String) : List UInt8 := if s = "" then [] else delimited number (Utf8.bytes s)

/-- A field that holds a double. -/
def double (number : Nat) (x : Binary64) : List UInt8 := key number .sixtyFourBit ++ littleEndian 8 x.bits.toNat

/-- A field that holds a signed number, in the sixty-four bits of its two's complement. -/
def integer (number : Nat) (i : Int) : List UInt8 := key number .varint ++ varint (i % 0x10000000000000000).toNat

def label (l : WireLabel) : List UInt8 := text 1 l.name ++ text 2 l.value

end Encoding

/-- A field as it may stand in an encoding: written, or left out if it holds zero. -/
inductive MayOmit (isZero : Prop) (written : List UInt8) : List UInt8 → Prop where
  | present : MayOmit isZero written written
  | absent : isZero → MayOmit isZero written []

inductive WireSample.EncodesTo (p : WireSample) : List UInt8 → Prop where
  | fields {value time : List UInt8} : MayOmit (p.value = Binary64.zero) (Encoding.double 1 p.value) value →
      MayOmit (p.timestamp = 0) (Encoding.integer 2 p.timestamp) time → EncodesTo p (value ++ time)

/-- Some messages, each encoded in one field of a number. -/
inductive EncodeEach {α : Type} (encodes : α → List UInt8 → Prop) (number : Nat) : List α → List UInt8 → Prop where
  | nil : EncodeEach encodes number [] []
  | cons {a : α} {rest : List α} {bs more : List UInt8} : encodes a bs → EncodeEach encodes number rest more →
      EncodeEach encodes number (a :: rest) (Encoding.delimited number bs ++ more)

inductive TimeSeries.EncodesTo (s : TimeSeries) : List UInt8 → Prop where
  | fields {samples : List UInt8} : EncodeEach WireSample.EncodesTo 2 s.samples samples →
      EncodesTo s (s.labels.flatMap (fun l => Encoding.delimited 1 (Encoding.label l)) ++ samples)

/-- The bytes are an encoding of the request. -/
def WriteRequest.EncodesTo (r : WriteRequest) (bs : List UInt8) : Prop := EncodeEach TimeSeries.EncodesTo 1 r.timeseries bs

end Intake
