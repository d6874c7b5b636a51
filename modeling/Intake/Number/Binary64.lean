/-!
# Binary64: double-precision numbers as their sixty-four bits, with exact arithmetic

A sample value, a counter and a rate are IEEE 754 double-precision numbers. They are kept as their bits, so a not-a-number
payload and the sign of zero survive storage, and every operation is defined through exact integers: a finite number is
`m * 2 ^ e`, an operation is carried out exactly on such numbers, and its result is rounded once, to the nearest double, a tie
going to the even one (`roundQuotient`).
-/

namespace Intake

/-- A double-precision number, given by its bits: one sign bit, eleven of exponent, fifty-two of fraction. -/
structure Binary64 where
  bits : UInt64
  deriving DecidableEq, Inhabited, Repr

namespace Binary64

/-- What the bits say: nothing, an infinity, or the finite number `±mantissa * 2 ^ exponent`. -/
inductive Value where
  | nan
  | infinite (negative : Bool)
  | finite (negative : Bool) (mantissa : Nat) (exponent : Int)
  deriving DecidableEq, Repr

/-- The bits of positive infinity, and with it the first pattern that is no finite number. -/
def infinityBits : Nat := 0x7ff0000000000000

/-- The weight of the sign bit. -/
def signBit : Nat := 0x8000000000000000

/-- The weight of the lowest bit of the exponent field, which is that of the hidden bit of a mantissa, the fifty-third. -/
def hiddenBit : Nat := 0x10000000000000

def isNegative (x : Binary64) : Bool := decide (signBit ≤ x.bits.toNat)

/-- The bits without the sign. -/
def magnitude (x : Binary64) : Nat := x.bits.toNat % signBit

/-- The number that the bits stand for. The exponent of a number with exponent field `f` is `f - 1075`, and a field of zero
reads as one without the hidden bit. -/
def value (x : Binary64) : Value :=
  let mag := x.magnitude
  if infinityBits < mag then .nan
  else if mag = infinityBits then .infinite x.isNegative
  else
    let field := mag / hiddenBit
    let fraction := mag % hiddenBit
    if field = 0 then .finite x.isNegative fraction (-1074)
    else .finite x.isNegative (hiddenBit + fraction) ((field : Int) - 1075)

def isNaN (x : Binary64) : Bool := decide (infinityBits < x.magnitude)

/-- A number with the given sign and bits below the sign. -/
def ofMagnitude (negative : Bool) (mag : Nat) : Binary64 :=
  ⟨UInt64.ofNat (if negative then signBit + mag else mag)⟩

def zero : Binary64 := ⟨0⟩

def nan : Binary64 := ⟨0x7ff8000000000000⟩

def infinity (negative : Bool) : Binary64 := ofMagnitude negative infinityBits

/-- `num / den` to the nearest whole number, a tie going to the even one. -/
def divHalfEven (num den : Nat) : Nat :=
  let q := num / den
  let r := num % den
  if 2 * r < den then q
  else if den < 2 * r then q + 1
  else if q % 2 = 0 then q else q + 1

/-- The greatest `k` with `2 ^ k ≤ num / den`, for positive `num` and `den`. -/
def floorLog2 (num den : Nat) : Int :=
  let k := (num.log2 : Int) - den.log2
  if den <<< k.toNat ≤ num <<< (-k).toNat then k else k - 1

/-- The bits below the sign of the double nearest to `num / den`, a tie going to the even one. The significand is counted in
units of `2 ^ e`, where `e` gives it fifty-three binary digits or is the least exponent; adding it to the exponent field lets a
carry run into that field, and what reaches infinity stays there. -/
def roundQuotient (num den : Nat) : Nat :=
  if num = 0 then 0
  else
    let e : Int := max (floorLog2 num den - 52) (-1074)
    let significand := divHalfEven (num <<< (-e).toNat) (den <<< e.toNat)
    min infinityBits ((e + 1074).toNat * hiddenBit + significand)

/-- The double nearest to `± num / den`. -/
def ofQuotient (negative : Bool) (num den : Nat) : Binary64 := ofMagnitude negative (roundQuotient num den)

/-- The double nearest to a whole number. -/
def ofNat (n : Nat) : Binary64 := ofQuotient false n 1

def ofInt (i : Int) : Binary64 := ofQuotient (decide (i < 0)) i.natAbs 1

def neg (x : Binary64) : Binary64 := ofMagnitude (!x.isNegative) x.magnitude

/-- A finite number as a whole number of units `2 ^ e`, for an `e` not above its exponent. -/
def scaled (negative : Bool) (mantissa : Nat) (exponent e : Int) : Int :=
  let n := mantissa <<< (exponent - e).toNat
  if negative then -(n : Int) else n

/-- The double nearest to `n * 2 ^ e`, where `zeroSign` is the sign of a zero result. -/
def ofScaled (n e : Int) (zeroSign : Bool) : Binary64 :=
  if n = 0 then ofMagnitude zeroSign 0
  else ofQuotient (decide (n < 0)) (n.natAbs <<< e.toNat) (1 <<< (-e).toNat)

/-- Addition. Two zeros of one sign keep it, an exact cancellation is positive zero, and opposite infinities have no sum. -/
def add (x y : Binary64) : Binary64 :=
  match x.value, y.value with
  | .nan, _ => nan
  | _, .nan => nan
  | .infinite s, .infinite t => if s = t then infinity s else nan
  | .infinite s, .finite .. => infinity s
  | .finite .., .infinite t => infinity t
  | .finite s m e, .finite t n f =>
    let g := min e f
    ofScaled (scaled s m e g + scaled t n f g) g (s && t)

def sub (x y : Binary64) : Binary64 := if y.isNaN then nan else add x (neg y)

/-- Division. A zero divisor gives an infinity, except under a zero, where there is no quotient. -/
def div (x y : Binary64) : Binary64 :=
  match x.value, y.value with
  | .nan, _ => nan
  | _, .nan => nan
  | .infinite _, .infinite _ => nan
  | .infinite s, .finite t .. => infinity (s != t)
  | .finite s .., .infinite t => ofMagnitude (s != t) 0
  | .finite s m e, .finite t n f =>
    if n = 0 then (if m = 0 then nan else infinity (s != t))
    else ofQuotient (s != t) (m <<< (e - f).toNat) (n <<< (f - e).toNat)

/-- The numeric order. Nothing is at most a not-a-number, and the two zeros are equal. -/
def le (x y : Binary64) : Bool :=
  match x.value, y.value with
  | .nan, _ => false
  | _, .nan => false
  | .infinite s, .infinite t => s || !t
  | .infinite s, .finite .. => s
  | .finite .., .infinite t => !t
  | .finite s m e, .finite t n f =>
    let g := min e f
    decide (scaled s m e g ≤ scaled t n f g)

/-- Numeric equality: the two zeros are equal, a not-a-number equals nothing. -/
def numEq (x y : Binary64) : Bool := x.le y && y.le x

/-- The nearest whole number, a half going away from zero; `none` for what is not finite. -/
def roundAway (x : Binary64) : Option Int :=
  match x.value with
  | .finite s m e =>
    let den := 1 <<< (-e).toNat
    let n := (2 * (m <<< e.toNat) + den) / (2 * den)
    some (if s then -(n : Int) else n)
  | _ => none

end Binary64

end Intake
