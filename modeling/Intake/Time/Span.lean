import Intake.Number.Binary64

/-!
# Span: lengths of time

A length of time is a whole number of nanoseconds. Its text uses the largest of `s`, `ms`, `µs` and `ns` of which it has at
least one, with the fraction that remains and no trailing zeros.
-/

namespace Intake

/-- A length of time, in nanoseconds. -/
structure Span where
  nanos : Nat
  deriving DecidableEq, Inhabited, Repr

namespace Span

def ofMillis (ms : Nat) : Span := ⟨ms * 1000000⟩

def ofSeconds (s : Nat) : Span := ⟨s * 1000000000⟩

def zero : Span := ⟨0⟩

instance : LT Span := ⟨fun a b => a.nanos < b.nanos⟩
instance : LE Span := ⟨fun a b => a.nanos ≤ b.nanos⟩
instance (a b : Span) : Decidable (a < b) := inferInstanceAs (Decidable (a.nanos < b.nanos))
instance (a b : Span) : Decidable (a ≤ b) := inferInstanceAs (Decidable (a.nanos ≤ b.nanos))

/-- A number of units with `places` decimal places, given in the smallest of them, without trailing zeros. -/
def decimalText (n places : Nat) : List Char :=
  let unit := Nat.pow 10 places
  let fraction := Nat.toDigits 10 (n % unit)
  let padded := List.replicate (places - fraction.length) '0' ++ fraction
  let kept := (padded.reverse.dropWhile (· = '0')).reverse
  Nat.toDigits 10 (n / unit) ++ (if n % unit = 0 then [] else '.' :: kept)

/-- The text of a length of time. -/
def text (d : Span) : String :=
  if 1000000000 ≤ d.nanos then String.ofList (decimalText d.nanos 9) ++ "s"
  else if 1000000 ≤ d.nanos then String.ofList (decimalText d.nanos 6) ++ "ms"
  else if 1000 ≤ d.nanos then String.ofList (decimalText d.nanos 3) ++ "µs"
  else String.ofList (decimalText d.nanos 0) ++ "ns"

/-- The length in seconds: the whole seconds, and the remaining nanoseconds over a thousand million, added as doubles. -/
def seconds (d : Span) : Binary64 :=
  Binary64.add (Binary64.ofNat (d.nanos / 1000000000))
    (Binary64.div (Binary64.ofNat (d.nanos % 1000000000)) (Binary64.ofNat 1000000000))

end Span

end Intake
