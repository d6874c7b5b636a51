import Intake.Number.Binary64

/-!
# Decimal: the shortest decimal text of a double, and reading numbers back

The text of a finite double is the shortest decimal that reads back to it, and of the shortest ones the nearest, written
positionally and without an exponent (`Decimal.text`). Reading is the other direction: a decimal literal is an exact quotient,
rounded once (`Decimal.read?`).
-/

namespace Intake

namespace Decimal

/-- The decimal digits of a number, without leading zeros; none for zero. -/
def digits (n : Nat) : List Char := if n = 0 then [] else Nat.toDigits 10 n

/-- The reals that round to a finite positive double `m * 2 ^ e` lie between `low` and `high`, in units of `2 ^ (e - 2)`; the
ends belong to them iff `m` is even. Below a power of two the grid is twice as fine, so the lower half gap is half as wide. -/
structure Interval where
  low : Nat
  high : Nat
  /-- The double itself, in the same units. -/
  mid : Nat
  /-- Whether the ends round to the double too. -/
  closed : Bool
  /-- Binary exponent of the unit. -/
  unit : Int

/-- The interval of the double `m * 2 ^ e`. -/
def interval (m : Nat) (e : Int) : Interval where
  low := 4 * m - (if m = Binary64.hiddenBit ∧ -1074 < e then 1 else 2)
  high := 4 * m + 2
  mid := 4 * m
  closed := m % 2 = 0
  unit := e - 2

/-- Whether `num / den`, in the units of the interval, lies in it. -/
def Interval.holds (i : Interval) (num den : Nat) : Bool :=
  if i.closed then decide (i.low * den ≤ num) && decide (num ≤ i.high * den)
  else decide (i.low * den < num) && decide (num < i.high * den)

/-- The greatest `k` with `10 ^ k ≤ num / den`, for positive `num` and `den`, found from the binary logarithm by at most two
corrections. -/
def floorLog10 (num den : Nat) : Int :=
  let estimate : Int := (Binary64.floorLog2 num den) * 30103 / 100000
  let reaches (k : Int) : Bool := decide (den * Nat.pow 10 k.toNat ≤ num * Nat.pow 10 (-k).toNat)
  if reaches (estimate + 1) then estimate + 1
  else if reaches estimate then estimate
  else estimate - 1

/-- The neighbour on the grid `10 ^ g` of the double that `i` surrounds, if one reads back to it: of two the nearer one, and of
two equally near ones the upper. The answer is the number of grid units. -/
def Interval.onGrid? (i : Interval) (g : Int) : Option Nat :=
  -- the double in grid units is `num / den`
  let scale := Nat.pow 10 (-g).toNat <<< i.unit.toNat
  let den := Nat.pow 10 g.toNat <<< (-i.unit).toNat
  let num := i.mid * scale
  let below := num / den
  let above := if num % den = 0 then below else below + 1
  let fits (n : Nat) : Bool := i.holds (n * den) scale && decide (0 < n)
  match fits below, fits above with
  | true, true => if 2 * (num % den) < den then some below else some above
  | true, false => some below
  | false, true => some above
  | false, false => none

/-- The first grid, from coarse to fine, that has a point reading back, with that point. Seventeen digits always do. -/
def shortestFrom (i : Interval) (top : Int) : (tries : Nat) → (count : Nat) → Nat × Int
  | 0, count => (0, top + 1 - count)
  | tries + 1, count =>
    let g := top + 1 - (count : Int)
    match i.onGrid? g with
    | some n => (n, g)
    | none => shortestFrom i top tries (count + 1)

/-- The shortest decimal `n * 10 ^ g` that reads back to the positive double `m * 2 ^ e`. -/
def shortest (m : Nat) (e : Int) : Nat × Int :=
  let i := interval m e
  let top := floorLog10 (m <<< e.toNat) (1 <<< (-e).toNat)
  shortestFrom i top 18 1

/-- `n * 10 ^ g` written positionally: no exponent, and no point in a whole number. -/
def positional (n : Nat) (g : Int) : List Char :=
  let ds := digits n
  if 0 ≤ g then (if n = 0 then ['0'] else ds ++ List.replicate g.toNat '0')
  else
    let places := (-g).toNat
    if places < ds.length then
      let whole := ds.take (ds.length - places)
      let fraction := (ds.drop (ds.length - places)).reverse.dropWhile (· = '0') |>.reverse
      if fraction.isEmpty then whole else whole ++ '.' :: fraction
    else
      let fraction := (List.replicate (places - ds.length) '0' ++ ds).reverse.dropWhile (· = '0') |>.reverse
      if fraction.isEmpty then ['0'] else '0' :: '.' :: fraction

/-- The text of a double: the shortest positional decimal that reads back, with the sign of zero, `inf` and `NaN`. -/
def text (x : Binary64) : String :=
  match x.value with
  | .nan => "NaN"
  | .infinite s => if s then "-inf" else "inf"
  | .finite s m e =>
    let (n, g) := if m = 0 then (0, 0) else shortest m e
    String.ofList ((if s then ['-'] else []) ++ positional n g)

/-- The whole number that a run of digits writes; `none` for an empty run or another character. -/
def digitsValue? (ds : List Char) : Option Nat :=
  if ds.isEmpty then none
  else ds.foldl (fun acc c => acc.bind fun n => if c.isDigit then some (10 * n + (c.toNat - '0'.toNat)) else none) (some 0)

/-- A leading sign, if there is one: whether it is a minus, and the rest. -/
def takeSign : List Char → Bool × List Char
  | '-' :: r => (true, r)
  | '+' :: r => (false, r)
  | r => (false, r)

/-- A whole number with an optional sign and at least one digit, leading zeros allowed. -/
def readInt? (s : String) : Option Int :=
  let (negative, ds) := takeSign s.toList
  (digitsValue? ds).map fun n => if negative then -(n : Int) else n

/-- The exponent part of a literal: nothing, or a mark and a signed run of digits. -/
def readExponent? : List Char → Option Int
  | [] => some 0
  | c :: r =>
    if c = 'e' || c = 'E' then
      let (negative, ds) := takeSign r
      (digitsValue? ds).map fun n => if negative then -(n : Int) else n
    else none

/-- The double nearest to `± n * 10 ^ g`. A magnitude beyond every double is settled before any power is taken. -/
def toBinary64 (negative : Bool) (n : Nat) (g : Int) : Binary64 :=
  let top := (digits n).length + g
  if n = 0 ∨ top < -400 then Binary64.ofMagnitude negative 0
  else if 400 < top then Binary64.infinity negative
  else Binary64.ofQuotient negative (n * Nat.pow 10 g.toNat) (Nat.pow 10 (-g).toNat)

/-- An unsigned literal: digits with an optional point among or beside them, at least one digit, and an optional exponent. -/
def readUnsigned? (negative : Bool) (cs : List Char) : Option Binary64 :=
  let whole := cs.takeWhile Char.isDigit
  let rest := cs.dropWhile Char.isDigit
  let (fraction, tail) := match rest with
    | '.' :: r => (r.takeWhile Char.isDigit, r.dropWhile Char.isDigit)
    | r => ([], r)
  match digitsValue? (whole ++ fraction), readExponent? tail with
  | some n, some g => some (toBinary64 negative n (g - fraction.length))
  | _, _ => none

/-- A double from text: a decimal literal with an optional sign, or `inf`, `infinity`, `nan` in any letter case. -/
def read? (s : String) : Option Binary64 :=
  let (negative, cs) := takeSign s.toList
  let lower := cs.map Char.toLower
  if lower = "inf".toList ∨ lower = "infinity".toList then some (Binary64.infinity negative)
  else if lower = "nan".toList then some (if negative then Binary64.neg Binary64.nan else Binary64.nan)
  else readUnsigned? negative cs

end Decimal

end Intake
