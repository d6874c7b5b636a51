import Intake.Text.Blank

/-!
# Calendar: instants in milliseconds as date and time, written and read

An instant is a number of milliseconds since 1970-01-01T00:00:00Z. Its text is that of RFC 3339 in the proleptic Gregorian
calendar, with the zone `Z`: years 0 to 9999 have four digits, every other year a sign and at least four. `stampMillis` writes
three fraction digits, `stampSeconds` none, dropping the fraction towards the past; `read?` reads both back.

A date is counted from the first of March of year 0, so that the leap day ends a year: a cycle of 400 years has 146097 days and
splits into centuries, four-year spans and years, of which the last of each may be one day longer.
-/

namespace Intake

/-- A day of the calendar. -/
structure Date where
  year : Int
  month : Nat
  day : Nat
  deriving DecidableEq, Repr

namespace Calendar

/-- Days from 0000-03-01 to 1970-01-01. -/
def epochDays : Int := 719468

/-- Milliseconds of a day. -/
def dayMillis : Int := 86400000

/-- Days before the month counted from March, in a year that starts in March. -/
def daysBeforeMonth (m : Nat) : Nat := (153 * m + 2) / 5

/-- The date of a number of days since 1970-01-01. -/
def dateOfDays (days : Int) : Date :=
  let z := days + epochDays
  let cycle := z.fdiv 146097
  let inCycle := (z.fmod 146097).toNat
  let century := min 3 (inCycle / 36524)
  let inCentury := inCycle - 36524 * century
  let span := inCentury / 1461
  let inSpan := inCentury - 1461 * span
  let yearOfSpan := min 3 (inSpan / 365)
  let dayOfYear := inSpan - 365 * yearOfSpan
  let month := (5 * dayOfYear + 2) / 153
  let year := 400 * cycle + (100 * century + 4 * span + yearOfSpan : Nat)
  { year := if month < 10 then year else year + 1
    month := if month < 10 then month + 3 else month - 9
    day := dayOfYear - daysBeforeMonth month + 1 }

/-- The number of days since 1970-01-01 of a date. -/
def daysOfDate (d : Date) : Int :=
  let year := if 2 < d.month then d.year else d.year - 1
  let month := if 2 < d.month then d.month - 3 else d.month + 9
  let cycle := year.fdiv 400
  let yearOfCycle := (year.fmod 400).toNat
  let inCycle := 365 * yearOfCycle + yearOfCycle / 4 - yearOfCycle / 100 + (daysBeforeMonth month + (d.day - 1))
  146097 * cycle + inCycle - epochDays

def isLeap (year : Int) : Bool := year.fmod 4 = 0 && (year.fmod 100 ≠ 0 || year.fmod 400 = 0)

/-- The length of a month. -/
def monthDays (year : Int) (month : Nat) : Nat :=
  if month = 2 then (if isLeap year then 29 else 28)
  else if month = 4 ∨ month = 6 ∨ month = 9 ∨ month = 11 then 30
  else 31

/-- A number with leading zeros to at least the given width. -/
def padded (width n : Nat) : List Char :=
  let ds := Nat.toDigits 10 n
  List.replicate (width - ds.length) '0' ++ ds

/-- A year: four digits from 0 to 9999, otherwise a sign and at least four digits. -/
def yearText (y : Int) : List Char :=
  if 0 ≤ y ∧ y ≤ 9999 then padded 4 y.toNat
  else (if y < 0 then '-' else '+') :: padded 4 y.natAbs

def dateText (d : Date) : List Char := yearText d.year ++ '-' :: padded 2 d.month ++ '-' :: padded 2 d.day

/-- Date and time of day to the second, given the whole seconds since the epoch. -/
def secondText (seconds : Int) : List Char :=
  let inDay := (seconds.fmod 86400).toNat
  dateText (dateOfDays (seconds.fdiv 86400)) ++ 'T' :: padded 2 (inDay / 3600) ++ ':' :: padded 2 (inDay / 60 % 60)
    ++ ':' :: padded 2 (inDay % 60)

/-- The instant with three fraction digits. -/
def stampMillis (ms : Int) : String :=
  String.ofList (secondText (ms.fdiv 1000) ++ '.' :: padded 3 (ms.fmod 1000).toNat ++ ['Z'])

/-- The instant without a fraction, the greatest whole second not after it. -/
def stampSeconds (ms : Int) : String := String.ofList (secondText (ms.fdiv 1000) ++ ['Z'])

/-! ## Reading -/

/-- A run of exactly `width` digits. -/
def readDigits? : (width : Nat) → Nat → List Char → Option (Nat × List Char)
  | 0, n, cs => some (n, cs)
  | width + 1, n, c :: cs =>
    if c.isDigit then readDigits? width (10 * n + (c.toNat - '0'.toNat)) cs else none
  | _ + 1, _, [] => none

/-- A year: four digits, or a sign and four or more digits. -/
def readYear? (cs : List Char) : Option (Int × List Char) :=
  let signed (r : List Char) : Option (Nat × List Char) :=
    let ds := r.takeWhile Char.isDigit
    if ds.length < 4 then none else readDigits? ds.length 0 r
  match cs with
  | '-' :: r => (signed r).map fun p => (-(p.1 : Int), p.2)
  | '+' :: r => (signed r).map fun p => ((p.1 : Int), p.2)
  | r => (readDigits? 4 0 r).map fun p => ((p.1 : Int), p.2)

/-- A two-digit number after the character `mark`. -/
def readPart? (mark : Char) : List Char → Option (Nat × List Char)
  | c :: r => if c = mark then readDigits? 2 0 r else none
  | [] => none

/-- The fraction of a second in milliseconds: nothing, or a point and three digits. -/
def readMillis? : List Char → Option (Nat × List Char)
  | '.' :: r => readDigits? 3 0 r
  | r => some (0, r)

/-- Reads an instant in UTC; a date or a time of day that does not exist is refused. -/
def readChars? (cs : List Char) : Option Int := do
  let (year, cs) ← readYear? cs
  let (month, cs) ← readPart? '-' cs
  let (day, cs) ← readPart? '-' cs
  let (hour, cs) ← readPart? 'T' cs
  let (minute, cs) ← readPart? ':' cs
  let (second, cs) ← readPart? ':' cs
  let (millis, cs) ← readMillis? cs
  if cs = ['Z'] ∧ 1 ≤ month ∧ month ≤ 12 ∧ 1 ≤ day ∧ day ≤ monthDays year month ∧ hour < 24 ∧ minute < 60 ∧ second < 60 then
    some (daysOfDate ⟨year, month, day⟩ * dayMillis + (((hour * 60 + minute) * 60 + second) * 1000 + millis : Nat))
  else none

def read? (s : String) : Option Int := readChars? s.toList

end Calendar

end Intake
