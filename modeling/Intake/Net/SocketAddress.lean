import Intake.Text.Quoted

/-!
# Socket addresses: an IP address and a port, as text

An IPv4 address is four decimal numbers without leading zeros. An IPv6 address is eight groups of up to four hexadecimal digits,
where one run of zero groups may be left out as `::` and the last two groups may be written as an IPv4 address; between brackets
it may carry a zone number after `%`. Printing leaves out the longest run of two or more zero groups, the first of equals, and
writes an address that embeds an IPv4 one in the mapped range with its dotted part.
-/

namespace Intake

inductive SocketAddress where
  | v4 (a b c d : Nat) (port : Nat)
  | v6 (groups : List Nat) (zone port : Nat)
  deriving DecidableEq, Inhabited, Repr

namespace SocketAddress

/-- The value of a digit below the base. -/
def digitValue? (base : Nat) (c : Char) : Option Nat :=
  let v : Option Nat :=
    if c.isDigit then some (c.toNat - '0'.toNat)
    else if 'a' ≤ c ∧ c ≤ 'f' then some (c.toNat - 'a'.toNat + 10)
    else if 'A' ≤ c ∧ c ≤ 'F' then some (c.toNat - 'A'.toNat + 10)
    else none
  v.filter (· < base)

/-- Reads the digits at the front: a number below `bound`, of at most `width` digits if a width is given. -/
def readNumber? (base bound : Nat) (width : Option Nat) (leadingZeros : Bool) (cs : List Char) : Option (Nat × List Char) :=
  let ds := cs.takeWhile fun c => (digitValue? base c).isSome
  let n := ds.foldl (fun n c => base * n + (digitValue? base c).getD 0) 0
  let tooWide := match width with | some w => decide (w < ds.length) | none => false
  if ds.isEmpty || tooWide || decide (bound ≤ n) || (!leadingZeros && ds.head? = some '0' && decide (1 < ds.length)) then none
  else some (n, cs.drop ds.length)

/-- Reads one given character. -/
def readChar? (c : Char) : List Char → Option (List Char)
  | d :: r => if d = c then some r else none
  | [] => none

def readOctet? (cs : List Char) : Option (Nat × List Char) := readNumber? 10 256 (some 3) false cs

/-- Four numbers separated by points. -/
def readV4? (cs : List Char) : Option ((Nat × Nat × Nat × Nat) × List Char) := do
  let (a, cs) ← readOctet? cs
  let (b, cs) ← readOctet? (← readChar? '.' cs)
  let (c, cs) ← readOctet? (← readChar? '.' cs)
  let (d, cs) ← readOctet? (← readChar? '.' cs)
  some ((a, b, c, d), cs)

/-- Reads up to `room` groups, the second and later ones after a colon: the groups, whether they end in an IPv4 address, and the
rest. An IPv4 address takes the room of two groups. -/
def readGroups : (room : Nat) → (first : Bool) → List Char → List Nat × Bool × List Char
  | 0, _, cs => ([], false, cs)
  | room + 1, first, cs =>
    match if first then some cs else readChar? ':' cs with
    | none => ([], false, cs)
    | some body =>
      match if room = 0 then none else readV4? body with
      | some ((a, b, c, d), rest) => ([256 * a + b, 256 * c + d], true, rest)
      | none =>
        match readNumber? 16 65536 (some 4) true body with
        | none => ([], false, cs)
        | some (g, rest) =>
          let (gs, dottedEnd, rest) := readGroups room false rest
          (g :: gs, dottedEnd, rest)

/-- Eight groups, or fewer around a `::`. -/
def readV6? (cs : List Char) : Option (List Nat × List Char) :=
  let (head, dottedEnd, rest) := readGroups 8 true cs
  if head.length = 8 then some (head, rest)
  else if dottedEnd then none
  else
    match rest with
    | ':' :: ':' :: rest =>
      let (tail, _, rest) := readGroups (7 - head.length) true rest
      some (head ++ List.replicate (8 - head.length - tail.length) 0 ++ tail, rest)
    | _ => none

def readPort? (cs : List Char) : Option (Nat × List Char) := do
  readNumber? 10 65536 none true (← readChar? ':' cs)

def readWholeV4? (cs : List Char) : Option SocketAddress := do
  let ((a, b, c, d), cs) ← readV4? cs
  let (port, cs) ← readPort? cs
  if cs.isEmpty then some (.v4 a b c d port) else none

def readWholeV6? (cs : List Char) : Option SocketAddress := do
  let (groups, cs) ← readV6? (← readChar? '[' cs)
  let (zone, cs) ← match cs with
    | '%' :: r => readNumber? 10 4294967296 none true r
    | r => some (0, r)
  let (port, cs) ← readPort? (← readChar? ']' cs)
  if cs.isEmpty then some (.v6 groups zone port) else none

/-- Reads an address and nothing else. -/
def read? (s : String) : Option SocketAddress :=
  match readWholeV4? s.toList with
  | some a => some a
  | none => readWholeV6? s.toList

/-! ## Printing -/

def dotted (a b c d : Nat) : String :=
  toString a ++ "." ++ toString b ++ "." ++ toString c ++ "." ++ toString d

/-- The runs of zeros from each place on. -/
def zeroRun (gs : List Nat) : Nat := (gs.takeWhile (· = 0)).length

/-- The start and length of the first longest run of zeros. -/
def longestZeros : List Nat → Nat × Nat
  | [] => (0, 0)
  | g :: gs =>
    let here := zeroRun (g :: gs)
    let (start, len) := longestZeros gs
    if len ≤ here ∧ 0 < here then (0, here) else (start + 1, len)

def groupsText (gs : List Nat) : String := ":".intercalate (gs.map fun g => String.ofList (hexText g))

/-- The text of an IPv6 address. -/
def v6Text (gs : List Nat) : String :=
  match gs with
  | [0, 0, 0, 0, 0, 65535, x, y] => "::ffff:" ++ dotted (x / 256) (x % 256) (y / 256) (y % 256)
  | gs =>
    let (start, len) := longestZeros gs
    if 1 < len then groupsText (gs.take start) ++ "::" ++ groupsText (gs.drop (start + len)) else groupsText gs

def text : SocketAddress → String
  | .v4 a b c d port => dotted a b c d ++ ":" ++ toString port
  | .v6 gs zone port =>
    "[" ++ v6Text gs ++ (if zone = 0 then "" else "%" ++ toString zone) ++ "]:" ++ toString port

end SocketAddress

end Intake
