import Intake.Postgres.CopyText
import Intake.Postgres.Server

/-!
# Rehearsal: a database server that plays its part

A server for rehearsals understands no statements. It knows the few that matter by their words, answers each with the number that
a database would give, and fails where it was told to. It keeps a list of what happened on its connections, which it numbers as
they are opened. While it is out of reach no connection can be opened.
-/

namespace Intake

/-- A failure that was planned. -/
structure PlannedFault where
  /-- A piece of the statements that fail, or the name of a moment. -/
  moment : String
  text : String
  /-- How many times it still happens. -/
  times : Nat := 1
  /-- Whether the connection is cut off in place of an answer. -/
  hangsUp : Bool := false
  deriving DecidableEq, Inhabited, Repr

/-- What happened on a connection. -/
inductive ServerNote where
  | connected (user database : String)
  | password (text : String)
  | received (o : Order)
  | rejected
  | hungUp
  | terminated
  | lost
  deriving DecidableEq, Inhabited, Repr

/-- An order as it is listed. -/
def Order.text : Order → String
  | .query sql => "query " ++ sql
  | .execute sql none => "execute " ++ sql
  | .execute sql (some n) => "execute " ++ sql ++ " [" ++ toString n ++ "]"
  | .copyData data => "copy_data " ++ data
  | .copyDone => "copy_done"
  | .copyFail reason => "copy_fail " ++ reason
  | .sync => "sync"

def ServerNote.text : ServerNote → String
  | .connected user database => "connect user=" ++ user ++ " database=" ++ database
  | .password p => "password=" ++ p
  | .received o => o.text
  | .rejected => "rejected"
  | .hungUp => "hung up"
  | .terminated => "terminate"
  | .lost => "eof"

/-- A connection as the server sees it. -/
structure ServerLine where
  isOpen : Bool := true
  /-- The data of the bulk load that is under way. -/
  data : String := ""
  /-- What the bulk load that is under way will be told at its end. -/
  copyFault : Option DatabaseFault := none
  /-- How many rows the last complete bulk load had, and how many distinct pairs of name and labels. -/
  rows : Nat := 0
  labelSets : Nat := 0
  deriving DecidableEq, Inhabited, Repr

structure RehearsalServer where
  isReachable : Bool := true
  passwordFile : Except FileFault String := .error FileFault.notFound
  faults : List PlannedFault := []
  /-- What is answered to who tries the lock, and to who gives it back. -/
  lockAnswer : Bool := true
  unlockAnswer : Bool := true
  lines : List ServerLine := []
  /-- What happened since the list was last emptied, with the number of the connection, the last first. -/
  notes : List (Nat × ServerNote) := []
  deriving Inhabited

namespace RehearsalServer

def note (v : RehearsalServer) (n : Nat) (e : ServerNote) : RehearsalServer := { v with notes := (n, e) :: v.notes }

def line (v : RehearsalServer) (n : Nat) : ServerLine := v.lines.getD n { isOpen := false }

def setLine (v : RehearsalServer) (n : Nat) (l : ServerLine) : RehearsalServer := { v with lines := v.lines.set n l }

/-- What is said of a server that is out of reach, and of a connection that broke. -/
def outOfReach : DatabaseFault := .connection (.system 111 "ConnectionRefused" "Connection refused")

def broken : DatabaseFault := .connection (.system 104 "ConnectionReset" "Connection reset by peer")

/-- Whether a text has another one in it. -/
def isPiece (piece : List Char) : List Char → Bool
  | [] => piece.isEmpty
  | c :: cs => piece.isPrefixOf (c :: cs) || isPiece piece cs

def hasPiece (s piece : String) : Bool := isPiece piece.toList s.toList

/-- Uses up the first fault that a test accepts. -/
def takeFault (hits : PlannedFault → Bool) : List PlannedFault → Option (PlannedFault × List PlannedFault)
  | [] => none
  | f :: fs =>
    if 0 < f.times && hits f then some (f, { f with times := f.times - 1 } :: fs)
    else (takeFault hits fs).map fun r => (r.1, f :: r.2)

/-- The fault that is planned, if there is one, and the server without it. -/
def nextFault (v : RehearsalServer) (hits : PlannedFault → Bool) : Option PlannedFault × RehearsalServer :=
  match takeFault hits v.faults with
  | some (f, faults) => (some f, { v with faults })
  | none => (none, v)

/-- A connection ends. -/
def endLine (v : RehearsalServer) (n : Nat) (e : ServerNote) : RehearsalServer :=
  if (v.line n).isOpen then (v.note n e).setLine n { v.line n with isOpen := false } else v

/-- What a planned fault does to a connection, and what the client is told. -/
def applyFault (v : RehearsalServer) (n : Nat) (f : PlannedFault) : DatabaseFault × RehearsalServer :=
  if f.hangsUp then (broken, v.endLine n .hungUp) else (.refused f.text, v)

def connect (o : ConnectOptions) (v : RehearsalServer) : Except DatabaseFault Nat × RehearsalServer :=
  if !v.isReachable then (.error outOfReach, v)
  else if o.sslMode.needsEncryption then (.error .encryption, v)
  else
    let n := v.lines.length
    let v := { v with lines := v.lines ++ [({} : ServerLine)] }
    let v := (v.note n (.connected o.user o.database)).note n (.password (o.password.getD ""))
    match v.nextFault fun f => f.moment = "connect" with
    | (none, v) => (.ok n, v)
    | (some f, v) =>
      if f.hangsUp then (.error broken, v.endLine n .hungUp) else (.error (.refused f.text), v.endLine n .rejected)

/-- The number with which a statement is answered. -/
def numberFor (v : RehearsalServer) (n : Nat) (sql : String) : Nat :=
  if sql.startsWith "insert into " then
    if hasPiece sql "(metric_name, labels)" then (v.line n).labelSets else (v.line n).rows
  else if hasPiece sql "pg_try_advisory_lock" then v.lockAnswer.toNat
  else if hasPiece sql "pg_advisory_unlock" then v.unlockAnswer.toNat
  else 0

/-- A statement arrives. -/
def statement (v : RehearsalServer) (n : Nat) (o : Order) (sql : String) : Except DatabaseFault Nat × RehearsalServer :=
  match (v.note n (.received o)).nextFault fun f => hasPiece sql f.moment with
  | (some f, v) =>
    let (e, v) := v.applyFault n f
    (.error e, v)
  | (none, v) =>
    (.ok (v.numberFor n sql),
      if sql.startsWith "copy " then v.setLine n { v.line n with data := "", copyFault := none } else v)

/-- A piece of a bulk load arrives. The client learns at the end whether the load has failed. -/
def copyPiece (v : RehearsalServer) (n : Nat) (text : String) : RehearsalServer :=
  let l := v.line n
  if l.copyFault.isSome then v
  else
    match (v.note n (.received (.copyData text))).nextFault fun f => f.moment = "copy_data" with
    | (none, v) => v.setLine n { l with data := l.data ++ text }
    | (some f, v) =>
      let (e, v) := v.applyFault n f
      v.setLine n { v.line n with copyFault := some e }

/-- A bulk load is complete. -/
def copyEnd (v : RehearsalServer) (n : Nat) : Except DatabaseFault Nat × RehearsalServer :=
  let l := v.line n
  match l.copyFault with
  | some e => (.error e, v.setLine n { l with copyFault := none })
  | none =>
    match (v.note n (.received .copyDone)).nextFault fun f => f.moment = "copy_done" with
    | (some f, v) =>
      let (e, v) := v.applyFault n f
      (.error e, v)
    | (none, v) =>
      let records := CopyText.read l.data.toList
      let rows := records.length
      (.ok rows, v.setLine n { l with data := "", rows, labelSets := (records.map fun r => r.drop 2).eraseDups.length })

def send (n : Nat) (o : Order) (v : RehearsalServer) : Except DatabaseFault Nat × RehearsalServer :=
  if !(v.line n).isOpen then (.error broken, v)
  else
    match o with
    | .query sql => v.statement n o sql
    | .execute sql _ => v.statement n o sql
    | .copyData text => (.ok 0, v.copyPiece n text)
    | .copyDone => v.copyEnd n
    | .copyFail _ => (.ok 0, v.note n (.received o))
    | .sync => (.ok 0, v)

/-- The server as what sessions depend on. -/
def service : DatabaseServer RehearsalServer where
  connect := connect
  send := send
  terminate n v := v.endLine n .terminated
  cut n v := v.endLine n .lost
  passwordFile v := v.passwordFile

end RehearsalServer

end Intake
