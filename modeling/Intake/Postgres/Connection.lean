import Intake.Postgres.CopyChunks
import Intake.Postgres.Server

/-!
# Connection: statements, transactions and bulk loads on one connection

A transaction that was begun and did not come to its commit is rolled back before the next order of its connection: until then
the connection owes a rollback. If the rollback fails, the order it was sent for is not sent and fails in its place.
-/

namespace Intake

structure Connection where
  number : Nat
  /-- Whether a transaction was left open. -/
  owesRollback : Bool := false
  deriving DecidableEq, Inhabited, Repr

namespace Connection

variable {σ : Type}

/-- Sends an order as it is. -/
def put (svc : DatabaseServer σ) (o : Order) : Act (Connection × σ) (Except DatabaseFault Nat) := fun (c, s) =>
  let (r, s) := svc.send c.number o s
  (r, (c, s), [])

/-- Notes that a transaction was left open. -/
def leaveOpen : Act (Connection × σ) Unit := Act.modify fun (c, s) => ({ c with owesRollback := true }, s)

/-- Rolls back what was left open. -/
def settle (svc : DatabaseServer σ) : Act (Connection × σ) (Except DatabaseFault Unit) := fun (c, s) =>
  if c.owesRollback then
    let (r, s) := svc.send c.number (.query "ROLLBACK") s
    (r.map fun _ => (), ({ c with owesRollback := false }, s), [])
  else (.ok (), (c, s), [])

/-- Sends an order, after what the connection owes. -/
def ask (svc : DatabaseServer σ) (o : Order) : Act (Connection × σ) (Except DatabaseFault Nat) := do
  match ← settle svc with
  | .error e => return .error e
  | .ok () => put svc o

/-- Runs a statement in a transaction of its own. -/
def transact (svc : DatabaseServer σ) (sql : String) : Act (Connection × σ) (Except DatabaseFault Nat) := do
  match ← ask svc (.query "BEGIN") with
  | .error e => return .error e
  | .ok _ =>
    match ← put svc (.query sql) with
    | .error e =>
      leaveOpen
      return .error e
    | .ok n =>
      match ← put svc (.query "COMMIT") with
      | .error e =>
        leaveOpen
        return .error e
      | .ok _ => return .ok n

/-- What is said to the server when the data of a bulk load could not be sent. -/
def copyAbandoned : String := "staging copy failed"

/-- Sends the pieces of a bulk load; the first that fails ends it. -/
def sendPieces (svc : DatabaseServer σ) : List String → Act (Connection × σ) (Except DatabaseFault Unit)
  | [] => return .ok ()
  | p :: ps => do
    match ← put svc (.copyData p) with
    | .error e =>
      let _ ← put svc (.copyFail copyAbandoned)
      return .error e
    | .ok _ => sendPieces svc ps

/-- A bulk load; the answer is the number of rows. -/
def copyIn (svc : DatabaseServer σ) (sql : String) (lines : List String) :
    Act (Connection × σ) (Except DatabaseFault Nat) := do
  match ← ask svc (.query sql) with
  | .error e => return .error e
  | .ok _ =>
    match ← sendPieces svc (CopyChunks.ofLines lines) with
    | .error e => return .error e
    | .ok () => put svc .copyDone

end Connection

end Intake
