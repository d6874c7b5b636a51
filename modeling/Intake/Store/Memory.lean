import Intake.Failure
import Intake.Store.Tables

/-!
# Memory: a store that keeps its tables in memory

The store serves the calls of batch writes. Its tables are shared, the staging of a session is the session's own. Every call
happens at once; a fault may be set for one phase, so that its calls fail or end the task that made them, and a delay, so that
its calls take effect later than they are made. The store keeps a list of the calls it was given.
-/

namespace Intake

/-- A fault for the calls of one phase. -/
structure StoreFault where
  phase : WritePhase
  text : String
  /-- Whether the call ends the task that made it, in place of answering an error. -/
  fatal : Bool
  deriving DecidableEq, Inhabited, Repr

/-- A call as it is listed. -/
inductive StoreCall where
  | phase (p : WritePhase)
  | load (rows : Nat)
  | ping
  deriving DecidableEq, Inhabited, Repr

def StoreCall.text : StoreCall → String
  | .phase p => p.name
  | .load n => "bulk_load " ++ toString n
  | .ping => "ping"

structure MemoryStore where
  name : String
  tables : Tables := Tables.empty
  /-- Staging tables that were created and not dropped yet. -/
  openStaging : Nat := 0
  acquired : Nat := 0
  released : Nat := 0
  fault : Option StoreFault := none
  /-- A phase and how long its calls take, in milliseconds. -/
  delay : Option (WritePhase × Nat) := none
  /-- What a health check is told, when the store is not well. -/
  unhealthy : Option String := none
  /-- The calls since the list was last emptied, the last one first. -/
  calls : List StoreCall := []
  deriving Inhabited

/-- A session of the memory store: its staging table, if it has one. -/
structure MemorySession where
  staging : Option (List StagedRow) := none
  deriving Inhabited

/-- The answer to a call. -/
inductive StoreReply where
  | done (count : Nat)
  | failed (cause : StorageError)
  /-- The task that made the call is ended. -/
  | ended
  deriving DecidableEq, Repr

namespace MemoryStore

/-- Lists a call. -/
def note (m : MemoryStore) (c : StoreCall) : MemoryStore := { m with calls := c :: m.calls }

/-- Lists the call of a phase. -/
def noteCall (m : MemoryStore) (p : WritePhase) (rows : List StagedRow) : MemoryStore :=
  m.note (if p = .bulkLoad then .load rows.length else .phase p)

/-- How long a call of a phase takes. -/
def delayOf (m : MemoryStore) (p : WritePhase) : Nat :=
  match m.delay with
  | some (q, ms) => if p = q then ms else 0
  | none => 0

/-- The fault that hits a call of a phase. -/
def faultOf (m : MemoryStore) (p : WritePhase) : Option StoreFault := m.fault.filter fun f => f.phase = p

/-- What is said when there is no staging table. -/
def noStaging : String := "staging table does not exist"

/-- The effect of a call that no fault hits. -/
def effect (m : MemoryStore) (s : MemorySession) (p : WritePhase) (rows : List StagedRow) :
    StoreReply × MemorySession × MemoryStore :=
  match p, s.staging with
  | .acquire, _ => (.done 0, s, { m with acquired := m.acquired + 1 })
  | .createStaging, _ => (.done 0, { staging := some [] }, { m with openStaging := m.openStaging + 1 })
  | .bulkLoad, some staged => (.done 0, { staging := some (staged ++ rows) }, m)
  | .insertLabels, some staged =>
    let tables := m.tables.addLabels staged
    (.done (tables.labels.length - m.tables.labels.length), s, { m with tables })
  | .insertValues, some staged => (.done staged.length, s, { m with tables := m.tables.addValues staged })
  | .release, some _ =>
    (.done 0, { staging := none }, { m with openStaging := m.openStaging - 1, released := m.released + 1 })
  | .release, none => (.done 0, s, { m with released := m.released + 1 })
  | p, none => (.failed (.backend p noStaging), s, m)

/-- Performs a call. An error changes nothing; a release cannot fail. -/
def perform (m : MemoryStore) (s : MemorySession) (p : WritePhase) (rows : List StagedRow) :
    StoreReply × MemorySession × MemoryStore :=
  match m.faultOf p with
  | none => m.effect s p rows
  | some f =>
    if f.fatal then (.ended, s, m)
    else if p = .release then m.effect s p rows
    else (.failed (.backend p f.text), s, m)

/-- Answers whether the store is well. -/
def ping (m : MemoryStore) : Except StorageError Unit × MemoryStore :=
  (match m.unhealthy with
    | some text => .error (.backend .acquire text)
    | none => .ok (),
   m.note .ping)

end MemoryStore

end Intake
