import Intake.Failure
import Intake.Leadership.Status
import Intake.Settings.Basic

/-!
# Events: what the service reports while it works

Everything the service reports is an event with a level, a message and named fields, and comes from one area of the service. A
step of the service answers the events it caused, in order, so that a statement about the log is a statement about steps. The
lines of the sample dump go to the standard output and not to the log.
-/

namespace Intake

/-- How important an event is. -/
inductive Level where
  | error | warn | info | debug
  deriving DecidableEq, Inhabited, Repr

namespace Level

def name : Level → String
  | .error => "ERROR"
  | .warn => "WARN"
  | .info => "INFO"
  | .debug => "DEBUG"

/-- Zero for the most important. -/
def rank : Level → Nat
  | .error => 0
  | .warn => 1
  | .info => 2
  | .debug => 3

def all : List Level := [.error, .warn, .info, .debug]

end Level

/-- The part of the service that an event comes from. -/
inductive Area where
  /-- The program as a whole. -/
  | program
  | startup
  | retries
  | database
  | batches
  | gate
  | requests
  | throughput
  | decision
  | lock
  | rounds
  deriving DecidableEq, Inhabited, Repr

namespace Area

/-- The words that lead to an area, from the program down. -/
def path : Area → List String
  | .program => []
  | .startup => ["startup"]
  | .retries => ["startup", "retries"]
  | .database => ["store", "database"]
  | .batches => ["store", "batches"]
  | .gate => ["gate"]
  | .requests => ["requests"]
  | .throughput => ["throughput"]
  | .decision => ["election", "decision"]
  | .lock => ["election", "lock"]
  | .rounds => ["election", "rounds"]

/-- The target under which the events of an area are logged by a program of some name. -/
def target (program : String) (a : Area) : String := "::".intercalate (program :: a.path)

end Area

inductive Event where
  /-- A line of the sample dump. -/
  | sampleLine (text : String)
  -- writing batches
  | batchRejected (cause : StorageError)
  | acquireFailed (cause : StorageError)
  | rowsCopied (count : Nat)
  | batchCommitted (newLabelSets values : Nat)
  | batchFailed (cause : StorageError)
  | batchWritten (count : Nat)
  | healthFailed (cause : StorageError)
  | cleanupFailed (cause : DatabaseFault)
  -- the gate
  | noElection
  | batchDropped (id : String) (count : Nat)
  | leadershipUnknown (cause : ElectionError)
  | sendFailed (cause : StorageError) (count : Nat)
  | rate (samplesPerSecond : Binary64)
  -- requests
  | undecodable (cause : DecodeError)
  | writeTaskLost
  | decisionApplied (leader : Bool)
  -- leadership
  | decisionChanged (id : String) (leader : Bool)
  | statusChanged (lockId : Int) (before after : LockStatus)
  | lockReleased (lockId : Int)
  | lockNotHeld (lockId : Int)
  | roundSkipped
  | becameLeader (id : String)
  | lostLeadership (id : String)
  | idlePause (idle timeout : Span)
  | idleResignFailed (cause : ElectionError)
  | resumed
  | roundDone (leader : Bool)
  | roundFailed (cause : ElectionError)
  | electionStopped
  | lastResignFailed (cause : ElectionError)
  | monitorStopped
  | throughputStopped
  -- sessions
  | endpoint (text : String)
  | passwordRead
  | passwordChanged
  -- starting
  | attemptFailed (attempt attempts : Nat) (cause : Failure)
  | retrying (delay : Span)
  | connected (endpoint : String)
  | lockElection (lockId : Int) (interval : Span)
  | noIdleResignation
  | externalElection (id : String)
  | starting (settings : Settings)
  | startFailed (cause : Failure)

namespace Event

def boolText (b : Bool) : String := if b then "true" else "false"

/-- The level, the message and the fields of an event; none for a line of the sample dump. -/
def entry : Event → Option (Level × String × List (String × String))
  | .sampleLine _ => none
  | .batchRejected e => some (.error, "Rejecting batch: " ++ e.message, [])
  | .acquireFailed e => some (.error, "Failed to acquire database session: " ++ e.message, [])
  | .rowsCopied n => some (.debug, "Copied " ++ toString n ++ " rows into staging", [])
  | .batchCommitted l v =>
    some (.debug, "staged batch committed", [("new_label_sets", toString l), ("values", toString v)])
  | .batchFailed e => some (.error, "Batch write failed: " ++ e.message, [])
  | .batchWritten n => some (.debug, "Wrote samples", [("count", toString n)])
  | .healthFailed e => some (.debug, "Health check error: " ++ e.message, [])
  | .cleanupFailed e => some (.error, "Failed to clean up staging table, closing session: " ++ e.message, [])
  | .noElection =>
    some (.warn, "No leader election configured. Every instance writes, running several can duplicate data", [])
  | .batchDropped id n => some (.debug, "Not the leader, dropping batch", [("id", id), ("count", toString n)])
  | .leadershipUnknown e => some (.error, "Leadership check failed, batch not written: " ++ e.message, [])
  | .sendFailed e n =>
    some (.warn, "Error sending samples to remote storage: " ++ e.message, [("num_samples", toString n)])
  | .rate r => some (.info, "Samples write throughput", [("samples_per_sec", Decimal.text r)])
  | .undecodable e => some (.error, "Failed to decode write request: " ++ e.text, [])
  | .writeTaskLost => some (.error, "Batch write task ended abnormally", [])
  | .decisionApplied b => some (.debug, "external leadership decision applied", [("leader", boolText b)])
  | .decisionChanged id b =>
    some (.info, "leadership set by external decision", [("id", id), ("leader", boolText b)])
  | .statusChanged id a b =>
    some (.debug, "advisory lock status " ++ a.text ++ " -> " ++ b.text, [("lock_id", toString id)])
  | .lockReleased id => some (.info, "advisory lock released", [("lock_id", toString id)])
  | .lockNotHeld id => some (.warn, "advisory lock was not held on release", [("lock_id", toString id)])
  | .roundSkipped => some (.debug, "election paused, not competing", [])
  | .becameLeader id => some (.info, "became leader", [("id", id)])
  | .lostLeadership id => some (.warn, "lost leadership", [("id", id)])
  | .idlePause idle timeout =>
    some (.warn, "No batches received for " ++ idle.text ++ " (timeout " ++ timeout.text
      ++ "), pausing election and resigning", [])
  | .idleResignFailed e => some (.warn, "Resigning after idle timeout failed: " ++ e.message, [])
  | .resumed => some (.info, "Batches are arriving again, resuming election", [])
  | .roundDone b => some (.debug, "scheduled election", [("leader", boolText b)])
  | .roundFailed e => some (.error, "Scheduled election failed: " ++ e.message, [])
  | .electionStopped => some (.info, "election task stopped", [])
  | .lastResignFailed e => some (.warn, "Resigning on shutdown failed: " ++ e.message, [])
  | .monitorStopped => some (.debug, "liveness monitor stopped", [])
  | .throughputStopped => some (.debug, "throughput calculator stopped", [])
  | .endpoint s => some (.info, "PostgreSQL endpoint: " ++ s, [])
  | .passwordRead => some (.debug, "Re-reading password before establishing new sessions...", [])
  | .passwordChanged => some (.info, "PostgreSQL password changed, new sessions use the updated credentials", [])
  | .attemptFailed k n e =>
    some (.warn, "attempt " ++ toString k ++ "/" ++ toString n ++ " failed: " ++ e.message, [])
  | .retrying d => some (.info, "retrying in " ++ d.text, [])
  | .connected s => some (.info, "Connected to " ++ s, [])
  | .lockElection id d =>
    some (.info, "Leader election with advisory lock, every " ++ d.text, [("lock_id", toString id)])
  | .noIdleResignation =>
    some (.warn, "Idle resignation disabled, an instance without traffic keeps the lock", [])
  | .externalElection id =>
    some (.info, "Leader election through /admin/leader, starting as follower", [("id", id)])
  | .starting s => some (.info, "Starting remote-write adapter: " ++ s.detail.text, [])
  | .startFailed e => some (.error, "Adapter failed to start: " ++ e.message, [])

def level? (e : Event) : Option Level := e.entry.map fun p => p.1

/-- The names of the fields of an event; its message is one of them. -/
def fieldNames (e : Event) : List String := "message" :: ((e.entry.map fun p => p.2.2.map Prod.fst).getD [])

def area : Event → Area
  | .starting _ | .startFailed _ => .program
  | .connected _ | .lockElection .. | .noIdleResignation | .externalElection _ => .startup
  | .attemptFailed .. | .retrying _ => .retries
  | .endpoint _ | .passwordRead | .passwordChanged | .rowsCopied _ | .cleanupFailed _ => .database
  | .sampleLine _ | .batchRejected _ | .acquireFailed _ | .batchCommitted .. | .batchFailed _ | .batchWritten _
  | .healthFailed _ => .batches
  | .noElection | .batchDropped .. | .leadershipUnknown _ | .sendFailed .. | .rate _ => .gate
  | .undecodable _ | .writeTaskLost | .decisionApplied _ => .requests
  | .throughputStopped => .throughput
  | .decisionChanged .. => .decision
  | .statusChanged .. | .lockReleased _ | .lockNotHeld _ => .lock
  | .roundSkipped | .becameLeader _ | .lostLeadership _ | .idlePause .. | .idleResignFailed _ | .resumed | .roundDone _
  | .roundFailed _ | .electionStopped | .lastResignFailed _ | .monitorStopped => .rounds

/-- The line that an event adds to the log. -/
def logLine? (e : Event) : Option String :=
  e.entry.map fun (level, message, fields) =>
    level.name ++ " " ++ message ++ String.join (fields.map fun (k, v) => " " ++ k ++ "=" ++ v)

/-- The line that an event adds to the standard output. -/
def outputLine? : Event → Option String
  | .sampleLine s => some s
  | _ => none

end Event

end Intake
