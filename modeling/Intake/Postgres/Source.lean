import Intake.Leadership.Lock
import Intake.Postgres.Credentials
import Intake.Postgres.Pool
import Intake.Postgres.Statements
import Intake.Store.BatchWrite

/-!
# Source: sessions of a database server

A source hands out sessions for batches and for the lock. A batch gets a connection of the pool; the lock gets one of its own,
because it must outlive every batch. Before either, the password is read again if it stands in a file.

When a batch is done its staging table is dropped, and only then the connection goes back to the pool: a connection whose staging
table could not be dropped, or whose session was abandoned, is ended and never handed out again.
-/

namespace Intake

structure Source where
  settings : PostgresSettings
  /-- Where and as whom to connect, without the password. -/
  base : ConnectOptions
  credentials : Credentials := {}
  pool : Pool
  deriving Inhabited

namespace Source

/-- A source for these settings. Nothing is connected yet. -/
def new? (s : PostgresSettings) : Except InvalidSetting Source :=
  match s.connectOptions? with
  | .error e => .error e
  | .ok base =>
    .ok { settings := s, base, pool := { maxOpen := s.maxOpenConns, maxIdle := s.maxIdleConns, patience := s.connectTimeout } }

/-- What is reported when a source is made. -/
def opened (s : Source) : List Event := [.endpoint s.settings.endpoint]

/-- The name of the store. -/
def name : String := "PostgreSQL"

def statements (s : Source) : Statements := Statements.ofTable s.settings.table

/-- How new connections of the pool log in. -/
def options (s : Source) : ConnectOptions := { s.base with password := s.credentials.inUse }

variable {σ : Type}

/-- An act on the pool. -/
def onPool {α : Type} (a : Act (Pool × σ) α) : Act (Source × σ) α :=
  a.on (fun t => (t.1.pool, t.2)) (fun p t => ({ t.1 with pool := p.1 }, p.2))

/-- An act on the credentials. -/
def onCredentials {α : Type} (a : Act Credentials α) : Act (Source × σ) α :=
  a.on (fun t => t.1.credentials) (fun c t => ({ t.1 with credentials := c }, t.2))

/-- Reads the password again, if it stands in a file; the answer is how to log in now. -/
def refresh (svc : DatabaseServer σ) : Act (Source × σ) (Except StorageError ConnectOptions) := do
  let (src, s) ← Act.get
  if src.settings.passwordFile = "" then return .ok src.base
  Act.report [.passwordRead]
  match Credentials.content src.settings.passwordFile (svc.passwordFile s) with
  | .error e => return .error e
  | .ok content =>
    let password ← onCredentials (Credentials.apply content)
    return .ok { src.base with password := some password }

/-- Reserves a connection for a batch. -/
def acquire (svc : DatabaseServer σ) : Act (Source × σ) (Except StorageError Connection) := do
  match ← refresh svc with
  | .error e => return .error e
  | .ok _ =>
    let (src, _) ← Act.get
    return (← onPool (Pool.acquire svc src.options)).mapError .acquire

/-- What a phase of a batch sends on the connection of its session; the answer is a number of rows. -/
def perform (svc : DatabaseServer σ) (st : Statements) (rows : List StagedRow) :
    WritePhase → Act (Connection × σ) (Except DatabaseFault Nat)
  | .createStaging => Connection.ask svc (.query st.createStaging)
  | .bulkLoad => do
    let r ← Connection.copyIn svc st.copyStaging (rows.map StagedRow.copyLine)
    Act.report (match r with | .ok n => [.rowsCopied n] | .error _ => [])
    return r
  | .insertLabels => Connection.transact svc st.insertLabels
  | .insertValues => Connection.transact svc st.insertValues
  | .acquire | .release => return .ok 0

/-- Performs a phase on a reserved connection. -/
def phase (svc : DatabaseServer σ) (c : Connection) (p : WritePhase) (rows : List StagedRow) :
    Act (Source × σ) (Except StorageError Nat × Connection) := do
  let (src, _) ← Act.get
  let (r, c) ← onPool (Pool.withConnection c (perform svc src.statements rows p))
  return (r.mapError (.phase p), c)

/-- Ends a session: its staging table is dropped and its connection goes back. -/
def release (svc : DatabaseServer σ) (c : Connection) : Act (Source × σ) Unit := do
  let (src, _) ← Act.get
  match ← onPool (Pool.withConnection c (Connection.ask svc (.query src.statements.dropStaging))) with
  | (.ok _, c) => onPool (Pool.giveBack svc c)
  | (.error e, c) =>
    Act.report [.cleanupFailed e]
    onPool (Pool.discard svc c)

/-- A session is abandoned before its end. -/
def abandon (svc : DatabaseServer σ) (c : Connection) : Act (Source × σ) Unit := onPool do
  Pool.changeServer (svc.cut c.number)
  Pool.changePool Pool.forget

/-- Carries a batch write on from a call it waits for, on its connection once it has one. -/
def carryOn (svc : DatabaseServer σ) : (calls : Nat) → Option Connection → BatchWrite →
    Act (Source × σ) (Except StorageError Unit)
  | 0, _, _ => return .ok ()
  | calls + 1, held, w => do
    let (answer, held) ← match w.waiting, held with
      | .release, some c => do
        release svc c
        pure (Except.ok 0, none)
      | p, some c => do
        let (r, c) ← phase svc c p w.rows
        pure (r, some c)
      | _, none => do
        match ← acquire svc with
        | .ok c => pure (.ok 0, some c)
        | .error e => pure (.error e, none)
    let (progress, events) := w.reply answer
    Act.report events
    match progress with
    | .going w => carryOn svc calls held w
    | .finished r => return r

/-- Writes a batch. -/
def write (svc : DatabaseServer σ) (samples : List Sample) : Act (Source × σ) (Except StorageError Unit) := do
  let (src, _) ← Act.get
  let (started, events) := BatchWrite.start src.settings.logSamples samples
  Act.report events
  match started with
  | .error e => return .error e
  | .ok w => carryOn svc WritePhase.all.length none w

/-- The statement that only shows that the server answers. -/
def probeStatement : String := "SELECT 1"

/-- Makes sure that the server answers on a connection of the pool. -/
def ping (svc : DatabaseServer σ) : Act (Source × σ) (Except StorageError Unit) := do
  match ← refresh svc with
  | .error e => return .error e
  | .ok _ =>
    let (src, _) ← Act.get
    match ← onPool (Pool.acquire svc src.options) with
    | .error e => return .error (.healthCheck e)
    | .ok c =>
      let (r, c) ← onPool (Pool.withConnection c (Connection.ask svc (.execute probeStatement none)))
      onPool (Pool.giveBack svc c)
      match r with
      | .ok _ => return .ok ()
      | .error e => return .error (.healthCheck e)

/-- Answers whether the store is well; why not is reported. -/
def checkHealth (svc : DatabaseServer σ) : Act (Source × σ) (Except StorageError Unit) := do
  let r ← ping svc
  Act.report (match r with | .ok () => [] | .error e => [.healthFailed e])
  return r

/-- Closes the pool. -/
def close (svc : DatabaseServer σ) : Act (Source × σ) Unit := onPool (Pool.close svc)

/-! ## Sessions for the lock -/

/-- Opens a connection outside the pool. -/
def dedicated (svc : DatabaseServer σ) : Act (Source × σ) (Except StorageError Nat) := do
  match ← refresh svc with
  | .error e => return .error e
  | .ok o => Act.ofState fun (src, s) =>
    let (r, s) := svc.connect o s
    (r.mapError .acquire, (src, s))

/-- An order on a connection outside the pool. -/
def order (svc : DatabaseServer σ) (session : Nat) (o : Order) (t : Source × σ) : Except DatabaseFault Nat × Source × σ :=
  let (r, s) := svc.send session o t.2
  (r, t.1, s)

/-- The answer of a statement that says true or false. -/
def truth (r : Except DatabaseFault Nat) : Except DatabaseFault Bool := r.map fun n => decide (n ≠ 0)

/-- The server as what competitors for a lock ask. -/
def lockService (svc : DatabaseServer σ) : LockService (Source × σ) where
  connect := dedicated svc
  tryLock session id t :=
    let (r, t) := order svc session (.execute "SELECT pg_try_advisory_lock($1)" (some id)) t
    (truth r, t)
  probe session t :=
    let (r, t) := order svc session (.execute probeStatement none) t
    (r.map fun _ => (), t)
  unlock session id t :=
    let (r, t) := order svc session (.execute "SELECT pg_advisory_unlock($1)" (some id)) t
    (truth r, t)
  close session t := (t.1, svc.cut session t.2)

end Source

end Intake
