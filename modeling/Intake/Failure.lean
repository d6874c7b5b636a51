import Intake.Store.Phase
import Intake.Text.Detail
import Intake.Wire.WriteRequest

/-!
# Failures: what can go wrong, by cause

Every failure is a value that names its cause; `message` is the sentence shown to a user and `detail` the term shown to someone
who debugs. A failure that another one caused carries it.
-/

namespace Intake

/-- Why a file operation failed. -/
inductive FileFault where
  /-- Reported by the operating system, with its number. -/
  | system (code : Nat) (kind text : String)
  | other (text : String)
  deriving DecidableEq, Repr

namespace FileFault

def notFound : FileFault := .system 2 "NotFound" "No such file or directory"

def message : FileFault → String
  | .system code _ text => text ++ " (os error " ++ toString code ++ ")"
  | .other text => text

def detail : FileFault → Detail
  | .system code kind text =>
    .record "Os" [("code", .nat code), ("kind", .word kind), ("message", .quoted text)]
  | .other text => .record "Custom" [("kind", .word "Other"), ("error", .quoted text)]

end FileFault

/-- Why the database did not do what it was asked. -/
inductive DatabaseFault where
  | rowNotFound
  | poolTimedOut
  | poolClosed
  | workerCrashed
  /-- The server sent something that makes no sense here. -/
  | protocol (text : String)
  /-- The connection broke or could not be made. -/
  | connection (cause : FileFault)
  /-- The server refused and said why. -/
  | refused (text : String)
  /-- An encrypted connection was asked for, which is not available. -/
  | encryption
  deriving DecidableEq, Repr

namespace DatabaseFault

/-- What is said when an encrypted connection cannot be had. -/
def encryptionText : String :=
  "TLS upgrade required by connect options but SQLx was built without TLS support enabled"

def message : DatabaseFault → String
  | .rowNotFound => "no rows returned by a query that expected to return at least one row"
  | .poolTimedOut => "pool timed out while waiting for an open connection"
  | .poolClosed => "attempted to acquire a connection on a closed pool"
  | .workerCrashed => "attempted to communicate with a crashed background worker"
  | .protocol text => "encountered unexpected or invalid data: " ++ text
  | .connection cause => "error communicating with database: " ++ cause.message
  | .refused text => "error returned from database: " ++ text
  | .encryption => "error occurred while attempting to establish a TLS connection: " ++ encryptionText

def detail : DatabaseFault → Detail
  | .rowNotFound => .word "RowNotFound"
  | .poolTimedOut => .word "PoolTimedOut"
  | .poolClosed => .word "PoolClosed"
  | .workerCrashed => .word "WorkerCrashed"
  | .protocol text => .call "Protocol" [.quoted text]
  | .connection cause => .call "Io" [cause.detail]
  | .refused text => .call "Database" [.quoted text]
  | .encryption => .call "Tls" [.quoted encryptionText]

end DatabaseFault

/-- Why the store could not be reached or a batch could not be written. -/
inductive StorageError where
  /-- No session could be reserved. -/
  | acquire (cause : DatabaseFault)
  /-- A statement of a batch write failed. -/
  | phase (phase : WritePhase) (cause : DatabaseFault)
  /-- The password could not be read. -/
  | passwordFile (path : String) (cause : FileFault)
  | healthCheck (cause : DatabaseFault)
  /-- The store did not answer while starting up. -/
  | retriesExhausted (attempts : Nat)
  /-- A sample's time is no time of the column. -/
  | timestampOutOfRange (timestampMs : Int)
  /-- Reported by a store other than a database server. -/
  | backend (phase : WritePhase) (text : String)
  deriving DecidableEq, Repr

namespace StorageError

def message : StorageError → String
  | .acquire cause => "Failed to acquire database session: " ++ cause.message
  | .phase p cause => "Batch write failed during " ++ p.name ++ ": " ++ cause.message
  | .passwordFile path cause => "Failed to read password file " ++ path ++ ": " ++ cause.message
  | .healthCheck cause => "Health check failed: " ++ cause.message
  | .retriesExhausted n => "Unable to connect to the database after " ++ toString n ++ " attempts"
  | .timestampOutOfRange t => "Sample timestamp " ++ toString t ++ "ms is out of range"
  | .backend p text => "Storage error during " ++ p.name ++ ": " ++ text

def detail : StorageError → Detail
  | .acquire cause => .call "Acquire" [cause.detail]
  | .phase p cause => .record "Phase" [("phase", .word p.word), ("source", cause.detail)]
  | .passwordFile path cause => .record "PasswordFile" [("path", .quoted path), ("source", cause.detail)]
  | .healthCheck cause => .call "HealthCheck" [cause.detail]
  | .retriesExhausted n => .record "ConnectRetriesExhausted" [("attempts", .nat n)]
  | .timestampOutOfRange t => .record "TimestampOutOfRange" [("timestamp_ms", .int t)]
  | .backend p text => .record "Backend" [("phase", .word p.word), ("message", .quoted text)]

/-- The phase of a batch write in which the failure arose, if it arose in one. A time that does not fit would have failed the
bulk load. -/
def phase? : StorageError → Option WritePhase
  | .phase p _ => some p
  | .backend p _ => some p
  | .timestampOutOfRange _ => some .bulkLoad
  | _ => none

end StorageError

/-- Why leadership is not known or could not be given up. -/
inductive ElectionError where
  /-- The session for the lock could not be opened. -/
  | connect (lockId : Int) (cause : StorageError)
  /-- The session was lost during a check. -/
  | lockSession (lockId : Int) (cause : DatabaseFault)
  /-- The last check failed and none has succeeded since. -/
  | checkFailed (lockId : Int) (reason : String)
  | release (lockId : Int) (cause : DatabaseFault)
  /-- The server says the session did not hold the lock. -/
  | notHeld (lockId : Int)
  deriving DecidableEq, Repr

namespace ElectionError

def message : ElectionError → String
  | .connect id cause => "Advisory lock " ++ toString id ++ " connect failure: " ++ cause.message
  | .lockSession id cause => "Advisory lock " ++ toString id ++ " session failure: " ++ cause.message
  | .checkFailed id reason => "Advisory lock " ++ toString id ++ " check failed: " ++ reason
  | .release id cause => "Failed to release advisory lock " ++ toString id ++ ": " ++ cause.message
  | .notHeld id => "Advisory lock " ++ toString id ++ " was not held by this session"

def detail : ElectionError → Detail
  | .connect id cause => .record "Connect" [("lock_id", .int id), ("source", cause.detail)]
  | .lockSession id cause => .record "LockSession" [("lock_id", .int id), ("source", cause.detail)]
  | .checkFailed id reason => .record "CheckFailed" [("lock_id", .int id), ("reason", .quoted reason)]
  | .release id cause => .record "Release" [("lock_id", .int id), ("source", cause.detail)]
  | .notHeld id => .call "NotHeld" [.int id]

end ElectionError

/-- Why the settings could not be loaded. -/
inductive SettingsError where
  /-- A file that must be there is not, or its format is unknown. -/
  | file (text : String)
  /-- A file is not well formed. -/
  | syntaxError (file : String)
  /-- A value has the wrong type. `got` and `expected` are phrases, `key` is where, `origin` the source if known. -/
  | wrongType (got expected key : String) (origin : Option String)
  /-- A value of the right type cannot be used. -/
  | unusable (text : String)
  deriving DecidableEq, Repr

def SettingsError.message : SettingsError → String
  | .file text => text
  | .syntaxError name => "cannot read " ++ name
  | .wrongType got expected key origin =>
    "invalid type: " ++ got ++ ", expected " ++ expected ++ " for key `" ++ key ++ "`"
      ++ (match origin with | some o => " in " ++ o | none => "")
  | .unusable text => text

/-- Any failure of the service. -/
inductive Failure where
  | settings (cause : SettingsError)
  /-- The settings contradict each other or the rules for them. -/
  | invalidSettings (text : String)
  | election (cause : ElectionError)
  | storage (cause : StorageError)
  | decode (cause : DecodeError)
  /-- A meter was registered twice. -/
  | duplicateMeter
  | file (cause : FileFault)
  /-- Nobody was left to be told to stop. -/
  | signalLost (text : String)
  | fatal (text : String)
  deriving DecidableEq, Repr

namespace Failure

def message : Failure → String
  | .settings cause => cause.message
  | .invalidSettings text => "Invalid config: " ++ text
  | .election cause => cause.message
  | .storage cause => cause.message
  | .decode cause => cause.text
  | .duplicateMeter => "Duplicate metrics collector registration attempted"
  | .file cause => cause.message
  | .signalLost text => text
  | .fatal text => "Fatal error: " ++ text

def detail : Failure → Detail
  | .settings cause => .call "Config" [.word cause.message]
  | .invalidSettings text => .call "InvalidConfig" [.quoted text]
  | .election cause => .call "Election" [cause.detail]
  | .storage cause => .call "Storage" [cause.detail]
  | .decode cause => .call "Decode" [.word cause.text]
  | .duplicateMeter => .call "Metrics" [.word "AlreadyReg"]
  | .file cause => .call "Io" [cause.detail]
  | .signalLost text => .call "SignalSenderClosed" [.quoted text]
  | .fatal text => .call "Fatal" [.quoted text]

end Failure

end Intake
