import Intake.Settings.Basic
import Intake.Text.Blank

/-!
# Checking settings

Settings that contradict themselves are refused before anything is started. `Settings.check` goes through the sections in order
and stops at the first rule that is broken; what the service derives from the settings while it starts (the mode of encryption,
the way of electing) cannot fail once they have passed.
-/

namespace Intake

/-- How a connection to the database is encrypted. -/
inductive SslMode where
  | disable | allow | prefer | require | verifyCa | verifyFull
  deriving DecidableEq, Inhabited, Repr

namespace SslMode

/-- The name that the settings use. -/
def name : SslMode → String
  | .disable => "disable"
  | .allow => "allow"
  | .prefer => "prefer"
  | .require => "require"
  | .verifyCa => "verify-ca"
  | .verifyFull => "verify-full"

/-- The name as one word. -/
def word : SslMode → String
  | .disable => "Disable"
  | .allow => "Allow"
  | .prefer => "Prefer"
  | .require => "Require"
  | .verifyCa => "VerifyCa"
  | .verifyFull => "VerifyFull"

def all : List SslMode := [.disable, .allow, .prefer, .require, .verifyCa, .verifyFull]

/-- The mode of a name in any letter case. -/
def ofName? (s : String) : Option SslMode := all.find? fun m => m.name.toList = s.toList.map Char.toLower

/-- Whether a connection without encryption is out of the question. -/
def needsEncryption : SslMode → Bool
  | .require | .verifyCa | .verifyFull => true
  | _ => false

end SslMode

/-- A rule for settings that is broken. -/
inductive InvalidSetting where
  | telemetryPath (given : String)
  | logLevel (given : String)
  | table (given : String)
  | noConnections
  | idleAboveOpen (idle openConns : Nat)
  | sslMode (given : String)
  | zeroInterval
  | negativeIdleTimeout (given : Int)
  | twoBackends
  | lockWithoutIdleTimeout
  deriving DecidableEq, Repr

def InvalidSetting.message : InvalidSetting → String
  | .telemetryPath given => "telemetry_path must be a single path segment, got " ++ Quoted.text given
  | .logLevel given => "log level must be one of error, warn, info, debug; got " ++ Quoted.text given
  | .table given =>
    "table prefix " ++ Quoted.text given
      ++ " must start with a letter or underscore and contain only ASCII letters, digits or underscores"
  | .noConnections => "max_open_conns must be greater than 0"
  | .idleAboveOpen idle openConns =>
    "max_idle_conns (" ++ toString idle ++ ") cannot exceed max_open_conns (" ++ toString openConns ++ ")"
  | .sslMode given =>
    "invalid ssl_mode " ++ Quoted.text given ++ ": error with configuration: unknown value " ++ Quoted.text given
      ++ " for `ssl_mode`"
  | .zeroInterval => "election interval_ms must be greater than 0"
  | .negativeIdleTimeout given => "election idle_timeout_ms must not be negative, got " ++ toString given
  | .twoBackends => "use either the external decision endpoint or the advisory lock for leader election"
  | .lockWithoutIdleTimeout => "idle_timeout_ms must be set when using the advisory lock"

namespace WebSettings

/-- The telemetry path without the slashes around it. -/
def telemetrySegment (s : WebSettings) : String := String.ofList (trimEnds (· = '/') s.telemetryPath.toList)

/-- The telemetry path must be one segment. -/
def check (s : WebSettings) : Except InvalidSetting Unit :=
  let segment := s.telemetrySegment.toList
  if segment.isEmpty || segment.contains '/' then .error (.telemetryPath s.telemetryPath) else .ok ()

end WebSettings

namespace LogSettings

def levels : List String := ["error", "warn", "info", "debug"]

def check (s : LogSettings) : Except InvalidSetting Unit :=
  if levels.contains s.level then .ok () else .error (.logLevel s.level)

end LogSettings

/-- A letter or an underscore. -/
def isIdentifierStart (c : Char) : Bool := c.isAlpha || c = '_'

/-- A letter, a digit or an underscore. -/
def isIdentifierPart (c : Char) : Bool := c.isAlphanum || c = '_'

/-- A name that can stand in a statement without quotes. -/
def isPlainIdentifier (s : String) : Bool :=
  match s.toList with
  | [] => false
  | c :: cs => isIdentifierStart c && cs.all isIdentifierPart

namespace PostgresSettings

def sslMode? (s : PostgresSettings) : Except InvalidSetting SslMode :=
  match SslMode.ofName? s.sslMode with
  | some m => .ok m
  | none => .error (.sslMode s.sslMode)

def check (s : PostgresSettings) : Except InvalidSetting Unit :=
  if !isPlainIdentifier s.table then .error (.table s.table)
  else if s.maxOpenConns = 0 then .error .noConnections
  else if s.maxOpenConns < s.maxIdleConns then .error (.idleAboveOpen s.maxIdleConns s.maxOpenConns)
  else
    match s.sslMode? with
    | .ok _ => .ok ()
    | .error e => .error e

end PostgresSettings

/-- Where and as whom to connect; the password is added when a session is opened. -/
structure ConnectOptions where
  host : String
  port : Nat
  user : String
  database : String
  sslMode : SslMode
  password : Option String
  deriving DecidableEq, Inhabited, Repr

def PostgresSettings.connectOptions? (s : PostgresSettings) : Except InvalidSetting ConnectOptions :=
  match s.sslMode? with
  | .ok m => .ok ⟨s.host, s.port, s.user, s.database, m, none⟩
  | .error e => .error e

/-- The way of electing a leader that the settings ask for. -/
inductive ElectionBackend where
  /-- Every instance writes. -/
  | disabled
  /-- The instances compete for a lock; without an idle timeout the holder keeps it while it has no traffic. -/
  | advisoryLock (lockId : Int) (interval : Span) (idleTimeout : Option Span)
  | externalDecision
  deriving DecidableEq, Repr

namespace ElectionSettings

def backend? (s : ElectionSettings) : Except InvalidSetting ElectionBackend :=
  if s.advisoryLockId ≠ 0 && s.externalDecision then .error .twoBackends
  else if s.externalDecision then .ok .externalDecision
  else if s.advisoryLockId = 0 then .ok .disabled
  else
    match s.idleTimeoutMs with
    | none => .error .lockWithoutIdleTimeout
    | some ms =>
      if ms < 0 then .error (.negativeIdleTimeout ms)
      else .ok (.advisoryLock s.advisoryLockId s.interval (if ms = 0 then none else some (Span.ofMillis ms.toNat)))

def check (s : ElectionSettings) : Except InvalidSetting Unit :=
  if s.intervalMs = 0 then .error .zeroInterval
  else
    let backend : Except InvalidSetting Unit := s.backend?.map fun _ => ()
    match s.idleTimeoutMs with
    | some ms => if ms < 0 then .error (.negativeIdleTimeout ms) else backend
    | none => backend

end ElectionSettings

/-- Checks every section, in order. -/
def Settings.check (s : Settings) : Except InvalidSetting Unit :=
  match s.web.check with
  | .error e => .error e
  | .ok () =>
    match s.log.check with
    | .error e => .error e
    | .ok () =>
      match s.postgres.check with
      | .error e => .error e
      | .ok () => s.election.check

end Intake
