import Intake.Net.SocketAddress
import Intake.Text.Detail
import Intake.Time.Span

/-!
# Settings: what an operator can choose

The settings have four sections. Every setting has a default, so no settings at all are settings too. Numbers are kept as they
are given; the reader of the settings keeps them within the range of their kind (`Settings.Kind`).
-/

namespace Intake

/-- Where the service listens and under which path it shows its meters. -/
structure WebSettings where
  listenAddress : SocketAddress := .v4 0 0 0 0 9201
  telemetryPath : String := "/metrics"
  deriving DecidableEq, Inhabited, Repr

/-- How much is logged. -/
structure LogSettings where
  level : String := "debug"
  deriving DecidableEq, Inhabited, Repr

/-- The database: where it is, how to log in, how many connections, which tables. -/
structure PostgresSettings where
  host : String := "localhost"
  port : Nat := 5432
  user : String := "postgres"
  /-- The file that holds the password; none when empty. It is read again whenever a session may be opened. -/
  passwordFile : String := ""
  database : String := "postgres"
  sslMode : String := "disable"
  /-- What the names of the relations begin with. -/
  table : String := "metrics"
  maxOpenConns : Nat := 50
  maxIdleConns : Nat := 10
  /-- Print every staged sample. -/
  logSamples : Bool := false
  /-- How often to try again while starting up. -/
  connectRetries : Nat := 0
  retryDelayMs : Nat := 5000
  connectTimeoutSecs : Nat := 10
  deriving DecidableEq, Inhabited, Repr

/-- How the leader among several instances is chosen. -/
structure ElectionSettings where
  /-- The key of the lock that the instances compete for; zero for none. -/
  advisoryLockId : Int := 0
  /-- Leadership is given up when no batch arrived for this long; zero for never. -/
  idleTimeoutMs : Option Int := none
  /-- Whether somebody outside decides. -/
  externalDecision : Bool := false
  intervalMs : Nat := 5000
  deriving DecidableEq, Inhabited, Repr

structure Settings where
  web : WebSettings := {}
  log : LogSettings := {}
  postgres : PostgresSettings := {}
  election : ElectionSettings := {}
  deriving DecidableEq, Inhabited, Repr

namespace WebSettings

def detail (s : WebSettings) : Detail :=
  .record "WebConfig" [("listen_address", .word s.listenAddress.text), ("telemetry_path", .quoted s.telemetryPath)]

end WebSettings

namespace LogSettings

def detail (s : LogSettings) : Detail := .record "LogConfig" [("level", .quoted s.level)]

end LogSettings

namespace PostgresSettings

def detail (s : PostgresSettings) : Detail :=
  .record "PostgresConfig"
    [("host", .quoted s.host), ("port", .nat s.port), ("user", .quoted s.user), ("password_file", .quoted s.passwordFile),
      ("database", .quoted s.database), ("ssl_mode", .quoted s.sslMode), ("table", .quoted s.table),
      ("max_open_conns", .nat s.maxOpenConns), ("max_idle_conns", .nat s.maxIdleConns), ("log_samples", .bool s.logSamples),
      ("db_connect_retries", .nat s.connectRetries), ("db_connect_retry_delay_ms", .nat s.retryDelayMs),
      ("connect_timeout_secs", .nat s.connectTimeoutSecs)]

/-- Where the database is, for a reader; the password is not part of it. -/
def endpoint (s : PostgresSettings) : String :=
  "host=" ++ s.host ++ " port=" ++ toString s.port ++ " user=" ++ s.user ++ " dbname=" ++ s.database ++ " sslmode=" ++ s.sslMode

def connectTimeout (s : PostgresSettings) : Span := Span.ofSeconds s.connectTimeoutSecs

def retryDelay (s : PostgresSettings) : Span := Span.ofMillis s.retryDelayMs

end PostgresSettings

namespace ElectionSettings

def detail (s : ElectionSettings) : Detail :=
  .record "ElectionConfig"
    [("advisory_lock_id", .int s.advisoryLockId),
      ("idle_timeout_ms", match s.idleTimeoutMs with | none => .word "None" | some t => .call "Some" [.int t]),
      ("external_decision", .bool s.externalDecision), ("interval_ms", .nat s.intervalMs)]

def interval (s : ElectionSettings) : Span := Span.ofMillis s.intervalMs

end ElectionSettings

/-- All settings written out, as they are logged when the service starts. -/
def Settings.detail (s : Settings) : Detail :=
  .record "AdapterConfig"
    [("web", s.web.detail), ("log", s.log.detail), ("postgres", s.postgres.detail), ("election", s.election.detail)]

end Intake
