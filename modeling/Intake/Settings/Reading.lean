import Intake.Failure
import Intake.Settings.Basic
import Intake.Settings.Node
import Intake.Text.Lower

/-!
# Reading settings from a tree

Every setting has a kind, and a value of another kind is converted where that makes sense: a number or a truth value into its
text, a text that says yes or no or writes a number into that, a decimal number into the nearest whole one. What cannot be
converted is an error that names the value, what was expected, the setting, and the source.
-/

namespace Intake

namespace Reading

/-- A value to be read, with the key it stands under. -/
structure Entry where
  key : String
  node : Node

/-- A value as errors call it. -/
def describe : Node → String
  | .scalar _ (.text s) => "string " ++ Quoted.text s
  | .scalar _ (.integer i) => "64-bit integer `" ++ toString i ++ "`"
  | .scalar _ (.decimal x) => "floating point `" ++ Decimal.text x ++ "`"
  | .scalar _ (.boolean b) => "boolean `" ++ toString b ++ "`"
  | .scalar _ .nothing => "unit value"
  | .list .. => "sequence"
  | .table .. => "map"

def wrongType (e : Entry) (expected : String) : SettingsError := .wrongType (describe e.node) expected e.key e.node.origin

/-- A text. Numbers and truth values are taken by their text. -/
def text (e : Entry) : Except SettingsError String :=
  match e.node with
  | .scalar _ (.text s) => .ok s
  | .scalar _ (.integer i) => .ok (toString i)
  | .scalar _ (.decimal x) => .ok (Decimal.text x)
  | .scalar _ (.boolean b) => .ok (toString b)
  | _ => .error (wrongType e "a string")

/-- The truth value that a word says, in any letter case. -/
def wordValue? (s : String) : Option Bool :=
  let w := lowerText s
  if w = "true" ∨ w = "on" ∨ w = "yes" then some true
  else if w = "false" ∨ w = "off" ∨ w = "no" then some false
  else none

/-- A truth value. A number counts as true unless it is zero. -/
def boolean (e : Entry) : Except SettingsError Bool :=
  match e.node with
  | .scalar _ (.boolean b) => .ok b
  | .scalar _ (.integer i) => .ok (i ≠ 0)
  | .scalar _ (.decimal x) => .ok (!x.numEq Binary64.zero)
  | .scalar o (.text s) =>
    match wordValue? s with
    | some b => .ok b
    | none =>
      if s = "1" then .ok true
      else if s = "0" then .ok false
      else .error (.wrongType ("string " ++ Quoted.text (lowerText s)) "a boolean" e.key o)
  | _ => .error (wrongType e "a boolean")

/-- A number brought into a range. -/
def clamp (low high i : Int) : Int := max low (min high i)

/-- The whole number nearest to a decimal one, a half away from zero, brought into a range; zero for what is no number. -/
def rounded (low high : Int) (x : Binary64) : Int :=
  match x.value with
  | .nan => 0
  | .infinite s => if s then low else high
  | .finite .. => clamp low high (x.roundAway.getD 0)

def minInt64 : Int := -9223372036854775808
def maxInt64 : Int := 9223372036854775807
def maxUInt64 : Int := 18446744073709551615

/-- The number that a text writes, if it lies in a range. -/
def numberInRange? (low high : Int) (s : String) : Option Int :=
  (Decimal.readInt? s).filter fun i => decide (low ≤ i) && decide (i ≤ high)

/-- A whole number of either sign. -/
def integer (e : Entry) : Except SettingsError Int :=
  match e.node with
  | .scalar _ (.integer i) => .ok i
  | .scalar _ (.boolean b) => .ok (if b then 1 else 0)
  | .scalar _ (.decimal x) => .ok (rounded minInt64 maxInt64 x)
  | .scalar _ (.text s) =>
    match wordValue? s with
    | some b => .ok (if b then 1 else 0)
    | none =>
      match numberInRange? minInt64 maxInt64 s with
      | some i => .ok i
      | none => .error (wrongType e "an integer")
  | _ => .error (wrongType e "an integer")

/-- A text that a reader of numbers without sign takes: no minus. -/
def unsignedText? (s : String) : Option Int :=
  if s.toList.head? = some '-' then none else numberInRange? 0 maxUInt64 s

/-- A whole number that is not negative. -/
def natural (e : Entry) : Except SettingsError Nat :=
  match e.node with
  | .scalar _ (.integer i) =>
    if i < 0 then .error (wrongType e "an unsigned 64 bit or less integer") else .ok i.toNat
  | .scalar _ (.boolean b) => .ok (if b then 1 else 0)
  | .scalar _ (.decimal x) => .ok (rounded 0 maxUInt64 x).toNat
  | .scalar _ (.text s) =>
    match wordValue? s with
    | some b => .ok (if b then 1 else 0)
    | none =>
      match unsignedText? s with
      | some i => .ok i.toNat
      | none => .error (wrongType e "an integer")
  | _ => .error (wrongType e "an integer")

/-- A whole number of at most `bits` bits. -/
def naturalOf (bits : Nat) (e : Entry) : Except SettingsError Nat :=
  match natural e with
  | .error err => .error err
  | .ok n =>
    if n < 1 <<< bits then .ok n
    else
      .error (.wrongType ("64-bit unsigned integer `" ++ toString n ++ "`") ("an unsigned " ++ toString bits ++ " bit integer")
        e.key none)

/-- A value that may be absent. -/
def optional {α : Type} (read : Entry → Except SettingsError α) (e : Entry) : Except SettingsError (Option α) :=
  match e.node with
  | .scalar _ .nothing => .ok none
  | _ => (read e).map some

/-- A socket address, given as text. -/
def address (e : Entry) : Except SettingsError SocketAddress :=
  match text e with
  | .error err => .error err
  | .ok s =>
    match SocketAddress.read? s with
    | some a => .ok a
    | none => .error (.unusable "invalid socket address syntax")

/-! ## Sections -/

/-- A number with at least one place, as it is called where a section was expected. -/
def decimalWithPoint (x : Binary64) : String :=
  let t := Decimal.text x
  if t.toList.all (fun c => c.isDigit || c = '-') then t ++ ".0" else t

/-- A scalar as it is called where a section was expected. -/
def describeScalar : Scalar → String
  | .text s => "string " ++ Quoted.text s
  | .integer i => "integer `" ++ toString i ++ "`"
  | .decimal x => "floating point `" ++ decimalWithPoint x ++ "`"
  | .boolean b => "boolean `" ++ toString b ++ "`"
  | .nothing => "unit value"

/-- A section: its entries by name, or by position when it is given as a list. -/
structure Section where
  name : String
  find : (field : String) → (position : Nat) → Option Entry

/-- The section of a name in the top table; one that is not there is empty. -/
def section? (top : Node) (name struct : String) : Except SettingsError Section :=
  match top.entries.lookup name with
  | none => .ok ⟨name, fun _ _ => none⟩
  | some (.table _ es) => .ok ⟨name, fun field _ => (es.lookup field).map fun n => ⟨name ++ "." ++ field, n⟩⟩
  | some (.list _ ns) => .ok ⟨name, fun _ i => ns[i]?.map fun n => ⟨name ++ "[" ++ toString i ++ "]", n⟩⟩
  | some (.scalar _ v) =>
    .error (.unusable ("invalid type: " ++ describeScalar v ++ ", expected struct " ++ struct))

/-- Reads one setting of a section, or takes its default. -/
def Section.get {α : Type} (s : Section) (field : String) (position : Nat) (read : Entry → Except SettingsError α)
    (default : α) : Except SettingsError α :=
  match s.find field position with
  | none => .ok default
  | some e => read e

def web (top : Node) : Except SettingsError WebSettings := do
  let d : WebSettings := {}
  let s ← section? top "web" "WebConfig"
  let listenAddress ← s.get "listen_address" 0 address d.listenAddress
  let telemetryPath ← s.get "telemetry_path" 1 text d.telemetryPath
  return { listenAddress, telemetryPath }

def log (top : Node) : Except SettingsError LogSettings := do
  let d : LogSettings := {}
  let s ← section? top "log" "LogConfig"
  let level ← s.get "level" 0 text d.level
  return { level }

def postgres (top : Node) : Except SettingsError PostgresSettings := do
  let d : PostgresSettings := {}
  let s ← section? top "postgres" "PostgresConfig"
  let host ← s.get "host" 0 text d.host
  let port ← s.get "port" 1 (naturalOf 16) d.port
  let user ← s.get "user" 2 text d.user
  let passwordFile ← s.get "password_file" 3 text d.passwordFile
  let database ← s.get "database" 4 text d.database
  let sslMode ← s.get "ssl_mode" 5 text d.sslMode
  let table ← s.get "table" 6 text d.table
  let maxOpenConns ← s.get "max_open_conns" 7 (naturalOf 32) d.maxOpenConns
  let maxIdleConns ← s.get "max_idle_conns" 8 (naturalOf 32) d.maxIdleConns
  let logSamples ← s.get "log_samples" 9 boolean d.logSamples
  let connectRetries ← s.get "db_connect_retries" 10 natural d.connectRetries
  let retryDelayMs ← s.get "db_connect_retry_delay_ms" 11 natural d.retryDelayMs
  let connectTimeoutSecs ← s.get "connect_timeout_secs" 12 natural d.connectTimeoutSecs
  return { host, port, user, passwordFile, database, sslMode, table, maxOpenConns, maxIdleConns, logSamples, connectRetries,
           retryDelayMs, connectTimeoutSecs }

def election (top : Node) : Except SettingsError ElectionSettings := do
  let d : ElectionSettings := {}
  let s ← section? top "election" "ElectionConfig"
  let advisoryLockId ← s.get "advisory_lock_id" 0 integer d.advisoryLockId
  let idleTimeoutMs ← s.get "idle_timeout_ms" 1 (optional integer) d.idleTimeoutMs
  let externalDecision ← s.get "external_decision" 2 boolean d.externalDecision
  let intervalMs ← s.get "interval_ms" 3 natural d.intervalMs
  return { advisoryLockId, idleTimeoutMs, externalDecision, intervalMs }

/-- Reads all settings from a tree. -/
def settings (top : Node) : Except SettingsError Settings := do
  return { web := ← web top, log := ← log top, postgres := ← postgres top, election := ← election top }

end Reading

end Intake
