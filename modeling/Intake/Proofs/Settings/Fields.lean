import Intake.Proofs.Settings.Tree

/-!
# Fields: the settings one by one

A `Setting` says where a setting stands in a tree, how it is read and which part of the settings it is. The settings are read from
a tree by reading every one of them (`gives_settings`): the tree has settings if each of its fields can be read, and otherwise the
error is that of a field that cannot.
-/

namespace Intake

/-! ## Results -/

/-- What holds of a result: `Q` of its value, or `F` of its error. -/
def Gives {ε α : Type} (r : Except ε α) (Q : α → Prop) (F : ε → Prop) : Prop :=
  match r with
  | .ok a => Q a
  | .error e => F e

section

variable {ε α β : Type} {r : Except ε α} {P : β → Prop} {Q : α → Prop} {F : ε → Prop}

theorem gives_self (r : Except ε α) : Gives r (r = .ok ·) (r = .error ·) := by
  cases r <;> rfl

theorem Gives.mono {Q' : α → Prop} {F' : ε → Prop} (h : Gives r Q F) (hQ : ∀ a, Q a → Q' a) (hF : ∀ e, F e → F' e) :
    Gives r Q' F' := by
  cases r with
  | ok a => exact hQ a h
  | error e => exact hF e h

theorem Gives.bind {x : Except ε β} {k : β → Except ε α} (h : Gives x P F) (hk : ∀ b, P b → Gives (k b) Q F) :
    Gives (x >>= k) Q F := by
  cases x with
  | ok b => exact hk b h
  | error e => exact h

end

/-! ## Settings -/

/-- A setting. -/
structure Setting where
  /-- The names of its section and of its field. -/
  path : String × String
  /-- What errors call its section. -/
  struct : String
  /-- Its place, in a section that is given as a list. -/
  position : Nat
  Value : Type
  read : Reading.Entry → Except SettingsError Value
  value : Settings → Value

/-- A setting that is a text. -/
structure TextSetting where
  path : String × String
  struct : String
  position : Nat
  value : Settings → String

namespace TextSetting

def telemetryPath : TextSetting := ⟨("web", "telemetry_path"), "WebConfig", 1, fun c => c.web.telemetryPath⟩
def level : TextSetting := ⟨("log", "level"), "LogConfig", 0, fun c => c.log.level⟩
def host : TextSetting := ⟨("postgres", "host"), "PostgresConfig", 0, fun c => c.postgres.host⟩
def user : TextSetting := ⟨("postgres", "user"), "PostgresConfig", 2, fun c => c.postgres.user⟩
def passwordFile : TextSetting := ⟨("postgres", "password_file"), "PostgresConfig", 3, fun c => c.postgres.passwordFile⟩
def database : TextSetting := ⟨("postgres", "database"), "PostgresConfig", 4, fun c => c.postgres.database⟩
def sslMode : TextSetting := ⟨("postgres", "ssl_mode"), "PostgresConfig", 5, fun c => c.postgres.sslMode⟩
def table : TextSetting := ⟨("postgres", "table"), "PostgresConfig", 6, fun c => c.postgres.table⟩

def all : List TextSetting := [telemetryPath, level, host, user, passwordFile, database, sslMode, table]

end TextSetting

namespace Setting

open Reading

/-- The key that errors name. -/
def key (f : Setting) : String := f.path.1 ++ "." ++ f.path.2

def ofText (f : TextSetting) : Setting := ⟨f.path, f.struct, f.position, String, text, f.value⟩

def postgres {α : Type} (field : String) (position : Nat) (read : Entry → Except SettingsError α) (value : PostgresSettings → α) :
    Setting := ⟨("postgres", field), "PostgresConfig", position, α, read, fun c => value c.postgres⟩

def election {α : Type} (field : String) (position : Nat) (read : Entry → Except SettingsError α) (value : ElectionSettings → α) :
    Setting := ⟨("election", field), "ElectionConfig", position, α, read, fun c => value c.election⟩

def listenAddress : Setting := ⟨("web", "listen_address"), "WebConfig", 0, SocketAddress, address, fun c => c.web.listenAddress⟩

def port : Setting := postgres "port" 1 (naturalOf 16) (·.port)
def maxOpenConns : Setting := postgres "max_open_conns" 7 (naturalOf 32) (·.maxOpenConns)
def maxIdleConns : Setting := postgres "max_idle_conns" 8 (naturalOf 32) (·.maxIdleConns)
def logSamples : Setting := postgres "log_samples" 9 boolean (·.logSamples)
def connectRetries : Setting := postgres "db_connect_retries" 10 natural (·.connectRetries)
def retryDelayMs : Setting := postgres "db_connect_retry_delay_ms" 11 natural (·.retryDelayMs)
def connectTimeoutSecs : Setting := postgres "connect_timeout_secs" 12 natural (·.connectTimeoutSecs)

def advisoryLockId : Setting := election "advisory_lock_id" 0 integer (·.advisoryLockId)
def idleTimeoutMs : Setting := election "idle_timeout_ms" 1 (optional integer) (·.idleTimeoutMs)
def externalDecision : Setting := election "external_decision" 2 boolean (·.externalDecision)
def intervalMs : Setting := election "interval_ms" 3 natural (·.intervalMs)

def ofWeb : List Setting := [listenAddress, ofText .telemetryPath]

def ofLog : List Setting := [ofText .level]

def ofPostgres : List Setting :=
  [ofText .host, port, ofText .user, ofText .passwordFile, ofText .database, ofText .sslMode, ofText .table, maxOpenConns,
    maxIdleConns, logSamples, connectRetries, retryDelayMs, connectTimeoutSecs]

def ofElection : List Setting := [advisoryLockId, idleTimeoutMs, externalDecision, intervalMs]

/-- Every setting there is. -/
def all : List Setting := ofWeb ++ ofLog ++ ofPostgres ++ ofElection

theorem ofText_mem : ∀ f ∈ TextSetting.all, ofText f ∈ all := by
  simp [TextSetting.all, all, ofWeb, ofLog, ofPostgres, ofElection]

/-- Reads a setting from a tree. -/
def look (f : Setting) (top : Node) : Except SettingsError f.Value := do
  let s ← section? top f.path.1 f.struct
  s.get f.path.2 f.position f.read (f.value {})

/-- What a setting is depends on its section alone. -/
theorem look_congr {t t' : Node} {f : Setting} (h : t'.entries.lookup f.path.1 = t.entries.lookup f.path.1) :
    f.look t' = f.look t := by
  unfold look section?
  rw [h]

/-- If its section is a table, or is not there, a setting is what stands in its field, or its default. -/
theorem look_of_isTable {t : Node} {f : Setting} (h : ∀ n, t.entries.lookup f.path.1 = some n → n.isTable = true) :
    f.look t =
      match t.field? f.path with
      | some n => f.read ⟨f.key, n⟩
      | none => .ok (f.value {}) := by
  unfold look section? Node.field? Node.part
  cases hpart : t.entries.lookup f.path.1 with
  | none => rfl
  | some n =>
    cases n with
    | scalar o v => cases h _ hpart
    | list o ns => cases h _ hpart
    | table o es =>
      change Section.get _ _ _ _ _ = _
      unfold Section.get
      cases hfield : es.lookup f.path.2 <;> simp [Node.entries, hfield, key]

/-! ## Reading them all -/

/-- Some settings are what is read from a tree. -/
def Agree (top : Node) (fs : List Setting) (c : Settings) : Prop := ∀ f ∈ fs, f.look top = .ok (f.value c)

/-- The error of a setting that cannot be read. -/
def Fails (top : Node) (e : SettingsError) : Prop := ∃ f ∈ all, f.look top = .error e

variable {top : Node} {α : Type} {Q : α → Prop}

/-- A section that cannot be read leaves none of its settings. -/
theorem gives_section {name struct : String} {k : Section → Except SettingsError α} (f : Setting) (hmem : f ∈ all)
    (hname : f.path.1 = name) (hstruct : f.struct = struct)
    (hok : ∀ s, section? top name struct = .ok s → Gives (k s) Q (Fails top)) :
    Gives (section? top name struct >>= k) Q (Fails top) := by
  refine ((gives_self _).mono (fun _ hs => hs) fun e hs => ⟨f, hmem, ?_⟩).bind hok
  rw [look, hname, hstruct, hs]
  rfl

/-- The next setting of a section is read. -/
theorem gives_look (f : Setting) {s : Section} {k : f.Value → Except SettingsError α} (hs : section? top f.path.1 f.struct = .ok s)
    (hmem : f ∈ all) (hok : ∀ a, f.look top = .ok a → Gives (k a) Q (Fails top)) :
    Gives (s.get f.path.2 f.position f.read (f.value {}) >>= k) Q (Fails top) := by
  have hlook : f.look top = s.get f.path.2 f.position f.read (f.value {}) := by
    rw [look, hs]
    rfl
  rw [← hlook]
  exact ((gives_self _).mono (fun _ ha => ha) fun e he => ⟨f, hmem, he⟩).bind hok

theorem gives_web (top : Node) :
    Gives (web top) (fun w => ∀ l p e, Agree top ofWeb ⟨w, l, p, e⟩) (Fails top) := by
  refine gives_section listenAddress (by simp [all, ofWeb]) rfl rfl fun s hs => ?_
  refine gives_look listenAddress hs (by simp [all, ofWeb]) fun _ hlisten => ?_
  refine gives_look (ofText .telemetryPath) hs (by simp [all, ofWeb]) fun _ htelemetry => ?_
  intro l p e
  simp only [Agree, ofWeb, List.forall_mem_cons]
  exact ⟨hlisten, htelemetry, List.forall_mem_nil _⟩

theorem gives_log (top : Node) :
    Gives (log top) (fun l => ∀ w p e, Agree top ofLog ⟨w, l, p, e⟩) (Fails top) := by
  refine gives_section (ofText .level) (by simp [all, ofLog]) rfl rfl fun s hs => ?_
  refine gives_look (ofText .level) hs (by simp [all, ofLog]) fun _ hlevel => ?_
  intro w p e
  simp only [Agree, ofLog, List.forall_mem_cons]
  exact ⟨hlevel, List.forall_mem_nil _⟩

theorem gives_postgres (top : Node) :
    Gives (Reading.postgres top) (fun p => ∀ w l e, Agree top ofPostgres ⟨w, l, p, e⟩) (Fails top) := by
  refine gives_section port (by simp [all, ofPostgres]) rfl rfl fun s hs => ?_
  refine gives_look (ofText .host) hs (by simp [all, ofPostgres]) fun _ hhost => ?_
  refine gives_look port hs (by simp [all, ofPostgres]) fun _ hport => ?_
  refine gives_look (ofText .user) hs (by simp [all, ofPostgres]) fun _ huser => ?_
  refine gives_look (ofText .passwordFile) hs (by simp [all, ofPostgres]) fun _ hpassword => ?_
  refine gives_look (ofText .database) hs (by simp [all, ofPostgres]) fun _ hdatabase => ?_
  refine gives_look (ofText .sslMode) hs (by simp [all, ofPostgres]) fun _ hssl => ?_
  refine gives_look (ofText .table) hs (by simp [all, ofPostgres]) fun _ htable => ?_
  refine gives_look maxOpenConns hs (by simp [all, ofPostgres]) fun _ hopen => ?_
  refine gives_look maxIdleConns hs (by simp [all, ofPostgres]) fun _ hidle => ?_
  refine gives_look logSamples hs (by simp [all, ofPostgres]) fun _ hsamples => ?_
  refine gives_look connectRetries hs (by simp [all, ofPostgres]) fun _ hretries => ?_
  refine gives_look retryDelayMs hs (by simp [all, ofPostgres]) fun _ hdelay => ?_
  refine gives_look connectTimeoutSecs hs (by simp [all, ofPostgres]) fun _ htimeout => ?_
  intro w l e
  simp only [Agree, ofPostgres, List.forall_mem_cons]
  exact ⟨hhost, hport, huser, hpassword, hdatabase, hssl, htable, hopen, hidle, hsamples, hretries, hdelay, htimeout, List.forall_mem_nil _⟩

theorem gives_election (top : Node) :
    Gives (Reading.election top) (fun e => ∀ w l p, Agree top ofElection ⟨w, l, p, e⟩) (Fails top) := by
  refine gives_section advisoryLockId (by simp [all, ofElection]) rfl rfl fun s hs => ?_
  refine gives_look advisoryLockId hs (by simp [all, ofElection]) fun _ hid => ?_
  refine gives_look idleTimeoutMs hs (by simp [all, ofElection]) fun _ hidle => ?_
  refine gives_look externalDecision hs (by simp [all, ofElection]) fun _ hexternal => ?_
  refine gives_look intervalMs hs (by simp [all, ofElection]) fun _ hinterval => ?_
  intro w l p
  simp only [Agree, ofElection, List.forall_mem_cons]
  exact ⟨hid, hidle, hexternal, hinterval, List.forall_mem_nil _⟩

/-- Reading a tree gives all its settings, or fails with one of them. -/
theorem gives_settings (top : Node) : Gives (settings top) (Agree top all) (Fails top) := by
  refine (gives_web top).bind fun w hw => ?_
  refine (gives_log top).bind fun l hl => ?_
  refine (gives_postgres top).bind fun p hp => ?_
  refine (gives_election top).bind fun e he => ?_
  have hfirst : Agree top (ofWeb ++ ofLog) ⟨w, l, p, e⟩ := List.forall_mem_append.2 ⟨hw l p e, hl w p e⟩
  have hmost : Agree top (ofWeb ++ ofLog ++ ofPostgres) ⟨w, l, p, e⟩ := List.forall_mem_append.2 ⟨hfirst, hp w l e⟩
  exact List.forall_mem_append.2 ⟨hmost, he w l p⟩

end Setting

end Intake
