import Intake.Settings.KeyPath
import Intake.Settings.Reading
import Intake.Settings.Toml

/-!
# Layers: where settings come from

Settings are laid over each other, later sources over earlier ones: the defaults; the file that the variable `CONFIG_PATH` names,
which must be there; the file `config/local`, if it is there; and the environment variables whose name begins with `ADAPTER__`.
Each source changes only what it sets.

A file is looked for under its name as it is, and then with `.toml` behind it; a name that does not begin at the root is looked for
in the directory. In the environment two underscores separate a
section from a setting, letter case does not matter, and an empty variable counts as none.
-/

namespace Intake

/-- What the settings are loaded from: the directory, the files by their paths, and the environment in order. A path that does not
begin at the root begins at the directory. -/
structure Surroundings where
  directory : String
  files : List (String × String)
  /-- Directories that exist beside those that hold files. -/
  directories : List String := []
  environment : List (String × String)

namespace Layers

/-- The first value of an environment variable. -/
def valueOf? (s : Surroundings) (name : String) : Option String := s.environment.lookup name

/-! ## Files -/

/-- The pieces of a text between the places where a character stands. -/
def pieces (c : Char) (s : String) : List String := (s.toList.splitOn c).map String.ofList

/-- The parts of a path, without those that do not lead anywhere. -/
def pathParts (path : String) : List String := (pieces '/' path).filter fun p => p ≠ "" ∧ p ≠ "."

def joinParts (parts : List String) : String := "/".intercalate parts

/-- Whether a name ends in the extension of the only known format, with something before it. -/
def hasKnownExtension (name : String) : Bool :=
  match (pieces '.' name).reverse with
  | extension :: stem :: more => extension = "toml" && !(stem = "" && more.isEmpty)
  | _ => false

/-- Whether a path begins at the root. -/
def isAbsolute (path : String) : Bool := path.startsWith "/"

/-- The parts of a path from the root on, for a path seen from a directory. -/
def fullParts (directory path : String) : List String :=
  if isAbsolute path then pathParts path else pathParts directory ++ pathParts path

/-- Whether a place is a directory. -/
def isDirectory (s : Surroundings) (place : List String) : Bool :=
  place.isPrefixOf (pathParts s.directory)
    || s.directories.any (fun d => place.isPrefixOf (fullParts s.directory d))
    || s.files.any fun f => place.isPrefixOf (fullParts s.directory f.1).dropLast

/-- The place that some parts lead to, from a place on. Every part but the last must lead to a directory, and two points lead
back. -/
def walk (s : Surroundings) (place : List String) : List String → Option (List String)
  | [] => some place
  | part :: rest =>
    if part = ".." then walk s place.dropLast rest
    else if rest.isEmpty || isDirectory s (place ++ [part]) then walk s (place ++ [part]) rest
    else none

/-- The content of the file that some parts lead to from the root. -/
def contentOf? (s : Surroundings) (parts : List String) : Option String :=
  (walk s [] parts).bind fun place => (s.files.find? fun f => fullParts s.directory f.1 = place).map Prod.snd

/-- Whether a name can be that of a file: it does not end like the name of a directory. -/
def mayNameFile (name : String) : Bool :=
  match (pieces '/' name).getLast? with
  | some last => last ≠ "" && last ≠ "."
  | none => false

/-- Some parts with the known extension behind the last of them; none when they do not end in a name. -/
def withExtension? (parts : List String) : Option (List String) :=
  match parts.getLast? with
  | some last => if last = ".." then none else some (parts.dropLast ++ [last ++ ".toml"])
  | none => none

/-- A path seen from a directory: up as often as needed, and down. Both are given by their parts from the root on. -/
def seenFrom : (directory path : List String) → List String
  | d :: ds, p :: ps => if d = p then seenFrom ds ps else (d :: ds).map (fun _ => "..") ++ p :: ps
  | ds, ps => ds.map (fun _ => "..") ++ ps

/-- A file that was found: its path seen from the directory, and its content. -/
def findFile (s : Surroundings) (name : String) : Except SettingsError (String × String) :=
  let parts := fullParts s.directory name
  let file (parts : List String) (content : String) := (joinParts (seenFrom (pathParts s.directory) parts), content)
  match if mayNameFile name then contentOf? s parts else none with
  | some content =>
    if hasKnownExtension (parts.getLastD "") then .ok (file parts content)
    else
      let path := if isAbsolute name then name else s.directory ++ "/" ++ name
      .error (.file ("configuration file \"" ++ path ++ "\" is not of a registered file format"))
  | none =>
    match (withExtension? parts).bind fun parts => (contentOf? s parts).map (file parts) with
    | some file => .ok file
    | none => .error (.file ("configuration file \"" ++ name ++ "\" not found"))

/-- The entries of a file that was found. -/
def readFile (file : String × String) : Except SettingsError (List (String × Node)) :=
  match Toml.read? file.1 file.2 with
  | some es => .ok es
  | none => .error (.syntaxError file.1)

/-- The entries of the file named by `CONFIG_PATH`; none when the variable is not set. -/
def namedFile (s : Surroundings) : Except SettingsError (List (String × Node)) :=
  match valueOf? s "CONFIG_PATH" with
  | none => .ok []
  | some name =>
    match findFile s name with
    | .error e => .error e
    | .ok file => readFile file

/-- The entries of the local file; none when there is no such file. -/
def localFile (s : Surroundings) : Except SettingsError (List (String × Node)) :=
  match findFile s "config/local" with
  | .error _ => .ok []
  | .ok file => readFile file

/-! ## Environment -/

/-- The origin of a value from the environment. -/
def environmentOrigin : String := "the environment"

/-- What the names of the variables begin with. -/
def variableStart : List Char := "adapter__".toList

/-- Two underscores become a point. -/
def dotted : List Char → List Char
  | '_' :: '_' :: r => '.' :: dotted r
  | c :: r => c :: dotted r
  | [] => []

/-- The key that a variable sets; none when its name begins otherwise. -/
def variableKey? (name : String) : Option String :=
  let lower := (lowerText name).toList
  if variableStart.isPrefixOf lower then some (String.ofList (dotted (lower.drop variableStart.length))) else none

/-- The value that the text of a variable stands for: a truth value, a whole number, a decimal number, or else the text. -/
def variableValue (s : String) : Scalar :=
  let lower := lowerText s
  if lower = "true" then .boolean true
  else if lower = "false" then .boolean false
  else
    match Reading.numberInRange? Reading.minInt64 Reading.maxInt64 s with
    | some i => .integer i
    | none =>
      match Decimal.read? s with
      | some x => .decimal x
      | none => .text s

/-- The entries of the environment, in its order. -/
def environmentEntries (s : Surroundings) : List (String × Node) :=
  s.environment.filterMap fun (name, value) =>
    if value = "" then none
    else (variableKey? name).map fun key => (key, .scalar (some environmentOrigin) (variableValue value))

/-! ## Merging -/

/-- Lays the entries of a source over a tree. -/
def overlay (base : Node) (es : List (String × Node)) : Node := es.foldl (fun t e => t.setPath (KeyPath.ofKey e.1) e.2) base

/-- The defaults as a tree. -/
def defaults : Node :=
  let text (s : String) : Node := .scalar none (.text s)
  let nat (n : Nat) : Node := .scalar none (.integer n)
  let bool (b : Bool) : Node := .scalar none (.boolean b)
  let w : WebSettings := {}
  let l : LogSettings := {}
  let p : PostgresSettings := {}
  let e : ElectionSettings := {}
  let table (es : List (String × Node)) : Node := .table none es
  table
    [("web", table [("listen_address", text w.listenAddress.text), ("telemetry_path", text w.telemetryPath)]),
      ("log", table [("level", text l.level)]),
      ("postgres", table
        [("host", text p.host), ("port", nat p.port), ("user", text p.user), ("password_file", text p.passwordFile),
          ("database", text p.database), ("ssl_mode", text p.sslMode), ("table", text p.table),
          ("max_open_conns", nat p.maxOpenConns), ("max_idle_conns", nat p.maxIdleConns), ("log_samples", bool p.logSamples),
          ("db_connect_retries", nat p.connectRetries), ("db_connect_retry_delay_ms", nat p.retryDelayMs),
          ("connect_timeout_secs", nat p.connectTimeoutSecs)]),
      ("election", table
        [("advisory_lock_id", .scalar none (.integer e.advisoryLockId)), ("idle_timeout_ms", Node.nothing),
          ("external_decision", bool e.externalDecision), ("interval_ms", nat e.intervalMs)])]

/-- The tree of all sources. -/
def merged (s : Surroundings) : Except SettingsError Node :=
  match namedFile s with
  | .error e => .error e
  | .ok named =>
    match localFile s with
    | .error e => .error e
    | .ok own => .ok (overlay (overlay (overlay defaults named) own) (environmentEntries s))

end Layers

/-- Loads the settings from their sources. They are not checked yet. -/
def Settings.load (s : Surroundings) : Except SettingsError Settings :=
  match Layers.merged s with
  | .error e => .error e
  | .ok tree => Reading.settings tree

end Intake
