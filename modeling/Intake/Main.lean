import Intake.Postgres.Rehearsal
import Intake.Service.Program

/-!
# Main: the program

The outer layer gathers the surroundings, runs the program on them and shows what it reports. It carries no transport to a
database, so to this program every server is out of reach: it can be used to check settings and to see what would be logged.
-/

namespace Intake

namespace Main

/-- The name under which the program logs. -/
def programName : String := "intake"

/-- The environment as the system lists it. -/
def readEnvironment : IO (List (String × String)) := do
  let bytes ← try IO.FS.readBinFile "/proc/self/environ" catch _ => pure ByteArray.empty
  let text := (String.fromUTF8? bytes).getD ""
  return (text.splitOn "\x00").filterMap fun entry =>
    match entry.splitOn "=" with
    | name :: value :: more => some (name, "=".intercalate (value :: more))
    | _ => none

/-- The path that some parts lead to from the root; two points lead back. -/
def plainPath (parts : List String) : String :=
  "/" ++ Layers.joinParts (parts.foldl (fun place part => if part = ".." then place.dropLast else place ++ [part]) [])

/-- The files of some names that can be read, under their plain paths. -/
def readFiles (directory : String) (names : List String) : IO (List (String × String)) := do
  let found ← names.mapM fun (name : String) => do
    try
      let content ← IO.FS.readFile name
      pure (some (plainPath (Layers.fullParts directory name), content))
    catch _ => pure none
  return found.filterMap id

/-- The beginnings of a path that are directories: only in a directory there is a place to open. -/
def readDirectories (directory path : String) : IO (List String) := do
  let parts := Layers.fullParts directory path
  let found ← (List.range parts.length).mapM fun (k : Nat) => do
    let beginning := parts.take (k + 1)
    try
      let _ ← IO.FS.Handle.mk ("/" ++ Layers.joinParts beginning ++ "/.") .read
      pure (some (plainPath beginning))
    catch _ => pure none
  return found.filterMap id

def surroundings : IO Surroundings := do
  let environment ← readEnvironment
  let directory := (← IO.currentDir).toString
  let named := match environment.lookup "CONFIG_PATH" with | some n => [n, n ++ ".toml"] | none => []
  let names := named ++ ["config/local", "config/local.toml"]
  let files ← readFiles directory names
  let directories ← names.mapM (readDirectories directory)
  return { directory, files, directories := directories.flatten, environment }

/-- Shows an event, and takes the pauses that it speaks of. -/
def present (shown : List LogDirective) (e : Event) : IO Unit := do
  match e.logLine? with
  | some line => if LogFilter.shows shown (e.area.target programName) e then IO.println line else pure ()
  | none => pure ()
  match e with
  | .retrying d => IO.sleep (UInt32.ofNat (d.nanos / 1000000))
  | _ => pure ()

/-- The content of the file with the password. -/
def readPassword (path : String) : IO (Except FileFault String) := do
  try
    let content ← IO.FS.readFile path
    pure (.ok content)
  catch _ => pure (.error FileFault.notFound)

end Main

end Intake

open Intake

def main : IO UInt32 := do
  let s ← Main.surroundings
  match Program.settings s with
  | .error e =>
    IO.eprintln (Program.lastWords e)
    return 1
  | .ok settings =>
    let passwordFile ← Main.readPassword settings.postgres.passwordFile
    let server : RehearsalServer := { isReachable := false, passwordFile }
    let (r, _, events) := Program.start RehearsalServer.service (pure ()) Main.programName settings server
    events.forM (Main.present (Program.filter s settings))
    match r with
    | .error e =>
      IO.eprintln (Program.lastWords e)
      return 1
    | .ok _ => return 0
