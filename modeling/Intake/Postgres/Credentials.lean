import Intake.Act

/-!
# Credentials: a password that may change while the service runs

The password stands in a file, which is read again whenever a session may be opened. A read and its consequences are two steps
(`Credentials.content` and `Credentials.apply`), because other sessions can read the file in between. A connection that exists
keeps the password it was opened with.
-/

namespace Intake

structure Credentials where
  /-- The password that was read last; none before the first read. -/
  current : Option String := none
  /-- The password with which new connections log in, if they use one. -/
  inUse : Option String := none
  deriving DecidableEq, Inhabited, Repr

namespace Credentials

/-- The password that a file holds: its content without the line ends behind it. -/
def passwordOf (content : String) : String :=
  String.ofList ((content.toList.reverse.dropWhile fun c => c = '\n' || c = '\r').reverse)

/-- The content that a read of the file yields. -/
def content (path : String) (file : Except FileFault String) : Except StorageError String :=
  match file with
  | .ok text => .ok text
  | .error cause => .error (.passwordFile path cause)

/-- Takes over the content that was read; a change of the password is reported. -/
def apply (content : String) : Act Credentials String := fun c =>
  let password := passwordOf content
  if c.current = some password then (password, c, [])
  else
    (password, { current := some password, inUse := some password },
      if c.current.isSome then [.passwordChanged] else [])

end Credentials

end Intake
