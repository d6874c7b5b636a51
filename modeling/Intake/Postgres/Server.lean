import Intake.Act
import Intake.Settings.Check

/-!
# Server: what is asked of a database server

A connection carries orders, one after the other, and each is answered before the next is sent; only the pieces of a bulk load
go out without an answer, unless the connection breaks. `DatabaseServer` is the server and whatever else sessions depend on, as
functions on a state: any behaviour of a server, with any failures, is one such state.
-/

namespace Intake

/-- What is sent on a connection. -/
inductive Order where
  /-- A statement as text. -/
  | query (sql : String)
  /-- A statement that is prepared first, with its parameter if it has one. -/
  | execute (sql : String) (parameter : Option Int)
  /-- A piece of the data of a bulk load. -/
  | copyData (text : String)
  /-- The data of a bulk load is complete. -/
  | copyDone
  /-- The bulk load is given up. -/
  | copyFail (reason : String)
  /-- Nothing but a sign of life. -/
  | sync
  deriving DecidableEq, Inhabited, Repr

structure DatabaseServer (σ : Type) where
  /-- Opens a connection and answers its number. -/
  connect : ConnectOptions → σ → Except DatabaseFault Nat × σ
  /-- Sends an order. The answer is the number of rows, or one and zero for true and false. -/
  send : (connection : Nat) → Order → σ → Except DatabaseFault Nat × σ
  /-- Ends a connection in good order. -/
  terminate : (connection : Nat) → σ → σ
  /-- Cuts a connection off. -/
  cut : (connection : Nat) → σ → σ
  /-- The content of the file with the password. -/
  passwordFile : σ → Except FileFault String

end Intake
