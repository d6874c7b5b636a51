import Intake.Leadership.Lock

/-!
# Lock server: one lock and the sessions that want it

Sessions are numbered as they are opened. The lock is held by at most one of them; the session that holds it is told so when it
tries again, and when a session is closed the lock it holds is free. A broken session answers every call with an error, and
while the server refuses connections no session can be opened. The server keeps a list of the calls it was given.
-/

namespace Intake

/-- A call as it is listed. -/
inductive LockCall where
  | refused
  | connect (session : Nat)
  | tryLock (session : Nat) (lockId : Int)
  | probe (session : Nat)
  | unlock (session : Nat) (lockId : Int)
  | closed (session : Nat)
  deriving DecidableEq, Inhabited, Repr

def LockCall.text : LockCall → String
  | .refused => "refused"
  | .connect n => toString n ++ " connect"
  | .tryLock n id => toString n ++ " try_lock " ++ toString id
  | .probe n => toString n ++ " probe"
  | .unlock n id => toString n ++ " unlock " ++ toString id
  | .closed n => toString n ++ " closed"

structure LockServer where
  nextSession : Nat := 0
  holder : Option Nat := none
  broken : List Nat := []
  /-- What is said to who wants to connect, while the server refuses. -/
  refusal : Option String := none
  /-- The calls since the list was last emptied, the last one first. -/
  calls : List LockCall := []
  deriving Inhabited, Repr

namespace LockServer

def note (v : LockServer) (c : LockCall) : LockServer := { v with calls := c :: v.calls }

/-- What a broken session answers. -/
def reset : DatabaseFault := .protocol "connection reset"

def connect (v : LockServer) : Except StorageError Nat × LockServer :=
  match v.refusal with
  | some text => (.error (.backend .acquire text), v.note .refused)
  | none => (.ok v.nextSession, { v.note (.connect v.nextSession) with nextSession := v.nextSession + 1 })

def tryLock (session : Nat) (lockId : Int) (v : LockServer) : Except DatabaseFault Bool × LockServer :=
  let v := v.note (.tryLock session lockId)
  if v.broken.contains session then (.error reset, v)
  else
    match v.holder with
    | none => (.ok true, { v with holder := some session })
    | some n => (.ok (decide (n = session)), v)

def probe (session : Nat) (v : LockServer) : Except DatabaseFault Unit × LockServer :=
  let v := v.note (.probe session)
  (if v.broken.contains session then .error reset else .ok (), v)

def unlock (session : Nat) (lockId : Int) (v : LockServer) : Except DatabaseFault Bool × LockServer :=
  let v := v.note (.unlock session lockId)
  if v.broken.contains session then (.error reset, v)
  else if v.holder = some session then (.ok true, { v with holder := none })
  else (.ok false, v)

def close (session : Nat) (v : LockServer) : LockServer :=
  let v := v.note (.closed session)
  if v.holder = some session then { v with holder := none } else v

/-- The server as what competitors ask. -/
def service : LockService LockServer := ⟨Act.ofState connect, tryLock, probe, unlock, close⟩

end LockServer

end Intake
