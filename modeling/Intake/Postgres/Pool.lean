import Intake.Postgres.Connection

/-!
# Pool: connections that are kept for the next batch

A pool hands out connections, up to a number of open ones, and takes them back. One that is given back is kept if few enough are
idle: this is asked first (`Pool.hasRoom`), then the connection gives a sign of life, and only then it counts as idle
(`Pool.keep`). One that was idle gives a sign of life before it is handed out. All this takes time, so who has no patience at all
gets no connection.
-/

namespace Intake

structure Pool where
  maxOpen : Nat
  maxIdle : Nat
  /-- How long one waits for a connection. -/
  patience : Span
  /-- The idle connections, the one that waits longest first. -/
  idle : List Connection := []
  /-- How many connections are handed out. -/
  handedOut : Nat := 0
  isClosed : Bool := false
  deriving DecidableEq, Inhabited, Repr

namespace Pool

/-- Whether a connection that is given back would be kept. -/
def hasRoom (p : Pool) : Bool := decide (p.idle.length < p.maxIdle)

/-- A connection that was handed out is idle again. -/
def keep (p : Pool) (c : Connection) : Pool := { p with idle := p.idle ++ [c], handedOut := p.handedOut - 1 }

/-- A connection that was handed out is gone. -/
def forget (p : Pool) : Pool := { p with handedOut := p.handedOut - 1 }

variable {σ : Type}

/-- An act on a connection, beside the pool. -/
def withConnection {α : Type} (c : Connection) (a : Act (Connection × σ) α) : Act (Pool × σ) (α × Connection) :=
  fun (p, s) =>
    let (r, (c, s), events) := a (c, s)
    ((r, c), (p, s), events)

def changePool (f : Pool → Pool) : Act (Pool × σ) Unit := Act.modify fun (p, s) => (f p, s)

def changeServer (f : σ → σ) : Act (Pool × σ) Unit := Act.modify fun (p, s) => (p, f s)

/-- Opens a connection, if one more may be open. -/
def openNew (svc : DatabaseServer σ) (o : ConnectOptions) : Act (Pool × σ) (Except DatabaseFault Connection) := fun (p, s) =>
  if p.handedOut < p.maxOpen then
    match svc.connect o s with
    | (.error e, s) => (.error e, (p, s), [])
    | (.ok number, s) => (.ok { number }, ({ p with handedOut := p.handedOut + 1 }, s), [])
  else (.error .poolTimedOut, (p, s), [])

/-- Hands out the first of some idle connections that gives a sign of life, or a new one. -/
def firstAlive (svc : DatabaseServer σ) (o : ConnectOptions) :
    List Connection → Act (Pool × σ) (Except DatabaseFault Connection)
  | [] => openNew svc o
  | c :: rest => do
    changePool fun p => { p with idle := rest }
    match ← withConnection c (Connection.ask svc .sync) with
    | (.ok _, c) =>
      changePool fun p => { p with handedOut := p.handedOut + 1 }
      return .ok c
    | (.error _, c) =>
      changeServer (svc.cut c.number)
      firstAlive svc o rest

/-- Hands out a connection. -/
def acquire (svc : DatabaseServer σ) (o : ConnectOptions) : Act (Pool × σ) (Except DatabaseFault Connection) := do
  let (p, _) ← Act.get
  if p.isClosed then return .error .poolClosed
  else if p.patience.nanos = 0 then return .error .poolTimedOut
  else firstAlive svc o p.idle

/-- Ends a connection that was handed out. -/
def discard (svc : DatabaseServer σ) (c : Connection) : Act (Pool × σ) Unit := do
  changeServer (svc.terminate c.number)
  changePool forget

/-- Takes a connection back. -/
def giveBack (svc : DatabaseServer σ) (c : Connection) : Act (Pool × σ) Unit := do
  let (p, _) ← Act.get
  if p.isClosed || !p.hasRoom then discard svc c
  else
    match ← withConnection c (Connection.ask svc .sync) with
    | (.ok _, c) => changePool (·.keep c)
    | (.error _, c) =>
      changeServer (svc.cut c.number)
      changePool forget

/-- Closes the pool: the idle connections are ended, and no others are handed out. -/
def close (svc : DatabaseServer σ) : Act (Pool × σ) Unit := Act.modify fun (p, s) =>
  ({ p with idle := [], isClosed := true }, p.idle.foldl (fun s c => svc.terminate c.number s) s)

end Pool

end Intake
