import Intake.Leadership.Candidate

/-!
# Lock: leadership through a session's lock

The instances of a group compete for one lock of a server. The lock belongs to a session and ends with it: who holds it leads
for as long as the session lives. An instance keeps one session for the lock. While it does not lead it tries the lock; while it
leads it only probes the session, because taking a lock again that is held already would stack it. A check that fails drops the
session, whatever it held, and the next check starts from a new one.

The call that competes runs in stages, so that others can act while one waits for the server: `beginCompete` takes the session
out of its slot, `connectFailed` ends it without one, `checkOn` says what to ask on a session, `checked` takes the answer of the
server. `AdvisoryLock.compete` is the whole call. Giving leadership up runs in stages in the same way, `beginResign` and
`unlocked`, and `AdvisoryLock.resign` is the whole of it.
-/

namespace Intake

/-- What a lock server is asked, on a state `σ` that stands for the server and all that can happen to it. -/
structure LockService (σ : Type) where
  /-- Opens a session; on the way there may be something to report. -/
  connect : Act σ (Except StorageError Nat)
  /-- Tries to take the lock for a session. -/
  tryLock : (session : Nat) → (lockId : Int) → σ → Except DatabaseFault Bool × σ
  /-- Makes sure that a session lives. -/
  probe : (session : Nat) → σ → Except DatabaseFault Unit × σ
  /-- Gives the lock back; says whether the session held it. -/
  unlock : (session : Nat) → (lockId : Int) → σ → Except DatabaseFault Bool × σ
  /-- Ends a session. -/
  close : (session : Nat) → σ → σ

/-- One instance's part in the competition for a lock. -/
structure AdvisoryLock where
  lockId : Int
  /-- The session for the lock, if one is open. -/
  session : Option Nat := none
  status : LockStatus := .follower
  deriving DecidableEq, Inhabited, Repr

namespace AdvisoryLock

/-- Sets the status; a change is reported. -/
def setStatus (l : AdvisoryLock) (next : LockStatus) : AdvisoryLock × List Event :=
  ({ l with status := next }, if l.status = next then [] else [.statusChanged l.lockId l.status next])

/-- What a call that competes waits for. -/
inductive Waiting where
  | connect
  /-- An answer on a session: a probe while leading, an attempt at the lock otherwise. -/
  | check (session : Nat) (confirming : Bool)
  deriving DecidableEq, Repr

/-- What to ask on a session. -/
def checkOn (l : AdvisoryLock) (session : Nat) : Waiting := .check session (decide (l.status = .leader))

/-- Begins a call that competes: the session leaves its slot. -/
def beginCompete (l : AdvisoryLock) : Waiting × AdvisoryLock :=
  match l.session with
  | some s => (l.checkOn s, { l with session := none })
  | none => (.connect, l)

/-- A session could not be opened. -/
def connectFailed (l : AdvisoryLock) (cause : StorageError) : Except ElectionError Bool × AdvisoryLock × List Event :=
  let (l, events) := l.setStatus (.failed cause.message)
  (.error (.connect l.lockId cause), l, events)

/-- The answer to a check: the session goes back to its slot if the check succeeded and is lost if it failed. -/
def checked (l : AdvisoryLock) (session : Nat) (answer : Except DatabaseFault Bool) :
    Except ElectionError Bool × AdvisoryLock × List Event :=
  match answer with
  | .ok leads =>
    let (l, events) := { l with session := some session }.setStatus (if leads then .leader else .follower)
    (.ok leads, l, events)
  | .error cause =>
    let (l, events) := l.setStatus (.failed cause.message)
    (.error (.lockSession l.lockId cause), l, events)

/-- Whether this instance leads, as far as its last check tells. -/
def isLeader (l : AdvisoryLock) : Except ElectionError Bool :=
  match l.status with
  | .leader => .ok true
  | .follower => .ok false
  | .failed reason => .error (.checkFailed l.lockId reason)

variable {σ : Type}

/-- Asks the server what a check asks. -/
def ask (svc : LockService σ) (l : AdvisoryLock) (session : Nat) (confirming : Bool) (s : σ) :
    Except DatabaseFault Bool × σ :=
  if confirming then
    let (r, s) := svc.probe session s
    (r.map fun _ => true, s)
  else svc.tryLock session l.lockId s

/-- A check on a session, from the question to its consequences. A session that failed is closed. -/
def check (svc : LockService σ) (session : Nat) (confirming : Bool) :
    Act (AdvisoryLock × σ) (Except ElectionError Bool) := fun (l, s) =>
  let (answer, s) := ask svc l session confirming s
  let s := if answer.isOk then s else svc.close session s
  let (r, l, events) := l.checked session answer
  (r, (l, s), events)

/-- Competes for the lock, or confirms that it is held. -/
def compete (svc : LockService σ) : Act (AdvisoryLock × σ) (Except ElectionError Bool) := fun (l, s) =>
  match l.beginCompete with
  | (.check session confirming, l) => check svc session confirming (l, s)
  | (.connect, l) =>
    match svc.connect s with
    | (.error cause, s, events) =>
      let (r, l, more) := l.connectFailed cause
      (r, (l, s), events ++ more)
    | (.ok session, s, events) =>
      let (r, s, more) := check svc session (decide (l.status = .leader)) (l, s)
      (r, s, events ++ more)

/-- Begins to give leadership up. The status is follower from then on, whatever the server says; only a leader has a lock to
give back, on the session that is answered. -/
def beginResign (l : AdvisoryLock) : Option Nat × AdvisoryLock × List Event :=
  (if l.status = .leader then l.session else none, l.setStatus .follower)

/-- The answer to giving the lock back. If it failed, closing the session is the only other way to let go. -/
def unlocked (l : AdvisoryLock) (answer : Except DatabaseFault Bool) :
    Except ElectionError Unit × AdvisoryLock × List Event :=
  match answer with
  | .ok true => (.ok (), l, [.lockReleased l.lockId])
  | .ok false => (.error (.notHeld l.lockId), l, [.lockNotHeld l.lockId])
  | .error cause => (.error (.release l.lockId cause), { l with session := none }, [])

/-- Gives the lock back on a session, from the request to its consequences. A session that failed is closed. -/
def letGo (svc : LockService σ) (session : Nat) : Act (AdvisoryLock × σ) (Except ElectionError Unit) := fun (l, s) =>
  let (answer, s) := svc.unlock session l.lockId s
  let s := if answer.isOk then s else svc.close session s
  let (r, l, events) := l.unlocked answer
  (r, (l, s), events)

/-- Gives leadership up. -/
def resign (svc : LockService σ) : Act (AdvisoryLock × σ) (Except ElectionError Unit) := fun (l, s) =>
  match l.beginResign with
  | (some session, l, events) =>
    let (r, s, more) := letGo svc session (l, s)
    (r, s, events ++ more)
  | (none, l, events) => (.ok (), (l, s), events)

/-- The instance as a candidate. -/
def candidate (svc : LockService σ) : Candidate (AdvisoryLock × σ) where
  id p := toString p.1.lockId
  compete := compete svc
  isLeader := fun (l, s) => (l.isLeader, (l, s), [])
  resign := resign svc

end AdvisoryLock

end Intake
