import Intake.Http.Route
import Intake.Leadership.External
import Intake.Leadership.LockServer
import Intake.Leadership.Rounds
import Intake.Leadership.Scripted
import Intake.Meter.Basic
import Intake.Meter.Throughput
import Intake.Service.Liveness
import Intake.Store.BatchWrite
import Intake.Store.Memory

/-!
# Instance: a running service and what it works with

An instance of the service writes batches into a store in memory, if its election lets it. The instance has a clock of its own,
on which its periodic tasks run. The lock server is shared with other competitors, which stand beside the instance as peers.

This module holds the state; `Service.Writing` writes batches, `Service.Clock` lets time pass, `Service.Serving` answers requests.
-/

namespace Intake

/-- How the instance takes part in an election. -/
inductive Backend where
  /-- Not at all: it writes every batch. -/
  | none
  /-- Somebody outside decides. -/
  | external
  | lock (lock : AdvisoryLock)
  | scripted (candidate : ScriptedCandidate)
  deriving Inhabited

/-- Another competitor for the lock. -/
structure Peer where
  name : String
  lock : AdvisoryLock
  rounds : Rounds := {}
  deriving Inhabited

/-- What becomes of a batch that is sent. -/
inductive WriteOutcome where
  | written
  /-- Dropped, because the instance does not lead. -/
  | notLeader
  deriving DecidableEq, Inhabited, Repr

/-- Who waits for the end of a write. -/
inductive Purpose where
  /-- Nobody but the caller: nothing is counted. -/
  | plain
  /-- The gate: samples are counted. -/
  | send
  /-- A request: also failures are reported and the throughput is fed. -/
  | handle
  deriving DecidableEq, Inhabited, Repr

/-- A write that waits for the store. -/
structure Flight where
  id : Nat
  write : BatchWrite
  session : MemorySession := {}
  /-- When the call it waits for takes effect. -/
  due : Nat
  /-- When it was begun. -/
  begun : Nat
  purpose : Purpose
  /-- Whether somebody still waits for its end. -/
  attended : Bool := true
  deriving Inhabited

/-- How a write came to its end. -/
inductive Ending where
  | finished (result : Except StorageError Unit)
  /-- The task was ended from inside the store. -/
  | lost

/-- A task that the clock runs again and again. -/
inductive Periodic where
  /-- Samples the throughput; it saw the counter at `previous`. -/
  | sampler (previous : Binary64)
  /-- Holds the rounds of the competitor of a name. -/
  | election (node : String)
  /-- Watches the time without traffic for the competitor of a name. -/
  | monitor (node : String) (timeout : Span)
  deriving Inhabited

structure Ticker where
  /-- The time of the next tick. -/
  next : Nat
  period : Span
  task : Periodic
  deriving Inhabited

structure Instance where
  /-- Nanoseconds since the instance was made. -/
  now : Nat := 0
  store : MemoryStore
  backend : Backend
  server : LockServer := {}
  rounds : Rounds := {}
  peers : List Peer := []
  meters : Meters := Meters.empty
  registry : Registry := {}
  throughput : Throughput
  liveness : Liveness := {}
  /-- The time between two rounds of the election. -/
  interval : Span
  /-- What somebody outside decided last; it counts where decisions are made outside. -/
  decision : ExternalDecision := { id := "" }
  /-- The path segment of the exposition. -/
  telemetry : String := "metrics"
  /-- Whether staged samples are printed. -/
  dump : Bool := false
  tickers : List Ticker := []
  /-- Whether the service was told to stop: a task that is started after that stops at once. -/
  stopped : Bool := false
  flights : List Flight := []
  nextFlight : Nat := 0
  /-- Ends of attended writes that nobody has taken notice of yet. -/
  endings : List (Nat × Ending) := []
  deriving Inhabited

namespace Instance

/-- The part of the instance that its election acts on. -/
abbrev ElectionState := Backend × ExternalDecision × LockServer

def electionState (i : Instance) : ElectionState := (i.backend, i.decision, i.server)

def withElectionState (s : ElectionState) (i : Instance) : Instance :=
  { i with backend := s.1, decision := s.2.1, server := s.2.2 }

/-- The backend as a candidate; without one there is nothing to take part in. -/
def candidate? (i : Instance) : Option (Candidate ElectionState) :=
  match i.backend with
  | .none => .none
  | .external => some (ExternalDecision.candidate.on (fun s => s.2.1) (fun d s => (s.1, d, s.2.2)))
  | .lock _ =>
    some ((AdvisoryLock.candidate LockServer.service).on
      (fun s => (match s.1 with | .lock l => l | _ => { lockId := 0 }, s.2.2)) (fun p s => (.lock p.1, s.2.1, p.2)))
  | .scripted _ =>
    some (ScriptedCandidate.candidate.on
      (fun s => match s.1 with | .scripted c => c | _ => {}) (fun c s => (.scripted c, s.2)))

/-- An act of the instance's election on the instance. -/
def onElection {α : Type} (a : Act ElectionState α) : Act Instance α :=
  a.on electionState withElectionState

/-- An act on the rounds of the instance's election. -/
def onRounds {α : Type} (a : Act (Rounds × ElectionState) α) : Act Instance α :=
  a.on (fun i => (i.rounds, i.electionState)) (fun s i => { i.withElectionState s.2 with rounds := s.1 })

/-- Looks at what an instance has and acts on it. -/
def withCandidate {α : Type} (none : α) (f : Candidate ElectionState → Act Instance α) : Act Instance α := fun i =>
  match i.candidate? with
  | some c => f c i
  | .none => (none, i, [])

/-- The meters of all routes exist from the start. -/
def wire (i : Instance) : Act Unit Instance := fun _ =>
  let meters := (Route.table i.telemetry).foldl
    (fun m r => { m with requestDuration := m.requestDuration.touch Histogram.empty r.label }) i.meters
  let registry := (i.registry.register?).getD i.registry
  ({ i with meters, registry }, (), match i.backend with | .none => [.noElection] | _ => [])

end Instance

end Intake
