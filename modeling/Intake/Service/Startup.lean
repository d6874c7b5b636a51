import Intake.Meter.Basic
import Intake.Postgres.Source

/-!
# Startup: from settings to a store that answers

Before the service works it checks its settings, registers its meters and waits for the database. The database is asked again and
again, with a fixed pause in between, until it answers or the attempts are used up; nothing else is tried before.
-/

namespace Intake

namespace Startup

variable {σ α : Type}

/-- The greatest number of attempts, the greatest number of sixty-four bits. -/
def maxAttempts : Nat := 0xffffffffffffffff

/-- One attempt for a try and one for each retry, up to the greatest number. -/
def attemptsFor (retries : Nat) : Nat := min (retries + 1) maxAttempts

/-- Makes the attempts that are left, with a pause of the given length between one and the next. -/
def attempt (pause : ReaderT Span (Act σ) Unit) (delay : Span) (task : Act σ (Except Failure α)) (attempts : Nat) :
    (left : Nat) → Act σ (Except Failure α)
  | 0 => return .error (.storage (.retriesExhausted attempts))
  | left + 1 => do
    match ← task with
    | .ok a => return .ok a
    | .error e =>
      Act.report [.attemptFailed (attempts - left) attempts e]
      if left = 0 then pure ()
      else
        Act.report [.retrying delay]
        pause.run delay
      attempt pause delay task attempts left

/-- Makes attempts at a task until one succeeds. -/
def retry (pause : ReaderT Span (Act σ) Unit) (delay : Span) (retries : Nat) (task : Act σ (Except Failure α)) :
    Act σ (Except Failure α) :=
  attempt pause delay task (attemptsFor retries) (attemptsFor retries)

/-- What the service works with once it has started. -/
structure Ready where
  backend : ElectionBackend
  /-- The path segment of the exposition. -/
  telemetry : String
  source : Source
  registry : Registry

/-- What is reported about the way of electing. The name is the one under which an external decision is known. -/
def electionEvents (name : String) : ElectionBackend → List Event
  | .disabled => []
  | .externalDecision => [.externalElection name]
  | .advisoryLock id interval idle =>
    .lockElection id interval :: (match idle with | some _ => [] | none => [.noIdleResignation])

/-- What is said when the database did not answer. -/
def unreachable (e : Failure) : Failure := .fatal ("database unreachable at startup: " ++ e.message)

/-- Waits for the database of a source. -/
def waitFor (svc : DatabaseServer σ) (pause : ReaderT Span (Act (Source × σ)) Unit) : Act (Source × σ) (Except Failure Unit) := do
  let (src, _) ← Act.get
  retry pause src.settings.retryDelay src.settings.connectRetries do
    return (← Source.ping svc).mapError .storage

/-- Settings that pass their check, with what is made from them: the way of electing, the registered meters, the source. -/
def prepare (settings : Settings) (registry : Registry) : Except Failure Ready := do
  let invalid (e : InvalidSetting) : Failure := .invalidSettings e.message
  (settings.check).mapError invalid
  let backend ← (settings.election.backend?).mapError invalid
  let registry ← match registry.register? with
    | some r => Except.ok r
    | none => .error .duplicateMeter
  let source ← (Source.new? settings.postgres).mapError invalid
  return { backend, telemetry := settings.web.telemetrySegment, source, registry }

/-- Starts the service on a server. -/
def start (svc : DatabaseServer σ) (pause : ReaderT Span (Act (Source × σ)) Unit) (name : String) (settings : Settings)
    (registry : Registry) : Act σ (Except Failure Ready) := fun s =>
  match prepare settings registry with
  | .error e => (.error e, s, [])
  | .ok ready =>
    let (r, (source, s), events) := waitFor svc pause (ready.source, s)
    let events := ready.source.opened ++ events
    match r with
    | .error e => (.error (unreachable e), s, events)
    | .ok () =>
      (.ok { ready with source }, s,
        events ++ [.connected source.settings.endpoint] ++ electionEvents name ready.backend)

end Startup

end Intake
