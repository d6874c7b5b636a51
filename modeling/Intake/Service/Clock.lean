import Intake.Service.Peers
import Intake.Service.Writing

/-!
# Clock: what happens while time passes

Time passes by jumps to the next thing that is due: a tick of a periodic task, or a call to the store that takes effect. What is
due at one instant happens tasks first, in the order in which they were started.
-/

namespace Intake

namespace Instance

/-- What a periodic task does at a tick; the answer is the task as it waits for the next one. -/
def runTask : Periodic → Act Instance Periodic
  | .sampler previous => Act.ofState fun i =>
    let (seen, throughput) := i.throughput.sample previous
    (.sampler seen, { i with throughput })
  | .election node => do
    let _ ← asNode node fun c => Rounds.tick c
    return .election node
  | .monitor node timeout => do
    let i ← Act.get
    let _ ← asNode node fun c => Rounds.checkIdle c (i.liveness.idle i.now) timeout
    return .monitor node timeout

/-- What a periodic task does when the service stops. -/
def stopTask : Periodic → Act Instance Unit
  | .sampler _ => Act.report [.throughputStopped]
  | .election node => do
    let _ ← asNode node fun c => Rounds.stop c
  | .monitor _ _ => Act.report [.monitorStopped]

/-- Lets the clock run a task whose next tick is one period away. -/
def schedule (period : Span) (task : Periodic) : Act Instance Unit := Act.modify fun i =>
  { i with tickers := i.tickers ++ [⟨i.now + period.nanos, period, task⟩] }

/-- Starts the sampler; its first tick is one period away. A task without a period never runs. -/
def startSampler : Act Instance Unit := do
  let i ← Act.get
  let task := Periodic.sampler i.throughput.current
  if i.throughput.tick.nanos = 0 then return ()
  else if i.stopped then stopTask task
  else schedule i.throughput.tick task

/-- Starts a task whose first tick is at once. A task without a period never runs. -/
def startNow (period : Span) (task : Periodic) : Act Instance Unit := do
  if period.nanos = 0 then return ()
  else if (← Act.get).stopped then stopTask task
  else schedule period (← runTask task)

/-- Starts a task for the competitor of a name, if there is one. -/
def startFor (node : String) (period : Span) (task : Periodic) : Act Instance Unit := do
  match ← asNode node fun _ => (return () : Act _ Unit) with
  | some () => startNow period task
  | none => return ()

/-- Starts the rounds of the competitor of a name. -/
def startElection (node : String) : Act Instance Unit := do
  let i ← Act.get
  startFor node i.interval (.election node)

/-- The time between two looks at the traffic. -/
def monitorPeriod : Span := Span.ofSeconds 1

/-- Starts to watch the time without traffic for the competitor of a name. -/
def startMonitor (node : String) (timeout : Span) : Act Instance Unit := startFor node monitorPeriod (.monitor node timeout)

/-- Stops all periodic tasks, those that run and those that will be started. -/
def shutdown : Act Instance Unit := do
  let i ← Act.get
  Act.modify fun i => { i with tickers := [], stopped := true }
  i.tickers.forM fun t => stopTask t.task

/-- The earliest of some times. -/
def earliest? : List Nat → Option Nat
  | [] => none
  | t :: ts => some (ts.foldl min t)

/-- When the next thing is due. -/
def nextDue? (i : Instance) : Option Nat := earliest? (i.tickers.map Ticker.next ++ i.flights.map Flight.due)

/-- Splits a list at the first element that a test accepts. -/
def splitFirst? {α : Type} (p : α → Bool) : List α → Option (List α × α × List α)
  | [] => none
  | a :: r => if p a then some ([], a, r) else (splitFirst? p r).map fun s => (a :: s.1, s.2.1, s.2.2)

/-- Lets the first thing happen that is due at the present instant. -/
def happen : Act Instance Unit := fun i =>
  match splitFirst? (fun t => t.next = i.now) i.tickers with
  | some (before, t, after) =>
    let (task, i, events) := runTask t.task i
    ((), { i with tickers := before ++ { t with next := t.next + t.period.nanos, task } :: after }, events)
  | none =>
    match splitFirst? (fun f => f.due = i.now) i.flights with
    | none => ((), i, [])
    | some (before, f, after) =>
      let (ending, i, events) := proceed f { i with flights := before ++ after }
      match ending with
      | none => ((), i, events)
      | some e => ((), if f.attended then { i with endings := i.endings ++ [(f.id, e)] } else i, events)

/-- Whether a write has ended. -/
def hasEnded (i : Instance) (flight : Nat) : Bool := (i.endings.lookup flight).isSome

/-- Lets things happen in order up to a time, or until a write has ended. -/
def elapse (watched : Option Nat) (limit : Nat) : (turns : Nat) → Act Instance Unit
  | 0 => Act.modify fun i => { i with now := max i.now limit }
  | turns + 1 => do
    let i ← Act.get
    if watched.any i.hasEnded then return ()
    match i.nextDue? with
    | some t =>
      if t ≤ limit then
        Act.modify fun i => { i with now := max i.now t }
        happen
        elapse watched limit turns
      else Act.modify fun i => { i with now := max i.now limit }
    | none => Act.modify fun i => { i with now := max i.now limit }

/-- How many things can happen up to a time: a task ticks at most once per nanosecond, and a write makes a few calls. -/
def turnsUntil (i : Instance) (limit : Nat) : Nat :=
  (limit - i.now + 2) * (i.tickers.length + 1) + (WritePhase.all.length + 2) * (i.flights.length + 1)

/-- Lets a length of time pass. -/
def sleep (d : Span) : Act Instance Unit := do
  let i ← Act.get
  elapse none (i.now + d.nanos) (i.turnsUntil (i.now + d.nanos))

/-- A time by which every write that is begun now has ended. -/
def patience (i : Instance) : Span :=
  match i.store.delay with
  | some (_, ms) => Span.ofMillis (ms * (WritePhase.all.length + 1))
  | none => Span.zero

/-- Takes notice of the end of a write. -/
def takeEnding (flight : Nat) : Act Instance (Option Ending) := Act.ofState fun i =>
  (i.endings.lookup flight, { i with endings := i.endings.filter fun e => e.1 ≠ flight })

/-- Nobody waits for a write any more. -/
def abandon (flight : Nat) : Act Instance Unit := Act.modify fun i =>
  { i with flights := i.flights.map fun f => if f.id = flight then { f with attended := false } else f }

/-- Waits for a batch, for as long as it takes or as the caller is willing to; a batch that is not waited for goes on. -/
def await (a : Attempt) (willing : Option Span) : Act Instance Attempt :=
  match a with
  | .underWay flight => do
    let i ← Act.get
    let limit := i.now + (willing.getD i.patience).nanos
    elapse (some flight) limit (i.turnsUntil limit)
    match ← takeEnding flight with
    | some e => return Ending.attempt e
    | none =>
      abandon flight
      return .underWay flight
  | a => pure a

end Instance

end Intake
