import Intake.Service.Instance

/-!
# Writing: batches on their way into the store

A batch that is sent first counts as a sign of traffic and is then held against the election: only a leader writes. A write makes
its calls one after the other; a call that takes time suspends it, and it goes on when the time has come, with others in between.
At its end the samples are counted as sent or as failed.
-/

namespace Intake

/-- What is known about a batch when the call that sent it returns. -/
inductive Attempt where
  | settled (result : Except Failure WriteOutcome)
  /-- The write is still under way. -/
  | underWay (flight : Nat)
  | lost

namespace Instance

/-- A batch arrives. -/
def touch : Act Instance Unit := Act.modify fun i => { i with liveness := i.liveness.touch i.now }

/-- Counts the samples of a batch whose write has ended. -/
def countBatch (count begun : Nat) (result : Except StorageError Unit) : Act Instance Unit := Act.modify fun i =>
  let n := Binary64.ofNat count
  let name := i.store.name
  { i with
    meters := match result with
      | .ok () => (i.meters.addSent name n).observeBatch name (Span.mk (i.now - begun)).seconds
      | .error _ => i.meters.addFailed name n }

/-- Shows the counter of sent samples to the throughput, and reports a rate that was published. -/
def feedThroughput : Act Instance Unit := do
  let sent ← Act.ofState fun i =>
    let (sent, meters) := i.meters.readSent i.store.name
    (sent, { i with meters })
  Act.modify fun i => { i with throughput := i.throughput.setCurrent sent }
  let rate ← Act.ofState fun i =>
    let (rate, throughput) := i.throughput.take
    (rate, { i with throughput })
  Act.report (match rate with | some r => [.rate r] | none => [])

/-- Reports why the batch of a request was not written. -/
def reportFailure (count : Nat) : Failure → List Event
  | .election e => [.leadershipUnknown e]
  | .storage e => [.sendFailed e count]
  | _ => []

/-- What is done at the end of a batch for who waits for it. -/
def conclude (purpose : Purpose) (count : Nat) (result : Except Failure WriteOutcome) : Act Instance Unit :=
  match purpose with
  | .handle => do
    Act.report (match result with | .ok _ => [] | .error e => reportFailure count e)
    feedThroughput
  | _ => pure ()

/-- The outcome of a write that was let through. -/
def outcome (result : Except StorageError Unit) : Except Failure WriteOutcome :=
  match result with
  | .ok () => .ok .written
  | .error e => .error (.storage e)

/-- A write has its result. -/
def finishWrite (purpose : Purpose) (count begun : Nat) (result : Except StorageError Unit) : Act Instance Unit := do
  if purpose = .plain then pure () else countBatch count begun result
  conclude purpose count (outcome result)

/-- Makes the call that a write waits for: it is listed, and takes effect after the delay of its phase. -/
def makeCall (f : Flight) : Act Instance Flight := Act.ofState fun i =>
  ({ f with due := i.now + i.store.delayOf f.write.waiting * 1000000 },
    { i with store := i.store.noteCall f.write.waiting f.write.rows })

/-- Lets the call that a write waits for take effect. -/
def takeEffect (f : Flight) : Act Instance (StoreReply × MemorySession) := Act.ofState fun i =>
  let (r, session, store) := i.store.perform f.session f.write.waiting f.write.rows
  ((r, session), { i with store })

/-- The answer of the store to a write. -/
def answerOf : StoreReply → Option (Except StorageError Nat)
  | .done n => some (.ok n)
  | .failed e => some (.error e)
  | .ended => none

/-- Carries a write on from a call that was made, until a call takes time or the write ends. A write has at most as many calls
as there are phases. -/
def carryOn : (calls : Nat) → Flight → Act Instance (Flight ⊕ Ending)
  | 0, f => pure (.inl f)
  | calls + 1, f => do
    let i ← Act.get
    if i.now < f.due then return .inl f
    let (r, session) ← takeEffect f
    match answerOf r with
    | none => return .inr .lost
    | some answer =>
      let (progress, events) := f.write.reply answer
      Act.report events
      match progress with
      | .going write =>
        let f ← makeCall { f with write, session }
        carryOn calls f
      | .finished result =>
        finishWrite f.purpose f.write.rows.length f.begun result
        return .inr (.finished result)

/-- Carries a write on as far as it goes now; one that has to wait is put among the writes under way. -/
def proceed (f : Flight) : Act Instance (Option Ending) := do
  match ← carryOn (WritePhase.all.length + 1) f with
  | .inl f =>
    Act.modify fun i => { i with flights := i.flights ++ [f] }
    return none
  | .inr e => return some e

/-- What an ending means to who sent the batch. -/
def Ending.attempt : Ending → Attempt
  | .finished result => .settled (outcome result)
  | .lost => .lost

/-- Begins to write a batch. -/
def beginWrite (purpose : Purpose) (samples : List Sample) : Act Instance Attempt := do
  let i ← Act.get
  let (started, events) := BatchWrite.start i.dump samples
  Act.report events
  match started with
  | .error e =>
    finishWrite purpose samples.length i.now (.error e)
    return .settled (.error (.storage e))
  | .ok write =>
    let id := i.nextFlight
    Act.modify fun i => { i with nextFlight := id + 1 }
    let f ← makeCall { id, write, due := i.now, begun := i.now, purpose }
    match ← proceed f with
    | some e => return Ending.attempt e
    | none => return .underWay id

/-- Whether the election lets a batch through, and under which name. Without an election every batch is let through. -/
def admitted : Act Instance (Except ElectionError (Bool × String)) :=
  withCandidate (.ok (true, "")) fun c => do
    let r ← onElection c.isLeader
    let i ← Act.get
    return r.map fun b => (b, c.id i.electionState)

/-- Sends a batch through the gate. -/
def sendBatch (purpose : Purpose) (samples : List Sample) : Act Instance Attempt := do
  touch
  match ← admitted with
  | .error e =>
    conclude purpose samples.length (.error (.election e))
    return .settled (.error (.election e))
  | .ok (false, id) =>
    Act.report [.batchDropped id samples.length]
    conclude purpose samples.length (.ok .notLeader)
    return .settled (.ok .notLeader)
  | .ok (true, _) => beginWrite purpose samples

/-- Asks the store whether it is well. -/
def checkHealth : Act Instance (Except StorageError Unit) := do
  let r ← Act.ofState fun (i : Instance) =>
    let (r, store) := i.store.ping
    (r, { i with store })
  Act.report (match r with | .ok () => [] | .error e => [.healthFailed e])
  return r

end Instance

end Intake
