import Intake.Service.Clock
import Intake.Text.Blank

/-!
# Serving: requests and their answers

A posted batch is decoded and sent; the request succeeds whether or not the batch could be written, once it could be decoded.
Who posted it may go away before it is written: the write goes on without them. The time that each request takes is noted for
every route that was offered it.
-/

namespace Intake

namespace Instance

/-- Notes a request for a route. -/
def noteRequest (begun : Nat) (label : String) : Act Instance Unit := Act.modify fun i =>
  { i with meters := i.meters.observeRequest label ((Span.mk (i.now - begun)).seconds.div (Binary64.ofQuotient false 1 1000)) }

/-- The truth value that a body says: `true` or `false`, with blanks around it. -/
def decisionOf? (body : List UInt8) : Option Bool :=
  (Utf8.decode? body).bind fun s =>
    let word := trimBlank s
    if word = "true" then some true else if word = "false" then some false else none

/-- Applies a decision about leadership; the answer is the one before it. -/
def decideLeader (leader : Bool) : Act Instance Bool :=
  (ExternalDecision.decide leader).on (fun i => i.decision) (fun decision i => { i with decision })

/-- What a posted body leads to: an answer at once, or a batch under way. -/
def postBatch (body : List UInt8) : Act Instance (Response ⊕ Attempt) :=
  match WriteRequest.decode body with
  | .error e => do
    Act.report [.undecodable e]
    return .inl { status := 400, body := e.text }
  | .ok request => do
    let samples := request.samples
    Act.modify fun i => { i with meters := i.meters.addReceived (Binary64.ofNat samples.length) }
    return .inr (← sendBatch .handle samples)

/-- The answer to a batch that was accepted. -/
def accepted : Response := { status := 200, body := "" }

/-- The answer of an endpoint other than the one for batches. -/
def answer (e : Endpoint) (body : List UInt8) : Act Instance Response := do
  let i ← Act.get
  match e with
  | .write => return accepted
  | .health =>
    match ← checkHealth with
    | .ok () => return { status := 200, body := "" }
    | .error e => return { status := 500, body := e.message }
  | .telemetry => return { status := 200, body := i.meters.exposition }
  | .readLeader =>
    match i.backend with
    | .external => return { status := 200, body := Event.boolText i.decision.leader }
    | _ => return { status := 404, body := "" }
  | .decideLeader =>
    match i.backend with
    | .external =>
      match decisionOf? body with
      | some leader =>
        let _ ← decideLeader leader
        Act.report [.decisionApplied leader]
        return { status := 200, body := Event.boolText leader }
      | none => return { status := 400, body := "body must be `true` or `false`" }
    | _ => return { status := 404, body := "" }

/-- The answer when no route takes a request. -/
def unrouted (wrongMethod : Bool) : Response :=
  if wrongMethod then { status := 405, body := "HTTP method not allowed" } else { status := 404, isText := false, body := "" }

/-- The answer to a request whose batch is accepted: whoever sent it waits for as long as they are willing to. None when they went
away first. A batch is written by a task of its own, so it takes some waiting to hear of its end, however short. -/
def awaitBatch (willing : Option Span) (a : Attempt) : Act Instance (Option Response) := do
  let a ← await a willing
  if willing = some Span.zero then return none
  match a with
  | .underWay _ => return none
  | .lost =>
    Act.report [.writeTaskLost]
    return some accepted
  | .settled _ => return some accepted

/-- Answers a request; none when whoever sent it went away before the answer. -/
def serve (q : Request) (willing : Option Span) : Act Instance (Option Response) := do
  let i ← Act.get
  let begun := i.now
  let d := Route.dispatch i.telemetry q
  d.refused.forM (noteRequest begun)
  match d.outcome with
  | none => return some (unrouted d.wrongMethod)
  | some (label, .write) =>
    let response ← match ← postBatch q.body with
      | .inl r => pure (some r)
      | .inr a => awaitBatch willing a
    if response.isSome then noteRequest begun label else pure ()
    return response
  | some (label, e) =>
    let r ← answer e q.body
    noteRequest begun label
    return some r

end Instance

end Intake
