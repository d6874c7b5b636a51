import Intake.Leadership.Candidate

/-!
# Rounds: an election that is held again and again, and pauses without traffic

A candidate competes once every interval. Beside that, the time since the last batch is looked at: when it exceeds the idle
timeout, the election is paused and leadership given up, so that an instance that gets no traffic does not keep others from
leading; the pause ends when batches arrive again. A round and a resignation never overlap, so a round that was let through
before the pause is over before leadership is given up.
-/

namespace Intake

/-- Where the rounds of a candidate stand. -/
structure Rounds where
  /-- Whether the candidate does not compete for want of traffic. -/
  paused : Bool := false
  /-- Whether the last round was won, for the reports of changes. -/
  leading : Bool := false
  deriving DecidableEq, Inhabited, Repr

namespace Rounds

/-- Whether the result of a round is leadership. -/
def won : Except ElectionError Bool → Bool
  | .ok b => b
  | .error _ => false

/-- Notes the result of a round; a change of leadership is reported. -/
def settle (id : String) (result : Except ElectionError Bool) (r : Rounds) : Rounds × List Event :=
  ({ r with leading := won result },
    if won result && !r.leading then [.becameLeader id]
    else if !won result && r.leading then [.lostLeadership id]
    else [])

/-- Pauses before leadership is given up; the first time is reported. -/
def pause (idle timeout : Span) (r : Rounds) : Rounds × List Event :=
  ({ paused := true, leading := false }, if r.paused then [] else [.idlePause idle timeout])

/-- Ends a pause; the end of one is reported. -/
def resume (r : Rounds) : Rounds × List Event :=
  ({ r with paused := false }, if r.paused then [.resumed] else [])

variable {σ : Type}

/-- One round. In a pause it is lost without asking anybody. -/
def run (c : Candidate σ) : Act (Rounds × σ) (Except ElectionError Bool) := fun (r, s) =>
  if r.paused then (.ok false, (r, s), [.roundSkipped])
  else
    let (result, s, events) := c.compete s
    let (r, more) := r.settle (c.id s) result
    (result, (r, s), events ++ more)

/-- Looks at the time without traffic: pauses and resigns when it exceeds the timeout, and ends the pause otherwise. -/
def checkIdle (c : Candidate σ) (idle timeout : Span) : Act (Rounds × σ) Unit := fun (r, s) =>
  if timeout < idle then
    let (r, events) := r.pause idle timeout
    let (result, s, more) := c.resign s
    let failure := match result with
      | .ok () => []
      | .error e => [Event.idleResignFailed e]
    ((), (r, s), events ++ more ++ failure)
  else
    let (r, events) := r.resume
    ((), (r, s), events)

/-- A round held by the clock: its result is reported. -/
def tick (c : Candidate σ) : Act (Rounds × σ) Unit := do
  let result ← run c
  Act.report [match result with | .ok leader => .roundDone leader | .error e => .roundFailed e]

/-- The end of the election: leadership is given up, whatever came before. -/
def stop (c : Candidate σ) : Act (Rounds × σ) Unit := fun (r, s) =>
  let (result, s, events) := c.resign s
  let failure := match result with
    | .ok () => []
    | .error e => [Event.lastResignFailed e]
  ((), (r, s), [Event.electionStopped] ++ events ++ failure)

end Rounds

end Intake
