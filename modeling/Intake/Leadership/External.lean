import Intake.Leadership.Candidate

/-!
# External decision: leadership decided by somebody outside

A coordinator tells each instance whether it leads. An instance starts as a follower and never changes its mind by itself, except
that resigning makes it a follower.
-/

namespace Intake

structure ExternalDecision where
  /-- The name of the instance. -/
  id : String
  leader : Bool := false
  deriving DecidableEq, Inhabited, Repr

namespace ExternalDecision

/-- Applies a decision; the answer is the one before it. A change is reported. -/
def decide (leader : Bool) : Act ExternalDecision Bool := fun d =>
  (d.leader, { d with leader }, if d.leader = leader then [] else [.decisionChanged d.id leader])

/-- The instance as a candidate: it takes part in nothing and knows what it was told. -/
def candidate : Candidate ExternalDecision where
  id d := d.id
  compete := fun d => (.ok d.leader, d, [])
  isLeader := fun d => (.ok d.leader, d, [])
  resign := do
    let _ ← decide false
    return .ok ()

end ExternalDecision

end Intake
