import Intake.Leadership.Candidate

/-!
# Scripted candidate: answers laid down in advance

A candidate for rehearsals: its answers are taken one by one from a script. Without an answer, competing wins, resigning
succeeds, and asking tells what the last two did.
-/

namespace Intake

/-- An answer of the script. -/
inductive ScriptedAnswer where
  | usual
  | verdict (answer : Bool)
  /-- The call fails for this reason. -/
  | fails (reason : String)
  deriving DecidableEq, Inhabited, Repr

structure ScriptedCandidate where
  leads : Bool := false
  script : List ScriptedAnswer := []
  /-- The calls since the list was last emptied, the last one first. -/
  calls : List String := []
  deriving Inhabited, Repr

namespace ScriptedCandidate

/-- The lock that the errors of the script are about. -/
def lockId : Int := 7

/-- Lists a call and takes the next answer of the script, or the usual one. -/
def call (name : String) (usual : Bool) (c : ScriptedCandidate) : Except ElectionError Bool × ScriptedCandidate :=
  let rest := { c with script := c.script.drop 1, calls := name :: c.calls }
  match c.script.head? with
  | some (.verdict b) => (.ok b, rest)
  | some (.fails reason) => (.error (.checkFailed lockId reason), rest)
  | some .usual | none => (.ok usual, rest)

def candidate : Candidate ScriptedCandidate where
  id _ := "scripted"
  compete := Act.ofState fun c =>
    let (r, c) := call "become_leader" true c
    (r, { c with leads := match r with | .ok b => b | .error _ => false })
  isLeader := Act.ofState fun c => call "is_leader" c.leads c
  resign := Act.ofState fun c =>
    let (r, c) := call "resign" true c
    (r.map fun _ => (), { c with leads := false })

end ScriptedCandidate

end Intake
