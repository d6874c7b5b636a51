import Intake.Text.Quoted

/-!
# Status of a competitor for the lock
-/

namespace Intake

/-- What an instance knows about its leadership. -/
inductive LockStatus where
  | follower
  | leader
  /-- The last check failed and none has succeeded since. -/
  | failed (reason : String)
  deriving DecidableEq, Inhabited, Repr

def LockStatus.text : LockStatus → String
  | .follower => "Follower"
  | .leader => "Leader"
  | .failed reason => "Failed(" ++ Quoted.text reason ++ ")"

end Intake
