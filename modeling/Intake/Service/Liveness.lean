import Intake.Time.Span

/-!
# Liveness: how long no batch has arrived

The start counts as a batch. Times are nanoseconds on the clock of the service; the time of a batch is kept in sixty-four bits.
-/

namespace Intake

structure Liveness where
  /-- When the service started. -/
  origin : Nat := 0
  /-- When the last batch arrived, counted from the start. -/
  lastBatch : Nat := 0
  deriving DecidableEq, Inhabited, Repr

namespace Liveness

/-- A batch arrives. -/
def touch (l : Liveness) (now : Nat) : Liveness := { l with lastBatch := (now - l.origin) % 0x10000000000000000 }

/-- The time since the last batch. -/
def idle (l : Liveness) (now : Nat) : Span := ⟨now - l.origin - l.lastBatch⟩

end Liveness

end Intake
