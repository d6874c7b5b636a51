import Intake.Time.Span

/-!
# Throughput: the rate of samples written, sampled by a clock

The counter of samples sent is shown to the calculator after every batch. At every tick a sampler publishes the rate since the
tick before. A published rate can be taken once, and the next tick overwrites one that nobody took.
-/

namespace Intake

structure Throughput where
  /-- The time between two ticks. -/
  tick : Span
  /-- The counter as last shown. -/
  current : Binary64
  /-- The rate that the last tick published, unless it was taken. -/
  latest : Option Binary64
  deriving Inhabited

namespace Throughput

def new (tick : Span) : Throughput := ⟨tick, Binary64.zero, none⟩

def setCurrent (t : Throughput) (counter : Binary64) : Throughput := { t with current := counter }

/-- The published rate, which is gone after this. -/
def take (t : Throughput) : Option Binary64 × Throughput := (t.latest, { t with latest := none })

/-- One tick of a sampler that saw the counter at `previous`: what it sees now, and the rate published. -/
def sample (t : Throughput) (previous : Binary64) : Binary64 × Throughput :=
  (t.current, { t with latest := some ((t.current.sub previous).div t.tick.seconds) })

end Throughput

end Intake
