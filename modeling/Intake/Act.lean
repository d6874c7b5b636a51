import Intake.Event

/-!
# Acts: steps on a state that report events

An act takes a state and answers a result, the next state and the events it caused, in order. Acts are put one after the other
with `do`; an act on a part of a state becomes one on the whole by `Act.on`.
-/

namespace Intake

def Act (σ α : Type) : Type := σ → α × σ × List Event

namespace Act

variable {σ τ α β : Type}

/-- Runs an act. -/
def run (a : Act σ α) (s : σ) : α × σ × List Event := a s

/-- Answers a result and does nothing else. -/
def pure (x : α) : Act σ α := fun s => (x, s, [])

/-- One act after another; the events of the first come first. -/
def bind (a : Act σ α) (f : α → Act σ β) : Act σ β := fun s =>
  let (x, s, e) := a s
  let (y, s, e') := f x s
  (y, s, e ++ e')

instance : Monad (Act σ) where
  pure := Act.pure
  bind := Act.bind

/-- The state. -/
def get : Act σ σ := fun s => (s, s, [])

/-- Changes the state. -/
def modify (f : σ → σ) : Act σ Unit := fun s => ((), f s, [])

/-- Reports events. -/
def report (es : List Event) : Act σ Unit := fun s => ((), s, es)

/-- A function of the state that answers a result and the next state. -/
def ofState (f : σ → α × σ) : Act σ α := fun s =>
  let (x, s) := f s
  (x, s, [])

/-- An act on a part of the state. -/
def on (part : τ → σ) (put : σ → τ → τ) (a : Act σ α) : Act τ α := fun t =>
  let (x, s, e) := a (part t)
  (x, put s t, e)

@[simp] theorem run_pure (x : α) (s : σ) : run (Pure.pure x : Act σ α) s = (x, s, []) := rfl

@[simp] theorem run_bind (a : Act σ α) (f : α → Act σ β) (s : σ) :
    run (a >>= f) s =
      ((run (f (run a s).1) (run a s).2.1).1, (run (f (run a s).1) (run a s).2.1).2.1,
        (run a s).2.2 ++ (run (f (run a s).1) (run a s).2.1).2.2) := rfl

/-- What one act after another answers. -/
theorem run_bind_result (a : Act σ α) (f : α → Act σ β) (s : σ) :
    (run (a >>= f) s).1 = (run (f (run a s).1) (run a s).2.1).1 := by
  rfl

/-- The state after one act and another. -/
theorem run_bind_state (a : Act σ α) (f : α → Act σ β) (s : σ) :
    (run (a >>= f) s).2.1 = (run (f (run a s).1) (run a s).2.1).2.1 := by
  rfl

/-- What an act answers that looks at the state first. -/
theorem run_get_bind_result (f : σ → Act σ β) (s : σ) : (run (get >>= f) s).1 = (run (f s) s).1 := by
  rfl

/-- The state after an act that looks at the state first. -/
theorem run_get_bind_state (f : σ → Act σ β) (s : σ) : (run (get >>= f) s).2.1 = (run (f s) s).2.1 := by
  rfl

@[simp] theorem run_get (s : σ) : run (get : Act σ σ) s = (s, s, []) := rfl

@[simp] theorem run_modify (f : σ → σ) (s : σ) : run (modify f) s = ((), f s, []) := rfl

@[simp] theorem run_report (es : List Event) (s : σ) : run (report es : Act σ Unit) s = ((), s, es) := rfl

@[simp] theorem run_ofState (f : σ → α × σ) (s : σ) : run (ofState f) s = ((f s).1, (f s).2, []) := rfl

@[simp] theorem run_on (part : τ → σ) (put : σ → τ → τ) (a : Act σ α) (t : τ) :
    run (a.on part put) t = ((run a (part t)).1, put (run a (part t)).2.1 t, (run a (part t)).2.2) := rfl

end Act

end Intake
