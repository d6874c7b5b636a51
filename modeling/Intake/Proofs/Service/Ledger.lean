import Intake.Proofs.Meter.Family
import Intake.Proofs.Service.Writing
import Intake.Service.Serving

/-!
# Ledger: what the accounts of an instance are drawn from

The samples that an instance took in are accounted for in its counters and in the tables of its store. Most of what an instance
does leaves all of that alone: it elects, lets time pass, answers other requests, feeds the throughput. Only the end of a write
makes an entry (`Ledger.enter`).
-/

namespace Intake

/-- The store of an instance and what is counted for it. -/
@[ext] structure Ledger where
  name : String
  tables : Tables
  fault : Option StoreFault
  delay : Option (WritePhase × Nat)
  flights : List Flight
  received : Binary64
  sent : Binary64
  failed : Binary64
  /-- How many batches were timed. -/
  batches : Nat

namespace Ledger

/-- Calls take no time, no fault ends the task that makes them, and no write is under way. -/
structure Prompt (l : Ledger) : Prop where
  delay : l.delay = none
  fault : ∀ f, l.fault = some f → f.fatal = false
  flights : l.flights = []

/-- The end of a write of some samples. -/
def enter (count : Nat) (result : Except StorageError Unit) (l : Ledger) : Ledger :=
  match result with
  | .ok () => { l with sent := l.sent.add (Binary64.ofNat count), batches := l.batches + 1 }
  | .error _ => { l with failed := l.failed.add (Binary64.ofNat count) }

end Ledger

namespace Instance

def ledger (i : Instance) : Ledger where
  name := i.store.name
  tables := i.store.tables
  fault := i.store.fault
  delay := i.store.delay
  flights := i.flights
  received := i.meters.received
  sent := (i.meters.sent.lookup i.store.name).getD Binary64.zero
  failed := (i.meters.failed.lookup i.store.name).getD Binary64.zero
  batches := ((i.meters.batchDuration.lookup i.store.name).getD Histogram.empty).count

theorem store_prompt {i : Instance} (h : i.ledger.Prompt) : i.store.Prompt := ⟨h.delay, h.fault⟩

/-! ## The end of a write -/

theorem ledger_countBatch (count begun : Nat) (result : Except StorageError Unit) (i : Instance) :
    ((countBatch count begun result).run i).2.1.ledger = i.ledger.enter count result := by
  cases result with
  | ok u => simp [countBatch, ledger, Ledger.enter, Meters.addSent, Meters.observeBatch, Family.lookup_update, Histogram.observe]
  | error e => simp [countBatch, ledger, Ledger.enter, Meters.addFailed, Family.lookup_update]

/-- Reading the sent counter makes it, and leaves what it counted. -/
theorem ledger_feedThroughput (i : Instance) : (feedThroughput.run i).2.1.ledger = i.ledger := by
  have h := Family.lookup_touch Binary64.zero i.store.name i.meters.sent
  simp only [feedThroughput, Act.run_bind_state, Act.run_ofState, Act.run_modify, Act.run_report, ledger, Meters.readSent, h]

theorem ledger_conclude (purpose : Purpose) (count : Nat) (result : Except Failure WriteOutcome) (i : Instance) :
    ((conclude purpose count result).run i).2.1.ledger = i.ledger := by
  cases purpose with
  | handle => exact ledger_feedThroughput i
  | plain => rfl
  | send => rfl

theorem ledger_finishWrite (count begun : Nat) (result : Except StorageError Unit) (i : Instance) :
    ((finishWrite .handle count begun result).run i).2.1.ledger = i.ledger.enter count result := by
  unfold finishWrite
  rw [if_neg (by decide), Act.run_bind_state, ledger_conclude, ledger_countBatch]

/-! ## Elections and time -/

theorem ledger_onRounds {α : Type} (a : Act (Rounds × ElectionState) α) (i : Instance) :
    ((onRounds a).run i).2.1.ledger = i.ledger := rfl

theorem ledger_asNode {α : Type} (name : String) (f : {σ : Type} → Candidate σ → Act (Rounds × σ) α) (i : Instance) :
    ((asNode name f).run i).2.1.ledger = i.ledger := by
  unfold asNode Act.run
  dsimp only
  split
  · unfold withCandidate
    dsimp only
    split <;> rfl
  · split <;> rfl

theorem ledger_runTask (task : Periodic) (i : Instance) : ((runTask task).run i).2.1.ledger = i.ledger := by
  cases task with
  | sampler previous => rfl
  | election node =>
    rw [runTask, Act.run_bind_state]
    exact ledger_asNode node _ i
  | monitor node timeout =>
    rw [runTask, Act.run_bind_state, Act.run_bind_state]
    exact ledger_asNode node _ i

/-- What happens in time makes no entry while no write is under way. -/
theorem ledger_happen {i : Instance} (h : i.flights = []) : (happen.run i).2.1.ledger = i.ledger := by
  unfold happen Act.run
  dsimp only
  split
  · next before t after _ => exact ledger_runTask t.task i
  · rw [h]
    rfl

theorem ledger_elapse {i : Instance} (h : i.flights = []) (watched : Option Nat) (limit turns : Nat) :
    ((elapse watched limit turns).run i).2.1.ledger = i.ledger := by
  induction turns generalizing i with
  | zero => rfl
  | succ turns ih =>
    rw [elapse, Act.run_get_bind_state]
    by_cases hended : watched.any i.hasEnded
    · rw [if_pos hended]
      rfl
    rw [if_neg hended]
    cases i.nextDue? with
    | none => rfl
    | some t =>
      by_cases hlimit : t ≤ limit
      · -- The clock moves, something happens, and the rest of the time passes.
        simp only [if_pos hlimit, Act.run_bind_state, Act.run_modify]
        have hhappen := ledger_happen (i := { i with now := max i.now t }) h
        have hflights : (happen.run { i with now := max i.now t }).2.1.flights = [] :=
          (congrArg Ledger.flights hhappen).trans h
        exact (ih hflights).trans hhappen
      · simp only [if_neg hlimit]
        rfl

theorem ledger_sleep {i : Instance} (h : i.flights = []) (d : Span) : ((sleep d).run i).2.1.ledger = i.ledger := by
  rw [sleep, Act.run_get_bind_state]
  exact ledger_elapse h none _ _

/-! ## Requests -/

theorem ledger_noteRequest (begun : Nat) (label : String) (i : Instance) :
    ((noteRequest begun label).run i).2.1.ledger = i.ledger := rfl

/-- Only the times of requests change where routes refuse one. -/
theorem run_refused (begun : Nat) (labels : List String) (i : Instance) :
    ∃ requestDuration, ((labels.forM (noteRequest begun)).run i).2.1 = { i with meters := { i.meters with requestDuration } } := by
  induction labels generalizing i with
  | nil => exact ⟨i.meters.requestDuration, rfl⟩
  | cons label rest ih =>
    obtain ⟨requestDuration, h⟩ := ih ((noteRequest begun label).run i).2.1
    refine ⟨requestDuration, ?_⟩
    exact h

theorem ledger_checkHealth (i : Instance) : (checkHealth.run i).2.1.ledger = i.ledger := rfl

/-- An endpoint other than the one for batches makes no entry. -/
theorem ledger_answer (e : Endpoint) (body : List UInt8) (i : Instance) : ((answer e body).run i).2.1.ledger = i.ledger := by
  rw [answer, Act.run_get_bind_state]
  cases e with
  | write => rfl
  | telemetry => rfl
  | health =>
    rw [Act.run_bind_state]
    cases (checkHealth.run i).1 with
    | ok u => exact ledger_checkHealth i
    | error e => exact ledger_checkHealth i
  | readLeader => cases i.backend <;> rfl
  | decideLeader =>
    cases i.backend with
    | external => cases decisionOf? body <;> rfl
    | none => rfl
    | lock l => rfl
    | scripted c => rfl

end Instance

end Intake
