import Intake.Proofs.Store.Tables
import Intake.Proofs.Store.Write

/-!
# Resubmission: a batch that is written again until it succeeds

A write that fails leaves the tables as they were, or with the label sets of its batch added and nothing else. The next attempt finds
those label sets numbered, so it adds none and the counter stays where it is. However many attempts fail, and wherever, the one that
succeeds leaves what a single write would have left (`resubmission_safe`).
-/

namespace Intake

/-- A phase that fails while a batch is written, and what is said of it. Any phase can fail but the release. -/
structure Setback where
  phase : WritePhase
  text : String
  stops : phase ≠ .release := by decide

namespace MemoryStore

/-- The store while a setback lasts. -/
def beset (m : MemoryStore) (b : Setback) : MemoryStore := m.breakAt (some (b.phase, b.text))

/-- The store after attempts to write a batch, each of which meets a setback. -/
def endure (samples : List Sample) (m : MemoryStore) (setbacks : List Setback) : MemoryStore :=
  setbacks.foldl (fun m b => ((m.beset b).write samples).2) m

/-- Attempts to write a batch, each of which meets a setback, and at last one that does not. -/
def resubmit (samples : List Sample) (m : MemoryStore) (setbacks : List Setback) : Option (Except StorageError Unit) × MemoryStore :=
  ((m.endure samples setbacks).breakAt none).write samples

theorem breaksAt_beset (m : MemoryStore) (b : Setback) :
    (m.beset b).breaksAt = some { phase := b.phase, text := b.text, fatal := false } := by
  have hstops := b.stops
  simp [breaksAt, beset, breakAt, hstops]

theorem breaksAt_mended (m : MemoryStore) : (m.breakAt none).breaksAt = none := rfl

variable {m : MemoryStore} {samples : List Sample} {rows : List StagedRow}

/-! ## One attempt -/

/-- An attempt that meets a setback fails in its phase. -/
theorem answerTo_beset (hrows : (stageBatch false samples).1 = .ok rows) (b : Setback) :
    (m.beset b).answerTo samples = .error (.backend b.phase b.text) := by
  simp only [answerTo, hrows, writeResult, breaksAt_beset]

/-- What it leaves of the batch are label sets at most. -/
theorem tablesAfter_beset (hrows : (stageBatch false samples).1 = .ok rows) (b : Setback) :
    (m.beset b).tablesAfter samples = m.tables ∨ (m.beset b).tablesAfter samples = m.tables.addLabels rows := by
  simp only [tablesAfter, hrows, writtenTables, breaksAt_beset]
  by_cases hphase : b.phase = .insertValues
  · exact Or.inr (if_pos hphase)
  · exact Or.inl (if_neg hphase)

/-- An attempt that meets none succeeds. -/
theorem answerTo_mended (hrows : (stageBatch false samples).1 = .ok rows) : (m.breakAt none).answerTo samples = .ok () := by
  simp only [answerTo, hrows, writeResult, breaksAt_mended]

theorem tablesAfter_mended (hrows : (stageBatch false samples).1 = .ok rows) :
    (m.breakAt none).tablesAfter samples = (m.tables.addLabels rows).addValues rows := by
  simp only [tablesAfter, hrows, writtenTables, breaksAt_mended]
  rfl

/-! ## Many attempts -/

/-- A store before and after attempts to write rows that failed. -/
structure Endured (m : MemoryStore) (rows : List StagedRow) (m' : MemoryStore) : Prop where
  tables : m'.tables = m.tables ∨ m'.tables = m.tables.addLabels rows
  openStaging : m'.openStaging = m.openStaging
  sessions : ∃ n, m'.acquired = m.acquired + n ∧ m'.released = m.released + n

theorem Endured.refl (m : MemoryStore) (rows : List StagedRow) : m.Endured rows m := ⟨Or.inl rfl, rfl, 0, rfl, rfl⟩

theorem Endured.trans {m' m'' : MemoryStore} (h : m.Endured rows m') (h' : m'.Endured rows m'') : m.Endured rows m'' := by
  obtain ⟨n, hacquired, hreleased⟩ := h.sessions
  obtain ⟨k, hacquired', hreleased'⟩ := h'.sessions
  refine ⟨?_, h'.openStaging.trans h.openStaging, n + k, by omega, by omega⟩
  rcases h.tables with ht | ht <;> rcases h'.tables with ht' | ht'
  · exact Or.inl (ht'.trans ht)
  · exact Or.inr (by rw [ht', ht])
  · exact Or.inr (ht'.trans ht)
  · -- The label sets that the first attempts left are not added again.
    exact Or.inr (by rw [ht', ht, Tables.addLabels_addLabels])

theorem endured_attempt (hrows : (stageBatch false samples).1 = .ok rows) (b : Setback) :
    m.Endured rows ((m.beset b).write samples).2 := by
  obtain ⟨-, hwrote⟩ := wrote_write (mild_breakAt (some (b.phase, b.text)) m) samples
  refine ⟨?_, hwrote.openStaging, hwrote.sessions⟩
  rcases tablesAfter_beset (m := m) hrows b with ht | ht
  · exact Or.inl (hwrote.tables.trans ht)
  · exact Or.inr (hwrote.tables.trans ht)

theorem endured_endure (hrows : (stageBatch false samples).1 = .ok rows) (setbacks : List Setback) :
    m.Endured rows (m.endure samples setbacks) := by
  unfold endure
  induction setbacks generalizing m with
  | nil => exact Endured.refl m rows
  | cons b rest ih => exact (endured_attempt hrows b).trans ih

/-- A batch is written as a single write would write it, whatever the attempts before it left: label rows, value rows and counter. -/
theorem Endured.addValues {m' : MemoryStore} (h : m.Endured rows m') :
    (m'.tables.addLabels rows).addValues rows = (m.tables.addLabels rows).addValues rows := by
  rcases h.tables with ht | ht
  · rw [ht]
  · rw [ht, Tables.addLabels_addLabels]

/-- What comes of attempts to write a batch of which all but the last fail. -/
structure Recovers (m : MemoryStore) (samples : List Sample) (setbacks : List Setback) : Prop where
  /-- Each attempt that meets a setback fails with it. -/
  failed : ∀ before b after, setbacks = before ++ b :: after →
    (((m.endure samples before).beset b).write samples).1 = some (.error (.backend b.phase b.text))
  written : (m.resubmit samples setbacks).1 = some (.ok ())
  /-- Label rows with their numbers are those that a single write leaves on the store as it was before, and so are value rows. -/
  labels : (m.resubmit samples setbacks).2.tables.labels = ((m.breakAt none).write samples).2.tables.labels
  values : (m.resubmit samples setbacks).2.tables.values = ((m.breakAt none).write samples).2.tables.values
  /-- The counter stands where a single write leaves it, so no attempt that failed has used up a number of its own. -/
  nextId : (m.resubmit samples setbacks).2.tables.nextId = ((m.breakAt none).write samples).2.tables.nextId
  /-- Where the numbers counted up without a gap before, they still do, and the counter is one more than there are label rows. -/
  numbered : m.tables.Numbered → (m.resubmit samples setbacks).2.tables.Numbered
  /-- No staging table is left open. -/
  openStaging : (m.resubmit samples setbacks).2.openStaging = m.openStaging
  /-- As many sessions were released as were acquired. -/
  sessions : ∃ n, (m.resubmit samples setbacks).2.acquired = m.acquired + n ∧
    (m.resubmit samples setbacks).2.released = m.released + n

/-- Whatever the store holds, a batch whose times fit can be submitted again after every failure: when it is written at last, the
store holds what it would hold had the batch been written at once. -/
theorem resubmission_safe (m : MemoryStore) (samples : List Sample) (setbacks : List Setback)
    (hfit : ∀ s ∈ samples, (Instant.ofMillis? s.timestampMs).isSome) : m.Recovers samples setbacks := by
  obtain ⟨rows, hrows⟩ := stageBatch_of_fit false hfit
  have hendured : m.Endured rows (m.endure samples setbacks) := endured_endure hrows setbacks
  obtain ⟨hlast, hwrote⟩ := wrote_write (mild_breakAt none (m.endure samples setbacks)) samples
  obtain ⟨-, honce⟩ := wrote_write (mild_breakAt none m) samples
  have htables : (m.resubmit samples setbacks).2.tables = ((m.breakAt none).write samples).2.tables := by
    calc (m.resubmit samples setbacks).2.tables
        = ((m.endure samples setbacks).breakAt none).tablesAfter samples := hwrote.tables
      _ = ((m.endure samples setbacks).tables.addLabels rows).addValues rows := tablesAfter_mended hrows
      _ = (m.tables.addLabels rows).addValues rows := hendured.addValues
      _ = (m.breakAt none).tablesAfter samples := (tablesAfter_mended hrows).symm
      _ = ((m.breakAt none).write samples).2.tables := honce.tables.symm
  refine ⟨?_, ?_, ?_, ?_, ?_, ?_, ?_, ?_⟩
  · intro before b after _
    obtain ⟨hanswer, -⟩ := wrote_write (mild_breakAt (some (b.phase, b.text)) (m.endure samples before)) samples
    exact hanswer.trans (congrArg some (answerTo_beset hrows b))
  · rw [← answerTo_mended (m := m.endure samples setbacks) hrows]
    exact hlast
  · rw [htables]
  · rw [htables]
  · rw [htables]
  · intro hnumbered
    rw [htables, honce.tables]
    exact numbered_tablesAfter (m := m.breakAt none) hnumbered samples
  · exact hwrote.openStaging.trans hendured.openStaging
  · obtain ⟨n, hacquired, hreleased⟩ := hendured.sessions
    obtain ⟨k, hacquired', hreleased'⟩ := hwrote.sessions
    refine ⟨n + k, ?_, ?_⟩
    · exact hacquired'.trans ((congrArg (· + k) hacquired).trans (Nat.add_assoc _ _ _))
    · exact hreleased'.trans ((congrArg (· + k) hreleased).trans (Nat.add_assoc _ _ _))

/-- A sample of a series without labels. -/
def bareSample : Sample := { labels := Labels.empty, value := ⟨0⟩, timestampMs := 0 }

/-- First the value rows cannot be inserted, then no session can be reserved. -/
def twoSetbacks : List Setback := [{ phase := .insertValues, text := "disk full" }, { phase := .acquire, text := "pool closed" }]

/-- One label row and one value row are left of a batch that was submitted three times, and one number was used. -/
theorem resubmission_safe_twoSetbacks :
    (∀ s ∈ [bareSample], (Instant.ofMillis? s.timestampMs).isSome) ∧
      (resubmit [bareSample] { name := "memory" } twoSetbacks).2.tables.labels.map Prod.snd = [1] ∧
      (resubmit [bareSample] { name := "memory" } twoSetbacks).2.tables.nextId = 2 ∧
      (resubmit [bareSample] { name := "memory" } twoSetbacks).2.tables.values.map ValueRow.labelsId = [some 1] ∧
      (resubmit [bareSample] { name := "memory" } twoSetbacks).2.released = 2 ∧
      Recovers { name := "memory" } [bareSample] twoSetbacks := by
  have hfit : ∀ s ∈ [bareSample], (Instant.ofMillis? s.timestampMs).isSome := by
    intro s hs
    rw [List.mem_singleton] at hs
    subst hs
    decide
  exact ⟨hfit, by decide +kernel, by decide +kernel, by decide +kernel, by decide +kernel, resubmission_safe _ _ _ hfit⟩

end MemoryStore

end Intake
