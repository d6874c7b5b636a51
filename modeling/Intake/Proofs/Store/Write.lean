import Mathlib.Data.List.Forall2
import Intake.Proofs.Series.Sample
import Intake.Proofs.Store.Tables
import Intake.Store.BatchWrite
import Intake.Store.Memory

/-!
# Write: one batch against the store in memory

A write makes its calls one after the other; without delays and without others in between, `MemoryStore.drive` is the whole of it.
A store breaks for a write at the phase that its fault names, unless that is the release, which cannot fail (`breaksAt`). What a
write answers and what it leaves in the tables depends on nothing else: before the labels are inserted nothing is left, then the
label sets, then the value rows; the session is released on every path.
-/

namespace Intake

/-! ## Batches and their rows -/

/-- Whether the dump is asked for makes no difference to the rows. -/
theorem stageBatch_fst (dump : Bool) (samples : List Sample) : (stageBatch dump samples).1 = (stageBatch false samples).1 := by
  induction samples with
  | nil => rfl
  | cons s rest ih =>
    unfold stageBatch
    cases StagedRow.ofSample? s with
    | none => rfl
    | some row => simp only [ih]

/-- A batch is staged as the rows of its samples, in their order. -/
theorem map_ofSample?_of_stageBatch {dump : Bool} {samples : List Sample} {rows : List StagedRow}
    (h : (stageBatch dump samples).1 = .ok rows) : samples.map StagedRow.ofSample? = rows.map some := by
  induction samples generalizing rows with
  | nil =>
    cases h
    rfl
  | cons s rest ih =>
    unfold stageBatch at h
    cases hs : StagedRow.ofSample? s with
    | none => rw [hs] at h; cases h
    | some row =>
      rw [hs] at h
      cases hr : (stageBatch dump rest).1 with
      | error e => simp only [hr, Except.map] at h; cases h
      | ok tail =>
        simp only [hr, Except.map] at h
        cases h
        rw [List.map_cons, List.map_cons, hs, ih hr]

theorem length_of_stageBatch {dump : Bool} {samples : List Sample} {rows : List StagedRow}
    (h : (stageBatch dump samples).1 = .ok rows) : rows.length = samples.length := by
  have hlength := congrArg List.length (map_ofSample?_of_stageBatch h)
  rw [List.length_map, List.length_map] at hlength
  exact hlength.symm

/-- A row of a batch is the row of one of its samples. -/
theorem exists_sample_of_stageBatch {dump : Bool} {samples : List Sample} {rows : List StagedRow} {r : StagedRow}
    (h : (stageBatch dump samples).1 = .ok rows) (hr : r ∈ rows) : ∃ s ∈ samples, StagedRow.ofSample? s = some r := by
  have hmem : some r ∈ samples.map StagedRow.ofSample? := by
    rw [map_ofSample?_of_stageBatch h]
    exact List.mem_map_of_mem hr
  exact List.mem_map.1 hmem

/-- The rows of a batch stand for its samples one by one. -/
theorem forall₂_of_stageBatch {dump : Bool} {samples : List Sample} {rows : List StagedRow} (h : (stageBatch dump samples).1 = .ok rows) :
    List.Forall₂ (fun s r => StagedRow.ofSample? s = some r) samples rows := by
  have hmap := map_ofSample?_of_stageBatch h
  rw [← List.forall₂_eq_eq_eq, List.forall₂_map_left_iff, List.forall₂_map_right_iff] at hmap
  exact hmap

/-- Staging keeps the label sets. -/
theorem map_labelSet_of_stageBatch {dump : Bool} {samples : List Sample} {rows : List StagedRow}
    (h : (stageBatch dump samples).1 = .ok rows) : rows.map StagedRow.labelSet = samples.map Sample.labelSet := by
  have hrows := forall₂_of_stageBatch h
  clear h
  induction hrows with
  | nil => rfl
  | cons hrow _ ih =>
    obtain ⟨time, -, rfl⟩ := Option.map_eq_some_iff.1 hrow
    rw [List.map_cons, List.map_cons, ih]

/-! ## Batches with a time that does not fit -/

/-- The first sample of a batch whose time does not fit. -/
def firstUnfit? (samples : List Sample) : Option Sample := samples.find? fun s => (Instant.ofMillis? s.timestampMs).isNone

/-- A batch is rejected for the time of the first sample that does not fit. -/
theorem stageBatch_of_firstUnfit (dump : Bool) {samples : List Sample} {s : Sample} (h : firstUnfit? samples = some s) :
    (stageBatch dump samples).1 = .error (.timestampOutOfRange s.timestampMs) := by
  unfold firstUnfit? at h
  induction samples with
  | nil => cases h
  | cons first rest ih =>
    rw [List.find?_cons] at h
    unfold stageBatch StagedRow.ofSample?
    cases ht : Instant.ofMillis? first.timestampMs with
    | none =>
      rw [ht] at h
      cases h
      rfl
    | some t =>
      rw [ht] at h
      simp only [Option.map_some, ih h]
      rfl

/-- A write begins with the rows of its batch. -/
theorem BatchWrite.fst_start (dump : Bool) (samples : List Sample) :
    (BatchWrite.start dump samples).1 = (stageBatch dump samples).1.map fun rows => { rows } := by
  unfold BatchWrite.start
  rcases stageBatch dump samples with ⟨_ | rows, events⟩ <;> rfl

/-- A batch of samples whose times fit is staged. -/
theorem stageBatch_of_fit (dump : Bool) {samples : List Sample} (h : ∀ s ∈ samples, (Instant.ofMillis? s.timestampMs).isSome) :
    ∃ rows, (stageBatch dump samples).1 = .ok rows := by
  induction samples with
  | nil => exact ⟨[], rfl⟩
  | cons s rest ih =>
    obtain ⟨rows, hrows⟩ := ih fun s' hs' => h s' (List.mem_cons_of_mem s hs')
    obtain ⟨t, ht⟩ := Option.isSome_iff_exists.1 (h s List.mem_cons_self)
    have hrow : StagedRow.ofSample? s = some ⟨t, s.value, s.labelSet⟩ := congrArg (Option.map _) ht
    unfold stageBatch
    simp only [hrow, hrows]
    exact ⟨_, rfl⟩

theorem fits_of_firstUnfit_none {samples : List Sample} (h : firstUnfit? samples = none) :
    ∀ s ∈ samples, (Instant.ofMillis? s.timestampMs).isSome := by
  intro s hs
  have hfits := List.find?_eq_none.1 h s hs
  rw [Option.isNone_iff_eq_none, ← Ne, Option.ne_none_iff_isSome] at hfits
  exact hfits

/-- A batch is rejected for the time of one of its samples. -/
theorem stageBatch_error {dump : Bool} {samples : List Sample} {e : StorageError} (h : (stageBatch dump samples).1 = .error e) :
    ∃ s ∈ samples, Instant.ofMillis? s.timestampMs = none ∧ e = .timestampOutOfRange s.timestampMs := by
  cases hfirst : firstUnfit? samples with
  | none =>
    obtain ⟨rows, hrows⟩ := stageBatch_of_fit dump (fits_of_firstUnfit_none hfirst)
    cases hrows.symm.trans h
  | some s =>
    have hunfit := List.find?_some hfirst
    refine ⟨s, List.mem_of_find?_eq_some hfirst, Option.isNone_iff_eq_none.1 hunfit, ?_⟩
    cases (stageBatch_of_firstUnfit dump hfirst).symm.trans h
    rfl

/-- A batch with a sample whose time does not fit is rejected. -/
theorem stageBatch_of_unfit (dump : Bool) {samples : List Sample} (h : ∃ s ∈ samples, StagedRow.ofSample? s = none) :
    ∃ e, (stageBatch dump samples).1 = .error e := by
  obtain ⟨s, hs, hunfit⟩ := h
  cases hfirst : firstUnfit? samples with
  | some first => exact ⟨_, stageBatch_of_firstUnfit dump hfirst⟩
  | none =>
    have hfits := fits_of_firstUnfit_none hfirst s hs
    rw [Option.map_eq_none_iff.1 hunfit] at hfits
    cases hfits

/-- All times of a batch that is staged fit. -/
theorem fits_of_stageBatch {dump : Bool} {samples : List Sample} {rows : List StagedRow} (h : (stageBatch dump samples).1 = .ok rows) :
    ¬∃ s ∈ samples, Instant.ofMillis? s.timestampMs = none := by
  rintro ⟨s, hs, hunfit⟩
  obtain ⟨e, he⟩ := stageBatch_of_unfit dump ⟨s, hs, Option.map_eq_none_iff.2 hunfit⟩
  cases he.symm.trans h

/-- A write keeps its rows. -/
theorem BatchWrite.rows_of_reply {w w' : BatchWrite} {answer : Except StorageError Nat} {events : List Event}
    (h : w.reply answer = (.going w', events)) : w'.rows = w.rows := by
  obtain ⟨rows, waiting, n, failure⟩ := w
  cases waiting with
  | release => cases failure <;> cases h
  | acquire => cases answer <;> cases h; rfl
  | createStaging => cases answer <;> cases h <;> rfl
  | bulkLoad => cases answer <;> cases h <;> rfl
  | insertLabels => cases answer <;> cases h <;> rfl
  | insertValues => cases answer <;> cases h <;> rfl

/-! ## The store -/

/-- The answer of the store to a write; none when the task that writes is ended. -/
def StoreReply.answer? : StoreReply → Option (Except StorageError Nat)
  | .done n => some (.ok n)
  | .failed e => some (.error e)
  | .ended => none

namespace MemoryStore

@[simp] theorem delay_noteCall (m : MemoryStore) (p : WritePhase) (rows : List StagedRow) : (m.noteCall p rows).delay = m.delay := rfl

@[simp] theorem delay_effect (m : MemoryStore) (s : MemorySession) (p : WritePhase) (rows : List StagedRow) :
    (m.effect s p rows).2.2.delay = m.delay := by
  unfold effect
  split <;> rfl

/-- A call leaves the state that its effect leaves, or the one before it. -/
theorem state_perform (m : MemoryStore) (s : MemorySession) (p : WritePhase) (rows : List StagedRow) :
    (m.perform s p rows).2.2 = (m.effect s p rows).2.2 ∨ (m.perform s p rows).2.2 = m := by
  unfold perform
  split
  · exact .inl rfl
  · split
    · exact .inr rfl
    · split
      · exact .inl rfl
      · exact .inr rfl

@[simp] theorem delay_perform (m : MemoryStore) (s : MemorySession) (p : WritePhase) (rows : List StagedRow) :
    (m.perform s p rows).2.2.delay = m.delay := by
  rcases state_perform m s p rows with h | h
  · rw [h, delay_effect]
  · rw [h]

theorem delayOf_of_prompt {m : MemoryStore} (h : m.delay = none) (p : WritePhase) : m.delayOf p = 0 := by
  simp [delayOf, h]

/-- Carries a write on from a call that is listed to its end. None when the task that writes is ended. -/
def drive : (calls : Nat) → BatchWrite → MemorySession → MemoryStore → Option (Except StorageError Unit) × MemoryStore × List Event
  | 0, _, _, m => (none, m, [])
  | calls + 1, w, s, m =>
    let (r, s, m) := m.perform s w.waiting w.rows
    match r.answer? with
    | none => (none, m, [])
    | some answer =>
      match w.reply answer with
      | (.going w, events) =>
        let (result, m, more) := drive calls w s (m.noteCall w.waiting w.rows)
        (result, m, events ++ more)
      | (.finished result, events) => (some result, m, events)

/-- Writes rows. -/
def writeRows (m : MemoryStore) (rows : List StagedRow) : Option (Except StorageError Unit) × MemoryStore × List Event :=
  drive (WritePhase.all.length + 1) { rows } {} (m.noteCall .acquire rows)

/-- No fault ends the task that makes a call. -/
def Mild (m : MemoryStore) : Prop := ∀ f, m.fault = some f → f.fatal = false

/-- Calls take no time, and no fault ends the task that makes them. -/
structure Prompt (m : MemoryStore) : Prop where
  delay : m.delay = none
  fault : ∀ f, m.fault = some f → f.fatal = false

/-- From now on a phase fails for a reason, or none does. -/
def breakAt (phase : Option (WritePhase × String)) (m : MemoryStore) : MemoryStore :=
  { m with fault := phase.map fun p => { phase := p.1, text := p.2, fatal := false } }

theorem mild_breakAt (phase : Option (WritePhase × String)) (m : MemoryStore) : (m.breakAt phase).Mild := by
  intro f hf
  obtain ⟨p, -, rfl⟩ := Option.map_eq_some_iff.1 hf
  rfl

/-- The fault that a write on the store runs into. -/
def breaksAt (m : MemoryStore) : Option StoreFault := m.fault.filter fun f => f.phase ≠ .release

/-- The tables after a write. -/
def writtenTables (m : MemoryStore) (rows : List StagedRow) : Tables :=
  match m.breaksAt with
  | none => (m.tables.addLabels rows).addValues rows
  | some f => if f.phase = .insertValues then m.tables.addLabels rows else m.tables

/-- What a write answers. -/
def writeResult (m : MemoryStore) : Except StorageError Unit :=
  match m.breaksAt with
  | none => .ok ()
  | some f => .error (.backend f.phase f.text)

/-- How many sessions a write acquires, and releases. -/
def sessionsUsed (m : MemoryStore) : Nat :=
  match m.breaksAt with
  | none => 1
  | some f => if f.phase = .acquire then 0 else 1

theorem writeRows_spec (m : MemoryStore) (rows : List StagedRow) (h : m.Mild) :
    ∃ calls events, m.writeRows rows = (some m.writeResult,
      { m with
        tables := m.writtenTables rows
        acquired := m.acquired + m.sessionsUsed
        released := m.released + m.sessionsUsed
        calls }, events) := by
  obtain ⟨name, tables, openStaging, acquired, released, fault, delay, unhealthy, calls⟩ := m
  cases fault with
  | none => exact ⟨_, _, rfl⟩
  | some f =>
    obtain ⟨phase, text, fatal⟩ := f
    have hf : fatal = false := h _ rfl
    subst hf
    cases phase with
    | acquire => exact ⟨_, _, rfl⟩
    | createStaging => exact ⟨_, _, rfl⟩
    | bulkLoad => exact ⟨_, _, rfl⟩
    | insertLabels => exact ⟨_, _, rfl⟩
    | insertValues => exact ⟨_, _, rfl⟩
    | release => exact ⟨_, _, rfl⟩

/-! ## Samples -/

/-- What the store answers to samples: those whose times do not fit are rejected before it is asked. -/
def answerTo (m : MemoryStore) (samples : List Sample) : Except StorageError Unit :=
  match (stageBatch false samples).1 with
  | .ok _ => m.writeResult
  | .error e => .error e

/-- The tables after samples were written. -/
def tablesAfter (m : MemoryStore) (samples : List Sample) : Tables :=
  match (stageBatch false samples).1 with
  | .ok rows => m.writtenTables rows
  | .error _ => m.tables

/-- Samples leave the label rows numbered. -/
theorem numbered_tablesAfter {m : MemoryStore} (h : m.tables.Numbered) (samples : List Sample) : (m.tablesAfter samples).Numbered := by
  unfold tablesAfter writtenTables
  cases (stageBatch false samples).1 with
  | error e => exact h
  | ok rows =>
    have hlabels := h.addLabels rows
    cases m.breaksAt with
    | none => exact hlabels.addValues rows
    | some f =>
      dsimp only
      split
      · exact hlabels
      · exact h

/-- A store before and after samples were written on it. -/
structure Wrote (m : MemoryStore) (samples : List Sample) (m' : MemoryStore) : Prop where
  name : m'.name = m.name
  tables : m'.tables = m.tablesAfter samples
  openStaging : m'.openStaging = m.openStaging
  sessions : ∃ n, m'.acquired = m.acquired + n ∧ m'.released = m.released + n
  fault : m'.fault = m.fault
  delay : m'.delay = m.delay
  unhealthy : m'.unhealthy = m.unhealthy

/-- Samples that are rejected leave the store as it was. -/
theorem wrote_of_rejected {m : MemoryStore} {samples : List Sample} {e : StorageError}
    (h : (stageBatch false samples).1 = .error e) : m.Wrote samples m :=
  ⟨rfl, by simp only [tablesAfter, h], rfl, ⟨0, rfl, rfl⟩, rfl, rfl, rfl⟩

/-- The rows of samples are written, one after another without others in between. -/
theorem wrote_writeRows {m : MemoryStore} {samples : List Sample} {rows : List StagedRow} (hm : m.Mild)
    (h : (stageBatch false samples).1 = .ok rows) :
    (m.writeRows rows).1 = some (m.answerTo samples) ∧ m.Wrote samples (m.writeRows rows).2.1 := by
  obtain ⟨calls, events, hw⟩ := writeRows_spec m rows hm
  rw [hw]
  refine ⟨?_, ⟨rfl, ?_, rfl, ⟨_, rfl, rfl⟩, rfl, rfl, rfl⟩⟩
  · simp only [answerTo, h]
  · simp only [tablesAfter, h]

/-- Writes a batch, one call after the other without others in between. -/
def write (m : MemoryStore) (samples : List Sample) : Option (Except StorageError Unit) × MemoryStore :=
  match (BatchWrite.start false samples).1 with
  | .ok w => ((m.writeRows w.rows).1, (m.writeRows w.rows).2.1)
  | .error e => (some (.error e), m)

theorem write_of_staged {m : MemoryStore} {samples : List Sample} {rows : List StagedRow}
    (h : (stageBatch false samples).1 = .ok rows) : m.write samples = ((m.writeRows rows).1, (m.writeRows rows).2.1) := by
  unfold write BatchWrite.start
  cases hs : stageBatch false samples with
  | mk staged events =>
    rw [hs] at h
    cases h
    rfl

theorem write_of_rejected {m : MemoryStore} {samples : List Sample} {e : StorageError}
    (h : (stageBatch false samples).1 = .error e) : m.write samples = (some (.error e), m) := by
  unfold write BatchWrite.start
  cases hs : stageBatch false samples with
  | mk staged events =>
    rw [hs] at h
    cases h
    rfl

/-- What a write answers and leaves behind. -/
theorem wrote_write {m : MemoryStore} (hm : m.Mild) (samples : List Sample) :
    (m.write samples).1 = some (m.answerTo samples) ∧ m.Wrote samples (m.write samples).2 := by
  cases hs : (stageBatch false samples).1 with
  | ok rows =>
    rw [write_of_staged hs]
    exact wrote_writeRows hm hs
  | error e =>
    have hanswer : m.answerTo samples = .error e := by simp only [answerTo, hs]
    rw [write_of_rejected hs, hanswer]
    exact ⟨rfl, wrote_of_rejected hs⟩

/-- Value rows are only ever added, one for each sample of a write that succeeds and none by a write that fails. -/
theorem length_values_tablesAfter (m : MemoryStore) (samples : List Sample) :
    (m.tablesAfter samples).values.length =
      m.tables.values.length + (match m.answerTo samples with | .ok () => samples.length | .error _ => 0) := by
  unfold tablesAfter answerTo
  cases hs : (stageBatch false samples).1 with
  | error e => rfl
  | ok rows =>
    simp only [writtenTables, writeResult]
    cases hb : m.breaksAt with
    | none => simp [Tables.addValues, length_of_stageBatch hs]
    | some f =>
      simp only
      split
      · simp
      · rfl

end MemoryStore

end Intake
