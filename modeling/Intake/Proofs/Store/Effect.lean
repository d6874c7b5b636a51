import Intake.Proofs.Store.Write

/-!
# Effect: what one write answers and leaves behind

A write comes to one of four ends. A batch with a time that does not fit is rejected before the store is asked. A fault before the value
rows leaves the tables as they were, and a fault at the value rows leaves the label sets of the batch. Otherwise every sample has its
value row (`write_effect`). The tables are compared with what the samples say, and not with the rows that they were staged as:
`Tables.AddsLabels` names the label sets that were missing and `Tables.Shows` says that a value row is that of a sample.
-/

namespace Intake

namespace Tables

/-- A value row is that of a sample: its time, its value with all bits, and the number of its label set. -/
structure Shows (t : Tables) (s : Sample) (row : ValueRow) : Prop where
  time : row.time.millis = s.timestampMs
  value : row.value = s.value
  labels : ∃ id, row.labelsId = some id ∧ t.idOf? s.labelSet = some id

/-- The label rows of `t` stay, and behind them the label sets of the samples that were missing have the next numbers, each once, in the
order in which they appear first. The counter moves past these numbers and no further. -/
structure AddsLabels (t t' : Tables) (samples : List Sample) : Prop where
  labels : t'.labels = t.labels ++ (t.unseen (samples.map Sample.labelSet)).zipIdx t.nextId
  nextId : t'.nextId = t.nextId + (t.unseen (samples.map Sample.labelSet)).length

/-- The value rows of `t` stay, and behind them each sample has one, in the order of the samples. -/
def AddsValues (t t' : Tables) (samples : List Sample) : Prop :=
  ∃ added, t'.values = t.values ++ added ∧ List.Forall₂ t'.Shows samples added

variable {t : Tables} {samples : List Sample} {rows : List StagedRow}

theorem shows_valueRow {s : Sample} {r : StagedRow} (hrow : StagedRow.ofSample? s = some r) (hknown : ∃ id, t.idOf? r.labelSet = some id) :
    t.Shows s (t.valueRow r) := by
  obtain ⟨time, htime, rfl⟩ := Option.map_eq_some_iff.1 hrow
  obtain ⟨id, hid⟩ := hknown
  exact ⟨Instant.millis_of_ofMillis? htime, rfl, id, hid, hid⟩

/-- Where the label sets of rows have numbers, their value rows are those of the samples. -/
theorem shows_valueRows (hrows : List.Forall₂ (fun s r => StagedRow.ofSample? s = some r) samples rows) (hknown : t.Known rows) :
    List.Forall₂ t.Shows samples (rows.map t.valueRow) := by
  induction hrows with
  | nil => exact .nil
  | cons hrow _ ih =>
    exact .cons (shows_valueRow hrow (hknown _ List.mem_cons_self)) (ih fun r hr => hknown r (List.mem_cons_of_mem _ hr))

theorem addsLabels_addLabels (t : Tables) (hrows : (stageBatch false samples).1 = .ok rows) : t.AddsLabels (t.addLabels rows) samples := by
  have hsets := map_labelSet_of_stageBatch hrows
  refine ⟨?_, ?_⟩
  · rw [labels_addLabels, hsets]
  · rw [nextId_addLabels, hsets]

theorem addsValues_addValues (t : Tables) (hrows : (stageBatch false samples).1 = .ok rows) :
    t.AddsValues ((t.addLabels rows).addValues rows) samples := by
  refine ⟨rows.map (t.addLabels rows).valueRow, ?_, ?_⟩
  · rw [addValues, values_addLabels]
  · exact shows_valueRows (t := (t.addLabels rows).addValues rows) (forall₂_of_stageBatch hrows) (t.known_addLabels rows)

end Tables

namespace MemoryStore

/-- What a write of a batch on the store `m` answers and leaves, while a phase fails for a reason or none does. -/
structure Effect (m : MemoryStore) (fault : Option (WritePhase × String)) (samples : List Sample)
    (result : Option (Except StorageError Unit)) (m' : MemoryStore) : Prop where
  /-- A batch is rejected for its first time that does not fit, and the store is not asked. -/
  unfit : ∀ s, firstUnfit? samples = some s →
    result = some (.error (.timestampOutOfRange s.timestampMs)) ∧ m' = m.breakAt fault
  /-- Up to the label sets a fault leaves the tables as they were. -/
  early : ∀ p text, firstUnfit? samples = none → fault = some (p, text) → p ∈ [.acquire, .createStaging, .bulkLoad, .insertLabels] →
    result = some (.error (.backend p text)) ∧ m'.tables = m.tables
  /-- A fault at the value rows leaves the label sets of the batch and no value row. -/
  late : ∀ text, firstUnfit? samples = none → fault = some (.insertValues, text) →
    result = some (.error (.backend .insertValues text)) ∧ m.tables.AddsLabels m'.tables samples ∧ m'.tables.values = m.tables.values
  /-- Without a fault, and with one at the release, the batch is written. -/
  written : firstUnfit? samples = none → (∀ p text, fault = some (p, text) → p = .release) →
    result = some (.ok ()) ∧ m.tables.AddsLabels m'.tables samples ∧ m.tables.AddsValues m'.tables samples
  /-- Where no two label sets have one number and the numbers count up, as they do from an empty store on, they still do. -/
  numbered : m.tables.Numbered → m'.tables.Numbered
  /-- A session that was acquired was released; none is acquired for a batch that is rejected, or when that is what fails. -/
  sessions : ∃ n ≤ 1, m'.acquired = m.acquired + n ∧ m'.released = m.released + n ∧
    (n = 0 ↔ (firstUnfit? samples).isSome ∨ ∃ text, fault = some (.acquire, text))
  /-- No staging table is left open. -/
  staging : m'.openStaging = m.openStaging

variable {m : MemoryStore} {fault : Option (WritePhase × String)} {samples : List Sample} {rows : List StagedRow}

theorem effect_of_unfit {s : Sample} (h : firstUnfit? samples = some s) :
    m.Effect fault samples (some (.error (.timestampOutOfRange s.timestampMs))) (m.breakAt fault) where
  unfit s' hs' := by
    cases h.symm.trans hs'
    exact ⟨rfl, rfl⟩
  early p text hnone := by cases h.symm.trans hnone
  late text hnone := by cases h.symm.trans hnone
  written hnone := by cases h.symm.trans hnone
  numbered := id
  sessions := ⟨0, Nat.zero_le 1, rfl, rfl, by simp [h]⟩
  staging := rfl

/-- A batch whose times fit comes to the end that the fault decides. -/
theorem effect_of_staged (hnone : firstUnfit? samples = none) (hrows : (stageBatch false samples).1 = .ok rows) :
    m.Effect fault samples ((m.breakAt fault).write samples).1 ((m.breakAt fault).write samples).2 := by
  have hlabels := m.tables.addsLabels_addLabels hrows
  have hvalues := m.tables.addsValues_addValues hrows
  obtain ⟨calls, events, hwrite⟩ := writeRows_spec (m.breakAt fault) rows (mild_breakAt fault m)
  rw [write_of_staged hrows, hwrite]
  refine ⟨fun s hs => ?_, fun p text _ hfault hp => ?_, fun text _ hfault => ?_, fun _ hfault => ?_, fun hn => ?_, ?_, rfl⟩
  · cases hnone.symm.trans hs
  · subst hfault
    simp only [List.mem_cons, List.not_mem_nil, or_false] at hp
    rcases hp with rfl | rfl | rfl | rfl <;> exact ⟨rfl, rfl⟩
  · subst hfault
    exact ⟨rfl, ⟨hlabels.labels, hlabels.nextId⟩, Tables.values_addLabels m.tables rows⟩
  · rcases fault with _ | ⟨p, text⟩
    · exact ⟨rfl, ⟨hlabels.labels, hlabels.nextId⟩, hvalues⟩
    · obtain rfl := hfault p text rfl
      exact ⟨rfl, ⟨hlabels.labels, hlabels.nextId⟩, hvalues⟩
  · have hafter := numbered_tablesAfter (m := m.breakAt fault) hn samples
    rw [tablesAfter, hrows] at hafter
    exact hafter
  · rcases fault with _ | ⟨p, text⟩
    · exact ⟨1, Nat.le_refl 1, rfl, rfl, by simp [hnone]⟩
    · cases p with
      | acquire => exact ⟨0, Nat.zero_le 1, rfl, rfl, by simp⟩
      | _ => exact ⟨1, Nat.le_refl 1, rfl, rfl, by simp [hnone]⟩

/-- Whatever the store holds, whatever the batch and whichever phase fails: value rows are added for all samples of the batch or for
none, label rows for exactly the label sets that were missing or for none, and a session that was acquired is released. -/
theorem write_effect (m : MemoryStore) (fault : Option (WritePhase × String)) (samples : List Sample) :
    m.Effect fault samples ((m.breakAt fault).write samples).1 ((m.breakAt fault).write samples).2 := by
  cases hfirst : firstUnfit? samples with
  | some s =>
    rw [write_of_rejected (stageBatch_of_firstUnfit false hfirst)]
    exact effect_of_unfit hfirst
  | none =>
    obtain ⟨rows, hrows⟩ := stageBatch_of_fit false (fits_of_firstUnfit_none hfirst)
    exact effect_of_staged hfirst hrows

end MemoryStore

end Intake
