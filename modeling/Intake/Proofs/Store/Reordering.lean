import Mathlib.Data.List.Perm.Basic
import Mathlib.Logic.Equiv.Basic
import Intake.Proofs.Series.Labels
import Intake.Proofs.Store.Resubmission

/-!
# Reordering: a batch that is cut in two, or sent in another order

It makes no difference whether samples arrive in one batch or in two (`addValues_addLabels_append`). Their order does make one: label
sets get their numbers as they appear, and value rows stand as they were sent. But that is all it makes. In another order the same
label sets are added, with the numbers exchanged among them (`exists_renumbering`), and the same value rows, with the numbers
exchanged in the same way (`batches_rearranged`).
-/

namespace Intake

/-- A value row when its label set has another number. -/
def ValueRow.renumber (σ : Equiv.Perm Nat) (row : ValueRow) : ValueRow := { row with labelsId := row.labelsId.map σ }

namespace Tables

variable {t u : Tables} {rows rows' : List StagedRow}

/-! ## A batch in two parts -/

/-- The value row of a staged row depends on the label rows only. -/
theorem valueRow_congr (h : u.labels = t.labels) : u.valueRow = t.valueRow := by
  funext r
  rw [valueRow, valueRow, idOf?, idOf?, h]

/-- Value rows make no difference to the label sets that are added and to their numbers. -/
theorem labels_addLabels_addValues (t : Tables) (a b : List StagedRow) :
    ((t.addValues a).addLabels b).labels = (t.addLabels b).labels := by
  rw [labels_addLabels, labels_addLabels]
  rfl

/-- Nor to how far the counter moves. -/
theorem nextId_addLabels_addValues (t : Tables) (a b : List StagedRow) :
    ((t.addValues a).addLabels b).nextId = (t.addLabels b).nextId := by
  rw [nextId_addLabels, nextId_addLabels]
  rfl

/-- Rows are stored like their two parts, one after the other. -/
theorem addValues_addLabels_append (t : Tables) (a b : List StagedRow) :
    (t.addLabels (a ++ b)).addValues (a ++ b) = (((t.addLabels a).addValues a).addLabels b).addValues b := by
  have happend : t.addLabels (a ++ b) = (t.addLabels a).addLabels b := List.foldl_append
  have hlabels := labels_addLabels_addValues (t.addLabels a) a b
  refine Tables.ext ?_ ?_ ?_
  · rw [labels_addValues, labels_addValues, hlabels, happend]
  · -- The rows of the first part find the numbers that they had before the second part was added.
    have hfirst := map_valueRow_of_grows (t.known_addLabels a) (grows_addLabels (t.addLabels a) b)
    rw [happend, addValues, addValues, values_addLabels, values_addLabels, values_addLabels, valueRow_congr hlabels,
      List.map_append, hfirst, addValues, values_addLabels, List.append_assoc]
  · rw [nextId_addValues, nextId_addValues, nextId_addLabels_addValues, happend]

/-! ## A batch in another order -/

/-- In another order the same things get the same numbers, exchanged among them; all other numbers stay. -/
theorem exists_renumbering {α : Type} {l l' : List α} (h : l.Perm l') (n : Nat) :
    ∃ σ : Equiv.Perm Nat, (∀ k, k < n ∨ n + l.length ≤ k → σ k = k) ∧ (l'.zipIdx n).Perm ((l.zipIdx n).map (Prod.map id σ)) := by
  induction h generalizing n with
  | nil => exact ⟨Equiv.refl Nat, fun _ _ => rfl, .nil⟩
  | @cons x l₁ l₂ _ ih =>
    obtain ⟨σ, hfixed, hperm⟩ := ih (n + 1)
    have hn : σ n = n := hfixed n (Or.inl (Nat.lt_succ_self n))
    refine ⟨σ, fun k hk => hfixed k ?_, ?_⟩
    · rw [List.length_cons] at hk
      omega
    · rw [List.zipIdx_cons, List.zipIdx_cons, List.map_cons, Prod.map_apply, hn]
      exact hperm.cons (x, n)
  | swap x y l =>
    have hrest : (l.zipIdx (n + 1 + 1)).map (Prod.map id (Equiv.swap n (n + 1))) = l.zipIdx (n + 1 + 1) := by
      refine (List.map_congr_left fun p hp => ?_).trans (List.map_id _)
      have hle := (List.mem_zipIdx (x := p.1) (i := p.2) hp).1
      have hp2 : Equiv.swap n (n + 1) p.2 = p.2 := Equiv.swap_apply_of_ne_of_ne (by omega) (by omega)
      rw [Prod.map, hp2]
      rfl
    refine ⟨Equiv.swap n (n + 1), fun k hk => ?_, ?_⟩
    · rw [List.length_cons, List.length_cons] at hk
      exact Equiv.swap_apply_of_ne_of_ne (by omega) (by omega)
    · simp only [List.zipIdx_cons, List.map_cons, Prod.map_apply, Equiv.swap_apply_left, Equiv.swap_apply_right, hrest]
      exact .swap _ _ _
  | @trans l₁ l₂ l₃ h₁ _ ih₁ ih₂ =>
    obtain ⟨σ, hσ, hperm₁⟩ := ih₁ n
    obtain ⟨τ, hτ, hperm₂⟩ := ih₂ n
    refine ⟨σ.trans τ, fun k hk => ?_, ?_⟩
    · rw [Equiv.trans_apply, hσ k hk, hτ k (h₁.length_eq ▸ hk)]
    · refine hperm₂.trans ((hperm₁.map _).trans (List.Perm.of_eq ?_))
      rw [List.map_map]
      rfl

/-- Where nothing stands twice, in another order everything has the number that was exchanged for its own. -/
theorem lookup_renumbered {l l' : List LabelSet} {n : Nat} {σ : Equiv.Perm Nat} (hl : l.Nodup) (hl' : l'.Nodup)
    (h : (l'.zipIdx n).Perm ((l.zipIdx n).map (Prod.map id σ))) (s : LabelSet) :
    (l'.zipIdx n).lookup s = ((l.zipIdx n).lookup s).map σ := by
  have hmem : ∀ {k : List LabelSet}, k.Nodup → ∀ s id, (k.zipIdx n).lookup s = some id ↔ (s, id) ∈ k.zipIdx n := by
    intro k hk s id
    have hkeys : ((k.zipIdx n).map Prod.fst).Nodup := by
      rw [List.zipIdx_map_fst]
      exact hk
    exact Labels.lookup_eq_some_iff_mem hkeys
  refine Option.ext fun id => ?_
  rw [hmem hl', h.mem_iff, List.mem_map, Option.map_eq_some_iff]
  constructor
  · rintro ⟨p, hp, he⟩
    cases he
    exact ⟨p.2, (hmem hl p.1 p.2).2 hp, rfl⟩
  · rintro ⟨k, hk, rfl⟩
    exact ⟨(s, k), (hmem hl s k).1 hk, rfl⟩

theorem nodup_eraseDups (sets : List LabelSet) : sets.eraseDups.Nodup := by
  -- What is left after the first label set is shorter, as all that are equal to it are gone.
  suffices h : ∀ n, ∀ l : List LabelSet, l.length ≤ n → l.eraseDups.Nodup from h _ sets (Nat.le_refl _)
  intro n
  induction n with
  | zero =>
    intro l hl
    rw [List.length_eq_zero_iff.1 (Nat.le_zero.1 hl)]
    exact List.nodup_nil
  | succ n ih =>
    intro l hl
    cases l with
    | nil => exact List.nodup_nil
    | cons s rest =>
      rw [List.eraseDups_cons, List.nodup_cons]
      refine ⟨?_, ih _ (Nat.le_trans (List.length_filter_le _ _) (Nat.le_of_succ_le_succ hl))⟩
      rw [List.mem_eraseDups, List.mem_filter]
      simp

theorem nodup_unseen (t : Tables) (sets : List LabelSet) : (t.unseen sets).Nodup := nodup_eraseDups _

/-- In another order the same label sets are missing. -/
theorem unseen_perm (t : Tables) {sets sets' : List LabelSet} (h : sets.Perm sets') : (t.unseen sets).Perm (t.unseen sets') := by
  refine (List.perm_ext_iff_of_nodup (nodup_unseen t sets) (nodup_unseen t sets')).2 fun s => ?_
  rw [mem_unseen, mem_unseen, h.mem_iff]

/-- Tables `u` and `u'` that grew from `t` are the same but for the order of the rows that were added, and for the numbers of the label
sets among them, which `σ` exchanges. -/
structure Reordered (t u u' : Tables) (σ : Equiv.Perm Nat) : Prop where
  /-- The numbers that label sets had before stay. -/
  earlier : ∀ row ∈ t.labels, σ row.2 = row.2
  /-- Only numbers that were given meanwhile are exchanged, so `σ` is a bijection on these. -/
  others : ∀ id, id < t.nextId ∨ u.nextId ≤ id → σ id = id
  nextId : u'.nextId = u.nextId
  labels : ∃ added added', u.labels = t.labels ++ added ∧ u'.labels = t.labels ++ added' ∧ added'.Perm (added.map (Prod.map id σ))
  values : ∃ added added', u.values = t.values ++ added ∧ u'.values = t.values ++ added' ∧ added'.Perm (added.map (ValueRow.renumber σ))

/-- Rows in another order leave the same tables, up to the order of what they add and the numbers that they give. -/
theorem exists_reordered (ht : t.Numbered) (h : rows.Perm rows') :
    ∃ σ, t.Reordered ((t.addLabels rows).addValues rows) ((t.addLabels rows').addValues rows') σ := by
  have hsets := h.map StagedRow.labelSet
  have hlabels := labels_addLabels t rows
  have hlabels' := labels_addLabels t rows'
  obtain ⟨σ, hfixed, hperm⟩ := exists_renumbering (unseen_perm t hsets) t.nextId
  have hnext := nextId_addLabels t rows
  have hnext' := nextId_addLabels t rows'
  have hearlier : ∀ row ∈ t.labels, σ row.2 = row.2 := fun row hrow => hfixed _ (Or.inl (ht.lt_nextId hrow))
  have hid : ∀ s, (t.addLabels rows').idOf? s = ((t.addLabels rows).idOf? s).map σ := by
    intro s
    rw [idOf?, idOf?, hlabels, hlabels', List.lookup_append, List.lookup_append,
      lookup_renumbered (nodup_unseen t _) (nodup_unseen t _) hperm]
    cases hs : t.labels.lookup s with
    | none => rfl
    | some id => exact congrArg some (hearlier (s, id) (mem_labels_of_idOf? hs)).symm
  have hrow : ∀ r, (t.addLabels rows').valueRow r = ((t.addLabels rows).valueRow r).renumber σ := by
    intro r
    rw [valueRow, hid]
    rfl
  refine ⟨σ, hearlier, fun id hid => hfixed id ?_, ?_, ⟨_, _, hlabels, hlabels', hperm⟩, ?_⟩
  · rw [nextId_addValues, hnext] at hid
    exact hid
  · rw [nextId_addValues, nextId_addValues, hnext, hnext', (unseen_perm t hsets).length_eq]
  · refine ⟨_, _, by rw [addValues, values_addLabels], by rw [addValues, values_addLabels], ?_⟩
    rw [List.map_map]
    exact (h.symm.map _).trans (List.Perm.of_eq (List.map_congr_left fun r _ => hrow r))

end Tables

namespace MemoryStore

/-- The states that a store gets into: it begins with empty tables, and calls are performed, of any sessions in any order and whichever
of them fail; besides the calls, nothing touches the tables. -/
inductive Reached : MemoryStore → Prop where
  | begun {m : MemoryStore} (h : m.tables = Tables.empty) : Reached m
  | performed {m : MemoryStore} (h : Reached m) (s : MemorySession) (p : WritePhase) (rows : List StagedRow) :
      Reached (m.perform s p rows).2.2
  | besides {m m' : MemoryStore} (h : Reached m) (htables : m'.tables = m.tables) : Reached m'

/-- A call leaves the label rows numbered. -/
theorem numbered_perform {m : MemoryStore} (h : m.tables.Numbered) (s : MemorySession) (p : WritePhase) (rows : List StagedRow) :
    (m.perform s p rows).2.2.tables.Numbered := by
  rcases state_perform m s p rows with hstate | hstate
  · rw [hstate]
    obtain ⟨staging⟩ := s
    cases p with
    | insertLabels =>
      cases staging with
      | none => exact h
      | some staged => exact h.addLabels staged
    | insertValues =>
      cases staging with
      | none => exact h
      | some staged => exact h.addValues staged
    | _ => cases staging <;> exact h
  · rw [hstate]
    exact h

/-- So they are in every state that a store gets into. -/
theorem Reached.numbered {m : MemoryStore} (h : m.Reached) : m.tables.Numbered := by
  induction h with
  | begun h =>
    rw [h]
    exact Tables.numbered_empty
  | performed _ s p rows ih => exact numbered_perform ih s p rows
  | besides _ htables ih =>
    rw [htables]
    exact ih

end MemoryStore

/-! ## What is written -/

/-- The rows of a batch are known from those of its samples. -/
theorem rows_of_stageBatch {samples : List Sample} {rows rows' : List StagedRow} (h : (stageBatch false samples).1 = .ok rows)
    (h' : samples.map StagedRow.ofSample? = rows'.map some) : rows = rows' :=
  List.map_injective_iff.2 (Option.some_injective StagedRow) ((map_ofSample?_of_stageBatch h).symm.trans h')

/-- Samples in another order are staged as the same rows in another order. -/
theorem perm_of_stageBatch {samples samples' : List Sample} {rows rows' : List StagedRow} (hperm : samples.Perm samples')
    (h : (stageBatch false samples).1 = .ok rows) (h' : (stageBatch false samples').1 = .ok rows') : rows.Perm rows' := by
  have hrows := hperm.map StagedRow.ofSample?
  rw [map_ofSample?_of_stageBatch h, map_ofSample?_of_stageBatch h'] at hrows
  exact (List.map_perm_map_iff (Option.some_injective StagedRow)).1 hrows

namespace MemoryStore

variable {m : MemoryStore} {a b p : List Sample} {rows : List StagedRow}

/-- A store without a fault writes a staged batch, and has none afterwards. -/
theorem write_of_fit (hm : m.fault = none) (hrows : (stageBatch false a).1 = .ok rows) :
    (m.write a).1 = some (.ok ()) ∧ (m.write a).2.tables = (m.tables.addLabels rows).addValues rows ∧ (m.write a).2.fault = none := by
  have hmended : m.breakAt none = m := by rw [breakAt, Option.map_none, ← hm]
  obtain ⟨hanswer, hwrote⟩ := wrote_write (mild_breakAt none m) a
  rw [answerTo_mended hrows, hmended] at hanswer
  have htables := hwrote.tables
  rw [tablesAfter_mended hrows, hmended] at htables
  have hfault := hwrote.fault
  rw [hmended] at hfault
  exact ⟨hanswer, htables, hfault.trans hm⟩

/-- Batches `a` and `b` are stored one after the other as they are in one batch. -/
structure StoredAsOne (m : MemoryStore) (a b : List Sample) : Prop where
  together : (m.write (a ++ b)).1 = some (.ok ())
  first : (m.write a).1 = some (.ok ())
  second : ((m.write a).2.write b).1 = some (.ok ())
  /-- The label rows with their numbers are the same, and so are the value rows. -/
  labels : (m.write (a ++ b)).2.tables.labels = ((m.write a).2.write b).2.tables.labels
  values : (m.write (a ++ b)).2.tables.values = ((m.write a).2.write b).2.tables.values
  /-- The counter stands at the same number. -/
  nextId : (m.write (a ++ b)).2.tables.nextId = ((m.write a).2.write b).2.tables.nextId

/-- Batch `p` is stored as batch `a` is, up to the order of the rows that are added and to the numbers of new label sets. -/
structure StoredAlike (m : MemoryStore) (a p : List Sample) : Prop where
  written : (m.write a).1 = some (.ok ())
  rearranged : (m.write p).1 = some (.ok ())
  tables : ∃ σ, m.tables.Reordered (m.write a).2.tables (m.write p).2.tables σ

theorem storedAsOne (hm : m.fault = none) (hfit : ∀ s ∈ a ++ b, (Instant.ofMillis? s.timestampMs).isSome) : m.StoredAsOne a b := by
  obtain ⟨rows, hrows⟩ := stageBatch_of_fit false hfit
  obtain ⟨front, hfront⟩ := stageBatch_of_fit false fun s hs => hfit s (List.mem_append_left b hs)
  obtain ⟨back, hback⟩ := stageBatch_of_fit false fun s hs => hfit s (List.mem_append_right a hs)
  obtain rfl : rows = front ++ back := by
    refine rows_of_stageBatch hrows ?_
    rw [List.map_append, List.map_append, map_ofSample?_of_stageBatch hfront, map_ofSample?_of_stageBatch hback]
  obtain ⟨htogether, hall, -⟩ := write_of_fit hm hrows
  obtain ⟨hfirst, hhalf, hmended⟩ := write_of_fit hm hfront
  obtain ⟨hsecond, hlast, -⟩ := write_of_fit hmended hback
  have htables : (m.write (a ++ b)).2.tables = ((m.write a).2.write b).2.tables := by
    rw [hall, hlast, hhalf, Tables.addValues_addLabels_append]
  refine ⟨htogether, hfirst, hsecond, ?_, ?_, ?_⟩ <;> rw [htables]

theorem storedAlike (hm : m.fault = none) (ht : m.tables.Numbered) (hperm : a.Perm p)
    (hfit : ∀ s ∈ a, (Instant.ofMillis? s.timestampMs).isSome) : m.StoredAlike a p := by
  obtain ⟨rows, hrows⟩ := stageBatch_of_fit false hfit
  obtain ⟨rows', hrows'⟩ := stageBatch_of_fit false fun s hs => hfit s (hperm.mem_iff.2 hs)
  obtain ⟨hwritten, htables, -⟩ := write_of_fit hm hrows
  obtain ⟨hrearranged, htables', -⟩ := write_of_fit hm hrows'
  refine ⟨hwritten, hrearranged, ?_⟩
  rw [htables, htables']
  exact Tables.exists_reordered ht (perm_of_stageBatch hperm hrows hrows')

/-- Where nothing fails, a call has its effect. -/
theorem perform_of_no_fault (hm : m.fault = none) (s : MemorySession) (p : WritePhase) (rows : List StagedRow) :
    m.perform s p rows = m.effect s p rows := by
  unfold perform faultOf
  rw [hm]
  rfl

/-- A store gets into the state that a batch leaves, by the two calls that insert its rows. -/
theorem Reached.write (h : m.Reached) (hm : m.fault = none) (hrows : (stageBatch false a).1 = .ok rows) : (m.write a).2.Reached := by
  have hlabels : (m.perform ⟨some rows⟩ .insertLabels []).2.2 = { m with tables := m.tables.addLabels rows } := by
    rw [perform_of_no_fault hm]
    rfl
  have hlabelled : Reached { m with tables := m.tables.addLabels rows } := hlabels ▸ h.performed ⟨some rows⟩ .insertLabels []
  have hfault : MemoryStore.fault { m with tables := m.tables.addLabels rows } = none := hm
  refine (hlabelled.performed ⟨some rows⟩ .insertValues []).besides ?_
  rw [(write_of_fit hm hrows).2.1, perform_of_no_fault hfault]
  rfl

/-- In every state of the store, while nothing fails: two batches leave what one batch of both leaves, and a batch in another order
leaves the same value rows in another order and the same label sets, the new ones with their numbers exchanged. -/
theorem batches_rearranged (m : MemoryStore) (hm : m.fault = none) :
    (∀ a b : List Sample, (∀ s ∈ a ++ b, (Instant.ofMillis? s.timestampMs).isSome) → m.StoredAsOne a b) ∧
      (m.Reached → ∀ a p : List Sample, a.Perm p → (∀ s ∈ a, (Instant.ofMillis? s.timestampMs).isSome) → m.StoredAlike a p) :=
  ⟨fun _ _ hfit => storedAsOne hm hfit, fun hreached _ _ hperm hfit => storedAlike hm hreached.numbered hperm hfit⟩

/-- A sample of a series with a name. -/
def namedSample (name : String) : Sample := { labels := Labels.ofPairs [("__name__", name)], value := ⟨0⟩, timestampMs := 0 }

/-- A store that has the series without labels. -/
def seededStore : MemoryStore := (({ name := "memory" } : MemoryStore).write [bareSample]).2

/-- Two new series, one of them twice, and one that the store has. -/
def mixedBatch : List Sample := [namedSample "up", bareSample, namedSample "down", namedSample "up"]

/-- The two new series get the numbers 2 and 3, and the other way round if the batch is turned over; the next one would get 4. -/
theorem batches_rearranged_mixedBatch :
    seededStore.fault = none ∧ seededStore.Reached ∧
      (∀ s ∈ mixedBatch ++ mixedBatch.reverse, (Instant.ofMillis? s.timestampMs).isSome) ∧
      (seededStore.write mixedBatch).2.tables.values.map ValueRow.labelsId = [some 1, some 2, some 1, some 3, some 2] ∧
      (seededStore.write mixedBatch.reverse).2.tables.values.map ValueRow.labelsId = [some 1, some 2, some 3, some 1, some 2] ∧
      (seededStore.write (mixedBatch ++ mixedBatch.reverse)).2.tables.nextId = 4 ∧
      seededStore.StoredAsOne mixedBatch mixedBatch.reverse ∧ seededStore.StoredAlike mixedBatch mixedBatch.reverse := by
  have hseed : ∀ s ∈ [bareSample], (Instant.ofMillis? s.timestampMs).isSome := by
    intro s hs
    rw [List.mem_singleton.1 hs]
    rfl
  obtain ⟨rows, hrows⟩ := stageBatch_of_fit false hseed
  have hfault : seededStore.fault = none := (write_of_fit rfl hrows).2.2
  have hreached : seededStore.Reached := Reached.write (.begun rfl) rfl hrows
  have hfit : ∀ s ∈ mixedBatch ++ mixedBatch.reverse, (Instant.ofMillis? s.timestampMs).isSome := by
    intro s hs
    simp only [mixedBatch, List.reverse_cons, List.reverse_nil, List.nil_append, List.cons_append, List.mem_cons, List.not_mem_nil,
      or_false] at hs
    rcases hs with rfl | rfl | rfl | rfl | rfl | rfl | rfl | rfl <;> rfl
  obtain ⟨hsplit, horder⟩ := batches_rearranged seededStore hfault
  exact ⟨hfault, hreached, hfit, by decide +kernel, by decide +kernel, by decide +kernel, hsplit mixedBatch mixedBatch.reverse hfit,
    horder hreached mixedBatch mixedBatch.reverse (List.reverse_perm mixedBatch).symm fun s hs =>
      hfit s (List.mem_append_left mixedBatch.reverse hs)⟩

end MemoryStore

end Intake
