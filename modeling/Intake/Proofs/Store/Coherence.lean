import Mathlib.Algebra.Order.Ring.Nat
import Intake.Proofs.Store.Interleaving

/-!
# Coherence: what every interleaving of writes keeps

Whatever the order of the calls and whichever of them fail: a label set has one number, which it keeps; the value rows are those of
the writes that got to insert them, each with the number of its own label set; a staging table is open for each write that is between
its creation and the release, and a session is out for each that holds one. When all writes have returned, nothing is open and the
value rows are those of the writes that succeeded (`Settled`).
-/

namespace Intake

namespace WriteCall

variable {t : Tables} {c : WriteCall}

/-- The rows that a sound write has stored are the rows of its batch. -/
theorem Sound.exists_sample (h : c.Sound t) {r : StagedRow} (hr : r ∈ c.stored) :
    ∃ s ∈ c.samples, StagedRow.ofSample? s = some r := by
  cases h with
  | inserted n hrows hknown =>
    simp only [stored, rows, hrows] at hr
    exact exists_sample_of_stageBatch hrows hr
  | written hrows hknown =>
    simp only [stored, rows, hrows] at hr
    exact exists_sample_of_stageBatch hrows hr
  | _ => cases hr

/-- A sound write that has not returned its session holds it. -/
theorem Sound.acquired_eq (h : c.Sound t) : c.acquired = c.released + c.holds.toNat := by
  cases h <;> rfl

theorem Sound.acquired_le_one (h : c.Sound t) : c.acquired ≤ 1 := by
  cases h with
  | rejected e sessions hsessions => exact hsessions
  | acquire _ => exact Nat.zero_le 1
  | _ => exact Nat.le_refl 1

end WriteCall

namespace SharedStore

/-! ## Invariant -/

/-- What holds in every state. -/
structure Inv (e : SharedStore) : Prop where
  mild : e.store.Mild
  numbered : e.store.tables.Numbered
  sound : ∀ c ∈ e.calls, c.Sound e.store.tables
  values : e.store.tables.values.Perm ((e.calls.flatMap WriteCall.stored).map e.store.tables.valueRow)
  staging : e.store.openStaging = (e.calls.map fun c => c.stages.toNat).sum
  acquired : e.store.acquired = (e.calls.map WriteCall.acquired).sum
  released : e.store.released = (e.calls.map WriteCall.released).sum

variable {e : SharedStore}

theorem inv_start (name : String) : (start name).Inv := by
  refine ⟨?_, Tables.numbered_empty, ?_, List.Perm.nil, rfl, rfl, rfl⟩
  · intro f hf
    cases hf
  · intro c hc
    cases hc

/-- The stored rows of all writes are known. -/
theorem Inv.known (h : e.Inv) : e.store.tables.Known (e.calls.flatMap WriteCall.stored) := by
  intro r hr
  obtain ⟨c, hc, hrc⟩ := List.mem_flatMap.1 hr
  exact (h.sound c hc).known_stored r hrc

/-- A write that has done nothing joins the others. -/
theorem Inv.append (h : e.Inv) (log : List StoreCall) {c : WriteCall} (hc : c.Sound e.store.tables) (hstored : c.stored = [])
    (hstages : c.stages = false) (hacquired : c.acquired = 0) (hreleased : c.released = 0) :
    Inv { store := { e.store with calls := log }, calls := e.calls ++ [c] } := by
  refine ⟨h.mild, h.numbered, ?_, ?_, ?_, ?_, ?_⟩
  · intro c' hc'
    obtain hc' | hc' := List.mem_append.1 hc'
    · exact h.sound c' hc'
    · rw [List.mem_singleton.1 hc']
      exact hc
  · simpa [hstored] using h.values
  · simpa [hstages] using h.staging
  · simpa [hacquired] using h.acquired
  · simpa [hreleased] using h.released

theorem Inv.submit (h : e.Inv) (dump : Bool) (samples : List Sample) : (e.submit dump samples).Inv := by
  have hfst := stageBatch_fst dump samples
  unfold SharedStore.submit BatchWrite.start
  cases hs : stageBatch dump samples with
  | mk result events =>
    rw [hs] at hfst
    cases result with
    | ok rows => exact h.append _ (.acquire hfst.symm) rfl rfl rfl rfl
    | error err => exact h.append _ (.rejected err 0 (Nat.zero_le 1)) rfl rfl rfl rfl

/-- A fault changes nothing but the calls to come. -/
theorem Inv.fault (h : e.Inv) (phase : Option (WritePhase × String)) : Inv { e with store := e.store.breakAt phase } := by
  exact ⟨MemoryStore.mild_breakAt phase e.store, h.numbered, h.sound, h.values, h.staging, h.acquired, h.released⟩

/-- A call of one write keeps the others in step: the tables only grow, and the store counts what the write counts. -/
theorem Inv.replace {m m' : MemoryStore} {before after : List WriteCall} {c c' : WriteCall}
    (h : Inv { store := m, calls := before ++ c :: after }) (ha : c.Advances m m' c') :
    Inv { store := m', calls := before ++ c' :: after } := by
  have hmem : ∀ d, d ∈ before ∨ d ∈ after → d ∈ before ++ c :: after := by
    rintro d (hd | hd)
    · exact List.mem_append_left _ hd
    · exact List.mem_append_right _ (List.mem_cons_of_mem c hd)
  refine ⟨?_, ha.numbered h.numbered, ?_, ?_, ?_, ?_, ?_⟩
  · intro f hf
    exact h.mild f (ha.fault ▸ hf)
  · intro d hd
    obtain hd | hd := List.mem_append.1 hd
    · exact (h.sound d (hmem d (Or.inl hd))).grows ha.grows
    · obtain rfl | hd := List.mem_cons.1 hd
      · exact ha.sound
      · exact (h.sound d (hmem d (Or.inr hd))).grows ha.grows
  · obtain ⟨more, hvalues, hstored⟩ := ha.values
    have hknown := Tables.map_valueRow_of_grows h.known ha.grows
    have hbefore := h.values
    rw [← hknown] at hbefore
    simp only at hbefore ⊢
    rw [hvalues]
    simp only [List.flatMap_append, List.flatMap_cons, List.map_append, hstored, List.append_assoc] at hbefore ⊢
    refine (hbefore.append_right _).trans ?_
    simp only [List.append_assoc]
    exact (List.perm_append_comm.append_left _).append_left _
  · have h1 := h.staging
    have h2 := ha.staging
    simp only [List.map_append, List.map_cons, List.sum_append_nat, List.sum_cons] at h1 ⊢
    omega
  · have h1 := h.acquired
    have h2 := ha.acquired
    simp only [List.map_append, List.map_cons, List.sum_append_nat, List.sum_cons] at h1 ⊢
    omega
  · have h1 := h.released
    have h2 := ha.released
    simp only [List.map_append, List.map_cons, List.sum_append_nat, List.sum_cons] at h1 ⊢
    omega

/-- The writes with one of them singled out. -/
theorem exists_split {k : Nat} {c : WriteCall} (hk : e.calls[k]? = some c) :
    ∃ before after, e.calls = before ++ c :: after ∧ ∀ c', e.calls.set k c' = before ++ c' :: after := by
  obtain ⟨hlt, rfl⟩ := List.getElem?_eq_some_iff.1 hk
  refine ⟨e.calls.take k, e.calls.drop (k + 1), ?_, ?_⟩
  · simp
  · intro c'
    simp [List.set_eq_take_append_cons_drop, hlt]

/-- What a call of any write does. -/
theorem Inv.advances (h : e.Inv) {k : Nat} {c : WriteCall} (hk : e.calls[k]? = some c) :
    c.Advances e.store (c.advance e.store).1 (c.advance e.store).2 := by
  obtain ⟨before, after, hcalls, -⟩ := exists_split hk
  have hopen := h.staging
  rw [hcalls] at hopen
  simp only [List.map_append, List.map_cons, List.sum_append_nat, List.sum_cons] at hopen
  exact (h.sound c (List.mem_of_getElem? hk)).advances h.mild (by omega)

/-- One move, whatever it is. -/
theorem Inv.step (h : e.Inv) (move : Move) : (e.step move).Inv := by
  cases move with
  | submit dump samples => exact h.submit dump samples
  | fault phase => exact h.fault phase
  | advance k =>
    cases hk : e.calls[k]? with
    | none =>
      simp only [SharedStore.step, hk]
      exact h
    | some c =>
      obtain ⟨before, after, hcalls, hset⟩ := exists_split hk
      have ha := h.advances hk
      obtain ⟨store, calls⟩ := e
      simp only [SharedStore.step, hk, hset]
      simp only at hcalls
      subst hcalls
      exact h.replace ha

theorem Inv.run (h : e.Inv) (moves : List Move) : (e.run moves).Inv := by
  unfold SharedStore.run
  induction moves generalizing e with
  | nil => exact h
  | cons move rest ih => exact ih (h.step move)

/-- Label sets are only ever added. -/
theorem Inv.grows_step (h : e.Inv) (move : Move) : e.store.tables.Grows (e.step move).store.tables := by
  cases move with
  | submit dump samples =>
    simp only [SharedStore.step, SharedStore.submit]
    split <;> exact Tables.Grows.refl _
  | fault phase => exact Tables.Grows.refl _
  | advance k =>
    cases hk : e.calls[k]? with
    | none =>
      simp only [SharedStore.step, hk]
      exact Tables.Grows.refl _
    | some c =>
      simp only [SharedStore.step, hk]
      exact (h.advances hk).grows

theorem Inv.grows_run (h : e.Inv) (moves : List Move) : e.store.tables.Grows (e.run moves).store.tables := by
  unfold SharedStore.run
  induction moves generalizing e with
  | nil => exact Tables.Grows.refl _
  | cons move rest ih => exact (h.grows_step move).trans (ih (h.step move))

/-! ## What a client sees -/

/-- What the tables and the counts of a store say about the writes on it. -/
structure Coherent (e : SharedStore) : Prop where
  /-- A label set has one label row at most. -/
  sets : (e.store.tables.labels.map Prod.fst).Nodup
  ids : (e.store.tables.labels.map Prod.snd).Nodup
  /-- The value rows are those that the writes inserted, each once. -/
  values : e.store.tables.values.Perm ((e.calls.flatMap WriteCall.stored).map e.store.tables.valueRow)
  /-- A row that a write inserted is that of one of its samples, and its value row has the number of the label set of that sample. -/
  owned : ∀ c ∈ e.calls, ∀ r ∈ c.stored, ∃ s ∈ c.samples, StagedRow.ofSample? s = some r ∧
    ∃ id, (s.labelSet, id) ∈ e.store.tables.labels ∧ e.store.tables.valueRow r = ⟨r.time, r.value, some id⟩
  staging : e.store.openStaging = e.calls.countP WriteCall.stages
  sessions : e.store.acquired = e.store.released + e.calls.countP WriteCall.holds

/-- What is left when all writes have returned. -/
structure Settled (e : SharedStore) : Prop where
  staging : e.store.openStaging = 0
  acquired : e.store.acquired = (e.calls.map WriteCall.acquired).sum
  released : e.store.released = (e.calls.map WriteCall.released).sum
  /-- Every session was released once. -/
  once : ∀ c ∈ e.calls, c.acquired ≤ 1 ∧ c.released = c.acquired
  /-- The value rows are those of the writes that succeeded, each once, and nothing else. -/
  values : e.store.tables.values.Perm
    (((e.calls.filter WriteCall.succeeded).flatMap WriteCall.rows).map e.store.tables.valueRow)
  staged : ∀ c ∈ e.calls, c.succeeded → (stageBatch false c.samples).1 = .ok c.rows

theorem sum_toNat_eq_countP (f : WriteCall → Bool) (calls : List WriteCall) :
    (calls.map fun c => (f c).toNat).sum = calls.countP f := by
  induction calls with
  | nil => rfl
  | cons c rest ih =>
    rw [List.map_cons, List.sum_cons, ih, List.countP_cons, Nat.add_comm]
    cases f c <;> rfl

/-- The sessions that were acquired are those that were released and those that are held. -/
theorem sum_acquired {t : Tables} {calls : List WriteCall} (h : ∀ c ∈ calls, c.Sound t) :
    (calls.map WriteCall.acquired).sum = (calls.map WriteCall.released).sum + calls.countP WriteCall.holds := by
  induction calls with
  | nil => rfl
  | cons c rest ih =>
    have hc := (h c List.mem_cons_self).acquired_eq
    have hrest := ih fun d hd => h d (List.mem_cons_of_mem c hd)
    rw [← sum_toNat_eq_countP] at hrest ⊢
    simp only [List.map_cons, List.sum_cons]
    omega

/-- The rows that writes which have returned stored are those of the successful ones. -/
theorem flatMap_stored_of_returned {calls : List WriteCall} (h : ∀ c ∈ calls, c.returned = true) :
    calls.flatMap WriteCall.stored = (calls.filter WriteCall.succeeded).flatMap WriteCall.rows := by
  induction calls with
  | nil => rfl
  | cons c rest ih =>
    have hrest := ih fun d hd => h d (List.mem_cons_of_mem c hd)
    have hc := h c List.mem_cons_self
    obtain ⟨samples, state, acquired, released⟩ := c
    cases state with
    | running w s => cases hc
    | returned result =>
      cases result with
      | ok u =>
        rw [List.flatMap_cons, hrest]
        rfl
      | error err => exact hrest

theorem Inv.coherent (h : e.Inv) : Coherent e := by
  refine ⟨h.numbered.sets, h.numbered.nodup_ids, h.values, ?_, ?_, ?_⟩
  · intro c hc r hr
    obtain ⟨s, hs, hrow⟩ := (h.sound c hc).exists_sample hr
    obtain ⟨id, hid⟩ := (h.sound c hc).known_stored r hr
    have hset : r.labelSet = s.labelSet := by
      obtain ⟨t, -, rfl⟩ := Option.map_eq_some_iff.1 hrow
      rfl
    refine ⟨s, hs, hrow, id, ?_, ?_⟩
    · rw [← hset]
      exact Tables.mem_labels_of_idOf? hid
    · rw [Tables.valueRow, hid]
  · rw [h.staging, sum_toNat_eq_countP]
  · rw [h.acquired, h.released, sum_acquired h.sound]

theorem Inv.settled (h : e.Inv) (hall : ∀ c ∈ e.calls, c.returned = true) : Settled e := by
  refine ⟨?_, h.acquired, h.released, ?_, ?_, ?_⟩
  · rw [h.coherent.staging, List.countP_eq_zero]
    intro c hc
    have hret := hall c hc
    cases hs : c.state with
    | running w s =>
      rw [WriteCall.returned, hs] at hret
      cases hret
    | returned result => simp [WriteCall.stages, hs]
  · intro c hc
    have hret := hall c hc
    have hacq := (h.sound c hc).acquired_eq
    refine ⟨(h.sound c hc).acquired_le_one, ?_⟩
    cases hs : c.state with
    | running w s =>
      rw [WriteCall.returned, hs] at hret
      cases hret
    | returned result => simpa [WriteCall.holds, hs] using hacq.symm
  · rw [← flatMap_stored_of_returned hall]
    exact h.values
  · intro c hc hsucc
    have hsound := h.sound c hc
    cases hsound with
    | written hrows hknown => simp only [WriteCall.rows, hrows]
    | _ => cases hsucc

/-- Whatever is written on a store, in whatever order the calls take effect and whichever of them fail: the store is coherent in
every state, label rows stay, and once all writes have returned there are the value rows of the successful ones and nothing is open. -/
theorem writes_coherent (name : String) (moves : List Move) :
    Coherent (run (start name) moves) ∧
      (∀ more, (run (start name) moves).store.tables.Grows (run (start name) (moves ++ more)).store.tables) ∧
      ((∀ c ∈ (run (start name) moves).calls, c.returned = true) → Settled (run (start name) moves)) := by
  have h := (inv_start name).run moves
  refine ⟨h.coherent, ?_, h.settled⟩
  intro more
  have hmore : run (start name) (moves ++ more) = run (run (start name) moves) more := List.foldl_append
  rw [hmore]
  exact h.grows_run more

/-- Two writes of one sample, call by call in turns; the first cannot insert its value rows. -/
def twoWrites : List Move :=
  let samples : List Sample := [{ labels := Labels.empty, value := ⟨0⟩, timestampMs := 0 }]
  [.submit false samples, .submit false samples, .advance 0, .advance 1, .advance 1, .advance 0, .advance 0, .advance 1, .advance 1,
    .advance 0, .fault (some (.insertValues, "injected failure")), .advance 0, .fault none, .advance 1, .advance 1, .advance 0]

/-- One label row and one value row are left, and both sessions are back. -/
theorem writes_coherent_twoWrites :
    (run (start "memory") twoWrites).calls.map WriteCall.succeeded = [false, true] ∧
      (run (start "memory") twoWrites).store.tables.labels.map Prod.snd = [1] ∧
      (run (start "memory") twoWrites).store.tables.values.map ValueRow.labelsId = [some 1] ∧
      (run (start "memory") twoWrites).store.released = 2 ∧
      (∀ c ∈ (run (start "memory") twoWrites).calls, c.returned = true) ∧ Settled (run (start "memory") twoWrites) := by
  have hall : ∀ c ∈ (run (start "memory") twoWrites).calls, c.returned = true := by decide +kernel
  exact ⟨by decide +kernel, by decide +kernel, by decide +kernel, by decide +kernel, hall,
    (writes_coherent "memory" twoWrites).2.2 hall⟩

end SharedStore

end Intake
