import Intake.Proofs.Store.Tables
import Intake.Proofs.Store.Write

/-!
# Interleaving: many writes on one store

Any number of batches are written on one store at a time. The tables are shared, the staging of a write is its own, and a call to the
store happens at once, but between two calls of one write any others can come, and the calls of any phase can begin or cease to fail.
`SharedStore` is a store with the writes that were begun on it, and a move carries one of them on by one call. A write without others
in between is `MemoryStore.drive` (`run_alone`).

A write takes one of a few shapes (`Sound`), and what one call does to the store and to its write is said shape by shape (`Advances`).
The label sets of a batch can be added by other writes, but they cannot get lost, so the value rows of a write find the numbers of
their own.
-/

namespace Intake

/-! ## Writes among others -/

namespace BatchWrite

/-- Whether the write is between the acquisition and the release of its session. -/
def holds (w : BatchWrite) : Bool := decide (w.waiting ≠ .acquire)

/-- Whether the write is between the creation of its staging table and the release. -/
def stages (w : BatchWrite) : Bool :=
  match w.waiting with
  | .acquire | .createStaging => false
  | .bulkLoad | .insertLabels | .insertValues => true
  | .release => decide (w.failure.bind StorageError.phase? ≠ some .createStaging)

/-- Whether the write has inserted its value rows. -/
def inserted (w : BatchWrite) : Bool := decide (w.waiting = .release) && w.failure.isNone

end BatchWrite

/-- Where a write stands among others. -/
inductive WriteState where
  /-- It waits for a call to the store. -/
  | running (w : BatchWrite) (s : MemorySession)
  | returned (result : Except StorageError Unit)

/-- A batch that is written, and how often it acquired and released a session. -/
structure WriteCall where
  samples : List Sample
  state : WriteState
  acquired : Nat := 0
  released : Nat := 0

namespace WriteCall

/-- The rows of the batch; there are none when a time does not fit. -/
def rows (c : WriteCall) : List StagedRow :=
  match (stageBatch false c.samples).1 with
  | .ok rows => rows
  | .error _ => []

def returned (c : WriteCall) : Bool :=
  match c.state with
  | .running _ _ => false
  | .returned _ => true

def succeeded (c : WriteCall) : Bool :=
  match c.state with
  | .returned (.ok ()) => true
  | _ => false

def holds (c : WriteCall) : Bool :=
  match c.state with
  | .running w _ => w.holds
  | .returned _ => false

def stages (c : WriteCall) : Bool :=
  match c.state with
  | .running w _ => w.stages
  | .returned _ => false

/-- The rows whose values the write has inserted. -/
def stored (c : WriteCall) : List StagedRow :=
  match c.state with
  | .running w _ => if w.inserted then c.rows else []
  | .returned (.ok ()) => c.rows
  | .returned (.error _) => []

/-- A write after a call that took the store from `m` to `m'`. -/
def after (m m' : MemoryStore) (c : WriteCall) (state : WriteState) : WriteCall :=
  { c with state, acquired := c.acquired + (m'.acquired - m.acquired), released := c.released + (m'.released - m.released) }

/-- The call that a write waits for takes effect, and the next one is made. -/
def advance (m : MemoryStore) (c : WriteCall) : MemoryStore × WriteCall :=
  match c.state with
  | .returned _ => (m, c)
  | .running w s =>
    let (r, s, m') := m.perform s w.waiting w.rows
    match r.answer? with
    | none => (m', c)
    | some answer =>
      match (w.reply answer).1 with
      | .going w => (m'.noteCall w.waiting w.rows, c.after m m' (.running w s))
      | .finished result => (m', c.after m m' (.returned result))

end WriteCall

/-- A store and the writes that were begun on it, in that order. -/
structure SharedStore where
  store : MemoryStore
  calls : List WriteCall := []

namespace SharedStore

inductive Move where
  /-- A batch is given to be written. -/
  | submit (dump : Bool) (samples : List Sample)
  /-- The call that a write waits for takes effect. -/
  | advance (k : Nat)
  /-- From now on a phase fails for a reason, or none does. -/
  | fault (phase : Option (WritePhase × String))

/-- A batch with a time that does not fit is rejected at once. -/
def submit (e : SharedStore) (dump : Bool) (samples : List Sample) : SharedStore :=
  match (BatchWrite.start dump samples).1 with
  | .ok w => { store := e.store.noteCall w.waiting w.rows, calls := e.calls ++ [{ samples, state := .running w {} }] }
  | .error err => { e with calls := e.calls ++ [{ samples, state := .returned (.error err) }] }

def step (e : SharedStore) : Move → SharedStore
  | .submit dump samples => e.submit dump samples
  | .advance k =>
    match e.calls[k]? with
    | none => e
    | some c => { store := (c.advance e.store).1, calls := e.calls.set k (c.advance e.store).2 }
  | .fault phase => { e with store := e.store.breakAt phase }

def run (e : SharedStore) (moves : List Move) : SharedStore := moves.foldl step e

/-- An empty store without writes. -/
def start (name : String) : SharedStore := { store := { name } }

end SharedStore

/-! ## One call of a write -/

/-- A call takes effect, or fails and changes nothing; a release takes effect. -/
theorem MemoryStore.perform_cases {m : MemoryStore} (h : m.Mild) (s : MemorySession) (p : WritePhase) (rows : List StagedRow) :
    m.perform s p rows = m.effect s p rows ∨ p ≠ .release ∧ ∃ text, m.perform s p rows = (.failed (.backend p text), s, m) := by
  unfold perform faultOf
  cases hf : m.fault with
  | none => exact Or.inl rfl
  | some f =>
    rw [Option.filter_some]
    split
    next => exact Or.inl rfl
    next f' hf' =>
      have hmild : f'.fatal = false := by
        split at hf'
        · cases hf'
          exact h f hf
        · cases hf'
      rw [hmild]
      by_cases hp : p = .release
      · exact Or.inl (by simp [hp])
      · exact Or.inr ⟨hp, f'.text, by simp [hp]⟩

namespace WriteCall

/-- The shapes that a write takes, when the tables are `t`. -/
inductive Sound (t : Tables) : WriteCall → Prop where
  | acquire {samples rows} (hrows : (stageBatch false samples).1 = .ok rows) :
    Sound t ⟨samples, .running ⟨rows, .acquire, 0, none⟩ ⟨none⟩, 0, 0⟩
  | createStaging {samples rows} (hrows : (stageBatch false samples).1 = .ok rows) :
    Sound t ⟨samples, .running ⟨rows, .createStaging, 0, none⟩ ⟨none⟩, 1, 0⟩
  | bulkLoad {samples rows} (hrows : (stageBatch false samples).1 = .ok rows) :
    Sound t ⟨samples, .running ⟨rows, .bulkLoad, 0, none⟩ ⟨some []⟩, 1, 0⟩
  | insertLabels {samples rows} (hrows : (stageBatch false samples).1 = .ok rows) :
    Sound t ⟨samples, .running ⟨rows, .insertLabels, 0, none⟩ ⟨some rows⟩, 1, 0⟩
  /-- Once the labels are inserted, every row finds its label set. -/
  | insertValues {samples rows} (n : Nat) (hrows : (stageBatch false samples).1 = .ok rows) (hknown : t.Known rows) :
    Sound t ⟨samples, .running ⟨rows, .insertValues, n, none⟩ ⟨some rows⟩, 1, 0⟩
  | inserted {samples rows} (n : Nat) (hrows : (stageBatch false samples).1 = .ok rows) (hknown : t.Known rows) :
    Sound t ⟨samples, .running ⟨rows, .release, n, none⟩ ⟨some rows⟩, 1, 0⟩
  /-- There is a staging table unless its creation failed. -/
  | failed {samples rows} (n : Nat) (p : WritePhase) (text : String) (staging : Option (List StagedRow))
    (hstaging : staging.isSome = decide (p ≠ .createStaging)) :
    Sound t ⟨samples, .running ⟨rows, .release, n, some (.backend p text)⟩ ⟨staging⟩, 1, 0⟩
  | written {samples rows} (hrows : (stageBatch false samples).1 = .ok rows) (hknown : t.Known rows) :
    Sound t ⟨samples, .returned (.ok ()), 1, 1⟩
  | rejected {samples} (e : StorageError) (sessions : Nat) (hsessions : sessions ≤ 1) :
    Sound t ⟨samples, .returned (.error e), sessions, sessions⟩

variable {t t' : Tables} {samples : List Sample} {rows : List StagedRow} {c : WriteCall}

/-- The rows that a sound write has stored are known. -/
theorem Sound.known_stored (h : c.Sound t) : t.Known c.stored := by
  cases h with
  | inserted n hrows hknown =>
    simp only [stored, WriteCall.rows, hrows]
    exact hknown
  | written hrows hknown =>
    simp only [stored, WriteCall.rows, hrows]
    exact hknown
  | _ =>
    intro r hr
    cases hr

/-- A write stays sound while the tables grow. -/
theorem Sound.grows (h : c.Sound t) (hg : t.Grows t') : c.Sound t' := by
  cases h with
  | acquire hrows => exact .acquire hrows
  | createStaging hrows => exact .createStaging hrows
  | bulkLoad hrows => exact .bulkLoad hrows
  | insertLabels hrows => exact .insertLabels hrows
  | insertValues n hrows hknown => exact .insertValues n hrows (hknown.grows hg)
  | inserted n hrows hknown => exact .inserted n hrows (hknown.grows hg)
  | failed n p text staging hstaging => exact .failed n p text staging hstaging
  | written hrows hknown => exact .written hrows (hknown.grows hg)
  | rejected e sessions hsessions => exact .rejected e sessions hsessions

/-- What one call of a write does to the store and to the write. -/
structure Advances (m : MemoryStore) (c : WriteCall) (m' : MemoryStore) (c' : WriteCall) : Prop where
  fault : m'.fault = m.fault
  grows : m.tables.Grows m'.tables
  numbered : m.tables.Numbered → m'.tables.Numbered
  /-- The value rows that are added are those that the write counts as stored. -/
  values : ∃ more, m'.tables.values = m.tables.values ++ more.map m'.tables.valueRow ∧ c'.stored = c.stored ++ more
  sound : c'.Sound m'.tables
  staging : m'.openStaging + c.stages.toNat = m.openStaging + c'.stages.toNat
  acquired : m'.acquired + c.acquired = m.acquired + c'.acquired
  released : m'.released + c.released = m.released + c'.released

variable {m m' : MemoryStore} {c' : WriteCall} {w w' : BatchWrite} {s s' : MemorySession} {r : StoreReply}
  {answer : Except StorageError Nat}

/-- A call that leaves the tables alone. -/
theorem Advances.of_tables_eq (hfault : m'.fault = m.fault) (htables : m'.tables = m.tables) (hstored : c'.stored = c.stored)
    (hsound : c'.Sound m.tables) (hopen : m'.openStaging + c.stages.toNat = m.openStaging + c'.stages.toNat)
    (hacquired : m'.acquired + c.acquired = m.acquired + c'.acquired)
    (hreleased : m'.released + c.released = m.released + c'.released) : Advances m c m' c' := by
  refine ⟨hfault, ?_, ?_, ⟨[], ?_, ?_⟩, ?_, hopen, hacquired, hreleased⟩
  · rw [htables]
    exact Tables.Grows.refl m.tables
  · rw [htables]
    exact id
  · rw [htables, List.map_nil, List.append_nil]
  · rw [hstored, List.append_nil]
  · rw [htables]
    exact hsound

/-- A call after which the write makes another. -/
theorem advance_going {acquired released : Nat} (hp : m.perform s w.waiting w.rows = (r, s', m')) (ha : r.answer? = some answer)
    (hw : (w.reply answer).1 = .going w') :
    advance m ⟨samples, .running w s, acquired, released⟩ = (m'.noteCall w'.waiting w'.rows,
      ⟨samples, .running w' s', acquired + (m'.acquired - m.acquired), released + (m'.released - m.released)⟩) := by
  simp only [advance, hp, ha, hw, after]

/-- A call that ends the write. -/
theorem advance_finished {acquired released : Nat} {result : Except StorageError Unit}
    (hp : m.perform s w.waiting w.rows = (r, s', m')) (ha : r.answer? = some answer) (hw : (w.reply answer).1 = .finished result) :
    advance m ⟨samples, .running w s, acquired, released⟩ = (m',
      ⟨samples, .returned result, acquired + (m'.acquired - m.acquired), released + (m'.released - m.released)⟩) := by
  simp only [advance, hp, ha, hw, after]

/-- A call that fails once a session is reserved changes nothing; the release follows. -/
theorem advances_failed {p : WritePhase} {n : Nat} {text : String} (hacquire : p ≠ .acquire) (hrelease : p ≠ .release)
    (hstaging : s.staging.isSome = decide (p ≠ .createStaging)) (hp : m.perform s p rows = (.failed (.backend p text), s, m)) :
    Advances m ⟨samples, .running ⟨rows, p, n, none⟩ s, 1, 0⟩ (advance m ⟨samples, .running ⟨rows, p, n, none⟩ s, 1, 0⟩).1
      (advance m ⟨samples, .running ⟨rows, p, n, none⟩ s, 1, 0⟩).2 := by
  have hw : (BatchWrite.reply ⟨rows, p, n, none⟩ (.error (.backend p text))).1 =
      .going ⟨rows, .release, n, some (.backend p text)⟩ := by
    cases p with
    | acquire => exact absurd rfl hacquire
    | release => exact absurd rfl hrelease
    | _ => rfl
  rw [advance_going hp rfl hw, Nat.sub_self, Nat.sub_self]
  refine .of_tables_eq rfl rfl ?_ (.failed n p text s.staging hstaging) ?_ rfl rfl
  · simp [stored, BatchWrite.inserted, hrelease]
  · cases p with
    | acquire => exact absurd rfl hacquire
    | release => exact absurd rfl hrelease
    | _ => rfl

/-- A release hands the session back, and the staging table is dropped if there is one. -/
theorem advances_release {n : Nat} {failure : Option StorageError} {staging : Option (List StagedRow)}
    {result : Except StorageError Unit} (hm : m.Mild)
    (hstages : BatchWrite.stages ⟨rows, .release, n, failure⟩ = staging.isSome) (hopen : staging.isSome.toNat ≤ m.openStaging)
    (hw : ∀ k, (BatchWrite.reply ⟨rows, .release, n, failure⟩ (.ok k)).1 = .finished result)
    (hstored : stored ⟨samples, .returned result, 1, 1⟩ = stored ⟨samples, .running ⟨rows, .release, n, failure⟩ ⟨staging⟩, 1, 0⟩)
    (hsound : Sound m.tables ⟨samples, .returned result, 1, 1⟩) :
    Advances m ⟨samples, .running ⟨rows, .release, n, failure⟩ ⟨staging⟩, 1, 0⟩
      (advance m ⟨samples, .running ⟨rows, .release, n, failure⟩ ⟨staging⟩, 1, 0⟩).1
      (advance m ⟨samples, .running ⟨rows, .release, n, failure⟩ ⟨staging⟩, 1, 0⟩).2 := by
  obtain hp | ⟨hp, -⟩ := MemoryStore.perform_cases hm ⟨staging⟩ .release rows
  · cases staging with
    | none =>
      rw [advance_finished (w := ⟨rows, .release, n, failure⟩) hp rfl (hw 0)]
      simp only [Nat.sub_self, Nat.add_sub_cancel_left]
      refine .of_tables_eq rfl rfl hstored hsound ?_ rfl rfl
      simp only [stages, hstages]
      rfl
    | some table =>
      rw [advance_finished (w := ⟨rows, .release, n, failure⟩) hp rfl (hw 0)]
      simp only [Nat.sub_self, Nat.add_sub_cancel_left]
      refine .of_tables_eq rfl rfl hstored hsound ?_ rfl rfl
      simp only [stages, hstages]
      exact Nat.sub_add_cancel hopen
  · exact absurd rfl hp

/-- What any call does to a sound write. -/
theorem Sound.advances (h : c.Sound m.tables) (hm : m.Mild) (hopen : c.stages.toNat ≤ m.openStaging) :
    Advances m c (c.advance m).1 (c.advance m).2 := by
  cases h with
  | @acquire samples rows hrows =>
    obtain hp | ⟨-, text, hp⟩ := MemoryStore.perform_cases hm ⟨none⟩ .acquire rows
    · rw [advance_going (w := ⟨rows, .acquire, 0, none⟩) hp rfl rfl, Nat.add_sub_cancel_left, Nat.sub_self]
      exact .of_tables_eq rfl rfl rfl (.createStaging hrows) rfl rfl rfl
    · rw [advance_finished (w := ⟨rows, .acquire, 0, none⟩) hp rfl rfl, Nat.sub_self, Nat.sub_self]
      exact .of_tables_eq rfl rfl rfl (.rejected _ 0 (Nat.zero_le 1)) rfl rfl rfl
  | @createStaging samples rows hrows =>
    obtain hp | ⟨-, text, hp⟩ := MemoryStore.perform_cases hm ⟨none⟩ .createStaging rows
    · rw [advance_going (w := ⟨rows, .createStaging, 0, none⟩) hp rfl rfl, Nat.sub_self, Nat.sub_self]
      exact .of_tables_eq rfl rfl rfl (.bulkLoad hrows) rfl rfl rfl
    · exact advances_failed nofun nofun rfl hp
  | @bulkLoad samples rows hrows =>
    obtain hp | ⟨-, text, hp⟩ := MemoryStore.perform_cases hm ⟨some []⟩ .bulkLoad rows
    · rw [advance_going (w := ⟨rows, .bulkLoad, 0, none⟩) hp rfl rfl, Nat.sub_self, Nat.sub_self]
      exact .of_tables_eq rfl rfl rfl (.insertLabels hrows) rfl rfl rfl
    · exact advances_failed nofun nofun rfl hp
  | @insertLabels samples rows hrows =>
    obtain hp | ⟨-, text, hp⟩ := MemoryStore.perform_cases hm ⟨some rows⟩ .insertLabels rows
    · rw [advance_going (w := ⟨rows, .insertLabels, 0, none⟩) hp rfl rfl, Nat.sub_self, Nat.sub_self]
      refine ⟨rfl, Tables.grows_addLabels _ rows, fun hn => hn.addLabels rows, ⟨[], ?_, rfl⟩, ?_, rfl, rfl, rfl⟩
      · exact (Tables.values_addLabels _ rows).trans (List.append_nil _).symm
      · exact .insertValues _ hrows (Tables.known_addLabels m.tables rows)
    · exact advances_failed nofun nofun rfl hp
  | @insertValues samples rows n hrows hknown =>
    obtain hp | ⟨-, text, hp⟩ := MemoryStore.perform_cases hm ⟨some rows⟩ .insertValues rows
    · rw [advance_going (w := ⟨rows, .insertValues, n, none⟩) hp rfl rfl, Nat.sub_self, Nat.sub_self]
      refine ⟨rfl, Tables.Grows.refl _, fun hn => hn.addValues rows, ⟨rows, rfl, ?_⟩, .inserted n hrows hknown, rfl, rfl, rfl⟩
      simp only [stored, WriteCall.rows, hrows]
      rfl
    · exact advances_failed nofun nofun rfl hp
  | inserted n hrows hknown => exact advances_release hm rfl hopen (fun _ => rfl) rfl (.written hrows hknown)
  | @failed samples rows n p text staging hstaging =>
    have hstages : BatchWrite.stages ⟨rows, .release, n, some (.backend p text)⟩ = staging.isSome := by
      rw [hstaging]
      cases p <;> rfl
    refine advances_release hm hstages ?_ (fun _ => rfl) rfl (.rejected _ 1 (Nat.le_refl 1))
    rw [← hstages]
    exact hopen
  | written hrows hknown => exact .of_tables_eq rfl rfl rfl (.written hrows hknown) rfl rfl rfl
  | rejected e sessions hsessions => exact .of_tables_eq rfl rfl rfl (.rejected e sessions hsessions) rfl rfl rfl

end WriteCall

/-! ## One write alone -/

namespace SharedStore

theorem run_cons (e : SharedStore) (move : Move) (moves : List Move) : e.run (move :: moves) = (e.step move).run moves := rfl

/-- The calls of one write without others in between are those that the store is driven through. -/
theorem run_drive {calls : Nat} {w : BatchWrite} {s : MemorySession} {m m' : MemoryStore} {result : Except StorageError Unit}
    {events : List Event} (h : MemoryStore.drive calls w s m = (some result, m', events)) {others : List WriteCall} {k : Nat}
    {c : WriteCall} (hk : others[k]? = some c) (hc : c.state = .running w s) :
    ∃ n c', run { store := m, calls := others } (List.replicate n (.advance k)) = { store := m', calls := others.set k c' } ∧
      c'.samples = c.samples ∧ c'.state = .returned result := by
  induction calls generalizing w s m events others c with
  | zero => cases h
  | succ calls ih =>
    have hlt : k < others.length := (List.getElem?_eq_some_iff.1 hk).1
    have hstep : step { store := m, calls := others } (.advance k) =
        { store := (c.advance m).1, calls := others.set k (c.advance m).2 } := by
      simp only [step, hk]
    obtain ⟨samples, state, acquired, released⟩ := c
    cases hc
    unfold MemoryStore.drive at h
    obtain ⟨⟨r, s', m₁⟩, hp⟩ : ∃ p, m.perform s w.waiting w.rows = p := ⟨_, rfl⟩
    simp only [hp] at h
    cases ha : r.answer? with
    | none =>
      rw [ha] at h
      cases h
    | some answer =>
      simp only [ha] at h
      obtain ⟨⟨progress, replied⟩, hw⟩ : ∃ p, w.reply answer = p := ⟨_, rfl⟩
      simp only [hw] at h
      cases progress with
      | finished last =>
        cases h
        rw [WriteCall.advance_finished hp ha (congrArg Prod.fst hw)] at hstep
        exact ⟨1, _, hstep, rfl, rfl⟩
      | going w' =>
        rw [WriteCall.advance_going hp ha (congrArg Prod.fst hw)] at hstep
        obtain ⟨⟨last, store, later⟩, hdrive⟩ : ∃ p, MemoryStore.drive calls w' s' (m₁.noteCall w'.waiting w'.rows) = p := ⟨_, rfl⟩
        simp only [hdrive] at h
        cases h
        have hnext := List.getElem?_set_self (a := ⟨samples, .running w' s', acquired + (m₁.acquired - m.acquired),
          released + (m₁.released - m.released)⟩) hlt
        obtain ⟨n, c', hrun, hsamples, hstate⟩ := ih hdrive hnext rfl
        refine ⟨n + 1, c', ?_, hsamples, hstate⟩
        rw [List.replicate_succ, run_cons, hstep, hrun, List.set_set]

/-- A batch that is written without others in between is written as on a store of its own. -/
theorem run_alone (e : SharedStore) (dump : Bool) {samples : List Sample} {rows : List StagedRow} {result : Except StorageError Unit}
    (hrows : (stageBatch dump samples).1 = .ok rows) (hresult : (e.store.writeRows rows).1 = some result) :
    ∃ n c, e.run (.submit dump samples :: List.replicate n (.advance e.calls.length)) =
        { store := (e.store.writeRows rows).2.1, calls := e.calls ++ [c] } ∧ c.samples = samples ∧ c.state = .returned result := by
  have hsubmit : e.step (.submit dump samples) =
      { store := e.store.noteCall .acquire rows, calls := e.calls ++ [{ samples, state := .running { rows } {} }] } := by
    simp only [step, submit, BatchWrite.start]
    cases hs : stageBatch dump samples with
    | mk staged events =>
      rw [hs] at hrows
      cases hrows
      rfl
  have hdrive : e.store.writeRows rows = (some result, (e.store.writeRows rows).2) := Prod.ext hresult rfl
  unfold MemoryStore.writeRows at hdrive
  obtain ⟨n, c, hrun, hsamples, hstate⟩ :=
    run_drive (c := { samples, state := .running { rows } {} }) hdrive List.getElem?_concat_length rfl
  refine ⟨n, c, ?_, hsamples, hstate⟩
  rw [run_cons, hsubmit, hrun]
  simp [MemoryStore.writeRows]

end SharedStore

end Intake
