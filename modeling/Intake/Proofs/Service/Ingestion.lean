import Mathlib.Data.List.Forall2
import Intake.Proofs.Http.Route
import Intake.Proofs.Series.Labels
import Intake.Proofs.Service.Accounting
import Intake.Proofs.Store.Effect

/-!
# Ingestion: what a posted request leaves in the store

A request that is posted while nothing hinders its batch leaves exactly what it said in the tables of the store: one value row for
each sample, in the order in which the series and their samples were sent, and each row leads to a label row that says what the
series sent for its labels (`posted_samples_stored`). Label rows that were there stay, and new ones are only made for label sets
that were missing.

The statements compare what was sent with what is stored, with nothing of the way in between: `TimeSeries.value?` says what a series
sends for a label, `LabelSet.Describes` and `Tables.Holds` say that rows hold it. The numbers of label rows count up in every state
that a run of happenings reaches (`numbered_after`).
-/

namespace Intake

/-! ## What was sent -/

/-- The value that a series sends for a label: of a repeated name the last one counts. -/
def TimeSeries.value? (s : TimeSeries) (name : String) : Option String :=
  (s.labels.reverse.find? fun l => l.name = name).map WireLabel.value

/-- The label map of a series holds what the series sends. -/
theorem TimeSeries.get?_labelMap (s : TimeSeries) (name : String) : s.labelMap.get? name = s.value? name := by
  unfold labelMap value?
  rw [Labels.get?_ofPairs, ← List.map_reverse]
  induction s.labels.reverse with
  | nil => rfl
  | cons l rest ih =>
    rw [List.map_cons, List.find?_cons]
    by_cases h : l.name = name
    · simp only [h, List.lookup_cons_self, decide_true, Option.map_some]
    · have hname : (name == l.name) = false := beq_false_of_ne (Ne.symm h)
      simp only [List.lookup_cons, hname, h, decide_false]
      exact ih

/-- The samples of a request as they were sent, series by series, each with its series. -/
def WriteRequest.sent (r : WriteRequest) : List (TimeSeries × WireSample) :=
  r.timeseries.flatMap fun s => s.samples.map fun p => (s, p)

/-- A sample that was sent, with the labels of its series. -/
def WireSample.under (s : TimeSeries) (p : WireSample) : Sample := ⟨s.labelMap, p.value, p.timestamp⟩

theorem WriteRequest.samples_eq (r : WriteRequest) : r.samples = r.sent.map fun x => x.2.under x.1 := by
  unfold samples sent
  rw [List.map_flatMap]
  simp only [List.map_map]
  rfl

/-! ## What is stored -/

/-- A label set says what a series sends: its metric name, empty where none is sent, and a JSON text that is read back as exactly
its other labels, each once. -/
structure LabelSet.Describes (set : LabelSet) (s : TimeSeries) : Prop where
  metricName : set.metricName = (s.value? metricNameLabel).getD ""
  members : ∃ members, set.members? = some members ∧ (members.map Prod.fst).Nodup ∧
    ∀ name value, (name, value) ∈ members ↔ name ≠ metricNameLabel ∧ s.value? name = some value

/-- A row of the tables holds a sample of a series: its value with all bits, its time, and the number of one label row, which says
what the series sends. -/
structure Tables.Holds (t : Tables) (s : TimeSeries) (p : WireSample) (row : ValueRow) : Prop where
  value : row.value = p.value
  time : row.time.millis = p.timestamp
  labels : ∃ set id, row.labelsId = some id ∧ (set, id) ∈ t.labels ∧ (∀ other, (other, id) ∈ t.labels → other = set) ∧
    set.Describes s

/-- Tables before and after a request was stored. -/
structure WriteRequest.Stored (r : WriteRequest) (t t' : Tables) : Prop where
  /-- One value row for each sample is added at the end, in the order in which they were sent. -/
  values : ∃ added, t'.values = t.values ++ added ∧ List.Forall₂ (fun x row => t'.Holds x.1 x.2 row) r.sent added
  /-- Label rows stay, and one is added only for the label set of a sample that had none. -/
  labels : ∃ added, t'.labels = t.labels ++ added ∧
    ∀ new ∈ added, t.idOf? new.1 = none ∧ ∃ x ∈ r.sent, new.1 = LabelSet.ofLabels x.1.labelMap
  numbered : t'.Numbered

theorem LabelSet.describes_ofLabels (s : TimeSeries) : (ofLabels s.labelMap).Describes s where
  metricName := by rw [← s.get?_labelMap]; rfl
  members := by
    refine ⟨s.labelMap.others, members?_ofLabels s.labelMap, s.labelMap.others_names_nodup, fun name value => ?_⟩
    rw [Labels.mem_others, s.get?_labelMap]

/-- The value row of a sample holds it, where no two label sets have one number. -/
theorem Tables.holds_of_shows {t : Tables} {s : TimeSeries} {p : WireSample} {row : ValueRow} (ht : t.Numbered)
    (h : t.Shows (p.under s) row) : t.Holds s p row := by
  obtain ⟨id, hrow, hid⟩ := h.labels
  have hmem := mem_labels_of_idOf? hid
  exact ⟨h.value, h.time, _, id, hrow, hmem, fun _ hother => ht.eq_of_mem hmem hother, LabelSet.describes_ofLabels s⟩

/-- Label sets and value rows of a request whose samples were staged. -/
theorem WriteRequest.stored_of_staged {r : WriteRequest} {rows : List StagedRow} {t : Tables} (ht : t.Numbered)
    (h : (stageBatch false r.samples).1 = .ok rows) : r.Stored t ((t.addLabels rows).addValues rows) := by
  have hnumbered := (ht.addLabels rows).addValues rows
  obtain ⟨added, hadded, hshows⟩ := t.addsValues_addValues h
  rw [r.samples_eq, List.forall₂_map_left_iff] at hshows
  refine ⟨⟨added, hadded, hshows.imp fun _ _ hrow => Tables.holds_of_shows hnumbered hrow⟩, ?_, hnumbered⟩
  refine ⟨_, (t.addsLabels_addLabels h).labels, fun new hmem => ?_⟩
  obtain ⟨hset, hnone⟩ := Tables.mem_unseen.1 (List.fst_mem_of_mem_zipIdx hmem)
  rw [r.samples_eq, List.map_map] at hset
  obtain ⟨x, hx, hset⟩ := List.mem_map.1 hset
  exact ⟨hnone, x, hx, hset.symm⟩

namespace Instance

/-! ## A request that nothing hinders -/

/-- There is no election, or it answers that the instance leads. -/
def Leads (i : Instance) : Prop := ∀ c, i.candidate? = some c → (c.isLeader.run i.electionState).1 = .ok true

theorem verdict_of_leads {i : Instance} (h : i.Leads) : i.verdict = .ok true := by
  rw [verdict_eq]
  cases hc : i.candidate? with
  | none => rfl
  | some c => exact h c hc

/-- The tables after a batch that was posted are those that the gate leaves. -/
theorem tables_serve_batch {q : Request} (willing : Option Span) {i : Instance} {label : String} {request : WriteRequest}
    (hroute : (Route.dispatch i.telemetry q).outcome = some (label, .write)) (hbody : WriteRequest.decode q.body = .ok request)
    (h : i.store.Prompt) :
    ((serve q willing).run i).2.1.store.tables =
      ((receive request.samples.length (offered q i)).ledgerAfter request.samples).tables := by
  have hstore : (receive request.samples.length (offered q i)).store.Prompt := by
    rw [store_receive, store_offered]
    exact h
  have hledger := ledger_serve_batch willing hroute hbody h
  rw [(run_sendBatch request.samples hstore).2] at hledger
  exact congrArg Ledger.tables hledger

theorem numbered_ledgerAfter {i : Instance} (h : i.store.tables.Numbered) (samples : List Sample) :
    (i.ledgerAfter samples).tables.Numbered := by
  unfold ledgerAfter
  split
  · have htables := MemoryStore.numbered_tablesAfter h samples
    unfold Ledger.enter
    split <;> exact htables
  · exact h

/-- What happens leaves the label rows numbered. -/
theorem numbered_step (h : Happening) {i : Instance} (hp : i.ledger.Prompt) (hn : i.store.tables.Numbered) :
    (step h i).store.tables.Numbered := by
  cases hposted : posted h i with
  | nil =>
    have htables : (step h i).store.tables = i.store.tables := congrArg Ledger.tables (step_of_not_posted hp hposted).2
    rw [htables]
    exact hn
  | cons p rest =>
    have hmem : p ∈ posted h i := hposted ▸ List.mem_cons_self
    obtain ⟨q, willing, label, request, rfl, hroute, hbody⟩ := batch_of_posted hmem
    rw [step, tables_serve_batch willing hroute hbody (store_prompt hp)]
    refine numbered_ledgerAfter ?_ _
    rw [store_receive, store_offered]
    exact hn

/-- A run of happenings leaves the label rows numbered. -/
theorem numbered_after {happenings : List Happening} {i : Instance} (hp : i.ledger.Prompt) (hn : i.store.tables.Numbered) :
    (after happenings i).store.tables.Numbered := by
  induction happenings generalizing i with
  | nil => exact hn
  | cons h rest ih => exact ih (prompt_step h hp) (numbered_step h hp hn)

/-- A post to the path for batches, whose body can be decoded and whose times all fit, of an instance that leads or has no election,
on a store that does not break: for each sample one value row is added, in the order in which they were sent, with the value as it
was sent and the time as it was sent, and with a label row that says what the series sent. Label rows that were there stay, and one is
added only for a label set of the request that had none. -/
theorem posted_samples_stored {i : Instance} {q : Request} {request : WriteRequest} (willing : Option Span)
    (hmethod : q.method = "POST") (hpath : Route.segments q.target = ["write"]) (hbody : WriteRequest.decode q.body = .ok request)
    (hfit : ∀ s ∈ request.timeseries, ∀ p ∈ s.samples, (Instant.ofMillis? p.timestamp).isSome) (hleads : i.Leads)
    (hprompt : i.store.Prompt) (hbreaks : i.store.breaksAt = none) (hnumbered : i.store.tables.Numbered) :
    request.Stored i.store.tables ((serve q willing).run i).2.1.store.tables := by
  have hstore : (receive request.samples.length (offered q i)).store = i.store := by rw [store_receive, store_offered]
  have hverdict : (receive request.samples.length (offered q i)).verdict = .ok true := by
    obtain ⟨requestDuration, hoffered⟩ := offered_eq q i
    rw [hoffered]
    exact verdict_of_leads hleads
  obtain ⟨rows, hrows⟩ : ∃ rows, (stageBatch false request.samples).1 = .ok rows := by
    refine stageBatch_of_fit false fun sample hsample => ?_
    rw [request.samples_eq] at hsample
    obtain ⟨x, hx, rfl⟩ := List.mem_map.1 hsample
    obtain ⟨s, hs, hx⟩ := List.mem_flatMap.1 hx
    obtain ⟨p, hp, rfl⟩ := List.mem_map.1 hx
    exact hfit s hs p hp
  have htables : ((receive request.samples.length (offered q i)).ledgerAfter request.samples).tables =
      (i.store.tables.addLabels rows).addValues rows := by
    unfold ledgerAfter
    rw [hverdict, hstore]
    simp only [MemoryStore.answerTo, MemoryStore.tablesAfter, hrows, MemoryStore.writeResult, MemoryStore.writtenTables, hbreaks,
      Ledger.enter]
  rw [tables_serve_batch willing (Route.dispatch_write i.telemetry hmethod hpath) hbody hprompt, htables]
  exact WriteRequest.stored_of_staged hnumbered hrows

/-- Two series with the same labels, in another order and with a label that one of them repeats; the values are one, negative zero
and no number. -/
def twoSeries : WriteRequest :=
  ⟨[⟨[⟨"__name__", "m"⟩, ⟨"a", "1"⟩, ⟨"a", "2"⟩], [⟨⟨0x3ff0000000000000⟩, 1⟩, ⟨⟨0x8000000000000000⟩, -1⟩]⟩,
    ⟨[⟨"a", "2"⟩, ⟨"__name__", "m"⟩], [⟨⟨0x7ff8000000000001⟩, 0⟩]⟩]⟩

def seriesPost : Request where
  method := "POST"
  target := "/write"
  body := [0x6a, 0xf0, 0x69, 0x0a, 0x42, 0x0a, 0x0d, 0x0a, 0x08, 0x5f, 0x5f, 0x6e, 0x61, 0x6d, 0x65, 0x5f, 0x5f, 0x12, 0x01, 0x6d, 0x0a,
    0x06, 0x0a, 0x01, 0x61, 0x12, 0x01, 0x31, 0x0a, 0x06, 0x0a, 0x01, 0x61, 0x12, 0x01, 0x32, 0x12, 0x0b, 0x09, 0x00, 0x00, 0x00, 0x00,
    0x00, 0x00, 0xf0, 0x3f, 0x10, 0x01, 0x12, 0x14, 0x09, 0x00, 0x00, 0x00, 0x00, 0x00, 0x00, 0x00, 0x80, 0x10, 0xff, 0xff, 0xff, 0xff,
    0xff, 0xff, 0xff, 0xff, 0xff, 0x01, 0x0a, 0x24, 0x0a, 0x06, 0x0a, 0x01, 0x61, 0x12, 0x01, 0x32, 0x0a, 0x0d, 0x0a, 0x08, 0x5f, 0x5f,
    0x6e, 0x61, 0x6d, 0x65, 0x5f, 0x5f, 0x12, 0x01, 0x6d, 0x12, 0x0b, 0x09, 0x01, 0x00, 0x00, 0x00, 0x00, 0x00, 0xf8, 0x7f, 0x10, 0x00]

/-- They are stored after a sample of a series without other labels: with three value rows more there is one label row more. -/
theorem posted_samples_stored_twoSeries :
    WriteRequest.decode seriesPost.body = .ok twoSeries ∧ (after [.request onePost none] lone).Leads ∧
      (after [.request onePost none, .request seriesPost none] lone).store.tables.values.map ValueRow.labelsId =
        [some 1, some 2, some 2, some 2] ∧
      twoSeries.Stored (after [.request onePost none] lone).store.tables
        (after [.request onePost none, .request seriesPost none] lone).store.tables := by
  have hbody : WriteRequest.decode seriesPost.body = .ok twoSeries := by decide +kernel
  have hnone : (after [.request onePost none] lone).candidate?.isNone = true := by decide +kernel
  have hleads : (after [.request onePost none] lone).Leads := by
    intro c hc
    rw [hc] at hnone
    cases hnone
  have hprompt := prompt_step (.request onePost none) fresh_lone.prompt
  have hnumbered : (after [.request onePost none] lone).store.tables.Numbered := numbered_after fresh_lone.prompt Tables.numbered_empty
  refine ⟨hbody, hleads, by decide +kernel, ?_⟩
  exact posted_samples_stored none rfl (by decide +kernel) hbody (by decide +kernel) hleads (store_prompt hprompt) (by decide +kernel)
    hnumbered

end Instance

end Intake
