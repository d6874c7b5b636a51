import Mathlib.Algebra.Order.Ring.Nat
import Intake.Proofs.Number.Whole
import Intake.Proofs.Service.Ledger
import Intake.Proofs.Wire.Cut
import Intake.Proofs.Wire.WriteRequest

/-!
# Accounting: what becomes of the samples that are posted

Every sample of a batch that could be decoded is received, and its batch then comes to one of three ends: it is written, its write
fails, or it is dropped because the instance does not lead or does not know. The counters tell the three apart: at any time the
samples sent are those of the batches written, which are the value rows of the store, the samples failed are those of the batches
whose write failed, and what is missing of the samples received was dropped.
-/

namespace Intake

namespace Instance

open MemoryStore

/-! ## A batch that is sent -/

/-- What the gate is told about leadership when a batch arrives. -/
def verdict (i : Instance) : Except ElectionError Bool := (admitted.run (touch.run i).2.1).1.map Prod.fst

/-- What acts on the candidate of an instance acts on the one that it has. -/
theorem run_withCandidate {α : Type} (x : α) (f : Candidate ElectionState → Act Instance α) (i : Instance) :
    (withCandidate x f).run i = i.candidate?.elim (x, i, []) fun c => (f c).run i := by
  unfold withCandidate Act.run
  cases h : i.candidate? with
  | none => simp only [h, Option.elim_none]
  | some c => simp only [h, Option.elim_some]

/-- It is told what the candidate answers to whether it leads, and that it may write if there is no candidate. -/
theorem verdict_eq (i : Instance) :
    i.verdict = i.candidate?.elim (.ok true) fun c => (c.isLeader.run i.electionState).1 := by
  unfold verdict admitted
  rw [run_withCandidate]
  -- A batch that arrives leaves what the election acts on.
  have hcandidate : (touch.run i).2.1.candidate? = i.candidate? := rfl
  rw [hcandidate]
  cases i.candidate? with
  | none => rfl
  | some c =>
    have hasked : ((onElection c.isLeader).run (touch.run i).2.1).1 = (c.isLeader.run i.electionState).1 := rfl
    rw [Option.elim_some, Option.elim_some, Act.run_bind_result, hasked]
    cases (c.isLeader.run i.electionState).1 <;> rfl

theorem ledger_admitted (i : Instance) : (admitted.run i).2.1.ledger = i.ledger := by
  unfold admitted withCandidate Act.run
  dsimp only
  split <;> rfl

theorem store_admitted (i : Instance) : (admitted.run i).2.1.store = i.store := by
  unfold admitted withCandidate Act.run
  dsimp only
  split <;> rfl

/-- How a batch ends, by what the gate is told and what the store answers. -/
def ending (i : Instance) (samples : List Sample) : Except Failure WriteOutcome :=
  match i.verdict with
  | .ok true => outcome (i.store.answerTo samples)
  | .ok false => .ok .notLeader
  | .error e => .error (.election e)

/-- The ledger after a batch: only one that is let through leaves a trace. -/
def ledgerAfter (i : Instance) (samples : List Sample) : Ledger :=
  match i.verdict with
  | .ok true => { i.ledger with tables := i.store.tablesAfter samples }.enter samples.length (i.store.answerTo samples)
  | _ => i.ledger

/-- A write that is let through is settled, and entered in the ledger. -/
theorem ledger_beginWrite {i : Instance} (samples : List Sample) (h : i.store.Prompt) :
    ((beginWrite .handle samples).run i).2.1.ledger =
      { i.ledger with tables := i.store.tablesAfter samples }.enter samples.length (i.store.answerTo samples) := by
  obtain ⟨-, nextFlight, hstate⟩ := run_beginWrite .handle samples h
  obtain ⟨-, hwrote⟩ := wrote_write h.fault samples
  rw [hstate, ledger_finishWrite]
  simp only [ledger, hwrote.name, hwrote.tables, hwrote.fault, hwrote.delay]

theorem run_sendBatch {i : Instance} (samples : List Sample) (h : i.store.Prompt) :
    ((sendBatch .handle samples).run i).1 = .settled (i.ending samples) ∧
      ((sendBatch .handle samples).run i).2.1.ledger = i.ledgerAfter samples := by
  have hstore : (admitted.run (touch.run i).2.1).2.1.store = i.store := store_admitted _
  have hledger : (admitted.run (touch.run i).2.1).2.1.ledger = i.ledger := ledger_admitted _
  unfold sendBatch
  simp only [Act.run_bind_result, Act.run_bind_state]
  generalize hv : (admitted.run (touch.run i).2.1).1 = v
  have hverdict : i.verdict = v.map Prod.fst := by rw [verdict, hv]
  generalize (admitted.run (touch.run i).2.1).2.1 = after at hstore hledger
  cases v with
  | error e =>
    simp only [ending, ledgerAfter, hverdict, Except.map, Act.run_bind_result, Act.run_bind_state, Act.run_pure, ledger_conclude]
    exact ⟨trivial, hledger⟩
  | ok allowed =>
    obtain ⟨leads, id⟩ := allowed
    cases leads with
    | false =>
      simp only [ending, ledgerAfter, hverdict, Except.map, Act.run_bind_result, Act.run_bind_state, Act.run_pure, Act.run_report,
        ledger_conclude]
      exact ⟨trivial, hledger⟩
    | true =>
      simp only [ending, ledgerAfter, hverdict, Except.map]
      rw [← hstore] at h ⊢
      rw [← hledger]
      exact ⟨(run_beginWrite .handle samples h).1, ledger_beginWrite samples h⟩

/-! ## A request that posts a batch -/

/-- An instance as a request reaches the route that takes it: the routes that refused it have counted it. -/
def offered (q : Request) (i : Instance) : Instance :=
  (((Route.dispatch i.telemetry q).refused.forM (noteRequest i.now)).run i).2.1

/-- Samples were received. -/
def receive (count : Nat) (i : Instance) : Instance :=
  { i with meters := i.meters.addReceived (Binary64.ofNat count) }

theorem store_receive (count : Nat) (i : Instance) : (receive count i).store = i.store := rfl

theorem ledger_receive (count : Nat) (i : Instance) :
    (receive count i).ledger = { i.ledger with received := i.ledger.received.add (Binary64.ofNat count) } := rfl

theorem offered_eq (q : Request) (i : Instance) :
    ∃ requestDuration, offered q i = { i with meters := { i.meters with requestDuration } } := run_refused _ _ _

theorem store_offered (q : Request) (i : Instance) : (offered q i).store = i.store := by
  obtain ⟨requestDuration, h⟩ := offered_eq q i
  rw [h]

theorem ledger_offered (q : Request) (i : Instance) : (offered q i).ledger = i.ledger := by
  obtain ⟨requestDuration, h⟩ := offered_eq q i
  rw [h]
  rfl

/-- A batch that is settled is not waited for. -/
theorem state_awaitBatch (willing : Option Span) (result : Except Failure WriteOutcome) (i : Instance) :
    ((awaitBatch willing (.settled result)).run i).2.1 = i := by
  unfold awaitBatch
  rw [Act.run_bind_state]
  by_cases h : willing = some Span.zero
  · rw [if_pos h]
    rfl
  · rw [if_neg h]
    rfl

/-- A body that cannot be decoded is answered with the reason, and nothing but the time of the request is noted. -/
theorem serve_undecodable {q : Request} (willing : Option Span) {i : Instance} {label : String} {e : DecodeError}
    (hroute : (Route.dispatch i.telemetry q).outcome = some (label, .write)) (hbody : WriteRequest.decode q.body = .error e) :
    ((serve q willing).run i).1 = some { status := 400, body := e.text } ∧
      ∃ requestDuration, ((serve q willing).run i).2.1 = { i with meters := { i.meters with requestDuration } } := by
  obtain ⟨requestDuration, hoffered⟩ := offered_eq q i
  unfold offered at hoffered
  unfold serve
  rw [Act.run_get_bind_result, Act.run_get_bind_state]
  simp only [Act.run_bind_result, Act.run_bind_state, hoffered, hroute, postBatch, hbody, Act.run_report, Act.run_pure]
  exact ⟨rfl, _, rfl⟩

/-- What a cut leaves of an accepted body is no block, nor is the body with more bytes behind it: it is answered with the reason,
and no batch comes of it. -/
theorem serve_cut {body other : List UInt8} {request : WriteRequest} (h : WriteRequest.decode body = .ok request)
    (hother : other <+: body ∨ body <+: other) (hne : other ≠ body) :
    ∃ e : BlockError, WriteRequest.decode other = .error (.block e) ∧
      ∀ (q : Request) (willing : Option Span) (i : Instance) (label : String), q.body = other →
        (Route.dispatch i.telemetry q).outcome = some (label, .write) →
          ((serve q willing).run i).1 = some { status := 400, body := (DecodeError.block e).text } ∧
            ∃ requestDuration, ((serve q willing).run i).2.1 = { i with meters := { i.meters with requestDuration } } := by
  obtain ⟨e, he⟩ := WriteRequest.decode_cut h hother hne
  refine ⟨e, he, fun q willing i label hq hroute => ?_⟩
  subst hq
  exact serve_undecodable willing hroute he

open WriteRequest in
/-- The last byte of a body is missing, and there is one too many. -/
theorem serve_cut_sentBlock :
    (decode sentBlock = .ok sentRequest ∧ sentBlock.dropLast ≠ sentBlock ∧ sentBlock ++ [0] ≠ sentBlock) ∧
      (∃ e : BlockError, decode sentBlock.dropLast = .error (.block e)) ∧
        ∃ e : BlockError, decode (sentBlock ++ [0]) = .error (.block e) := by
  have hlength : sentContent.length ≤ maxBlockLength := by decide
  have hmessage := ofMessage_encoding sentRequest_inRange sentRequest_encodesTo (Nat.lt_of_le_of_lt hlength (by decide))
  have hsent : decode sentBlock = .ok sentRequest := by
    unfold decode
    rw [Block.expand_of_holds sentBlock_holds hlength]
    simp only [hmessage]
  have hshorter : sentBlock.dropLast ≠ sentBlock := by decide +kernel
  have hlonger : sentBlock ++ [0] ≠ sentBlock := by decide +kernel
  obtain ⟨e, hcut, -⟩ := serve_cut hsent (.inl (List.dropLast_prefix sentBlock)) hshorter
  obtain ⟨e', hmore, -⟩ := serve_cut hsent (.inr (List.prefix_append sentBlock [0])) hlonger
  exact ⟨⟨hsent, hshorter, hlonger⟩, ⟨e, hcut⟩, ⟨e', hmore⟩⟩

/-- A body that can be decoded is a batch that is received and sent. -/
theorem run_postBatch {body : List UInt8} {request : WriteRequest} (h : WriteRequest.decode body = .ok request) (i : Instance) :
    ((postBatch body).run i).1 = .inr ((sendBatch .handle request.samples).run (receive request.samples.length i)).1 ∧
      ((postBatch body).run i).2.1 = ((sendBatch .handle request.samples).run (receive request.samples.length i)).2.1 := by
  simp only [postBatch, h]
  exact ⟨rfl, rfl⟩

/-- A batch that is posted is received and sent, who posted it waits, and at most the time of the request is noted. -/
theorem state_serve_batch {q : Request} (willing : Option Span) {i sent : Instance} {label : String} {request : WriteRequest}
    {attempt : Attempt} {events : List Event} (hroute : (Route.dispatch i.telemetry q).outcome = some (label, .write))
    (hbody : WriteRequest.decode q.body = .ok request)
    (hsend : (sendBatch .handle request.samples).run (receive request.samples.length (offered q i)) = (attempt, sent, events)) :
    ∃ requestDuration, ((serve q willing).run i).2.1 =
      { ((awaitBatch willing attempt).run sent).2.1 with
        meters := { ((awaitBatch willing attempt).run sent).2.1.meters with requestDuration } } := by
  obtain ⟨hresult, hstate⟩ := run_postBatch hbody (offered q i)
  rw [hsend] at hresult hstate
  unfold serve
  rw [Act.run_get_bind_state]
  unfold offered at hresult hstate
  simp only [Act.run_bind_state, hroute, hresult, hstate]
  -- Whether or not somebody still hears the answer.
  generalize ((awaitBatch willing attempt).run sent).1 = response
  cases response with
  | none => exact ⟨_, rfl⟩
  | some r => exact ⟨_, rfl⟩

/-- A batch that is posted is received and sent; what comes after makes no entry. -/
theorem ledger_serve_batch {q : Request} (willing : Option Span) {i : Instance} {label : String} {request : WriteRequest}
    (hroute : (Route.dispatch i.telemetry q).outcome = some (label, .write)) (hbody : WriteRequest.decode q.body = .ok request)
    (h : i.store.Prompt) :
    ((serve q willing).run i).2.1.ledger =
      ((sendBatch .handle request.samples).run (receive request.samples.length (offered q i))).2.1.ledger := by
  have hstore : (receive request.samples.length (offered q i)).store.Prompt := by
    rw [store_receive, store_offered]
    exact h
  have hsettled := (run_sendBatch request.samples hstore).1
  rcases hsend : (sendBatch .handle request.samples).run (receive request.samples.length (offered q i)) with ⟨attempt, sent, events⟩
  rw [hsend] at hsettled
  obtain ⟨requestDuration, hserve⟩ := state_serve_batch willing hroute hbody hsend
  subst hsettled
  rw [hserve, state_awaitBatch]
  rfl

/-- A request that no route takes for a batch makes no entry. -/
theorem ledger_serve_other {q : Request} {willing : Option Span} {i : Instance}
    (hroute : ∀ label, (Route.dispatch i.telemetry q).outcome ≠ some (label, .write)) :
    ((serve q willing).run i).2.1.ledger = i.ledger := by
  have hoffered := ledger_offered q i
  unfold offered at hoffered
  unfold serve
  rw [Act.run_get_bind_state]
  simp only [Act.run_bind_state]
  split
  · rw [Act.run_pure]
    exact hoffered
  · next label h => exact absurd h (hroute label)
  · next label e _ _ =>
    rw [Act.run_bind_state, Act.run_bind_state, Act.run_pure, ledger_noteRequest, ledger_answer]
    exact hoffered

end Instance

/-! ## The journal -/

/-- A batch that was posted and could be decoded, and what became of it. -/
structure Posting where
  samples : List Sample
  /-- What the gate was told about leadership. -/
  verdict : Except ElectionError Bool
  attempt : Attempt
  /-- How many value rows the store gained. -/
  gained : Nat

namespace Posting

def size (p : Posting) : Nat := p.samples.length

def written (p : Posting) : Bool :=
  match p.attempt with
  | .settled (.ok .written) => true
  | _ => false

def failed (p : Posting) : Bool :=
  match p.attempt with
  | .settled (.error (.storage _)) => true
  | _ => false

/-- Whether the gate heard anything but that the instance leads. -/
def dropped (p : Posting) : Bool :=
  match p.verdict with
  | .ok true => false
  | _ => true

/-- A batch comes to one end, and a batch that is not written leaves no value row. -/
structure Sound (p : Posting) : Prop where
  once : p.written.toNat + p.failed.toNat + p.dropped.toNat = 1
  gained : p.gained = if p.written then p.size else 0
  unfit : p.verdict = .ok true → (∃ s ∈ p.samples, StagedRow.ofSample? s = none) → p.failed = true

/-- The ledger before and after a batch. -/
structure Entered (p : Posting) (l l' : Ledger) : Prop where
  received : l'.received = l.received.add (Binary64.ofNat p.size)
  sent : l'.sent = if p.written then l.sent.add (Binary64.ofNat p.size) else l.sent
  failed : l'.failed = if p.failed then l.failed.add (Binary64.ofNat p.size) else l.failed
  batches : l'.batches = l.batches + p.written.toNat
  rows : l'.tables.values.length = l.tables.values.length + if p.written then p.size else 0

end Posting

/-- How many samples the batches of a fate had. -/
def volume (fate : Posting → Bool) (journal : List Posting) : Nat := ((journal.filter fate).map Posting.size).sum

/-- How many samples there were in all. -/
def total (journal : List Posting) : Nat := (journal.map Posting.size).sum

theorem volume_append_one (fate : Posting → Bool) (journal : List Posting) (p : Posting) :
    volume fate (journal ++ [p]) = volume fate journal + if fate p then p.size else 0 := by
  unfold volume
  rw [List.filter_append, List.map_append, List.sum_append]
  cases h : fate p with
  | true => simp [h]
  | false => simp [h]

theorem total_append_one (journal : List Posting) (p : Posting) : total (journal ++ [p]) = total journal + p.size := by
  simp [total]

theorem volume_le_total (fate : Posting → Bool) (journal : List Posting) : volume fate journal ≤ total journal := by
  unfold volume total
  induction journal with
  | nil => simp
  | cons p rest ih =>
    rw [List.filter_cons]
    split
    · simp only [List.map_cons, List.sum_cons]
      omega
    · simp only [List.map_cons, List.sum_cons]
      omega

/-- The accounts of a ledger agree with a journal. -/
structure Balanced (l : Ledger) (journal : List Posting) : Prop where
  received : l.received = Binary64.ofNat (total journal)
  sent : l.sent = Binary64.ofNat (volume Posting.written journal)
  rows : l.tables.values.length = volume Posting.written journal
  failed : l.failed = Binary64.ofNat (volume Posting.failed journal)
  batches : l.batches = (journal.filter Posting.written).length
  dropped : total journal = volume Posting.written journal + volume Posting.failed journal + volume Posting.dropped journal

/-- A counter that takes in a batch or not counts numbers, as long as they are small. -/
theorem counter_append_one {fate : Posting → Bool} {journal : List Posting} {p : Posting}
    (hsmall : total (journal ++ [p]) < 2 ^ 53) :
    (if fate p then (Binary64.ofNat (volume fate journal)).add (Binary64.ofNat p.size) else Binary64.ofNat (volume fate journal)) =
      Binary64.ofNat (volume fate (journal ++ [p])) := by
  rw [total_append_one] at hsmall
  have hle := volume_le_total fate journal
  rw [volume_append_one]
  cases fate p with
  | false => rfl
  | true => exact Binary64.add_ofNat (by omega) (by omega)

/-- One batch more keeps the accounts, as long as there are not too many samples. -/
theorem Balanced.entered {l l' : Ledger} {journal : List Posting} {p : Posting} (h : Balanced l journal) (hsound : p.Sound)
    (hentered : p.Entered l l') (hsmall : total (journal ++ [p]) < 2 ^ 53) : Balanced l' (journal ++ [p]) where
  received := by
    have hsum := total_append_one journal p
    rw [hentered.received, h.received, hsum]
    exact Binary64.add_ofNat (by omega) (by omega)
  sent := by rw [hentered.sent, h.sent, counter_append_one hsmall]
  rows := by rw [hentered.rows, h.rows, volume_append_one]
  failed := by rw [hentered.failed, h.failed, counter_append_one hsmall]
  batches := by
    rw [hentered.batches, h.batches, List.filter_append, List.length_append]
    cases hw : p.written with
    | true => simp [hw]
    | false => simp [hw]
  dropped := by
    -- Exactly one of the three volumes grows with the total.
    have honce := hsound.once
    rw [total_append_one, volume_append_one, volume_append_one, volume_append_one, h.dropped]
    cases hw : p.written <;> cases hf : p.failed <;> cases hd : p.dropped <;>
      simp only [hw, hf, hd, Bool.toNat_true, Bool.toNat_false, if_true, if_false, Bool.false_eq_true] at honce ⊢ <;> omega

/-! ## Runs -/

/-- What can happen to an instance: a request, an act of the election, a fault of the store, time that passes. -/
inductive Happening where
  | request (q : Request) (willing : Option Span)
  | election (act : Act (Rounds × Instance.ElectionState) Unit)
  /-- From now on a phase fails for a reason, or none does. -/
  | fault (phase : Option (WritePhase × String))
  | wait (d : Span)

namespace Instance

/-- The store breaks at a phase, or is mended. -/
def breakAt (phase : Option (WritePhase × String)) (i : Instance) : Instance := { i with store := i.store.breakAt phase }

def step : Happening → Instance → Instance
  | .request q willing, i => ((serve q willing).run i).2.1
  | .election act, i => ((onRounds act).run i).2.1
  | .fault phase, i => i.breakAt phase
  | .wait d, i => ((sleep d).run i).2.1

/-- What becomes of a batch that reaches the gate. -/
def posting (samples : List Sample) (i : Instance) : Posting where
  samples
  verdict := i.verdict
  attempt := ((sendBatch .handle samples).run i).1
  gained := ((sendBatch .handle samples).run i).2.1.store.tables.values.length - i.store.tables.values.length

/-- The batch that something brings, if it brings one. -/
def posted : Happening → Instance → List Posting
  | .request q _, i =>
    match (Route.dispatch i.telemetry q).outcome, WriteRequest.decode q.body with
    | some (_, .write), .ok request => [posting request.samples (receive request.samples.length (offered q i))]
    | _, _ => []
  | _, _ => []

/-- The instance after some things have happened. -/
def after : List Happening → Instance → Instance
  | [], i => i
  | h :: rest, i => after rest (step h i)

/-- The batches that were posted while some things happened. -/
def journal : List Happening → Instance → List Posting
  | [], _ => []
  | h :: rest, i => posted h i ++ journal rest (step h i)

/-- An instance that has not taken in anything yet, on an empty store. -/
structure Fresh (i : Instance) : Prop where
  tables : i.store.tables = Tables.empty
  prompt : i.ledger.Prompt
  received : i.meters.received = Binary64.zero
  sent : i.meters.sent = []
  failed : i.meters.failed = []
  batchDuration : i.meters.batchDuration = []

/-- Making the meters of the routes counts nothing. -/
theorem foldl_touch_routes (routes : List Route) (m : Meters) :
    ∃ requestDuration, routes.foldl (fun m r => { m with requestDuration := m.requestDuration.touch Histogram.empty r.label }) m =
      { m with requestDuration } := by
  induction routes generalizing m with
  | nil => exact ⟨m.requestDuration, rfl⟩
  | cons r rest ih =>
    obtain ⟨requestDuration, h⟩ := ih { m with requestDuration := m.requestDuration.touch Histogram.empty r.label }
    exact ⟨requestDuration, h⟩

/-- An instance is fresh when it starts on an empty store. -/
theorem fresh_wire {i : Instance} (htables : i.store.tables = Tables.empty) (hprompt : i.ledger.Prompt)
    (hmeters : i.meters = Meters.empty) : ((wire i).run ()).1.Fresh := by
  obtain ⟨requestDuration, h⟩ := foldl_touch_routes (Route.table i.telemetry) i.meters
  have hwire : ((wire i).run ()).1.meters = { i.meters with requestDuration } := h
  rw [hmeters] at hwire
  exact ⟨htables, ⟨hprompt.delay, hprompt.fault, hprompt.flights⟩, by rw [hwire]; rfl, by rw [hwire]; rfl, by rw [hwire]; rfl,
    by rw [hwire]; rfl⟩

theorem balanced_of_fresh {i : Instance} (h : i.Fresh) : Balanced i.ledger [] := by
  have hzero : Binary64.zero = Binary64.ofNat 0 := by decide
  refine ⟨h.received.trans hzero, ?_, ?_, ?_, ?_, rfl⟩
  · simp only [ledger, h.sent]
    exact hzero
  · simp only [ledger, h.tables]
    rfl
  · simp only [ledger, h.failed]
    exact hzero
  · simp only [ledger, h.batchDuration]
    rfl

theorem posting_eq {i : Instance} (samples : List Sample) (h : i.store.Prompt) :
    posting samples i = ⟨samples, i.verdict, .settled (i.ending samples),
      (i.ledgerAfter samples).tables.values.length - i.store.tables.values.length⟩ := by
  obtain ⟨hresult, hledger⟩ := run_sendBatch samples h
  rw [posting, hresult, ← hledger]
  rfl

/-- A batch comes to one end, and that is the one that is entered in the ledger. -/
theorem posting_entered {i : Instance} {l : Ledger} (samples : List Sample) (h : i.store.Prompt)
    (hl : i.ledger = { l with received := l.received.add (Binary64.ofNat samples.length) }) :
    (posting samples i).Sound ∧ (posting samples i).Entered l ((sendBatch .handle samples).run i).2.1.ledger := by
  have htables : i.store.tables = l.tables := congrArg Ledger.tables hl
  have hrows := MemoryStore.length_values_tablesAfter i.store samples
  rw [posting_eq samples h, (run_sendBatch samples h).2]
  unfold ending ledgerAfter
  rw [htables] at hrows ⊢
  cases hv : i.verdict with
  | error e =>
    simp only [hl, Nat.sub_self]
    exact ⟨⟨rfl, rfl, nofun⟩, ⟨rfl, rfl, rfl, rfl, rfl⟩⟩
  | ok leads =>
    cases leads with
    | false =>
      simp only [hl, Nat.sub_self]
      exact ⟨⟨rfl, rfl, nofun⟩, ⟨rfl, rfl, rfl, rfl, rfl⟩⟩
    | true =>
      cases ha : i.store.answerTo samples with
      | error e =>
        simp only [hl, ha, outcome, Ledger.enter] at hrows ⊢
        rw [hrows, Nat.add_zero, Nat.sub_self]
        exact ⟨⟨rfl, rfl, fun _ _ => rfl⟩, ⟨rfl, rfl, rfl, rfl, hrows⟩⟩
      | ok u =>
        simp only [hl, ha, outcome, Ledger.enter] at hrows ⊢
        rw [hrows, Nat.add_sub_cancel_left]
        refine ⟨⟨rfl, rfl, fun _ hunfit => ?_⟩, ⟨rfl, rfl, rfl, rfl, hrows⟩⟩
        -- A batch with a sample that does not fit is not answered with success.
        obtain ⟨e, he⟩ := stageBatch_of_unfit false hunfit
        simp only [MemoryStore.answerTo, he] at ha
        cases ha

/-! ## What happens keeps the accounts -/

/-- A batch neither slows the store down nor lets its tasks end, and no write stays under way. -/
theorem prompt_ledgerAfter {i : Instance} (samples : List Sample) (h : i.ledger.Prompt) : (i.ledgerAfter samples).Prompt := by
  unfold ledgerAfter
  split
  · cases i.store.answerTo samples with
    | ok u => exact ⟨h.delay, h.fault, h.flights⟩
    | error e => exact ⟨h.delay, h.fault, h.flights⟩
  · exact h

theorem posted_batch {q : Request} {willing : Option Span} {i : Instance} {label : String} {request : WriteRequest}
    (hroute : (Route.dispatch i.telemetry q).outcome = some (label, .write)) (hbody : WriteRequest.decode q.body = .ok request) :
    posted (.request q willing) i = [posting request.samples (receive request.samples.length (offered q i))] := by
  simp only [posted, hroute, hbody]

/-- Only a request brings a batch, one that is routed there and can be decoded. -/
theorem batch_of_posted {h : Happening} {i : Instance} {p : Posting} (hposted : p ∈ posted h i) :
    ∃ q willing label request, h = .request q willing ∧ (Route.dispatch i.telemetry q).outcome = some (label, .write) ∧
      WriteRequest.decode q.body = .ok request := by
  cases h with
  | election act => cases hposted
  | wait d => cases hposted
  | fault phase => cases hposted
  | request q willing =>
    unfold posted at hposted
    dsimp only at hposted
    split at hposted
    · next label request hroute hbody => exact ⟨q, willing, label, request, rfl, hroute, hbody⟩
    · cases hposted

/-- Where nothing is posted the ledger stays as it is, but for a fault that is set. -/
theorem step_of_not_posted {h : Happening} {i : Instance} (hp : i.ledger.Prompt) (hposted : posted h i = []) :
    (step h i).ledger.Prompt ∧ (step h i).ledger = { i.ledger with fault := (step h i).ledger.fault } := by
  have hsame : ∀ j : Instance, j.ledger = i.ledger → j.ledger.Prompt ∧ j.ledger = { i.ledger with fault := j.ledger.fault } := by
    intro j hj
    rw [hj]
    exact ⟨hp, rfl⟩
  cases h with
  | election act => exact hsame _ (ledger_onRounds act i)
  | wait d => exact hsame _ (ledger_sleep hp.flights d)
  | fault phase =>
    exact ⟨⟨hp.delay, MemoryStore.mild_breakAt phase i.store, hp.flights⟩, rfl⟩
  | request q willing =>
    by_cases hroute : ∃ label, (Route.dispatch i.telemetry q).outcome = some (label, .write)
    · obtain ⟨label, hroute⟩ := hroute
      cases hbody : WriteRequest.decode q.body with
      | ok request =>
        rw [posted_batch hroute hbody] at hposted
        cases hposted
      | error e =>
        obtain ⟨-, requestDuration, hstate⟩ := serve_undecodable willing hroute hbody
        refine hsame _ ?_
        rw [step, hstate]
        rfl
    · exact hsame _ (ledger_serve_other fun label h => hroute ⟨label, h⟩)

/-- A batch that is posted is entered in the ledger. -/
theorem step_of_posted {h : Happening} {i : Instance} {p : Posting} (hp : i.ledger.Prompt) (hposted : p ∈ posted h i) :
    posted h i = [p] ∧ (step h i).ledger.Prompt ∧ p.Sound ∧ p.Entered i.ledger (step h i).ledger := by
  obtain ⟨q, willing, label, request, rfl, hroute, hbody⟩ := batch_of_posted hposted
  rw [posted_batch hroute hbody] at hposted ⊢
  obtain rfl := List.mem_singleton.1 hposted
  have hledger : (receive request.samples.length (offered q i)).ledger =
      { i.ledger with received := i.ledger.received.add (Binary64.ofNat request.samples.length) } := by
    rw [ledger_receive, ledger_offered]
  have hprompt : (receive request.samples.length (offered q i)).ledger.Prompt := by
    rw [hledger]
    exact ⟨hp.delay, hp.fault, hp.flights⟩
  obtain ⟨hsound, hentered⟩ := posting_entered request.samples (store_prompt hprompt) hledger
  rw [step, ledger_serve_batch willing hroute hbody (store_prompt hp)]
  refine ⟨rfl, ?_, hsound, hentered⟩
  rw [(run_sendBatch request.samples (store_prompt hprompt)).2]
  exact prompt_ledgerAfter request.samples hprompt

theorem prompt_step (h : Happening) {i : Instance} (hp : i.ledger.Prompt) : (step h i).ledger.Prompt := by
  cases hposted : posted h i with
  | nil => exact (step_of_not_posted hp hposted).1
  | cons p rest =>
    have hmem : p ∈ posted h i := hposted ▸ List.mem_cons_self
    exact (step_of_posted hp hmem).2.1

/-- What happens keeps the accounts, as long as there are not too many samples. -/
theorem step_balanced {h : Happening} {i : Instance} {journal : List Posting} (hp : i.ledger.Prompt)
    (hb : Balanced i.ledger journal) (hsmall : total (journal ++ posted h i) < 2 ^ 53) :
    Balanced (step h i).ledger (journal ++ posted h i) ∧ ∀ p ∈ posted h i, p.Sound := by
  cases hposted : posted h i with
  | nil =>
    rw [List.append_nil, (step_of_not_posted hp hposted).2]
    refine ⟨⟨hb.received, hb.sent, hb.rows, hb.failed, hb.batches, hb.dropped⟩, fun p hmem => ?_⟩
    exact absurd hmem List.not_mem_nil
  | cons p rest =>
    have hmem : p ∈ posted h i := hposted ▸ List.mem_cons_self
    obtain ⟨hone, -, hsound, hentered⟩ := step_of_posted hp hmem
    rw [hone] at hsmall
    obtain ⟨-, rfl⟩ := List.cons.inj (hposted.symm.trans hone)
    refine ⟨hb.entered hsound hentered hsmall, fun p' hp' => ?_⟩
    rw [List.mem_singleton.1 hp']
    exact hsound

/-- A run keeps the accounts, as long as there are not too many samples. -/
theorem after_balanced {happenings : List Happening} {i : Instance} {past : List Posting} (hp : i.ledger.Prompt)
    (hb : Balanced i.ledger past) (hsmall : total (past ++ journal happenings i) < 2 ^ 53) :
    Balanced (after happenings i).ledger (past ++ journal happenings i) ∧ ∀ p ∈ journal happenings i, p.Sound := by
  induction happenings generalizing i past with
  | nil =>
    rw [journal, List.append_nil]
    exact ⟨hb, fun p hmem => absurd hmem List.not_mem_nil⟩
  | cons h rest ih =>
    rw [journal, ← List.append_assoc] at hsmall ⊢
    have hfirst : total (past ++ posted h i) < 2 ^ 53 := by
      unfold total at hsmall ⊢
      rw [List.map_append, List.sum_append] at hsmall
      omega
    obtain ⟨hb', hsound⟩ := step_balanced hp hb hfirst
    obtain ⟨hbalanced, hrest⟩ := ih (prompt_step h hp) hb' hsmall
    refine ⟨hbalanced, fun p hmem => ?_⟩
    obtain hmem | hmem := List.mem_append.1 hmem
    · exact hsound p hmem
    · exact hrest p hmem

/-- Every sample that is posted is accounted for: at any time, the samples received are those of all batches that could be decoded,
the samples sent are those of the batches written and are the value rows of the store, the samples failed are those of the batches
whose write failed, none of which left a value row, and the rest was dropped. A body that cannot be decoded is refused and counted
nowhere. -/
theorem samples_accounted (happenings : List Happening) (i : Instance) (hi : i.Fresh)
    (hsmall : total (journal happenings i) < 2 ^ 53) :
    Balanced (after happenings i).ledger (journal happenings i) ∧ (∀ p ∈ journal happenings i, p.Sound) ∧
      ∀ (q : Request) (willing : Option Span) (label : String) (e : DecodeError),
        (Route.dispatch (after happenings i).telemetry q).outcome = some (label, .write) →
        WriteRequest.decode q.body = .error e →
        ((serve q willing).run (after happenings i)).1 = some { status := 400, body := e.text } ∧
          ∃ requestDuration, ((serve q willing).run (after happenings i)).2.1 =
            { after happenings i with meters := { (after happenings i).meters with requestDuration } } := by
  obtain ⟨hbalanced, hsound⟩ := after_balanced hi.prompt (balanced_of_fresh hi) hsmall
  exact ⟨hbalanced, hsound, fun q willing label e hroute hbody => serve_undecodable willing hroute hbody⟩

/-- An instance without an election, on an empty store. -/
def lone : Instance :=
  ((wire { store := { name := "memory" }, backend := .none, throughput := .new Span.zero, interval := Span.zero }).run ()).1

theorem fresh_lone : lone.Fresh := fresh_wire rfl ⟨rfl, nofun, rfl⟩ rfl

/-- A request that posts one sample of one series. -/
def onePost : Request where
  method := "POST"
  target := "/write"
  body := [0x1e, 0x74, 0x0a, 0x1c, 0x0a, 0x0d, 0x0a, 0x08, 0x5f, 0x5f, 0x6e, 0x61, 0x6d, 0x65, 0x5f, 0x5f, 0x12, 0x01, 0x6d, 0x12,
    0x0b, 0x09, 0x00, 0x00, 0x00, 0x00, 0x00, 0x00, 0xf0, 0x3f, 0x10, 0x01]

/-- Of two samples one is written, and the other fails because the store broke in between. -/
theorem samples_accounted_onePost :
    lone.Fresh ∧ total (journal [.request onePost none, .fault (some (.insertValues, "full")), .request onePost none] lone) = 2 ∧
      Balanced (after [.request onePost none, .fault (some (.insertValues, "full")), .request onePost none] lone).ledger
        (journal [.request onePost none, .fault (some (.insertValues, "full")), .request onePost none] lone) := by
  have htotal : total (journal [.request onePost none, .fault (some (.insertValues, "full")), .request onePost none] lone) = 2 := by
    decide +kernel
  exact ⟨fresh_lone, htotal, (samples_accounted _ lone fresh_lone (by rw [htotal]; decide)).1⟩

end Instance

end Intake
