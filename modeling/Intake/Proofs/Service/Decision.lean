import Intake.Proofs.Http.Route
import Intake.Proofs.Service.Accounting
import Intake.Proofs.Service.Frame
import Intake.Proofs.Text.Blank
import Intake.Proofs.Text.Utf8

/-!
# Decision: an instance that is told from outside whether it leads

Such an instance keeps one truth value, which a put on the path of the decision changes if its body says one (`Says`), and nothing else
does: no other request, no write that is under way, no tick (`Steady`). So after any run the instance goes by the last decision that was
put (`external_decision_followed`), also at its gate: a batch that is posted asks the store for a session exactly if the instance leads
then and the times of the batch fit, and a batch that is dropped leaves the store and the counters of its writes as they were (`Gated`).
-/

namespace Intake

/-! ## What a body says -/

/-- A body says a truth value: it is the text `true` or `false` with any blanks around it. -/
def Says (body : List UInt8) (leader : Bool) : Prop :=
  ∃ lead trail, (∀ c ∈ lead, isBlank c = true) ∧ (∀ c ∈ trail, isBlank c = true) ∧
    body = Utf8.bytes (String.ofList (lead ++ (Event.boolText leader).toList ++ trail))

theorem trimBlank_eq_boolText {s : String} {leader : Bool} : trimBlank s = Event.boolText leader ↔
    ∃ lead trail, (∀ c ∈ lead, isBlank c = true) ∧ (∀ c ∈ trail, isBlank c = true) ∧
      s = String.ofList (lead ++ (Event.boolText leader).toList ++ trail) := by
  have hne : (Event.boolText leader).toList ≠ [] := by cases leader <;> decide
  have hall : (Event.boolText leader).toList.all (fun c => !isBlank c) = true := by cases leader <;> decide
  have hword : ∀ c ∈ (Event.boolText leader).toList, isBlank c = false := by
    intro c hc
    simpa using List.all_eq_true.1 hall c hc
  have htrim : trimBlank s = Event.boolText leader ↔ trimEnds isBlank s.toList = (Event.boolText leader).toList := by
    rw [trimBlank, ← String.toList_inj, String.toList_ofList]
  rw [htrim, trimEnds_eq_iff hne hword]
  constructor
  · rintro ⟨lead, trail, hs, hlead, htrail⟩
    exact ⟨lead, trail, hlead, htrail, by rw [← hs, String.ofList_toList]⟩
  · rintro ⟨lead, trail, hlead, htrail, rfl⟩
    exact ⟨lead, trail, String.toList_ofList, hlead, htrail⟩

namespace Instance

/-- The program reads from a body what it says. -/
theorem decisionOf?_eq_some {body : List UInt8} {leader : Bool} : decisionOf? body = some leader ↔ Says body leader := by
  have hword : ∀ word : String, (if word = "true" then some true else if word = "false" then some false else none) = some leader ↔
      word = Event.boolText leader := by
    intro word
    by_cases htrue : word = "true"
    · cases leader <;> simp [htrue, Event.boolText]
    · cases leader <;> simp [htrue, Event.boolText]
  unfold decisionOf?
  rw [Option.bind_eq_some_iff]
  simp only [hword, trimBlank_eq_boolText, Utf8.decode?_eq_some]
  constructor
  · rintro ⟨s, hbody, lead, trail, hlead, htrail, rfl⟩
    exact ⟨lead, trail, hlead, htrail, hbody⟩
  · rintro ⟨lead, trail, hlead, htrail, hbody⟩
    exact ⟨_, hbody, lead, trail, hlead, htrail, rfl⟩

end Instance

instance (body : List UInt8) (leader : Bool) : Decidable (Says body leader) := decidable_of_iff _ Instance.decisionOf?_eq_some

/-- What happens comes from outside the election: a request, a fault of the store, or time that passes. -/
def Happening.isOutside : Happening → Bool
  | .election _ => false
  | _ => true

/-- What a happening decides: a put on the path of the decision decides what its body says. -/
def Happening.decided? : Happening → Option Bool
  | .request q _ =>
    if q.method = "PUT" ∧ Route.segments q.target = Route.decisionPath then
      if Says q.body true then some true else if Says q.body false then some false else none
    else none
  | _ => none

/-- The last decision of some happenings; without one, that the instance does not lead. -/
def lastDecision (past : List Happening) : Bool := (past.filterMap Happening.decided?).getLast?.getD false

namespace Instance

/-! ## What leaves the decision alone -/

/-- Somebody outside decides, and none of the tasks takes part in an election. -/
structure Guided (i : Instance) : Prop where
  backend : i.backend = .external
  samplers : ∀ t ∈ i.tickers, ∃ seen, t.task = .sampler seen

/-- A later instance that is under the same decision, and whose store may have been called further. -/
structure Steady (i j : Instance) : Prop where
  guided : j.Guided
  decision : j.decision = i.decision
  calls : i.store.calls <:+ j.store.calls

variable {i j k : Instance}

theorem Guided.steady (h : i.Guided) : i.Steady i := ⟨h, rfl, List.suffix_refl _⟩

theorem Steady.trans (hij : i.Steady j) (hjk : j.Steady k) : i.Steady k :=
  ⟨hjk.guided, hjk.decision.trans hij.decision, hij.calls.trans hjk.calls⟩

/-- Of a guided instance, what nothing of the decision can be seen of may change. -/
theorem Guided.steady_of_eq (h : i.Guided) (hbackend : j.backend = i.backend) (htickers : j.tickers = i.tickers)
    (hdecision : j.decision = i.decision) (hcalls : i.store.calls <:+ j.store.calls) : i.Steady j :=
  ⟨⟨hbackend.trans h.backend, htickers ▸ h.samplers⟩, hdecision, hcalls⟩

theorem calls_perform (m : MemoryStore) (s : MemorySession) (p : WritePhase) (rows : List StagedRow) :
    (m.perform s p rows).2.2.calls = m.calls := by
  rcases m.state_perform s p rows with h | h
  · rw [h]
    obtain ⟨staging⟩ := s
    cases p <;> cases staging <;> rfl
  · rw [h]

/-- Work on batches and time that passes leave the decision alone. -/
theorem clockFrame_steady : ClockFrame fun i j => i.Guided → i.Steady j where
  trans hij hjk hi := (hij hi).trans (hjk (hij hi).guided)
  counted _ _ _ _ hi := hi.steady_of_eq rfl rfl rfl (List.suffix_refl _)
  underWay _ _ _ hi := hi.steady_of_eq rfl rfl rfl (List.suffix_refl _)
  called _ _ _ hi := hi.steady_of_eq rfl rfl rfl (List.suffix_cons _ _)
  performed i s p rows hi := hi.steady_of_eq rfl rfl rfl ⟨[], by rw [calls_perform, List.nil_append]⟩
  waited _ _ hi := hi.steady_of_eq rfl rfl rfl (List.suffix_refl _)
  noticed _ _ hi := hi.steady_of_eq rfl rfl rfl (List.suffix_refl _)
  ticked i before after t ht hi := by
    -- Only the sampler ticks, and it goes on as one.
    obtain ⟨seen, htask⟩ := hi.samplers t (by simp [ht])
    rw [htask]
    refine ⟨⟨hi.backend, fun t' ht' => ?_⟩, rfl, List.suffix_refl _⟩
    rcases List.mem_append.1 ht' with hbefore | hafter
    · exact hi.samplers t' (by simp [ht, hbefore])
    · rcases List.mem_cons.1 hafter with rfl | hafter
      · exact ⟨_, rfl⟩
      · exact hi.samplers t' (by simp [ht, hafter])

/-- The gate asks somebody outside. -/
theorem run_admitted (h : i.backend = .external) : admitted.run i = (.ok (i.decision.leader, i.decision.id), i, []) := by
  obtain ⟨now, store, backend⟩ := i
  cases h
  rfl

theorem steady_sendBatch (hi : i.Guided) (purpose : Purpose) (samples : List Sample) :
    (sendBatch purpose samples).Yields i fun _ j => i.Steady j := by
  refine (clockFrame_steady.sendBatch (fun _ _ hi => ?_) (fun j hj => ?_) purpose samples i).mono fun _ j hj => hj hi
  · exact hi.steady_of_eq rfl rfl rfl (List.suffix_refl _)
  · rw [run_admitted hj.backend]
    exact hj.steady

/-! ## Requests on the path of the decision -/

/-- Nothing but the times of requests differs. -/
def OnlyTimed (i j : Instance) : Prop := ∃ requestDuration, j = { i with meters := { i.meters with requestDuration } }

theorem OnlyTimed.trans (hij : i.OnlyTimed j) (hjk : j.OnlyTimed k) : i.OnlyTimed k := by
  obtain ⟨d, rfl⟩ := hij
  obtain ⟨d', rfl⟩ := hjk
  exact ⟨d', rfl⟩

theorem OnlyTimed.steady (h : i.OnlyTimed j) (hi : i.Guided) : i.Steady j := by
  obtain ⟨d, rfl⟩ := h
  exact hi.steady_of_eq rfl rfl rfl (List.suffix_refl _)

theorem onlyTimed_offered (q : Request) (i : Instance) : i.OnlyTimed (offered q i) := offered_eq q i

/-- An endpoint other than the one for batches answers, and the time of the request is noted. -/
theorem serve_answer {q : Request} (willing : Option Span) {name : String} {e : Endpoint}
    (hroute : (Route.dispatch i.telemetry q).outcome = some (name, e)) (he : e ≠ .write) :
    ((serve q willing).run i).1 = some ((answer e q.body).run (offered q i)).1 ∧
      ((answer e q.body).run (offered q i)).2.1.OnlyTimed ((serve q willing).run i).2.1 := by
  unfold serve offered
  rw [Act.run_get_bind_result, Act.run_get_bind_state]
  simp only [Act.run_bind_result, Act.run_bind_state, hroute]
  generalize (((Route.dispatch i.telemetry q).refused.forM (noteRequest i.now)).run i).2.1 = o
  have htimed : ∀ k : Instance, k.OnlyTimed ((noteRequest i.now name).run k).2.1 := fun _ => ⟨_, rfl⟩
  cases e with
  | write => exact absurd rfl he
  | _ =>
    rw [Act.run_pure]
    exact ⟨rfl, htimed _⟩

theorem run_readLeader (h : i.backend = .external) (body : List UInt8) :
    (answer .readLeader body).run i = ({ status := 200, body := Event.boolText i.decision.leader }, i, []) := by
  obtain ⟨now, store, backend⟩ := i
  cases h
  rfl

/-- The instance under another decision. -/
def withDecision (leader : Bool) (i : Instance) : Instance := { i with decision := { i.decision with leader } }

theorem run_decideLeader (h : i.backend = .external) {body : List UInt8} {leader : Bool} (hbody : decisionOf? body = some leader) :
    ((answer .decideLeader body).run i).1 = { status := 200, body := Event.boolText leader } ∧
      ((answer .decideLeader body).run i).2.1 = i.withDecision leader := by
  obtain ⟨now, store, backend⟩ := i
  cases h
  rw [answer, Act.run_get_bind_result, Act.run_get_bind_state]
  simp only [hbody]
  exact ⟨rfl, rfl⟩

theorem run_decideLeader_of_other (h : i.backend = .external) {body : List UInt8} (hbody : decisionOf? body = none) :
    ((answer .decideLeader body).run i).1 = { status := 400, body := "body must be `true` or `false`" } ∧
      ((answer .decideLeader body).run i).2.1 = i := by
  obtain ⟨now, store, backend⟩ := i
  cases h
  rw [answer, Act.run_get_bind_result, Act.run_get_bind_state]
  simp only [hbody]
  exact ⟨rfl, rfl⟩

/-- An endpoint that makes no decision leaves the one that there is. -/
theorem steady_answer (hi : i.Guided) (e : Endpoint) (he : e ≠ .decideLeader) (body : List UInt8) :
    i.Steady ((answer e body).run i).2.1 := by
  rw [answer, Act.run_get_bind_state]
  cases e with
  | write => exact hi.steady
  | telemetry => exact hi.steady
  | decideLeader => exact absurd rfl he
  | readLeader => cases i.backend <;> exact hi.steady
  | health =>
    have hcheck : i.Steady (checkHealth.run i).2.1 := hi.steady_of_eq rfl rfl rfl (List.suffix_cons _ _)
    rw [Act.run_bind_state]
    cases (checkHealth.run i).1 <;> exact hcheck

/-! ## Posted batches -/

theorem steady_receive (hi : i.Guided) (count : Nat) (q : Request) : i.Steady (receive count (offered q i)) := by
  obtain ⟨d, h⟩ := offered_eq q i
  rw [h]
  exact hi.steady_of_eq rfl rfl rfl (List.suffix_refl _)

/-- What a posted batch does after it was sent leaves the decision alone. -/
theorem steady_serve_batch {q : Request} (willing : Option Span) {sent : Instance} {name : String} {request : WriteRequest}
    {attempt : Attempt} {events : List Event} (hroute : (Route.dispatch i.telemetry q).outcome = some (name, .write))
    (hbody : WriteRequest.decode q.body = .ok request)
    (hsend : (sendBatch .handle request.samples).run (receive request.samples.length (offered q i)) = (attempt, sent, events))
    (hsent : sent.Guided) : sent.Steady ((serve q willing).run i).2.1 := by
  obtain ⟨d, hserve⟩ := state_serve_batch willing hroute hbody hsend
  have hwait : sent.Steady ((awaitBatch willing attempt).run sent).2.1 := clockFrame_steady.awaitBatch willing attempt sent hsent
  rw [hserve]
  exact hwait.trans (OnlyTimed.steady ⟨d, rfl⟩ hwait.guided)

/-! ## Runs -/

/-- A request that decides nothing leaves the decision alone. -/
theorem steady_serve (hi : i.Guided) (q : Request) (willing : Option Span)
    (hroute : ∀ name, (Route.dispatch i.telemetry q).outcome = some (name, .decideLeader) → decisionOf? q.body = none) :
    i.Steady ((serve q willing).run i).2.1 := by
  have hoffered := (onlyTimed_offered q i).steady hi
  cases hout : (Route.dispatch i.telemetry q).outcome with
  | none =>
    have hserve : ((serve q willing).run i).2.1 = offered q i := by
      unfold serve
      rw [Act.run_get_bind_state]
      simp only [Act.run_bind_state, hout, Act.run_pure]
      rfl
    rw [hserve]
    exact hoffered
  | some x =>
    obtain ⟨name, e⟩ := x
    by_cases hwrite : e = .write
    · subst hwrite
      cases hbody : WriteRequest.decode q.body with
      | error err =>
        obtain ⟨-, htimed⟩ := serve_undecodable willing hout hbody
        exact OnlyTimed.steady htimed hi
      | ok request =>
        obtain ⟨r, hr⟩ : ∃ r, r = receive request.samples.length (offered q i) := ⟨_, rfl⟩
        have hreceived : i.Steady r := hr ▸ steady_receive hi request.samples.length q
        have hsent := steady_sendBatch hreceived.guided .handle request.samples
        rcases hsend : (sendBatch .handle request.samples).run r with ⟨attempt, sent, events⟩
        rw [Act.Yields, hsend] at hsent
        exact hreceived.trans (hsent.trans (steady_serve_batch willing hout hbody (hr ▸ hsend) hsent.guided))
    · obtain ⟨-, htimed⟩ := serve_answer willing hout hwrite
      have hanswer : (offered q i).Steady ((answer e q.body).run (offered q i)).2.1 := by
        by_cases hdecide : e = .decideLeader
        · subst hdecide
          rw [(run_decideLeader_of_other hoffered.guided.backend (hroute name hout)).2]
          exact hoffered.guided.steady
        · exact steady_answer hoffered.guided e hdecide q.body
      exact hoffered.trans (hanswer.trans (htimed.steady hanswer.guided))

/-- A put of a decision applies it. -/
theorem serve_decision (hi : i.Guided) {q : Request} (willing : Option Span) {leader : Bool} (hmethod : q.method = "PUT")
    (hpath : Route.segments q.target = Route.decisionPath) (hbody : Says q.body leader) :
    ((serve q willing).run i).1 = some { status := 200, body := Event.boolText leader } ∧
      (i.withDecision leader).OnlyTimed ((serve q willing).run i).2.1 := by
  have hroute := Route.dispatch_decision i.telemetry hpath (e := .decideLeader) (by rw [hmethod]; rfl)
  obtain ⟨hresult, htimed⟩ := serve_answer willing hroute (by decide)
  obtain ⟨d, hoffered⟩ := offered_eq q i
  obtain ⟨hanswer, hstate⟩ := run_decideLeader (i := offered q i) (by rw [hoffered]; exact hi.backend) (decisionOf?_eq_some.2 hbody)
  rw [hanswer] at hresult
  rw [hstate, hoffered] at htimed
  exact ⟨hresult, OnlyTimed.trans ⟨d, rfl⟩ htimed⟩

/-- What a put says is what the program reads from its body. -/
theorem decided?_request (q : Request) (willing : Option Span) : Happening.decided? (.request q willing) =
    if q.method = "PUT" ∧ Route.segments q.target = Route.decisionPath then decisionOf? q.body else none := by
  have hsays : (if Says q.body true then some true else if Says q.body false then some false else none) = decisionOf? q.body := by
    simp only [← decisionOf?_eq_some]
    rcases decisionOf? q.body with _ | leader
    · rfl
    · cases leader <;> rfl
  rw [Happening.decided?, hsays]

/-- A step makes the decision that happens, and no other. -/
theorem decision_step {h : Happening} (hi : i.Guided) (hh : h.isOutside = true) :
    (step h i).Guided ∧ (step h i).decision.leader = h.decided?.getD i.decision.leader := by
  have hsteady : ∀ {j : Instance}, i.Steady j → j.Guided ∧ j.decision.leader = i.decision.leader := fun hj =>
    ⟨hj.guided, congrArg ExternalDecision.leader hj.decision⟩
  cases h with
  | election act => cases hh
  | fault phase => exact hsteady (hi.steady_of_eq rfl rfl rfl (List.suffix_refl _))
  | wait d => exact hsteady (clockFrame_steady.sleep d i hi)
  | request q willing =>
    rw [decided?_request]
    by_cases hput : q.method = "PUT" ∧ Route.segments q.target = Route.decisionPath
    · rw [if_pos hput]
      cases hbody : decisionOf? q.body with
      | none => exact hsteady (steady_serve hi q willing fun _ _ => hbody)
      | some leader =>
        obtain ⟨-, d, hstate⟩ := serve_decision hi willing hput.1 hput.2 (decisionOf?_eq_some.1 hbody)
        rw [step, hstate]
        exact ⟨⟨hi.backend, hi.samplers⟩, rfl⟩
    · rw [if_neg hput]
      exact hsteady (steady_serve hi q willing fun _ hroute => absurd (Route.onPath_of_decideLeader hroute) hput)

/-- After a run the last decision counts. -/
theorem decision_after {past : List Happening} (hi : i.Guided) (hpast : past.all Happening.isOutside = true) :
    (after past i).Guided ∧
      (after past i).decision.leader = (past.filterMap Happening.decided?).getLast?.getD i.decision.leader := by
  induction past generalizing i with
  | nil => exact ⟨hi, rfl⟩
  | cons h rest ih =>
    rw [List.all_cons, Bool.and_eq_true] at hpast
    obtain ⟨hguided, hleader⟩ := decision_step hi hpast.1
    obtain ⟨hafter, hlast⟩ := ih hguided hpast.2
    refine ⟨hafter, ?_⟩
    rw [after, hlast, hleader, List.filterMap_cons]
    cases h.decided? with
    | none => rfl
    | some leader => simp [List.getLast?_cons]

/-! ## The gate -/

/-- What a posted batch leaves: the store is asked for a session exactly if the instance leads and the times of the batch fit; what it
answers is another matter. A batch that is dropped is received and nothing else. A batch whose times do not fit is rejected, and its
samples have failed. -/
structure Gated (i : Instance) (samples : List Sample) (j : Instance) : Prop where
  reached : StoreCall.phase .acquire :: i.store.calls <:+ j.store.calls ↔ i.decision.leader = true ∧ firstUnfit? samples = none
  dropped : i.decision.leader = false →
    j.store = i.store ∧ j.ledger = { i.ledger with received := i.ledger.received.add (Binary64.ofNat samples.length) }
  rejected : i.decision.leader = true → ∀ s, firstUnfit? samples = some s → j.store = i.store ∧
    j.ledger = { i.ledger with received := i.ledger.received.add (Binary64.ofNat samples.length) }.enter samples.length
      (.error (.timestampOutOfRange s.timestampMs))

/-- A batch is dropped where the instance does not lead. -/
theorem sendBatch_of_follower (hi : i.backend = .external) (hleader : i.decision.leader = false) (samples : List Sample) :
    (sendBatch .handle samples).Yields i fun attempt j =>
      attempt = .settled (.ok .notLeader) ∧ j.store = i.store ∧ j.ledger = i.ledger := by
  unfold sendBatch
  refine Act.yields_modify_bind.2 (Act.yields_bind.2 ?_)
  rw [Act.Yields, run_admitted (i := { i with liveness := i.liveness.touch i.now }) hi, hleader]
  exact ⟨rfl, rfl, ledger_feedThroughput _⟩

/-- A batch with a time that does not fit has failed before the store is asked. -/
theorem beginWrite_of_unfit {samples : List Sample} {s : Sample} (h : firstUnfit? samples = some s) (i : Instance) :
    (beginWrite .handle samples).Yields i fun attempt j =>
      attempt = .settled (.error (.storage (.timestampOutOfRange s.timestampMs))) ∧ j.store = i.store ∧
        j.ledger = i.ledger.enter samples.length (.error (.timestampOutOfRange s.timestampMs)) := by
  have hstart : (BatchWrite.start i.dump samples).1 = .error (.timestampOutOfRange s.timestampMs) := by
    rw [BatchWrite.fst_start, stageBatch_of_firstUnfit i.dump h]
    rfl
  unfold beginWrite
  refine Act.yields_get_bind.2 ?_
  dsimp only
  rw [hstart]
  refine Act.yields_report_bind.2 ?_
  have hstore : ∀ e, (finishWrite .handle samples.length i.now (.error e)).Yields i fun _ j => j.store = i.store := fun _ => rfl
  have hfinish : (finishWrite .handle samples.length i.now (.error (.timestampOutOfRange s.timestampMs))).Yields i fun _ j =>
      j.store = i.store ∧ j.ledger = i.ledger.enter samples.length (.error (.timestampOutOfRange s.timestampMs)) :=
    ⟨hstore _, ledger_finishWrite samples.length i.now _ i⟩
  exact hfinish.bind fun _ j hj => ⟨rfl, hj⟩

/-- A batch whose times fit asks the store for a session. -/
theorem beginWrite_of_fit {samples : List Sample} (h : firstUnfit? samples = none) (hi : i.Guided) :
    (beginWrite .handle samples).Yields i fun _ j => j.Guided ∧ StoreCall.phase .acquire :: i.store.calls <:+ j.store.calls := by
  obtain ⟨rows, hstage⟩ := stageBatch_of_fit i.dump (fits_of_firstUnfit_none h)
  have hstart : (BatchWrite.start i.dump samples).1 = .ok { rows } := by
    rw [BatchWrite.fst_start, hstage]
    rfl
  unfold beginWrite
  refine Act.yields_get_bind.2 ?_
  dsimp only
  rw [hstart]
  refine Act.yields_report_bind.2 (Act.yields_modify_bind.2 ?_)
  have hcall : (makeCall { id := i.nextFlight, write := { rows }, due := i.now, begun := i.now, purpose := .handle }).Yields
      { i with nextFlight := i.nextFlight + 1 } fun _ j => j.Guided ∧ j.store.calls = StoreCall.phase .acquire :: i.store.calls :=
    ⟨⟨hi.backend, hi.samplers⟩, rfl⟩
  refine hcall.bind fun f j hj => (clockFrame_steady.proceed f j).bind fun x k hk => ?_
  have hreached := (hk hj.1).calls
  rw [hj.2] at hreached
  cases x with
  | none => exact ⟨(hk hj.1).guided, hreached⟩
  | some e => exact ⟨(hk hj.1).guided, hreached⟩

/-- A batch of a leader is written. -/
theorem sendBatch_of_leader (hi : i.backend = .external) (hleader : i.decision.leader = true) (samples : List Sample)
    {Q : Attempt → Instance → Prop} (h : (beginWrite .handle samples).Yields { i with liveness := i.liveness.touch i.now } Q) :
    (sendBatch .handle samples).Yields i Q := by
  unfold sendBatch
  refine Act.yields_modify_bind.2 (Act.yields_bind.2 ?_)
  rw [Act.Yields, run_admitted (i := { i with liveness := i.liveness.touch i.now }) hi, hleader]
  exact h

theorem sendBatch_of_unfit {samples : List Sample} {s : Sample} (h : firstUnfit? samples = some s) (hi : i.backend = .external)
    (hleader : i.decision.leader = true) :
    (sendBatch .handle samples).Yields i fun attempt j =>
      attempt = .settled (.error (.storage (.timestampOutOfRange s.timestampMs))) ∧ j.store = i.store ∧
        j.ledger = i.ledger.enter samples.length (.error (.timestampOutOfRange s.timestampMs)) :=
  sendBatch_of_leader hi hleader samples (beginWrite_of_unfit h _)

theorem sendBatch_of_fit {samples : List Sample} (h : firstUnfit? samples = none) (hi : i.Guided) (hleader : i.decision.leader = true) :
    (sendBatch .handle samples).Yields i fun _ j => j.Guided ∧ StoreCall.phase .acquire :: i.store.calls <:+ j.store.calls :=
  sendBatch_of_leader hi.backend hleader samples (beginWrite_of_fit h ⟨hi.backend, hi.samplers⟩)

/-- The store was not asked for a session if it is as it was. -/
theorem not_reached (h : j.store = i.store) : ¬StoreCall.phase .acquire :: i.store.calls <:+ j.store.calls := by
  intro hreached
  have hle := hreached.length_le
  rw [h, List.length_cons] at hle
  omega

theorem gated_of_dropped {samples : List Sample} (hleader : i.decision.leader = false) (hstore : j.store = i.store)
    (hledger : j.ledger = { i.ledger with received := i.ledger.received.add (Binary64.ofNat samples.length) }) :
    i.Gated samples j where
  reached := iff_of_false (not_reached hstore) fun h => by cases hleader.symm.trans h.1
  dropped _ := ⟨hstore, hledger⟩
  rejected h := by cases hleader.symm.trans h

theorem gated_of_rejected {samples : List Sample} {s : Sample} (hleader : i.decision.leader = true) (hunfit : firstUnfit? samples = some s)
    (hstore : j.store = i.store)
    (hledger : j.ledger = { i.ledger with received := i.ledger.received.add (Binary64.ofNat samples.length) }.enter samples.length
      (.error (.timestampOutOfRange s.timestampMs))) :
    i.Gated samples j where
  reached := iff_of_false (not_reached hstore) fun h => by cases hunfit.symm.trans h.2
  dropped h := by cases hleader.symm.trans h
  rejected _ s' hs' := by
    cases hunfit.symm.trans hs'
    exact ⟨hstore, hledger⟩

theorem gated_of_reached {samples : List Sample} (hleader : i.decision.leader = true) (hfit : firstUnfit? samples = none)
    (hreached : StoreCall.phase .acquire :: i.store.calls <:+ j.store.calls) : i.Gated samples j where
  reached := iff_of_true hreached ⟨hleader, hfit⟩
  dropped h := by cases hleader.symm.trans h
  rejected _ s hs := by cases hfit.symm.trans hs

/-- A batch that was settled when it was sent leaves nothing more than the time of its request. -/
theorem onlyTimed_serve_settled {q : Request} (willing : Option Span) {sent : Instance} {name : String} {request : WriteRequest}
    {result : Except Failure WriteOutcome} {events : List Event} (hroute : (Route.dispatch i.telemetry q).outcome = some (name, .write))
    (hbody : WriteRequest.decode q.body = .ok request)
    (hsend : (sendBatch .handle request.samples).run (receive request.samples.length (offered q i)) = (.settled result, sent, events)) :
    sent.OnlyTimed ((serve q willing).run i).2.1 := by
  obtain ⟨d, hserve⟩ := state_serve_batch willing hroute hbody hsend
  rw [state_awaitBatch] at hserve
  exact ⟨d, hserve⟩

/-- A post of a batch that could be decoded goes through the gate. -/
theorem serve_gated (hi : i.Guided) {q : Request} (willing : Option Span) {request : WriteRequest} (hmethod : q.method = "POST")
    (hpath : Route.segments q.target = ["write"]) (hbody : WriteRequest.decode q.body = .ok request) :
    i.Gated request.samples ((serve q willing).run i).2.1 := by
  have hroute := Route.dispatch_write i.telemetry hmethod hpath
  obtain ⟨r, hr⟩ : ∃ r, r = receive request.samples.length (offered q i) := ⟨_, rfl⟩
  have hreceived : i.Steady r := hr ▸ steady_receive hi request.samples.length q
  have hstore : r.store = i.store := by rw [hr, store_receive, store_offered]
  have hledger : r.ledger = { i.ledger with received := i.ledger.received.add (Binary64.ofNat request.samples.length) } := by
    rw [hr, ledger_receive, ledger_offered]
  have hleader : r.decision.leader = i.decision.leader := congrArg ExternalDecision.leader hreceived.decision
  rcases hsend : (sendBatch .handle request.samples).run r with ⟨attempt, sent, events⟩
  cases hdecided : i.decision.leader with
  | false =>
    have hsent := sendBatch_of_follower hreceived.guided.backend (hleader.trans hdecided) request.samples
    rw [Act.Yields, hsend] at hsent
    obtain ⟨rfl, hsentStore, hsentLedger⟩ := hsent
    obtain ⟨d, hserve⟩ := onlyTimed_serve_settled willing hroute hbody (hr ▸ hsend)
    rw [hserve]
    exact gated_of_dropped hdecided (hsentStore.trans hstore) (hsentLedger.trans hledger)
  | true =>
    cases hfirst : firstUnfit? request.samples with
    | some s =>
      have hsent := sendBatch_of_unfit hfirst hreceived.guided.backend (hleader.trans hdecided)
      rw [Act.Yields, hsend] at hsent
      obtain ⟨rfl, hsentStore, hsentLedger⟩ := hsent
      obtain ⟨d, hserve⟩ := onlyTimed_serve_settled willing hroute hbody (hr ▸ hsend)
      rw [hledger] at hsentLedger
      rw [hserve]
      exact gated_of_rejected hdecided hfirst (hsentStore.trans hstore) hsentLedger
    | none =>
      have hsent := sendBatch_of_fit hfirst hreceived.guided (hleader.trans hdecided)
      rw [Act.Yields, hsend, hstore] at hsent
      have hserve := steady_serve_batch willing hroute hbody (hr ▸ hsend) hsent.1
      exact gated_of_reached hdecided hfirst (hsent.2.trans hserve.calls)

/-! ## What an instance does under a decision -/

/-- An instance goes by a decision: it answers with it who asks, takes a new one from a body that says one and from no other, and lets
batches through by it. -/
structure Obeys (i : Instance) (leader : Bool) : Prop where
  held : i.decision.leader = leader
  read : ∀ (q : Request) (willing : Option Span), q.method = "GET" → Route.segments q.target = Route.decisionPath →
    ((serve q willing).run i).1 = some { status := 200, body := Event.boolText leader } ∧ i.OnlyTimed ((serve q willing).run i).2.1
  decided : ∀ (q : Request) (willing : Option Span) (next : Bool), q.method = "PUT" →
    Route.segments q.target = Route.decisionPath → Says q.body next →
    ((serve q willing).run i).1 = some { status := 200, body := Event.boolText next } ∧
      (i.withDecision next).OnlyTimed ((serve q willing).run i).2.1
  refused : ∀ (q : Request) (willing : Option Span), q.method = "PUT" → Route.segments q.target = Route.decisionPath →
    (∀ next, ¬Says q.body next) →
    ((serve q willing).run i).1 = some { status := 400, body := "body must be `true` or `false`" } ∧
      i.OnlyTimed ((serve q willing).run i).2.1
  gated : ∀ (q : Request) (willing : Option Span) (request : WriteRequest), q.method = "POST" → Route.segments q.target = ["write"] →
    WriteRequest.decode q.body = .ok request → i.Gated request.samples ((serve q willing).run i).2.1

/-- A read of the decision answers it. -/
theorem serve_read (hi : i.Guided) {q : Request} (willing : Option Span) (hmethod : q.method = "GET")
    (hpath : Route.segments q.target = Route.decisionPath) :
    ((serve q willing).run i).1 = some { status := 200, body := Event.boolText i.decision.leader } ∧
      i.OnlyTimed ((serve q willing).run i).2.1 := by
  have hroute := Route.dispatch_decision i.telemetry hpath (e := .readLeader) (by rw [hmethod]; rfl)
  obtain ⟨hresult, htimed⟩ := serve_answer willing hroute (by decide)
  have hoffered := (onlyTimed_offered q i).steady hi
  rw [run_readLeader hoffered.guided.backend, hoffered.decision] at hresult
  rw [run_readLeader hoffered.guided.backend] at htimed
  exact ⟨hresult, (onlyTimed_offered q i).trans htimed⟩

/-- A put that says neither truth value is refused. -/
theorem serve_refused (hi : i.Guided) {q : Request} (willing : Option Span) (hmethod : q.method = "PUT")
    (hpath : Route.segments q.target = Route.decisionPath) (hbody : ∀ next, ¬Says q.body next) :
    ((serve q willing).run i).1 = some { status := 400, body := "body must be `true` or `false`" } ∧
      i.OnlyTimed ((serve q willing).run i).2.1 := by
  have hroute := Route.dispatch_decision i.telemetry hpath (e := .decideLeader) (by rw [hmethod]; rfl)
  obtain ⟨hresult, htimed⟩ := serve_answer willing hroute (by decide)
  have hoffered := (onlyTimed_offered q i).steady hi
  have hnone : decisionOf? q.body = none := Option.eq_none_iff_forall_ne_some.2 fun next h => hbody next (decisionOf?_eq_some.1 h)
  obtain ⟨hanswer, hstate⟩ := run_decideLeader_of_other hoffered.guided.backend hnone
  rw [hanswer] at hresult
  rw [hstate] at htimed
  exact ⟨hresult, (onlyTimed_offered q i).trans htimed⟩

theorem obeys_of_guided (hi : i.Guided) : i.Obeys i.decision.leader where
  held := rfl
  read _ willing hmethod hpath := serve_read hi willing hmethod hpath
  decided _ willing _ hmethod hpath hbody := serve_decision hi willing hmethod hpath hbody
  refused _ willing hmethod hpath hbody := serve_refused hi willing hmethod hpath hbody
  gated _ willing _ hmethod hpath hbody := serve_gated hi willing hmethod hpath hbody

/-- An instance that starts as a follower and is decided about from outside goes, after any requests, faults of its store and waits, by
the last decision that somebody put, whatever its store is like and whatever writes are under way. -/
theorem external_decision_followed {past : List Happening} {i : Instance} (hi : i.Guided) (hfollows : i.decision.leader = false)
    (hpast : past.all Happening.isOutside = true) : (after past i).Obeys (lastDecision past) := by
  obtain ⟨hguided, hleader⟩ := decision_after hi hpast
  have hobeys := obeys_of_guided hguided
  rw [hleader, hfollows] at hobeys
  exact hobeys

/-- An instance that is decided about from outside, on an empty store. -/
def follower : Instance :=
  ((wire { store := { name := "memory" }, backend := .external, throughput := .new Span.zero, interval := Span.zero }).run ()).1

theorem guided_follower : follower.Guided := ⟨rfl, nofun⟩

/-- A request that puts a body on the path of the decision. -/
def decisionPut (body : List UInt8) : Request := { method := "PUT", target := "/admin/leader", body }

/-- Two puts, of the text `true` with blanks around it and of the text `True`. -/
def twoPuts : List Happening :=
  [.request (decisionPut [0x20, 0x74, 0x72, 0x75, 0x65, 0x0a]) none, .request (decisionPut [0x54, 0x72, 0x75, 0x65]) none]

/-- The first one decides, and the other one does not. -/
theorem external_decision_followed_twoPuts : lastDecision twoPuts = true ∧ (after twoPuts follower).Obeys true := by
  have hlast : lastDecision twoPuts = true := by decide +kernel
  have hobeys : (after twoPuts follower).Obeys (lastDecision twoPuts) := external_decision_followed guided_follower rfl rfl
  rw [hlast] at hobeys
  exact ⟨hlast, hobeys⟩

/-- A request that posts one sample whose time does not fit. -/
def latePost : Request where
  method := "POST"
  target := "/write"
  body := [0x26, 0x94, 0x0a, 0x24, 0x0a, 0x0d, 0x0a, 0x08, 0x5f, 0x5f, 0x6e, 0x61, 0x6d, 0x65, 0x5f, 0x5f, 0x12, 0x01, 0x6d, 0x12,
    0x13, 0x09, 0x00, 0x00, 0x00, 0x00, 0x00, 0x00, 0xf0, 0x3f, 0x10, 0xff, 0xff, 0xff, 0xff, 0xff, 0xff, 0xff, 0xff, 0x7f]

/-- It can be decoded, but also a leader does not ask the store for a session then, and counts the sample as failed. -/
theorem late_batch_not_reached :
    (WriteRequest.decode latePost.body).toOption.isSome = true ∧
      (after [.request (decisionPut [0x74, 0x72, 0x75, 0x65]) none] follower).decision.leader = true ∧
      (after [.request (decisionPut [0x74, 0x72, 0x75, 0x65]) none, .request latePost none] follower).store.calls = [] ∧
      (after [.request (decisionPut [0x74, 0x72, 0x75, 0x65]) none, .request latePost none] follower).ledger.failed = Binary64.ofNat 1 := by
  refine ⟨?_, ?_, ?_, ?_⟩ <;> decide +kernel

end Instance

end Intake
