import Intake.Proofs.Http.Path
import Intake.Proofs.Service.Decision

/-!
# Routing: which requests are handled, and by what

A request is handled by the endpoint that it asks for (`HandledBy`), and refused if it asks for none (`Refused`): with the word that the
method is wrong if something is offered under its path by another method, and that there is no such path otherwise. What its path is,
says `Route.LeadsTo`; all of this is `routing_exact`, for every telemetry segment that the settings accept and that no other route has.
The settings accept `healthz` too: then the meters are not shown, since the route of the health comes first (`telemetry_served_iff`).
-/

namespace Intake

namespace Instance

open Route

/-! ## What answers a request -/

/-- What comes of a posted body: an answer at once, or a wait for the batch. -/
def reply (willing : Option Span) : Response ⊕ Attempt → Act Instance (Option Response)
  | .inl r => return some r
  | .inr a => awaitBatch willing a

/-- The handler of an endpoint. -/
def handle (q : Request) (willing : Option Span) : Endpoint → Act Instance (Option Response)
  | .write => do reply willing (← postBatch q.body)
  | e => do return some (← answer e q.body)

/-- Gives an answer, and notes it for a route if somebody still hears it. -/
def noteAnswer (begun : Nat) (name : String) (response : Option Response) : Act Instance (Option Response) := do
  if response.isSome then noteRequest begun name else pure ()
  return response

/-- The handler of an endpoint answers a request, and no other one does: before it and after it only the times of requests are noted. -/
def HandledBy (i : Instance) (q : Request) (willing : Option Span) (e : Endpoint) : Prop :=
  ∃ before response handled events after, i.OnlyTimed before ∧ (handle q willing e).run before = (response, handled, events) ∧
    handled.OnlyTimed after ∧ (serve q willing).run i = (response, after, events)

/-- A request is answered without a handler: only times of requests are noted. -/
def Refused (i : Instance) (q : Request) (willing : Option Span) (r : Response) : Prop :=
  ∃ after, i.OnlyTimed after ∧ (serve q willing).run i = (some r, after, [])

variable {i : Instance} {q : Request} {willing : Option Span} {e : Endpoint}

theorem onlyTimed_refl (i : Instance) : i.OnlyTimed i := ⟨i.meters.requestDuration, rfl⟩

theorem run_noteRequest (begun : Nat) (name : String) (i : Instance) :
    ∃ after, i.OnlyTimed after ∧ (noteRequest begun name).run i = ((), after, []) := ⟨_, ⟨_, rfl⟩, rfl⟩

/-- Routes that refuse a request report nothing. -/
theorem run_notes (begun : Nat) (names : List String) (i : Instance) :
    (names.forM (noteRequest begun)).run i = ((), ((names.forM (noteRequest begun)).run i).2.1, []) := by
  induction names generalizing i with
  | nil => rfl
  | cons name rest ih =>
    obtain ⟨after, -, hnote⟩ := run_noteRequest begun name i
    have hrest : ((name :: rest).forM (noteRequest begun)).run i = (rest.forM (noteRequest begun)).run after := Act.run_bind_quiet hnote
    rw [hrest]
    exact ih after

theorem run_noteAnswer (begun : Nat) (name : String) (response : Option Response) (i : Instance) :
    ∃ after, i.OnlyTimed after ∧ (noteAnswer begun name response).run i = (response, after, []) := by
  cases response with
  | none => exact ⟨i, onlyTimed_refl i, rfl⟩
  | some r => exact ⟨_, ⟨_, rfl⟩, rfl⟩

/-- A request that a route takes is handled by the endpoint that the route leads to. -/
theorem handledBy_of_outcome {name : String} (h : (dispatch i.telemetry q).outcome = some (name, e)) : i.HandledBy q willing e := by
  -- The routes before have noted the request; what is left to run is what the outcome says.
  have hserve : (serve q willing).run i = _ := (Act.run_get_bind _ i).trans (Act.run_bind_quiet (run_notes i.now _ i))
  dsimp only at hserve
  rw [h] at hserve
  cases e with
  | write =>
    rcases hpost : (postBatch q.body).run (offered q i) with ⟨posted, sent, es⟩
    rcases hreply : (reply willing posted).run sent with ⟨response, handled, es'⟩
    obtain ⟨after, hafter, hnote⟩ := run_noteAnswer i.now name response handled
    refine ⟨offered q i, response, handled, es ++ es', after, onlyTimed_offered q i, Act.run_bind_eq hpost hreply, hafter, ?_⟩
    rw [← List.append_nil es']
    cases posted with
    | inl r => exact hserve.trans (Act.run_bind_eq hpost (Act.run_bind_eq hreply hnote))
    | inr a => exact hserve.trans (Act.run_bind_eq hpost (Act.run_bind_eq hreply hnote))
  | _ =>
    rcases hanswer : (answer _ q.body).run (offered q i) with ⟨r, handled, es⟩
    obtain ⟨after, hafter, hnote⟩ := run_noteAnswer i.now name (some r) handled
    refine ⟨offered q i, some r, handled, es ++ [], after, onlyTimed_offered q i, Act.run_bind_eq hanswer rfl, hafter, ?_⟩
    exact hserve.trans (Act.run_bind_eq hanswer hnote)

/-- A request that no route takes is refused. -/
theorem refused_of_outcome (h : (dispatch i.telemetry q).outcome = none) :
    i.Refused q willing (unrouted (dispatch i.telemetry q).wrongMethod) := by
  have hserve : (serve q willing).run i = _ := (Act.run_get_bind _ i).trans (Act.run_bind_quiet (run_notes i.now _ i))
  dsimp only at hserve
  rw [h] at hserve
  exact ⟨offered q i, onlyTimed_offered q i, hserve⟩

/-! ## Exact routing -/

/-- What is offered is handled, by one handler, and nothing else is: what is offered by another method is refused for its method, and
all else because there is no such path. -/
structure RoutedExactly (i : Instance) (q : Request) (willing : Option Span) : Prop where
  unique : ∀ e e', Asks i.telemetry q e → Asks i.telemetry q e' → e = e'
  handled : ∀ e, Asks i.telemetry q e → i.HandledBy q willing e
  wrongMethod : (∀ e, ¬Asks i.telemetry q e) → (∃ path, Known i.telemetry path ∧ LeadsTo q.target path) →
    i.Refused q willing { status := 405, body := "HTTP method not allowed" }
  unknown : (∀ path, Known i.telemetry path → ¬LeadsTo q.target path) → i.Refused q willing { status := 404, isText := false, body := "" }

/-- Whatever telemetry segment the settings accept, routing is exact, unless another route has that segment too. -/
theorem routing_exact (s : WebSettings) (hs : s.check = .ok ()) (hwrite : s.telemetrySegment ≠ "write")
    (hhealth : s.telemetrySegment ≠ "healthz") (i : Instance) (hi : i.telemetry = s.telemetrySegment) (q : Request)
    (willing : Option Span) : i.RoutedExactly q willing := by
  have hpiece : IsPiece i.telemetry := hi ▸ isPiece_of_check hs
  have hsegment : Segment i.telemetry := ⟨hpiece.2, hi ▸ hwrite, hi ▸ hhealth⟩
  have hrefused : (∀ e, ¬Asks i.telemetry q e) → i.Refused q willing (unrouted (dispatch i.telemetry q).wrongMethod) :=
    fun hasks => refused_of_outcome (outcome_eq_none (takes_eq_false_of_not_asks hpiece hasks))
  refine ⟨fun e e' he he' => he.unique hpiece hsegment he', fun e he => ?_, fun hasks hknown => ?_, fun hunknown => ?_⟩
  · obtain ⟨name, hname⟩ := outcome_of_asks hpiece hsegment he
    exact handledBy_of_outcome hname
  · have hmethod := (wrongMethod_iff_known hpiece hasks).2 hknown
    have hanswer := hrefused hasks
    rw [hmethod] at hanswer
    exact hanswer
  · have hasks : ∀ e, ¬Asks i.telemetry q e := fun e ⟨path, hleads, hoffers⟩ => hunknown path ⟨q.method, e, hoffers⟩ hleads
    have hmethod : (dispatch i.telemetry q).wrongMethod = false := by
      refine Bool.eq_false_iff.2 fun hmethod => ?_
      obtain ⟨path, hknown, hleads⟩ := (wrongMethod_iff_known hpiece hasks).1 hmethod
      exact hunknown path hknown hleads
    have hanswer := hrefused hasks
    rw [hmethod] at hanswer
    exact hanswer

/-- A request without a body. -/
def look (method target : String) : Request := { method, target, body := [] }

/-- The meters of an instance with the settings that nobody changed are on one path, and a delete there is refused. -/
theorem routing_exact_metrics :
    lone.HandledBy (look "GET" "/metrics/") none .telemetry ∧
      lone.Refused (look "DELETE" "/metrics") none { status := 405, body := "HTTP method not allowed" } := by
  have hcheck : WebSettings.check {} = .ok () := by decide
  have hpath : Offers lone.telemetry "/metrics" "GET" .telemetry := .telemetry
  have hexact := routing_exact {} hcheck (by decide) (by decide) lone (by decide)
  refine ⟨(hexact (look "GET" "/metrics/") none).handled .telemetry ⟨"/metrics", .inl (.inr (by decide)), hpath⟩, ?_⟩
  refine (hexact (look "DELETE" "/metrics") none).wrongMethod ?_ ⟨"/metrics", ⟨"GET", .telemetry, hpath⟩, .inl (.inl (by decide))⟩
  have hmethods : ∀ {path method e}, Offers lone.telemetry path method e → method ≠ "DELETE" := by
    rintro path method e (_ | _) <;> decide
  exact fun e ⟨path, _, hoffers⟩ => hmethods hoffers rfl

/-- The target that is but a star has no slash and so none of the paths, and yet it is not refused where the segment is a star. -/
theorem bare_star_answered :
    WebSettings.check { telemetryPath := "*" } = .ok () ∧ WebSettings.telemetrySegment { telemetryPath := "*" } = "*" ∧
      (∀ path, Known "*" path → ¬HasPath "*" path) ∧
        ((serve (look "GET" "*") none).run { lone with telemetry := "*" }).1.map Response.status = some 200 := by
  refine ⟨by decide, by decide, ?_, by decide +kernel⟩
  rintro path ⟨method, e, hoffers⟩
  cases hoffers <;> decide

/-! ## The path of the meters -/

/-- A request is answered with the exposition of the meters as they stand when it reaches its route, and nothing but times of requests
is noted. -/
def ShowsMeters (i : Instance) (q : Request) (willing : Option Span) : Prop :=
  ∃ before after, i.OnlyTimed before ∧ before.OnlyTimed after ∧
    (serve q willing).run i = (some { status := 200, body := before.meters.exposition }, after, [])

theorem showsMeters_of_handledBy (h : i.HandledBy q willing .telemetry) : i.ShowsMeters q willing := by
  obtain ⟨before, response, handled, events, after, hbefore, hhandle, hafter, hserve⟩ := h
  cases hhandle
  exact ⟨before, after, hbefore, hafter, hserve⟩

/-- Who asks for the health asks the store. -/
theorem calls_handle_health (q : Request) (willing : Option Span) (i : Instance) :
    ((handle q willing .health).run i).2.1.store.calls = .ping :: i.store.calls := by
  have hping : (checkHealth.run i).2.1.store.calls = .ping :: i.store.calls := by
    unfold checkHealth MemoryStore.ping
    rfl
  have hanswer : ((answer .health q.body).run i).2.1 = (checkHealth.run i).2.1 := by
    rw [answer, Act.run_get_bind_state, Act.run_bind_state]
    cases (checkHealth.run i).1 <;> rfl
  have hhandle : ((handle q willing .health).run i).2.1 = ((answer .health q.body).run i).2.1 := rfl
  rw [hhandle, hanswer, hping]

theorem OnlyTimed.calls {i j : Instance} (h : i.OnlyTimed j) : j.store.calls = i.store.calls := by
  obtain ⟨d, rfl⟩ := h
  rfl

/-- A request for the health does not show the meters: that would not ask the store. -/
theorem not_showsMeters_of_handledBy (h : i.HandledBy q willing .health) : ¬i.ShowsMeters q willing := by
  rintro ⟨before', after', hbefore', hafter', hserve'⟩
  obtain ⟨before, response, handled, events, after, hbefore, hhandle, hafter, hserve⟩ := h
  have hcalls := calls_handle_health q willing before
  rw [hhandle] at hcalls
  have hsame : after' = after := (Prod.ext_iff.1 (Prod.ext_iff.1 (hserve'.symm.trans hserve)).2).1
  have hkept : after.store.calls = i.store.calls := by rw [← hsame, hafter'.calls, hbefore'.calls]
  have hasked : after.store.calls = .ping :: i.store.calls := by rw [hafter.calls, hcalls, hbefore.calls]
  exact List.cons_ne_self _ _ (hasked.symm.trans hkept)

/-- The web section of settings that passed their check passes its own. -/
theorem check_web {s : Settings} (h : s.check = .ok ()) : s.web.check = .ok () := by
  unfold Settings.check at h
  split at h
  · cases h
  · next hweb => exact hweb

/-- Whatever settings are accepted, a look at the path of the meters shows them exactly if that path is not the one of the health, which
is asked for otherwise. A target has the path unless a query or a fragment would begin in it; a target is any text here, also one that
no request can carry, such as one with a blank, a control character or one of `<`, `>` and the backtick in it. -/
theorem telemetry_served_iff (s : Settings) (hs : s.check = .ok ()) :
    (∀ (i : Instance) (q : Request) (willing : Option Span), i.telemetry = s.web.telemetrySegment → q.method = "GET" →
      LeadsTo q.target ("/" ++ s.web.telemetrySegment) →
        (i.ShowsMeters q willing ↔ s.web.telemetrySegment ≠ "healthz") ∧
          (s.web.telemetrySegment = "healthz" → i.HandledBy q willing .health)) ∧
      ((∃ target, HasPath target ("/" ++ s.web.telemetrySegment)) ↔ ∀ c ∈ s.web.telemetrySegment.toList, endsPath c = false) := by
  have hpiece := isPiece_of_check (check_web hs)
  refine ⟨fun i q willing hi hmethod hleads => ?_, exists_hasPath_iff⟩
  have hpath : segments q.target = [i.telemetry] := by
    rw [hi]
    exact (segments_eq_iff (List.cons_ne_nil _ _) (List.forall_mem_singleton.2 hpiece)).2 hleads
  have hhealth : s.web.telemetrySegment = "healthz" → i.HandledBy q willing .health := by
    intro hsegment
    rw [hi, hsegment] at hpath
    exact handledBy_of_outcome (dispatch_health i.telemetry hmethod hpath)
  refine ⟨⟨fun hshows hsegment => not_showsMeters_of_handledBy (hhealth hsegment) hshows, fun hne => ?_⟩, hhealth⟩
  exact showsMeters_of_handledBy (handledBy_of_outcome (dispatch_telemetry hmethod hpath (hi ▸ hne)))

/-- A path called as the one of the batches is accepted and shows the meters, as other methods are expected there. -/
theorem telemetry_served_iff_write :
    Settings.check { web := { telemetryPath := "/write/" } } = .ok () ∧
      ({ lone with telemetry := "write" } : Instance).ShowsMeters (look "GET" "/write") none := by
  have hcheck : Settings.check { web := { telemetryPath := "/write/" } } = .ok () := by decide
  have hserved := (telemetry_served_iff { web := { telemetryPath := "/write/" } } hcheck).1 { lone with telemetry := "write" }
    (look "GET" "/write") none (by decide) rfl (.inl (.inl (by decide)))
  exact ⟨hcheck, hserved.1.2 (by decide)⟩

/-- The path of the health is accepted as that of the meters, but a look at it is answered without a body and asks the store. -/
theorem healthPath_hides_meters :
    Settings.check { web := { telemetryPath := "/healthz" } } = .ok () ∧
      WebSettings.telemetrySegment { telemetryPath := "/healthz" } = "healthz" ∧ HasPath "/healthz" "/healthz" ∧
        ((serve (look "GET" "/healthz") none).run { lone with telemetry := "healthz" }).1 = some { status := 200, body := "" } ∧
          ((serve (look "GET" "/healthz") none).run { lone with telemetry := "healthz" }).2.1.store.calls = [.ping] := by
  refine ⟨?_, ?_, ?_, ?_, ?_⟩ <;> decide +kernel

end Instance

end Intake
