import Intake.Proofs.Http.Route
import Intake.Proofs.Service.Accounting
import Intake.Proofs.Service.Frame

/-!
# Timing: how often a route times a request

Every route notes the time of the requests that it was offered, also of those it did not take. So the histogram of a route counts the
requests on its path, and beside them the requests on other paths that no route before it took (`request_timings`).
-/

namespace Intake

namespace Instance

open Act Route

/-! ## What leaves the times of requests alone -/

/-- What the routes have noted, and the name of the route for the exposition. -/
def timings (i : Instance) : Family Histogram × String := (i.meters.requestDuration, i.telemetry)

/-- The work on a batch times no request. -/
theorem frame_timings : Frame fun i j => j.timings = i.timings where
  trans hij hjk := hjk.trans hij
  counted i _ _ h := congrArg (fun d => (d, i.telemetry)) h
  underWay _ _ _ := rfl
  called _ _ _ := rfl
  performed _ _ _ _ := rfl

theorem keeps_onRounds {α : Type} (a : Act (Rounds × ElectionState) α) : (onRounds a).Keeps timings := fun _ => rfl

theorem keeps_onElection {α : Type} (a : Act ElectionState α) : (onElection a).Keeps timings := fun _ => rfl

theorem keeps_withCandidate {α : Type} (none : α) {f : Candidate ElectionState → Act Instance α} (h : ∀ c, (f c).Keeps timings) :
    (withCandidate none f).Keeps timings := by
  intro i
  unfold withCandidate Yields Act.run
  dsimp only
  split
  · next c _ => exact h c i
  · rfl

theorem keeps_admitted : admitted.Keeps timings :=
  keeps_withCandidate _ fun c => (keeps_onElection c.isLeader).bind fun _ => keeps_get.bind fun _ => keeps_pure _

theorem keeps_sendBatch (purpose : Purpose) (samples : List Sample) : (sendBatch purpose samples).Keeps timings :=
  frame_timings.sendBatch (fun _ _ => rfl) keeps_admitted purpose samples

theorem keeps_asNode {α : Type} (name : String) (f : {σ : Type} → Candidate σ → Act (Rounds × σ) α) :
    (asNode name f).Keeps timings := by
  intro i
  unfold asNode Yields Act.run
  dsimp only
  split
  · exact keeps_withCandidate _ (fun _ => (keeps_onRounds _).bind fun _ => keeps_pure _) i
  · split <;> rfl

theorem keeps_runTask (task : Periodic) : (runTask task).Keeps timings := by
  cases task with
  | sampler previous => exact fun _ => rfl
  | election node => exact (keeps_asNode node _).bind fun _ => keeps_pure _
  | monitor node timeout => exact keeps_get.bind fun _ => (keeps_asNode node _).bind fun _ => keeps_pure _

/-- Nor does a wait, whatever ticks meanwhile. -/
theorem clockFrame_timings : ClockFrame fun i j => j.timings = i.timings where
  toFrame := frame_timings
  waited _ _ := rfl
  noticed _ _ := rfl
  ticked i _ _ t _ := keeps_runTask t.task i

theorem keeps_postBatch (body : List UInt8) : (postBatch body).Keeps timings := by
  unfold postBatch
  cases WriteRequest.decode body with
  | error e => exact (keeps_report _).bind fun _ => keeps_pure _
  | ok request => exact Keeps.bind (keeps_modify fun _ => rfl) fun _ => (keeps_sendBatch _ _).bind fun _ => keeps_pure _

theorem keeps_answer (e : Endpoint) (body : List UInt8) : (answer e body).Keeps timings := by
  have hhealth : checkHealth.Keeps timings := fun _ => rfl
  have hdecide : ∀ leader, (decideLeader leader).Keeps timings := fun _ _ => rfl
  refine keeps_get.bind fun i => ?_
  cases e with
  | write => exact keeps_pure _
  | telemetry => exact keeps_pure _
  | health =>
    refine hhealth.bind fun r => ?_
    cases r <;> exact keeps_pure _
  | readLeader => cases i.backend <;> exact keeps_pure _
  | decideLeader =>
    cases i.backend with
    | external =>
      cases decisionOf? body with
      | none => exact keeps_pure _
      | some leader => exact (hdecide leader).bind fun _ => (keeps_report _).bind fun _ => keeps_pure _
    | none => exact keeps_pure _
    | lock l => exact keeps_pure _
    | scripted c => exact keeps_pure _

/-! ## A request -/

/-- How many requests a route has timed. -/
def timed (label : String) (i : Instance) : Nat := ((i.meters.requestDuration.lookup label).getD Histogram.empty).count

/-- From `i` to `i'` one request was noted under each of some labels, and the routes are the same. -/
structure Noted (names : List String) (i i' : Instance) : Prop where
  timed : ∀ label, i'.timed label = i.timed label + names.count label
  telemetry : i'.telemetry = i.telemetry

variable {i j k : Instance} {names more : List String}

theorem noted_of_timings (h : j.timings = i.timings) : Noted [] i j := by
  refine ⟨fun label => ?_, congrArg Prod.snd h⟩
  exact congrArg (fun t : Family Histogram × String => ((t.1.lookup label).getD Histogram.empty).count) h

theorem Noted.trans (h : Noted names i j) (h' : Noted more j k) : Noted (names ++ more) i k := by
  refine ⟨fun label => ?_, h'.telemetry.trans h.telemetry⟩
  rw [h'.timed, h.timed, List.count_append, Nat.add_assoc]

/-- A request that is noted for a route is timed there once more, and nowhere else. -/
theorem noted_noteRequest (begun : Nat) (name : String) (i : Instance) : Noted [name] i ((noteRequest begun name).run i).2.1 := by
  refine ⟨fun label => ?_, rfl⟩
  by_cases h : label = name
  · subst h
    simp [noteRequest, Instance.timed, Meters.observeRequest, Family.lookup_update, Histogram.observe]
  · have hcount : [name].count label = 0 := List.count_eq_zero.2 fun hmem => h (List.mem_singleton.1 hmem)
    simp [noteRequest, Instance.timed, Meters.observeRequest, Family.lookup_update_of_ne h, hcount]

theorem noted_refused (begun : Nat) (names : List String) (i : Instance) :
    (names.forM (noteRequest begun)).Yields i fun _ i' => Noted names i i' := by
  induction names generalizing i with
  | nil => exact noted_of_timings rfl
  | cons name rest ih => exact (ih _).mono fun _ _ h => (noted_noteRequest begun name i).trans h

/-- A request is noted under the labels of the routes that it was offered to. -/
theorem noted_serve (q : Request) (willing : Option Span) (i : Instance) :
    (serve q willing).Yields i fun response i' => Noted ((dispatch i.telemetry q).labels response.isSome) i i' := by
  refine yields_get_bind.2 ?_
  dsimp only
  obtain ⟨refused, outcome, wrongMethod⟩ := dispatch i.telemetry q
  refine (noted_refused i.now refused i).bind fun _ j hj => ?_
  cases outcome with
  | none => exact hj.trans (noted_of_timings rfl)
  | some taken =>
    obtain ⟨name, e⟩ := taken
    -- Who takes the request notes it when it is answered.
    have hanswered : ∀ k, Instance.timings k = j.timings → Noted (refused ++ [name]) i ((noteRequest i.now name).run k).2.1 :=
      fun k hk => hj.trans ((noted_of_timings hk).trans (noted_noteRequest i.now name k))
    have hother : (do
        let r ← answer e q.body
        noteRequest i.now name
        return some r : Act Instance (Option Response)).Yields j fun response i' =>
          Noted ((Dispatch.mk refused (some (name, e)) wrongMethod).labels response.isSome) i i' :=
      (keeps_answer e q.body j).bind fun r k hk => hanswered k hk
    cases e with
    | write =>
      refine (keeps_postBatch q.body j).bind fun r k hk => ?_
      cases r with
      | inl r => exact hanswered k hk
      | inr a =>
        refine (clockFrame_timings.awaitBatch willing a k).bind fun response l hl => ?_
        cases response with
        | some r => exact hanswered l (hl.trans hk)
        | none => exact hj.trans (noted_of_timings (hl.trans hk))
    | health => exact hother
    | telemetry => exact hother
    | readLeader => exact hother
    | decideLeader => exact hother

/-- A request that no route takes is answered at once. -/
theorem serve_unrouted {q : Request} (willing : Option Span) (h : (dispatch i.telemetry q).outcome = none) :
    (serve q willing).Yields i fun response _ => response = some (unrouted (dispatch i.telemetry q).wrongMethod) := by
  refine yields_get_bind.2 ?_
  dsimp only
  rw [h]
  exact (noted_refused _ _ i).bind fun _ j _ => rfl

/-! ## Runs -/

/-- A request and how it was answered, if it was. -/
structure Exchange where
  request : Request
  response : Option Response

namespace Exchange

/-- An answered request on the path of a route. -/
def isAnsweredOn (r : Route) (x : Exchange) : Bool := decide (r.OnPath x.request) && x.response.isSome

/-- A request on another path that none of the routes before takes. -/
def passes (before : List Route) (r : Route) (x : Exchange) : Bool :=
  !decide (r.OnPath x.request) && before.all fun b => !b.takes x.request

end Exchange

/-- The exchange that something brings, if it brings one. -/
def exchanged : Happening → Instance → List Exchange
  | .request q willing, i => [⟨q, ((serve q willing).run i).1⟩]
  | _, _ => []

/-- The exchanges while some things happened. -/
def exchanges : List Happening → Instance → List Exchange
  | [], _ => []
  | h :: rest, i => exchanged h i ++ exchanges rest (step h i)

/-- The requests of some exchanges that a route has to time: those on its path, and those that passed the routes before it. -/
def expected (before : List Route) (r : Route) (xs : List Exchange) : Nat :=
  xs.countP (·.isAnsweredOn r) + xs.countP (·.passes before r)

/-- What a route has to time of one request, by what it and the routes before it do with it. -/
theorem expected_one {before after : List Route} {r : Route} {q : Request} {response : Option Response}
    (hpaths : ((before ++ r :: after).map path).Nodup)
    (hunrouted : (dispatchTo (before ++ r :: after) q).outcome = none → response.isSome = true) :
    (before.all (fun b => !b.takes q) && (!r.takes q || response.isSome)).toNat = expected before r [⟨q, response⟩] := by
  by_cases hq : r.OnPath q
  · have hbefore : before.all (fun b => !b.takes q) = true := by
      refine List.all_eq_true.2 fun b hb => ?_
      rw [takes_eq_false_of_onPath hpaths hq (Or.inl hb)]
      rfl
    have hone : expected before r [⟨q, response⟩] = response.isSome.toNat := by
      cases response <;> simp [expected, Exchange.isAnsweredOn, Exchange.passes, hq]
    rw [hbefore, hone]
    cases ht : r.takes q with
    | true => rfl
    | false =>
      -- It is on the path of this route alone, so nobody takes it.
      have hnobody : ∀ b ∈ before ++ r :: after, b.takes q = false := by
        intro b hb
        obtain hb | hb := List.mem_append.1 hb
        · exact takes_eq_false_of_onPath hpaths hq (Or.inl hb)
        · obtain rfl | hb := List.mem_cons.1 hb
          · exact ht
          · exact takes_eq_false_of_onPath hpaths hq (Or.inr hb)
      rw [hunrouted (outcome_eq_none hnobody)]
      rfl
  · have ht : r.takes q = false := by
      cases ht : r.takes q with
      | false => rfl
      | true => exact absurd (onPath_of_takes ht) hq
    rw [ht]
    cases hbefore : before.all (fun b => !b.takes q) <;> simp [expected, Exchange.isAnsweredOn, Exchange.passes, hq, hbefore]

/-- What happens is noted for a route if it is a request that the route has to time. -/
theorem timed_step {before after : List Route} {r : Route} (hi : Segment i.telemetry)
    (hr : table i.telemetry = before ++ r :: after) (h : Happening) :
    (step h i).telemetry = i.telemetry ∧ timed r.label (step h i) = timed r.label i + expected before r (exchanged h i) := by
  have hsame : Instance.timings (step h i) = i.timings → exchanged h i = [] →
      (step h i).telemetry = i.telemetry ∧ timed r.label (step h i) = timed r.label i + expected before r (exchanged h i) := by
    intro hstep hnone
    rw [hnone]
    exact ⟨(noted_of_timings hstep).telemetry, (noted_of_timings hstep).timed r.label⟩
  cases h with
  | election act => exact hsame (keeps_onRounds act i) rfl
  | fault phase => exact hsame rfl rfl
  | wait d => exact hsame (clockFrame_timings.sleep d i) rfl
  | request q willing =>
    have hnoted := noted_serve q willing i
    have hlabels := hi.labels_nodup
    have hpaths := hi.paths_nodup
    have hunrouted : (dispatch i.telemetry q).outcome = none → ((serve q willing).run i).1.isSome = true := by
      intro hnone
      have hresponse := serve_unrouted willing hnone
      rw [Yields] at hresponse
      rw [hresponse]
      rfl
    rw [dispatch, hr] at hunrouted
    rw [hr] at hlabels hpaths
    refine ⟨hnoted.telemetry, (hnoted.timed r.label).trans ?_⟩
    rw [dispatch, hr, count_labels hlabels, expected_one hpaths hunrouted]
    rfl

theorem expected_append (before : List Route) (r : Route) (xs ys : List Exchange) :
    expected before r (xs ++ ys) = expected before r xs + expected before r ys := by
  unfold expected
  rw [List.countP_append, List.countP_append]
  omega

/-- Each route times the requests on its path that are answered, and beside them every request on another path that none of the
routes before it takes. -/
theorem request_timings (happenings : List Happening) (i : Instance) (hi : Segment i.telemetry) (before after : List Route) (r : Route)
    (hr : table i.telemetry = before ++ r :: after) :
    timed r.label (Instance.after happenings i) = timed r.label i + (exchanges happenings i).countP (·.isAnsweredOn r) +
      (exchanges happenings i).countP (·.passes before r) := by
  rw [Nat.add_assoc]
  change _ = _ + expected before r _
  induction happenings generalizing i with
  | nil => rfl
  | cons h rest ih =>
    obtain ⟨htelemetry, htimed⟩ := timed_step hi hr h
    rw [Instance.after, exchanges, expected_append, ← Nat.add_assoc, ← htimed]
    exact ih (step h i) (htelemetry ▸ hi) (htelemetry ▸ hr)

/-- A request for the health of the store. -/
def healthCheck : Request := { method := "GET", target := "/healthz", body := [] }

/-- A request on a path that no route has. -/
def strayRequest : Request := { method := "GET", target := "/nothing", body := [] }

/-- A look at the health of the store, a batch and a stray request: the health route times the first and the last. -/
theorem request_timings_threeRequests :
    Segment lone.telemetry ∧ table lone.telemetry = [⟨["write"], [("POST", .write)]⟩] ++ ⟨["healthz"], [("GET", .health)]⟩ ::
      [⟨[lone.telemetry], [("GET", .telemetry)]⟩, ⟨["admin", "leader"], [("GET", .readLeader), ("PUT", .decideLeader)]⟩] ∧
      timed "/healthz" (after [.request healthCheck none, .request onePost none, .request strayRequest none] lone) = 0 + 1 + 1 := by
  have hsegment : Segment lone.telemetry := ⟨by decide, by decide, by decide⟩
  refine ⟨hsegment, rfl, ?_⟩
  have htimed := request_timings [.request healthCheck none, .request onePost none, .request strayRequest none] lone hsegment
    [⟨["write"], [("POST", .write)]⟩] [⟨[lone.telemetry], [("GET", .telemetry)]⟩,
      ⟨["admin", "leader"], [("GET", .readLeader), ("PUT", .decideLeader)]⟩] ⟨["healthz"], [("GET", .health)]⟩ rfl
  exact htimed.trans (by decide +kernel)

/-- A request for the health of the store is not on the path of batches, and is timed there. -/
theorem healthCheck_timed_as_write :
    segments healthCheck.target ≠ ["write"] ∧ timed "/write" lone = 0 ∧ timed "/write" (after [.request healthCheck none] lone) = 1 := by
  exact ⟨by decide, by decide +kernel, by decide +kernel⟩

end Instance

end Intake
