import Intake.Http.Route

/-!
# Routes: which routes a request is offered to

A request passes one route after the other until one takes it. The labels under which a request is counted are those of the routes it
was offered to (`Dispatch.labels`): with routes that all have labels of their own, a route counts a request exactly if no route before
it takes it (`count_labels`).
-/

namespace Intake

namespace Route

/-- Whether a route takes a request. -/
def takes (r : Route) (q : Request) : Bool :=
  match r.offer q with
  | .taken _ => true
  | _ => false

/-- What a route with one method leads to by a method. -/
theorem lookup_single {method m : String} {e e' : Endpoint} : [(m, e)].lookup method = some e' ↔ method = m ∧ e' = e := by
  rw [List.lookup_cons]
  split
  · next heq => simp [eq_of_beq heq, eq_comm]
  · next hne =>
    have hne : method ≠ m := by simpa using hne
    simp [hne]

/-- Whether a request is on the path of a route. -/
def OnPath (r : Route) (q : Request) : Prop := segments q.target = r.path

instance (r : Route) (q : Request) : Decidable (r.OnPath q) := inferInstanceAs (Decidable (_ = _))

/-- A route takes the requests that have its path and one of its methods. -/
theorem offer_eq_taken {r : Route} {q : Request} {e : Endpoint} :
    r.offer q = .taken e ↔ r.OnPath q ∧ r.methods.lookup q.method = some e := by
  unfold offer OnPath
  by_cases hpath : segments q.target = r.path
  · rw [if_neg (not_not_intro hpath)]
    cases r.methods.lookup q.method <;> simp [hpath]
  · rw [if_pos hpath]
    simp [hpath]

/-- A route lets the requests pass that have another path. -/
theorem offer_eq_wrongPath {r : Route} {q : Request} : r.offer q = .wrongPath ↔ ¬r.OnPath q := by
  unfold offer OnPath
  by_cases hpath : segments q.target = r.path
  · rw [if_neg (not_not_intro hpath)]
    cases r.methods.lookup q.method <;> simp [hpath]
  · rw [if_pos hpath]
    simp [hpath]

theorem exists_offer_of_takes {r : Route} {q : Request} (h : r.takes q = true) : ∃ e, r.offer q = .taken e := by
  unfold takes at h
  cases ho : r.offer q with
  | taken e => exact ⟨e, rfl⟩
  | wrongMethod =>
    rw [ho] at h
    cases h
  | wrongPath =>
    rw [ho] at h
    cases h

/-- A route takes only requests on its path. -/
theorem onPath_of_takes {r : Route} {q : Request} (h : r.takes q = true) : r.OnPath q := by
  obtain ⟨e, he⟩ := exists_offer_of_takes h
  exact (offer_eq_taken.1 he).1

/-- A route that does not take a request on its path refuses the method. -/
theorem offer_eq_wrongMethod {r : Route} {q : Request} (h : r.takes q = false) : r.offer q = .wrongMethod ↔ r.OnPath q := by
  unfold takes at h
  cases ho : r.offer q with
  | taken e =>
    rw [ho] at h
    cases h
  | wrongMethod =>
    refine iff_of_true rfl (Classical.byContradiction fun hpath => ?_)
    cases (offer_eq_wrongPath.2 hpath).symm.trans ho
  | wrongPath => exact iff_of_false (by decide) (offer_eq_wrongPath.1 ho)

/-- The labels of the routes that a request was offered to. The route that took it notes it with its answer only. -/
def Dispatch.labels (d : Dispatch) (answered : Bool) : List String :=
  d.refused ++ if answered then (d.outcome.map Prod.fst).toList else []

/-- A route that takes a request ends its way. -/
theorem labels_of_takes {r : Route} {q : Request} (h : r.takes q = true) (rs : List Route) (answered : Bool) :
    (dispatchTo (r :: rs) q).labels answered = if answered then [r.label] else [] := by
  obtain ⟨e, he⟩ := exists_offer_of_takes h
  rw [dispatchTo, he]
  rfl

/-- A route that does not take a request lets it pass to the next one. -/
theorem labels_of_not_takes {r : Route} {q : Request} (h : r.takes q = false) (rs : List Route) (answered : Bool) :
    (dispatchTo (r :: rs) q).labels answered = r.label :: (dispatchTo rs q).labels answered := by
  unfold takes at h
  rw [dispatchTo]
  cases ho : r.offer q with
  | taken e =>
    rw [ho] at h
    cases h
  | wrongMethod => rfl
  | wrongPath => rfl

/-- Only routes that there are count a request. -/
theorem mem_labels {rs : List Route} {q : Request} {answered : Bool} {name : String}
    (h : name ∈ (dispatchTo rs q).labels answered) : name ∈ rs.map label := by
  induction rs with
  | nil => cases answered <;> cases h
  | cons r rest ih =>
    cases ht : r.takes q with
    | true =>
      rw [labels_of_takes ht] at h
      cases answered with
      | false => cases h
      | true => exact List.mem_cons.2 (Or.inl (List.mem_singleton.1 h))
    | false =>
      rw [labels_of_not_takes ht] at h
      exact List.mem_cons.2 ((List.mem_cons.1 h).imp id ih)

/-- A route counts a request exactly if no route before it takes it, and if it does not take it itself without an answer. -/
theorem count_labels {before after : List Route} {r : Route} (hlabels : ((before ++ r :: after).map label).Nodup) (q : Request)
    (answered : Bool) :
    ((dispatchTo (before ++ r :: after) q).labels answered).count r.label =
      (before.all (fun b => !b.takes q) && (!r.takes q || answered)).toNat := by
  induction before with
  | nil =>
    have hafter : r.label ∉ after.map label := (List.nodup_cons.1 hlabels).1
    cases ht : r.takes q with
    | true =>
      rw [List.nil_append, labels_of_takes ht]
      cases answered <;> simp
    | false =>
      rw [List.nil_append, labels_of_not_takes ht, List.count_cons_self, List.count_eq_zero.2 fun h => hafter (mem_labels h)]
      rfl
  | cons b before ih =>
    rw [List.cons_append, List.map_cons, List.nodup_cons] at hlabels
    have hne : b.label ≠ r.label := by
      intro h
      apply hlabels.1
      rw [h]
      exact List.mem_map_of_mem (List.mem_append_right before List.mem_cons_self)
    cases ht : b.takes q with
    | true =>
      rw [List.cons_append, labels_of_takes ht, List.all_cons, ht]
      cases answered with
      | false => rfl
      | true => exact List.count_eq_zero.2 fun h => hne (List.mem_singleton.1 h).symm
    | false =>
      rw [List.cons_append, labels_of_not_takes ht, List.count_cons_of_ne hne, ih hlabels.2, List.all_cons, ht]
      rfl

/-- Who answers a request has a route that takes it. -/
theorem offer_of_outcome {rs : List Route} {q : Request} {name : String} {e : Endpoint}
    (h : (dispatchTo rs q).outcome = some (name, e)) : ∃ r ∈ rs, r.offer q = .taken e := by
  induction rs with
  | nil => cases h
  | cons r rest ih =>
    rw [dispatchTo] at h
    cases ho : r.offer q with
    | taken e' =>
      rw [ho] at h
      cases h
      exact ⟨r, List.mem_cons_self, ho⟩
    | wrongMethod =>
      rw [ho] at h
      obtain ⟨b, hb, htaken⟩ := ih h
      exact ⟨b, List.mem_cons_of_mem r hb, htaken⟩
    | wrongPath =>
      rw [ho] at h
      obtain ⟨b, hb, htaken⟩ := ih h
      exact ⟨b, List.mem_cons_of_mem r hb, htaken⟩

/-- The first route that takes a request answers it. -/
theorem outcome_of_taken (before : List Route) {after : List Route} {r : Route} {q : Request} {e : Endpoint}
    (hbefore : ∀ b ∈ before, b.takes q = false) (h : r.offer q = .taken e) :
    (dispatchTo (before ++ r :: after) q).outcome = some (r.label, e) := by
  induction before with
  | nil => rw [List.nil_append, dispatchTo, h]
  | cons b before ih =>
    have ht := hbefore b List.mem_cons_self
    have hrest := ih fun b' hb' => hbefore b' (List.mem_cons_of_mem b hb')
    rw [takes] at ht
    rw [List.cons_append, dispatchTo]
    cases ho : b.offer q with
    | taken e' =>
      rw [ho] at ht
      cases ht
    | wrongMethod => exact hrest
    | wrongPath => exact hrest

/-- Of a request that no route takes, the method is wrong exactly if it is on the path of a route. -/
theorem wrongMethod_iff {rs : List Route} {q : Request} (h : ∀ r ∈ rs, r.takes q = false) :
    (dispatchTo rs q).wrongMethod = true ↔ ∃ r ∈ rs, r.OnPath q := by
  induction rs with
  | nil => simp [dispatchTo]
  | cons r rest ih =>
    have ht := h r List.mem_cons_self
    have hrest := ih fun b hb => h b (List.mem_cons_of_mem r hb)
    simp only [List.mem_cons, exists_eq_or_imp]
    rw [← offer_eq_wrongMethod ht, ← hrest, dispatchTo]
    unfold takes at ht
    cases ho : r.offer q with
    | taken e =>
      rw [ho] at ht
      cases ht
    | wrongMethod => simp
    | wrongPath => simp

/-- A request passes the routes of other paths. -/
theorem outcome_of_not_onPath {r : Route} {q : Request} (h : ¬r.OnPath q) (rs : List Route) :
    (dispatchTo (r :: rs) q).outcome = (dispatchTo rs q).outcome := by
  rw [dispatchTo, offer_eq_wrongPath.2 h]

/-- A request that no route takes has no taker. -/
theorem outcome_eq_none {rs : List Route} {q : Request} (h : ∀ r ∈ rs, r.takes q = false) : (dispatchTo rs q).outcome = none := by
  induction rs with
  | nil => rfl
  | cons r rest ih =>
    have ht := h r List.mem_cons_self
    have hrest := ih fun b hb => h b (List.mem_cons_of_mem r hb)
    rw [takes] at ht
    rw [dispatchTo]
    cases ho : r.offer q with
    | taken e =>
      rw [ho] at ht
      cases ht
    | wrongMethod => exact hrest
    | wrongPath => exact hrest

/-- With routes that all have paths of their own, a request on the path of one is taken by no other. -/
theorem takes_eq_false_of_onPath {before after : List Route} {r b : Route} {q : Request}
    (hpaths : ((before ++ r :: after).map path).Nodup) (hq : r.OnPath q) (hb : b ∈ before ∨ b ∈ after) : b.takes q = false := by
  have hsplit : (r.path :: (before ++ after).map path).Nodup := by
    rw [← List.map_cons (f := path)]
    exact ((List.perm_middle.map path).nodup_iff).1 hpaths
  have hne : b.path ≠ r.path := by
    intro h
    refine (List.nodup_cons.1 hsplit).1 ?_
    rw [← h]
    exact List.mem_map_of_mem (List.mem_append.2 hb)
  cases ht : b.takes q with
  | false => rfl
  | true => exact absurd ((onPath_of_takes ht).symm.trans hq) hne

/-! ## The routes of the service -/

/-- The label of a path of one piece. -/
theorem label_single (name : String) (methods : List (String × Endpoint)) : label ⟨[name], methods⟩ = "/" ++ name := by
  rw [label, String.intercalate_singleton]

/-- A post to the path for batches is routed there. -/
theorem dispatch_write (telemetry : String) {q : Request} (hmethod : q.method = "POST") (hpath : segments q.target = ["write"]) :
    (dispatch telemetry q).outcome = some ("/write", .write) := by
  have htaken : offer ⟨["write"], [("POST", .write)]⟩ q = .taken .write :=
    offer_eq_taken.2 ⟨hpath, lookup_single.2 ⟨hmethod, rfl⟩⟩
  exact outcome_of_taken [] (fun _ hb => absurd hb List.not_mem_nil) htaken

/-- A look at the path of the health is routed there. -/
theorem dispatch_health (telemetry : String) {q : Request} (hmethod : q.method = "GET") (hpath : segments q.target = ["healthz"]) :
    (dispatch telemetry q).outcome = some ("/healthz", .health) := by
  have hwrite : ¬OnPath ⟨["write"], [("POST", .write)]⟩ q := fun h => absurd (List.cons.inj (hpath.symm.trans h)).1 (by decide)
  have htaken : offer ⟨["healthz"], [("GET", .health)]⟩ q = .taken .health :=
    offer_eq_taken.2 ⟨hpath, lookup_single.2 ⟨hmethod, rfl⟩⟩
  unfold dispatch table
  rw [outcome_of_not_onPath hwrite]
  exact outcome_of_taken [] (fun _ hb => absurd hb List.not_mem_nil) htaken

/-- A look at the path of the meters is routed there, unless that is the path of the health. The route of the batches has the path too, if
it is called so, but refuses the method. -/
theorem dispatch_telemetry {telemetry : String} {q : Request} (hmethod : q.method = "GET") (hpath : segments q.target = [telemetry])
    (hne : telemetry ≠ "healthz") : (dispatch telemetry q).outcome = some ("/" ++ telemetry, .telemetry) := by
  have htaken : offer ⟨[telemetry], [("GET", .telemetry)]⟩ q = .taken .telemetry :=
    offer_eq_taken.2 ⟨hpath, lookup_single.2 ⟨hmethod, rfl⟩⟩
  rw [← label_single telemetry [("GET", .telemetry)]]
  refine outcome_of_taken [⟨["write"], [("POST", .write)]⟩, ⟨["healthz"], [("GET", .health)]⟩] (fun b hb => ?_) htaken
  cases ht : b.takes q with
  | false => rfl
  | true =>
    obtain ⟨e, he⟩ := exists_offer_of_takes ht
    obtain ⟨hb_path, hb_method⟩ := offer_eq_taken.1 he
    simp only [List.mem_cons, List.not_mem_nil, or_false] at hb
    rcases hb with rfl | rfl
    · exact absurd (hmethod.symm.trans (lookup_single.1 hb_method).1) (by decide)
    · exact absurd (List.cons.inj (hpath.symm.trans hb_path)).1 hne

/-- The path on which the decision is read and made. -/
def decisionPath : List String := ["admin", "leader"]

/-- What a request on the path of the decision asks for depends on its method only. -/
theorem dispatch_decision (telemetry : String) {q : Request} (h : segments q.target = decisionPath) {e : Endpoint}
    (hmethod : [("GET", Endpoint.readLeader), ("PUT", .decideLeader)].lookup q.method = some e) :
    (dispatch telemetry q).outcome = some ("/admin/leader", e) := by
  have hother : ∀ name methods, ¬OnPath ⟨[name], methods⟩ q := by
    intro name methods hpath
    cases h.symm.trans hpath
  have htaken : offer ⟨decisionPath, [("GET", .readLeader), ("PUT", .decideLeader)]⟩ q = .taken e := offer_eq_taken.2 ⟨h, hmethod⟩
  unfold dispatch table
  rw [outcome_of_not_onPath (hother _ _), outcome_of_not_onPath (hother _ _), outcome_of_not_onPath (hother _ _)]
  exact outcome_of_taken [] (fun _ hb => absurd hb List.not_mem_nil) htaken

/-- Only a put on the path of the decision asks for one. -/
theorem onPath_of_decideLeader {telemetry : String} {q : Request} {name : String}
    (h : (dispatch telemetry q).outcome = some (name, .decideLeader)) : q.method = "PUT" ∧ segments q.target = decisionPath := by
  obtain ⟨r, hr, htaken⟩ := offer_of_outcome h
  obtain ⟨hpath, hmethod⟩ := offer_eq_taken.1 htaken
  have hone : ∀ {method : String} {e : Endpoint}, e ≠ .decideLeader → [(method, e)].lookup q.method ≠ some .decideLeader :=
    fun he hlookup => he (lookup_single.1 hlookup).2.symm
  simp only [table, List.mem_cons, List.not_mem_nil, or_false] at hr
  rcases hr with rfl | rfl | rfl | rfl
  · exact absurd hmethod (hone (by decide))
  · exact absurd hmethod (hone (by decide))
  · exact absurd hmethod (hone (by decide))
  · refine ⟨?_, hpath⟩
    simp only [List.lookup_cons, List.lookup_nil] at hmethod
    split at hmethod
    · cases hmethod
    · split at hmethod
      · next hput => exact eq_of_beq hput
      · cases hmethod

/-- A piece of a path, and not one that another route has. -/
structure Segment (telemetry : String) : Prop where
  single : '/' ∉ telemetry.toList
  ne_write : telemetry ≠ "write"
  ne_health : telemetry ≠ "healthz"

variable {telemetry : String}

/-- Every route has a label of its own. -/
theorem Segment.labels_nodup (h : Segment telemetry) : ((table telemetry).map label).Nodup := by
  have hlabels : (table telemetry).map label = ["write", "healthz", telemetry, "admin/leader"].map ("/" ++ ·) := by
    simp only [table, List.map_cons, List.map_nil, label_single]
    rfl
  have hleader : telemetry ≠ "admin/leader" := by
    rintro rfl
    exact h.single (by decide)
  have hnames : ["write", "healthz", telemetry, "admin/leader"].Nodup := by
    simp [h.ne_write.symm, h.ne_health.symm, hleader]
  rw [hlabels]
  exact List.Pairwise.map _ (fun _ _ hne heq => hne ((String.append_right_inj "/").1 heq)) hnames

/-- Every route has a path of its own. -/
theorem Segment.paths_nodup (h : Segment telemetry) : ((table telemetry).map path).Nodup := by
  simp [table, h.ne_write.symm, h.ne_health.symm]

end Route

end Intake
