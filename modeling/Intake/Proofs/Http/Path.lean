import Mathlib.Data.List.Basic
import Mathlib.Data.List.TakeWhile
import Intake.Proofs.Http.Route
import Intake.Settings.Check

/-!
# Paths: which targets lead to a route

A route has a path of pieces, a target has a path of characters. A target leads to a route exactly if its path is the label of the route,
or that with one slash more at its end (`segments_eq_iff`); the target that is but a star, which has no slash at all, leads to the
path of a star as well. What the service offers is said once more as a table of texts (`Offers`), and a route takes a request exactly
if the table offers something under the path that its target leads to and by its method (`offer_iff`).
-/

namespace Intake

namespace Route

/-- The path of a target is a given one, but for one slash at its end. -/
def HasPath (target path : String) : Prop := pathOf target = path.toList ∨ pathOf target = path.toList ++ ['/']

instance (target path : String) : Decidable (HasPath target path) := inferInstanceAs (Decidable (_ ∨ _))

/-- A target leads to a path that it has. A star alone leads to the path of a star. -/
def LeadsTo (target path : String) : Prop := HasPath target path ∨ (target = "*" ∧ path = "/*")

/-! ## Pieces -/

/-- A piece of a path. -/
def IsPiece (name : String) : Prop := name ≠ "" ∧ '/' ∉ name.toList

instance (name : String) : Decidable (IsPiece name) := inferInstanceAs (Decidable (_ ∧ _))

theorem splitSlash_eq_splitOn (cs : List Char) : splitSlash cs = cs.splitOn '/' := by
  induction cs with
  | nil => rfl
  | cons c rest ih =>
    rw [splitSlash, List.splitOn_cons_eq_if_modifyHead, ih]
    by_cases hc : c = '/'
    · simp [hc]
    · rw [if_neg hc, if_neg (by simpa using hc)]
      obtain ⟨p, ps, hsplit⟩ := List.exists_cons_of_ne_nil (List.splitOn_ne_nil '/' rest)
      rw [hsplit]
      rfl

/-- Names without slashes are the pieces of the characters that they make with slashes in between. -/
theorem splitSlash_eq_iff {names : List String} (hne : names ≠ []) (hnames : ∀ n ∈ names, '/' ∉ n.toList) {cs : List Char} :
    splitSlash cs = names.map String.toList ↔ cs = ("/".intercalate names).toList := by
  rw [splitSlash_eq_splitOn, String.toList_intercalate]
  constructor
  · intro h
    rw [← h]
    exact (List.intercalate_splitOn '/').symm
  · rintro rfl
    refine List.splitOn_intercalate '/' (fun l hl => ?_) (by simpa using hne)
    obtain ⟨n, hn, rfl⟩ := List.mem_map.1 hl
    exact hnames n hn

variable {pieces : List String} {target : String}

/-- The label of some pieces, and the label with a slash behind it, as names between slashes. -/
theorem intercalate_root (hne : pieces ≠ []) :
    "/".intercalate ("" :: pieces) = "/" ++ "/".intercalate pieces ∧
      "/".intercalate ("" :: (pieces ++ [""])) = "/" ++ "/".intercalate pieces ++ "/" := by
  obtain ⟨p, ps, rfl⟩ := List.exists_cons_of_ne_nil hne
  refine ⟨by rw [String.intercalate_cons_cons, String.empty_append], ?_⟩
  rw [List.cons_append, String.intercalate_cons_cons, String.empty_append, ← List.cons_append,
    String.intercalate_append_of_ne_nil hne (by simp), String.intercalate_singleton, String.append_empty, String.append_assoc]

theorem map_ofList_toList (names : List String) : (names.map String.toList).map String.ofList = names := by
  rw [List.map_map]
  exact (List.map_congr_left fun n _ => String.ofList_toList).trans (List.map_id names)

theorem map_toList_ofList (ps : List (List Char)) : (ps.map String.ofList).map String.toList = ps := by
  rw [List.map_map]
  exact (List.map_congr_left fun p _ => String.toList_ofList).trans (List.map_id ps)

/-- The names that the pieces of a path give, when it begins with a slash. -/
theorem segments_of_split {ps : List (List Char)} (h : splitSlash (pathOf target) = [] :: ps) :
    segments target =
      if 1 < (ps.map String.ofList).length ∧ (ps.map String.ofList).getLast? = some "" then (ps.map String.ofList).dropLast
      else ps.map String.ofList := by
  rw [segments, h]

/-- A target has the path of some pieces exactly if its path falls into these, perhaps with an empty one behind them. -/
theorem hasPath_iff (hne : pieces ≠ []) (hpieces : ∀ p ∈ pieces, IsPiece p) :
    HasPath target ("/" ++ "/".intercalate pieces) ↔
      splitSlash (pathOf target) = ("" :: pieces).map String.toList ∨
        splitSlash (pathOf target) = ("" :: (pieces ++ [""])).map String.toList := by
  obtain ⟨hplain, hslash⟩ := intercalate_root hne
  have hnames : ∀ n ∈ "" :: (pieces ++ [""]), '/' ∉ n.toList := by
    intro n hn
    simp only [List.mem_cons, List.mem_append, List.not_mem_nil, or_false] at hn
    rcases hn with rfl | hn | rfl
    · decide
    · exact (hpieces n hn).2
    · decide
  have hnames' : ∀ n ∈ "" :: pieces, '/' ∉ n.toList := fun n hn => hnames n (by simpa [or_assoc] using Or.inl hn)
  rw [splitSlash_eq_iff (List.cons_ne_nil _ _) hnames, splitSlash_eq_iff (List.cons_ne_nil _ _) hnames', hplain, hslash,
    String.toList_append (t := "/")]
  exact Iff.rfl

/-- A target leads to the label of its pieces. -/
theorem leadsTo_of_segments (hne : pieces ≠ []) (hpieces : ∀ p ∈ pieces, IsPiece p) (h : segments target = pieces) :
    LeadsTo target ("/" ++ "/".intercalate pieces) := by
  by_cases hsplit : ∃ ps, splitSlash (pathOf target) = [] :: ps
  · obtain ⟨ps, hps⟩ := hsplit
    refine .inl ((hasPath_iff hne hpieces).2 ?_)
    rw [segments_of_split hps] at h
    rw [hps]
    split at h
    · next hlast =>
      have hback := List.dropLast_append_getLast? "" hlast.2
      rw [h] at hback
      refine .inr ?_
      rw [hback, List.map_cons, map_toList_ofList]
      rfl
    · refine .inl ?_
      rw [← h, List.map_cons, map_toList_ofList]
      rfl
  · -- Without a slash at its beginning, only a star has a piece.
    rw [segments] at h
    split at h
    · next ps hps => exact absurd ⟨ps, hps⟩ hsplit
    · split at h
      · next hstar =>
        subst hstar
        subst h
        exact .inr ⟨rfl, rfl⟩
      · exact absurd h.symm hne

/-- A target that has the path of some pieces has these pieces. -/
theorem segments_of_hasPath (hne : pieces ≠ []) (hpieces : ∀ p ∈ pieces, IsPiece p)
    (h : HasPath target ("/" ++ "/".intercalate pieces)) : segments target = pieces := by
  rcases (hasPath_iff hne hpieces).1 h with h | h
  · have hlast : pieces.getLast? ≠ some "" := fun hlast => (hpieces "" (List.mem_of_getLast? hlast)).1 rfl
    rw [segments_of_split h, map_ofList_toList, if_neg fun hcut => hlast hcut.2]
  · rw [segments_of_split h, map_ofList_toList, if_pos, List.dropLast_concat]
    have hlength := List.length_pos_iff.2 hne
    rw [List.length_append, List.length_singleton]
    exact ⟨by omega, List.getLast?_concat⟩

/-- The pieces of a target are those of a route exactly if it leads to the label of the route. -/
theorem segments_eq_iff (hne : pieces ≠ []) (hpieces : ∀ p ∈ pieces, IsPiece p) :
    segments target = pieces ↔ LeadsTo target ("/" ++ "/".intercalate pieces) := by
  refine ⟨leadsTo_of_segments hne hpieces, fun h => ?_⟩
  rcases h with h | ⟨rfl, hlabel⟩
  · exact segments_of_hasPath hne hpieces h
  · -- A star has the pieces of its path, and that is the label.
    have hpath : pathOf "/*" = "/*".toList := by decide
    have hpieces_star : segments "/*" = pieces := segments_of_hasPath hne hpieces (.inl (hpath.trans (by rw [hlabel])))
    have hstar : segments "*" = segments "/*" := by decide
    exact hstar.trans hpieces_star

/-- There is a target that has the path of a name exactly if no query and no fragment begins in the name. -/
theorem exists_hasPath_iff {name : String} : (∃ target, HasPath target ("/" ++ name)) ↔ ∀ c ∈ name.toList, endsPath c = false := by
  have hlabel : ("/" ++ name).toList = '/' :: name.toList := String.toList_append
  constructor
  · rintro ⟨target, h⟩ c hc
    have hmem : c ∈ pathOf target := by
      rcases h with h | h <;> rw [h, hlabel] <;> simp [hc]
    simpa using List.mem_takeWhile_imp hmem
  · intro h
    have hhost : withoutHost ('/' :: name.toList) = '/' :: name.toList := by simp [withoutHost, afterScheme?]
    have hall : ∀ c ∈ '/' :: name.toList, (!endsPath c) = true := by
      intro c hc
      obtain rfl | hc := List.mem_cons.1 hc
      · decide
      · rw [h c hc]
        rfl
    refine ⟨"/" ++ name, .inl ?_⟩
    rw [pathOf, hlabel, hhost, List.takeWhile_eq_self_iff.2 hall]

/-! ## What the service offers -/

/-- What the service offers: under a path and by a method, an endpoint. -/
inductive Offers (telemetry : String) : String → String → Endpoint → Prop where
  | write : Offers telemetry "/write" "POST" .write
  | health : Offers telemetry "/healthz" "GET" .health
  | telemetry : Offers telemetry ("/" ++ telemetry) "GET" .telemetry
  | readLeader : Offers telemetry "/admin/leader" "GET" .readLeader
  | decideLeader : Offers telemetry "/admin/leader" "PUT" .decideLeader

/-- A request asks for an endpoint that is offered under the path that its target leads to, and by its method. -/
def Asks (telemetry : String) (q : Request) (e : Endpoint) : Prop := ∃ path, LeadsTo q.target path ∧ Offers telemetry path q.method e

/-- Whether something is offered under a path, be it by another method. -/
def Known (telemetry path : String) : Prop := ∃ method e, Offers telemetry path method e

variable {telemetry path method : String} {q : Request} {e : Endpoint}

/-- The routes take what is offered, and nothing else. -/
theorem offers_iff : Offers telemetry path method e ↔ ∃ r ∈ table telemetry, r.label = path ∧ r.methods.lookup method = some e := by
  have hleader : label ⟨["admin", "leader"], [("GET", .readLeader), ("PUT", .decideLeader)]⟩ = "/admin/leader" := by decide
  simp only [table, List.mem_cons, List.not_mem_nil, or_false, exists_eq_or_imp, exists_eq_left, label_single, hleader, lookup_single]
  constructor
  · intro h
    cases h with
    | write => exact .inl ⟨rfl, rfl, rfl⟩
    | health => exact .inr (.inl ⟨rfl, rfl, rfl⟩)
    | telemetry => exact .inr (.inr (.inl ⟨rfl, rfl, rfl⟩))
    | readLeader => exact .inr (.inr (.inr ⟨rfl, rfl⟩))
    | decideLeader => exact .inr (.inr (.inr ⟨rfl, rfl⟩))
  · rintro (⟨rfl, rfl, rfl⟩ | ⟨rfl, rfl, rfl⟩ | ⟨rfl, rfl, rfl⟩ | ⟨rfl, hlookup⟩)
    · exact .write
    · exact .health
    · exact .telemetry
    · rw [List.lookup_cons] at hlookup
      split at hlookup
      · next hget =>
        cases hlookup
        rw [eq_of_beq hget]
        exact .readLeader
      · obtain ⟨rfl, rfl⟩ := lookup_single.1 hlookup
        exact .decideLeader

theorem known_iff : Known telemetry path ↔ ∃ r ∈ table telemetry, r.label = path := by
  constructor
  · rintro ⟨method, e, h⟩
    obtain ⟨r, hr, hlabel, -⟩ := offers_iff.1 h
    exact ⟨r, hr, hlabel⟩
  · rintro ⟨r, hr, rfl⟩
    simp only [table, List.mem_cons, List.not_mem_nil, or_false] at hr
    rcases hr with rfl | rfl | rfl | rfl
    · exact ⟨"POST", .write, .write⟩
    · exact ⟨"GET", .health, .health⟩
    · rw [label_single]
      exact ⟨"GET", .telemetry, .telemetry⟩
    · exact ⟨"GET", .readLeader, .readLeader⟩

/-- A request is on the path of a route exactly if its target leads to the label of the route. -/
theorem onPath_iff (h : IsPiece telemetry) {r : Route} (hr : r ∈ table telemetry) : r.OnPath q ↔ LeadsTo q.target r.label := by
  have hnames : ∀ name ∈ ["write", "healthz", "admin", "leader"], IsPiece name := by decide
  simp only [table, List.mem_cons, List.not_mem_nil, or_false] at hr
  rcases hr with rfl | rfl | rfl | rfl
  · exact segments_eq_iff (List.cons_ne_nil _ _) (List.forall_mem_singleton.2 (hnames "write" (by simp)))
  · exact segments_eq_iff (List.cons_ne_nil _ _) (List.forall_mem_singleton.2 (hnames "healthz" (by simp)))
  · exact segments_eq_iff (List.cons_ne_nil _ _) (List.forall_mem_singleton.2 h)
  · refine segments_eq_iff (List.cons_ne_nil _ _) ?_
    exact List.forall_mem_cons.2 ⟨hnames "admin" (by simp), List.forall_mem_singleton.2 (hnames "leader" (by simp))⟩

/-- A request asks for an endpoint exactly if a route takes it for that. -/
theorem asks_iff (h : IsPiece telemetry) : Asks telemetry q e ↔ ∃ r ∈ table telemetry, r.offer q = .taken e := by
  unfold Asks
  simp only [offers_iff]
  constructor
  · rintro ⟨_, hleads, r, hr, rfl, hmethod⟩
    exact ⟨r, hr, offer_eq_taken.2 ⟨(onPath_iff h hr).2 hleads, hmethod⟩⟩
  · rintro ⟨r, hr, htaken⟩
    obtain ⟨hpath, hmethod⟩ := offer_eq_taken.1 htaken
    exact ⟨r.label, (onPath_iff h hr).1 hpath, r, hr, rfl, hmethod⟩

/-- Where every route has a path of its own, a request gets what it asks for. -/
theorem outcome_of_asks (hpiece : IsPiece telemetry) (h : Segment telemetry) (hasks : Asks telemetry q e) :
    ∃ name, (dispatch telemetry q).outcome = some (name, e) := by
  obtain ⟨r, hr, htaken⟩ := (asks_iff hpiece).1 hasks
  obtain ⟨before, after, htable⟩ := List.append_of_mem hr
  have hpaths := h.paths_nodup
  rw [htable] at hpaths
  have hbefore : ∀ b ∈ before, b.takes q = false := fun b hb => takes_eq_false_of_onPath hpaths (offer_eq_taken.1 htaken).1 (.inl hb)
  refine ⟨r.label, ?_⟩
  rw [dispatch, htable]
  exact outcome_of_taken before hbefore htaken

/-- A request asks for one endpoint at most then. -/
theorem Asks.unique (hpiece : IsPiece telemetry) (h : Segment telemetry) {e' : Endpoint} (he : Asks telemetry q e)
    (he' : Asks telemetry q e') : e = e' := by
  obtain ⟨name, hname⟩ := outcome_of_asks hpiece h he
  obtain ⟨name', hname'⟩ := outcome_of_asks hpiece h he'
  exact (Prod.ext_iff.1 (Option.some.inj (hname.symm.trans hname'))).2

/-- No route takes a request that asks for nothing. -/
theorem takes_eq_false_of_not_asks (hpiece : IsPiece telemetry) (hasks : ∀ e, ¬Asks telemetry q e) :
    ∀ r ∈ table telemetry, r.takes q = false := by
  intro r hr
  cases ht : r.takes q with
  | false => rfl
  | true =>
    obtain ⟨e, he⟩ := exists_offer_of_takes ht
    exact absurd ((asks_iff hpiece).2 ⟨r, hr, he⟩) (hasks e)

/-- Of a request that asks for nothing, the method is wrong exactly if its target leads to a path under which something is offered. -/
theorem wrongMethod_iff_known (hpiece : IsPiece telemetry) (hasks : ∀ e, ¬Asks telemetry q e) :
    (dispatch telemetry q).wrongMethod = true ↔ ∃ path, Known telemetry path ∧ LeadsTo q.target path := by
  rw [dispatch, wrongMethod_iff (takes_eq_false_of_not_asks hpiece hasks)]
  constructor
  · rintro ⟨r, hr, hpath⟩
    exact ⟨r.label, known_iff.2 ⟨r, hr, rfl⟩, (onPath_iff hpiece hr).1 hpath⟩
  · rintro ⟨path, hknown, hleads⟩
    obtain ⟨r, hr, rfl⟩ := known_iff.1 hknown
    exact ⟨r, hr, (onPath_iff hpiece hr).2 hleads⟩

/-- The telemetry segment of settings that passed their check is one piece of a path. -/
theorem isPiece_of_check {s : WebSettings} (h : s.check = .ok ()) : IsPiece s.telemetrySegment := by
  unfold WebSettings.check at h
  dsimp only at h
  split at h
  · cases h
  · next hcheck =>
    rw [Bool.or_eq_true, not_or] at hcheck
    refine ⟨fun hempty => hcheck.1 ?_, fun hslash => hcheck.2 ?_⟩
    · rw [hempty]
      rfl
    · exact List.contains_iff_mem.2 hslash

end Route

end Intake
