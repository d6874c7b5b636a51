import Mathlib.Data.List.Nodup
import Mathlib.Data.Prod.Basic
import Intake.Proofs.Text.JsonObject
import Intake.Proofs.Text.Utf8
import Intake.Series.Labels

/-!
# Labels: the canonical form tells series apart

The canonical form of a label map is a metric name and a text. The text is a JSON object whose members are the other labels, each
once, in the byte order of their names. So the form neither joins two series nor splits one: two maps have the same form exactly
when they agree on every label and on the metric name, and two texts are equal exactly when they are equal as objects
(`ofLabels_faithful`).
-/

namespace Intake

namespace Labels

variable {m a b : Labels} {name value : String}

/-! ## Lookups -/

/-- Where no name stands twice, a pair is the one that its name leads to. -/
theorem lookup_eq_some_iff_mem {α β : Type} [BEq α] [LawfulBEq α] {ps : List (α × β)} (hnodup : (ps.map Prod.fst).Nodup) {x : α}
    {y : β} : ps.lookup x = some y ↔ (x, y) ∈ ps := by
  rw [List.lookup_eq_some_iff]
  constructor
  · rintro ⟨before, after, hsplit, -⟩
    rw [hsplit]
    exact List.mem_append_right before List.mem_cons_self
  · intro h
    obtain ⟨before, after, hsplit⟩ := List.append_of_mem h
    refine ⟨before, after, hsplit, fun p hp => ?_⟩
    rw [hsplit, List.map_append, List.nodup_append] at hnodup
    have hne := hnodup.2.2 p.1 (List.mem_map_of_mem hp) x List.mem_cons_self
    exact bne_iff_ne.2 hne.symm

/-- What leaves out one name leaves the values of the others. -/
theorem lookup_filter_ne (ps : List (String × String)) {other : String} (h : name ≠ other) :
    (ps.filter fun p => p.1 ≠ other).lookup name = ps.lookup name := by
  induction ps with
  | nil => rfl
  | cons p rest ih =>
    rw [List.filter_cons]
    by_cases hp : p.1 = other
    · have hname : (name == p.1) = false := beq_false_of_ne (by rw [hp]; exact h)
      rw [if_neg (by simpa using hp), ih, List.lookup_cons, hname]
    · rw [if_pos (by simpa using hp), List.lookup_cons, List.lookup_cons, ih]

theorem lookup_filter_self (ps : List (String × String)) (other : String) :
    (ps.filter fun p => p.1 ≠ other).lookup other = none := by
  rw [List.lookup_eq_none_iff]
  intro p hp
  have hne := (List.mem_filter.1 hp).2
  simp only [ne_eq, decide_not, Bool.not_eq_true', decide_eq_false_iff_not] at hne
  exact bne_iff_ne.2 (Ne.symm hne)

theorem get?_set (m : Labels) (label value name : String) :
    (m.set label value).get? name = if name = label then some value else m.get? name := by
  unfold get? set
  rw [List.lookup_append]
  by_cases h : name = label
  · rw [if_pos h, h, lookup_filter_self]
    simp
  · have hname : (name == label) = false := beq_false_of_ne h
    rw [if_neg h, lookup_filter_ne m.pairs h, List.lookup_cons, hname]
    exact Option.or_none

/-- Of a repeated name the last value stays. -/
theorem get?_ofPairs (ps : List (String × String)) (name : String) : (ofPairs ps).get? name = ps.reverse.lookup name := by
  have hset : ∀ m : Labels, (ps.foldl (fun m p => m.set p.1 p.2) m).get? name = (ps.reverse.lookup name).or (m.get? name) := by
    induction ps with
    | nil => exact fun m => rfl
    | cons p rest ih =>
      intro m
      rw [List.foldl_cons, ih, List.reverse_cons, List.lookup_append, get?_set, Option.or_assoc]
      congr 1
      by_cases h : name = p.1
      · rw [if_pos h, h, List.lookup_cons_self]
        rfl
      · have hname : (name == p.1) = false := beq_false_of_ne h
        rw [if_neg h, List.lookup_cons, hname]
        rfl
  exact (hset empty).trans Option.or_none

/-! ## The labels other than the metric name -/

theorem mem_others : (name, value) ∈ m.others ↔ name ≠ metricNameLabel ∧ m.get? name = some value := by
  unfold others get?
  rw [List.mem_mergeSort, List.mem_filter, lookup_eq_some_iff_mem m.nodup, and_comm]
  simp only [ne_eq, decide_not, Bool.not_eq_true', decide_eq_false_iff_not]

theorem others_names_nodup (m : Labels) : (m.others.map Prod.fst).Nodup := by
  have hfilter := m.nodup.sublist ((List.filter_sublist (p := fun p => p.1 ≠ metricNameLabel)).map Prod.fst)
  exact ((List.mergeSort_perm _ _).map Prod.fst).nodup_iff.2 hfilter

/-- The names strictly increase in their byte order. -/
theorem others_sorted (m : Labels) : m.others.Pairwise fun p q => Utf8.before p.1 q.1 = true := by
  have hsorted : m.others.Pairwise fun p q => Utf8.atMost p.1 q.1 = true := by
    unfold others
    refine List.pairwise_mergeSort ?_ ?_ _
    · exact fun _ _ _ => Utf8.atMost_trans
    · exact fun p q => Utf8.atMost_total p.1 q.1
  exact (hsorted.and (List.pairwise_map.1 m.others_names_nodup)).imp fun h => Utf8.before_of_atMost h.1 h.2

/-- The labels are determined by what they are, as they stand in a fixed order. -/
theorem others_eq_of_mem (h : ∀ p, p ∈ a.others ↔ p ∈ b.others) : a.others = b.others := by
  have hperm : a.others.Perm b.others :=
    (List.perm_ext_iff_of_nodup (List.Nodup.of_map _ a.others_names_nodup) (List.Nodup.of_map _ b.others_names_nodup)).2 h
  refine hperm.eq_of_pairwise (fun p q _ _ hpq hqp => ?_) a.others_sorted b.others_sorted
  have hself := Utf8.before_trans hpq hqp
  rw [Utf8.before_irrefl] at hself
  cases hself

theorem others_eq_iff : a.others = b.others ↔ ∀ name, name ≠ metricNameLabel → a.get? name = b.get? name := by
  constructor
  · intro h name hname
    refine Option.ext fun value => ?_
    have hmem : (name, value) ∈ a.others ↔ (name, value) ∈ b.others := by rw [h]
    rw [mem_others, mem_others] at hmem
    simpa only [ne_eq, hname, not_false_eq_true, true_and] using hmem
  · intro h
    refine others_eq_of_mem fun p => ?_
    rw [mem_others, mem_others]
    exact and_congr_right fun hname => by rw [h p.1 hname]

end Labels

namespace LabelSet

variable {a b : Labels}

/-! ## The canonical form -/

/-- The members of the object that the canonical form writes. -/
theorem read?_ofLabels (m : Labels) :
    JsonObject.read? (ofLabels m).labels.toList = some (m.others.map (Prod.map String.toList String.toList)) := by
  unfold ofLabels
  rw [String.toList_ofList]
  exact JsonObject.read?_render _

/-- The text of the canonical form is read back as the labels it was made of. -/
theorem members?_ofLabels (m : Labels) : (ofLabels m).members? = some m.others := by
  unfold members?
  rw [read?_ofLabels, Option.map_some, List.map_map]
  have hback : (fun p : JsonObject.Member => (String.ofList p.1, String.ofList p.2)) ∘ Prod.map String.toList String.toList = id := by
    funext p
    simp only [Function.comp_apply, Prod.map_fst, Prod.map_snd, String.ofList_toList, id_eq]
  rw [hback, List.map_id]

theorem labels_eq_iff : (ofLabels a).labels = (ofLabels b).labels ↔ a.others = b.others := by
  constructor
  · intro h
    have hmembers := members?_ofLabels a
    unfold members? at hmembers
    rw [h] at hmembers
    exact Option.some.inj (hmembers.symm.trans (members?_ofLabels b))
  · intro h
    unfold ofLabels
    rw [h]

theorem ofLabels_eq_iff : ofLabels a = ofLabels b ↔ a.others = b.others ∧ a.metricName = b.metricName := by
  rw [← labels_eq_iff]
  constructor
  · intro h
    exact ⟨congrArg labels h, congrArg metricName h⟩
  · rintro ⟨hlabels, hname⟩
    exact (LabelSet.mk.injEq ..).mpr ⟨hname, hlabels⟩

/-- The object that the text writes has a value under a name just where the labels have it. -/
theorem valueOf?_others (m : Labels) (name value : String) :
    JsonObject.valueOf? (m.others.map (Prod.map String.toList String.toList)) name.toList = some value.toList ↔
      (name, value) ∈ m.others := by
  have hinjective : Function.Injective String.toList := fun _ _ => String.toList_inj.1
  have hnodup : ((m.others.map (Prod.map String.toList String.toList)).reverse.map Prod.fst).Nodup := by
    rw [List.map_reverse, List.nodup_reverse, List.map_map, Prod.map_fst', ← List.map_map]
    exact m.others_names_nodup.map hinjective
  unfold JsonObject.valueOf?
  rw [Labels.lookup_eq_some_iff_mem hnodup, List.mem_reverse]
  exact List.mem_map_of_injective (a := (name, value)) (hinjective.prodMap hinjective)

/-- Texts of canonical forms are equal just where they write the same object. -/
theorem labels_eq_iff_sameObject :
    (ofLabels a).labels = (ofLabels b).labels ↔ JsonObject.SameObject (ofLabels a).labels.toList (ofLabels b).labels.toList := by
  constructor
  · intro h
    rw [h]
    exact ⟨_, _, read?_ofLabels b, read?_ofLabels b, fun _ => rfl⟩
  · rintro ⟨ms, ns, hms, hns, hsame⟩
    cases (read?_ofLabels a).symm.trans hms
    cases (read?_ofLabels b).symm.trans hns
    refine labels_eq_iff.2 (Labels.others_eq_of_mem fun p => ?_)
    rw [← valueOf?_others a, ← valueOf?_others b, hsame p.1.toList]

/-- The canonical form is a faithful key. Its text is a JSON object whose members are the labels other than the metric name, each
once, their names strictly increasing by their bytes. Maps, built in any order of insertion, have the same form exactly when they
agree on these labels and on the metric name, which counts as empty where it is missing. The texts are equal exactly when they
write the same object. -/
theorem ofLabels_faithful :
    (∀ m : Labels, ∃ members, (ofLabels m).members? = some members ∧
      members.Pairwise (fun p q => Utf8.before p.1 q.1 = true) ∧
      ∀ name value, (name, value) ∈ members ↔ name ≠ metricNameLabel ∧ m.get? name = some value) ∧
    (∀ ps name, (Labels.ofPairs ps).get? name = ps.reverse.lookup name) ∧
    (∀ a b : Labels, ofLabels a = ofLabels b ↔
      (∀ name, name ≠ metricNameLabel → a.get? name = b.get? name) ∧
        (a.get? metricNameLabel).getD "" = (b.get? metricNameLabel).getD "") ∧
    (∀ a b : Labels, (ofLabels a).labels = (ofLabels b).labels ↔
      JsonObject.SameObject (ofLabels a).labels.toList (ofLabels b).labels.toList) := by
  refine ⟨fun m => ?_, Labels.get?_ofPairs, fun a b => ?_, fun _ _ => labels_eq_iff_sameObject⟩
  · exact ⟨m.others, members?_ofLabels m, m.others_sorted, fun _ _ => Labels.mem_others⟩
  · rw [ofLabels_eq_iff, Labels.others_eq_iff]
    exact Iff.rfl

end LabelSet

end Intake
