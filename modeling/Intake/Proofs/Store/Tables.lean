import Mathlib.Data.List.Nodup
import Intake.Store.Tables

/-!
# Tables: what adding rows keeps

Adding label sets leaves the value rows alone. Label sets are only ever added at the end, so one that has a number keeps it
(`idOf?_of_grows`), and the numbers count up, with the counter behind the last one (`Numbered`). After the label sets of some rows
were added, each of the rows finds the number of its own (`known_addLabels`); the rows that were added are those of the missing label
sets, in the order in which they appear first (`labels_addLabels`), and the counter has moved by as many (`nextId_addLabels`).
-/

namespace Intake

namespace Tables

variable {t t' t'' : Tables} {s : LabelSet} {id : Nat} {rows : List StagedRow}

@[simp] theorem values_addLabel (t : Tables) (s : LabelSet) : (t.addLabel s).values = t.values := by
  unfold addLabel
  split <;> rfl

@[simp] theorem values_addLabels (t : Tables) (rows : List StagedRow) : (t.addLabels rows).values = t.values := by
  unfold addLabels
  induction rows generalizing t with
  | nil => rfl
  | cons r rest ih => rw [List.foldl_cons, ih, values_addLabel]

@[simp] theorem labels_addValues (t : Tables) (rows : List StagedRow) : (t.addValues rows).labels = t.labels := rfl

@[simp] theorem nextId_addValues (t : Tables) (rows : List StagedRow) : (t.addValues rows).nextId = t.nextId := rfl

/-- A label set that has a number is not added again. -/
theorem addLabel_of_known (h : t.idOf? s = some id) : t.addLabel s = t := by
  simp only [addLabel, h, Option.isSome_some, if_true]

/-- A label set that has none gets the next one. -/
theorem labels_addLabel_of_unknown (h : t.idOf? s = none) : (t.addLabel s).labels = t.labels ++ [(s, t.nextId)] := by
  simp only [addLabel, h, Option.isSome_none, Bool.false_eq_true, if_false]

/-- Then the counter moves on by one. -/
theorem nextId_addLabel_of_unknown (h : t.idOf? s = none) : (t.addLabel s).nextId = t.nextId + 1 := by
  simp only [addLabel, h, Option.isSome_none, Bool.false_eq_true, if_false]

/-! ## Growing -/

/-- Label sets were added at the end, if at all. -/
def Grows (t t' : Tables) : Prop := t.labels <+: t'.labels

theorem Grows.refl (t : Tables) : t.Grows t := List.prefix_refl t.labels

theorem Grows.trans (h : t.Grows t') (h' : t'.Grows t'') : t.Grows t'' := List.IsPrefix.trans h h'

theorem grows_addLabel (t : Tables) (s : LabelSet) : t.Grows (t.addLabel s) := by
  unfold addLabel Grows
  split
  · exact List.prefix_refl _
  · exact List.prefix_append _ _

theorem grows_addLabels (t : Tables) (rows : List StagedRow) : t.Grows (t.addLabels rows) := by
  unfold addLabels
  induction rows generalizing t with
  | nil => exact Grows.refl t
  | cons r rest ih => exact (grows_addLabel t r.labelSet).trans (ih _)

/-- A label set keeps its number. -/
theorem idOf?_of_grows (h : t.Grows t') (hid : t.idOf? s = some id) : t'.idOf? s = some id := by
  obtain ⟨more, hmore⟩ := h
  unfold idOf? at hid ⊢
  rw [← hmore, List.lookup_append, hid]
  rfl

theorem mem_labels_of_idOf? (h : t.idOf? s = some id) : (s, id) ∈ t.labels := by
  obtain ⟨before, after, he, -⟩ := List.lookup_eq_some_iff.1 h
  rw [he]
  exact List.mem_append_right before List.mem_cons_self

/-! ## Numbers -/

/-- Every label set is there once, the numbers count up from one, and the next number is one more than there are label sets, so none
was ever skipped or given twice. -/
structure Numbered (t : Tables) : Prop where
  sets : (t.labels.map Prod.fst).Nodup
  ids : t.labels.map Prod.snd = List.range' 1 t.labels.length
  next : t.nextId = t.labels.length + 1

theorem numbered_empty : Numbered Tables.empty := ⟨List.nodup_nil, rfl, rfl⟩

/-- No two label sets have one number. -/
theorem Numbered.nodup_ids (h : t.Numbered) : (t.labels.map Prod.snd).Nodup := by
  rw [h.ids]
  exact List.nodup_range'

/-- The next number is above all that label sets have. -/
theorem Numbered.lt_nextId (h : t.Numbered) (hs : (s, id) ∈ t.labels) : id < t.nextId := by
  have hid : id ∈ List.range' 1 t.labels.length := h.ids ▸ List.mem_map_of_mem (f := Prod.snd) hs
  have hlt := (List.mem_range'_1.1 hid).2
  rw [h.next]
  omega

/-- A number leads to one label set. -/
theorem Numbered.eq_of_mem (h : t.Numbered) {s' : LabelSet} (hs : (s, id) ∈ t.labels) (hs' : (s', id) ∈ t.labels) : s' = s :=
  congrArg Prod.fst (List.inj_on_of_nodup_map h.nodup_ids hs' hs rfl)

theorem not_mem_of_idOf?_none (h : t.idOf? s = none) : s ∉ t.labels.map Prod.fst := by
  intro hs
  obtain ⟨row, hrow, rfl⟩ := List.mem_map.1 hs
  have := List.lookup_eq_none_iff.1 h row hrow
  simp at this

theorem Numbered.addLabel (h : t.Numbered) (s : LabelSet) : (t.addLabel s).Numbered := by
  cases hs : t.idOf? s with
  | some id =>
    rw [addLabel_of_known hs]
    exact h
  | none =>
    refine ⟨?_, ?_, ?_⟩
    · rw [labels_addLabel_of_unknown hs, List.map_append, List.map_cons, List.map_nil, List.nodup_append]
      refine ⟨h.sets, by simp, ?_⟩
      rintro a ha b hb rfl
      rw [List.mem_singleton] at hb
      subst hb
      exact not_mem_of_idOf?_none hs ha
    · rw [labels_addLabel_of_unknown hs, List.map_append, List.map_cons, List.map_nil, List.length_append, List.length_singleton,
        List.range'_1_concat, h.ids, h.next, Nat.add_comm]
    · rw [nextId_addLabel_of_unknown hs, labels_addLabel_of_unknown hs, List.length_append, List.length_singleton, h.next]

theorem Numbered.addLabels (h : t.Numbered) (rows : List StagedRow) : (t.addLabels rows).Numbered := by
  unfold Tables.addLabels
  induction rows generalizing t with
  | nil => exact h
  | cons r rest ih => exact ih (h.addLabel r.labelSet)

theorem Numbered.addValues (h : t.Numbered) (rows : List StagedRow) : (t.addValues rows).Numbered :=
  ⟨h.sets, h.ids, h.next⟩

/-! ## Rows that find their number -/

/-- The label set of each row has a number. -/
def Known (t : Tables) (rows : List StagedRow) : Prop := ∀ r ∈ rows, ∃ id, t.idOf? r.labelSet = some id

theorem Known.grows (h : t.Known rows) (hg : t.Grows t') : t'.Known rows := by
  intro r hr
  obtain ⟨id, hid⟩ := h r hr
  exact ⟨id, idOf?_of_grows hg hid⟩

theorem idOf?_addLabel_self (t : Tables) (s : LabelSet) : ∃ id, (t.addLabel s).idOf? s = some id := by
  unfold addLabel
  cases hs : t.idOf? s with
  | some id => exact ⟨id, hs⟩
  | none =>
    refine ⟨t.nextId, ?_⟩
    unfold idOf? at hs ⊢
    simp [List.lookup_append, hs]

theorem known_addLabels (t : Tables) (rows : List StagedRow) : (t.addLabels rows).Known rows := by
  unfold addLabels
  induction rows generalizing t with
  | nil =>
    intro r' hr'
    cases hr'
  | cons r rest ih =>
    intro r' hr'
    obtain rfl | hr' := List.mem_cons.1 hr'
    · obtain ⟨id, hid⟩ := idOf?_addLabel_self t r'.labelSet
      exact ⟨id, idOf?_of_grows (grows_addLabels _ rest) hid⟩
    · exact ih (t.addLabel r.labelSet) r' hr'

/-- Label sets that have numbers are not added again. -/
theorem addLabels_of_known (h : t.Known rows) : t.addLabels rows = t := by
  unfold addLabels
  induction rows with
  | nil => rfl
  | cons r rest ih =>
    obtain ⟨id, hid⟩ := h r List.mem_cons_self
    rw [List.foldl_cons, addLabel_of_known hid]
    exact ih fun r' hr' => h r' (List.mem_cons_of_mem r hr')

/-- Adding the label sets of the same rows again changes nothing. -/
theorem addLabels_addLabels (t : Tables) (rows : List StagedRow) : (t.addLabels rows).addLabels rows = t.addLabels rows :=
  addLabels_of_known (known_addLabels t rows)

/-! ## Rows that are added -/

/-- The label sets among some that have no number, in the order in which they appear first. -/
def unseen (t : Tables) (sets : List LabelSet) : List LabelSet := (sets.filter fun s => (t.idOf? s).isNone).eraseDups

theorem mem_unseen {sets : List LabelSet} : s ∈ t.unseen sets ↔ s ∈ sets ∧ t.idOf? s = none := by
  rw [unseen, List.mem_eraseDups, List.mem_filter, Option.isNone_iff_eq_none]

theorem unseen_cons_of_known {sets : List LabelSet} (h : t.idOf? s = some id) : t.unseen (s :: sets) = t.unseen sets := by
  simp only [unseen, List.filter_cons, h, Option.isNone_some, Bool.false_eq_true, if_false]

/-- A label set that is added makes no difference to the others. -/
theorem isNone_idOf?_addLabel (h : t.idOf? s = none) (s' : LabelSet) :
    ((t.addLabel s).idOf? s').isNone = (!(s' == s) && (t.idOf? s').isNone) := by
  have hadded := labels_addLabel_of_unknown h
  unfold idOf? at h ⊢
  rw [hadded, List.lookup_append]
  by_cases hs : s' = s
  · subst hs
    simp [h]
  · have hne : (s' == s) = false := beq_false_of_ne hs
    cases t.labels.lookup s' <;> simp [List.lookup_cons, hne]

/-- Once the first of some label sets is added, the others follow. -/
theorem unseen_cons_of_unknown {sets : List LabelSet} (h : t.idOf? s = none) :
    t.unseen (s :: sets) = s :: (t.addLabel s).unseen sets := by
  have hfilter : (sets.filter fun s' => ((t.addLabel s).idOf? s').isNone) =
      (sets.filter fun s' => (t.idOf? s').isNone).filter fun s' => !(s' == s) := by
    rw [List.filter_filter]
    exact List.filter_congr fun s' _ => isNone_idOf?_addLabel h s'
  rw [unseen, unseen, hfilter, List.filter_cons, h, Option.isNone_none, if_pos rfl, List.eraseDups_cons]

/-- The label sets that are missing get the next numbers, in the order in which they appear first. -/
theorem labels_addLabels (t : Tables) (rows : List StagedRow) :
    (t.addLabels rows).labels = t.labels ++ (t.unseen (rows.map StagedRow.labelSet)).zipIdx t.nextId := by
  unfold addLabels
  induction rows generalizing t with
  | nil => exact (List.append_nil _).symm
  | cons r rest ih =>
    rw [List.foldl_cons, List.map_cons, ih]
    cases hid : t.idOf? r.labelSet with
    | some id => rw [addLabel_of_known hid, unseen_cons_of_known hid]
    | none =>
      rw [unseen_cons_of_unknown hid, List.zipIdx_cons, labels_addLabel_of_unknown hid, nextId_addLabel_of_unknown hid,
        List.append_assoc]
      rfl

/-- The counter moves by as many numbers as there are label sets missing. -/
theorem nextId_addLabels (t : Tables) (rows : List StagedRow) :
    (t.addLabels rows).nextId = t.nextId + (t.unseen (rows.map StagedRow.labelSet)).length := by
  unfold addLabels
  induction rows generalizing t with
  | nil => rfl
  | cons r rest ih =>
    rw [List.foldl_cons, List.map_cons, ih]
    cases hid : t.idOf? r.labelSet with
    | some id => rw [addLabel_of_known hid, unseen_cons_of_known hid]
    | none =>
      rw [unseen_cons_of_unknown hid, nextId_addLabel_of_unknown hid, List.length_cons]
      omega

/-- Rows whose label sets have numbers are stored in the same way later. -/
theorem map_valueRow_of_grows (h : t.Known rows) (hg : t.Grows t') : rows.map t'.valueRow = rows.map t.valueRow := by
  refine List.map_congr_left fun r hr => ?_
  obtain ⟨id, hid⟩ := h r hr
  rw [valueRow, valueRow, hid, idOf?_of_grows hg hid]

end Tables

end Intake
