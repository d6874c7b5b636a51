import Intake.Proofs.Postgres.Pool
import Intake.Proofs.Postgres.Transcript

/-!
# Bulk load: the rows go out in pieces

The lines of a bulk load are put together into groups (`CopyChunks.Grouped`): each group but the last reaches the limit with its
last line and not before. What is sent are the groups, piece by piece, up to the first that fails (`Loads`); then the load is given up,
and nothing follows. `bulkLoad_chunked` says this of the phase of a batch, for all rows and every server.
-/

namespace Intake

/-! ## Pieces -/

namespace CopyChunks

variable {limit : Nat} {begun lines : List String} {groups : List (List String)}

/-- The lines are put together into groups, of which each but the last reaches the limit; none does before its last line. -/
structure Grouped (limit : Nat) (lines : List String) (groups : List (List String)) : Prop where
  flatten : groups.flatten = lines
  ne_nil : ∀ g ∈ groups, g ≠ []
  full : ∀ g ∈ groups.dropLast, limit ≤ (String.join g).utf8ByteSize
  tight : ∀ g ∈ groups, (String.join g.dropLast).utf8ByteSize < limit

theorem Grouped.cons {g : List String} (h : Grouped limit lines groups) (hne : g ≠ []) (hfull : limit ≤ (String.join g).utf8ByteSize)
    (htight : (String.join g.dropLast).utf8ByteSize < limit) : Grouped limit (g ++ lines) (g :: groups) where
  flatten := by rw [List.flatten_cons, h.flatten]
  ne_nil := List.forall_mem_cons.2 ⟨hne, h.ne_nil⟩
  full := by
    cases groups with
    | nil => exact fun _ hmem => absurd hmem List.not_mem_nil
    | cons g' groups =>
      rw [List.dropLast_cons_cons]
      exact List.forall_mem_cons.2 ⟨hfull, h.full⟩
  tight := List.forall_mem_cons.2 ⟨htight, h.tight⟩

/-- Some lines of which none is empty are an empty text only if there are none. -/
theorem join_eq_empty_iff (h : ∀ l ∈ lines, l ≠ "") : String.join lines = "" ↔ lines = [] := by
  cases lines with
  | nil => exact ⟨fun _ => rfl, fun _ => rfl⟩
  | cons l rest =>
    have hne : String.join (l :: rest) ≠ "" := by
      intro hempty
      have hsize := congrArg String.utf8ByteSize hempty
      rw [String.join_cons, String.utf8ByteSize_append, String.utf8ByteSize_empty] at hsize
      exact h l List.mem_cons_self (String.utf8ByteSize_eq_zero_iff.1 (Nat.eq_zero_of_add_eq_zero_right hsize))
    exact ⟨fun hempty => absurd hempty hne, fun hnil => absurd hnil (List.cons_ne_nil _ _)⟩

theorem join_flatten (groups : List (List String)) : String.join (groups.map String.join) = String.join groups.flatten := by
  induction groups with
  | nil => rfl
  | cons g groups ih => rw [List.map_cons, String.join_cons, List.flatten_cons, String.join_append, ih]

theorem grouped_nil : Grouped limit [] [] where
  flatten := rfl
  ne_nil _ h := absurd h List.not_mem_nil
  full _ h := absurd h List.not_mem_nil
  tight _ h := absurd h List.not_mem_nil

/-- The pieces of a group that was begun below the limit, and of the lines behind it. -/
theorem collect_grouped (hlimit : 0 < limit) (hbegun : (String.join begun).utf8ByteSize < limit) (hne : ∀ l ∈ begun ++ lines, l ≠ "") :
    ∃ groups, Grouped limit (begun ++ lines) groups ∧ collect limit (String.join begun) lines = groups.map String.join := by
  induction lines generalizing begun with
  | nil =>
    rw [List.append_nil] at hne ⊢
    by_cases hnil : begun = []
    · subst hnil
      exact ⟨[], grouped_nil, rfl⟩
    · have hpiece : ¬ (String.join begun).isEmpty = true := by
        rw [String.isEmpty_iff, join_eq_empty_iff hne]
        exact hnil
      have htight : (String.join begun.dropLast).utf8ByteSize < limit := by
        have hlast := congrArg String.utf8ByteSize (String.join_append (l := begun.dropLast) (m := [begun.getLast hnil]))
        rw [List.dropLast_concat_getLast, String.utf8ByteSize_append] at hlast
        omega
      refine ⟨[begun], ⟨List.append_nil begun, List.forall_mem_singleton.2 hnil, fun _ h => absurd h List.not_mem_nil,
        List.forall_mem_singleton.2 htight⟩, ?_⟩
      rw [collect, if_neg hpiece]
      rfl
  | cons line lines ih =>
    have hstep : String.join begun ++ line = String.join (begun ++ [line]) := by
      rw [String.join_append, String.join_cons, String.join_nil, String.append_empty]
    have hsplit : begun ++ line :: lines = (begun ++ [line]) ++ lines := by rw [List.append_assoc, List.singleton_append]
    rw [hsplit] at hne ⊢
    rw [collect, hstep]
    by_cases hfull : limit ≤ (String.join (begun ++ [line])).utf8ByteSize
    · obtain ⟨groups, hgroups, hcollect⟩ := @ih [] hlimit fun l hl => hne l (List.mem_append_right _ hl)
      have htight : (String.join (begun ++ [line]).dropLast).utf8ByteSize < limit := by
        rw [List.dropLast_concat]
        exact hbegun
      refine ⟨(begun ++ [line]) :: groups, hgroups.cons (List.append_ne_nil_of_right_ne_nil _ (List.cons_ne_nil _ _)) hfull htight, ?_⟩
      rw [if_pos hfull, List.map_cons]
      exact congrArg (String.join (begun ++ [line]) :: ·) hcollect
    · rw [if_neg hfull]
      exact ih (Nat.not_le.1 hfull) hne

/-- The pieces of some lines, none of them empty, are groups of these lines. -/
theorem ofLines_grouped (h : ∀ l ∈ lines, l ≠ "") :
    ∃ groups, Grouped CopyChunks.limit lines groups ∧ ofLines lines = groups.map String.join :=
  @collect_grouped _ [] lines (by decide) (by decide) h

/-- Every piece has some text. -/
theorem Grouped.join_ne_empty (h : Grouped limit lines groups) (hne : ∀ l ∈ lines, l ≠ "") {g : List String} (hg : g ∈ groups) :
    String.join g ≠ "" := by
  have hlines : ∀ l ∈ g, l ≠ "" := fun l hl => hne l (h.flatten ▸ List.mem_flatten.2 ⟨g, hg, hl⟩)
  exact fun hempty => h.ne_nil g hg ((join_eq_empty_iff hlines).1 hempty)

theorem Grouped.eq_nil (h : Grouped limit [] groups) : groups = [] := by
  cases groups with
  | nil => rfl
  | cons g groups =>
    have hflatten := h.flatten
    rw [List.flatten_cons] at hflatten
    exact absurd (List.append_eq_nil_iff.1 hflatten).1 (h.ne_nil g List.mem_cons_self)

end CopyChunks

/-! ## What is sent -/

/-- The data of bulk loads among what was sent, in order. -/
def payloads (log : List Sent) : List String := log.filterMap fun x => x.order.data?

theorem payloads_append (log more : List Sent) : payloads (log ++ more) = payloads log ++ payloads more := List.filterMap_append

namespace Loads

variable {number : Nat} {pieces : List String} {log : List Sent} {answer : Except DatabaseFault Nat}

/-- What is sent are the pieces, in order. -/
theorem payloads_prefix (h : Loads number pieces log answer) : payloads log <+: pieces := by
  induction h with
  | finished answer => exact List.prefix_refl _
  | @sent piece _ _ _ n _ ih => exact (List.prefix_cons_inj piece).2 ih
  | @failed piece pieces e given => exact (List.prefix_cons_inj piece).2 List.nil_prefix

/-- The end of the load is sent once all pieces were. -/
theorem payloads_eq (h : Loads number pieces log answer) (hdone : .copyDone ∈ log.map Sent.order) : payloads log = pieces := by
  induction h with
  | finished answer => rfl
  | @sent piece _ _ _ n _ ih =>
    obtain hpiece | hdone := List.mem_cons.1 hdone
    · cases hpiece
    · exact congrArg (piece :: ·) (ih hdone)
  | failed e given =>
    rw [List.map_cons, List.map_cons, List.map_nil] at hdone
    simp at hdone

/-- A piece that fails is the last one. Behind it the load is given up, and its end is not sent. -/
theorem ends_at_failed (h : Loads number pieces log answer) {x : Sent} (hx : x ∈ log) (hdata : x.order.data?.isSome) {e : DatabaseFault}
    (he : x.answer = .error e) :
    ∃ before given, log = before ++ [x, ⟨number, .copyFail Connection.copyAbandoned, given⟩] ∧
      (∀ y ∈ before, ∃ text n, y = ⟨number, .copyData text, .ok n⟩) ∧ answer = .error e := by
  induction h with
  | finished answer =>
    obtain rfl := List.mem_singleton.1 hx
    cases hdata
  | @sent piece pieces log answer n _ ih =>
    obtain rfl | hx := List.mem_cons.1 hx
    · cases he
    · obtain ⟨before, given, rfl, hbefore, hanswer⟩ := ih hx
      exact ⟨_ :: before, given, rfl, List.forall_mem_cons.2 ⟨⟨piece, n, rfl⟩, hbefore⟩, hanswer⟩
  | @failed piece pieces e' given =>
    obtain rfl | hx := List.mem_cons.1 hx
    · cases he
      exact ⟨[], given, rfl, fun _ h => absurd h List.not_mem_nil, rfl⟩
    · obtain rfl := List.mem_singleton.1 hx
      cases hdata

end Loads

/-- Nothing but statements is sent for a statement. -/
theorem Exchange.query_of_mem_wire {x : Exchange} {sql : String} (hx : x.order = .query sql) {number : Nat} {y : Sent}
    (hy : y ∈ x.wire number) : ∃ sql, y.order = .query sql := by
  cases x with
  | sent o r =>
    obtain rfl := List.mem_singleton.1 hy
    exact ⟨sql, hx⟩
  | rolledBack n o r =>
    obtain rfl | hy := List.mem_cons.1 hy
    · exact ⟨_, rfl⟩
    · obtain rfl := List.mem_singleton.1 hy
      exact ⟨sql, hx⟩
  | blocked o e =>
    obtain rfl := List.mem_singleton.1 hy
    exact ⟨_, rfl⟩

namespace CopyCourse

variable {number : Nat} {owes : Bool} {sql : String} {pieces : List String} {log : List Sent} {answer : Except DatabaseFault Nat}

theorem payloads_wire {x : Exchange} (hx : x.order = .query sql) (number : Nat) : payloads (x.wire number) = [] := by
  refine List.filterMap_eq_nil_iff.2 fun y hy => ?_
  obtain ⟨sql, hsql⟩ := Exchange.query_of_mem_wire hx hy
  rw [hsql]
  rfl

theorem not_done_of_wire {x : Exchange} (hx : x.order = .query sql) (number : Nat) : .copyDone ∉ (x.wire number).map Sent.order := by
  intro h
  obtain ⟨y, hy, hdone⟩ := List.mem_map.1 h
  obtain ⟨sql, hsql⟩ := Exchange.query_of_mem_wire hx hy
  cases hsql.symm.trans hdone

theorem not_data_of_wire {x : Exchange} (hx : x.order = .query sql) {number : Nat} {y : Sent} (hy : y ∈ x.wire number) :
    ¬ y.order.data?.isSome := by
  obtain ⟨sql, hsql⟩ := Exchange.query_of_mem_wire hx hy
  rw [hsql]
  exact Bool.false_ne_true

theorem payloads_prefix (h : CopyCourse number owes sql pieces answer log) : payloads log <+: pieces := by
  cases h with
  | refused horder hsettles hanswer =>
    rw [payloads_wire horder]
    exact List.nil_prefix
  | accepted horder hsettles hanswer hloads =>
    rw [payloads_append, payloads_wire horder, List.nil_append]
    exact hloads.payloads_prefix

theorem payloads_eq (h : CopyCourse number owes sql pieces answer log) (hdone : .copyDone ∈ log.map Sent.order) : payloads log = pieces := by
  cases h with
  | refused horder hsettles hanswer => exact absurd hdone (not_done_of_wire horder number)
  | accepted horder hsettles hanswer hloads =>
    rw [List.map_append] at hdone
    rw [payloads_append, payloads_wire horder, List.nil_append]
    obtain hdone | hdone := List.mem_append.1 hdone
    · exact absurd hdone (not_done_of_wire horder number)
    · exact hloads.payloads_eq hdone

theorem ends_at_failed (h : CopyCourse number owes sql pieces answer log) {x : Sent} (hx : x ∈ log) (hdata : x.order.data?.isSome)
    {e : DatabaseFault} (he : x.answer = .error e) :
    ∃ before given, log = before ++ [x, ⟨number, .copyFail Connection.copyAbandoned, given⟩] ∧
      .copyDone ∉ before.map Sent.order ∧ (∀ y ∈ before, y.order.data?.isSome → y.answer.isOk) ∧ answer = .error e := by
  cases h with
  | refused horder hsettles hanswer => exact absurd hdata (not_data_of_wire horder hx)
  | @accepted opening n data _ horder hsettles hanswer hloads =>
    obtain hx | hx := List.mem_append.1 hx
    · exact absurd hdata (not_data_of_wire horder hx)
    · obtain ⟨before, given, rfl, hbefore, rfl⟩ := hloads.ends_at_failed hx hdata he
      refine ⟨opening.wire number ++ before, given, (List.append_assoc _ _ _).symm, fun hdone => ?_, fun y hy hydata => ?_, rfl⟩
      · rw [List.map_append] at hdone
        obtain hdone | hdone := List.mem_append.1 hdone
        · exact not_done_of_wire horder number hdone
        · obtain ⟨y, hy, hydone⟩ := List.mem_map.1 hdone
          obtain ⟨text, n, rfl⟩ := hbefore y hy
          cases hydone
      · obtain hy | hy := List.mem_append.1 hy
        · exact absurd hydata (not_data_of_wire horder hy)
        · obtain ⟨text, n, rfl⟩ := hbefore y hy
          rfl

end CopyCourse

/-! ## The phase of a batch -/

/-- What is known of a bulk load of these rows, from what it sends and what it answers. -/
structure ChunkedLoad (c : Connection) (copyStaging : String) (rows : List StagedRow) (groups : List (List String))
    (r : Except StorageError Nat) (log : List Sent) : Prop where
  /-- The lines of the rows are put together into the pieces, in order. -/
  grouped : CopyChunks.Grouped CopyChunks.limit (rows.map StagedRow.copyLine) groups
  joined : String.join (groups.map String.join) = String.join (rows.map StagedRow.copyLine)
  ne_empty : ∀ g ∈ groups, String.join g ≠ ""
  nothing : rows = [] → groups = []
  /-- The pieces are sent once the statement was accepted, and then the end of the load. -/
  course : ∃ answer, CopyCourse c.number c.owesRollback copyStaging (groups.map String.join) answer log ∧ r = answer.mapError (.phase .bulkLoad)
  /-- What is sent of the data are these pieces, in order; all of them if the end of the load is sent. -/
  inOrder : payloads log <+: groups.map String.join
  complete : .copyDone ∈ log.map Sent.order → payloads log = groups.map String.join
  /-- After a piece that fails the load is given up, and nothing else is sent. -/
  failed : ∀ x ∈ log, x.order.data?.isSome → ∀ e, x.answer = .error e →
    ∃ before given, log = before ++ [x, ⟨c.number, .copyFail Connection.copyAbandoned, given⟩] ∧
      .copyDone ∉ before.map Sent.order ∧ (∀ y ∈ before, y.order.data?.isSome → y.answer.isOk) ∧ r = .error (.phase .bulkLoad e)

theorem StagedRow.copyLine_ne_empty (r : StagedRow) : r.copyLine ≠ "" := by
  intro h
  have hsize := congrArg String.utf8ByteSize h
  unfold copyLine at hsize
  rw [String.utf8ByteSize_append] at hsize
  exact absurd (Nat.eq_zero_of_add_eq_zero_left hsize) (by decide)

namespace Source

variable {σ : Type}

/-- For all rows and every server, a bulk load sends the lines of the rows in pieces of the given size, up to the first that fails. -/
theorem bulkLoad_chunked (svc : DatabaseServer σ) (src : Source) (s : σ) (c : Connection) (rows : List StagedRow) :
    ∃ groups, ChunkedLoad c src.statements.copyStaging rows groups ((phase svc.recorded c .bulkLoad rows).run (src, s, [])).1.1
      ((phase svc.recorded c .bulkLoad rows).run (src, s, [])).2.1.2.2 := by
  have hlines : ∀ l ∈ rows.map StagedRow.copyLine, l ≠ "" := by
    intro l hl
    obtain ⟨r, -, rfl⟩ := List.mem_map.1 hl
    exact r.copyLine_ne_empty
  obtain ⟨groups, hgroups, hpieces⟩ := CopyChunks.ofLines_grouped hlines
  obtain ⟨-, sent, hlog, hcourse⟩ :=
    @Connection.yields_copyIn_course _ svc src.statements.copyStaging (rows.map StagedRow.copyLine) (c, s, [])
  rw [hpieces] at hcourse
  have hsent : ((phase svc.recorded c .bulkLoad rows).run (src, s, [])).2.1.2.2 = sent := hlog
  generalize hr : ((Connection.copyIn svc.recorded src.statements.copyStaging (rows.map StagedRow.copyLine)).run (c, s, [])).1 = r
    at hcourse
  have hresult : ((phase svc.recorded c .bulkLoad rows).run (src, s, [])).1.1 = r.mapError (.phase .bulkLoad) := by
    rw [← hr]
    rfl
  rw [hresult, hsent]
  refine ⟨groups, hgroups, ?_, fun g hg => hgroups.join_ne_empty hlines hg, ?_, ⟨r, hcourse, rfl⟩, hcourse.payloads_prefix,
    hcourse.payloads_eq, fun x hx hdata e he => ?_⟩
  · rw [CopyChunks.join_flatten, hgroups.flatten]
  · rintro rfl
    exact hgroups.eq_nil
  · obtain ⟨before, given, hbefore, hdone, hsent, rfl⟩ := hcourse.ends_at_failed hx hdata he
    exact ⟨before, given, hbefore, hdone, hsent, rfl⟩

end Source

end Intake
