import Intake.Proofs.Postgres.Pool
import Intake.Proofs.Postgres.Statements
import Intake.Proofs.Postgres.Transcript
import Intake.Proofs.Store.Write

/-!
# Batch session: what one batch sends

A batch has a plan (`Statements.plan`): its staging table is created and loaded, then labels and values are inserted, each in a
transaction of its own. Whatever fails, the session that was reserved for it carries the plan up to the first step that fails, and then
drops the staging table. A transaction that is open then is rolled back first, and if that fails the session ends there, with its
staging table (`SessionEnd`). `batch_follows_plan` says this for every server, and what the write answers.
-/

namespace Intake

open Exchange

/-! ## The plan of a batch -/

namespace Statements

/-- What a phase sends for these rows. -/
def steps (st : Statements) (rows : List StagedRow) : WritePhase → List PlanStep
  | .createStaging => [⟨.createStaging, .query st.createStaging⟩]
  | .bulkLoad => Connection.copySteps .bulkLoad st.copyStaging (CopyChunks.ofLines (rows.map StagedRow.copyLine))
  | .insertLabels => Connection.transactSteps .insertLabels st.insertLabels
  | .insertValues => Connection.transactSteps .insertValues st.insertValues
  | .acquire | .release => []

/-- What a batch of these rows sends until its labels are there. -/
def labelPlan (st : Statements) (rows : List StagedRow) : List PlanStep :=
  st.steps rows .createStaging ++ (st.steps rows .bulkLoad ++ st.steps rows .insertLabels)

/-- What a batch of these rows sends if nothing fails, but for the end of its session. -/
def plan (st : Statements) (rows : List StagedRow) : List PlanStep :=
  st.labelPlan rows ++ st.steps rows .insertValues

variable {table sql : String} {rows : List StagedRow} {p : WritePhase} {xs : List Exchange} {halt : Option Halt} {s : PlanStep}

/-- No step of a batch belongs to another phase. -/
theorem phase_of_mem_steps {st : Statements} (h : s ∈ st.steps rows p) : s.phase = p := by
  cases p <;>
    simp only [steps, Connection.copySteps, Connection.transactSteps, List.cons_append, List.mem_append, List.mem_cons, List.mem_map,
      List.not_mem_nil, or_false] at h
  case createStaging => rw [h]
  case bulkLoad => rcases h with rfl | ⟨text, -, rfl⟩ | rfl <;> rfl
  case insertLabels => rcases h with rfl | rfl | rfl <;> rfl
  case insertValues => rcases h with rfl | rfl | rfl <;> rfl

/-- The plan up to the labels has the statements that create and load the staging table and insert labels, and no other. -/
theorem order_ne_of_mem_labelPlan (hbegin : "BEGIN" ≠ sql) (hcommit : "COMMIT" ≠ sql) (hcreate : (ofTable table).createStaging ≠ sql)
    (hcopy : (ofTable table).copyStaging ≠ sql) (hlabels : (ofTable table).insertLabels ≠ sql)
    (h : s ∈ (ofTable table).labelPlan rows) : s.order ≠ .query sql := by
  obtain h | h := List.mem_append.1 h
  · obtain rfl := List.mem_singleton.1 h
    exact fun hq => hcreate (Order.query.inj hq)
  · obtain h | h := List.mem_append.1 h
    · exact Connection.order_ne_of_mem_copySteps hcopy h
    · exact Connection.order_ne_of_mem_transactSteps hbegin hcommit hlabels h

/-- The plan has these statements and the one that inserts values, and so all but the one that drops the staging table. -/
theorem order_ne_of_mem_plan (hbegin : "BEGIN" ≠ sql) (hcommit : "COMMIT" ≠ sql) (hall : ∀ statement ∈ (ofTable table).all,
    statement ≠ (ofTable table).dropStaging → statement ≠ sql) (h : s ∈ (ofTable table).plan rows) : s.order ≠ .query sql := by
  have hdrop := head?_dropStaging table
  have hcreate := hall _ (by simp [all]) (ne_of_head? (head?_createStaging table) hdrop (by decide))
  have hcopy := hall _ (by simp [all]) (ne_of_head? (head?_copyStaging table) hdrop (by decide))
  have hlabels := hall _ (by simp [all]) (ne_of_head? (head?_insertLabels table) hdrop (by decide))
  have hvalues := hall _ (by simp [all]) (ne_of_head? (head?_insertValues table) hdrop (by decide))
  rcases List.mem_append.1 h with h | h
  · exact order_ne_of_mem_labelPlan hbegin hcommit hcreate hcopy hlabels h
  · exact Connection.order_ne_of_mem_transactSteps hbegin hcommit hvalues h

/-- The plan never rolls back. -/
theorem order_ne_rollback_of_mem_plan (h : s ∈ (ofTable table).plan rows) : s.order ≠ .query "ROLLBACK" :=
  order_ne_of_mem_plan (by decide) (by decide) (fun _ hmem _ => ne_of_mem_all table hmem (by simp)) h

/-- The plan never drops the staging table. -/
theorem order_ne_drop_of_mem_plan (h : s ∈ (ofTable table).plan rows) : s.order ≠ .query (ofTable table).dropStaging := by
  have hbegin : "BEGIN" ≠ (ofTable table).dropStaging := (ne_of_mem_all table (by simp [all]) (by simp)).symm
  have hcommit : "COMMIT" ≠ (ofTable table).dropStaging := (ne_of_mem_all table (by simp [all]) (by simp)).symm
  exact order_ne_of_mem_plan hbegin hcommit (fun _ _ hne => hne) h

/-- Values are not inserted before the labels are there. -/
theorem order_ne_values_of_mem_labelPlan (h : s ∈ (ofTable table).labelPlan rows) : s.order ≠ .query (ofTable table).insertValues := by
  have hvalues := head?_insertValues table
  exact order_ne_of_mem_labelPlan (ne_of_mem_all table (by simp [all]) (by simp)).symm
    (ne_of_mem_all table (by simp [all]) (by simp)).symm (ne_of_head? (head?_createStaging table) hvalues (by decide))
    (ne_of_head? (head?_copyStaging table) hvalues (by decide)) (insertLabels_ne_insertValues table) h

/-- A phase that was made in full leaves no transaction open. -/
theorem leavesOpen_of_steps (h : Carried ((ofTable table).steps rows p) xs none) : leavesOpen xs = false := by
  have hne : ∀ sql ∈ (ofTable table).all, sql ≠ "BEGIN" ∧ sql ≠ "COMMIT" :=
    fun sql hsql => ⟨ne_of_mem_all table hsql (by simp), ne_of_mem_all table hsql (by simp)⟩
  cases p with
  | createStaging =>
    have hcreate := hne (ofTable table).createStaging (by simp [all])
    refine foldl_transaction_of_plain (fun x hx => ?_) false
    obtain ⟨s, hs, horder⟩ := h.exists_step hx
    obtain rfl := List.mem_singleton.1 hs
    unfold IsPlain
    rw [horder]
    exact ⟨fun hq => hcreate.1 (Order.query.inj hq), fun hq => hcreate.2 (Order.query.inj hq)⟩
  | bulkLoad =>
    have hcopy := hne (ofTable table).copyStaging (by simp [all])
    exact Connection.leavesOpen_of_copySteps hcopy.1 hcopy.2 h
  | insertLabels =>
    have hlabels := hne (ofTable table).insertLabels (by simp [all])
    exact Connection.leavesOpen_of_transactSteps hlabels.1 hlabels.2 h
  | insertValues =>
    have hvalues := hne (ofTable table).insertValues (by simp [all])
    exact Connection.leavesOpen_of_transactSteps hvalues.1 hvalues.2 h
  | acquire =>
    cases h
    rfl
  | release =>
    cases h
    rfl

end Statements

/-! ## Sessions -/

/-- After the drop of its staging table a connection gives a sign of life at most before it goes back, and if the drop failed it sends
nothing. -/
structure QuietAfter (answer : Except DatabaseFault Nat) (farewell : List Sent) : Prop where
  syncs : ∀ x ∈ farewell, x.order = .sync
  failed : ∀ e, answer = .error e → farewell = []

/-- A session asks for one drop of the staging table, after what the connection owes. -/
structure Closes (dropStaging : String) (owes : Bool) (drop : Exchange) (farewell : List Sent) : Prop where
  order : drop.order = .query dropStaging
  settles : drop.settles = owes
  quiet : QuietAfter drop.answer farewell

/-- A rollback that failed. -/
def Sent.isFailedRollback (x : Sent) : Bool := decide (x.order = .query "ROLLBACK") && !x.answer.isOk

/-- What a session sends at its end, while a transaction is open or none is. -/
inductive SessionEnd (dropStaging : String) (number : Nat) : (isOpen : Bool) → List Sent → Prop where
  /-- The staging table is dropped. -/
  | dropped {answer : Except DatabaseFault Nat} {farewell : List Sent} (hquiet : QuietAfter answer farewell) :
    SessionEnd dropStaging number false (⟨number, .query dropStaging, answer⟩ :: farewell)
  /-- The transaction is rolled back, and then the staging table is dropped. -/
  | rolledBack (rows : Nat) {answer : Except DatabaseFault Nat} {farewell : List Sent} (hquiet : QuietAfter answer farewell) :
    SessionEnd dropStaging number true (⟨number, .query "ROLLBACK", .ok rows⟩ :: ⟨number, .query dropStaging, answer⟩ :: farewell)
  /-- The rollback fails. Nothing else is sent, and the staging table is not dropped. -/
  | stuck (e : DatabaseFault) : SessionEnd dropStaging number true [⟨number, .query "ROLLBACK", .error e⟩]

theorem Closes.sessionEnd {dropStaging : String} {owes : Bool} {drop : Exchange} {farewell : List Sent}
    (h : Closes dropStaging owes drop farewell) (number : Nat) :
    SessionEnd dropStaging number owes (drop.wire number ++ farewell) := by
  obtain ⟨horder, rfl, hquiet⟩ := h
  cases drop with
  | sent o r =>
    obtain rfl := horder
    exact .dropped hquiet
  | rolledBack n o r =>
    obtain rfl := horder
    exact .rolledBack n hquiet
  | blocked o e =>
    rw [hquiet.failed e rfl, List.append_nil]
    exact .stuck e

theorem QuietAfter.countP_query {answer : Except DatabaseFault Nat} {farewell : List Sent} (h : QuietAfter answer farewell)
    (sql : String) : farewell.countP (fun x => decide (x.order = .query sql)) = 0 := by
  refine List.countP_eq_zero.2 ?_
  intro x hx
  simp [h.syncs x hx]

theorem QuietAfter.any_isFailedRollback {answer : Except DatabaseFault Nat} {farewell : List Sent} (h : QuietAfter answer farewell) :
    farewell.any Sent.isFailedRollback = false := by
  refine List.any_eq_false.2 ?_
  intro x hx
  simp [Sent.isFailedRollback, h.syncs x hx]

/-- At its end a session sends one drop, or none if its rollback failed. -/
theorem SessionEnd.countP_drop {dropStaging : String} {number : Nat} {isOpen : Bool} {log : List Sent}
    (h : SessionEnd dropStaging number isOpen log) (hne : dropStaging ≠ "ROLLBACK") :
    log.countP (fun x => decide (x.order = .query dropStaging)) = if log.any Sent.isFailedRollback then 0 else 1 := by
  cases h with
  | dropped hquiet =>
    have hcount := hquiet.countP_query dropStaging
    have hany := hquiet.any_isFailedRollback
    simp [hcount, hany, Sent.isFailedRollback, hne]
  | rolledBack rows hquiet =>
    have hcount := hquiet.countP_query dropStaging
    have hany := hquiet.any_isFailedRollback
    simp [hcount, hany, Sent.isFailedRollback, hne, hne.symm, Except.isOk, Except.toBool]
  | stuck e => simp [Sent.isFailedRollback, hne.symm, Except.isOk, Except.toBool]

/-- What happens on the session of a batch. -/
structure BatchSession where
  /-- The steps of the plan that are made. -/
  done : List Exchange
  /-- The step at which the plan is cut. -/
  halt : Option Halt
  /-- What is sent to give up a bulk load. -/
  given : List Exchange
  /-- The end of the staging table. -/
  drop : Exchange
  /-- What is sent while the connection goes back to the pool. -/
  farewell : List Sent

namespace BatchSession

variable {b : BatchSession} {plan : List PlanStep} {table : String} {rows : List StagedRow}

/-- What the session asks for, in order. -/
def asked (b : BatchSession) : List Exchange := b.done ++ b.given ++ [b.drop]

/-- What is sent on the connection with this number. -/
def wire (b : BatchSession) (number : Nat) : List Sent := b.asked.flatMap (Exchange.wire number) ++ b.farewell

/-- What the write answers. -/
def answer (b : BatchSession) : Except StorageError Unit :=
  match b.halt with
  | none => .ok ()
  | some stop => .error (.phase stop.phase stop.fault)

/-- The session makes a plan up to the first step that fails, and closes. -/
structure Makes (b : BatchSession) (plan : List PlanStep) (dropStaging : String) : Prop where
  carried : Carried plan b.done b.halt
  given : GivesUp b.halt b.given
  closes : Closes dropStaging (leavesOpen b.done) b.drop b.farewell

/-- A session that makes the plan of a batch. -/
structure Follows (b : BatchSession) (st : Statements) (rows : List StagedRow) : Prop extends b.Makes (st.plan rows) st.dropStaging where
  /-- After the steps that were made, and what it takes to give up a bulk load, the session ends: it drops its staging table, after
  the transaction that is open, if one is, was rolled back. -/
  ending : ∀ number, ∃ last, b.wire number = (b.done ++ b.given).flatMap (Exchange.wire number) ++ last ∧
    SessionEnd st.dropStaging number (leavesOpen b.done) last
  /-- Whatever was made of the plan, the drop is sent once, but for a session whose rollback failed: there it is never sent. -/
  once : ∀ number, (b.wire number).countP (fun x => decide (x.order = .query st.dropStaging)) =
    if (b.wire number).any Sent.isFailedRollback then 0 else 1
  /-- Values are inserted only after the transaction of the labels was committed. -/
  committed : ∀ before x after, b.done = before ++ x :: after → x.order = .query st.insertValues →
    ∃ earlier n₁ n₂ n₃ n₄, before = earlier ++ [sent (.query "BEGIN") (.ok n₁), sent (.query st.insertLabels) (.ok n₂),
      sent (.query "COMMIT") (.ok n₃), sent (.query "BEGIN") (.ok n₄)]
  /-- The write succeeds if and only if no step of the plan fails; the drop does not count. -/
  succeeds : b.answer = .ok () ↔ ∀ x ∈ b.done, x.answer.isOk

/-- Steps that were made in full come before the session of the rest of a plan. -/
theorem Makes.prepend {dropStaging : String} {steps : List PlanStep} {xs : List Exchange} (h : b.Makes plan dropStaging)
    (hxs : Carried steps xs none) (hopen : leavesOpen xs = false) :
    ({ b with done := xs ++ b.done } : BatchSession).Makes (steps ++ plan) dropStaging where
  carried := hxs.append h.carried
  given := h.given
  closes := by
    have hrest : leavesOpen (xs ++ b.done) = leavesOpen b.done := by
      unfold leavesOpen at hopen ⊢
      rw [List.foldl_append, hopen]
    exact hrest ▸ h.closes

theorem wire_prepend (b : BatchSession) (xs : List Exchange) (number : Nat) :
    ({ b with done := xs ++ b.done } : BatchSession).wire number = xs.flatMap (Exchange.wire number) ++ b.wire number := by
  simp [wire, asked]

/-- No statement is sent to give up a bulk load. -/
theorem order_ne_of_given {halt : Option Halt} {xs : List Exchange} (h : GivesUp halt xs) {number : Nat} {x : Sent}
    (hx : x ∈ xs.flatMap (Exchange.wire number)) (sql : String) : x.order ≠ .query sql := by
  unfold GivesUp at h
  split at h
  · obtain ⟨answer, rfl⟩ := h
    obtain rfl := List.mem_singleton.1 hx
    exact nofun
  · rw [h] at hx
    cases hx

/-- Up to its end, a session sends statements of its plan only. -/
theorem Makes.order_ne {dropStaging : String} (h : b.Makes plan dropStaging) {sql : String} (hplan : ∀ s ∈ plan, s.order ≠ .query sql)
    {number : Nat} {x : Sent} (hx : x ∈ (b.done ++ b.given).flatMap (Exchange.wire number)) : x.order ≠ .query sql := by
  rw [List.flatMap_append] at hx
  rcases List.mem_append.1 hx with hx | hx
  · obtain ⟨s, hs, horder⟩ := h.carried.exists_step_of_sent hx
    rw [horder]
    exact hplan s hs
  · exact order_ne_of_given h.given hx sql

theorem Makes.ending {dropStaging : String} (h : b.Makes plan dropStaging) (number : Nat) :
    ∃ last, b.wire number = (b.done ++ b.given).flatMap (Exchange.wire number) ++ last ∧
      SessionEnd dropStaging number (leavesOpen b.done) last := by
  refine ⟨_, ?_, h.closes.sessionEnd number⟩
  rw [wire, asked, List.flatMap_append, List.flatMap_singleton, List.append_assoc]

theorem answer_eq_ok_iff : b.answer = .ok () ↔ b.halt = none := by
  unfold answer
  cases b.halt with
  | none => simp
  | some stop => simp

/-- Values are inserted right after the transaction of the labels. -/
theorem committed_of_carried {xs before after : List Exchange} {halt : Option Halt} {x : Exchange}
    (h : Carried ((Statements.ofTable table).plan rows) xs halt) (hxs : xs = before ++ x :: after)
    (hx : x.order = .query (Statements.ofTable table).insertValues) :
    ∃ earlier n₁ n₂ n₃ n₄, before = earlier ++ [sent (.query "BEGIN") (.ok n₁),
      sent (.query (Statements.ofTable table).insertLabels) (.ok n₂), sent (.query "COMMIT") (.ok n₃), sent (.query "BEGIN") (.ok n₄)] := by
  subst hxs
  obtain ⟨made, s, rest, hplan, horder, hmade⟩ := h.split
  -- the insertion of the values stands at one place of the plan only
  have hlead : (Statements.ofTable table).plan rows =
      ((Statements.ofTable table).labelPlan rows ++ [⟨.insertValues, .query "BEGIN"⟩]) ++
        ⟨.insertValues, .query (Statements.ofTable table).insertValues⟩ :: [⟨.insertValues, .query "COMMIT"⟩] := by
    unfold Statements.plan Statements.steps Connection.transactSteps
    rw [List.append_assoc]
    rfl
  have hs : s.order = .query (Statements.ofTable table).insertValues := horder.symm.trans hx
  have hword : ∀ word ∈ ["BEGIN", "COMMIT", "ROLLBACK"], s ≠ ⟨.insertValues, .query word⟩ := by
    rintro word hword rfl
    exact Statements.ne_of_mem_all table (by simp [Statements.all]) hword (Order.query.inj hs).symm
  have hbefore : s ∉ (Statements.ofTable table).labelPlan rows ++ [⟨.insertValues, .query "BEGIN"⟩] := by
    intro hmem
    obtain hmem | hmem := List.mem_append.1 hmem
    · exact Statements.order_ne_values_of_mem_labelPlan hmem hs
    · exact hword "BEGIN" (by simp) (List.mem_singleton.1 hmem)
  have hafter : s ∉ [(⟨.insertValues, .query "COMMIT"⟩ : PlanStep)] :=
    fun hmem => hword "COMMIT" (by simp) (List.mem_singleton.1 hmem)
  obtain ⟨rfl, -, -⟩ := (List.append_cons_inj_of_notMem hbefore hafter).1 (hlead.symm.trans hplan)
  obtain ⟨labels, last, rfl, hlabels, hlast⟩ := hmade.of_append
  unfold Statements.labelPlan at hlabels
  rw [← List.append_assoc] at hlabels
  obtain ⟨earlier, inserted, rfl, -, hinserted⟩ := hlabels.of_append
  refine ⟨earlier, ?_⟩
  cases hinserted with
  | next n₁ h =>
    cases h with
    | next n₂ h =>
      cases h with
      | next n₃ h =>
        cases h
        cases hlast with
        | next n₄ h =>
          cases h
          exact ⟨n₁, n₂, n₃, n₄, List.append_assoc _ _ _⟩

/-- What a session that makes the plan of a batch is known to do. -/
theorem Makes.follows (h : b.Makes ((Statements.ofTable table).plan rows) (Statements.ofTable table).dropStaging) :
    b.Follows (Statements.ofTable table) rows where
  toMakes := h
  ending := h.ending
  once number := by
    obtain ⟨last, hwire, hlast⟩ := h.ending number
    have hdrop : ∀ x ∈ (b.done ++ b.given).flatMap (Exchange.wire number),
        ¬decide (x.order = .query (Statements.ofTable table).dropStaging) = true := by
      intro x hx
      rw [decide_eq_true_iff]
      exact h.order_ne (fun s hs => Statements.order_ne_drop_of_mem_plan hs) hx
    have hrollback : ∀ x ∈ (b.done ++ b.given).flatMap (Exchange.wire number), ¬x.isFailedRollback = true := by
      intro x hx
      have hne := h.order_ne (fun s hs => Statements.order_ne_rollback_of_mem_plan hs) hx
      simp [Sent.isFailedRollback, hne]
    have hcount := hlast.countP_drop (Statements.ne_of_mem_all table (by simp [Statements.all]) (by simp))
    rw [hwire, List.countP_append, List.countP_eq_zero.2 hdrop, Nat.zero_add, hcount, List.any_append, List.any_eq_false.2 hrollback,
      Bool.false_or]
  committed _ _ _ := committed_of_carried h.carried
  succeeds := answer_eq_ok_iff.trans h.carried.eq_none_iff

end BatchSession

/-! ## Acts of a source -/

namespace Source

open Connection

variable {σ α : Type} {svc : DatabaseServer σ} {src : Source} {c : Connection} {rows : List StagedRow} {p : WritePhase} {w : BatchWrite}

/-- What a phase sends. -/
theorem yields_perform {t : Connection × σ × List Sent} (ht : t.1.owesRollback = false) :
    (perform svc.recorded src.statements rows p).Yields t (Courses (src.statements.steps rows p) t) := by
  have hne : ∀ sql ∈ src.statements.all, sql ≠ "BEGIN" ∧ sql ≠ "COMMIT" :=
    fun sql hsql => ⟨Statements.ne_of_mem_all _ hsql (by simp), Statements.ne_of_mem_all _ hsql (by simp)⟩
  have hnothing : Courses [] t (.ok 0) t := by
    refine ⟨[], none, [], .all, ⟨0, rfl⟩, rfl, ?_, (List.append_nil _).symm⟩
    exact congrArg (fun owes => { t.1 with owesRollback := owes }) ht
  cases p with
  | createStaging =>
    have hcreate := hne src.statements.createStaging (by simp [Statements.all])
    refine (yields_ask_clear _ ht).mono fun r t' h => ?_
    have hopen : leavesOpen [sent (.query src.statements.createStaging) r] = false := by
      refine foldl_transaction_of_plain (fun x hx => ?_) false
      obtain rfl := List.mem_singleton.1 hx
      exact isPlain_query hcreate.1 hcreate.2 r
    rw [← hopen] at h
    cases r with
    | error e => exact ⟨_, _, [], .cut e, rfl, rfl, h⟩
    | ok n => exact ⟨_, none, [], .next n .all, ⟨n, rfl⟩, rfl, h⟩
  | bulkLoad =>
    have hcopy := hne src.statements.copyStaging (by simp [Statements.all])
    exact yields_copyIn .bulkLoad hcopy.1 hcopy.2 _ ht
  | insertLabels =>
    have hlabels := hne src.statements.insertLabels (by simp [Statements.all])
    exact yields_transact .insertLabels hlabels.1 hlabels.2 ht
  | insertValues =>
    have hvalues := hne src.statements.insertValues (by simp [Statements.all])
    exact yields_transact .insertValues hvalues.1 hvalues.2 ht
  | acquire => exact hnothing
  | release => exact hnothing

/-- A phase on a connection that owes nothing. -/
theorem yields_phase {t : Source × σ × List Sent} (hc : c.owesRollback = false) :
    (phase svc.recorded c p rows).Yields t fun x t' =>
      t'.1 = t.1 ∧ ∃ r, x.1 = r.mapError (.phase p) ∧ Courses (t.1.statements.steps rows p) (c, t.2) r (x.2, t'.2) :=
  ⟨rfl, _, rfl, yields_perform (t := (c, t.2)) hc⟩

/-- What is sent when a connection that owes nothing is given back. -/
theorem yields_farewell {t : Source × σ × List Sent} (hc : c.owesRollback = false) :
    (onPool (Pool.giveBack svc.recorded c)).Yields t fun _ t' =>
      ∃ farewell, t'.2.2 = t.2.2 ++ farewell ∧ ∀ x ∈ farewell, x.order = .sync := by
  refine Act.yields_on.2 (Pool.yields_giveBack (fun _ => ⟨[], (List.append_nil _).symm, nofun⟩) ?_)
  refine (yields_ask_clear .sync (t := (c, t.2)) hc).mono fun r t' h => ?_
  have hsync : ∃ farewell, t'.2.2 = t.2.2 ++ farewell ∧ ∀ x ∈ farewell, x.order = .sync :=
    ⟨_, h.log, fun x hx => by rw [List.mem_singleton.1 hx]⟩
  exact ⟨fun _ _ => hsync, fun _ _ => hsync⟩

/-- What is sent at the end of a session. -/
theorem yields_ending (t : Source × σ × List Sent) :
    (release svc.recorded c).Yields t fun _ t' =>
      ∃ drop farewell, Closes t.1.statements.dropStaging c.owesRollback drop farewell ∧
        t'.2.2 = t.2.2 ++ (drop.wire c.number ++ farewell) := by
  refine yields_release ((yields_ask _ (c, t.2)).mono fun r t' h => ?_)
  obtain ⟨drop, horder, hanswer, hsettles, h⟩ := h
  have hlog : t'.2.2 = t.2.2 ++ drop.wire c.number := h.log.trans (by rw [List.flatMap_singleton])
  refine ⟨fun n hr => ?_, fun e _ => ⟨drop, [], ⟨horder, hsettles, nofun, fun _ _ => rfl⟩, ?_⟩⟩
  · have hclear : t'.1.owesRollback = false := by rw [h.connection]
    refine (yields_farewell hclear).mono fun _ t'' hback => ?_
    obtain ⟨farewell, hfarewell, hsync⟩ := hback
    have hsucceeds : ∀ e, drop.answer = .error e → farewell = [] := by
      intro e he
      cases he.symm.trans (hanswer.trans hr)
    refine ⟨drop, farewell, ⟨horder, hsettles, hsync, hsucceeds⟩, ?_⟩
    rw [hfarewell, hlog, List.append_assoc]
  · rw [List.append_nil]
    exact hlog

/-- How a write goes on after a call was answered. -/
def proceedWith (svc : DatabaseServer σ) (calls : Nat) (held : Option Connection) :
    WriteProgress → Act (Source × σ) (Except StorageError Unit)
  | .going w => carryOn svc calls held w
  | .finished r => return r

theorem carryOn_acquire (svc : DatabaseServer σ) (calls : Nat) (w : BatchWrite) :
    carryOn svc (calls + 1) none w = acquire svc >>= fun r =>
      Act.report (w.reply (r.map fun _ => 0)).2 >>= fun _ => proceedWith svc calls r.toOption (w.reply (r.map fun _ => 0)).1 := by
  obtain ⟨rows, waiting, n, failure⟩ := w
  cases waiting <;> exact congrArg (acquire svc >>= ·) (funext fun r => by cases r <;> rfl)

theorem carryOn_phase (svc : DatabaseServer σ) (calls : Nat) (c : Connection) {w : BatchWrite} (hw : w.waiting ≠ .release) :
    carryOn svc (calls + 1) (some c) w = phase svc c w.waiting w.rows >>= fun x =>
      Act.report (w.reply x.1).2 >>= fun _ => proceedWith svc calls (some x.2) (w.reply x.1).1 := by
  obtain ⟨rows, waiting, n, failure⟩ := w
  cases waiting
  case release => exact absurd rfl hw
  all_goals rfl

theorem carryOn_release (svc : DatabaseServer σ) (calls : Nat) (c : Connection) {w : BatchWrite} (hw : w.waiting = .release) :
    carryOn svc (calls + 1) (some c) w = release svc c >>= fun _ =>
      Act.report (w.reply (.ok 0)).2 >>= fun _ => proceedWith svc calls none (w.reply (.ok 0)).1 := by
  obtain ⟨rows, waiting, n, failure⟩ := w
  cases hw
  rfl

/-- On its connection, a write makes these steps and ends its session. -/
def Carries (svc : DatabaseServer σ) (calls : Nat) (w : BatchWrite) (st : Statements) (plan : List PlanStep) : Prop :=
  ∀ (c : Connection) (t : Source × σ × List Sent), c.owesRollback = false → t.1.statements = st →
    (carryOn svc.recorded calls (some c) w).Yields t fun r t' =>
      ∃ b : BatchSession, b.Makes plan st.dropStaging ∧ r = b.answer ∧ t'.2.2 = t.2.2 ++ b.wire c.number

/-- The end of a write on its connection. -/
theorem yields_carryOn_release (calls : Nat) (c : Connection) (w : BatchWrite) (t : Source × σ × List Sent)
    (hw : w.waiting = .release) : (carryOn svc.recorded (calls + 1) (some c) w).Yields t fun r t' =>
      r = (w.failure.elim (.ok ()) .error) ∧
        ∃ drop farewell, Closes t.1.statements.dropStaging c.owesRollback drop farewell ∧
          t'.2.2 = t.2.2 ++ (drop.wire c.number ++ farewell) := by
  rw [carryOn_release _ _ _ hw]
  refine (yields_ending t).bind fun _ t' hend => ?_
  refine Act.yields_report_bind.2 ?_
  obtain ⟨rows, waiting, n, failure⟩ := w
  cases hw
  cases failure with
  | none => exact ⟨rfl, hend⟩
  | some e => exact ⟨rfl, hend⟩

/-- Once nothing is left of the plan, the session ends. -/
theorem carries_nil (calls : Nat) {w : BatchWrite} {st : Statements} (hw : w.waiting = .release) (hfailure : w.failure = none) :
    Carries svc (calls + 1) w st [] := by
  intro c t hc hst
  refine (yields_carryOn_release calls c w t hw).mono fun r t' h => ?_
  obtain ⟨rfl, drop, farewell, hcloses, hlog⟩ := h
  rw [hst, hc] at hcloses
  refine ⟨⟨[], none, [], drop, farewell⟩, ⟨.all, rfl, hcloses⟩, ?_, ?_⟩
  · rw [hfailure]
    rfl
  · rw [hlog]
    simp [BatchSession.wire, BatchSession.asked]

/-- A phase that fails is followed by the end of the session. -/
theorem reply_error (hinner : w.waiting ≠ .acquire ∧ w.waiting ≠ .release) (e : StorageError) :
    (w.reply (.error e)).1 = .going { w with waiting := .release, failure := some e } := by
  obtain ⟨rows, waiting, n, failure⟩ := w
  cases waiting
  case acquire => exact absurd rfl hinner.1
  case release => exact absurd rfl hinner.2
  all_goals rfl

/-- A phase, and what follows once it was made. If one of its steps fails, the session ends. -/
theorem Carries.phase {calls : Nat} {st : Statements} {table : String} {more : List PlanStep} (hst : st = Statements.ofTable table)
    (hp : w.waiting = p) (hinner : p ≠ .acquire ∧ p ≠ .release)
    (h : ∀ n, ∃ w', (w.reply (.ok n)).1 = .going w' ∧ Carries svc (calls + 1) w' st more) :
    Carries svc (calls + 2) w st (st.steps w.rows p ++ more) := by
  intro c t hc htables
  subst hp
  rw [carryOn_phase _ _ _ hinner.2]
  refine (yields_phase hc).bind fun x t₁ hx => ?_
  obtain ⟨r, c₁⟩ := x
  obtain ⟨src, s, log⟩ := t₁
  obtain ⟨rfl, answer, rfl, xs, halt, given, hcarried, hends, hgives, hx⟩ := hx
  refine Act.yields_report_bind.2 ?_
  rw [htables] at hcarried
  have hlog : log = t.2.2 ++ (xs ++ given).flatMap (wire c.number) := hx.log
  have howes : c₁.owesRollback = leavesOpen xs := congrArg Connection.owesRollback hx.connection
  cases halt with
  | none =>
    obtain ⟨n, rfl⟩ := hends
    obtain rfl : given = [] := hgives
    rw [hst] at hcarried
    have hopen : leavesOpen xs = false := Statements.leavesOpen_of_steps hcarried
    have hclear : c₁.owesRollback = false := howes.trans hopen
    obtain ⟨w', hreply, hcarries⟩ := h n
    have hgoes : proceedWith svc.recorded (calls + 1) (some c₁) (w.reply (.ok n)).1 =
        carryOn svc.recorded (calls + 1) (some c₁) w' := by
      rw [hreply]
      rfl
    refine hgoes ▸ (hcarries c₁ (t.1, s, log) hclear htables).mono fun r t' hb => ?_
    obtain ⟨b, hmakes, rfl, hb⟩ := hb
    refine ⟨{ b with done := xs ++ b.done }, hmakes.prepend (hst ▸ hcarried) hopen, rfl, ?_⟩
    rw [hb, hlog, hx.number, BatchSession.wire_prepend, List.append_nil, List.append_assoc]
  | some stop =>
    obtain rfl : answer = .error stop.fault := hends
    have hphase : stop.phase = w.waiting := Statements.phase_of_mem_steps hcarried.stop_mem
    have hgoes : proceedWith svc.recorded (calls + 1) (some c₁) (w.reply (.error (.phase w.waiting stop.fault))).1 =
        carryOn svc.recorded (calls + 1) (some c₁)
          { w with waiting := .release, failure := some (.phase w.waiting stop.fault) } := by
      rw [reply_error hinner]
      rfl
    refine hgoes ▸ (yields_carryOn_release calls c₁ _ (t.1, s, log) rfl).mono fun r t' hend => ?_
    obtain ⟨rfl, drop, farewell, hcloses, hend⟩ := hend
    rw [htables, howes] at hcloses
    refine ⟨⟨xs, some stop, given, drop, farewell⟩, ⟨hcarried.weaken more, hgives, hcloses⟩, ?_, ?_⟩
    · rw [← hphase]
      rfl
    · rw [hend, hlog, hx.number]
      simp [BatchSession.wire, BatchSession.asked]

/-- A write that has its connection carries the plan of its batch. -/
theorem carries_plan {st : Statements} {table : String} (hst : st = Statements.ofTable table) (rows : List StagedRow) :
    Carries svc 5 { rows, waiting := .createStaging } st (st.plan rows) := by
  have hplan : st.plan rows =
      st.steps rows .createStaging ++ (st.steps rows .bulkLoad ++ (st.steps rows .insertLabels ++
        (st.steps rows .insertValues ++ []))) := by
    simp only [Statements.plan, Statements.labelPlan, List.append_assoc, List.append_nil]
  rw [hplan]
  refine Carries.phase (p := .createStaging) hst rfl ⟨nofun, nofun⟩ fun _ => ⟨_, rfl, ?_⟩
  refine Carries.phase (p := .bulkLoad) hst rfl ⟨nofun, nofun⟩ fun _ => ⟨_, rfl, ?_⟩
  refine Carries.phase (p := .insertLabels) hst rfl ⟨nofun, nofun⟩ fun _ => ⟨_, rfl, ?_⟩
  refine Carries.phase (p := .insertValues) hst rfl ⟨nofun, nofun⟩ fun _ => ⟨_, rfl, ?_⟩
  exact carries_nil 0 rfl rfl

end Source

/-- What a write asks of the server, from the moment its session is reserved, and what it answers. -/
structure BatchProtocol (svc : DatabaseServer σ) (src : Source) (s : σ) (samples : List Sample) (r : Except StorageError Unit)
    (log : List Sent) : Prop where
  /-- A batch with a time that does not fit is rejected before anything is sent. -/
  unfit : (∃ x ∈ samples, Instant.ofMillis? x.timestampMs = none) →
    log = [] ∧ ∃ x ∈ samples, Instant.ofMillis? x.timestampMs = none ∧ r = .error (.timestampOutOfRange x.timestampMs)
  /-- Without a session nothing is sent but what it took to look for one. -/
  unserved : (∀ x ∈ samples, (Instant.ofMillis? x.timestampMs).isSome) →
    ∀ e, ((Source.acquire svc.recorded).run (src, s, [])).1 = .error e →
      r = .error e ∧ log = ((Source.acquire svc.recorded).run (src, s, [])).2.1.2.2
  /-- A session follows the plan of the batch. -/
  session : (∀ x ∈ samples, (Instant.ofMillis? x.timestampMs).isSome) →
    ∀ c, ((Source.acquire svc.recorded).run (src, s, [])).1 = .ok c →
      ∃ rows, ∃ b : BatchSession, samples.map StagedRow.ofSample? = rows.map some ∧ b.Follows src.statements rows ∧ r = b.answer ∧
        log = ((Source.acquire svc.recorded).run (src, s, [])).2.1.2.2 ++ b.wire c.number

namespace BatchProtocol

variable {svc : DatabaseServer σ} {src : Source} {s : σ} {samples : List Sample} {log : List Sent}

/-- A batch with a time that does not fit. -/
theorem of_unfit {x : Sample} (hx : x ∈ samples) (hunfit : Instant.ofMillis? x.timestampMs = none) :
    BatchProtocol svc src s samples (.error (.timestampOutOfRange x.timestampMs)) [] := by
  have hnot : ¬∀ x ∈ samples, (Instant.ofMillis? x.timestampMs).isSome := by
    intro hfit
    have hsome := hfit x hx
    rw [hunfit] at hsome
    cases hsome
  exact ⟨fun _ => ⟨rfl, x, hx, hunfit, rfl⟩, fun hfit => absurd hfit hnot, fun hfit => absurd hfit hnot⟩

/-- A batch for which no session could be had. -/
theorem of_unserved (hfit : ¬∃ x ∈ samples, Instant.ofMillis? x.timestampMs = none) {e : StorageError}
    (he : ((Source.acquire svc.recorded).run (src, s, [])).1 = .error e) :
    BatchProtocol svc src s samples (.error e) ((Source.acquire svc.recorded).run (src, s, [])).2.1.2.2 where
  unfit hunfit := absurd hunfit hfit
  unserved _ e' he' := by
    cases he.symm.trans he'
    exact ⟨rfl, rfl⟩
  session _ c hc := by
    cases he.symm.trans hc

/-- A batch that has its session. -/
theorem of_session (hfit : ¬∃ x ∈ samples, Instant.ofMillis? x.timestampMs = none) {c : Connection}
    (hc : ((Source.acquire svc.recorded).run (src, s, [])).1 = .ok c) {rows : List StagedRow}
    (hrows : samples.map StagedRow.ofSample? = rows.map some) {b : BatchSession} (hb : b.Follows src.statements rows)
    (hlog : log = ((Source.acquire svc.recorded).run (src, s, [])).2.1.2.2 ++ b.wire c.number) :
    BatchProtocol svc src s samples b.answer log where
  unfit hunfit := absurd hunfit hfit
  unserved _ e he := by
    cases he.symm.trans hc
  session _ c' hc' := by
    cases hc.symm.trans hc'
    exact ⟨rows, b, hrows, hb, rfl, hlog⟩

end BatchProtocol

namespace Source

/-- A write brings its batch into rows first, and is carried on from them. -/
theorem yields_write {samples : List Sample} {Q : Except StorageError Unit → Source × σ → Prop} {t : Source × σ}
    (hrejected : ∀ e, (stageBatch false samples).1 = .error e → Q (.error e) t)
    (hstaged : ∀ rows, (stageBatch false samples).1 = .ok rows → (carryOn svc WritePhase.all.length none { rows }).Yields t Q) :
    (write svc samples).Yields t Q := by
  unfold write
  refine Act.yields_get_bind.2 ?_
  dsimp only
  refine Act.yields_report_bind.2 ?_
  rw [← stageBatch_fst t.1.settings.logSamples] at hrejected hstaged
  unfold BatchWrite.start
  generalize stageBatch t.1.settings.logSamples samples = staged at hrejected hstaged
  obtain ⟨r, events⟩ := staged
  cases r with
  | error e => exact hrejected e rfl
  | ok rows => exact hstaged rows rfl

/-- A write that was staged reserves its session first, and ends if there is none. -/
theorem yields_carryOn_acquire {calls : Nat} {Q : Except StorageError Unit → Source × σ → Prop} {t : Source × σ}
    (hw : w.waiting = .acquire) (h : (acquire svc).Yields t fun r t' => (∀ e, r = .error e → Q (.error e) t') ∧
      ∀ c, r = .ok c → (carryOn svc calls (some c) { w with waiting := .createStaging }).Yields t' Q) :
    (carryOn svc (calls + 1) none w).Yields t Q := by
  rw [carryOn_acquire]
  refine h.bind fun r t' hr => ?_
  refine Act.yields_report_bind.2 ?_
  obtain ⟨rows, waiting, n, failure⟩ := w
  cases hw
  cases r with
  | error e => exact hr.1 e rfl
  | ok c => exact hr.2 c rfl

/-- A write follows the plan of its batch. -/
theorem batch_follows_plan (svc : DatabaseServer σ) (src : Source) (s : σ) (samples : List Sample) :
    BatchProtocol svc src s samples ((write svc.recorded samples).run (src, s, [])).1
      ((write svc.recorded samples).run (src, s, [])).2.1.2.2 := by
  have hall : (write svc.recorded samples).Yields (src, s, []) fun r t' => BatchProtocol svc src s samples r t'.2.2 := by
    refine yields_write (fun e he => ?_) fun rows hrows => ?_
    · obtain ⟨x, hx, hunfit, rfl⟩ := stageBatch_error he
      exact BatchProtocol.of_unfit hx hunfit
    · have hfit := fits_of_stageBatch hrows
      refine yields_carryOn_acquire rfl ⟨fun e he => BatchProtocol.of_unserved hfit he, fun c hc => ?_⟩
      obtain ⟨hsettings, hclear⟩ := acquire_clear svc.recorded (src, s, [])
      have hst : ((acquire svc.recorded).run (src, s, [])).2.1.1.statements = src.statements :=
        congrArg (fun settings : PostgresSettings => Statements.ofTable settings.table) hsettings
      refine (carries_plan rfl rows c _ (hclear c hc) hst).mono fun r t' h => ?_
      obtain ⟨b, hmakes, rfl, hlog⟩ := h
      exact BatchProtocol.of_session hfit hc (map_ofSample?_of_stageBatch hrows) hmakes.follows hlog
  exact hall

/-- A batch of one sample. -/
def oneSample : List Sample := [{ labels := Labels.empty, value := ⟨0⟩, timestampMs := 0 }]

/-- A source with one connection. -/
def smallSource : Source := { settings := {}, base := default, pool := { maxOpen := 1, maxIdle := 1, patience := .ofSeconds 1 } }

/-- A server that refuses the label sets of every batch, and every rollback, and serves whatever else it is asked. -/
def stubborn : DatabaseServer Unit where
  connect _ _ := (.ok 0, ())
  send _ o _ :=
    (if o ∈ [.query smallSource.statements.insertLabels, .query "ROLLBACK"] then .error (.refused "out of memory") else .ok 0, ())
  terminate _ _ := ()
  cut _ _ := ()
  passwordFile _ := .ok ""

def stubbornLog : List Sent := ((write stubborn.recorded oneSample).run (smallSource, (), [])).2.1.2.2

/-- A session that was reserved for a batch that fits, and the staging table that it created is never dropped: the rollback is the last
that it sends. -/
theorem failed_rollback_keeps_staging :
    (∀ s ∈ oneSample, (Instant.ofMillis? s.timestampMs).isSome) ∧
      ((acquire stubborn.recorded).run (smallSource, (), [])).1 = .ok { number := 0 } ∧
      stubbornLog.map Sent.order = [.query smallSource.statements.createStaging, .query smallSource.statements.copyStaging,
        .copyData "1970-01-01T00:00:00.000Z\t0\t\t\x7b\x7d\n", .copyDone, .query "BEGIN", .query smallSource.statements.insertLabels,
        .query "ROLLBACK"] ∧
      stubbornLog.countP (fun x => decide (x.order = .query smallSource.statements.dropStaging)) = 0 := by
  decide +kernel

end Source

end Intake
