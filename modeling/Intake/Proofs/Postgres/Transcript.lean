import Intake.Postgres.Source
import Intake.Proofs.Act

/-!
# Transcript: what is sent on a connection

`DatabaseServer.recorded` is a server that does what another one does and keeps a list of the orders it is sent, with its answers. What
is asked on a connection is an `Exchange`: the order is sent at once, or after a transaction that was left open is rolled back, or it
is not sent, because the rollback failed. Orders of a plan that are asked one after the other until one fails are `Carried`.

The acts on a connection are carried out in this sense: a bulk load, a statement in a transaction of its own.
-/

namespace Intake

variable {σ : Type}

/-- An order that was sent on a connection, with its answer. -/
structure Sent where
  connection : Nat
  order : Order
  answer : Except DatabaseFault Nat

/-- A server that keeps a list of what it is sent. -/
def DatabaseServer.recorded (svc : DatabaseServer σ) : DatabaseServer (σ × List Sent) where
  connect o t := ((svc.connect o t.1).1, (svc.connect o t.1).2, t.2)
  send n o t := ((svc.send n o t.1).1, (svc.send n o t.1).2, t.2 ++ [⟨n, o, (svc.send n o t.1).1⟩])
  terminate n t := (svc.terminate n t.1, t.2)
  cut n t := (svc.cut n t.1, t.2)
  passwordFile t := svc.passwordFile t.1

/-! ## Exchanges -/

/-- An order that was asked for on a connection. -/
inductive Exchange where
  | sent (o : Order) (answer : Except DatabaseFault Nat)
  /-- A transaction that was left open was rolled back first. -/
  | rolledBack (rows : Nat) (o : Order) (answer : Except DatabaseFault Nat)
  /-- The rollback that had to come first failed: the order was not sent, and failed with it. -/
  | blocked (o : Order) (fault : DatabaseFault)

namespace Exchange

def order : Exchange → Order
  | .sent o _ | .rolledBack _ o _ | .blocked o _ => o

def answer : Exchange → Except DatabaseFault Nat
  | .sent _ r | .rolledBack _ _ r => r
  | .blocked _ e => .error e

/-- Whether a rollback had to come first. -/
def settles : Exchange → Bool
  | .sent _ _ => false
  | .rolledBack _ _ _ | .blocked _ _ => true

/-- What is sent, in order. -/
def wire (number : Nat) : Exchange → List Sent
  | .sent o r => [⟨number, o, r⟩]
  | .rolledBack n o r => [⟨number, .query "ROLLBACK", .ok n⟩, ⟨number, o, r⟩]
  | .blocked _ e => [⟨number, .query "ROLLBACK", .error e⟩]

/-- Whether a transaction is open after an exchange: one is once it was begun, until it was committed. -/
def transaction (isOpen : Bool) (x : Exchange) : Bool :=
  if !x.answer.isOk then isOpen
  else if x.order = .query "BEGIN" then true
  else if x.order = .query "COMMIT" then false
  else isOpen

/-- Whether a transaction that was begun has not been committed after some exchanges. -/
def leavesOpen (xs : List Exchange) : Bool := xs.foldl transaction false

/-- Where nothing had to be rolled back the order was sent at once. -/
theorem sent_of_settles {x : Exchange} (h : x.settles = false) : x = .sent x.order x.answer := by
  cases x with
  | sent o r => rfl
  | rolledBack n o r => cases h
  | blocked o e => cases h

/-- An order other than `BEGIN` and `COMMIT` leaves a transaction as it is. -/
def IsPlain (x : Exchange) : Prop := x.order ≠ .query "BEGIN" ∧ x.order ≠ .query "COMMIT"

theorem transaction_of_plain {x : Exchange} (h : x.IsPlain) (isOpen : Bool) : x.transaction isOpen = isOpen := by
  simp [transaction, h.1, h.2]

theorem isPlain_query {sql : String} (hbegin : sql ≠ "BEGIN") (hcommit : sql ≠ "COMMIT") (r : Except DatabaseFault Nat) :
    (sent (.query sql) r).IsPlain :=
  ⟨fun h => hbegin (Order.query.inj h), fun h => hcommit (Order.query.inj h)⟩

theorem foldl_transaction_of_plain {xs : List Exchange} (h : ∀ x ∈ xs, x.IsPlain) (isOpen : Bool) :
    xs.foldl transaction isOpen = isOpen := by
  induction xs generalizing isOpen with
  | nil => rfl
  | cons x rest ih =>
    rw [List.foldl_cons, transaction_of_plain (h x List.mem_cons_self)]
    exact ih (fun y hy => h y (List.mem_cons_of_mem x hy)) isOpen

end Exchange

/-- A step of a batch: an order, and the phase to which it belongs. -/
structure PlanStep where
  phase : WritePhase
  order : Order

/-- The step at which a course was cut, and why it failed. -/
structure Halt extends PlanStep where
  fault : DatabaseFault

/-- The steps of a plan were made one after the other up to the first that failed. -/
inductive Carried : List PlanStep → List Exchange → Option Halt → Prop where
  | all : Carried [] [] none
  | next {s : PlanStep} {steps xs halt} (n : Nat) (rest : Carried steps xs halt) :
    Carried (s :: steps) (.sent s.order (.ok n) :: xs) halt
  | cut {s : PlanStep} {steps} (e : DatabaseFault) : Carried (s :: steps) [.sent s.order (.error e)] (some ⟨s, e⟩)

namespace Carried

variable {steps more : List PlanStep} {xs ys : List Exchange} {halt : Option Halt}

/-- A plan that was carried out can be continued. -/
theorem append (h : Carried steps xs none) (h' : Carried more ys halt) : Carried (steps ++ more) (xs ++ ys) halt := by
  generalize hnone : (none : Option Halt) = no at h
  induction h with
  | all => exact h'
  | next n _ ih => exact .next n (ih hnone)
  | cut e => cases hnone

/-- What would have followed the step at which a plan was cut does not matter. -/
theorem weaken {stop : Halt} (h : Carried steps xs (some stop)) (more : List PlanStep) : Carried (steps ++ more) xs (some stop) := by
  generalize hsome : some stop = some' at h
  induction h with
  | all => cases hsome
  | next n _ ih => exact .next n (ih hsome)
  | cut e =>
    cases hsome
    exact .cut e

/-- Only steps of the plan are made. -/
theorem exists_step (h : Carried steps xs halt) {x : Exchange} (hx : x ∈ xs) : ∃ s ∈ steps, x.order = s.order := by
  induction h with
  | all => cases hx
  | @next s steps xs halt n _ ih =>
    obtain rfl | hx := List.mem_cons.1 hx
    · exact ⟨s, List.mem_cons_self, rfl⟩
    · obtain ⟨s', hs', horder⟩ := ih hx
      exact ⟨s', List.mem_cons_of_mem s hs', horder⟩
  | @cut s steps e =>
    obtain rfl := List.mem_singleton.1 hx
    exact ⟨s, List.mem_cons_self, rfl⟩

/-- What is sent while a plan is made are its orders. -/
theorem exists_step_of_sent (h : Carried steps xs halt) {number : Nat} {x : Sent} (hx : x ∈ xs.flatMap (Exchange.wire number)) :
    ∃ s ∈ steps, x.order = s.order := by
  induction h with
  | all => cases hx
  | @next s steps xs halt n _ ih =>
    rw [List.flatMap_cons] at hx
    rcases List.mem_append.1 hx with hx | hx
    · obtain rfl := List.mem_singleton.1 hx
      exact ⟨s, List.mem_cons_self, rfl⟩
    · obtain ⟨s', hs', horder⟩ := ih hx
      exact ⟨s', List.mem_cons_of_mem s hs', horder⟩
  | @cut s steps e =>
    obtain rfl := List.mem_singleton.1 hx
    exact ⟨s, List.mem_cons_self, rfl⟩

/-- A plan is cut at one of its steps. -/
theorem stop_mem {stop : Halt} (h : Carried steps xs (some stop)) : stop.toPlanStep ∈ steps := by
  generalize hsome : some stop = some' at h
  induction h with
  | all => cases hsome
  | next n _ ih => exact List.mem_cons_of_mem _ (ih hsome)
  | cut e =>
    cases hsome
    exact List.mem_cons_self

/-- A plan that is made in full is made in parts. -/
theorem of_append (h : Carried (steps ++ more) xs none) : ∃ ys zs, xs = ys ++ zs ∧ Carried steps ys none ∧ Carried more zs none := by
  induction steps generalizing xs with
  | nil => exact ⟨[], xs, rfl, .all, h⟩
  | cons s steps ih =>
    cases h with
    | next n rest =>
      obtain ⟨ys, zs, rfl, hys, hzs⟩ := ih rest
      exact ⟨_, zs, rfl, .next n hys, hzs⟩

/-- What came before an exchange is the part of the plan that comes before its step. -/
theorem split {before after : List Exchange} {x : Exchange} (h : Carried steps (before ++ x :: after) halt) :
    ∃ made s rest, steps = made ++ s :: rest ∧ x.order = s.order ∧ Carried made before none := by
  induction before generalizing steps with
  | nil =>
    cases h with
    | next n rest => exact ⟨[], _, _, rfl, rfl, .all⟩
    | cut e => exact ⟨[], _, _, rfl, rfl, .all⟩
  | cons y before ih =>
    rw [List.cons_append] at h
    generalize htail : before ++ x :: after = tail at h
    cases h with
    | cut e => cases before <;> cases htail
    | next n rest =>
      subst htail
      obtain ⟨made, s, later, rfl, horder, hmade⟩ := ih rest
      exact ⟨_ :: made, s, later, rfl, horder, .next n hmade⟩

/-- A plan is made in full if and only if no step fails. -/
theorem eq_none_iff (h : Carried steps xs halt) : halt = none ↔ ∀ x ∈ xs, x.answer.isOk := by
  induction h with
  | all => simp
  | next n _ ih => simpa [Exchange.answer, Except.isOk, Except.toBool] using ih
  | cut e => simp [Exchange.answer, Except.isOk, Except.toBool]

end Carried

/-- The reason for which a course was cut is its answer. -/
def Ends (halt : Option Halt) (r : Except DatabaseFault Nat) : Prop :=
  match halt with
  | none => ∃ n, r = .ok n
  | some stop => r = .error stop.fault

/-- The data of a bulk load, as far as an order is some. -/
def Order.data? : Order → Option String
  | .copyData text => some text
  | _ => none

/-- A bulk load that was cut while its data were sent is given up; nothing else is. -/
def GivesUp (halt : Option Halt) (xs : List Exchange) : Prop :=
  if (halt.bind fun stop => stop.order.data?).isSome then ∃ answer, xs = [.sent (.copyFail Connection.copyAbandoned) answer]
  else xs = []

/-! ## Bulk loads -/

/-- The pieces of a bulk load are sent one after the other, and then its end. If sending one fails, the load is given up. -/
inductive Loads (number : Nat) : (pieces : List String) → List Sent → Except DatabaseFault Nat → Prop where
  | finished (answer : Except DatabaseFault Nat) : Loads number [] [⟨number, .copyDone, answer⟩] answer
  | sent {piece : String} {pieces : List String} {log : List Sent} {answer : Except DatabaseFault Nat} (n : Nat) :
    Loads number pieces log answer → Loads number (piece :: pieces) (⟨number, .copyData piece, .ok n⟩ :: log) answer
  | failed {piece : String} {pieces : List String} (e : DatabaseFault) (answer : Except DatabaseFault Nat) :
    Loads number (piece :: pieces)
      [⟨number, .copyData piece, .error e⟩, ⟨number, .copyFail Connection.copyAbandoned, answer⟩] (.error e)

/-- A bulk load on a connection: its statement, and the pieces once that was accepted. -/
inductive CopyCourse (number : Nat) (owes : Bool) (sql : String) (pieces : List String) :
    Except DatabaseFault Nat → List Sent → Prop where
  | refused {opening : Exchange} {e : DatabaseFault} : opening.order = .query sql → opening.settles = owes →
    opening.answer = .error e → CopyCourse number owes sql pieces (.error e) (opening.wire number)
  | accepted {opening : Exchange} {n : Nat} {data : List Sent} {answer : Except DatabaseFault Nat} : opening.order = .query sql →
    opening.settles = owes → opening.answer = .ok n → Loads number pieces data answer →
    CopyCourse number owes sql pieces answer (opening.wire number ++ data)

/-- The pieces of a bulk load and its end are steps of a plan. -/
theorem Loads.carried {number : Nat} {pieces : List String} {log : List Sent} {r : Except DatabaseFault Nat}
    (h : Loads number pieces log r) (p : WritePhase) :
    ∃ xs halt more, Carried (pieces.map (fun text => ⟨p, .copyData text⟩) ++ [⟨p, .copyDone⟩]) xs halt ∧ Ends halt r ∧
      GivesUp halt more ∧ log = (xs ++ more).flatMap (Exchange.wire number) := by
  induction h with
  | finished answer =>
    cases answer with
    | error e => exact ⟨_, _, [], .cut e, rfl, rfl, rfl⟩
    | ok n => exact ⟨_, none, [], .next n .all, ⟨n, rfl⟩, rfl, rfl⟩
  | sent n _ ih =>
    obtain ⟨xs, halt, more, hcarried, hends, hgives, rfl⟩ := ih
    exact ⟨_, halt, more, .next n hcarried, hends, hgives, rfl⟩
  | failed e answer => exact ⟨_, _, _, .cut e, rfl, ⟨answer, rfl⟩, rfl⟩

/-! ## Acts on a connection -/

namespace Connection

open Exchange

/-- A connection and its server after some exchanges; `owes` says whether a transaction was left open. -/
structure Exchanged (c : Connection) (log : List Sent) (xs : List Exchange) (owes : Bool) (t : Connection × σ × List Sent) : Prop where
  connection : t.1 = { c with owesRollback := owes }
  log : t.2.2 = log ++ xs.flatMap (wire c.number)

variable {svc : DatabaseServer σ} {c : Connection} {log : List Sent} {xs ys : List Exchange} {owes : Bool}
  {t t' : Connection × σ × List Sent}

theorem Exchanged.number (h : Exchanged c log xs owes t) : t.1.number = c.number := by
  rw [h.connection]

theorem Exchanged.trans (h : Exchanged c log xs owes t) {owes' : Bool} (h' : Exchanged t.1 t.2.2 ys owes' t') :
    Exchanged c log (xs ++ ys) owes' t' := by
  refine ⟨?_, ?_⟩
  · rw [h'.connection, h.connection]
  · rw [h'.log, h.log, h.number, List.flatMap_append, List.append_assoc]

/-- An order that is put on the wire. -/
theorem yields_put (o : Order) (t : Connection × σ × List Sent) :
    (put svc.recorded o).Yields t fun r t' => Exchanged t.1 t.2.2 [.sent o r] t.1.owesRollback t' :=
  ⟨rfl, rfl⟩

/-- What is owed is rolled back. -/
theorem yields_settle (t : Connection × σ × List Sent) :
    (settle svc.recorded).Yields t fun r t' =>
      t'.1 = { t.1 with owesRollback := false } ∧
        (t.1.owesRollback = false ∧ r = .ok () ∧ t'.2.2 = t.2.2 ∨
          t.1.owesRollback = true ∧ ∃ answer : Except DatabaseFault Nat,
            r = answer.map (fun _ => ()) ∧ t'.2.2 = t.2.2 ++ [⟨t.1.number, .query "ROLLBACK", answer⟩]) := by
  obtain ⟨⟨number, owes⟩, s, log⟩ := t
  cases owes with
  | false => exact ⟨rfl, Or.inl ⟨rfl, rfl, rfl⟩⟩
  | true => exact ⟨rfl, Or.inr ⟨rfl, _, rfl, rfl⟩⟩

/-- An order that is asked for is one exchange, after which nothing is owed. -/
theorem yields_ask (o : Order) (t : Connection × σ × List Sent) :
    (ask svc.recorded o).Yields t fun r t' =>
      ∃ x : Exchange, x.order = o ∧ x.answer = r ∧ x.settles = t.1.owesRollback ∧ Exchanged t.1 t.2.2 [x] false t' := by
  unfold ask
  refine (yields_settle t).bind fun r t' hsettled => ?_
  obtain ⟨hconnection, ⟨howes, rfl, hlog⟩ | ⟨howes, answer, rfl, hlog⟩⟩ := hsettled
  · refine (yields_put o t').mono fun r' t'' hput => ⟨.sent o r', rfl, rfl, howes.symm, ?_, ?_⟩
    · rw [hput.connection, hconnection]
    · rw [hput.log, hlog, hconnection]
  · cases answer with
    | error e =>
      exact Act.yields_pure.2 ⟨.blocked o e, rfl, rfl, howes.symm, hconnection, hlog⟩
    | ok n =>
      refine (yields_put o t').mono fun r' t'' hput => ⟨.rolledBack n o r', rfl, rfl, howes.symm, ?_, ?_⟩
      · rw [hput.connection, hconnection]
      · rw [hput.log, hlog, hconnection, List.append_assoc]
        rfl

/-- The steps of a plan were made on a connection that owed nothing; what they leave open is owed. -/
def Courses (steps : List PlanStep) (t : Connection × σ × List Sent) (r : Except DatabaseFault Nat) (t' : Connection × σ × List Sent) :
    Prop :=
  ∃ xs halt more, Carried steps xs halt ∧ Ends halt r ∧ GivesUp halt more ∧ Exchanged t.1 t.2.2 (xs ++ more) (leavesOpen xs) t'

/-- An order that is asked for while nothing is owed is sent at once. -/
theorem yields_ask_clear (o : Order) {t : Connection × σ × List Sent} (ht : t.1.owesRollback = false) :
    (ask svc.recorded o).Yields t fun r t' => Exchanged t.1 t.2.2 [.sent o r] false t' := by
  refine (yields_ask o t).mono fun r t' hx => ?_
  obtain ⟨x, rfl, rfl, hsettles, hx⟩ := hx
  cases x with
  | sent o r => exact hx
  | rolledBack n o r => cases hsettles.trans ht
  | blocked o e => cases hsettles.trans ht

/-- The steps of a statement that runs in a transaction of its own. -/
def transactSteps (p : WritePhase) (sql : String) : List PlanStep :=
  [⟨p, .query "BEGIN"⟩, ⟨p, .query sql⟩, ⟨p, .query "COMMIT"⟩]

theorem order_ne_of_mem_transactSteps {p : WritePhase} {sql other : String} (hbegin : "BEGIN" ≠ other) (hcommit : "COMMIT" ≠ other)
    (hsql : sql ≠ other) {s : PlanStep} (h : s ∈ transactSteps p sql) : s.order ≠ .query other := by
  simp only [transactSteps, List.mem_cons, List.not_mem_nil, or_false] at h
  rcases h with rfl | rfl | rfl
  · exact fun hq => hbegin (Order.query.inj hq)
  · exact fun hq => hsql (Order.query.inj hq)
  · exact fun hq => hcommit (Order.query.inj hq)

/-- A transaction that was made in full leaves nothing open. -/
theorem leavesOpen_of_transactSteps {p : WritePhase} {sql : String} (hbegin : sql ≠ "BEGIN") (hcommit : sql ≠ "COMMIT")
    (h : Carried (transactSteps p sql) xs none) : leavesOpen xs = false := by
  cases h with
  | next n₁ h =>
    cases h with
    | next n₂ h =>
      cases h with
      | next n₃ h =>
        cases h
        rw [leavesOpen, List.foldl_cons, List.foldl_cons, transaction_of_plain (isPlain_query hbegin hcommit _)]
        rfl

/-- A transaction that is left open is owed a rollback. -/
theorem yields_leaveOpen {α : Type} (r : α) (h : Exchanged c log xs owes t) :
    (do leaveOpen; return r : Act (Connection × σ × List Sent) α).Yields t fun r' t' => r' = r ∧ Exchanged c log xs true t' := by
  refine ⟨rfl, ?_, h.log⟩
  exact congrArg (fun c : Connection => { c with owesRollback := true }) h.connection

/-- A statement in a transaction of its own. One that was begun and is not committed is owed a rollback. -/
theorem yields_transact (p : WritePhase) {sql : String} (hbegin : sql ≠ "BEGIN") (hcommit : sql ≠ "COMMIT")
    {t : Connection × σ × List Sent} (ht : t.1.owesRollback = false) :
    (transact svc.recorded sql).Yields t (Courses (transactSteps p sql) t) := by
  have hplain : ∀ r, (sent (.query sql) r).IsPlain := isPlain_query hbegin hcommit
  have hopen : ∀ n r, leavesOpen [sent (.query "BEGIN") (.ok n), sent (.query sql) r] = true := by
    intro n r
    rw [leavesOpen, List.foldl_cons, List.foldl_cons, transaction_of_plain (hplain r)]
    rfl
  have hlast : ∀ n r r', leavesOpen [sent (.query "BEGIN") (.ok n), sent (.query sql) r, sent (.query "COMMIT") r'] = !r'.isOk := by
    intro n r r'
    rw [leavesOpen, List.foldl_cons, List.foldl_cons, transaction_of_plain (hplain r)]
    cases r' <;> rfl
  unfold transact
  refine (yields_ask_clear _ ht).bind fun r t₁ h₁ => ?_
  cases r with
  | error e => exact ⟨_, _, [], .cut e, rfl, rfl, h₁⟩
  | ok n₁ =>
    refine (yields_put _ t₁).bind fun r t₂ h₂ => ?_
    have h := h₁.trans h₂
    cases r with
    | error e =>
      refine (yields_leaveOpen _ h).mono fun r t' hleft => ?_
      obtain ⟨rfl, hleft⟩ := hleft
      refine ⟨_, _, [], .next n₁ (.cut e), rfl, rfl, ?_⟩
      rw [List.append_nil, hopen]
      exact hleft
    | ok n₂ =>
      refine (yields_put _ t₂).bind fun r t₃ h₃ => ?_
      have h := h.trans h₃
      cases r with
      | error e =>
        refine (yields_leaveOpen _ h).mono fun r t' hleft => ?_
        obtain ⟨rfl, hleft⟩ := hleft
        refine ⟨_, _, [], .next n₁ (.next n₂ (.cut e)), rfl, rfl, ?_⟩
        rw [List.append_nil, hlast]
        exact hleft
      | ok n₃ =>
        have howes : t₂.1.owesRollback = false := by rw [h₂.connection, h₁.connection]
        refine ⟨_, _, [], .next n₁ (.next n₂ (.next n₃ .all)), ⟨n₂, rfl⟩, rfl, ?_⟩
        rw [List.append_nil, hlast]
        rw [howes] at h
        exact h

/-- The steps of a bulk load. -/
def copySteps (p : WritePhase) (sql : String) (pieces : List String) : List PlanStep :=
  ⟨p, .query sql⟩ :: pieces.map (fun text => ⟨p, .copyData text⟩) ++ [⟨p, .copyDone⟩]

theorem order_ne_of_mem_copySteps {p : WritePhase} {sql other : String} {pieces : List String} (hsql : sql ≠ other) {s : PlanStep}
    (h : s ∈ copySteps p sql pieces) : s.order ≠ .query other := by
  simp only [copySteps, List.cons_append, List.mem_cons, List.mem_append, List.mem_map, List.not_mem_nil, or_false] at h
  rcases h with rfl | ⟨text, -, rfl⟩ | rfl
  · exact fun hq => hsql (Order.query.inj hq)
  · exact nofun
  · exact nofun

/-- The data of a bulk load are sent piece by piece; if one fails, the load is given up. -/
theorem yields_sendPieces (pieces : List String) (t : Connection × σ × List Sent) :
    (sendPieces svc.recorded pieces).Yields t fun r t' =>
      t'.1 = t.1 ∧ ∃ data, t'.2.2 = t.2.2 ++ data ∧
        ((r = .ok () ∧ ∀ answer, Loads t.1.number pieces (data ++ [⟨t.1.number, .copyDone, answer⟩]) answer) ∨
          ∃ e, r = .error e ∧ Loads t.1.number pieces data (.error e)) := by
  induction pieces generalizing t with
  | nil => exact ⟨rfl, [], (List.append_nil _).symm, .inl ⟨rfl, .finished⟩⟩
  | cons piece rest ih =>
    unfold sendPieces
    refine (yields_put _ t).bind fun r t₁ h₁ => ?_
    have hconnection : t₁.1 = t.1 := h₁.connection
    have hlog : t₁.2.2 = t.2.2 ++ [⟨t.1.number, .copyData piece, r⟩] := h₁.log
    cases r with
    | error e =>
      refine (yields_put _ t₁).bind fun r t₂ h₂ => ?_
      have hgiven : t₂.2.2 = t.2.2 ++ [⟨t.1.number, .copyData piece, .error e⟩, ⟨t.1.number, .copyFail copyAbandoned, r⟩] := by
        rw [h₂.log, hlog, hconnection, List.append_assoc]
        rfl
      exact ⟨h₂.connection.trans hconnection, _, hgiven, .inr ⟨e, rfl, .failed e r⟩⟩
    | ok n =>
      refine (ih t₁).mono fun r t' hrest => ?_
      obtain ⟨hconnection', data, hdata, hrest⟩ := hrest
      rw [hconnection] at hrest
      refine ⟨hconnection'.trans hconnection, ⟨t.1.number, .copyData piece, .ok n⟩ :: data, ?_, ?_⟩
      · rw [hdata, hlog, List.append_assoc, List.singleton_append]
      · obtain ⟨rfl, hloads⟩ | ⟨e, rfl, hloads⟩ := hrest
        · exact .inl ⟨rfl, fun answer => .sent n (hloads answer)⟩
        · exact .inr ⟨e, rfl, .sent n hloads⟩

/-- A bulk load takes its course, whatever the connection owes. -/
theorem yields_copyIn_course (sql : String) (lines : List String) (t : Connection × σ × List Sent) :
    (copyIn svc.recorded sql lines).Yields t fun r t' =>
      t'.1 = { t.1 with owesRollback := false } ∧ ∃ log, t'.2.2 = t.2.2 ++ log ∧
        CopyCourse t.1.number t.1.owesRollback sql (CopyChunks.ofLines lines) r log := by
  unfold copyIn
  refine (yields_ask _ t).bind fun r t₁ h₁ => ?_
  obtain ⟨opening, horder, hanswer, hsettles, h₁⟩ := h₁
  have hopening : t₁.2.2 = t.2.2 ++ opening.wire t.1.number := h₁.log.trans (by rw [List.flatMap_singleton])
  cases r with
  | error e => exact ⟨h₁.connection, _, hopening, .refused horder hsettles hanswer⟩
  | ok n =>
    refine (yields_sendPieces (CopyChunks.ofLines lines) t₁).bind fun r t₂ h₂ => ?_
    obtain ⟨hconnection, data, hdata, hsent⟩ := h₂
    rw [h₁.number] at hsent
    rw [hopening, List.append_assoc] at hdata
    have hclear : t₂.1 = { t.1 with owesRollback := false } := hconnection.trans h₁.connection
    obtain ⟨rfl, hloads⟩ | ⟨e, rfl, hloads⟩ := hsent
    · refine (yields_put _ t₂).mono fun r t₃ h₃ => ⟨?_, _, ?_, .accepted horder hsettles hanswer (hloads r)⟩
      · rw [h₃.connection]
        exact hclear
      · rw [h₃.log, hdata, hclear, List.append_assoc, List.append_assoc]
        rfl
    · exact ⟨hclear, _, hdata, .accepted horder hsettles hanswer hloads⟩

/-- The steps of a bulk load leave no transaction open. -/
theorem leavesOpen_of_copySteps {p : WritePhase} {sql : String} {pieces : List String} {xs : List Exchange} {halt : Option Halt}
    (hbegin : sql ≠ "BEGIN") (hcommit : sql ≠ "COMMIT") (h : Carried (copySteps p sql pieces) xs halt) : leavesOpen xs = false := by
  refine foldl_transaction_of_plain (fun x hx => ?_) false
  obtain ⟨s, hs, horder⟩ := h.exists_step hx
  unfold IsPlain
  rw [horder]
  exact ⟨order_ne_of_mem_copySteps hbegin hs, order_ne_of_mem_copySteps hcommit hs⟩

/-- A bulk load. -/
theorem yields_copyIn (p : WritePhase) {sql : String} (hbegin : sql ≠ "BEGIN") (hcommit : sql ≠ "COMMIT") (lines : List String)
    {t : Connection × σ × List Sent} (ht : t.1.owesRollback = false) :
    (copyIn svc.recorded sql lines).Yields t (Courses (copySteps p sql (CopyChunks.ofLines lines)) t) := by
  have hopen : ∀ {xs halt}, Carried (copySteps p sql (CopyChunks.ofLines lines)) xs halt → leavesOpen xs = false :=
    leavesOpen_of_copySteps hbegin hcommit
  refine (yields_copyIn_course sql lines t).mono fun r t' h => ?_
  obtain ⟨hconnection, log, hlog, hcourse⟩ := h
  cases hcourse with
  | @refused opening e horder hsettles hanswer =>
    have hsent := sent_of_settles (hsettles.trans ht)
    rw [horder, hanswer] at hsent
    have hcut : Carried (copySteps p sql (CopyChunks.ofLines lines)) [opening] (some ⟨⟨p, .query sql⟩, e⟩) := by
      rw [hsent]
      exact .cut e
    refine ⟨[opening], _, [], hcut, rfl, rfl, ?_, ?_⟩
    · rw [hopen hcut]
      exact hconnection
    · rw [hlog, List.append_nil, List.flatMap_singleton]
  | @accepted opening n data _ horder hsettles hanswer hloads =>
    have hsent := sent_of_settles (hsettles.trans ht)
    rw [horder, hanswer] at hsent
    obtain ⟨xs, halt, more, hcarried, hends, hgives, rfl⟩ := hloads.carried p
    have hall : Carried (copySteps p sql (CopyChunks.ofLines lines)) (opening :: xs) halt := by
      rw [hsent]
      exact .next n hcarried
    refine ⟨opening :: xs, halt, more, hall, hends, hgives, ?_, ?_⟩
    · rw [hopen hall]
      exact hconnection
    · rw [hlog, List.cons_append, List.flatMap_cons]

end Connection

end Intake
