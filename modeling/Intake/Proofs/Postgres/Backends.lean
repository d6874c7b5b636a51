import Intake.Proofs.Postgres.Pool
import Intake.Proofs.Postgres.Statements

/-!
# Backends: what a database server keeps of its sessions

Every connection has a backend on the server, which knows whether there is a staging table and which transaction is under way. A
statement that fails has no effect, but the transaction it stands in fails with it; a failed transaction accepts nothing but its end. A
backend takes everything with it when it ends. `FaultyDatabase` is such a server with everything that can go wrong: it refuses
statements, breaks connections, and ends sessions. What of this happens is laid down in a list of hazards, so that a statement about
all lists is a statement about every course of events.

Between two calls, a connection that owes no rollback has no transaction under way. Every phase of a batch keeps this, whatever fails
(`Source.perform_turn`).
-/

namespace Intake

/-- The text of an order that is a statement. -/
def Order.sql? : Order → Option String
  | .query sql | .execute sql _ => some sql
  | _ => none

/-- The transaction of a backend. What is rolled back goes back to how it was when the transaction began. -/
inductive Transaction where
  | none
  | running (hadStaging : Bool)
  | failed (hadStaging : Bool)
  deriving DecidableEq

/-- What the server keeps of a session. -/
structure BackendState where
  hasStaging : Bool := false
  transaction : Transaction := .none
  deriving DecidableEq

namespace BackendState

/-- Begins a transaction. One that runs goes on, one that failed has to be ended first. -/
def start (b : BackendState) : Option BackendState :=
  match b.transaction with
  | .none => some { b with transaction := .running b.hasStaging }
  | .running _ => some b
  | .failed _ => none

def rollback (b : BackendState) : BackendState :=
  match b.transaction with
  | .none => b
  | .running hadStaging | .failed hadStaging => { hasStaging := hadStaging }

/-- A transaction that failed is rolled back in place of a commit. -/
def commit (b : BackendState) : BackendState :=
  match b.transaction with
  | .none => b
  | .running _ => { b with transaction := .none }
  | .failed hadStaging => { hasStaging := hadStaging }

/-- What a statement does that does not handle the transaction; none if it cannot be carried out. -/
def change (st : Statements) (sql : String) (b : BackendState) : Option BackendState :=
  if sql = st.createStaging then if b.hasStaging then none else some { b with hasStaging := true }
  else if sql = st.dropStaging then some { b with hasStaging := false }
  else if sql ∈ st.all then if b.hasStaging then some b else none
  else some b

/-- What an order does; none if it cannot be carried out. -/
def obey (st : Statements) (o : Order) (b : BackendState) : Option BackendState :=
  match o.sql? with
  | none => some b
  | some sql =>
    if sql = "BEGIN" then b.start
    else if sql = "COMMIT" then some b.commit
    else if sql = "ROLLBACK" then some b.rollback
    else
      match b.transaction with
      | .failed _ => none
      | _ => b.change st sql

/-- What an order leaves that was not carried out: its transaction has failed, and one that was to be committed is over. -/
def refuse (o : Order) (b : BackendState) : BackendState :=
  match b.transaction with
  | .running hadStaging => if o.sql? = some "COMMIT" then { hasStaging := hadStaging } else { b with transaction := .failed hadStaging }
  | _ => b

/-- No transaction is under way, but one may have failed. -/
def Calm (b : BackendState) : Prop := ∀ hadStaging, b.transaction ≠ .running hadStaging

/-- There is no staging table and no transaction. -/
def Clean (b : BackendState) : Prop := b = {}

theorem Clean.calm {b : BackendState} (h : b.Clean) : b.Calm := by
  rw [h]
  exact nofun

/-- An order that is not carried out leaves no transaction under way. -/
theorem calm_refuse (o : Order) (b : BackendState) : (b.refuse o).Calm := by
  intro hadStaging h
  obtain ⟨hasStaging, transaction⟩ := b
  cases transaction with
  | none => cases h
  | failed had => cases h
  | running had =>
    unfold refuse at h
    dsimp only at h
    split at h <;> cases h

/-- The end of a transaction leaves none. -/
theorem transaction_rollback (b : BackendState) : b.rollback.transaction = .none := by
  obtain ⟨hasStaging, transaction⟩ := b
  cases transaction <;> rfl

theorem transaction_commit (b : BackendState) : b.commit.transaction = .none := by
  obtain ⟨hasStaging, transaction⟩ := b
  cases transaction <;> rfl

/-- A statement that does not handle the transaction leaves it as it is. -/
theorem transaction_change {st : Statements} {sql : String} {b b' : BackendState} (h : b.change st sql = some b') :
    b'.transaction = b.transaction := by
  unfold change at h
  repeat' split at h
  all_goals cases h
  all_goals rfl

/-- Only `BEGIN` begins a transaction. -/
theorem Calm.obey {st : Statements} {o : Order} {b b' : BackendState} (hb : b.Calm) (ho : o.sql? ≠ some "BEGIN")
    (h : b.obey st o = some b') : b'.Calm := by
  unfold BackendState.obey at h
  cases hsql : o.sql? with
  | none =>
    rw [hsql] at h
    cases h
    exact hb
  | some sql =>
    rw [hsql] at h ho
    dsimp only at h
    rw [if_neg fun hq => ho (congrArg some hq)] at h
    split at h
    · cases h
      exact fun _ hr => nomatch (transaction_commit b).symm.trans hr
    · split at h
      · cases h
        exact fun _ hr => nomatch (transaction_rollback b).symm.trans hr
      · split at h
        · cases h
        · intro had hr
          exact hb had ((transaction_change h).symm.trans hr)

/-- A backend whose staging table was dropped outside a transaction is clean. -/
theorem clean_of_drop {table : String} {b b' : BackendState} (hb : b.Calm)
    (h : b.obey (Statements.ofTable table) (.query (Statements.ofTable table).dropStaging) = some b') : b'.Clean := by
  have hne : ∀ word ∈ ["BEGIN", "COMMIT", "ROLLBACK"], (Statements.ofTable table).dropStaging ≠ word :=
    fun word => Statements.ne_of_mem_all table (by simp [Statements.all])
  have hcreate : (Statements.ofTable table).dropStaging ≠ (Statements.ofTable table).createStaging :=
    Statements.ne_of_head? (Statements.head?_dropStaging table) (Statements.head?_createStaging table) (by decide)
  obtain ⟨hasStaging, transaction⟩ := b
  simp only [BackendState.obey, Order.sql?, hne "BEGIN" (by simp), hne "COMMIT" (by simp), hne "ROLLBACK" (by simp), if_false, change,
    hcreate, if_true] at h
  cases transaction with
  | none =>
    cases h
    rfl
  | running had => exact absurd rfl (hb had)
  | failed had => cases h

end BackendState

/-- The backends of a server, by the numbers of their connections. -/
structure BackendTable where
  /-- How many connections were opened; they are numbered in that order. -/
  opened : Nat := 0
  backend : Nat → Option BackendState := fun _ => none
  /-- The connections that were closed from this side, the last first. -/
  closed : List Nat := []

namespace BackendTable

def set (v : BackendTable) (n : Nat) (b : Option BackendState) : BackendTable :=
  { v with backend := fun m => if m = n then b else v.backend m }

/-- The server ends sessions. -/
def endAll (v : BackendTable) (ns : List Nat) : BackendTable :=
  { v with backend := fun m => if m ∈ ns then none else v.backend m }

/-- A connection is opened. -/
def grow (v : BackendTable) : BackendTable :=
  { v with opened := v.opened + 1, backend := fun m => if m = v.opened then some {} else v.backend m }

/-- A connection is closed from this side. -/
def close (n : Nat) (v : BackendTable) : BackendTable := { v.set n none with closed := n :: v.closed }

/-- A session that lives has no staging table and no transaction. -/
def Clean (v : BackendTable) (n : Nat) : Prop := ∀ b, v.backend n = some b → b.Clean

/-- A session that lives has no transaction under way. -/
def Calm (v : BackendTable) (n : Nat) : Prop := ∀ b, v.backend n = some b → b.Calm

/-- What happens on some connections leaves others as they are, unless the server ends them. -/
def Spares (mine : Nat → Prop) (v v' : BackendTable) : Prop :=
  ∀ m, ¬mine m → v'.backend m = v.backend m ∨ v'.backend m = none

/-- What happens on one connection. -/
structure Beside (n : Nat) (v v' : BackendTable) : Prop where
  opened : v'.opened = v.opened
  closed : v'.closed = v.closed
  spares : Spares (· = n) v v'

variable {mine : Nat → Prop} {v v' v'' : BackendTable} {n m : Nat}

theorem Spares.refl (mine : Nat → Prop) (v : BackendTable) : Spares mine v v := fun _ _ => Or.inl rfl

theorem Spares.trans (h : Spares mine v v') (h' : Spares mine v' v'') : Spares mine v v'' := by
  intro m hm
  obtain hend | hend := h' m hm
  · rw [hend]
    exact h m hm
  · exact Or.inr hend

theorem Spares.mono {mine' : Nat → Prop} (h : Spares mine v v') (hsub : ∀ m, mine m → mine' m) : Spares mine' v v' :=
  fun m hm => h m fun hmine => hm (hsub m hmine)

theorem Spares.clean (h : Spares mine v v') (hm : ¬mine m) (hclean : v.Clean m) : v'.Clean m := by
  intro b hb
  obtain he | he := h m hm
  · exact hclean b (he.symm.trans hb)
  · cases he.symm.trans hb

theorem Spares.calm (h : Spares mine v v') (hm : ¬mine m) (hcalm : v.Calm m) : v'.Calm m := by
  intro b hb
  obtain he | he := h m hm
  · exact hcalm b (he.symm.trans hb)
  · cases he.symm.trans hb

theorem Beside.refl (n : Nat) (v : BackendTable) : Beside n v v := ⟨rfl, rfl, Spares.refl _ v⟩

theorem Beside.trans (h : Beside n v v') (h' : Beside n v' v'') : Beside n v v'' :=
  ⟨h'.opened.trans h.opened, h'.closed.trans h.closed, h.spares.trans h'.spares⟩

theorem spares_endAll (v : BackendTable) (ns : List Nat) : Spares (fun _ => False) v (v.endAll ns) := by
  intro m _
  by_cases hm : m ∈ ns
  · exact Or.inr (if_pos hm)
  · exact Or.inl (if_neg hm)

theorem beside_endAll (n : Nat) (v : BackendTable) (ns : List Nat) : Beside n v (v.endAll ns) :=
  ⟨rfl, rfl, (spares_endAll v ns).mono fun _ hm => hm.elim⟩

theorem beside_set (v : BackendTable) (n : Nat) (b : Option BackendState) : Beside n v (v.set n b) :=
  ⟨rfl, rfl, fun _ hm => Or.inl (if_neg hm)⟩

theorem spares_close (n : Nat) (v : BackendTable) : Spares (· = n) v (close n v) := (beside_set v n none).spares

theorem spares_grow (v : BackendTable) : Spares (· = v.opened) v v.grow := fun _ hm => Or.inl (if_neg hm)

theorem clean_grow (v : BackendTable) : v.grow.Clean v.opened := by
  intro b hb
  cases (if_pos rfl : v.grow.backend v.opened = some {}).symm.trans hb
  rfl

end BackendTable

/-- What becomes of an order. -/
inductive Verdict where
  | served
  | refused
  /-- The connection breaks. -/
  | broken
  deriving DecidableEq

/-- What befalls one order, or one attempt to connect. -/
structure Hazard where
  /-- Sessions that the server ends before the order arrives. -/
  ends : List Nat := []
  verdict : Verdict := .served
  /-- What is said if it fails. -/
  fault : DatabaseFault := .protocol "refused"
  /-- With which number it is answered. -/
  count : Nat := 0

/-- How an order is answered, and what it makes of the backend of its connection. Without a backend every order fails. -/
def Hazard.judge (st : Statements) (o : Order) (h : Hazard) (b : Option BackendState) :
    Except DatabaseFault Nat × Option BackendState :=
  match b with
  | none => (.error h.fault, none)
  | some b =>
    match h.verdict, b.obey st o with
    | .served, some b' => (.ok h.count, some b')
    | .broken, _ => (.error h.fault, none)
    | _, _ => (.error h.fault, some (b.refuse o))

/-- A database server on which everything can fail. -/
structure FaultyDatabase where
  table : BackendTable := {}
  /-- What befalls the next orders; nothing befalls those after them. -/
  hazards : List Hazard := []
  passwordFile : Except FileFault String := .ok ""

namespace FaultyDatabase

/-- The next order is on its way. -/
def next (v : FaultyDatabase) : Hazard × FaultyDatabase :=
  (v.hazards.headD {}, { v with table := v.table.endAll (v.hazards.headD {}).ends, hazards := v.hazards.tail })

def connect (v : FaultyDatabase) : Except DatabaseFault Nat × FaultyDatabase :=
  let (h, v) := v.next
  match h.verdict with
  | .served => (.ok v.table.opened, { v with table := v.table.grow })
  | _ => (.error h.fault, v)

def send (st : Statements) (n : Nat) (o : Order) (v : FaultyDatabase) : Except DatabaseFault Nat × FaultyDatabase :=
  let (h, v) := v.next
  let (r, b) := h.judge st o (v.table.backend n)
  (r, { v with table := v.table.set n b })

/-- The server as what a source asks; it knows the statements of one table prefix. -/
def service (st : Statements) : DatabaseServer FaultyDatabase where
  connect _ := connect
  send := send st
  terminate n v := { v with table := v.table.close n }
  cut n v := { v with table := v.table.close n }
  passwordFile v := v.passwordFile

end FaultyDatabase

/-! ## Orders -/

/-- How an order may be answered, and what it may make of the backend of its connection. -/
inductive Answered (st : Statements) (o : Order) : Option BackendState → Except DatabaseFault Nat → Option BackendState → Prop where
  | served (n : Nat) {b b' : BackendState} (h : b.obey st o = some b') : Answered st o (some b) (.ok n) (some b')
  | refused (e : DatabaseFault) (b : BackendState) : Answered st o (some b) (.error e) (some (b.refuse o))
  | ended (e : DatabaseFault) (b : Option BackendState) : Answered st o b (.error e) none

theorem answered_judge (st : Statements) (o : Order) (h : Hazard) (b : Option BackendState) :
    Answered st o b (h.judge st o b).1 (h.judge st o b).2 := by
  cases b with
  | none => exact .ended _ _
  | some b =>
    obtain ⟨ends, verdict, fault, count⟩ := h
    unfold Hazard.judge
    dsimp only
    cases verdict with
    | broken => exact .ended _ _
    | refused => exact .refused _ _
    | served =>
      cases hobey : b.obey st o with
      | none => exact .refused _ _
      | some b' => exact .served _ hobey

open BackendTable

namespace FaultyDatabase

/-- An order is answered, and concerns no other connection. -/
theorem send_spec (st : Statements) (n : Nat) (o : Order) (v : FaultyDatabase) :
    Beside n v.table (send st n o v).2.table ∧
      Answered st o (v.table.backend n) (send st n o v).1 ((send st n o v).2.table.backend n) := by
  have hjudged := answered_judge st o v.next.1 (v.next.2.table.backend n)
  refine ⟨(beside_endAll n v.table _).trans (beside_set v.next.2.table n _), ?_⟩
  have hbackend : (send st n o v).2.table.backend n = (v.next.1.judge st o (v.next.2.table.backend n)).2 := if_pos rfl
  have hanswer : (send st n o v).1 = (v.next.1.judge st o (v.next.2.table.backend n)).1 := rfl
  rw [hbackend, hanswer]
  -- the server may have ended the session before the order arrived
  by_cases hended : n ∈ (v.hazards.headD {}).ends
  · have hnone : v.next.2.table.backend n = none := if_pos hended
    rw [hnone]
    exact .ended _ _
  · have hsame : v.next.2.table.backend n = v.table.backend n := if_neg hended
    rw [hsame] at hjudged ⊢
    exact hjudged

end FaultyDatabase

namespace Answered

variable {st : Statements} {o : Order} {b b' : Option BackendState} {r : Except DatabaseFault Nat}

/-- An order that fails leaves no transaction under way. -/
theorem calm_of_error {e : DatabaseFault} (h : Answered st o b (.error e) b') : ∀ x, b' = some x → x.Calm := by
  rintro x rfl
  cases h with
  | refused e b => exact BackendState.calm_refuse o b

/-- Only an order to begin a transaction does so. -/
theorem calm (h : Answered st o b r b') (ho : o.sql? ≠ some "BEGIN") (hb : ∀ x, b = some x → x.Calm) : ∀ x, b' = some x → x.Calm := by
  cases h with
  | served n hobey =>
    rintro x ⟨⟩
    exact (hb _ rfl).obey ho hobey
  | refused e b =>
    rintro x ⟨⟩
    exact BackendState.calm_refuse o b
  | ended e b => exact nofun

/-- A rollback leaves no transaction under way, whether it fails or not. -/
theorem calm_of_rollback (h : Answered st (.query "ROLLBACK") b r b') : ∀ x, b' = some x → x.Calm := by
  cases r with
  | error e => exact h.calm_of_error
  | ok n =>
    rintro x rfl
    cases h with
    | @served n b b' hobey =>
      cases hobey
      exact fun had hr => nomatch (BackendState.transaction_rollback b).symm.trans hr

/-- A backend whose staging table was dropped is clean. -/
theorem clean_of_drop {table : String} {n : Nat}
    (h : Answered (Statements.ofTable table) (.query (Statements.ofTable table).dropStaging) b (.ok n) b')
    (hb : ∀ x, b = some x → x.Calm) : ∀ x, b' = some x → x.Clean := by
  rintro x rfl
  cases h with
  | served n hobey => exact BackendState.clean_of_drop (hb _ rfl) hobey

/-- A sign of life leaves a clean backend clean. -/
theorem clean_of_sync (h : Answered st .sync b r b') (hb : ∀ x, b = some x → x.Clean) : ∀ x, b' = some x → x.Clean := by
  rintro x rfl
  cases h with
  | served n hobey =>
    cases hobey
    exact hb _ rfl
  | refused e b =>
    obtain rfl : b = {} := hb _ rfl
    rfl

/-- A commit that succeeds leaves no transaction under way. -/
theorem calm_of_commit {n : Nat} (h : Answered st (.query "COMMIT") b (.ok n) b') : ∀ x, b' = some x → x.Calm := by
  rintro x rfl
  cases h with
  | @served n b b' hobey =>
    cases hobey
    exact fun had hr => nomatch (BackendState.transaction_commit b).symm.trans hr

end Answered

namespace Connection

open FaultyDatabase

variable {st : Statements} {t : Connection × FaultyDatabase}

/-- Between two calls, a connection that owes no rollback has no transaction under way. -/
def Settled (t : Connection × FaultyDatabase) : Prop := t.1.owesRollback = false → t.2.table.Calm t.1.number

/-- What is done on a connection concerns no other, and leaves no transaction behind that is not owed a rollback. -/
structure Turn (t t' : Connection × FaultyDatabase) : Prop where
  number : t'.1.number = t.1.number
  beside : Beside t.1.number t.2.table t'.2.table
  settled : Settled t'

/-- An order that is put on the wire. -/
theorem put_spec (o : Order) (t : Connection × FaultyDatabase) :
    (put (service st) o).Yields t fun r t' => t'.1 = t.1 ∧ Beside t.1.number t.2.table t'.2.table ∧
      Answered st o (t.2.table.backend t.1.number) r (t'.2.table.backend t.1.number) :=
  ⟨rfl, send_spec st t.1.number o t.2⟩

/-- An order on a connection without a transaction under way, unless it begins one. -/
theorem put_turn {o : Order} (ho : o.sql? ≠ some "BEGIN") (hcalm : t.2.table.Calm t.1.number) :
    (put (service st) o).Yields t fun _ t' => t'.1 = t.1 ∧ Beside t.1.number t.2.table t'.2.table ∧ t'.2.table.Calm t.1.number :=
  (put_spec o t).mono fun _ _ h => ⟨h.1, h.2.1, h.2.2.calm ho hcalm⟩

/-- Once a connection has settled what it owes, it has no transaction under way. -/
theorem settle_turn (h : Settled t) :
    (settle (service st)).Yields t fun _ t' => t'.1 = { t.1 with owesRollback := false } ∧ Beside t.1.number t.2.table t'.2.table ∧
      t'.2.table.Calm t.1.number := by
  obtain ⟨⟨number, owes⟩, v⟩ := t
  cases owes with
  | false => exact ⟨rfl, Beside.refl _ _, h rfl⟩
  | true =>
    obtain ⟨hbeside, hanswered⟩ := send_spec st number (.query "ROLLBACK") v
    exact ⟨rfl, hbeside, hanswered.calm_of_rollback⟩

/-- An order that is asked for was answered by a connection without a transaction under way, or was not sent. -/
theorem ask_spec (o : Order) (h : Settled t) :
    (ask (service st) o).Yields t fun r t' => t'.1 = { t.1 with owesRollback := false } ∧ Beside t.1.number t.2.table t'.2.table ∧
      ∃ b, (∀ x, b = some x → x.Calm) ∧
        ((∃ e, r = .error e ∧ t'.2.table.backend t.1.number = b) ∨ Answered st o b r (t'.2.table.backend t.1.number)) := by
  unfold ask
  refine (settle_turn h).bind fun r t₁ h₁ => ?_
  obtain ⟨hconnection, hbeside, hcalm⟩ := h₁
  cases r with
  | error e => exact ⟨hconnection, hbeside, _, hcalm, Or.inl ⟨e, rfl, rfl⟩⟩
  | ok u =>
    refine (put_spec o t₁).mono fun r t₂ h₂ => ?_
    obtain ⟨hsame, hbeside', hanswered⟩ := h₂
    rw [hconnection] at hsame hbeside' hanswered
    exact ⟨hsame, hbeside.trans hbeside', _, hcalm, Or.inr hanswered⟩

/-- An order that fails leaves a connection settled, and so does every order that begins no transaction. -/
theorem ask_turn (o : Order) (h : Settled t) :
    (ask (service st) o).Yields t fun r t' => t'.1 = { t.1 with owesRollback := false } ∧ Beside t.1.number t.2.table t'.2.table ∧
      (o.sql? ≠ some "BEGIN" ∨ (∃ e, r = .error e) → t'.2.table.Calm t.1.number) := by
  refine (ask_spec o h).mono fun r t' hask => ?_
  obtain ⟨hconnection, hbeside, b, hcalm, hr⟩ := hask
  refine ⟨hconnection, hbeside, fun hquiet => ?_⟩
  obtain ⟨e, rfl, hb⟩ | hanswered := hr
  · exact fun x hx => hcalm x (hb.symm.trans hx)
  · obtain ho | ⟨e, rfl⟩ := hquiet
    · exact hanswered.calm ho hcalm
    · exact hanswered.calm_of_error

/-- A transaction that is left open is owed a rollback. -/
theorem leaveOpen_turn {α : Type} (r : α) {t' : Connection × FaultyDatabase} (hconnection : t'.1.number = t.1.number)
    (hbeside : Beside t.1.number t.2.table t'.2.table) :
    (do leaveOpen; return r : Act (Connection × FaultyDatabase) α).Yields t' fun _ t'' => Turn t t'' :=
  ⟨hconnection, hbeside, nofun⟩

/-- A statement in a transaction of its own. -/
theorem transact_turn (sql : String) (h : Settled t) : (transact (service st) sql).Yields t fun _ t' => Turn t t' := by
  unfold transact
  refine (ask_turn _ h).bind fun r t₁ h₁ => ?_
  obtain ⟨hconnection, hbeside, hcalm⟩ := h₁
  have hnumber : t₁.1.number = t.1.number := by rw [hconnection]
  cases r with
  | error e =>
    have hsettled : t₁.2.table.Calm t₁.1.number := hnumber ▸ hcalm (Or.inr ⟨e, rfl⟩)
    exact ⟨hnumber, hbeside, fun _ => hsettled⟩
  | ok n₁ =>
    refine (put_spec _ t₁).bind fun r t₂ h₂ => ?_
    obtain ⟨hsame, hbeside₂, -⟩ := h₂
    rw [hnumber] at hbeside₂
    have hnumber₂ : t₂.1.number = t.1.number := (congrArg Connection.number hsame).trans hnumber
    cases r with
    | error e => exact leaveOpen_turn _ hnumber₂ (hbeside.trans hbeside₂)
    | ok n₂ =>
      refine (put_spec _ t₂).bind fun r t₃ h₃ => ?_
      obtain ⟨hsame₃, hbeside₃, hanswered⟩ := h₃
      rw [hnumber₂] at hbeside₃ hanswered
      have hnumber₃ : t₃.1.number = t.1.number := (congrArg Connection.number hsame₃).trans hnumber₂
      cases r with
      | error e => exact leaveOpen_turn _ hnumber₃ ((hbeside.trans hbeside₂).trans hbeside₃)
      | ok n₃ =>
        have hsettled : t₃.2.table.Calm t₃.1.number := hnumber₃ ▸ hanswered.calm_of_commit
        exact ⟨hnumber₃, (hbeside.trans hbeside₂).trans hbeside₃, fun _ => hsettled⟩

/-- The data of a bulk load. -/
theorem sendPieces_turn (pieces : List String) (h : t.2.table.Calm t.1.number) :
    (sendPieces (service st) pieces).Yields t fun _ t' => t'.1 = t.1 ∧ Beside t.1.number t.2.table t'.2.table ∧
      t'.2.table.Calm t.1.number := by
  induction pieces generalizing t with
  | nil => exact ⟨rfl, Beside.refl _ _, h⟩
  | cons piece rest ih =>
    unfold sendPieces
    refine (put_turn (by simp [Order.sql?]) h).bind fun r t₁ h₁ => ?_
    obtain ⟨hsame, hbeside, hcalm⟩ := h₁
    rw [← hsame] at hcalm
    cases r with
    | error e =>
      refine (put_turn (o := .copyFail copyAbandoned) (by simp [Order.sql?]) hcalm).bind fun _ t₂ h₂ => ?_
      rw [hsame] at h₂
      exact ⟨h₂.1, hbeside.trans h₂.2.1, h₂.2.2⟩
    | ok n =>
      refine (ih hcalm).mono fun _ t₂ h₂ => ?_
      rw [hsame] at h₂
      exact ⟨h₂.1, hbeside.trans h₂.2.1, h₂.2.2⟩

/-- A bulk load. -/
theorem copyIn_turn {sql : String} (hbegin : sql ≠ "BEGIN") (lines : List String) (h : Settled t) :
    (copyIn (service st) sql lines).Yields t fun _ t' => Turn t t' := by
  unfold copyIn
  refine (ask_turn _ h).bind fun r t₁ h₁ => ?_
  obtain ⟨hconnection, hbeside, hcalm⟩ := h₁
  have hnumber : t₁.1.number = t.1.number := by rw [hconnection]
  have hcalm₁ : t₁.2.table.Calm t₁.1.number := by
    rw [hnumber]
    exact hcalm (Or.inl fun hq => hbegin (Option.some.inj hq))
  cases r with
  | error e => exact ⟨hnumber, hbeside, fun _ => hcalm₁⟩
  | ok n =>
    refine (sendPieces_turn _ hcalm₁).bind fun r t₂ h₂ => ?_
    obtain ⟨hsame, hbeside₂, hcalm₂⟩ := h₂
    have hnumber₂ : t₂.1.number = t.1.number := (congrArg Connection.number hsame).trans hnumber
    rw [← hsame] at hcalm₂
    rw [hnumber] at hbeside₂
    cases r with
    | error e => exact ⟨hnumber₂, hbeside.trans hbeside₂, fun _ => hcalm₂⟩
    | ok u =>
      refine (put_turn (by simp [Order.sql?]) hcalm₂).mono fun _ t₃ h₃ => ?_
      obtain ⟨hsame₃, hbeside₃, hcalm₃⟩ := h₃
      rw [← hsame₃] at hcalm₃
      rw [hnumber₂] at hbeside₃
      exact ⟨(congrArg Connection.number hsame₃).trans hnumber₂, (hbeside.trans hbeside₂).trans hbeside₃, fun _ => hcalm₃⟩

end Connection

namespace Source

open FaultyDatabase Connection

variable {st : Statements} {t : Connection × FaultyDatabase}

/-- A phase, whatever fails. -/
theorem perform_turn (src : Source) (p : WritePhase) (rows : List StagedRow) (h : Settled t) :
    (perform (service st) src.statements rows p).Yields t fun _ t' => Turn t t' := by
  have hbegin : ∀ sql ∈ src.statements.all, sql ≠ "BEGIN" := fun sql hsql => Statements.ne_of_mem_all _ hsql (by simp)
  have hnothing : Turn t t := ⟨rfl, Beside.refl _ _, h⟩
  cases p with
  | createStaging =>
    refine (ask_turn _ h).mono fun r t' hask => ?_
    obtain ⟨hconnection, hbeside, hcalm⟩ := hask
    have hnumber : t'.1.number = t.1.number := by rw [hconnection]
    refine ⟨hnumber, hbeside, fun _ => ?_⟩
    rw [hnumber]
    exact hcalm (Or.inl fun hq => hbegin _ (by simp [Statements.all]) (Option.some.inj hq))
  | bulkLoad => exact copyIn_turn (hbegin _ (by simp [Statements.all])) _ h
  | insertLabels => exact transact_turn _ h
  | insertValues => exact transact_turn _ h
  | acquire => exact hnothing
  | release => exact hnothing

end Source

end Intake
