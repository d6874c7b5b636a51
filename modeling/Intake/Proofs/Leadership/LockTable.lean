import Intake.Leadership.Lock

/-!
# Lock table: sessions of a database server and the locks they hold

A lock belongs to a session and is counted: the session that holds it can take it again, and has to give it back as often as it
took it. No two sessions hold a lock at once, and a session that ends lets go of everything. `FaultyServer` is such a server with
everything that can go wrong on the way to it: it refuses connections, loses requests or their answers, and ends sessions. Which
of this happens is laid down in a list of mishaps, so that a statement about all lists is a statement about every course of
events.
-/

namespace Intake

/-- A session holds a lock, as often as it took it. -/
structure Hold where
  session : Nat
  count : Nat
  pos : 0 < count := by omega
  deriving DecidableEq

/-- A lock that was taken once. -/
def Hold.once (session : Nat) : Hold := { session, count := 1 }

structure LockTable where
  /-- How many sessions were opened; they are numbered in that order. -/
  opened : Nat := 0
  ended : List Nat := []
  holder : Int → Option Hold := fun _ => none

namespace LockTable

/-- A session that was opened and has not ended. -/
def Live (v : LockTable) (session : Nat) : Prop := session < v.opened ∧ session ∉ v.ended

instance (v : LockTable) (session : Nat) : Decidable (v.Live session) := inferInstanceAs (Decidable (_ ∧ _))

/-- Sets who holds a lock. -/
def setHolder (v : LockTable) (lockId : Int) (h : Option Hold) : LockTable :=
  { v with holder := fun id => if id = lockId then h else v.holder id }

/-- A session tries to take a lock: it gets it unless another session holds it, once more if it holds it itself. -/
def take (session : Nat) (lockId : Int) (v : LockTable) : Bool × LockTable :=
  match v.holder lockId with
  | none => (true, v.setHolder lockId (some (Hold.once session)))
  | some h =>
    if h.session = session then (true, v.setHolder lockId (some { session, count := h.count + 1 })) else (false, v)

/-- A session gives a lock back once; the answer says whether it held it. -/
def giveBack (session : Nat) (lockId : Int) (v : LockTable) : Bool × LockTable :=
  match v.holder lockId with
  | none => (false, v)
  | some h =>
    if h.session = session then
      (true, v.setHolder lockId (if hc : 1 < h.count then some { session, count := h.count - 1 } else none))
    else (false, v)

/-- The end of a session frees its locks. -/
def endSession (v : LockTable) (session : Nat) : LockTable :=
  { v with
    ended := session :: v.ended
    holder := fun id => (v.holder id).filter fun h => h.session ≠ session }

def endAll (v : LockTable) (sessions : List Nat) : LockTable := sessions.foldl endSession v

/-- How often a session holds a lock. -/
def depth (v : LockTable) (lockId : Int) (session : Nat) : Nat :=
  match v.holder lockId with
  | none => 0
  | some h => if h.session = session then h.count else 0

end LockTable

/-- What becomes of a request. -/
inductive Fate where
  | served
  /-- It never arrives. -/
  | lost
  /-- It takes effect, but its answer never arrives. -/
  | unanswered
  deriving DecidableEq, Repr

/-- What befalls one request. -/
structure Mishap where
  /-- Sessions that the server ends before the request arrives. -/
  ends : List Nat := []
  fate : Fate := .served
  /-- What is said when a statement fails. -/
  fault : DatabaseFault := .protocol "connection reset"
  /-- What is said when a session is not opened. -/
  refusal : StorageError := .acquire fault

/-- A server on which requests can fail. -/
structure FaultyServer where
  table : LockTable
  /-- What befalls the next requests in order; nothing befalls those after them. -/
  mishaps : List Mishap := []

namespace FaultyServer

/-- The next request is on its way. -/
def next (v : FaultyServer) : Mishap × FaultyServer :=
  (v.mishaps.headD {}, ⟨v.table.endAll (v.mishaps.headD {}).ends, v.mishaps.tail⟩)

def connect (v : FaultyServer) : Except StorageError Nat × FaultyServer :=
  let (m, v) := v.next
  let grown := { v with table := { v.table with opened := v.table.opened + 1 } }
  match m.fate with
  | .served => (.ok v.table.opened, grown)
  | .lost => (.error m.refusal, v)
  | .unanswered => (.error m.refusal, grown)

/-- A statement on a session. On a session that is not open any more every statement fails. -/
def statement {α : Type} (session : Nat) (effect : LockTable → α × LockTable) (v : FaultyServer) :
    Except DatabaseFault α × FaultyServer :=
  let (m, v) := v.next
  let after := { v with table := (effect v.table).2 }
  if v.table.Live session then
    match m.fate with
    | .served => (.ok (effect v.table).1, after)
    | .lost => (.error m.fault, v)
    | .unanswered => (.error m.fault, after)
  else (.error m.fault, v)

/-- The server as what competitors ask. -/
def service : LockService FaultyServer where
  connect := Act.ofState connect
  tryLock session lockId := statement session (LockTable.take session lockId)
  probe session := statement session fun v => ((), v)
  unlock session lockId := statement session (LockTable.giveBack session lockId)
  close session v := { v with table := v.table.endSession session }

end FaultyServer

/-! ## How often a session holds a lock -/

namespace LockTable

variable {v : LockTable} {lockId : Int} {s t : Nat}

/-- Who holds a lock once is its holder. -/
theorem holder_of_depth_one (h : v.depth lockId s = 1) : v.holder lockId = some (Hold.once s) := by
  unfold depth at h
  split at h
  · omega
  · rename_i hold hh
    split at h
    · rename_i hs
      obtain ⟨session, count, pos⟩ := hold
      simp only at hs h
      subst hs h
      exact hh
    · omega

/-- The holder of a lock holds it at least once. -/
theorem depth_pos_of_holder {h : Hold} (hh : v.holder lockId = some h) : 0 < v.depth lockId h.session := by
  simp only [depth, hh, if_true]
  exact h.pos

/-- No two sessions hold a lock. -/
theorem holder_unique (hs : v.depth lockId s ≠ 0) (ht : v.depth lockId t ≠ 0) : s = t := by
  unfold depth at hs ht
  split at hs
  · exact absurd rfl hs
  · rename_i hold hh
    rw [hh] at ht
    simp only [ne_eq, ite_eq_right_iff, Classical.not_imp] at hs ht
    exact hs.1.symm.trans ht.1

@[simp] theorem depth_setHolder_none : (v.setHolder lockId none).depth lockId t = 0 := by
  simp [depth, setHolder]

@[simp] theorem depth_setHolder_some (h : Hold) :
    (v.setHolder lockId (some h)).depth lockId t = if h.session = t then h.count else 0 := by
  simp [depth, setHolder]

@[simp] theorem opened_setHolder (h : Option Hold) : (v.setHolder lockId h).opened = v.opened := rfl

@[simp] theorem ended_setHolder (h : Option Hold) : (v.setHolder lockId h).ended = v.ended := rfl

@[simp] theorem opened_endSession : (v.endSession s).opened = v.opened := rfl

/-- The end of a session frees its locks and touches no other's. -/
theorem depth_endSession (v : LockTable) (lockId : Int) (s t : Nat) :
    (v.endSession s).depth lockId t = if t = s then 0 else v.depth lockId t := by
  unfold depth
  simp only [endSession]
  cases h : v.holder lockId with
  | none => simp
  | some hold =>
    by_cases hs : hold.session = s
    · rw [Option.filter_some_neg (by simpa using hs)]
      by_cases ht : t = s
      · simp [ht]
      · have hne : ¬s = t := fun e => ht e.symm
        simp [hs, ht, hne]
    · rw [Option.filter_some_pos (by simpa using hs)]
      by_cases ht : t = s
      · simp [hs, ht]
      · simp [ht]

/-- A session that gets a lock holds it once more; nothing else changes. -/
theorem depth_take (v : LockTable) (lockId : Int) (s t : Nat) :
    (take s lockId v).2.depth lockId t = if t = s ∧ (take s lockId v).1 = true then v.depth lockId s + 1 else v.depth lockId t := by
  unfold take
  cases h : v.holder lockId with
  | none =>
    have h0 : ∀ t, v.depth lockId t = 0 := fun t => by simp [depth, h]
    simp [h0, Hold.once, eq_comm]
  | some hold =>
    by_cases hs : hold.session = s
    · have h0 : ∀ t, v.depth lockId t = if s = t then hold.count else 0 := fun t => by simp [depth, h, hs]
      by_cases ht : t = s
      · simp [hs, ht, h0]
      · have hne : ¬s = t := fun e => ht e.symm
        simp [hs, ht, hne, h0]
    · simp [hs]

/-- A session that is refused a lock does not hold it. -/
theorem depth_of_refused (h : (take s lockId v).1 = false) : v.depth lockId s = 0 := by
  unfold take at h
  unfold depth
  cases hh : v.holder lockId with
  | none => rfl
  | some hold =>
    simp only [hh] at h ⊢
    split at h
    · simp at h
    · rename_i hs
      rw [if_neg hs]

/-- A session that gives a lock back holds it once less, if it held it; nothing else changes. -/
theorem depth_giveBack (v : LockTable) (lockId : Int) (s t : Nat) :
    (giveBack s lockId v).2.depth lockId t = if t = s then v.depth lockId s - 1 else v.depth lockId t := by
  unfold giveBack
  cases h : v.holder lockId with
  | none =>
    have h0 : ∀ t, v.depth lockId t = 0 := fun t => by simp [depth, h]
    simp [h0]
  | some hold =>
    by_cases hs : hold.session = s
    · have h0 : ∀ t, v.depth lockId t = if s = t then hold.count else 0 := fun t => by simp [depth, h, hs]
      have hp := hold.pos
      by_cases hc : 1 < hold.count
      · by_cases ht : t = s
        · simp [hs, hc, ht, h0]
        · have hne : ¬s = t := fun e => ht e.symm
          simp [hs, hc, ht, hne, h0]
      · by_cases ht : t = s
        · simp [hs, hc, ht, h0]
          omega
        · have hne : ¬s = t := fun e => ht e.symm
          simp [hs, hc, ht, hne, h0]
    · by_cases ht : t = s
      · simp [hs, ht, depth, h]
      · simp [hs, ht]

@[simp] theorem opened_take : (take s lockId v).2.opened = v.opened := by
  unfold take
  split
  · rfl
  · split <;> rfl

@[simp] theorem ended_take : (take s lockId v).2.ended = v.ended := by
  unfold take
  split
  · rfl
  · split <;> rfl

@[simp] theorem opened_giveBack : (giveBack s lockId v).2.opened = v.opened := by
  unfold giveBack
  split
  · rfl
  · split <;> rfl

@[simp] theorem ended_giveBack : (giveBack s lockId v).2.ended = v.ended := by
  unfold giveBack
  split
  · rfl
  · split <;> rfl

/-! ## What is kept for a session while others act -/

/-- From `v` to `v'` nothing happened to the sessions outside `mine`, but that some of them ended. -/
structure Keeps (lockId : Int) (mine : Nat → Prop) (v v' : LockTable) : Prop where
  opened : v.opened ≤ v'.opened
  ended : ∀ t ∈ v.ended, t ∈ v'.ended
  depth : ∀ t, ¬mine t → v'.depth lockId t = v.depth lockId t ∨ v'.depth lockId t = 0 ∧ t ∈ v'.ended

variable {mine : Nat → Prop} {v' v'' : LockTable}

theorem Keeps.refl (v : LockTable) : Keeps lockId mine v v :=
  ⟨Nat.le_refl _, fun _ h => h, fun _ _ => Or.inl rfl⟩

theorem Keeps.trans (h : Keeps lockId mine v v') (h' : Keeps lockId mine v' v'') : Keeps lockId mine v v'' := by
  refine ⟨Nat.le_trans h.opened h'.opened, fun t ht => h'.ended t (h.ended t ht), ?_⟩
  intro t hm
  rcases h'.depth t hm with e' | e'
  · rcases h.depth t hm with e | ⟨e, hd⟩
    · exact Or.inl (e'.trans e)
    · exact Or.inr ⟨e'.trans e, h'.ended t hd⟩
  · exact Or.inr e'

theorem Keeps.mono {mine' : Nat → Prop} (h : Keeps lockId mine v v') (hm : ∀ t, mine t → mine' t) :
    Keeps lockId mine' v v' :=
  ⟨h.opened, h.ended, fun t hn => h.depth t fun h' => hn (hm t h')⟩

/-- A session that lives lived before. -/
theorem Keeps.live (h : Keeps lockId mine v v') {t : Nat} (ht : t < v.opened) (hl : v'.Live t) : v.Live t :=
  ⟨ht, fun he => hl.2 (h.ended t he)⟩

/-- A session that holds nothing does not get anything. -/
theorem Keeps.depth_zero (h : Keeps lockId mine v v') {t : Nat} (hm : ¬mine t) (h0 : v.depth lockId t = 0) :
    v'.depth lockId t = 0 := by
  rcases h.depth t hm with e | e
  · exact e.trans h0
  · exact e.1

/-- A session that holds a lock keeps it for as long as it lives. -/
theorem Keeps.depth_eq (h : Keeps lockId mine v v') {t : Nat} (hm : ¬mine t) (hl : v'.Live t) :
    v'.depth lockId t = v.depth lockId t := by
  rcases h.depth t hm with e | e
  · exact e
  · exact absurd e.2 hl.2

theorem keeps_endSession (v : LockTable) (s : Nat) : Keeps lockId mine v (v.endSession s) := by
  refine ⟨Nat.le_refl _, fun t ht => List.mem_cons_of_mem s ht, ?_⟩
  intro t _
  rw [depth_endSession]
  by_cases ht : t = s
  · exact Or.inr ⟨if_pos ht, by rw [ht]; exact List.mem_cons_self⟩
  · exact Or.inl (if_neg ht)

theorem keeps_endAll (v : LockTable) (ss : List Nat) : Keeps lockId mine v (v.endAll ss) := by
  induction ss generalizing v with
  | nil => exact Keeps.refl v
  | cons s ss ih => exact (keeps_endSession v s).trans (ih _)

theorem opened_endAll (v : LockTable) (ss : List Nat) : (v.endAll ss).opened = v.opened := by
  induction ss generalizing v with
  | nil => rfl
  | cons s ss ih => exact ih _

theorem keeps_take (v : LockTable) (s : Nat) : Keeps lockId (· = s) v (take s lockId v).2 := by
  refine ⟨Nat.le_of_eq opened_take.symm, fun t ht => by rwa [ended_take], ?_⟩
  intro t hm
  rw [depth_take, if_neg fun h => hm h.1]
  exact Or.inl rfl

theorem keeps_giveBack (v : LockTable) (s : Nat) : Keeps lockId (· = s) v (giveBack s lockId v).2 := by
  refine ⟨Nat.le_of_eq opened_giveBack.symm, fun t ht => by rwa [ended_giveBack], ?_⟩
  intro t hm
  rw [depth_giveBack, if_neg hm]
  exact Or.inl rfl

/-- A session that is opened changes nothing for the others. -/
theorem keeps_open (v : LockTable) : Keeps lockId mine v { v with opened := v.opened + 1 } :=
  ⟨Nat.le_succ _, fun _ h => h, fun _ _ => Or.inl rfl⟩

end LockTable

/-! ## Requests that can fail -/

namespace FaultyServer

open LockTable

variable {v : FaultyServer} {lockId : Int} {mine : Nat → Prop} {s : Nat}

/-- The table when the next request arrives. -/
def arrival (v : FaultyServer) : LockTable := v.table.endAll (v.mishaps.headD {}).ends

theorem keeps_arrival (v : FaultyServer) : Keeps lockId mine v.table v.arrival := keeps_endAll _ _

@[simp] theorem opened_arrival (v : FaultyServer) : v.arrival.opened = v.table.opened := opened_endAll _ _

/-- Either a session is opened and handed out, or the request fails. -/
theorem connect_cases (lockId : Int) (mine : Nat → Prop) (v : FaultyServer) :
    ((connect v).1 = .ok v.table.opened ∧ (connect v).2.table = { v.arrival with opened := v.table.opened + 1 }) ∨
      ((∃ e, (connect v).1 = .error e) ∧ Keeps lockId mine v.table (connect v).2.table) := by
  unfold connect
  simp only [next]
  cases (v.mishaps.headD {}).fate with
  | served => exact Or.inl ⟨congrArg _ (opened_arrival v), congrArg (fun n => { v.arrival with opened := n + 1 }) (opened_arrival v)⟩
  | lost => exact Or.inr ⟨⟨_, rfl⟩, keeps_arrival v⟩
  | unanswered => exact Or.inr ⟨⟨_, rfl⟩, (keeps_arrival v).trans (keeps_open _)⟩

variable {α : Type} {effect : LockTable → α × LockTable}

/-- A statement that is answered took effect, on a session that lives; one that fails may have taken effect or not. -/
theorem statement_cases (s : Nat) (effect : LockTable → α × LockTable) (v : FaultyServer) :
    (v.arrival.Live s ∧ (statement s effect v).1 = .ok (effect v.arrival).1 ∧
        (statement s effect v).2.table = (effect v.arrival).2) ∨
      ((∃ fault, (statement s effect v).1 = .error fault) ∧
        ((statement s effect v).2.table = v.arrival ∨ (statement s effect v).2.table = (effect v.arrival).2)) := by
  unfold statement
  simp only [next]
  by_cases hl : v.arrival.Live s
  · simp only [show (v.table.endAll (v.mishaps.headD {}).ends).Live s from hl, if_true]
    cases (v.mishaps.headD {}).fate with
    | served => exact Or.inl ⟨hl, rfl, rfl⟩
    | lost => exact Or.inr ⟨⟨_, rfl⟩, Or.inl rfl⟩
    | unanswered => exact Or.inr ⟨⟨_, rfl⟩, Or.inr rfl⟩
  · simp only [show ¬(v.table.endAll (v.mishaps.headD {}).ends).Live s from hl, if_false]
    exact Or.inr ⟨⟨_, rfl⟩, Or.inl rfl⟩

end FaultyServer

end Intake
