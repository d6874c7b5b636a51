import Mathlib.Data.List.Perm.Basic
import Mathlib.Data.List.Nodup
import Intake.Proofs.Postgres.Backends

/-!
# Hygiene: what a session leaves behind

A connection goes from the pool to a session and back, or it is closed. Any number of sessions are handed out by a source, carry out
phases of batches, and end, by a release or because they are abandoned, on a database on which every order can fail (`FaultyDatabase`).
What lies idle in the pool then has no staging table and no transaction, and every connection that was opened is idle, held by one
session, or closed once (`Accounted`). All of this is `Tidy`, and it holds after every run (`sessions_tidy`).
-/

namespace Intake

open BackendTable FaultyDatabase

/-- Every connection that was opened is owned by a session, idle, or closed, and no two of these. -/
def Accounted (owned : List Nat) (idle : List Connection) (v : BackendTable) : Prop :=
  (owned ++ (idle.map Connection.number ++ v.closed)).Perm (List.range v.opened)

/-- What lies idle owes nothing, and its backend is clean. -/
def IdleClean (idle : List Connection) (v : BackendTable) : Prop := ∀ c ∈ idle, c.owesRollback = false ∧ v.Clean c.number

variable {owned : List Nat} {idle : List Connection} {v v' : BackendTable} {c : Connection} {n : Nat}

namespace Accounted

theorem nodup (h : Accounted owned idle v) : (owned ++ (idle.map Connection.number ++ v.closed)).Nodup :=
  h.nodup_iff.2 List.nodup_range

/-- The number of a connection that is accounted for was given out. -/
theorem lt_opened (h : Accounted owned idle v) (hn : n ∈ owned ++ (idle.map Connection.number ++ v.closed)) : n < v.opened :=
  List.mem_range.1 (h.mem_iff.1 hn)

/-- What is idle is owned by no session. -/
theorem idle_notMem_owned (h : Accounted owned idle v) (hc : c ∈ idle) : c.number ∉ owned := by
  intro howned
  have hmem : c.number ∈ idle.map Connection.number ++ v.closed := List.mem_append_left _ (List.mem_map_of_mem hc)
  exact (List.nodup_append.1 h.nodup).2.2 _ howned _ hmem rfl

theorem closed_notMem_owned (h : Accounted owned idle v) (hn : n ∈ v.closed) : n ∉ owned := by
  intro howned
  exact (List.nodup_append.1 h.nodup).2.2 _ howned _ (List.mem_append_right _ hn) rfl

theorem closed_notMem_idle (h : Accounted owned idle v) (hn : n ∈ v.closed) : n ∉ idle.map Connection.number := by
  intro hidle
  exact (List.nodup_append.1 (List.nodup_append.1 h.nodup).2.1).2.2 _ hidle _ hn rfl

theorem beside (h : Accounted owned idle v) (hopened : v'.opened = v.opened) (hclosed : v'.closed = v.closed) :
    Accounted owned idle v' := by
  unfold Accounted
  rw [hopened, hclosed]
  exact h

/-- An idle connection is handed out. -/
theorem take (h : Accounted owned (c :: idle) v) : Accounted (c.number :: owned) idle v :=
  (List.perm_middle.symm).trans h

/-- An idle connection is closed. -/
theorem lose (h : Accounted owned (c :: idle) v) : Accounted owned idle (close c.number v) :=
  (List.Perm.append_left _ List.perm_middle).trans h

/-- A connection is opened, and handed out. -/
theorem grow (h : Accounted owned idle v) : Accounted (v.opened :: owned) idle v.grow := by
  have hrange : (List.range (v.opened + 1)).Perm (v.opened :: List.range v.opened) := by
    rw [List.range_succ]
    exact List.perm_append_singleton _ _
  exact (h.cons v.opened).trans hrange.symm

/-- A connection is given back. -/
theorem keep (h : Accounted (c.number :: owned) idle v) : Accounted owned (idle ++ [c]) v := by
  unfold Accounted
  rw [List.map_append, List.append_assoc]
  refine List.Perm.trans ?_ h
  refine (List.Perm.append_left _ List.perm_middle).trans ?_
  exact List.perm_middle

/-- A connection that a session owned is closed. -/
theorem drop (h : Accounted (n :: owned) idle v) : Accounted owned idle (close n v) := by
  refine List.Perm.trans ?_ h
  refine (List.Perm.append_left _ List.perm_middle).trans ?_
  exact List.perm_middle

theorem perm {owned' : List Nat} (h : Accounted owned idle v) (hp : owned'.Perm owned) : Accounted owned' idle v :=
  (hp.append_right _).trans h

end Accounted

theorem IdleClean.spares {mine : Nat → Prop} (h : IdleClean idle v) (hs : Spares mine v v') (hmine : ∀ c ∈ idle, ¬mine c.number) :
    IdleClean idle v' :=
  fun c hc => ⟨(h c hc).1, hs.clean (hmine c hc) (h c hc).2⟩

/-! ## Handing out -/

namespace Connection

variable {st : Statements} {t : Connection × FaultyDatabase}

/-- A sign of life leaves a clean connection clean. -/
theorem sync_spec (howes : t.1.owesRollback = false) (hclean : t.2.table.Clean t.1.number) :
    (ask (service st) .sync).Yields t fun _ t' => t'.1 = t.1 ∧ Beside t.1.number t.2.table t'.2.table ∧ t'.2.table.Clean t.1.number := by
  have hput : (put (service st) .sync).Yields t fun _ t' =>
      t'.1 = t.1 ∧ Beside t.1.number t.2.table t'.2.table ∧ t'.2.table.Clean t.1.number := by
    refine (put_spec .sync t).mono fun r t' h => ⟨h.1, h.2.1, fun b hb => ?_⟩
    exact h.2.2.clean_of_sync hclean b hb
  obtain ⟨⟨number, owes⟩, w⟩ := t
  obtain rfl : owes = false := howes
  exact hput

end Connection

/-- A connection is opened, or nothing happens but what the server does. -/
theorem FaultyDatabase.connect_spec (w : FaultyDatabase) :
    ∃ v, v.opened = w.table.opened ∧ v.closed = w.table.closed ∧ Spares (fun _ => False) w.table v ∧
      ((∃ e, w.connect.1 = .error e ∧ w.connect.2.table = v) ∨ w.connect.1 = .ok v.opened ∧ w.connect.2.table = v.grow) := by
  refine ⟨w.next.2.table, rfl, rfl, spares_endAll w.table _, ?_⟩
  unfold connect
  dsimp only
  cases w.next.1.verdict with
  | served => exact Or.inr ⟨rfl, rfl⟩
  | refused => exact Or.inl ⟨_, rfl, rfl⟩
  | broken => exact Or.inl ⟨_, rfl, rfl⟩

/-- What is handed out is accounted for and clean, and so is what stays idle. -/
structure HandedOut (owned : List Nat) (mine : Nat → Prop) (v : BackendTable) (r : Option Connection) (idle : List Connection)
    (v' : BackendTable) : Prop where
  accounted : Accounted ((r.map Connection.number).toList ++ owned) idle v'
  idle : IdleClean idle v'
  spares : Spares mine v v'
  closed : ∀ n ∈ v.closed, n ∈ v'.closed
  handed : ∀ c, r = some c → c.owesRollback = false ∧ v'.Clean c.number

/-- What is handed out after something else happened on connections of the source. -/
theorem HandedOut.after {mine mine' : Nat → Prop} {r : Option Connection} {v₁ : BackendTable} (h : HandedOut owned mine' v₁ r idle v')
    (hspares : Spares mine v v₁) (hmine : ∀ n, mine' n → mine n) (hclosed : ∀ n ∈ v.closed, n ∈ v₁.closed) :
    HandedOut owned mine v r idle v' where
  accounted := h.accounted
  idle := h.idle
  spares := hspares.trans (h.spares.mono hmine)
  closed n hn := h.closed n (hclosed n hn)
  handed := h.handed

namespace Pool

variable {st : Statements} {p : Pool} {w : FaultyDatabase} {o : ConnectOptions}

theorem openNew_spec (haccounted : Accounted owned p.idle w.table) (hclean : IdleClean p.idle w.table) :
    (openNew (service st) o).Yields (p, w) fun r t' =>
      HandedOut owned (fun m => w.table.opened ≤ m) w.table r.toOption t'.1.idle t'.2.table := by
  obtain ⟨v, hopened, hclosed, hspares, hconnect⟩ := w.connect_spec
  have haccounted' : Accounted owned p.idle v := haccounted.beside hopened hclosed
  have hclean' : IdleClean p.idle v := hclean.spares hspares fun _ _ => not_false
  have hspares' : Spares (fun m => w.table.opened ≤ m) w.table v := hspares.mono fun _ h => h.elim
  have hclosed' : ∀ n ∈ w.table.closed, n ∈ v.closed := fun n hn => hclosed ▸ hn
  unfold openNew Act.Yields Act.run
  dsimp only
  by_cases hroom : p.handedOut < p.maxOpen
  · rw [if_pos hroom]
    generalize hw : (service st).connect o w = answer
    obtain ⟨r, w'⟩ := answer
    have hr : w.connect.1 = r := congrArg Prod.fst hw
    have hw' : w.connect.2 = w' := congrArg Prod.snd hw
    rw [hr, hw'] at hconnect
    obtain ⟨e, rfl, rfl⟩ | ⟨rfl, htable⟩ := hconnect
    · exact ⟨haccounted', hclean', hspares', hclosed', nofun⟩
    · have hidle : ∀ c ∈ p.idle, c.number ≠ v.opened := fun c hc =>
        Nat.ne_of_lt (haccounted'.lt_opened (List.mem_append_right _ (List.mem_append_left _ (List.mem_map_of_mem hc))))
      dsimp only [Except.toOption]
      rw [htable]
      refine ⟨haccounted'.grow, hclean'.spares (spares_grow v) hidle, ?_, hclosed', ?_⟩
      · exact hspares'.trans ((spares_grow v).mono fun m hm => Nat.le_of_eq (hm.trans hopened).symm)
      · rintro c ⟨⟩
        exact ⟨rfl, clean_grow v⟩
  · rw [if_neg hroom]
    exact ⟨haccounted, hclean, Spares.refl _ _, fun _ hn => hn, nofun⟩

/-- The first idle connection that gives a sign of life is handed out, or a new one; those that give none are closed. -/
theorem firstAlive_spec (cs : List Connection) {p : Pool} {w : FaultyDatabase} (hidle : p.idle = cs)
    (haccounted : Accounted owned cs w.table) (hclean : IdleClean cs w.table) :
    (firstAlive (service st) o cs).Yields (p, w) fun r t' =>
      HandedOut owned (fun m => m ∈ cs.map Connection.number ∨ w.table.opened ≤ m) w.table r.toOption t'.1.idle t'.2.table := by
  induction cs generalizing p w with
  | nil =>
    refine (openNew_spec (p := p) (hidle ▸ haccounted) (hidle ▸ hclean)).mono fun r t' h => ?_
    exact h.after (Spares.refl _ _) (fun m hm => Or.inr hm) fun _ hn => hn
  | cons c rest ih =>
    obtain ⟨howes, hc⟩ := hclean c List.mem_cons_self
    have hother : ∀ x ∈ rest, x.number ≠ c.number := by
      intro x hx hsame
      have hnodup : ((c :: rest).map Connection.number).Nodup := (List.nodup_append.1 (List.nodup_append.1 haccounted.nodup).2.1).1
      exact (List.nodup_cons.1 hnodup).1 (hsame ▸ List.mem_map_of_mem hx)
    refine yields_firstAlive_cons ((Connection.sync_spec (t := (c, w)) howes hc).mono fun r t' h => ?_)
    obtain ⟨c', w'⟩ := t'
    obtain ⟨rfl, hbeside, hc'⟩ := h
    have haccounted' : Accounted owned (c' :: rest) w'.table := haccounted.beside hbeside.opened hbeside.closed
    have hrest : IdleClean rest w'.table :=
      IdleClean.spares (fun x hx => hclean x (List.mem_cons_of_mem c' hx)) hbeside.spares hother
    have hspares : Spares (fun m => m ∈ (c' :: rest).map Connection.number ∨ w.table.opened ≤ m) w.table w'.table :=
      hbeside.spares.mono fun m hm => Or.inl (hm ▸ List.mem_cons_self)
    have hclosed : ∀ n ∈ w.table.closed, n ∈ w'.table.closed := fun n hn => hbeside.closed ▸ hn
    refine ⟨fun n _ => ⟨haccounted'.take, hrest, hspares, hclosed, ?_⟩, fun e _ => ?_⟩
    · rintro x ⟨⟩
      exact ⟨howes, hc'⟩
    · have hgone : IdleClean rest (BackendTable.close c'.number w'.table) := hrest.spares (spares_close _ _) hother
      have hsparesGone : Spares (fun m => m ∈ (c' :: rest).map Connection.number ∨ w.table.opened ≤ m) w.table
          (BackendTable.close c'.number w'.table) :=
        hspares.trans ((spares_close _ _).mono fun m hm => Or.inl (hm ▸ List.mem_cons_self))
      refine (ih rfl haccounted'.lose hgone).mono fun r t' h => ?_
      refine h.after hsparesGone (fun m hm => ?_) fun n hn => List.mem_cons_of_mem _ (hclosed n hn)
      exact hm.imp (List.mem_cons_of_mem _) fun hm => hbeside.opened ▸ hm

/-- A clean connection that is given back is idle again, or closed. -/
theorem giveBack_spec (howes : c.owesRollback = false) (hclean : w.table.Clean c.number) :
    (giveBack (service st) c).Yields (p, w) fun _ t' =>
      Spares (· = c.number) w.table t'.2.table ∧ t'.2.table.opened = w.table.opened ∧
        (t'.1.idle = p.idle ++ [c] ∧ t'.2.table.closed = w.table.closed ∧ t'.2.table.Clean c.number ∨
          t'.1.idle = p.idle ∧ t'.2.table.closed = c.number :: w.table.closed) := by
  refine yields_giveBack (fun _ => ⟨spares_close _ _, rfl, Or.inr ⟨rfl, rfl⟩⟩) ?_
  refine (Connection.sync_spec (t := (c, w)) howes hclean).mono fun r t' h => ?_
  obtain ⟨c', w'⟩ := t'
  obtain ⟨rfl, hbeside, hclean'⟩ := h
  refine ⟨fun n _ => ⟨hbeside.spares, hbeside.opened, Or.inl ⟨rfl, hbeside.closed, hclean'⟩⟩, fun e _ => ?_⟩
  refine ⟨hbeside.spares.trans (spares_close _ _), hbeside.opened, Or.inr ⟨rfl, ?_⟩⟩
  exact congrArg (c'.number :: ·) hbeside.closed

end Pool

/-! ## Sessions of a source -/

/-- How a session ended, by what became of its connection. -/
structure Left (c : Connection) (spoiled : Bool) (src : Source) (v : BackendTable) (src' : Source) (v' : BackendTable) : Prop where
  settings : src'.settings = src.settings
  spares : Spares (· = c.number) v v'
  opened : v'.opened = v.opened
  /-- The connection is idle again, or it was closed; a session that was spoiled ends its connection. -/
  ends : spoiled = false ∧ (∃ c', c'.number = c.number ∧ c'.owesRollback = false ∧ v'.Clean c.number ∧
      src'.pool.idle = src.pool.idle ++ [c'] ∧ v'.closed = v.closed) ∨
    src'.pool.idle = src.pool.idle ∧ v'.closed = c.number :: v.closed

/-- What happened on the connection before its session ended. -/
theorem Left.after {spoiled : Bool} {src src' : Source} {v₁ : BackendTable} (h : Left c spoiled src v₁ src' v')
    (hbefore : Beside c.number v v₁) : Left c spoiled src v src' v' where
  settings := h.settings
  spares := hbefore.spares.trans h.spares
  opened := h.opened.trans hbefore.opened
  ends := hbefore.closed ▸ h.ends

/-- Orders on one connection concern no other. -/
theorem beside_sendAll (st : Statements) (n : Nat) (os : List Order) (w : FaultyDatabase) :
    Beside n w.table (os.foldl (fun w o => ((service st).send n o w).2) w).table := by
  induction os generalizing w with
  | nil => exact Beside.refl _ _
  | cons o rest ih => exact (send_spec st n o w).1.trans (ih _)

namespace Source

variable {src : Source} {w : FaultyDatabase}

/-- Whether the staging table of a session can be dropped. -/
def drops (src : Source) (w : FaultyDatabase) (c : Connection) : Bool :=
  ((Connection.ask (service src.statements) (.query src.statements.dropStaging)).run (c, w)).1.isOk

/-- A session is reserved. -/
theorem acquire_spec (haccounted : Accounted owned src.pool.idle w.table) (hclean : IdleClean src.pool.idle w.table) :
    (acquire (service src.statements)).Yields (src, w) fun r t' => t'.1.settings = src.settings ∧
      HandedOut owned (fun m => m ∈ src.pool.idle.map Connection.number ∨ w.table.opened ≤ m) w.table r.toOption t'.1.pool.idle
        t'.2.table := by
  have hnothing : HandedOut owned (fun m => m ∈ src.pool.idle.map Connection.number ∨ w.table.opened ≤ m) w.table none src.pool.idle
      w.table := ⟨haccounted, hclean, Spares.refl _ _, fun _ hn => hn, nofun⟩
  refine yields_acquire (fun e src' hpool hsettings => ⟨hsettings, ?_⟩) fun o => ?_
  · rw [hpool]
    exact hnothing
  · have hhanded : (Pool.acquire (service src.statements) o).Yields (src.pool, w) fun r t' =>
        HandedOut owned (fun m => m ∈ src.pool.idle.map Connection.number ∨ w.table.opened ≤ m) w.table r.toOption t'.1.idle
          t'.2.table :=
      Pool.yields_acquire (fun _ => hnothing) fun _ => Pool.firstAlive_spec src.pool.idle rfl haccounted hclean
    refine hhanded.mono fun r t' h src' hpool hsettings => ⟨hsettings, ?_⟩
    rw [hpool]
    cases r with
    | ok c => exact h
    | error e => exact h

/-- A session is released. -/
theorem release_spec (src : Source) (h : Connection.Settled (c, w)) :
    (release (service src.statements) c).Yields (src, w) fun _ t' =>
      Left c (!src.drops w c) src w.table t'.1 t'.2.table := by
  have hdrop : (Connection.ask (service src.statements) (.query src.statements.dropStaging)).Yields (c, w) fun r t' =>
      t'.1 = { c with owesRollback := false } ∧ Beside c.number w.table t'.2.table ∧ ∀ n, r = .ok n → t'.2.table.Clean c.number := by
    refine (Connection.ask_spec _ h).mono fun r t' h => ⟨h.1, h.2.1, fun n hn => ?_⟩
    obtain ⟨b, hcalm, ⟨e, he, -⟩ | hanswered⟩ := h.2.2
    · cases hn.symm.trans he
    · rw [hn] at hanswered
      exact hanswered.clean_of_drop hcalm
  have hask : (Connection.ask (service src.statements) (.query src.statements.dropStaging)).Yields (c, w) fun r t' =>
      src.drops w c = r.isOk ∧ t'.1 = { c with owesRollback := false } ∧ Beside c.number w.table t'.2.table ∧
        ∀ n, r = .ok n → t'.2.table.Clean c.number := ⟨rfl, hdrop⟩
  refine yields_release (hask.mono fun r t' h => ?_)
  obtain ⟨c', w'⟩ := t'
  obtain ⟨hdrops, rfl, hbeside, hclean⟩ := h
  refine ⟨fun n hn => ?_, fun e he => ?_⟩
  · refine Act.yields_on.2 ((Pool.giveBack_spec (c := { number := c.number }) rfl (hclean n hn)).mono fun _ t' hback => ?_)
    obtain ⟨hspares, hopened, hends⟩ := hback
    refine ⟨rfl, hbeside.spares.trans hspares, hopened.trans hbeside.opened, ?_⟩
    obtain ⟨hidle, hclosed, hclean'⟩ | ⟨hidle, hclosed⟩ := hends
    · refine Or.inl ⟨?_, { number := c.number }, rfl, rfl, hclean', hidle, hclosed.trans hbeside.closed⟩
      rw [hdrops, hn]
      rfl
    · exact Or.inr ⟨hidle, hclosed.trans (congrArg (c.number :: ·) hbeside.closed)⟩
  · refine ⟨rfl, hbeside.spares.trans (spares_close _ _), hbeside.opened, Or.inr ⟨rfl, ?_⟩⟩
    exact congrArg (c.number :: ·) hbeside.closed

/-- A session is abandoned. -/
theorem abandon_spec (src : Source) (w : FaultyDatabase) (c : Connection) :
    (abandon (service src.statements) c).Yields (src, w) fun _ t' => Left c true src w.table t'.1 t'.2.table :=
  ⟨rfl, spares_close _ _, rfl, Or.inr ⟨rfl, rfl⟩⟩

end Source

/-! ## A source that is shared -/

/-- How a session left: what became of its connection at its end. -/
structure Departure where
  /-- Whether the session was abandoned, or its staging table could not be dropped. -/
  spoiled : Bool
  /-- How many times its connection went back to the pool. -/
  returned : Nat
  /-- How many times its connection was closed. -/
  closed : Nat
  deriving DecidableEq

/-- The connection went back once, or it was closed once. -/
def Departure.Settled (e : Departure) : Prop := e.returned = 1 ∧ e.closed = 0 ∨ e.returned = 0 ∧ e.closed = 1

/-- A session that was handed out. -/
structure Tenure where
  connection : Connection
  departure : Option Departure := none
  deriving DecidableEq

/-- A source, the backends of its server, and the sessions that were handed out, in that order. -/
structure SharedSource where
  source : Source
  table : BackendTable := {}
  sessions : List Tenure := []

/-- What can happen to a source, with what befalls its orders. -/
inductive SharedSource.Move where
  | acquire (hazards : List Hazard) (passwordFile : Except FileFault String)
  | phase (k : Nat) (p : WritePhase) (rows : List StagedRow) (hazards : List Hazard)
  | release (k : Nat) (hazards : List Hazard)
  /-- A session is abandoned; of the phase that it was in, these orders were sent. -/
  | abandon (k : Nat) (sent : List Order) (hazards : List Hazard)

namespace SharedSource

/-- A source that has nothing in its pool. -/
def start (src : Source) : SharedSource := { source := { src with pool := { src.pool with idle := [] } } }

def database (d : SharedSource) (hazards : List Hazard) (passwordFile : Except FileFault String) : FaultyDatabase :=
  ⟨d.table, hazards, passwordFile⟩

def server (d : SharedSource) : DatabaseServer FaultyDatabase := service d.source.statements

/-- The session of this number, unless it has ended. -/
def held? (d : SharedSource) (k : Nat) : Option Tenure := d.sessions[k]?.filter fun s => s.departure.isNone

/-- What became of a connection, by what its session left. -/
def departure (d : SharedSource) (n : Nat) (spoiled : Bool) (t : Source × FaultyDatabase) : Departure where
  spoiled
  returned := (t.1.pool.idle.map Connection.number).count n - (d.source.pool.idle.map Connection.number).count n
  closed := t.2.table.closed.count n - d.table.closed.count n

/-- A session ends, and leaves a source and a server. -/
def depart (d : SharedSource) (k : Nat) (s : Tenure) (spoiled : Bool) (t : Source × FaultyDatabase) : SharedSource where
  source := t.1
  table := t.2.table
  sessions := d.sessions.set k { s with departure := some (d.departure s.connection.number spoiled t) }

def step (d : SharedSource) : Move → SharedSource
  | .acquire hazards passwordFile =>
    let (r, (source, v), _) := (Source.acquire d.server).run (d.source, d.database hazards passwordFile)
    { source, table := v.table, sessions := d.sessions ++ r.toOption.toList.map fun c => { connection := c } }
  | .phase k p rows hazards =>
    match d.held? k with
    | none => d
    | some s =>
      let ((_, c), (source, v), _) := (Source.phase d.server s.connection p rows).run (d.source, d.database hazards (.ok ""))
      { source, table := v.table, sessions := d.sessions.set k { s with connection := c } }
  | .release k hazards =>
    match d.held? k with
    | none => d
    | some s =>
      let w := d.database hazards (.ok "")
      d.depart k s (!d.source.drops w s.connection) ((Source.release d.server s.connection).run (d.source, w)).2.1
  | .abandon k sent hazards =>
    match d.held? k with
    | none => d
    | some s =>
      let w := sent.foldl (fun w o => (d.server.send s.connection.number o w).2) (d.database hazards (.ok ""))
      d.depart k s true ((Source.abandon d.server s.connection).run (d.source, w)).2.1

def run (d : SharedSource) (moves : List Move) : SharedSource := moves.foldl step d

/-- The connections of the sessions that have not ended. -/
def heldNumbers (sessions : List Tenure) : List Nat :=
  (sessions.filter fun s => s.departure.isNone).map fun s => s.connection.number

variable {d : SharedSource} {sessions : List Tenure} {k : Nat} {s s' : Tenure}

theorem getElem?_of_held? (h : d.held? k = some s) : d.sessions[k]? = some s ∧ s.departure = none := by
  obtain ⟨hs, hnone⟩ := Option.filter_eq_some_iff.1 h
  exact ⟨hs, Option.isNone_iff_eq_none.1 hnone⟩

theorem mem_heldNumbers (hs : s ∈ sessions) (hheld : s.departure = none) : s.connection.number ∈ heldNumbers sessions :=
  List.mem_map_of_mem (List.mem_filter.2 ⟨hs, Option.isNone_iff_eq_none.2 hheld⟩)

/-- A session that goes on keeps its connection. -/
theorem heldNumbers_set (s' : Tenure) (hs : sessions[k]? = some s) (hheld : s.departure = none) (hheld' : s'.departure = none)
    (hnumber : s'.connection.number = s.connection.number) : heldNumbers (sessions.set k s') = heldNumbers sessions := by
  induction sessions generalizing k with
  | nil => rfl
  | cons x rest ih =>
    cases k with
    | zero =>
      cases hs
      simp [heldNumbers, hheld, hheld', hnumber]
    | succ k =>
      unfold heldNumbers at ih ⊢
      rw [List.set_cons_succ, List.filter_cons, List.filter_cons]
      split
      · rw [List.map_cons, List.map_cons, ih hs]
      · exact ih hs

/-- A session that ends gives up its connection. -/
theorem heldNumbers_depart (s' : Tenure) (hs : sessions[k]? = some s) (hheld : s.departure = none) (hleft : s'.departure ≠ none) :
    (s.connection.number :: heldNumbers (sessions.set k s')).Perm (heldNumbers sessions) := by
  induction sessions generalizing k with
  | nil => cases hs
  | cons x rest ih =>
    cases k with
    | zero =>
      cases hs
      have hleft' : s'.departure.isNone = false := Bool.eq_false_iff.2 fun hnone => hleft (Option.isNone_iff_eq_none.1 hnone)
      simp [heldNumbers, hheld, hleft']
    | succ k =>
      unfold heldNumbers at ih ⊢
      rw [List.set_cons_succ, List.filter_cons, List.filter_cons]
      split
      · rw [List.map_cons, List.map_cons]
        exact (List.Perm.swap _ _ _).trans ((ih hs).cons _)
      · exact ih hs

/-- A session that is handed out holds its connection. -/
theorem heldNumbers_concat (sessions : List Tenure) (c : Connection) :
    heldNumbers (sessions ++ [{ connection := c }]) = heldNumbers sessions ++ [c.number] := by
  unfold heldNumbers
  rw [List.filter_append, List.map_append]
  rfl

/-- What holds of a shared source after every run. -/
structure Inv (d : SharedSource) : Prop where
  accounted : Accounted (heldNumbers d.sessions) d.source.pool.idle d.table
  idle : IdleClean d.source.pool.idle d.table
  /-- A session that goes on has no transaction under way unless its connection owes a rollback. -/
  held : ∀ s ∈ d.sessions, s.departure = none → s.connection.owesRollback = false → d.table.Calm s.connection.number
  /-- A session that has ended left its connection in the pool, or closed. -/
  departed : ∀ s ∈ d.sessions, ∀ e, s.departure = some e →
    e.returned = 1 ∧ e.closed = 0 ∧ e.spoiled = false ∨ e.returned = 0 ∧ e.closed = 1 ∧ s.connection.number ∈ d.table.closed
  /-- A connection is handed out again only if it went back to the pool. -/
  followed : ∀ (i j : Nat) (s t : Tenure), i < j → d.sessions[i]? = some s → d.sessions[j]? = some t →
    t.connection.number = s.connection.number → ∃ e, s.departure = some e ∧ e.closed = 0

theorem inv_start (src : Source) : (start src).Inv where
  accounted := List.Perm.nil
  idle := nofun
  held := nofun
  departed := nofun
  followed := nofun

/-- Sessions that go on have connections of their own. -/
theorem Inv.number_ne (h : d.Inv) {i : Nat} {t : Tenure} (hs : d.sessions[k]? = some s) (hheld : s.departure = none)
    (ht : d.sessions[i]? = some t) (hheld' : t.departure = none) (hne : i ≠ k) : t.connection.number ≠ s.connection.number := by
  intro hsame
  obtain hlt | hlt := Nat.lt_or_gt_of_ne hne
  · obtain ⟨e, he, -⟩ := h.followed i k t s hlt ht hs hsame.symm
    cases hheld'.symm.trans he
  · obtain ⟨e, he, -⟩ := h.followed k i s t hlt hs ht hsame
    cases hheld.symm.trans he

/-- What is idle is not the connection of a session that goes on. -/
theorem Inv.idle_ne (h : d.Inv) (hs : s ∈ d.sessions) (hheld : s.departure = none) :
    ∀ x ∈ d.source.pool.idle, ¬x.number = s.connection.number :=
  fun _ hx hsame => h.accounted.idle_notMem_owned hx (hsame ▸ mem_heldNumbers hs hheld)

/-- The connection of a session that goes on is settled, whatever befalls it next. -/
theorem Inv.settled_held (h : d.Inv) (hs : d.sessions[k]? = some s) (hheld : s.departure = none) (hazards : List Hazard) :
    Connection.Settled (s.connection, d.database hazards (.ok "")) :=
  h.held s (List.mem_of_getElem? hs) hheld

/-- How a session left stays true while no closed connection comes back. -/
theorem Inv.departed_mono (h : d.Inv) {v' : BackendTable} (hclosed : ∀ n ∈ d.table.closed, n ∈ v'.closed) (hs : s ∈ d.sessions)
    {e : Departure} (he : s.departure = some e) :
    e.returned = 1 ∧ e.closed = 0 ∧ e.spoiled = false ∨ e.returned = 0 ∧ e.closed = 1 ∧ s.connection.number ∈ v'.closed := by
  obtain hback | ⟨hreturned, hgone, hn⟩ := h.departed s hs e he
  · exact Or.inl hback
  · exact Or.inr ⟨hreturned, hgone, hclosed _ hn⟩

/-- An item of a list in which one was replaced. -/
theorem getElem?_set_cases {i : Nat} {t : Tenure} (h : (sessions.set k s')[i]? = some t) :
    i = k ∧ t = s' ∨ i ≠ k ∧ sessions[i]? = some t := by
  by_cases hi : i = k
  · subst hi
    have hlt : i < sessions.length := by simpa using (List.getElem?_eq_some_iff.1 h).1
    rw [List.getElem?_set_self hlt] at h
    exact Or.inl ⟨rfl, (Option.some.inj h).symm⟩
  · rw [List.getElem?_set_ne (Ne.symm hi)] at h
    exact Or.inr ⟨hi, h⟩

/-- An item of a list to which one was added. -/
theorem getElem?_append_cases {i : Nat} {t : Tenure} (h : (sessions ++ [s'])[i]? = some t) :
    i < sessions.length ∧ sessions[i]? = some t ∨ i = sessions.length ∧ t = s' := by
  obtain hlt | hge := Nat.lt_or_ge i sessions.length
  · rw [List.getElem?_append_left hlt] at h
    exact Or.inl ⟨hlt, h⟩
  · have hi : i < (sessions ++ [s']).length := (List.getElem?_eq_some_iff.1 h).1
    rw [List.length_append, List.length_singleton] at hi
    obtain rfl : i = sessions.length := by omega
    rw [List.getElem?_concat_length] at h
    exact Or.inr ⟨rfl, (Option.some.inj h).symm⟩

/-- What happens to one session. -/
theorem Inv.replace (h : d.Inv) (hs : d.sessions[k]? = some s) (hheld : s.departure = none) {source : Source} {v' : BackendTable}
    (hnumber : s'.connection.number = s.connection.number)
    (haccounted : Accounted (heldNumbers (d.sessions.set k s')) source.pool.idle v') (hidle : IdleClean source.pool.idle v')
    (hspares : Spares (· = s.connection.number) d.table v') (hclosed : ∀ n ∈ d.table.closed, n ∈ v'.closed)
    (hgoes : s'.departure = none → s'.connection.owesRollback = false → v'.Calm s'.connection.number)
    (hleft : ∀ e, s'.departure = some e →
      e.returned = 1 ∧ e.closed = 0 ∧ e.spoiled = false ∨ e.returned = 0 ∧ e.closed = 1 ∧ s'.connection.number ∈ v'.closed) :
    Inv { source, table := v', sessions := d.sessions.set k s' } := by
  refine ⟨haccounted, hidle, ?_, ?_, ?_⟩
  · intro t ht hheld' howes
    obtain ⟨i, hi⟩ := List.getElem?_of_mem ht
    obtain ⟨rfl, rfl⟩ | ⟨hne, hi⟩ := getElem?_set_cases hi
    · exact hgoes hheld' howes
    · exact hspares.calm (h.number_ne hs hheld hi hheld' hne) (h.held t (List.mem_of_getElem? hi) hheld' howes)
  · intro t ht e he
    obtain hmem | rfl := List.mem_or_eq_of_mem_set ht
    · exact h.departed_mono hclosed hmem he
    · exact hleft e he
  · intro i j t u hij ht hu hsame
    obtain ⟨rfl, rfl⟩ | ⟨-, hold⟩ := getElem?_set_cases ht <;> obtain ⟨rfl, rfl⟩ | ⟨-, hold'⟩ := getElem?_set_cases hu
    · omega
    · obtain ⟨e, he, -⟩ := h.followed i j s u hij hs hold' (hsame.trans hnumber)
      cases hheld.symm.trans he
    · exact h.followed i j t s hij hold hs (hnumber.symm.trans hsame)
    · exact h.followed i j t u hij hold hold' hsame

/-- A phase keeps the invariant, whatever fails. -/
theorem Inv.phase (h : d.Inv) (hs : d.sessions[k]? = some s) (hheld : s.departure = none) {w w' : FaultyDatabase} {c : Connection}
    (hw : w.table = d.table) (hturn : Connection.Turn (s.connection, w) (c, w')) :
    Inv { source := d.source, table := w'.table, sessions := d.sessions.set k { s with connection := c } } := by
  have hbeside : Beside s.connection.number d.table w'.table := hw ▸ hturn.beside
  have hidle := h.idle.spares hbeside.spares (h.idle_ne (List.mem_of_getElem? hs) hheld)
  refine h.replace hs hheld hturn.number ?_ hidle hbeside.spares ?_ ?_ ?_
  · rw [heldNumbers_set { s with connection := c } hs hheld hheld hturn.number]
    exact h.accounted.beside hbeside.opened hbeside.closed
  · intro n hn
    rw [hbeside.closed]
    exact hn
  · exact fun _ howes => hturn.settled howes
  · intro e he
    cases hheld.symm.trans he

/-- A connection that was given back went back once. -/
theorem departure_of_returned {t : Source × FaultyDatabase} {c : Connection} {n : Nat} (spoiled : Bool) (hnumber : c.number = n)
    (hidle : t.1.pool.idle = d.source.pool.idle ++ [c]) (hclosed : t.2.table.closed = d.table.closed) :
    d.departure n spoiled t = ⟨spoiled, 1, 0⟩ := by
  unfold departure
  rw [hidle, hclosed, List.map_append, List.count_append, List.map_singleton, hnumber, List.count_singleton_self,
    Nat.add_sub_cancel_left, Nat.sub_self]

/-- A connection that was closed was closed once. -/
theorem departure_of_closed {t : Source × FaultyDatabase} {n : Nat} (spoiled : Bool) (hidle : t.1.pool.idle = d.source.pool.idle)
    (hclosed : t.2.table.closed = n :: d.table.closed) : d.departure n spoiled t = ⟨spoiled, 0, 1⟩ := by
  unfold departure
  rw [hidle, hclosed, List.count_cons_self, Nat.add_sub_cancel_left, Nat.sub_self]

/-- The end of a session keeps the invariant. -/
theorem Inv.depart (h : d.Inv) (hs : d.sessions[k]? = some s) (hheld : s.departure = none) {spoiled : Bool}
    {t : Source × FaultyDatabase} (hleft : Left s.connection spoiled d.source d.table t.1 t.2.table) : (d.depart k s spoiled t).Inv := by
  have hclean : IdleClean d.source.pool.idle t.2.table := h.idle.spares hleft.spares (h.idle_ne (List.mem_of_getElem? hs) hheld)
  have hperm : ∀ e, (s.connection.number :: heldNumbers (d.sessions.set k { s with departure := some e })).Perm
      (heldNumbers d.sessions) :=
    fun e => heldNumbers_depart { s with departure := some e } hs hheld nofun
  have hopened := hleft.opened
  obtain ⟨hspoiled, c', hnumber, howes, hclean', hidle, hclosed⟩ | ⟨hidle, hclosed⟩ := hleft.ends
  · have hback : ∀ e, Accounted (s.connection.number :: heldNumbers (d.sessions.set k { s with departure := some e }))
        d.source.pool.idle t.2.table := fun e => (h.accounted.beside hopened hclosed).perm (hperm e)
    refine h.replace hs hheld rfl ?_ ?_ hleft.spares ?_ nofun ?_
    · rw [hidle]
      exact Accounted.keep (hnumber ▸ hback _)
    · rw [hidle]
      intro x hx
      obtain hx | hx := List.mem_append.1 hx
      · exact hclean x hx
      · obtain rfl := List.mem_singleton.1 hx
        exact ⟨howes, hnumber ▸ hclean'⟩
    · intro n hn
      rw [hclosed]
      exact hn
    · rintro e ⟨⟩
      rw [departure_of_returned spoiled hnumber hidle hclosed]
      exact Or.inl ⟨rfl, rfl, hspoiled⟩
  · have hgone : ∀ e, Accounted (s.connection.number :: heldNumbers (d.sessions.set k { s with departure := some e }))
        d.source.pool.idle d.table := fun e => h.accounted.perm (hperm e)
    refine h.replace hs hheld rfl ?_ ?_ hleft.spares ?_ nofun ?_
    · rw [hidle]
      exact (hgone _).drop.beside hopened hclosed
    · rw [hidle]
      exact hclean
    · intro n hn
      rw [hclosed]
      exact List.mem_cons_of_mem _ hn
    · rintro e ⟨⟩
      rw [departure_of_closed spoiled hidle hclosed, hclosed]
      exact Or.inr ⟨rfl, rfl, List.mem_cons_self⟩

/-- A session that goes on has a connection that is neither idle nor new. -/
theorem Inv.spared (h : d.Inv) (hs : s ∈ d.sessions) (hheld : s.departure = none) :
    ¬(s.connection.number ∈ d.source.pool.idle.map Connection.number ∨ d.table.opened ≤ s.connection.number) := by
  rintro (hidle | hnew)
  · obtain ⟨x, hx, hsame⟩ := List.mem_map.1 hidle
    exact h.idle_ne hs hheld x hx hsame
  · exact Nat.not_le_of_lt (h.accounted.lt_opened (List.mem_append_left _ (mem_heldNumbers hs hheld))) hnew

/-- A connection that is handed out is not that of a session that goes on, nor was it closed. -/
theorem Inv.followed_of_handedOut (h : d.Inv) {v' : BackendTable} (hclosed : ∀ n ∈ d.table.closed, n ∈ v'.closed)
    (haccounted : Accounted (c.number :: heldNumbers d.sessions) idle v') (hs : s ∈ d.sessions)
    (hsame : c.number = s.connection.number) : ∃ e, s.departure = some e ∧ e.closed = 0 := by
  cases hdeparture : s.departure with
  | none =>
    have hfresh : c.number ∉ heldNumbers d.sessions := (List.nodup_cons.1 (List.nodup_append.1 haccounted.nodup).1).1
    exact absurd (hsame ▸ mem_heldNumbers hs hdeparture) hfresh
  | some e =>
    obtain ⟨-, hopen, -⟩ | ⟨-, -, hgone⟩ := h.departed_mono hclosed hs hdeparture
    · exact ⟨e, rfl, hopen⟩
    · exact absurd (hsame ▸ List.mem_cons_self) (haccounted.closed_notMem_owned hgone)

/-- A session that is handed out, or not, keeps the invariant. -/
theorem Inv.handOut (h : d.Inv) {source : Source} {v' : BackendTable} {r : Option Connection}
    (hr : HandedOut (heldNumbers d.sessions) (fun m => m ∈ d.source.pool.idle.map Connection.number ∨ d.table.opened ≤ m) d.table r
      source.pool.idle v') :
    Inv { source, table := v', sessions := d.sessions ++ r.toList.map fun c => { connection := c } } := by
  have hheld : ∀ s ∈ d.sessions, s.departure = none → s.connection.owesRollback = false → v'.Calm s.connection.number :=
    fun s hs hnone howes => hr.spares.calm (h.spared hs hnone) (h.held s hs hnone howes)
  cases r with
  | none =>
    simp only [Option.toList_none, List.map_nil, List.append_nil]
    exact ⟨hr.accounted, hr.idle, hheld, fun s hs e he => h.departed_mono hr.closed hs he, h.followed⟩
  | some c =>
    obtain ⟨howes, hclean⟩ := hr.handed c rfl
    simp only [Option.toList_some, List.map_cons, List.map_nil]
    have haccounted : Accounted (c.number :: heldNumbers d.sessions) source.pool.idle v' := hr.accounted
    refine ⟨?_, hr.idle, ?_, ?_, ?_⟩
    · dsimp only
      rw [heldNumbers_concat]
      exact haccounted.perm (List.perm_append_singleton _ _)
    · intro t ht hnone howes'
      obtain ht | ht := List.mem_append.1 ht
      · exact hheld t ht hnone howes'
      · obtain rfl := List.mem_singleton.1 ht
        exact fun b hb => (hclean b hb).calm
    · intro t ht e he
      obtain ht | ht := List.mem_append.1 ht
      · exact h.departed_mono hr.closed ht he
      · obtain rfl := List.mem_singleton.1 ht
        cases he
    · intro i j t u hij ht hu hsame
      obtain ⟨hi, ht⟩ | ⟨hi, rfl⟩ := getElem?_append_cases ht <;> obtain ⟨hj, hu⟩ | ⟨hj, rfl⟩ := getElem?_append_cases hu
      · exact h.followed i j t u hij ht hu hsame
      · exact h.followed_of_handedOut hr.closed haccounted (List.mem_of_getElem? ht) hsame
      · omega
      · omega

/-- Every move keeps the invariant. -/
theorem Inv.step (h : d.Inv) (m : Move) : (d.step m).Inv := by
  cases m with
  | acquire hazards passwordFile =>
    exact h.handOut (Source.acquire_spec (w := d.database hazards passwordFile) h.accounted h.idle).2
  | phase k p rows hazards =>
    unfold SharedSource.step
    dsimp only
    cases hk : d.held? k with
    | none => exact h
    | some s =>
      obtain ⟨hs, hheld⟩ := getElem?_of_held? hk
      exact h.phase hs hheld rfl (Source.perform_turn d.source p rows (h.settled_held hs hheld hazards))
  | release k hazards =>
    unfold SharedSource.step
    dsimp only
    cases hk : d.held? k with
    | none => exact h
    | some s =>
      obtain ⟨hs, hheld⟩ := getElem?_of_held? hk
      exact h.depart hs hheld (Source.release_spec d.source (h.settled_held hs hheld hazards))
  | abandon k sent hazards =>
    unfold SharedSource.step
    dsimp only
    cases hk : d.held? k with
    | none => exact h
    | some s =>
      obtain ⟨hs, hheld⟩ := getElem?_of_held? hk
      have hsent := beside_sendAll d.source.statements s.connection.number sent (d.database hazards (.ok ""))
      exact h.depart hs hheld ((Source.abandon_spec d.source _ s.connection).after hsent)

theorem Inv.run (h : d.Inv) (moves : List Move) : (d.run moves).Inv := by
  induction moves generalizing d with
  | nil => exact h
  | cons m rest ih => exact ih (h.step m)

/-- What a source keeps in order, whatever its sessions and its server do. -/
structure Tidy (d : SharedSource) : Prop where
  /-- What lies idle has no staging table and no transaction. -/
  idle : ∀ c ∈ d.source.pool.idle, c.owesRollback = false ∧ d.table.Clean c.number
  /-- Neither has what is handed out. -/
  handedOut : ∀ hazards passwordFile c, ((Source.acquire d.server).run (d.source, d.database hazards passwordFile)).1 = .ok c →
    c.owesRollback = false ∧ ((Source.acquire d.server).run (d.source, d.database hazards passwordFile)).2.1.2.table.Clean c.number
  /-- The connection of a session that has ended went back to the pool once, or it was closed once. -/
  settled : ∀ s ∈ d.sessions, ∀ e, s.departure = some e → e.Settled
  /-- A session that is released ends so; if its staging table cannot be dropped, its connection is closed. -/
  released : ∀ k s hazards, d.held? k = some s → ∃ e, (d.step (.release k hazards)).sessions[k]? = some { s with departure := some e } ∧
    e.Settled ∧ (d.source.drops (d.database hazards (.ok "")) s.connection = false → e.closed = 1)
  /-- A session that is abandoned ends with its connection. -/
  abandoned : ∀ k s sent hazards, d.held? k = some s →
    ∃ e, (d.step (.abandon k sent hazards)).sessions[k]? = some { s with departure := some e } ∧ e.Settled ∧ e.closed = 1
  /-- A connection that was closed is never idle, nor handed out, again. -/
  gone : ∀ (i : Nat) (s : Tenure) (e : Departure), d.sessions[i]? = some s → s.departure = some e → e.closed = 1 →
    (∀ c ∈ d.source.pool.idle, c.number ≠ s.connection.number) ∧
      ∀ (j : Nat) (t : Tenure), i < j → d.sessions[j]? = some t → t.connection.number ≠ s.connection.number
  /-- Every connection is held by one session, idle, or closed. -/
  accounted : Accounted (heldNumbers d.sessions) d.source.pool.idle d.table

theorem Inv.settled (h : d.Inv) (hs : s ∈ d.sessions) {e : Departure} (he : s.departure = some e) :
    e.Settled ∧ (e.spoiled = true → e.closed = 1) := by
  obtain ⟨hreturned, hclosed, hspoiled⟩ | ⟨hreturned, hclosed, -⟩ := h.departed s hs e he
  · exact ⟨Or.inl ⟨hreturned, hclosed⟩, fun htrue => nomatch hspoiled.symm.trans htrue⟩
  · exact ⟨Or.inr ⟨hreturned, hclosed⟩, fun _ => hclosed⟩

/-- A session that ends is settled. -/
theorem Inv.settled_depart {spoiled : Bool} {t : Source × FaultyDatabase} (h : (d.depart k s spoiled t).Inv)
    (hs : d.sessions[k]? = some s) : ∃ e, (d.depart k s spoiled t).sessions[k]? = some { s with departure := some e } ∧ e.Settled ∧
      (spoiled = true → e.closed = 1) := by
  have hlt : k < d.sessions.length := (List.getElem?_eq_some_iff.1 hs).1
  have hself : (d.depart k s spoiled t).sessions[k]? =
      some { s with departure := some (d.departure s.connection.number spoiled t) } := List.getElem?_set_self hlt
  obtain ⟨hsettled, hspoiled⟩ := h.settled (List.mem_of_getElem? hself) rfl
  exact ⟨_, hself, hsettled, hspoiled⟩

theorem Inv.tidy (h : d.Inv) : d.Tidy where
  idle := h.idle
  handedOut hazards passwordFile c hc := by
    have hspec := (Source.acquire_spec (w := d.database hazards passwordFile) h.accounted h.idle).2
    exact hspec.handed c (congrArg Except.toOption hc)
  settled s hs e he := (h.settled hs he).1
  released k s hazards hk := by
    have hstep := h.step (.release k hazards)
    unfold SharedSource.step at hstep ⊢
    dsimp only at hstep ⊢
    rw [hk] at hstep ⊢
    obtain ⟨e, he, hsettled, hspoiled⟩ := hstep.settled_depart (getElem?_of_held? hk).1
    exact ⟨e, he, hsettled, fun hdrops => hspoiled (by rw [hdrops]; rfl)⟩
  abandoned k s sent hazards hk := by
    have hstep := h.step (.abandon k sent hazards)
    unfold SharedSource.step at hstep ⊢
    dsimp only at hstep ⊢
    rw [hk] at hstep ⊢
    obtain ⟨e, he, hsettled, hspoiled⟩ := hstep.settled_depart (getElem?_of_held? hk).1
    exact ⟨e, he, hsettled, hspoiled rfl⟩
  gone i s e hs he hclosed := by
    obtain ⟨-, hzero, -⟩ | ⟨-, -, hmem⟩ := h.departed s (List.mem_of_getElem? hs) e he
    · omega
    · refine ⟨fun c hc hsame => h.accounted.closed_notMem_idle hmem (hsame ▸ List.mem_map_of_mem hc), fun j t hij ht hsame => ?_⟩
      obtain ⟨e', he', hzero⟩ := h.followed i j s t hij hs ht hsame
      cases he.symm.trans he'
      omega
  accounted := h.accounted

/-- Whatever fails, a source is tidy after every run of its sessions. -/
theorem sessions_tidy (src : Source) (moves : List Move) : ((start src).run moves).Tidy :=
  ((inv_start src).run moves).tidy

/-- A session whose insert failed is cleaned up and handed out again; one whose staging table cannot be dropped is not. -/
example :
    let src : Source := { settings := {}, base := default, pool := { maxOpen := 1, maxIdle := 1, patience := .ofSeconds 1 } }
    let first : List Move := [.acquire [] (.ok ""), .phase 0 .createStaging [] [],
      .phase 0 .insertLabels [] [{}, { verdict := .refused }], .release 0 []]
    let second : List Move := [.acquire [] (.ok ""), .phase 1 .createStaging [] [], .release 1 [{ verdict := .refused }],
      .acquire [] (.ok "")]
    ((start src).run (first ++ second)).sessions =
      [⟨{ number := 0, owesRollback := true }, some ⟨false, 1, 0⟩⟩, ⟨{ number := 0 }, some ⟨true, 0, 1⟩⟩, ⟨{ number := 1 }, none⟩] := by
  decide +kernel

end SharedSource

end Intake
