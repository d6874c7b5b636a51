import Intake.Proofs.Postgres.Pool
import Mathlib.Data.List.Count

/-!
# Lending: connections that are given back at the same time

A connection goes back to the pool in steps. Its staging table is dropped, then it is asked whether there is room for it, then it gives a
sign of life, and only then it counts as idle. Batches and health checks that overlap act between these steps. `Lending` is a source with
any number of connections handed out, each at a step of its own; alone, a connection goes through its steps as `Source.release` and
`Source.ping` have it (`release_alone`, `check_alone`).

No more connections are open than may be. But several of them can find the same room, and all of these are kept: how many are idle
exceeds `maxIdle` by up to one less than the most that had found room at once and were not idle yet (`idle_bounded`), and can do so by
exactly that (`exists_run_overfull`). Two connections are enough to have more idle ones than `maxIdle` (`crossing_returns_overfill`).
-/

namespace Intake

variable {σ : Type} {svc : DatabaseServer σ} {c : Connection} {t : Source × σ}

/-! ## Loans -/

/-- A connection that was handed out, by what is to be done with it next. -/
inductive Loan where
  /-- A batch is written on it, and then its staging table is dropped. -/
  | batch (c : Connection)
  /-- It is to show that the server answers. -/
  | probe (c : Connection)
  /-- It is to be asked whether there is room for it. -/
  | offered (c : Connection)
  /-- There was room for it, and it is to give a sign of life. -/
  | admitted (c : Connection)
  /-- It is idle, or gone. -/
  | ended

namespace Loan

/-- Whether the connection is handed out still. -/
def isOut : Loan → Bool
  | .ended => false
  | _ => true

/-- Whether the connection has found room and is not idle yet. -/
def isAdmitted : Loan → Bool
  | .admitted _ => true
  | _ => false

/-- The next step on the way back. -/
def next (svc : DatabaseServer σ) : Loan → Act (Source × σ) Loan
  | .batch c => do
    let (src, _) ← Act.get
    match ← Source.onPool (Pool.withConnection c (Connection.ask svc (.query src.statements.dropStaging))) with
    | (.ok _, c) => return .offered c
    | (.error e, c) =>
      Act.report [.cleanupFailed e]
      Source.onPool (Pool.discard svc c)
      return .ended
  | .probe c => do
    let (_, c) ← Source.onPool (Pool.withConnection c (Connection.ask svc (.execute Source.probeStatement none)))
    return .offered c
  | .offered c => do
    let (src, _) ← Act.get
    if src.pool.isClosed || !src.pool.hasRoom then
      Source.onPool (Pool.discard svc c)
      return .ended
    else return .admitted c
  | .admitted c => do
    match ← Source.onPool (Pool.withConnection c (Connection.ask svc .sync)) with
    | (.ok _, c) =>
      Source.onPool (Pool.changePool (·.keep c))
      return .ended
    | (.error _, c) =>
      Source.onPool do
        Pool.changeServer (svc.cut c.number)
        Pool.changePool Pool.forget
      return .ended
  | .ended => return .ended

end Loan

/-- What is done with a connection that is handed out. -/
inductive Deed where
  /-- A phase of a batch. -/
  | phase (p : WritePhase) (rows : List StagedRow)
  /-- The next step on the way back. -/
  | next
  /-- A batch is abandoned. -/
  | abandon

def Deed.act (svc : DatabaseServer σ) : Deed → Loan → Act (Source × σ) Loan
  | .phase p rows, .batch c => do
    let (_, c) ← Source.phase svc c p rows
    return .batch c
  | .abandon, .batch c => do
    Source.abandon svc c
    return .ended
  | .next, l => l.next svc
  | _, l => return l

/-! ## Lendings -/

/-- A source with connections handed out. -/
structure Lending (σ : Type) where
  source : Source
  server : σ
  loans : List Loan := []
  /-- The most connections that had found room at once and were not idle yet. -/
  crowd : Nat := 0

namespace Lending

inductive Move (σ : Type) where
  /-- A connection is reserved for a batch. -/
  | reserve
  /-- A connection is reserved for a health check. -/
  | check
  /-- Something is done with the connection at a place. -/
  | deed (k : Nat) (d : Deed)
  /-- Something happens on the server. -/
  | meanwhile (change : σ → σ)

/-- After an act, with these loans. -/
def settle (l : Lending σ) (t : Source × σ) (loans : List Loan) : Lending σ :=
  { source := t.1, server := t.2, loans, crowd := max l.crowd (loans.countP Loan.isAdmitted) }

/-- A connection is handed out, and what becomes of it begins. -/
def lend (svc : DatabaseServer σ) (l : Lending σ) (begun : Connection → Loan) : Lending σ :=
  match (Source.acquire svc).run (l.source, l.server) with
  | (.ok c, t, _) => l.settle t (l.loans ++ [begun c])
  | (.error _, t, _) => l.settle t l.loans

def step (svc : DatabaseServer σ) (l : Lending σ) : Move σ → Lending σ
  | .reserve => l.lend svc .batch
  | .check => l.lend svc .probe
  | .deed k d =>
    match l.loans[k]? with
    | some x =>
      let (y, t, _) := (d.act svc x).run (l.source, l.server)
      l.settle t (l.loans.set k y)
    | none => l
  | .meanwhile change => { l with server := change l.server }

def run (svc : DatabaseServer σ) (l : Lending σ) (moves : List (Move σ)) : Lending σ := moves.foldl (step svc) l

/-- A source that was made from its settings, before a connection is handed out. -/
def start (s : PostgresSettings) (base : ConnectOptions) (server : σ) : Lending σ where
  source := { settings := s, base, pool := { maxOpen := s.maxOpenConns, maxIdle := s.maxIdleConns, patience := s.connectTimeout } }
  server

theorem new?_eq_start (s : PostgresSettings) (server : σ) :
    Source.new? s = s.connectOptions?.map fun base => (start s base server).source := by
  unfold Source.new?
  cases s.connectOptions? <;> rfl

end Lending

/-! ## One connection alone -/

namespace Loan

theorem run_next_full (h : (t.1.pool.isClosed || !t.1.pool.hasRoom) = true) :
    ((offered c).next svc).run t = (.ended, ({ t.1 with pool := t.1.pool.forget }, svc.terminate c.number t.2), []) := by
  rw [next, Act.run_get_bind]
  dsimp only
  rw [if_pos h]
  rfl

theorem run_next_room (h : (t.1.pool.isClosed || !t.1.pool.hasRoom) = false) :
    ((offered c).next svc).run t = (.admitted c, t, []) := by
  rw [next, Act.run_get_bind]
  dsimp only
  rw [h]
  rfl

/-- A connection goes back, from where it is asked whether there is room. -/
def goBack (svc : DatabaseServer σ) (x : Loan) : Act (Source × σ) Unit := do
  let x ← x.next svc
  let _ ← x.next svc

/-- With nothing in between, this is what the pool does with it. -/
theorem run_goBack (svc : DatabaseServer σ) (c : Connection) (t : Source × σ) :
    ((offered c).goBack svc).run t = (Source.onPool (Pool.giveBack svc c)).run t := by
  rw [goBack, Source.onPool, Act.run_on, Pool.giveBack, Act.run_get_bind]
  dsimp only
  cases hfull : t.1.pool.isClosed || !t.1.pool.hasRoom with
  | true =>
    rw [Act.run_bind_quiet (run_next_full hfull)]
    rfl
  | false =>
    rw [Act.run_bind_quiet (run_next_room hfull)]
    simp only [next, Act.run_bind, Source.onPool, Act.run_on, Bool.false_eq_true, if_false]
    rcases (Pool.withConnection c (Connection.ask svc .sync)).run (t.1.pool, t.2) with ⟨⟨r, c⟩, t, events⟩
    cases r with
    | ok n => simp [Pool.changePool]
    | error e => simp [Pool.changeServer, Pool.changePool]

theorem run_goBack_ended (svc : DatabaseServer σ) (t : Source × σ) : (ended.goBack svc).run t = ((), t, []) := rfl

/-- The way back of a connection. -/
def finish (svc : DatabaseServer σ) (x : Loan) : Act (Source × σ) Unit := do
  let x ← x.next svc
  x.goBack svc

/-- With nothing in between, the end of a batch is what ending its session is. -/
theorem run_finish_batch (svc : DatabaseServer σ) (c : Connection) (t : Source × σ) :
    ((batch c).finish svc).run t = (Source.release svc c).run t := by
  rw [finish, next, Source.release, Act.run_bind, Act.run_get_bind, Act.run_get_bind]
  dsimp only
  simp only [Act.run_bind]
  rcases (Source.onPool (Pool.withConnection c (Connection.ask svc (.query t.1.statements.dropStaging)))).run t with
    ⟨⟨r, c⟩, t', events⟩
  cases r with
  | ok n => simp [run_goBack]
  | error e => simp [run_goBack_ended]

/-- With nothing in between, a connection that is reserved for a health check and finds its way back is a health check. -/
theorem run_reserve_probe (svc : DatabaseServer σ) (t : Source × σ) :
    ((do
      match ← Source.acquire svc with
      | .ok c => (probe c).finish svc
      | .error _ => return () : Act (Source × σ) Unit).run t).2 = ((Source.ping svc).run t).2 := by
  unfold Source.acquire Source.ping
  simp only [Act.run_bind]
  rcases (Source.refresh svc).run t with ⟨refreshed, t, events⟩
  cases refreshed with
  | error e => simp
  | ok o =>
    simp only [Act.run_bind, Act.run_get]
    rcases (Source.onPool (Pool.acquire svc t.1.options)).run t with ⟨reserved, t, events'⟩
    cases reserved with
    | error e => simp [Except.mapError]
    | ok c =>
      simp only [Except.mapError, Act.run_pure, finish, next, Act.run_bind]
      rcases (Source.onPool (Pool.withConnection c (Connection.ask svc (.execute Source.probeStatement none)))).run t with
        ⟨⟨answer, c⟩, t, sent⟩
      cases answer with
      | ok n => simp [run_goBack]
      | error e => simp [run_goBack]

end Loan

namespace Lending

variable {l : Lending σ} {k : Nat} {x : Loan}

/-- Three steps of one connection in a row are its way back. -/
theorem run_finish (svc : DatabaseServer σ) (h : l.loans[k]? = some x) :
    ((l.run svc (List.replicate 3 (.deed k .next))).source, (l.run svc (List.replicate 3 (.deed k .next))).server) =
      ((x.finish svc).run (l.source, l.server)).2.1 := by
  have hk : k < l.loans.length := (List.getElem?_eq_some_iff.1 h).1
  have hset : ∀ y : Loan, (l.loans.set k y)[k]? = some y := fun y => List.getElem?_set_self hk
  simp only [run, List.replicate, List.foldl_cons, List.foldl_nil, step, h, hset, settle, List.set_set, Deed.act]
  rfl

/-- With nothing in between, a batch ends as its session does. -/
theorem release_alone (h : l.loans[k]? = some (.batch c)) :
    ((l.run svc (List.replicate 3 (.deed k .next))).source, (l.run svc (List.replicate 3 (.deed k .next))).server) =
      ((Source.release svc c).run (l.source, l.server)).2.1 := by
  rw [run_finish svc h, Loan.run_finish_batch]

/-- With nothing in between, a health check is that of the program. -/
theorem check_alone (svc : DatabaseServer σ) (l : Lending σ) :
    ((l.run svc (.check :: List.replicate 3 (.deed l.loans.length .next))).source,
        (l.run svc (.check :: List.replicate 3 (.deed l.loans.length .next))).server) =
      ((Source.ping svc).run (l.source, l.server)).2.1 := by
  rw [← Loan.run_reserve_probe, Act.run_bind, run, List.foldl_cons, step, lend]
  rcases (Source.acquire svc).run (l.source, l.server) with ⟨reserved, t, events⟩
  cases reserved with
  | error e => simp [settle, List.replicate, step]
  | ok c =>
    have hlent : (l.settle t (l.loans ++ [.probe c])).loans[l.loans.length]? = some (.probe c) := List.getElem?_concat_length
    have hfinish := run_finish svc hlent
    rw [run] at hfinish
    exact hfinish

end Lending

/-! ## Handing out -/

/-- What reserving a connection does to a pool: the one that is handed out was idle, or there was none idle and a new one may be open. -/
inductive Pool.Lends {ε : Type} (p : Pool) : Except ε Connection → Pool → Prop where
  | refused (e : ε) (idle : List Connection) (h : idle.length ≤ p.idle.length) : Lends p (.error e) { p with idle }
  | reused (c : Connection) (idle : List Connection) (h : idle.length < p.idle.length) :
    Lends p (.ok c) { p with idle, handedOut := p.handedOut + 1 }
  | opened (c : Connection) (h : p.handedOut < p.maxOpen) : Lends p (.ok c) { p with idle := [], handedOut := p.handedOut + 1 }

namespace Pool

variable {ε ε' : Type} {p p' : Pool} {r : Except ε Connection}

/-- The reason of a refusal does not matter. -/
theorem Lends.mapError (h : p.Lends r p') (f : ε → ε') : p.Lends (r.mapError f) p' := by
  cases h with
  | refused e idle h => exact .refused (f e) idle h
  | reused c idle h => exact .reused c idle h
  | opened c h => exact .opened c h

/-- Some that were idle gave no sign of life. -/
theorem Lends.of_rest {rest : List Connection} (h : Lends { p with idle := rest } r p') (hrest : rest.length ≤ p.idle.length) :
    p.Lends r p' := by
  cases h with
  | refused e idle h => exact .refused e idle (Nat.le_trans h hrest)
  | reused c idle h => exact .reused c idle (Nat.lt_of_lt_of_le h hrest)
  | opened c h => exact .opened c h

theorem Lends.limits (h : p.Lends r p') : p'.maxOpen = p.maxOpen ∧ p'.maxIdle = p.maxIdle := by
  cases h <;> exact ⟨rfl, rfl⟩

theorem Lends.idle_le (h : p.Lends r p') : p'.idle.length ≤ p.idle.length := by
  cases h with
  | refused e idle h => exact h
  | reused c idle h => exact Nat.le_of_lt h
  | opened c h => exact Nat.zero_le _

/-- One more is handed out, and no more are open than before or than may be. -/
theorem Lends.handedOut_of_ok {c : Connection} (h : p.Lends (Except.ok c : Except ε Connection) p') :
    p'.handedOut = p.handedOut + 1 ∧ p'.idle.length + p'.handedOut ≤ max p.maxOpen (p.idle.length + p.handedOut) := by
  cases h with
  | reused c idle h => exact ⟨rfl, by dsimp only; omega⟩
  | opened c h => exact ⟨rfl, by dsimp only [List.length_nil]; omega⟩

theorem Lends.handedOut_of_error {e : ε} (h : p.Lends (Except.error e : Except ε Connection) p') : p'.handedOut = p.handedOut := by
  cases h with
  | refused e idle h => rfl

theorem firstAlive_lends (svc : DatabaseServer σ) (o : ConnectOptions) (p : Pool) (s : σ) :
    (firstAlive svc o p.idle).Yields (p, s) fun r t => p.Lends r t.1 := by
  obtain ⟨maxOpen, maxIdle, patience, idle, handedOut, isClosed⟩ := p
  induction idle generalizing s with
  | nil =>
    unfold firstAlive openNew Act.Yields Act.run
    dsimp only
    by_cases hroom : handedOut < maxOpen
    · rw [if_pos hroom]
      rcases svc.connect o s with ⟨e | number, s'⟩
      · exact .refused e [] (Nat.le_refl _)
      · exact .opened _ hroom
    · rw [if_neg hroom]
      exact .refused _ [] (Nat.le_refl _)
  | cons c rest ih =>
    refine yields_firstAlive_cons ?_
    refine (show Act.Yields _ _ fun _ _ => True from trivial).mono fun r t _ => ⟨fun n _ => ?_, fun e _ => ?_⟩
    · exact .reused _ rest (Nat.lt_succ_self _)
    · exact (ih _).mono fun r t h => h.of_rest (Nat.le_succ _)

theorem acquire_lends (svc : DatabaseServer σ) (o : ConnectOptions) (p : Pool) (s : σ) :
    (acquire svc o).Yields (p, s) fun r t => p.Lends r t.1 :=
  yields_acquire (fun e => .refused e p.idle (Nat.le_refl _)) fun _ => firstAlive_lends svc o p s

end Pool

theorem Source.acquire_lends (svc : DatabaseServer σ) (t : Source × σ) :
    (acquire svc).Yields t fun r t' => t.1.pool.Lends r t'.1.pool := by
  refine yields_acquire (fun e src hpool _ => ?_) fun o => ?_
  · rw [hpool]
    exact .refused e t.1.pool.idle (Nat.le_refl _)
  · refine (Pool.acquire_lends svc o t.1.pool t.2).mono fun r t' h src hpool _ => ?_
    rw [hpool]
    exact h.mapError _

/-! ## Giving back -/

/-- What a step of a loan does to the pool. -/
inductive Loan.Passes (p : Pool) : Loan → Pool → Loan → Prop where
  | stays {x y : Loan} (out : y.isOut = x.isOut) (admitted : y.isAdmitted = x.isAdmitted) : Passes p x p y
  | enters (c : Connection) (h : p.hasRoom = true) : Passes p (.offered c) p (.admitted c)
  | kept (c c' : Connection) : Passes p (.admitted c) (p.keep c') .ended
  | gone {x : Loan} (out : x.isOut = true) : Passes p x p.forget .ended

namespace Loan

/-- An act on a connection leaves the pool alone. -/
theorem yields_beside {α : Type} (c : Connection) (a : Act (Connection × σ) α) (t : Source × σ) :
    (Source.onPool (Pool.withConnection c a)).Yields t fun _ t' => t'.1 = t.1 := rfl

theorem next_passes (svc : DatabaseServer σ) (x : Loan) (t : Source × σ) :
    (x.next svc).Yields t fun y t' => Passes t.1.pool x t'.1.pool y := by
  cases x with
  | batch c =>
    refine Act.yields_get_bind.2 ((yields_beside c _ t).bind fun answer t' h => ?_)
    obtain ⟨r, c'⟩ := answer
    rw [← h]
    cases r with
    | ok n => exact .stays rfl rfl
    | error e => exact .gone rfl
  | probe c =>
    refine (yields_beside c _ t).bind fun answer t' h => ?_
    rw [← h]
    exact .stays rfl rfl
  | offered c =>
    refine Act.yields_get_bind.2 ?_
    dsimp only
    cases hfull : t.1.pool.isClosed || !t.1.pool.hasRoom with
    | true => exact .gone rfl
    | false =>
      have hroom : t.1.pool.hasRoom = true := by simpa using (Bool.or_eq_false_iff.1 hfull).2
      exact .enters c hroom
  | admitted c =>
    refine (yields_beside c _ t).bind fun answer t' h => ?_
    obtain ⟨r, c'⟩ := answer
    rw [← h]
    cases r with
    | ok n => exact .kept c c'
    | error e => exact .gone rfl
  | ended => exact .stays rfl rfl

theorem deed_passes (svc : DatabaseServer σ) (d : Deed) (x : Loan) (t : Source × σ) :
    (d.act svc x).Yields t fun y t' => Passes t.1.pool x t'.1.pool y := by
  cases d with
  | next => exact next_passes svc x t
  | phase p rows =>
    cases x with
    | batch c =>
      have hphase : (Source.phase svc c p rows).Yields t fun _ t' => t'.1 = t.1 := rfl
      refine hphase.bind fun answer t' h => ?_
      rw [← h]
      exact .stays rfl rfl
    | _ => exact .stays rfl rfl
  | abandon =>
    cases x with
    | batch c => exact .gone rfl
    | _ => exact .stays rfl rfl

end Loan

/-! ## What bounds the pool -/

/-- How many loans have a property once one of them has changed. -/
theorem Loan.countP_set (f : Loan → Bool) {loans : List Loan} {k : Nat} {x : Loan} (h : loans[k]? = some x) (y : Loan) :
    (loans.set k y).countP f + (f x).toNat = loans.countP f + (f y).toNat := by
  obtain ⟨hk, rfl⟩ := List.getElem?_eq_some_iff.1 h
  have hpos : f loans[k] = true → 0 < loans.countP f := fun hf => List.countP_pos_iff.2 ⟨_, List.getElem_mem hk, hf⟩
  rw [List.countP_set hk]
  cases hx : f loans[k] with
  | true =>
    have hsome := hpos hx
    cases f y with
    | true => simp [Nat.sub_add_cancel hsome]
    | false => simp [Nat.sub_add_cancel hsome]
  | false => cases f y <;> simp

namespace Lending

/-- What holds of a pool and of what is handed out, where at most so many had found room at once and were not idle yet. -/
structure Sound (s : PostgresSettings) (p : Pool) (loans : List Loan) (crowd : Nat) : Prop where
  maxOpen : p.maxOpen = s.maxOpenConns
  maxIdle : p.maxIdle = s.maxIdleConns
  lent : p.handedOut = loans.countP Loan.isOut
  opened : p.idle.length + p.handedOut ≤ s.maxOpenConns
  admitted : loans.countP Loan.isAdmitted ≤ crowd
  /-- Those that have found room count as idle here. Who finds room sees the idle ones only, and not the others of its crowd. -/
  idle : p.idle.length + loans.countP Loan.isAdmitted ≤ s.maxIdleConns + (crowd - 1)

variable {s : PostgresSettings} {p p' : Pool} {loans : List Loan} {crowd : Nat} {k : Nat} {x y : Loan}

/-- A larger crowd allows for more. -/
theorem Sound.mono (h : Sound s p loans crowd) {crowd' : Nat} (hle : crowd ≤ crowd') : Sound s p loans crowd' := by
  have hidle := h.idle
  exact ⟨h.maxOpen, h.maxIdle, h.lent, h.opened, Nat.le_trans h.admitted hle, by omega⟩

/-- With one handed out, one more is out and none more has found room. -/
theorem Sound.lent_to (h : Sound s p loans crowd) (hlends : p.Lends (Except.ok c : Except StorageError Connection) p')
    (hout : x.isOut = true) (hadmitted : x.isAdmitted = false) : Sound s p' (loans ++ [x]) crowd := by
  obtain ⟨hmaxOpen, hmaxIdle⟩ := hlends.limits
  obtain ⟨hlent, hopen⟩ := hlends.handedOut_of_ok
  have hfewer := hlends.idle_le
  have hcountOut : (loans ++ [x]).countP Loan.isOut = loans.countP Loan.isOut + 1 := by simp [hout]
  have hcountAdmitted : (loans ++ [x]).countP Loan.isAdmitted = loans.countP Loan.isAdmitted := by simp [hadmitted]
  cases h
  constructor <;> omega

/-- A refusal leaves as many idle as before, or less. -/
theorem Sound.refused (h : Sound s p loans crowd) {e : StorageError}
    (hlends : p.Lends (Except.error e : Except StorageError Connection) p') : Sound s p' loans crowd := by
  obtain ⟨hmaxOpen, hmaxIdle⟩ := hlends.limits
  have hlent := hlends.handedOut_of_error
  have hfewer := hlends.idle_le
  cases h
  constructor <;> omega

/-- A step of a loan. Who finds room joins the crowd, and who becomes idle leaves it. -/
theorem Sound.passes (h : Sound s p loans crowd) (hk : loans[k]? = some x) (hpasses : Loan.Passes p x p' y) :
    Sound s p' (loans.set k y) (max crowd ((loans.set k y).countP Loan.isAdmitted)) := by
  have hout := Loan.countP_set Loan.isOut hk y
  have hadmitted := Loan.countP_set Loan.isAdmitted hk y
  obtain ⟨hmaxOpen, hmaxIdle, hlent, hopened, hcrowd, hidle⟩ := h
  cases hpasses with
  | stays hsame hsame' =>
    rw [hsame] at hout
    rw [hsame'] at hadmitted
    constructor <;> omega
  | enters c hroom =>
    have hfew : p.idle.length < p.maxIdle := of_decide_eq_true hroom
    simp only [Loan.isOut, Loan.isAdmitted, Bool.toNat_true, Bool.toNat_false] at hout hadmitted
    constructor <;> omega
  | kept c c' =>
    simp only [Loan.isOut, Loan.isAdmitted, Bool.toNat_true, Bool.toNat_false] at hout hadmitted
    have hlength : (p.keep c').idle.length = p.idle.length + 1 := List.length_append
    have hback : (p.keep c').handedOut = p.handedOut - 1 := rfl
    exact ⟨hmaxOpen, hmaxIdle, by omega, by omega, by omega, by omega⟩
  | gone hwas =>
    rw [hwas] at hout
    simp only [Loan.isOut, Loan.isAdmitted, Bool.toNat_true, Bool.toNat_false] at hout hadmitted
    have hback : p.forget.handedOut = p.handedOut - 1 := rfl
    have hsame : p.forget.idle = p.idle := rfl
    exact ⟨hmaxOpen, hmaxIdle, by omega, by rw [hsame]; omega, by omega, by rw [hsame]; omega⟩

/-- A lending whose pool and loans are sound. -/
def Inv (s : PostgresSettings) (l : Lending σ) : Prop := Sound s l.source.pool l.loans l.crowd

variable {l : Lending σ}

theorem inv_start (s : PostgresSettings) (base : ConnectOptions) (server : σ) : Inv s (start s base server) :=
  ⟨rfl, rfl, rfl, Nat.zero_le _, Nat.zero_le _, Nat.zero_le _⟩

theorem Inv.lend (h : l.Inv s) (svc : DatabaseServer σ) {begun : Connection → Loan} (hout : ∀ c, (begun c).isOut = true)
    (hadmitted : ∀ c, (begun c).isAdmitted = false) : Inv s (l.lend svc begun) := by
  have hlends : l.source.pool.Lends ((Source.acquire svc).run (l.source, l.server)).1
      ((Source.acquire svc).run (l.source, l.server)).2.1.1.pool := Source.acquire_lends svc (l.source, l.server)
  unfold Lending.lend
  generalize (Source.acquire svc).run (l.source, l.server) = q at hlends
  obtain ⟨r, t, events⟩ := q
  cases r with
  | error e => exact (Sound.refused h hlends).mono (Nat.le_max_left _ _)
  | ok c => exact (Sound.lent_to h hlends (hout c) (hadmitted c)).mono (Nat.le_max_left _ _)

theorem Inv.step (h : l.Inv s) (svc : DatabaseServer σ) (m : Move σ) : Inv s (l.step svc m) := by
  cases m with
  | reserve => exact h.lend svc (fun _ => rfl) fun _ => rfl
  | check => exact h.lend svc (fun _ => rfl) fun _ => rfl
  | deed k d =>
    unfold Lending.step
    dsimp only
    cases hk : l.loans[k]? with
    | none => exact h
    | some x => exact Sound.passes h hk (Loan.deed_passes svc d x (l.source, l.server))
  | meanwhile change => exact h

theorem Inv.run (h : l.Inv s) (svc : DatabaseServer σ) (moves : List (Move σ)) : Inv s (l.run svc moves) := by
  induction moves generalizing l with
  | nil => exact h
  | cons m rest ih => exact ih (h.step svc m)

/-- What bounds the connections of a pool that is used by many at once. -/
structure Bounded (s : PostgresSettings) (l : Lending σ) : Prop where
  /-- What the pool counts as handed out is what is handed out. -/
  lent : l.source.pool.handedOut = l.loans.countP Loan.isOut
  /-- No more are open than may be. -/
  opened : l.source.pool.idle.length + l.loans.countP Loan.isOut ≤ s.maxOpenConns
  /-- Each of a crowd but one can be idle beyond the bound. -/
  idle : l.source.pool.idle.length ≤ s.maxIdleConns + (l.crowd - 1)
  /-- Where connections find room one at a time, no more are idle than may be. -/
  single : l.crowd ≤ 1 → l.source.pool.idle.length ≤ s.maxIdleConns

/-- However batches and health checks are interleaved, and whatever the server does: the open connections are bounded by `maxOpen`, and the
idle ones by `maxIdle` and one less than the most that had found room at once and were not idle yet. -/
theorem idle_bounded (svc : DatabaseServer σ) (s : PostgresSettings) (base : ConnectOptions) (server : σ) (moves : List (Move σ)) :
    ((start s base server).run svc moves).Bounded s := by
  obtain ⟨-, -, hlent, hopened, hcrowd, hidle⟩ := (inv_start s base server).run svc moves
  refine ⟨hlent, ?_, ?_, ?_⟩ <;> omega

/-- A server that serves whatever it is asked, and numbers its connections. -/
def obliging : DatabaseServer Nat where
  connect _ n := (.ok n, n + 1)
  send _ _ n := (.ok 0, n)
  terminate _ n := n
  cut _ n := n
  passwordFile _ := .ok ""

/-- Two connections may be open, and one of them idle. -/
def narrow : PostgresSettings := { maxOpenConns := 2, maxIdleConns := 1 }

/-- Two batches that end together. -/
def crossing : List (Move Nat) :=
  [.reserve, .reserve, .deed 0 .next, .deed 1 .next, .deed 0 .next, .deed 1 .next, .deed 0 .next, .deed 1 .next]

/-- Both connections find the room for one, and both are idle then. -/
theorem crossing_returns_overfill :
    narrow.check = .ok () ∧
      ((start narrow default 0).run obliging crossing).source.pool.idle = [{ number := 0 }, { number := 1 }] ∧
      narrow.maxIdleConns < ((start narrow default 0).run obliging crossing).source.pool.idle.length := by
  decide +kernel

end Lending

/-! ## How many can be idle -/

namespace Lending

variable {s : PostgresSettings} {l : Lending Nat} {idle : List Connection} {entering offered : List Nat} {n : Nat}

/-- A connection is opened if none is idle and one more may be open. -/
theorem run_acquire_obliging {t : Source × Nat} {maxOpen maxIdle handedOut : Nat} {patience : Span}
    (hpool : t.1.pool = { maxOpen, maxIdle, patience, handedOut }) (hpatience : patience.nanos ≠ 0) (hroom : handedOut < maxOpen) :
    ∃ src events, src.pool = { maxOpen, maxIdle, patience, handedOut := handedOut + 1 } ∧
      (Source.acquire obliging).run t = (.ok { number := t.2 }, (src, t.2 + 1), events) := by
  have hrefresh : ∃ o src events, src.pool = t.1.pool ∧ (Source.refresh obliging).run t = (.ok o, (src, t.2), events) := by
    rw [Source.refresh, Act.run_get_bind]
    dsimp only
    by_cases hfile : t.1.settings.passwordFile = ""
    · rw [if_pos hfile]
      exact ⟨_, t.1, _, rfl, rfl⟩
    · rw [if_neg hfile]
      exact ⟨_, ((Source.onCredentials (Credentials.apply "")).run t).2.1.1, _, rfl, rfl⟩
  have hacquire : ∀ o, (Pool.acquire obliging o).run (t.1.pool, t.2) =
      (.ok { number := t.2 }, ({ maxOpen, maxIdle, patience, handedOut := handedOut + 1 }, t.2 + 1), []) := by
    intro o
    rw [hpool, Pool.acquire, Act.run_get_bind]
    simp only [hpatience, Bool.false_eq_true, if_false]
    simp only [Act.run, Pool.firstAlive, Pool.openNew, if_pos hroom, obliging]
  obtain ⟨o, src, events, hsame, hrefresh⟩ := hrefresh
  refine ⟨{ src with pool := { maxOpen, maxIdle, patience, handedOut := handedOut + 1 } }, events ++ [], rfl, ?_⟩
  refine Act.run_bind_eq hrefresh ?_
  dsimp only
  rw [Act.run_get_bind, Act.run_bind, Source.onPool, Act.run_on, hsame, hacquire]
  rfl

/-- Connections, by their numbers: these are idle, these have found room, and these are to be asked. -/
structure Arrayed (s : PostgresSettings) (l : Lending Nat) (idle : List Connection) (entering offered : List Nat) : Prop where
  pool : l.source.pool =
    { maxOpen := s.maxOpenConns, maxIdle := s.maxIdleConns, patience := s.connectTimeout, idle,
      handedOut := entering.length + offered.length }
  loans : l.loans = List.replicate idle.length .ended ++
    (entering.map (fun n => .admitted { number := n }) ++ offered.map fun n => .offered { number := n })

theorem Arrayed.countP (h : Arrayed s l idle entering offered) : l.loans.countP Loan.isAdmitted = entering.length := by
  simp [h.loans, List.countP_replicate, List.countP_map, Function.comp_def, Loan.isAdmitted]

theorem run_next_batch (n : Nat) (t : Source × Nat) :
    ((Loan.batch { number := n }).next obliging).run t = (.offered { number := n }, t, []) := rfl

theorem run_next_admitted (n : Nat) (t : Source × Nat) :
    ((Loan.admitted { number := n }).next obliging).run t =
      (.ended, ({ t.1 with pool := t.1.pool.keep { number := n } }, t.2), []) := rfl

/-- A step of the connection behind some others. -/
theorem step_next {before after : List Loan} {x y : Loan} {t : Source × Nat} {events : List Event} {k : Nat}
    (hrun : (x.next obliging).run (l.source, l.server) = (y, t, events)) (hloans : l.loans = before ++ x :: after)
    (hk : before.length = k) : l.step obliging (.deed k .next) = l.settle t (before ++ y :: after) := by
  subst hk
  have hx : l.loans[before.length]? = some x := by simp [hloans]
  have hset : l.loans.set before.length y = before ++ y :: after := by simp [hloans, List.set_append_right]
  simp only [step, hx, Deed.act, hrun, hset]

/-- After an act the crowd is what it was, or as many as have found room then. -/
theorem Arrayed.with_crowd {t : Source × Nat} {loans : List Loan} (h : Arrayed s (l.settle t loans) idle entering offered) :
    Arrayed s (l.settle t loans) idle entering offered ∧ (l.settle t loans).crowd = max l.crowd entering.length :=
  ⟨h, congrArg (max l.crowd) h.countP⟩

/-- A connection more is reserved, and is to be asked. -/
theorem Arrayed.offer (h : Arrayed s l [] [] offered) (hpatience : s.connectTimeout.nanos ≠ 0)
    (hroom : offered.length < s.maxOpenConns) :
    ∃ n moves, Arrayed s (l.run obliging moves) [] [] (offered ++ [n]) ∧ (l.run obliging moves).crowd = l.crowd := by
  obtain ⟨src, events, hpool, hacquire⟩ :=
    run_acquire_obliging (t := (l.source, l.server)) h.pool hpatience (by simpa using hroom)
  have hlend : l.step obliging .reserve = l.settle (src, l.server + 1) (l.loans ++ [.batch { number := l.server }]) := by
    simp only [step, lend, hacquire]
  have hcrowd : (l.settle (src, l.server + 1) (l.loans ++ [.batch { number := l.server }])).crowd = l.crowd := by
    simp [settle, h.countP, Loan.isAdmitted]
  refine ⟨l.server, [.reserve, .deed l.loans.length .next], ?_⟩
  rw [run, List.foldl_cons, List.foldl_cons, List.foldl_nil, hlend, step_next (run_next_batch l.server _) rfl rfl, ← hcrowd]
  refine And.imp_right (fun hmax => hmax.trans (Nat.max_zero _)) (Arrayed.with_crowd ⟨?_, ?_⟩)
  · simp [settle, hpool]
  · simp [settle, h.loans]

/-- Who is asked while there is room finds it. -/
theorem Arrayed.admit (h : Arrayed s l idle entering (n :: offered)) (hroom : idle.length < s.maxIdleConns) :
    ∃ m, Arrayed s (l.step obliging m) idle (entering ++ [n]) offered ∧
      (l.step obliging m).crowd = max l.crowd (entering ++ [n]).length := by
  have hopen : (l.source.pool.isClosed || !l.source.pool.hasRoom) = false := by simp [h.pool, Pool.hasRoom, hroom]
  have hstep := step_next (k := idle.length + entering.length) (Loan.run_next_room (t := (l.source, l.server)) hopen)
    (by rw [h.loans, List.map_cons, ← List.append_assoc]) (by simp)
  refine ⟨.deed (idle.length + entering.length) .next, ?_⟩
  rw [hstep]
  refine Arrayed.with_crowd ⟨?_, by simp [settle]⟩
  simp +arith [settle, h.pool]

/-- Who has found room is idle in the end. -/
theorem Arrayed.keep (h : Arrayed s l idle (n :: entering) offered) :
    ∃ m, Arrayed s (l.step obliging m) (idle ++ [{ number := n }]) entering offered ∧
      (l.step obliging m).crowd = max l.crowd entering.length := by
  have hstep := step_next (k := idle.length) (run_next_admitted n (l.source, l.server)) h.loans (by simp)
  refine ⟨.deed idle.length .next, ?_⟩
  rw [hstep]
  refine Arrayed.with_crowd ⟨?_, ?_⟩
  · simp [settle, h.pool, Pool.keep]
  · simp [settle, List.replicate_succ']

/-- Some connections are reserved one after the other, and are to be asked. -/
theorem exists_offered (s : PostgresSettings) (base : ConnectOptions) (hpatience : s.connectTimeout.nanos ≠ 0) {n : Nat}
    (hn : n ≤ s.maxOpenConns) :
    ∃ moves offered, offered.length = n ∧ Arrayed s ((start s base 0).run obliging moves) [] [] offered ∧
      ((start s base 0).run obliging moves).crowd = 0 := by
  induction n with
  | zero => exact ⟨[], [], rfl, ⟨rfl, rfl⟩, rfl⟩
  | succ n ih =>
    obtain ⟨moves, offered, hlength, harrayed, hcrowd⟩ := ih (Nat.le_of_succ_le hn)
    obtain ⟨number, more, hnext, hsame⟩ := harrayed.offer hpatience (by omega)
    refine ⟨moves ++ more, offered ++ [number], by simp [hlength], ?_⟩
    rw [run, List.foldl_append]
    exact ⟨hnext, hsame.trans hcrowd⟩

/-- While there is room for all of them, connections come back one after the other. -/
theorem Arrayed.exists_kept {first : List Nat} (h : Arrayed s l idle [] (first ++ offered))
    (hroom : idle.length + first.length ≤ s.maxIdleConns) :
    ∃ moves, Arrayed s (l.run obliging moves) (idle ++ first.map fun n => { number := n }) [] offered ∧
      (l.run obliging moves).crowd ≤ max l.crowd 1 := by
  induction first generalizing l idle with
  | nil => exact ⟨[], by simpa [run] using h, Nat.le_max_left _ _⟩
  | cons n rest ih =>
    rw [List.length_cons] at hroom
    obtain ⟨m, hadmitted, hcrowd⟩ := h.admit (by omega)
    obtain ⟨m', hkept, hcrowd'⟩ := hadmitted.keep
    obtain ⟨moves, harrayed, hle⟩ := ih hkept (by rw [List.length_append, List.length_singleton]; omega)
    refine ⟨m :: m' :: moves, by simpa [run] using harrayed, Nat.le_trans hle ?_⟩
    rw [hcrowd', hcrowd]
    simp

/-- While there is room for one, all that are asked find it. -/
theorem Arrayed.exists_admitted (h : Arrayed s l idle entering offered) (hroom : idle.length < s.maxIdleConns)
    (hcrowd : entering.length ≤ l.crowd) :
    ∃ moves, Arrayed s (l.run obliging moves) idle (entering ++ offered) [] ∧
      (l.run obliging moves).crowd = max l.crowd (entering ++ offered).length := by
  induction offered generalizing l entering with
  | nil =>
    rw [List.append_nil]
    exact ⟨[], h, (Nat.max_eq_left hcrowd).symm⟩
  | cons n rest ih =>
    obtain ⟨m, hadmitted, hcrowd⟩ := h.admit hroom
    obtain ⟨moves, harrayed, hall⟩ := ih hadmitted (hcrowd ▸ Nat.le_max_right _ _)
    refine ⟨m :: moves, by simpa [run] using harrayed, ?_⟩
    rw [run, List.foldl_cons]
    refine hall.trans ?_
    rw [hcrowd]
    simp

/-- All that have found room are idle in the end. -/
theorem Arrayed.exists_idle (h : Arrayed s l idle entering offered) (hcrowd : entering.length ≤ l.crowd) :
    ∃ moves, Arrayed s (l.run obliging moves) (idle ++ entering.map fun n => { number := n }) [] offered ∧
      (l.run obliging moves).crowd = l.crowd := by
  induction entering generalizing l idle with
  | nil => exact ⟨[], by simpa [run] using h, rfl⟩
  | cons n rest ih =>
    rw [List.length_cons] at hcrowd
    obtain ⟨m, hkept, hsame⟩ := h.keep
    rw [Nat.max_eq_left (by omega)] at hsame
    obtain ⟨moves, harrayed, hall⟩ := ih hkept (by omega)
    exact ⟨m :: moves, by simpa [run] using harrayed, hall.trans hsame⟩

/-- With a server that obliges, the bound on the idle connections is reached by every crowd for which enough connections may be open. -/
theorem exists_run_overfull (s : PostgresSettings) (base : ConnectOptions) (hpatience : s.connectTimeout.nanos ≠ 0)
    (hidle : 0 < s.maxIdleConns) {k : Nat} (hk : 0 < k) (hopen : s.maxIdleConns + (k - 1) ≤ s.maxOpenConns) :
    ∃ moves, ((start s base 0).run obliging moves).crowd = k ∧
      ((start s base 0).run obliging moves).source.pool.idle.length = s.maxIdleConns + (k - 1) := by
  obtain ⟨reserving, offered, hlength, hoffered, hnone⟩ := exists_offered s base hpatience hopen
  obtain ⟨first, rest, rfl, hfirst⟩ : ∃ first rest, offered = first ++ rest ∧ first.length = s.maxIdleConns - 1 := by
    refine ⟨_, _, (List.take_append_drop (s.maxIdleConns - 1) offered).symm, ?_⟩
    rw [List.length_take]
    omega
  have hrest : rest.length = k := by
    rw [List.length_append] at hlength
    omega
  obtain ⟨keeping, hkept, hone⟩ := hoffered.exists_kept (by rw [List.length_nil]; omega)
  have hroom : ([] ++ first.map fun n => ({ number := n } : Connection)).length < s.maxIdleConns := by
    rw [List.nil_append, List.length_map]
    omega
  obtain ⟨entering, hentered, hcrowd⟩ := hkept.exists_admitted hroom (Nat.zero_le _)
  obtain ⟨coming, hcame, hsame⟩ := hentered.exists_idle (by rw [hcrowd]; exact Nat.le_max_right _ _)
  refine ⟨reserving ++ (keeping ++ (entering ++ coming)), ?_⟩
  rw [run, List.foldl_append, List.foldl_append, List.foldl_append]
  refine ⟨hsame.trans ?_, (congrArg (fun p => p.idle.length) hcame.pool).trans ?_⟩
  · rw [hcrowd, List.nil_append, hrest]
    omega
  · simp only [List.nil_append, List.length_append, List.length_map, hfirst, hrest]
    omega

end Lending

end Intake
