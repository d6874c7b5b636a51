import Intake.Leadership.Rounds
import Intake.Proofs.Leadership.Safety

/-!
# Turns: a round and a look at the traffic, side by side

Rounds of an election and looks at the traffic are held by two tasks, and either can be suspended wherever it waits: for its turn,
or for an answer of the server. `Elector` is an instance in the midst of both, on a server that others use as well; a move carries
one of the two on to the next place where it can be suspended, or lets something happen on the server. A round that is not
disturbed is `Rounds.run` (`round_alone`), and a look at the traffic that is not disturbed is `Rounds.checkIdle` (`look_alone`).

The turn itself is not kept: who is past waiting for it has it.
-/

namespace Intake

open AdvisoryLock

/-! ## One request at a time -/

namespace FaultyServer

/-- Only the first mishap befalls a request for a session. -/
theorem connect_one (t : LockTable) (ms : List Mishap) :
    connect ⟨t, ms⟩ =
      ((connect ⟨t, [ms.headD {}]⟩).1, ⟨(connect ⟨t, [ms.headD {}]⟩).2.table, ms.tail⟩) := by
  unfold connect next
  simp only [List.headD_cons]
  cases (ms.headD {}).fate <;> rfl

/-- Only the first mishap befalls a statement. -/
theorem statement_one {α : Type} (s : Nat) (effect : LockTable → α × LockTable) (t : LockTable) (ms : List Mishap) :
    statement s effect ⟨t, ms⟩ =
      ((statement s effect ⟨t, [ms.headD {}]⟩).1,
        ⟨(statement s effect ⟨t, [ms.headD {}]⟩).2.table, ms.tail⟩) := by
  unfold statement next
  simp only [List.headD_cons]
  by_cases hl : (t.endAll (ms.headD {}).ends).Live s
  · simp only [hl, if_true]
    cases (ms.headD {}).fate <;> rfl
  · simp only [hl, if_false]

theorem ask_one (l : AdvisoryLock) (s : Nat) (confirming : Bool) (t : LockTable) (ms : List Mishap) :
    l.ask service s confirming ⟨t, ms⟩ =
      ((l.ask service s confirming ⟨t, [ms.headD {}]⟩).1, ⟨(l.ask service s confirming ⟨t, [ms.headD {}]⟩).2.table, ms.tail⟩) := by
  cases confirming with
  | true => exact congrArg (fun r => (r.1.map fun _ => true, r.2)) (statement_one s (fun v => ((), v)) t ms)
  | false => exact statement_one s (LockTable.take s l.lockId) t ms

end FaultyServer

/-! ## Places where a task can be suspended -/

/-- A look at the traffic: the time without a batch and the time that is allowed. -/
structure Look where
  idle : Span
  timeout : Span
  deriving DecidableEq

/-- Whether there was no traffic for too long. -/
def Look.tooLong (k : Look) : Bool := decide (k.timeout < k.idle)

/-- Where a round stands. -/
inductive RoundPhase where
  | idle
  /-- It waits for its turn. -/
  | waiting
  /-- It has its turn and has not looked yet whether there is a pause. -/
  | entered
  /-- A request is on its way. -/
  | asking (w : Waiting)
  /-- The answer to the request for a session is on its way. -/
  | opened (answer : Except StorageError Nat)
  /-- The answer to a check is on its way. -/
  | answered (session : Nat) (answer : Except DatabaseFault Bool)

/-- Whether a round has its turn. -/
def RoundPhase.hasTurn : RoundPhase → Bool
  | .idle | .waiting => false
  | _ => true

/-- Whether a round is past the pause, between its first request and the last answer. -/
def RoundPhase.competes : RoundPhase → Bool
  | .idle | .waiting | .entered => false
  | _ => true

/-- Where a look at the traffic stands that found too little. -/
inductive LookPhase where
  | idle
  /-- It waits for its turn. -/
  | waiting (k : Look)
  | entered (k : Look)
  /-- The pause has begun. -/
  | resigning (k : Look)
  /-- The request to give the lock back is on its way. -/
  | unlocking (session : Nat) (k : Look)
  /-- The answer to it is on its way. -/
  | unlocked (session : Nat) (answer : Except DatabaseFault Bool) (k : Look)

/-- The look at the traffic that is under way. -/
def LookPhase.about? : LookPhase → Option Look
  | .idle => none
  | .waiting k | .entered k | .resigning k | .unlocking _ k | .unlocked _ _ k => some k

def LookPhase.hasTurn : LookPhase → Bool
  | .idle | .waiting _ => false
  | _ => true

/-- Whether the pause has begun. -/
def LookPhase.pauses : LookPhase → Bool
  | .idle | .waiting _ | .entered _ => false
  | _ => true

/-- Whether the lock is being given back. -/
def LookPhase.unlocks : LookPhase → Bool
  | .unlocking _ _ | .unlocked _ _ _ => true
  | _ => false

/-- An instance whose rounds and looks at the traffic go on side by side. -/
structure Elector where
  rounds : Rounds := {}
  lock : AdvisoryLock
  table : LockTable := {}
  /-- The sessions that the instance had opened. -/
  mine : List Nat := []
  round : RoundPhase := .idle
  look : LookPhase := .idle
  /-- The last look at the traffic that is over. -/
  last : Option Look := none
  /-- What rounds asked of the server, the last request first. -/
  asked : List Waiting := []

namespace Elector

/-- The server while one request is on its way. -/
def server (e : Elector) (m : Mishap) : FaultyServer := ⟨e.table, [m]⟩

/-- A session is asked for; the server may open one without its number ever arriving. -/
def connect (e : Elector) (m : Mishap) : Elector :=
  let (answer, v) := (e.server m).connect
  { e with
    table := v.table
    mine := if v.table.opened = e.table.opened then e.mine else e.table.opened :: e.mine
    round := .opened answer }

/-- A check arrives at the server. -/
def ask (e : Elector) (session : Nat) (confirming : Bool) (m : Mishap) : Elector :=
  let (answer, v) := e.lock.ask FaultyServer.service session confirming (e.server m)
  { e with table := v.table, round := .answered session answer }

/-- A round makes a request. -/
def request (e : Elector) (w : Waiting) (lock : AdvisoryLock) : Elector :=
  { e with lock, round := .asking w, asked := w :: e.asked }

/-- A round is over. -/
def settle (e : Elector) (result : Except ElectionError Bool) (lock : AdvisoryLock) (table : LockTable) : Elector :=
  { e with lock, table, rounds := (e.rounds.settle (toString lock.lockId) result).1, round := .idle }

/-- Carries the round on, or begins one. -/
def advanceRound (e : Elector) (m : Mishap) : Elector :=
  match e.round with
  | .idle => { e with round := .waiting }
  | .waiting => if e.look.hasTurn then e else { e with round := .entered }
  | .entered => if e.rounds.paused then { e with round := .idle } else e.request e.lock.beginCompete.1 e.lock.beginCompete.2
  | .asking .connect => e.connect m
  | .opened (.ok session) => e.request (e.lock.checkOn session) e.lock
  | .opened (.error cause) => e.settle (e.lock.connectFailed cause).1 (e.lock.connectFailed cause).2.1 e.table
  | .asking (.check session confirming) => e.ask session confirming m
  | .answered session answer =>
    -- A session that failed is closed.
    e.settle (e.lock.checked session answer).1 (e.lock.checked session answer).2.1
      (if answer.isOk then e.table else e.table.endSession session)

/-- Begins a look at the traffic, unless one is under way. One that found enough ends the pause without waiting for a turn. -/
def beginLook (e : Elector) (k : Look) : Elector :=
  match e.look with
  | .idle => if k.tooLong then { e with look := .waiting k } else { e with rounds := e.rounds.resume.1, last := some k }
  | _ => e

/-- The request to give the lock back arrives at the server. -/
def unlock (e : Elector) (session : Nat) (k : Look) (m : Mishap) : Elector :=
  let (answer, v) := FaultyServer.service.unlock session e.lock.lockId (e.server m)
  { e with table := v.table, look := .unlocked session answer k }

/-- A look at the traffic is over. -/
def conclude (e : Elector) (k : Look) (lock : AdvisoryLock) (table : LockTable) : Elector :=
  { e with lock, table, look := .idle, last := some k }

/-- Carries the look at the traffic on. -/
def advanceLook (e : Elector) (m : Mishap) : Elector :=
  match e.look with
  | .idle => e
  | .waiting k => if e.round.hasTurn then e else { e with look := .entered k }
  | .entered k => { e with rounds := (e.rounds.pause k.idle k.timeout).1, look := .resigning k }
  | .resigning k =>
    match e.lock.beginResign with
    | (some session, lock, _) => { e with lock, look := .unlocking session k }
    | (none, lock, _) => e.conclude k lock e.table
  | .unlocking session k => e.unlock session k m
  | .unlocked session answer k =>
    e.conclude k (e.lock.unlocked answer).2.1 (if answer.isOk then e.table else e.table.endSession session)

/-- What can happen next. -/
inductive Move where
  /-- The round goes on, or one begins. -/
  | round (m : Mishap)
  | beginLook (k : Look)
  | look (m : Mishap)
  /-- Somebody else opens a session. -/
  | open
  /-- A session of somebody else tries to take the lock. -/
  | take (session : Nat)
  | giveBack (session : Nat)
  /-- The server ends a session. -/
  | lose (session : Nat)

def step (e : Elector) : Move → Elector
  | .round m => e.advanceRound m
  | .beginLook k => e.beginLook k
  | .look m => e.advanceLook m
  | .open => { e with table := { e.table with opened := e.table.opened + 1 } }
  | .take s => if s ∈ e.mine ∨ ¬e.table.Live s then e else { e with table := (LockTable.take s e.lock.lockId e.table).2 }
  | .giveBack s => if s ∈ e.mine ∨ ¬e.table.Live s then e else { e with table := (LockTable.giveBack s e.lock.lockId e.table).2 }
  | .lose s => { e with table := e.table.endSession s }

def run (e : Elector) (moves : List Move) : Elector := moves.foldl step e

/-- An instance before its first round, on a server without sessions. -/
def start (lockId : Int) : Elector := { lock := { lockId } }

/-! ## Undisturbed -/

/-- What an instance has left of a round or a look at the traffic. -/
def outcome (e : Elector) : Rounds × AdvisoryLock × LockTable := (e.rounds, e.lock, e.table)

/-- What is left after an act on the rounds of an instance. -/
def outcomeOf {α : Type} (a : Act (Rounds × AdvisoryLock × FaultyServer) α) (e : Elector) (ms : List Mishap) :
    Rounds × AdvisoryLock × LockTable :=
  let (rounds, lock, server) := (a.run (e.rounds, e.lock, ⟨e.table, ms⟩)).2.1
  (rounds, lock, server.table)

/-- A check whose request and answer are not disturbed, to the end of its round. -/
theorem run_check {e : Elector} {s : Nat} {confirming : Bool} (h : e.round = .asking (.check s confirming)) (ms : List Mishap)
    {q : Except ElectionError Bool × (AdvisoryLock × FaultyServer) × List Event}
    (hq : check FaultyServer.service s confirming (e.lock, ⟨e.table, ms⟩) = q) :
    (e.advanceRound (ms.headD {})).advanceRound {} = { e.settle q.1 q.2.1.1 q.2.1.2.table with round := .idle } := by
  have hasked : e.advanceRound (ms.headD {}) = e.ask s confirming (ms.headD {}) := by simp only [advanceRound, h]
  unfold check at hq
  dsimp only at hq
  rw [FaultyServer.ask_one] at hq
  rw [hasked]
  unfold Elector.ask server
  generalize e.lock.ask FaultyServer.service s confirming ⟨e.table, [ms.headD {}]⟩ = a at hq
  obtain ⟨answer, v⟩ := a
  subst hq
  cases answer <;> rfl

/-- A round that is not disturbed is a round. -/
theorem round_alone (e : Elector) (ms : List Mishap) (hround : e.round = .idle) (hlook : e.look.hasTurn = false) :
    ∃ requests : List Mishap, (e.run (requests.map .round)).round = .idle ∧
      (e.run (requests.map .round)).outcome = outcomeOf (Rounds.run (candidate FaultyServer.service)) e ms := by
  -- The round begins and gets its turn at once.
  have hentered : (e.advanceRound {}).advanceRound {} = { e with round := .entered } := by
    simp only [advanceRound, hround, hlook, Bool.false_eq_true, if_false]
  cases hpaused : e.rounds.paused with
  | true =>
    refine ⟨[{}, {}, {}], ?_⟩
    have hskipped : ({ e with round := .entered } : Elector).advanceRound {} = { e with round := .idle } := by
      simp only [advanceRound, hpaused, if_true]
    simp only [List.map, run, List.foldl, step, hentered, hskipped, outcomeOf, Act.run, Rounds.run, hpaused, if_true]
    exact ⟨trivial, rfl⟩
  | false =>
    have hasks : ({ e with round := .entered } : Elector).advanceRound {} =
        { e with round := .entered }.request e.lock.beginCompete.1 e.lock.beginCompete.2 := by
      simp only [advanceRound, hpaused, Bool.false_eq_true, if_false]
    have hrun : outcomeOf (Rounds.run (candidate FaultyServer.service)) e ms = outcomeOf
        (fun q =>
          let answered := compete FaultyServer.service q.2
          let settled := q.1.settle (toString answered.2.1.1.lockId) answered.1
          (answered.1, (settled.1, answered.2.1), answered.2.2 ++ settled.2)) e ms := by
      simp only [outcomeOf, Act.run, Rounds.run, hpaused, Bool.false_eq_true, if_false]
      rfl
    rw [hrun]
    cases hslot : e.lock.session with
    | some s =>
      have hbegin : e.lock.beginCompete = (.check s (decide (e.lock.status = .leader)), { e.lock with session := none }) := by
        simp only [beginCompete, hslot, checkOn]
      have hcompete : compete FaultyServer.service (e.lock, ⟨e.table, ms⟩) =
          check FaultyServer.service s (decide (e.lock.status = .leader)) ({ e.lock with session := none }, ⟨e.table, ms⟩) := by
        simp only [compete, hbegin]
      refine ⟨[{}, {}, {}, ms.headD {}, {}], ?_⟩
      simp only [List.map, run, List.foldl, step, hentered, hasks, hbegin, outcomeOf, Act.run, hcompete]
      rw [run_check rfl ms rfl]
      exact ⟨rfl, rfl⟩
    | none =>
      have hbegin : e.lock.beginCompete = (.connect, e.lock) := by simp only [beginCompete, hslot]
      have hserver : FaultyServer.service.connect ⟨e.table, ms⟩ = _ :=
        congrArg (fun r : _ × FaultyServer => (r.1, r.2, ([] : List Event))) (FaultyServer.connect_one e.table ms)
      generalize hr : FaultyServer.connect ⟨e.table, [ms.headD {}]⟩ = r at hserver
      obtain ⟨answer, v⟩ := r
      let connected : Elector := { { e with round := .entered }.request .connect e.lock with
        table := v.table
        mine := if v.table.opened = e.table.opened then e.mine else e.table.opened :: e.mine
        round := .opened answer }
      have hopened : ({ e with round := .entered }.request .connect e.lock).advanceRound (ms.headD {}) = connected := by
        simp only [advanceRound, request, Elector.connect, server, hr]
        rfl
      cases answer with
      | error cause =>
        have hcompete : compete FaultyServer.service (e.lock, ⟨e.table, ms⟩) =
            ((e.lock.connectFailed cause).1, ((e.lock.connectFailed cause).2.1, ⟨v.table, ms.tail⟩),
              [] ++ (e.lock.connectFailed cause).2.2) := by
          simp only [compete, hbegin, hserver]
        refine ⟨[{}, {}, {}, ms.headD {}, {}], ?_⟩
        simp only [List.map, run, List.foldl, step, hentered, hasks, hbegin, hopened, outcomeOf, Act.run, hcompete]
        exact ⟨rfl, rfl⟩
      | ok s =>
        generalize hcheck : check FaultyServer.service s (decide (e.lock.status = .leader)) (e.lock, ⟨v.table, ms.tail⟩) = q
        obtain ⟨result, left, reported⟩ := q
        have hcompete : compete FaultyServer.service (e.lock, ⟨e.table, ms⟩) = (result, left, [] ++ reported) := by
          simp only [compete, hbegin, hserver, hcheck]
        have hchecked := run_check (show (connected.advanceRound {}).round = .asking (e.lock.checkOn s) from rfl) ms.tail hcheck
        refine ⟨[{}, {}, {}, ms.headD {}, {}, ms.tail.headD {}, {}], ?_⟩
        simp only [List.map, run, List.foldl, step, hentered, hasks, hbegin, hopened, outcomeOf, Act.run, hcompete, hchecked]
        exact ⟨trivial, rfl⟩

/-- A resignation whose request and answer are not disturbed, to the end of its look at the traffic. -/
theorem run_letGo {e : Elector} {s : Nat} {k : Look} (h : e.look = .unlocking s k) (ms : List Mishap)
    {q : AdvisoryLock × FaultyServer} (hq : (letGo FaultyServer.service s (e.lock, ⟨e.table, ms⟩)).2.1 = q) :
    (e.advanceLook (ms.headD {})).advanceLook {} = e.conclude k q.1 q.2.table := by
  have hserver : FaultyServer.service.unlock s e.lock.lockId ⟨e.table, ms⟩ = _ :=
    FaultyServer.statement_one s (LockTable.giveBack s e.lock.lockId) e.table ms
  have hsent : e.advanceLook (ms.headD {}) =
      { e with
        table := (FaultyServer.statement s (LockTable.giveBack s e.lock.lockId) ⟨e.table, [ms.headD {}]⟩).2.table
        look := .unlocked s (FaultyServer.statement s (LockTable.giveBack s e.lock.lockId) ⟨e.table, [ms.headD {}]⟩).1 k } := by
    simp only [advanceLook, h]
    rfl
  rw [letGo_state, hserver] at hq
  rw [hsent]
  generalize FaultyServer.statement s (LockTable.giveBack s e.lock.lockId) ⟨e.table, [ms.headD {}]⟩ = a at hq
  obtain ⟨answer, v⟩ := a
  subst hq
  cases answer <;> rfl

/-- A look at the traffic that is not disturbed is a look at the traffic. -/
theorem look_alone (e : Elector) (k : Look) (ms : List Mishap) (hlook : e.look = .idle) (hround : e.round.hasTurn = false) :
    ∃ requests : List Mishap, (e.run (.beginLook k :: requests.map .look)).look = .idle ∧
      (e.run (.beginLook k :: requests.map .look)).outcome =
        outcomeOf (Rounds.checkIdle (candidate FaultyServer.service) k.idle k.timeout) e ms := by
  by_cases hlong : k.timeout < k.idle
  · have hbegin : e.beginLook k = { e with look := .waiting k } := by
      simp only [beginLook, hlook, Look.tooLong, hlong, decide_true, if_true]
    -- It gets its turn at once, and the pause begins.
    have hpaused : (({ e with look := .waiting k } : Elector).advanceLook {}).advanceLook {} =
        { e with rounds := (e.rounds.pause k.idle k.timeout).1, look := .resigning k } := by
      simp only [advanceLook, hround, Bool.false_eq_true, if_false]
    cases hresign : e.lock.beginResign with
    | mk slot rest =>
      obtain ⟨lock, reported⟩ := rest
      have hresigning : ({ e with rounds := (e.rounds.pause k.idle k.timeout).1, look := .resigning k } : Elector).advanceLook {} =
          match slot with
          | some s => { e with rounds := (e.rounds.pause k.idle k.timeout).1, lock, look := .unlocking s k }
          | none => ({ e with rounds := (e.rounds.pause k.idle k.timeout).1 } : Elector).conclude k lock e.table := by
        simp only [advanceLook, hresign]
        cases slot <;> rfl
      cases slot with
      | none =>
        refine ⟨[{}, {}, {}], ?_⟩
        simp only [List.map, run, List.foldl, step, hbegin, hpaused, hresigning, outcomeOf, Act.run, Rounds.checkIdle, hlong, if_true,
          candidate, resign, hresign]
        exact ⟨rfl, rfl⟩
      | some s =>
        refine ⟨[{}, {}, {}, ms.headD {}, {}], ?_⟩
        simp only [List.map, run, List.foldl, step, hbegin, hpaused, hresigning, outcomeOf, Act.run, Rounds.checkIdle, hlong, if_true,
          candidate, resign, hresign]
        rw [run_letGo rfl ms rfl]
        exact ⟨rfl, rfl⟩
  · refine ⟨[], ?_⟩
    simp only [List.map, run, List.foldl, step, beginLook, hlook, Look.tooLong, hlong, decide_false, Bool.false_eq_true, if_false,
      outcomeOf, Act.run, Rounds.checkIdle]
    exact ⟨trivial, rfl⟩

end Elector

end Intake
