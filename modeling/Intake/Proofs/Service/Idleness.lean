import Intake.Proofs.Leadership.Rounds
import Intake.Proofs.Service.Frame
import Intake.Service.Clock

/-!
# Idleness: how long an instance without traffic can lead

The rounds of an instance and its looks at the traffic are two tasks of one clock, and batches arrive whenever they do. `Watched` is
an instance with such tasks and the time of its last batch; the tasks may tick in any order when both are due, the lock server may
change in any way at any time, and time never passes a tick. Whoever leads then had a batch no longer ago than the timeout and one
period of the looks (`idle_leadership_bounded`). A program that starts both tasks starts such a run (`run_starts`).

What carries the bound is the next look (`Bounded`): it is no further away than that, unless the election is paused, and then the
instance does not lead. All of this is about a few fields of an instance, its `Stance`, which a batch leaves alone but for the time it
arrived.
-/

namespace Intake

/-- What the election of an instance depends on, but for the lock server. -/
structure Stance where
  now : Nat
  backend : Backend
  rounds : Rounds
  liveness : Liveness
  tickers : List Ticker
  stopped : Bool

namespace Instance

def stance (i : Instance) : Stance := ⟨i.now, i.backend, i.rounds, i.liveness, i.tickers, i.stopped⟩

variable {i : Instance}

/-! ## Batches -/

/-- The work on a batch leaves the election alone. -/
theorem frame_stance : Frame fun i j => j.stance = i.stance where
  trans hij hjk := hjk.trans hij
  counted _ _ _ _ := rfl
  underWay _ _ _ := rfl
  called _ _ _ := rfl
  performed _ _ _ _ := rfl

/-- The gate asks the lock whether it leads, and leaves it as it is. -/
theorem stance_admitted {l : AdvisoryLock} (hl : i.backend = .lock l) : admitted.Yields i fun _ i' => i'.stance = i.stance := by
  obtain ⟨now, store, backend, server, rounds⟩ := i
  cases hl
  exact rfl

/-- A batch counts as traffic, whatever becomes of it, and leaves the election as it is. -/
theorem stance_sendBatch {l : AdvisoryLock} (hl : i.backend = .lock l) (purpose : Purpose) (samples : List Sample) :
    (sendBatch purpose samples).Yields i fun _ i' => i'.stance = { i.stance with liveness := i.liveness.touch i.now } := by
  unfold sendBatch
  refine Act.yields_modify_bind.2 ?_
  have hadmitted := stance_admitted (i := { i with liveness := i.liveness.touch i.now }) hl
  refine hadmitted.bind fun r i₁ h₁ => ?_
  cases r with
  | error e =>
    refine (frame_stance.conclude purpose _ _ i₁).bind fun _ i₂ h₂ => ?_
    exact h₂.trans h₁
  | ok x =>
    obtain ⟨leads, id⟩ := x
    cases leads with
    | true => exact (frame_stance.beginWrite purpose samples i₁).mono fun _ i₂ h₂ => h₂.trans h₁
    | false =>
      refine Act.yields_report_bind.2 ?_
      refine (frame_stance.conclude purpose _ _ i₁).bind fun _ i₂ h₂ => ?_
      exact h₂.trans h₁

/-! ## Ticks -/

/-- A round that the clock holds leaves the pause as it is, and in a pause the lock too. -/
theorem stance_election {l : AdvisoryLock} (hl : i.backend = .lock l) :
    (runTask (.election ownName)).Yields i fun task i' => task = .election ownName ∧
      ∃ l' rounds, i'.stance = { i.stance with backend := .lock l', rounds } ∧ rounds.paused = i.rounds.paused ∧
        (i.rounds.paused = true → l' = l) := by
  obtain ⟨now, store, backend, server, rounds⟩ := i
  cases hl
  obtain ⟨paused, leading⟩ := rounds
  cases paused with
  | true => exact ⟨rfl, l, ⟨true, leading⟩, rfl, rfl, fun _ => rfl⟩
  | false => exact ⟨rfl, _, _, rfl, rfl, nofun⟩

/-- The lock of a backend that is one. -/
def lockOf : Backend → AdvisoryLock
  | .lock l => l
  | _ => { lockId := 0 }

/-- An instance with a lock, as a candidate. -/
def lockCandidate : Candidate ElectionState :=
  (AdvisoryLock.candidate LockServer.service).on (fun s => (lockOf s.1, s.2.2)) fun p s => (.lock p.1, s.2.1, p.2)

/-- A look at the traffic acts on the pause and on the lock. -/
theorem run_monitor {l : AdvisoryLock} (hl : i.backend = .lock l) (timeout : Span) :
    ((runTask (.monitor ownName timeout)).run i).2.1 =
      { i.withElectionState (((Rounds.checkIdle lockCandidate (i.liveness.idle i.now) timeout).run (i.rounds, i.electionState)).2.1).2 with
        rounds := (((Rounds.checkIdle lockCandidate (i.liveness.idle i.now) timeout).run (i.rounds, i.electionState)).2.1).1 } := by
  obtain ⟨now, store, backend, server, rounds, peers, meters, registry, throughput, liveness, interval, decision⟩ := i
  cases hl
  rfl

/-- When there was no traffic for too long, the election is paused and does not lead; otherwise a pause ends. -/
theorem stance_monitor {l : AdvisoryLock} (hl : i.backend = .lock l) (timeout : Span) :
    (runTask (.monitor ownName timeout)).Yields i fun task i' => task = .monitor ownName timeout ∧
      ∃ l' rounds, i'.stance = { i.stance with backend := .lock l', rounds } ∧
        (rounds.paused = true ∧ l'.status ≠ .leader ∨ ¬timeout < i.liveness.idle i.now ∧ rounds.paused = false) := by
  refine ⟨rfl, ?_⟩
  rw [run_monitor hl]
  by_cases hidle : timeout < i.liveness.idle i.now
  · rw [Rounds.checkIdle_of_idle hidle]
    have hfollower := AdvisoryLock.status_resign LockServer.service (lockOf i.backend) i.server
    refine ⟨((AdvisoryLock.resign LockServer.service).run (lockOf i.backend, i.server)).2.1.1, _, rfl, Or.inl ⟨rfl, fun hleads => ?_⟩⟩
    cases hfollower.symm.trans hleads
  · rw [Rounds.checkIdle_of_busy hidle]
    refine ⟨l, { i.rounds with paused := false }, ?_, Or.inr ⟨hidle, rfl⟩⟩
    rw [← hl]
    rfl

/-- An instance with other tickers. -/
def withTickers (i : Instance) (ts : List Ticker) : Instance := { i with tickers := ts }

theorem stance_withTickers (i : Instance) (ts : List Ticker) : (i.withTickers ts).stance = { i.stance with tickers := ts } := rfl

/-- What a round does, whatever the clock runs. -/
theorem run_election_withTickers {i : Instance} {l : AdvisoryLock} (hl : i.backend = .lock l) (ts : List Ticker) :
    ((runTask (.election ownName)).run (i.withTickers ts)).2.1 = (((runTask (.election ownName)).run i).2.1).withTickers ts := by
  obtain ⟨now, store, backend, server, rounds⟩ := i
  cases hl
  rfl

theorem run_monitor_withTickers {i : Instance} {l : AdvisoryLock} (hl : i.backend = .lock l) (timeout : Span) (ts : List Ticker) :
    ((runTask (.monitor ownName timeout)).run (i.withTickers ts)).2.1 =
      (((runTask (.monitor ownName timeout)).run i).2.1).withTickers ts := by
  obtain ⟨now, store, backend, server, rounds⟩ := i
  cases hl
  rfl

/-- A task that is started holds its first tick at once. -/
theorem run_startNow {i : Instance} {period : Span} (task : Periodic) (hperiod : period.nanos ≠ 0) (hstopped : i.stopped = false) :
    ((startNow period task).run i).2.1 = (((runTask task).run i).2.1).withTickers
      ((((runTask task).run i).2.1).tickers ++ [⟨(((runTask task).run i).2.1).now + period.nanos, period, ((runTask task).run i).1⟩]) := by
  unfold startNow
  rw [if_neg hperiod, Act.run_get_bind_state]
  simp only [hstopped, Bool.false_eq_true, if_false]
  rfl

/-- An election that is started holds a round at once, and the next one after its interval. -/
theorem run_startElection {i : Instance} {l : AdvisoryLock} (hl : i.backend = .lock l) (hinterval : i.interval.nanos ≠ 0)
    (hstopped : i.stopped = false) (ts : List Ticker) :
    ((startElection ownName).run (i.withTickers ts)).2.1 = (((runTask (.election ownName)).run i).2.1).withTickers
      (ts ++ [⟨i.now + i.interval.nanos, i.interval, .election ownName⟩]) := by
  have hnow : ((startElection ownName).run (i.withTickers ts)).2.1 =
      ((startNow i.interval (.election ownName)).run (i.withTickers ts)).2.1 := by
    obtain ⟨now, store, backend, server, rounds⟩ := i
    cases hl
    rfl
  obtain ⟨htask, l', rounds, hstance, -, -⟩ := stance_election (i := i.withTickers ts) hl
  rw [hnow, run_startNow (i := i.withTickers ts) _ hinterval hstopped, htask, run_election_withTickers hl]
  rw [run_election_withTickers hl] at hstance
  have htickers := congrArg Stance.tickers hstance
  have hclock := congrArg Stance.now hstance
  dsimp only [stance, withTickers] at htickers hclock ⊢
  rw [htickers, hclock]

/-- A monitor that is started looks at the traffic at once, and again after its period. -/
theorem run_startMonitor {i : Instance} {l : AdvisoryLock} (hl : i.backend = .lock l) (timeout : Span) (hstopped : i.stopped = false)
    (ts : List Ticker) :
    ((startMonitor ownName timeout).run (i.withTickers ts)).2.1 = (((runTask (.monitor ownName timeout)).run i).2.1).withTickers
      (ts ++ [⟨i.now + monitorPeriod.nanos, monitorPeriod, .monitor ownName timeout⟩]) := by
  have hnow : ((startMonitor ownName timeout).run (i.withTickers ts)).2.1 =
      ((startNow monitorPeriod (.monitor ownName timeout)).run (i.withTickers ts)).2.1 := by
    obtain ⟨now, store, backend, server, rounds⟩ := i
    cases hl
    rfl
  obtain ⟨htask, l', rounds, hstance, -⟩ := stance_monitor (i := i.withTickers ts) hl timeout
  rw [hnow, run_startNow (i := i.withTickers ts) _ (by decide) hstopped, htask, run_monitor_withTickers hl]
  rw [run_monitor_withTickers hl] at hstance
  have htickers := congrArg Stance.tickers hstance
  have hclock := congrArg Stance.now hstance
  dsimp only [stance, withTickers] at htickers hclock ⊢
  rw [htickers, hclock]

/-- Who answers that it leads has a lock that leads. -/
theorem status_of_isLeader {l : AdvisoryLock} (hl : i.backend = .lock l) (h : ((isLeader ownName).run i).1 = some (.ok true)) :
    l.status = .leader := by
  obtain ⟨now, store, backend, server, rounds⟩ := i
  cases hl
  have hleads : l.isLeader = .ok true := Option.some.inj h
  unfold AdvisoryLock.isLeader at hleads
  cases hs : l.status with
  | leader => rfl
  | follower =>
    rw [hs] at hleads
    cases hleads
  | failed reason =>
    rw [hs] at hleads
    cases hleads

end Instance

/-! ## Runs -/

/-- An instance, and when its last batch arrived. -/
structure Watched where
  inst : Instance
  lastBatch : Nat

namespace Watched

open Instance

/-- What can happen to an instance that is watched. -/
inductive Move where
  /-- A periodic task ticks, if its time has come. -/
  | tick (k : Nat)
  /-- The clock lets the first thing happen that is due. -/
  | happen
  | batch (purpose : Purpose) (samples : List Sample)
  /-- Time passes, but never past a tick. -/
  | wait (nanos : Nat)
  /-- The lock server changes in some way. -/
  | server (change : LockServer → LockServer)

/-- An instance whose election and whose look at the traffic are started now; the start counts as a batch. -/
def start (i : Instance) (l : AdvisoryLock) (timeout : Span) : Watched where
  inst := { i with
    backend := .lock l
    rounds := {}
    liveness := { origin := i.now }
    tickers := [⟨i.now, i.interval, .election ownName⟩, ⟨i.now, monitorPeriod, .monitor ownName timeout⟩] }
  lastBatch := i.now

def step (w : Watched) : Move → Watched
  | .tick k =>
    match w.inst.tickers[k]? with
    | none => w
    | some t =>
      if t.next = w.inst.now then
        let (task, i, _) := (runTask t.task).run w.inst
        { w with inst := { i with tickers := w.inst.tickers.set k { t with next := t.next + t.period.nanos, task } } }
      else w
  | .happen => { w with inst := (Instance.happen.run w.inst).2.1 }
  | .batch purpose samples => ⟨((sendBatch purpose samples).run w.inst).2.1, w.inst.now⟩
  | .wait nanos =>
    if ∀ t ∈ w.inst.tickers, w.inst.now + nanos ≤ t.next then { w with inst := { w.inst with now := w.inst.now + nanos } } else w
  | .server change => { w with inst := { w.inst with server := change w.inst.server } }

def run (w : Watched) (moves : List Move) : Watched := moves.foldl step w

/-- What a tick does. -/
theorem step_tick {i : Instance} {last k : Nat} {t : Ticker} (ht : i.tickers[k]? = some t) (hdue : t.next = i.now) :
    step ⟨i, last⟩ (.tick k) = ⟨(((runTask t.task).run i).2.1).withTickers
      (i.tickers.set k { t with next := t.next + t.period.nanos, task := ((runTask t.task).run i).1 }), last⟩ := by
  unfold step
  dsimp only
  rw [ht]
  dsimp only
  rw [if_pos hdue]
  rfl

/-- The election ticks. -/
theorem step_election {i : Instance} {l : AdvisoryLock} (hl : i.backend = .lock l) {e : Ticker} (he : e.task = .election ownName)
    (hdue : e.next = i.now) (m : Ticker) (last : Nat) :
    step ⟨i.withTickers [e, m], last⟩ (.tick 0) =
      ⟨(((runTask (.election ownName)).run i).2.1).withTickers [{ e with next := e.next + e.period.nanos }, m], last⟩ := by
  obtain ⟨next, period, task⟩ := e
  obtain rfl : task = .election ownName := he
  have htick : step ⟨i.withTickers [⟨next, period, .election ownName⟩, m], last⟩ (.tick 0) = _ := step_tick (k := 0) rfl hdue
  have htask : ∀ ts, ((runTask (.election ownName)).run (i.withTickers ts)).1 = .election ownName :=
    fun ts => (stance_election (i := i.withTickers ts) hl).1
  rw [htick]
  dsimp only
  rw [htask, run_election_withTickers hl]
  rfl

/-- The monitor ticks. -/
theorem step_monitor {i : Instance} {l : AdvisoryLock} (hl : i.backend = .lock l) {timeout : Span} {m : Ticker}
    (hm : m.task = .monitor ownName timeout) (hdue : m.next = i.now) (e : Ticker) (last : Nat) :
    step ⟨i.withTickers [e, m], last⟩ (.tick 1) =
      ⟨(((runTask (.monitor ownName timeout)).run i).2.1).withTickers [e, { m with next := m.next + m.period.nanos }], last⟩ := by
  obtain ⟨next, period, task⟩ := m
  obtain rfl : task = .monitor ownName timeout := hm
  have htick : step ⟨i.withTickers [e, ⟨next, period, .monitor ownName timeout⟩], last⟩ (.tick 1) = _ := step_tick (k := 1) rfl hdue
  have htask : ∀ ts, ((runTask (.monitor ownName timeout)).run (i.withTickers ts)).1 = .monitor ownName timeout :=
    fun ts => (stance_monitor (i := i.withTickers ts) hl timeout).1
  rw [htick]
  dsimp only
  rw [htask, run_monitor_withTickers hl]
  rfl

/-- Starting both tasks of an instance that was just made is this start, and their first ticks. -/
theorem run_starts {i : Instance} {l : AdvisoryLock} (timeout : Span) (hl : i.backend = .lock l) (hinterval : i.interval.nanos ≠ 0)
    (hstopped : i.stopped = false) (htickers : i.tickers = []) (hrounds : i.rounds = {})
    (hliveness : i.liveness = { origin := i.now }) :
    ((do startElection ownName; startMonitor ownName timeout : Act Instance Unit).run i).2.1 =
      ((start i l timeout).run [.tick 0, .tick 1]).inst := by
  have hnone : i = i.withTickers [] := by
    unfold withTickers
    rw [← htickers]
  have hstart : start i l timeout =
      ⟨i.withTickers [⟨i.now, i.interval, .election ownName⟩, ⟨i.now, monitorPeriod, .monitor ownName timeout⟩], i.now⟩ := by
    unfold start withTickers
    rw [← hl, ← hrounds, ← hliveness]
  have hfirst := run_startElection hl hinterval hstopped []
  rw [← hnone] at hfirst
  obtain ⟨-, l', rounds, hstance, -, -⟩ := stance_election hl
  have hlock : (((runTask (.election ownName)).run i).2.1).backend = .lock l' := congrArg Stance.backend hstance
  have hrunning : (((runTask (.election ownName)).run i).2.1).stopped = false := (congrArg Stance.stopped hstance).trans hstopped
  have hclock : (((runTask (.election ownName)).run i).2.1).now = i.now := congrArg Stance.now hstance
  rw [Act.run_bind_state, hfirst, run_startMonitor hlock timeout hrunning, hclock]
  unfold Watched.run
  rw [hstart, List.foldl_cons, List.foldl_cons, List.foldl_nil, step_election hl rfl rfl, step_monitor hlock rfl hclock.symm]
  rfl

/-! ## The bound -/

/-- What bounds the time without traffic of a leader: the next look at the traffic is no further away than the timeout and one period
after the last batch, unless the election is paused, and then it does not lead. The time of a batch is known as long as it fits. -/
structure Bounded (origin : Nat) (timeout : Span) (lastBatch : Nat) (s : Stance) : Prop where
  lock : ∃ l, s.backend = .lock l ∧ (s.rounds.paused = true → l.status ≠ .leader)
  tickers : ∃ e m, s.tickers = [e, m] ∧ e.task = .election ownName ∧ m.task = .monitor ownName timeout ∧ m.period = monitorPeriod ∧
    s.now ≤ m.next ∧ (s.now < origin + 0x10000000000000000 → s.rounds.paused = false →
      m.next ≤ lastBatch + timeout.nanos + monitorPeriod.nanos)
  started : s.liveness.origin = origin
  order : origin ≤ lastBatch ∧ lastBatch ≤ s.now
  seen : s.now < origin + 0x10000000000000000 → s.liveness.lastBatch = lastBatch - origin

variable {w : Watched} {origin lastBatch : Nat} {timeout : Span} {s s' : Stance}

theorem bounded_start (i : Instance) (l : AdvisoryLock) (timeout : Span) :
    Bounded i.now timeout (start i l timeout).lastBatch (start i l timeout).inst.stance where
  lock := ⟨l, rfl, nofun⟩
  tickers := ⟨_, _, rfl, rfl, rfl, rfl, Nat.le_refl _, fun _ _ => Nat.le_trans (Nat.le_add_right _ _) (Nat.le_add_right _ _)⟩
  started := rfl
  order := ⟨Nat.le_refl _, Nat.le_refl _⟩
  seen _ := (Nat.sub_self _).symm

/-- A batch arrives. -/
theorem Bounded.batch (h : Bounded origin timeout lastBatch s) :
    Bounded origin timeout s.now { s with liveness := s.liveness.touch s.now } := by
  obtain ⟨e, m, htickers, he, hm, hperiod, hnow, hbound⟩ := h.tickers
  obtain ⟨hstart, hbefore⟩ := h.order
  refine ⟨h.lock, ⟨e, m, htickers, he, hm, hperiod, hnow, fun hshort hp => ?_⟩, h.started,
    ⟨Nat.le_trans hstart hbefore, Nat.le_refl _⟩, fun hshort => ?_⟩
  · have hearlier := hbound hshort hp
    exact Nat.le_trans hearlier (Nat.add_le_add_right (Nat.add_le_add_right hbefore _) _)
  · dsimp only [Liveness.touch] at hshort ⊢
    have hfits : s.now - origin < 0x10000000000000000 := by omega
    rw [h.started, Nat.mod_eq_of_lt hfits]

/-- Time passes up to the next look at the traffic at most. -/
theorem Bounded.wait (h : Bounded origin timeout lastBatch s) {nanos : Nat} (hnext : ∀ t ∈ s.tickers, s.now + nanos ≤ t.next) :
    Bounded origin timeout lastBatch { s with now := s.now + nanos } := by
  obtain ⟨e, m, htickers, he, hm, hperiod, hnow, hbound⟩ := h.tickers
  obtain ⟨hstart, hbefore⟩ := h.order
  have hm' : s.now + nanos ≤ m.next := hnext m (by rw [htickers]; simp)
  have hearlier : s.now + nanos < origin + 0x10000000000000000 → s.now < origin + 0x10000000000000000 :=
    fun hshort => Nat.lt_of_le_of_lt (Nat.le_add_right _ _) hshort
  exact ⟨h.lock, ⟨e, m, htickers, he, hm, hperiod, hm', fun hshort hp => hbound (hearlier hshort) hp⟩, h.started,
    ⟨hstart, Nat.le_trans hbefore (Nat.le_add_right _ _)⟩, fun hshort => h.seen (hearlier hshort)⟩

/-- A round is held. -/
theorem Bounded.election (h : Bounded origin timeout lastBatch s) {e e' m : Ticker} (htickers : s.tickers = [e, m])
    (he' : e'.task = .election ownName) {l l' : AdvisoryLock} {rounds : Rounds} (hl : s.backend = .lock l)
    (hpaused : rounds.paused = s.rounds.paused) (hkept : s.rounds.paused = true → l' = l) :
    Bounded origin timeout lastBatch { s with backend := .lock l', rounds, tickers := [e', m] } := by
  obtain ⟨l₀, hl₀, haway⟩ := h.lock
  obtain ⟨e₀, m₀, hsame, -, hm, hperiod, hnow, hbound⟩ := h.tickers
  cases hl.symm.trans hl₀
  cases htickers.symm.trans hsame
  refine ⟨⟨l', rfl, fun hp => ?_⟩, ⟨e', m, rfl, he', hm, hperiod, hnow, fun hshort hp => ?_⟩, h.started, h.order, h.seen⟩
  · have hp' : s.rounds.paused = true := hpaused.symm.trans hp
    exact hkept hp' ▸ haway hp'
  · exact hbound hshort (hpaused.symm.trans hp)

/-- The traffic is looked at. -/
theorem Bounded.monitor (h : Bounded origin timeout lastBatch s) {e m m' : Ticker} (htickers : s.tickers = [e, m])
    (hdue : m.next = s.now) (hm' : m' = { m with next := m.next + m.period.nanos, task := .monitor ownName timeout }) {l' : AdvisoryLock} {rounds : Rounds}
    (hlook : rounds.paused = true ∧ l'.status ≠ .leader ∨ ¬timeout < s.liveness.idle s.now ∧ rounds.paused = false) :
    Bounded origin timeout lastBatch { s with backend := .lock l', rounds, tickers := [e, m'] } := by
  obtain ⟨e₀, m₀, hsame, he, -, hperiod, -, -⟩ := h.tickers
  cases htickers.symm.trans hsame
  obtain ⟨hstart, hbefore⟩ := h.order
  have hnext : m'.next = s.now + monitorPeriod.nanos := by rw [hm', hdue, hperiod]
  have hperiod' : m'.period = monitorPeriod := by rw [hm', hperiod]
  refine ⟨⟨l', rfl, fun hp => ?_⟩, ⟨e, m', rfl, he, by rw [hm'], hperiod', ?_, fun hshort hp => ?_⟩, h.started, h.order, h.seen⟩
  · obtain ⟨-, haway⟩ | ⟨-, hgoes⟩ := hlook
    · exact haway
    · cases hgoes.symm.trans hp
  · rw [hnext]
    exact Nat.le_add_right _ _
  · obtain ⟨hpaused, -⟩ | ⟨hbusy, -⟩ := hlook
    · cases hpaused.symm.trans hp
    · have hidle : s.now - s.liveness.origin - s.liveness.lastBatch ≤ timeout.nanos := Nat.le_of_not_lt hbusy
      rw [h.started, h.seen hshort] at hidle
      rw [hnext]
      dsimp only at hshort
      omega

/-- A ticker ticks when its time has come. -/
theorem Bounded.tick (h : Bounded origin timeout w.lastBatch w.inst.stance) {k : Nat} {t : Ticker} (ht : w.inst.tickers[k]? = some t)
    (hdue : t.next = w.inst.now) : Bounded origin timeout (w.step (.tick k)).lastBatch (w.step (.tick k)).inst.stance := by
  obtain ⟨l, hl, -⟩ := h.lock
  obtain ⟨e, m, htickers, he, hm, -⟩ := h.tickers
  have hlist : w.inst.tickers = [e, m] := htickers
  rw [step_tick ht hdue, hlist]
  dsimp only
  rw [stance_withTickers]
  rw [hlist] at ht
  cases k with
  | zero =>
    cases ht
    rw [he]
    obtain ⟨htask, l', rounds, hstance, hpaused, hkept⟩ := stance_election hl
    rw [hstance]
    exact h.election htickers htask hl hpaused hkept
  | succ k =>
    cases k with
    | zero =>
      cases ht
      rw [hm]
      obtain ⟨htask, l', rounds, hstance, hlook⟩ := stance_monitor hl timeout
      rw [hstance, htask]
      exact h.monitor htickers hdue rfl hlook
    | succ k => cases ht

/-- What the clock lets happen is a tick, or it leaves the election alone. -/
theorem step_happen_cases (w : Watched) :
    (∃ (k : Nat) (t : Ticker), w.inst.tickers[k]? = some t ∧ t.next = w.inst.now ∧ w.step .happen = w.step (.tick k)) ∨
      (w.step .happen).inst.stance = w.inst.stance := by
  unfold step Instance.happen Act.run
  dsimp only
  cases hsplit : splitFirst? (fun t => decide (t.next = w.inst.now)) w.inst.tickers with
  | some x =>
    obtain ⟨before, t, after⟩ := x
    obtain ⟨hlist, hdue⟩ := splitFirst?_eq_some hsplit
    have hdue : t.next = w.inst.now := of_decide_eq_true hdue
    have ht : w.inst.tickers[before.length]? = some t := by
      rw [hlist]
      simp
    refine Or.inl ⟨before.length, t, ht, hdue, ?_⟩
    rw [ht]
    dsimp only
    rw [if_pos hdue]
    have hset : ∀ t', w.inst.tickers.set before.length t' = before ++ t' :: after := by
      intro t'
      rw [hlist]
      simp
    rw [hset]
  | none =>
    refine Or.inr ?_
    cases hflight : splitFirst? (fun f => decide (f.due = w.inst.now)) w.inst.flights with
    | none => rfl
    | some x =>
      obtain ⟨before, f, after⟩ := x
      have hproceed := frame_stance.proceed f { w.inst with flights := before ++ after }
      unfold Act.Yields Act.run at hproceed
      dsimp only
      generalize proceed f { w.inst with flights := before ++ after } = went at hproceed ⊢
      obtain ⟨ending, i, events⟩ := went
      cases ending with
      | none => exact hproceed
      | some e =>
        dsimp only
        cases f.attended <;> exact hproceed

/-- Every move keeps the bound. -/
theorem Bounded.step (h : Bounded origin timeout w.lastBatch w.inst.stance) (m : Move) :
    Bounded origin timeout (w.step m).lastBatch (w.step m).inst.stance := by
  cases m with
  | tick k =>
    cases ht : w.inst.tickers[k]? with
    | none =>
      unfold Watched.step
      dsimp only
      rw [ht]
      exact h
    | some t =>
      by_cases hdue : t.next = w.inst.now
      · exact h.tick ht hdue
      · unfold Watched.step
        dsimp only
        rw [ht]
        dsimp only
        rw [if_neg hdue]
        exact h
  | happen =>
    obtain ⟨k, t, ht, hdue, hstep⟩ | hstance := step_happen_cases w
    · rw [hstep]
      exact h.tick ht hdue
    · rw [hstance]
      exact h
  | batch purpose samples =>
    obtain ⟨l, hl, -⟩ := h.lock
    have hsent := stance_sendBatch hl purpose samples
    exact hsent ▸ h.batch
  | wait nanos =>
    unfold Watched.step
    dsimp only
    split
    · rename_i hnext
      exact h.wait hnext
    · exact h
  | server change => exact h

theorem Bounded.run (h : Bounded origin timeout w.lastBatch w.inst.stance) (moves : List Move) :
    Bounded origin timeout (w.run moves).lastBatch (w.run moves).inst.stance := by
  induction moves generalizing w with
  | nil => exact h
  | cons m rest ih => exact ih (h.step m)

/-- A leader is bounded. -/
theorem Bounded.idle_le (h : Bounded origin timeout w.lastBatch w.inst.stance) (hshort : w.inst.now < origin + 0x10000000000000000)
    (hleads : ((isLeader ownName).run w.inst).1 = some (.ok true)) :
    w.inst.now ≤ w.lastBatch + timeout.nanos + monitorPeriod.nanos := by
  obtain ⟨l, hl, haway⟩ := h.lock
  obtain ⟨e, m, -, -, -, -, hnow, hbound⟩ := h.tickers
  have hp : w.inst.rounds.paused = false := by
    cases hp : w.inst.rounds.paused with
    | false => rfl
    | true => exact absurd (status_of_isLeader hl hleads) (haway hp)
  exact Nat.le_trans hnow (hbound hshort hp)

/-- Only one answer is leadership. -/
theorem eq_of_won {r : Option (Except ElectionError Bool)} (h : r.any Rounds.won = true) : r = some (.ok true) := by
  cases r with
  | none => cases h
  | some r =>
    cases r with
    | error e => cases h
    | ok leads =>
      cases leads with
      | false => cases h
      | true => rfl

/-- Who answers that it leads had a batch no longer ago than the timeout and one second. -/
theorem idle_leadership_bounded (i : Instance) (l : AdvisoryLock) (timeout : Span) (moves : List Move)
    (hshort : ((start i l timeout).run moves).inst.now < i.now + 0x10000000000000000)
    (hleads : ((isLeader ownName).run ((start i l timeout).run moves).inst).1 = some (.ok true)) :
    ((start i l timeout).run moves).inst.now ≤
      ((start i l timeout).run moves).lastBatch + timeout.nanos + (Span.ofSeconds 1).nanos :=
  ((bounded_start i l timeout).run moves).idle_le hshort hleads

/-- An instance that holds a round every ten seconds. -/
def unhurried : Instance := { store := default, backend := .none, throughput := default, interval := .ofSeconds 10 }

/-- One round, and one look after a second, which is not too long yet. -/
def untilTooLong : List Move := [.tick 1, .tick 0, .wait 1000000000, .tick 1, .wait 1000000000]

/-- The bound is reached: an instance with a timeout of one second still leads after two, before the next look. -/
theorem idle_leadership_bounded_lastMoment :
    ((start unhurried { lockId := 42 } (.ofSeconds 1)).run untilTooLong).inst.now = 2000000000 ∧
      ((isLeader ownName).run ((start unhurried { lockId := 42 } (.ofSeconds 1)).run untilTooLong).inst).1 = some (.ok true) ∧
      ((start unhurried { lockId := 42 } (.ofSeconds 1)).run untilTooLong).inst.now ≤
        ((start unhurried { lockId := 42 } (.ofSeconds 1)).run untilTooLong).lastBatch + (Span.ofSeconds 1).nanos +
          (Span.ofSeconds 1).nanos := by
  have hnow : ((start unhurried { lockId := 42 } (.ofSeconds 1)).run untilTooLong).inst.now = 2000000000 := by decide +kernel
  have hshort : ((start unhurried { lockId := 42 } (.ofSeconds 1)).run untilTooLong).inst.now <
      unhurried.now + 0x10000000000000000 := by decide +kernel
  have hleads : ((isLeader ownName).run ((start unhurried { lockId := 42 } (.ofSeconds 1)).run untilTooLong).inst).1 =
      some (.ok true) := eq_of_won (by decide +kernel)
  exact ⟨hnow, hleads, idle_leadership_bounded unhurried { lockId := 42 } (.ofSeconds 1) untilTooLong hshort hleads⟩

end Watched

end Intake
