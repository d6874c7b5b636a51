import Intake.Proofs.Leadership.Pause

/-!
# Farewell: an instance that is shut down has let go for good

The task that holds the rounds sees the signal between two rounds at the earliest, and then gives leadership up before it ends. It
does so without a turn, so a look at the traffic can be anywhere meanwhile, and can resign as well. The two resignations share the
session, which only one of them has at a time: who begins to resign keeps it until the answer is there. `Departing` is an instance
with these tasks and the signal. A farewell that is not disturbed is `Rounds.stop` (`farewell_alone`).

On the server a farewell is what a look at the traffic would do in its place (`Departing.view`), so what is known of the sessions
of the instance is kept by both for the same reasons (`Elector.Owned`).
-/

namespace Intake

open AdvisoryLock

/-- Where the task that holds the rounds stands on its way out. -/
inductive FarewellPhase where
  /-- It holds rounds. -/
  | rounds
  /-- It has seen the signal, and gives leadership up as soon as nobody else does. -/
  | leaving
  /-- The request to give the lock back is on its way. -/
  | unlocking (session : Nat)
  /-- The answer to it is on its way. -/
  | unlocked (session : Nat) (answer : Except DatabaseFault Bool)
  | ended

namespace FarewellPhase

/-- Whether the lock is being given back. -/
def unlocks : FarewellPhase → Bool
  | .unlocking _ | .unlocked _ _ => true
  | _ => false

/-- Whether the farewell has begun to give leadership up. -/
def resigned : FarewellPhase → Bool
  | .rounds | .leaving => false
  | _ => true

/-- Whether rounds are held no more. -/
def left : FarewellPhase → Bool
  | .rounds => false
  | _ => true

variable {p : FarewellPhase}

theorem not_unlocks_of_not_resigned (h : p.resigned = false) : p.unlocks = false := by
  cases p with
  | rounds => rfl
  | leaving => rfl
  | unlocking s => cases h
  | unlocked s answer => cases h
  | ended => cases h

theorem rounds_of_not_left (h : p.left = false) : p = .rounds := by
  cases p with
  | rounds => rfl
  | leaving => cases h
  | unlocking s => cases h
  | unlocked s answer => cases h
  | ended => cases h

theorem ne_rounds_of_resigned (h : p.resigned = true) : p ≠ .rounds := by
  rintro rfl
  cases h

end FarewellPhase

/-- Whether a look at the traffic is about to ask for the session. -/
def LookPhase.resigns : LookPhase → Bool
  | .resigning _ => true
  | _ => false

/-- An instance that can be shut down. -/
structure Departing where
  elector : Elector
  /-- Whether the signal was given. -/
  signalled : Bool := false
  /-- Whether looks at the traffic begin. -/
  watching : Bool := true
  farewell : FarewellPhase := .rounds

namespace Departing

/-- Whether a step of the instance cannot be taken now: no round begins after the last, no look at the traffic after the end of its
task, and a look that is to resign waits while the farewell has the session. -/
def waits (d : Departing) : Elector.Move → Bool
  | .round _ => d.farewell.left
  | .beginLook _ => !d.watching
  | .look _ => d.farewell.unlocks && d.elector.look.resigns
  | _ => false

/-- The task that holds the rounds sees the signal. -/
def leave (d : Departing) : Departing :=
  match d.farewell, d.elector.round with
  | .rounds, .idle => if d.signalled then { d with farewell := .leaving } else d
  | _, _ => d

/-- The task that looks at the traffic sees the signal. -/
def unwatch (d : Departing) : Departing :=
  match d.elector.look with
  | .idle => if d.signalled then { d with watching := false } else d
  | _ => d

/-- Carries the farewell on. -/
def advanceFarewell (d : Departing) (m : Mishap) : Departing :=
  match d.farewell with
  | .rounds | .ended => d
  | .leaving =>
    if d.elector.look.unlocks then d
    else
      match d.elector.lock.beginResign with
      | (some session, lock, _) => { d with elector := { d.elector with lock }, farewell := .unlocking session }
      | (none, lock, _) => { d with elector := { d.elector with lock }, farewell := .ended }
  | .unlocking session =>
    let (answer, v) := FaultyServer.service.unlock session d.elector.lock.lockId (d.elector.server m)
    { d with elector := { d.elector with table := v.table }, farewell := .unlocked session answer }
  | .unlocked session answer =>
    { d with
      elector := { d.elector with
        lock := (d.elector.lock.unlocked answer).2.1
        table := if answer.isOk then d.elector.table else d.elector.table.endSession session }
      farewell := .ended }

/-- What can happen next. -/
inductive Move where
  /-- A round, a look at the traffic or the server goes on. -/
  | elector (m : Elector.Move)
  | signal
  | leave
  | farewell (m : Mishap)
  | unwatch

def step (d : Departing) : Move → Departing
  | .elector m => if d.waits m then d else { d with elector := d.elector.step m }
  | .signal => { d with signalled := true }
  | .leave => d.leave
  | .farewell m => d.advanceFarewell m
  | .unwatch => d.unwatch

def run (d : Departing) (moves : List Move) : Departing := moves.foldl step d

def start (lockId : Int) : Departing := { elector := Elector.start lockId }

/-! ## A farewell as a look at the traffic -/

/-- The look at the traffic that would stand where the farewell stands, if the farewell is giving the lock back. -/
def asLook (d : Departing) : LookPhase :=
  match d.farewell with
  | .unlocking s => .unlocking s ⟨⟨0⟩, ⟨0⟩⟩
  | .unlocked s answer => .unlocked s answer ⟨⟨0⟩, ⟨0⟩⟩
  | _ => d.elector.look

/-- The instance, with whoever gives the lock back as its look at the traffic. -/
def view (d : Departing) : Elector := { d.elector with look := d.asLook }

/-! ## Undisturbed -/

theorem leave_eq {d : Departing} (hsignalled : d.signalled = true) (hrounds : d.farewell = .rounds)
    (hround : d.elector.round = .idle) : d.leave = { d with farewell := .leaving } := by
  simp only [leave, hrounds, hround, hsignalled, if_true]

/-- A farewell that asks for the session gets it, unless a look at the traffic has it. -/
theorem advanceFarewell_leaving {d : Departing} (hleaving : d.farewell = .leaving) (hlook : d.elector.look.unlocks = false)
    (m : Mishap) :
    d.advanceFarewell m =
      { d with
        elector := { d.elector with lock := d.elector.lock.beginResign.2.1 }
        farewell := d.elector.lock.beginResign.1.elim .ended .unlocking } := by
  simp only [advanceFarewell, hleaving, hlook, Bool.false_eq_true, if_false]
  obtain ⟨slot, lock, reported⟩ := d.elector.lock.beginResign
  cases slot <;> rfl

/-- A farewell that is not disturbed ends the election. -/
theorem farewell_alone (d : Departing) (ms : List Mishap) (hsignalled : d.signalled = true) (hrounds : d.farewell = .rounds)
    (hround : d.elector.round = .idle) (hlook : d.elector.look.unlocks = false) :
    ∃ requests : List Mishap, (d.run (.leave :: requests.map .farewell)).farewell = .ended ∧
      (d.run (.leave :: requests.map .farewell)).elector.outcome =
        Elector.outcomeOf (Rounds.stop (candidate FaultyServer.service)) d.elector ms := by
  have hleave := leave_eq hsignalled hrounds hround
  have hresigning := advanceFarewell_leaving (d := { d with farewell := .leaving }) rfl hlook {}
  cases hresign : d.elector.lock.beginResign with
  | mk slot rest =>
    obtain ⟨lock, reported⟩ := rest
    rw [hresign] at hresigning
    cases slot with
    | none =>
      refine ⟨[{}], ?_⟩
      simp only [List.map, run, List.foldl, step, hleave, hresigning, Elector.outcomeOf, Act.run, Rounds.stop, candidate, resign,
        hresign]
      exact ⟨rfl, rfl⟩
    | some s =>
      have hletGo := Elector.run_letGo (e := view { d with elector := { d.elector with lock }, farewell := .unlocking s }) rfl ms rfl
      refine ⟨[{}, ms.headD {}, {}], ?_⟩
      simp only [List.map, run, List.foldl, step, hleave, hresigning, Elector.outcomeOf, Act.run, Rounds.stop, candidate, resign,
        hresign]
      exact ⟨rfl, congrArg Elector.outcome hletGo⟩

end Departing

/-! ## No deadlock -/

/-- How many steps a round has before it at most, once it has its turn. -/
def RoundPhase.ahead : RoundPhase → Nat
  | .idle => 0
  | .answered _ _ | .opened (.error _) => 1
  | .asking (.check _ _) => 2
  | .opened (.ok _) => 3
  | .asking .connect => 4
  | .entered => 5
  | .waiting => 6

def LookPhase.ahead : LookPhase → Nat
  | .idle => 0
  | .unlocked _ _ _ => 1
  | .unlocking _ _ => 2
  | .resigning _ => 3
  | .entered _ => 4
  | .waiting _ => 5

def FarewellPhase.ahead : FarewellPhase → Nat
  | .ended => 0
  | .unlocked _ _ => 1
  | .unlocking _ => 2
  | .leaving => 3
  | .rounds => 4

theorem AdvisoryLock.ahead_beginCompete (l : AdvisoryLock) : (RoundPhase.asking l.beginCompete.1).ahead < 5 := by
  unfold beginCompete
  cases l.session with
  | some s => simp [checkOn, RoundPhase.ahead]
  | none => simp [RoundPhase.ahead]

namespace Elector

/-- A round that is under way goes on, unless it waits for its turn. -/
theorem ahead_advanceRound {e : Elector} (hround : e.round ≠ .idle) (hlook : e.look.hasTurn = false) :
    (e.advanceRound {}).round.ahead < e.round.ahead ∧ (e.advanceRound {}).look = e.look := by
  unfold advanceRound
  cases hr : e.round with
  | idle => exact absurd hr hround
  | waiting => simp [hlook, RoundPhase.ahead]
  | entered =>
    cases e.rounds.paused with
    | true => exact ⟨Nat.succ_pos 4, rfl⟩
    | false => exact ⟨e.lock.ahead_beginCompete, rfl⟩
  | asking w =>
    cases w with
    | connect =>
      refine ⟨?_, rfl⟩
      change (RoundPhase.opened _).ahead < 4
      cases (e.server {}).connect.1 with
      | ok s => exact Nat.lt_succ_self 3
      | error cause => simp [RoundPhase.ahead]
    | check s confirming => exact ⟨Nat.lt_succ_self 1, rfl⟩
  | opened answer =>
    cases answer with
    | ok s => exact ⟨Nat.lt_succ_self 2, rfl⟩
    | error cause => exact ⟨Nat.lt_succ_self 0, rfl⟩
  | answered s answer => exact ⟨Nat.lt_succ_self 0, rfl⟩

theorem round_advanceLook (e : Elector) (m : Mishap) : (e.advanceLook m).round = e.round := by
  unfold advanceLook
  cases e.look with
  | idle => rfl
  | waiting k => cases e.round.hasTurn <;> rfl
  | entered k => rfl
  | resigning k =>
    obtain ⟨slot, l, reported⟩ := e.lock.beginResign
    cases slot <;> rfl
  | unlocking s k => rfl
  | unlocked s answer k => rfl

/-- A look at the traffic that has its turn goes on. -/
theorem ahead_advanceLook {e : Elector} (hlook : e.look.hasTurn = true) : (e.advanceLook {}).look.ahead < e.look.ahead := by
  unfold advanceLook
  cases hl : e.look with
  | idle => cases (congrArg LookPhase.hasTurn hl).symm.trans hlook
  | waiting k => cases (congrArg LookPhase.hasTurn hl).symm.trans hlook
  | entered k => exact Nat.lt_succ_self 3
  | resigning k =>
    obtain ⟨slot, l, reported⟩ := e.lock.beginResign
    cases slot with
    | none => exact Nat.succ_pos 2
    | some s => exact Nat.lt_succ_self 2
  | unlocking s k => exact Nat.lt_succ_self 1
  | unlocked s answer k => exact Nat.lt_succ_self 0

end Elector

namespace Departing

/-- How many steps the tasks have before them at most. -/
def ahead (d : Departing) : Nat := d.farewell.ahead + d.elector.round.ahead + d.elector.look.ahead

theorem step_elector (d : Departing) (m : Elector.Move) :
    d.step (.elector m) = if d.waits m then d else { d with elector := d.elector.step m } := rfl

/-- A farewell that is giving the lock back goes on. -/
theorem ahead_unlocks {d : Departing} (h : d.farewell.unlocks = true) :
    (d.advanceFarewell {}).ahead < d.ahead ∧ (d.advanceFarewell {}).signalled = d.signalled := by
  unfold advanceFarewell
  cases hf : d.farewell with
  | rounds => cases (congrArg FarewellPhase.unlocks hf).symm.trans h
  | leaving => cases (congrArg FarewellPhase.unlocks hf).symm.trans h
  | unlocking s => exact ⟨by simp only [ahead, hf, FarewellPhase.ahead]; omega, rfl⟩
  | unlocked s answer => exact ⟨by simp only [ahead, hf, FarewellPhase.ahead]; omega, rfl⟩
  | ended => cases (congrArg FarewellPhase.unlocks hf).symm.trans h

theorem ahead_leaving {d : Departing} (hf : d.farewell = .leaving) (hlook : d.elector.look.unlocks = false) :
    (d.advanceFarewell {}).ahead < d.ahead ∧ (d.advanceFarewell {}).signalled = d.signalled := by
  rw [advanceFarewell_leaving hf hlook]
  cases d.elector.lock.beginResign.1 with
  | none => exact ⟨by simp only [ahead, hf, FarewellPhase.ahead, Option.elim]; omega, rfl⟩
  | some s => exact ⟨by simp only [ahead, hf, FarewellPhase.ahead, Option.elim]; omega, rfl⟩

/-- After the signal one of the tasks can go on, until the one that holds the rounds has ended. -/
theorem step_ahead {d : Departing} (hs : d.signalled = true) (hf : d.farewell ≠ .ended) :
    ∃ m, (d.step m).ahead < d.ahead ∧ (d.step m).signalled = true := by
  cases hu : d.farewell.unlocks with
  | true =>
    obtain ⟨hless, hsame⟩ := ahead_unlocks hu
    exact ⟨.farewell {}, hless, hsame.trans hs⟩
  | false =>
    cases hl : d.elector.look.hasTurn with
    | true =>
      -- The farewell does not have the session, so nothing keeps the look at the traffic from going on.
      have hless := Elector.ahead_advanceLook hl
      refine ⟨.elector (.look {}), ?_⟩
      rw [step_elector, if_neg (by simp [waits, hu])]
      refine ⟨?_, hs⟩
      simp only [ahead, Elector.step, Elector.round_advanceLook]
      omega
    | false =>
      cases hp : d.farewell with
      | rounds =>
        by_cases hr : d.elector.round = .idle
        · refine ⟨.leave, ?_⟩
          simp only [step, leave_eq hs hp hr]
          exact ⟨by simp only [ahead, hp, FarewellPhase.ahead]; omega, hs⟩
        · obtain ⟨hless, hsame⟩ := Elector.ahead_advanceRound hr hl
          refine ⟨.elector (.round {}), ?_⟩
          rw [step_elector, if_neg (by simp [waits, hp, FarewellPhase.left])]
          refine ⟨?_, hs⟩
          simp only [ahead, Elector.step, hsame]
          omega
      | leaving =>
        obtain ⟨hless, hsame⟩ := ahead_leaving hp (LookPhase.not_unlocks_of_waiting hl)
        exact ⟨.farewell {}, hless, hsame.trans hs⟩
      | unlocking s => cases (congrArg FarewellPhase.unlocks hp).symm.trans hu
      | unlocked s answer => cases (congrArg FarewellPhase.unlocks hp).symm.trans hu
      | ended => exact absurd hp hf

/-- Wherever the tasks are when the signal is given, they never wait for each other in a circle: the farewell can come to its end. -/
theorem farewell_can_end (d : Departing) (hs : d.signalled = true) : ∃ moves : List Move, (d.run moves).farewell = .ended := by
  induction hn : d.ahead using Nat.strongRecOn generalizing d with
  | _ n ih =>
    by_cases hf : d.farewell = .ended
    · exact ⟨[], hf⟩
    · obtain ⟨m, hless, hsignalled⟩ := step_ahead hs hf
      obtain ⟨moves, hmoves⟩ := ih _ (hn ▸ hless) (d.step m) hsignalled rfl
      exact ⟨m :: moves, hmoves⟩

/-! ## What is kept -/

variable {d : Departing} {lockId : Int}

/-- The invariant. -/
structure Inv (lockId : Int) (d : Departing) : Prop where
  order : d.farewell = .rounds → d.elector.Order
  owned : d.view.Owned lockId
  round : d.farewell.left = true → d.elector.round = .idle
  /-- Who has begun its farewell is a follower, and nobody else gives the lock back. -/
  resigned : d.farewell.resigned = true → d.elector.lock.status = .follower ∧ d.elector.look.unlocks = false

theorem view_eq (h : d.farewell.unlocks = false) : d.view = d.elector := by
  unfold view asLook
  cases hf : d.farewell with
  | rounds => rfl
  | leaving => rfl
  | unlocking s => cases (congrArg FarewellPhase.unlocks hf).symm.trans h
  | unlocked s answer => cases (congrArg FarewellPhase.unlocks hf).symm.trans h
  | ended => rfl

/-- While the farewell gives the lock back, a look at the traffic is not seen. -/
theorem view_aside (h : d.farewell.unlocks = true) (r : Rounds) (p : LookPhase) (last : Option Look) :
    view { d with elector := { d.elector with rounds := r, look := p, last } } = { d.view with rounds := r, last } := by
  unfold view asLook
  cases hf : d.farewell with
  | rounds => cases (congrArg FarewellPhase.unlocks hf).symm.trans h
  | leaving => cases (congrArg FarewellPhase.unlocks hf).symm.trans h
  | unlocking s => rfl
  | unlocked s answer => rfl
  | ended => cases (congrArg FarewellPhase.unlocks hf).symm.trans h

end Departing

namespace Elector

variable {e : Elector}

theorem round_beginLook (e : Elector) (k : Look) : (e.beginLook k).round = e.round := by
  unfold beginLook
  cases e.look with
  | idle => cases k.tooLong <;> rfl
  | waiting k' => rfl
  | entered k' => rfl
  | resigning k' => rfl
  | unlocking s k' => rfl
  | unlocked s answer k' => rfl

/-- A look at the traffic that begins concerns neither the lock nor the server. -/
theorem beginLook_aside (hlook : e.look.unlocks = false) (k : Look) :
    ∃ r p last, e.beginLook k = { e with rounds := r, look := p, last := last } ∧ p.unlocks = false := by
  unfold beginLook
  cases hl : e.look with
  | idle =>
    cases k.tooLong with
    | true => exact ⟨e.rounds, .waiting k, e.last, rfl, rfl⟩
    | false => exact ⟨e.rounds.resume.1, .idle, some k, rfl, rfl⟩
  | waiting k' => exact ⟨e.rounds, e.look, e.last, rfl, hlook⟩
  | entered k' => exact ⟨e.rounds, e.look, e.last, rfl, hlook⟩
  | resigning k' => exact ⟨e.rounds, e.look, e.last, rfl, hlook⟩
  | unlocking s k' => cases (congrArg LookPhase.unlocks hl).symm.trans hlook
  | unlocked s answer k' => cases (congrArg LookPhase.unlocks hl).symm.trans hlook

/-- A follower has nothing to give back, so a look at the traffic concerns neither the lock nor the server. -/
theorem advanceLook_aside (hstatus : e.lock.status = .follower) (hlook : e.look.unlocks = false) (m : Mishap) :
    ∃ r p last, e.advanceLook m = { e with rounds := r, look := p, last := last } ∧ p.unlocks = false := by
  unfold advanceLook
  cases hl : e.look with
  | idle => exact ⟨e.rounds, e.look, e.last, rfl, hlook⟩
  | waiting k =>
    cases e.round.hasTurn with
    | true => exact ⟨e.rounds, e.look, e.last, rfl, hlook⟩
    | false => exact ⟨e.rounds, .entered k, e.last, rfl, rfl⟩
  | entered k => exact ⟨(e.rounds.pause k.idle k.timeout).1, .resigning k, e.last, rfl, rfl⟩
  | resigning k =>
    have hlock : ({ e.lock with status := .follower } : AdvisoryLock) = e.lock := by rw [← hstatus]
    simp only [beginResign, hstatus, reduceCtorEq, if_false, setStatus, hlock]
    exact ⟨e.rounds, .idle, some k, rfl, rfl⟩
  | unlocking s k => cases (congrArg LookPhase.unlocks hl).symm.trans hlook
  | unlocked s answer k => cases (congrArg LookPhase.unlocks hl).symm.trans hlook

end Elector

namespace Departing

variable {d : Departing} {lockId : Int}

theorem Inv.owned_of_not_resigned (h : d.Inv lockId) (hr : d.farewell.resigned = false) : d.elector.Owned lockId :=
  view_eq (FarewellPhase.not_unlocks_of_not_resigned hr) ▸ h.owned

/-- As long as the farewell has not begun to give leadership up, the instance is what its two tasks are. -/
theorem inv_of_not_resigned (hf : d.farewell.resigned = false) (horder : d.farewell = .rounds → d.elector.Order)
    (howned : d.elector.Owned lockId) (hround : d.farewell.left = true → d.elector.round = .idle) : d.Inv lockId := by
  have hview := view_eq (FarewellPhase.not_unlocks_of_not_resigned hf)
  exact ⟨horder, hview.symm ▸ howned, hround, fun hr => by cases hf.symm.trans hr⟩

/-- Once the farewell has begun to give leadership up, a look at the traffic changes nothing that matters. -/
theorem Inv.aside (h : d.Inv lockId) (hr : d.farewell.resigned = true) (r : Rounds) {p : LookPhase} (last : Option Look)
    (hp : p.unlocks = false) : Inv lockId { d with elector := { d.elector with rounds := r, look := p, last } } := by
  obtain ⟨hstatus, hlook⟩ := h.resigned hr
  refine ⟨fun hf => absurd hf (FarewellPhase.ne_rounds_of_resigned hr), ?_, h.round, fun _ => ⟨hstatus, hp⟩⟩
  cases hu : d.farewell.unlocks with
  | true =>
    rw [view_aside hu]
    exact h.owned.rounds r last
  | false =>
    have howned := h.owned
    rw [view_eq hu] at howned
    rw [view_eq (d := { d with elector := { d.elector with rounds := r, look := p, last } }) hu]
    exact (howned.look_phase hlook hp).rounds r last

/-- The last two steps of a farewell leave the look at the traffic where it is. -/
theorem Inv.conclude {l : AdvisoryLock} {v : LockTable} {k : Look} (howned : (d.view.conclude k l v).Owned lockId)
    (hlook : d.elector.look.unlocks = false) (hround : d.elector.round = .idle) (hstatus : l.status = .follower) :
    Inv lockId { d with elector := { d.elector with lock := l, table := v }, farewell := .ended } :=
  ⟨nofun, (howned.look_phase rfl hlook).rounds d.elector.rounds d.elector.last, fun _ => hround, fun _ => ⟨hstatus, hlook⟩⟩

/-- A farewell that gets the session keeps the invariant. -/
theorem Inv.beginFarewell (h : d.Inv lockId) (hf : d.farewell = .leaving) (hlook : d.elector.look.unlocks = false) (m : Mishap) :
    Inv lockId (d.advanceFarewell m) := by
  have hround : d.elector.round = .idle := h.round (by rw [hf]; rfl)
  have howned := h.owned
  rw [view_eq (by rw [hf]; rfl)] at howned
  -- Who resigns here does what a look at the traffic does when its turn to resign has come.
  obtain ⟨hunlocking, hover⟩ :=
    (howned.look_phase (p := .resigning ⟨⟨0⟩, ⟨0⟩⟩) hlook rfl).beginResign rfl (by rw [hround]; rfl)
  have hstatus : d.elector.lock.beginResign.2.1.status = .follower := rfl
  rw [advanceFarewell_leaving hf hlook]
  cases hslot : d.elector.lock.beginResign.1 with
  | none => exact Inv.conclude (hover hslot) hlook hround hstatus
  | some s => exact ⟨nofun, hunlocking s hslot, fun _ => hround, fun _ => ⟨hstatus, hlook⟩⟩

/-- A step of the farewell keeps the invariant. -/
theorem Inv.advanceFarewell (h : d.Inv lockId) (m : Mishap) : Inv lockId (d.advanceFarewell m) := by
  cases hf : d.farewell with
  | rounds =>
    simp only [Departing.advanceFarewell, hf]
    exact h
  | leaving =>
    cases hlook : d.elector.look.unlocks with
    | true =>
      simp only [Departing.advanceFarewell, hf, hlook, if_true]
      exact h
    | false => exact h.beginFarewell hf hlook m
  | unlocking s =>
    have hround : d.elector.round = .idle := h.round (by rw [hf]; rfl)
    have hlook : d.view.look = .unlocking s ⟨⟨0⟩, ⟨0⟩⟩ := by simp only [view, asLook, hf]
    have hsent := h.owned.unlock hlook (by rw [show d.view.round = .idle from hround]; rfl) m
    simp only [Departing.advanceFarewell, hf]
    exact ⟨nofun, hsent, fun _ => hround, fun _ => h.resigned (by rw [hf]; rfl)⟩
  | unlocked s answer =>
    have hround : d.elector.round = .idle := h.round (by rw [hf]; rfl)
    obtain ⟨hstatus, haside⟩ := h.resigned (by rw [hf]; rfl)
    have hlook : d.view.look = .unlocked s answer ⟨⟨0⟩, ⟨0⟩⟩ := by simp only [view, asLook, hf]
    have hover := h.owned.unlocked hlook (by rw [show d.view.round = .idle from hround]; rfl)
    simp only [Departing.advanceFarewell, hf]
    exact Inv.conclude hover haside hround ((d.elector.lock.status_unlocked answer).trans hstatus)
  | ended =>
    simp only [Departing.advanceFarewell, hf]
    exact h

/-- A step of a look at the traffic keeps the invariant. -/
theorem Inv.advanceLook (h : d.Inv lockId) (m : Mishap) : Inv lockId { d with elector := d.elector.advanceLook m } := by
  cases hr : d.farewell.resigned with
  | true =>
    obtain ⟨hstatus, hlook⟩ := h.resigned hr
    obtain ⟨r, p, last, he, hp⟩ := Elector.advanceLook_aside hstatus hlook m
    rw [he]
    exact h.aside hr r last hp
  | false =>
    have howned := h.owned_of_not_resigned hr
    have hround := h.round
    -- A look that has its turn is alone, among rounds and after them.
    have hturn : d.elector.look.hasTurn = true → d.elector.round.competes = false := by
      intro hl
      cases hleft : d.farewell.left with
      | true => rw [hround hleft]; rfl
      | false => exact ((h.order (FarewellPhase.rounds_of_not_left hleft)).not_competes hl).2
    exact inv_of_not_resigned hr (fun hf => (h.order hf).advanceLook howned.look m) (howned.advanceLook hturn m)
      fun hl => (d.elector.round_advanceLook m).trans (hround hl)

/-- A look at the traffic that begins keeps the invariant. -/
theorem Inv.beginLook (h : d.Inv lockId) (k : Look) : Inv lockId { d with elector := d.elector.beginLook k } := by
  cases hr : d.farewell.resigned with
  | true =>
    obtain ⟨r, p, last, he, hp⟩ := Elector.beginLook_aside (h.resigned hr).2 k
    rw [he]
    exact h.aside hr r last hp
  | false =>
    exact inv_of_not_resigned hr (fun hf => (h.order hf).beginLook k) ((h.owned_of_not_resigned hr).beginLook k)
      fun hl => (d.elector.round_beginLook k).trans (h.round hl)

/-- A move of a round, of a look at the traffic or of somebody else keeps the invariant. -/
theorem Inv.elector (h : d.Inv lockId) {m : Elector.Move} (hw : d.waits m = false) :
    Inv lockId { d with elector := d.elector.step m } := by
  obtain ⟨mishap, rfl⟩ | ⟨k, rfl⟩ | ⟨mishap, rfl⟩ | ⟨v, hv, hk⟩ := Elector.step_cases (e := d.elector) h.owned.sameLock m
  · -- Rounds go on only before the farewell.
    have hf : d.farewell = .rounds := FarewellPhase.rounds_of_not_left hw
    have hr : d.farewell.resigned = false := by rw [hf]; rfl
    have hinv := Elector.Inv.advanceRound ⟨h.order hf, h.owned_of_not_resigned hr⟩ mishap
    exact inv_of_not_resigned hr (fun _ => hinv.order) hinv.owned fun hl => by cases hw.symm.trans hl
  · exact h.beginLook k
  · exact h.advanceLook mishap
  · rw [hv]
    exact ⟨fun hf => (h.order hf).table v, h.owned.of_others hk, h.round, h.resigned⟩

theorem Inv.leave (h : d.Inv lockId) : Inv lockId d.leave := by
  unfold Departing.leave
  cases hf : d.farewell with
  | rounds =>
    cases hround : d.elector.round with
    | idle =>
      cases d.signalled with
      | true => exact inv_of_not_resigned rfl nofun (h.owned_of_not_resigned (by rw [hf]; rfl)) fun _ => hround
      | false => exact h
    | waiting => exact h
    | entered => exact h
    | asking w => exact h
    | opened answer => exact h
    | answered s answer => exact h
  | leaving => exact h
  | unlocking s => exact h
  | unlocked s answer => exact h
  | ended => exact h

theorem Inv.unwatch (h : d.Inv lockId) : Inv lockId d.unwatch := by
  unfold Departing.unwatch
  cases d.elector.look with
  | idle =>
    cases d.signalled with
    | true => exact ⟨h.order, h.owned, h.round, h.resigned⟩
    | false => exact h
  | waiting k => exact h
  | entered k => exact h
  | resigning k => exact h
  | unlocking s k => exact h
  | unlocked s answer k => exact h

theorem Inv.step (h : d.Inv lockId) (m : Move) : Inv lockId (d.step m) := by
  cases m with
  | elector m =>
    rw [step_elector]
    split
    · exact h
    · next hw => exact h.elector (Bool.eq_false_iff.2 hw)
  | signal => exact ⟨h.order, h.owned, h.round, h.resigned⟩
  | leave => exact h.leave
  | farewell m => exact h.advanceFarewell m
  | unwatch => exact h.unwatch

theorem Inv.run (h : d.Inv lockId) (moves : List Move) : Inv lockId (d.run moves) := by
  induction moves generalizing d with
  | nil => exact h
  | cons m rest ih => exact ih (h.step m)

theorem inv_start (lockId : Int) : Inv lockId (start lockId) :=
  inv_of_not_resigned rfl (fun _ => (Elector.inv_start lockId).order) (Elector.inv_start lockId).owned nofun

/-! ## The end -/

/-- The task that holds the rounds does not come back. -/
theorem ended_step (h : d.farewell = .ended) (m : Move) : (d.step m).farewell = .ended := by
  cases m with
  | elector m =>
    rw [step_elector]
    split <;> exact h
  | signal => exact h
  | leave => simp only [step, leave, h]
  | farewell m => simp only [step, advanceFarewell, h]
  | unwatch =>
    unfold step unwatch
    dsimp only
    split
    · split <;> exact h
    · exact h

theorem ended_run (h : d.farewell = .ended) (moves : List Move) : (d.run moves).farewell = .ended := by
  induction moves generalizing d with
  | nil => exact h
  | cons m rest ih => exact ih (ended_step h m)

/-- An instance that has let go: it does not lead, and no session that it had opened holds the lock. -/
structure Gone (lockId : Int) (d : Departing) : Prop where
  leads : d.elector.lock.isLeader ≠ .ok true
  holds : ∀ s ∈ d.elector.mine, d.elector.table.depth lockId s = 0

/-- Who has ended its farewell has let go. -/
theorem Inv.gone (h : d.Inv lockId) (he : d.farewell = .ended) : Gone lockId d := by
  obtain ⟨hstatus, hlook⟩ := h.resigned (by rw [he]; rfl)
  have hround : d.elector.round.competes = false := by
    rw [h.round (by rw [he]; rfl)]
    rfl
  have hnot : d.elector.lock.status ≠ .leader := by
    rw [hstatus]
    exact nofun
  have howned := h.owned
  rw [view_eq (by rw [he]; rfl)] at howned
  have hstake := howned.stake
  rw [Elector.stake_of_calm hround hlook, stake_of_not_leader hnot] at hstake
  exact ⟨fun hl => hnot ((isLeader_eq_true_iff _).1 hl), hstake⟩

/-- Whatever rounds, pauses, failures and lost sessions came before, and wherever the tasks were when the signal was given: when the
task that holds the rounds has ended, the instance has let go, and nothing that is left to happen makes it take part again. -/
theorem farewell_lasts (lockId : Int) (moves : List Move) (h : ((start lockId).run moves).farewell = .ended) (more : List Move) :
    Gone lockId (((start lockId).run moves).run more) :=
  (((inv_start lockId).run moves).run more).gone (ended_run h more)

/-- The signal is given while a leader waits for the answer to a probe. When the round is over and the farewell asks for the session,
a look at the traffic is about to do so too, and the request to give the lock back is lost. -/
def lostFarewell : List Move :=
  List.replicate 11 (.elector (.round {})) ++
    [.signal, .leave, .elector (.round {}), .elector (.beginLook ⟨⟨3⟩, ⟨2⟩⟩), .elector (.look {}), .elector (.look {}),
      .leave, .farewell {}, .elector (.look {}), .farewell { fate := .lost }, .farewell {}]

/-- After the end the look at the traffic finds nothing to give back, and somebody else gets the lock. -/
theorem farewell_lasts_lostFarewell :
    ((start 42).run lostFarewell).farewell = .ended ∧
      Gone 42 (((start 42).run lostFarewell).run [.elector (.look {}), .unwatch, .elector .open, .elector (.take 1)]) :=
  ⟨rfl, farewell_lasts 42 lostFarewell rfl _⟩

end Departing

end Intake
