import Intake.Leadership.Lock
import Intake.Leadership.Rounds
import Intake.Proofs.Act

/-!
# Rounds: what a round and a look at the traffic leave

One call at a time, whatever the lock server says: what it leaves of the rounds and of the lock, and what it announces. Only a round
announces a change of leadership, and it compares its own result with that of the round before. The result of a round is that of
competing for the lock, which says who leads exactly as the status does (`won_compete`).
-/

namespace Intake

/-- Whether an event is about a change of leadership. -/
def Event.announces : Event → Bool
  | .becameLeader _ | .lostLeadership _ => true
  | _ => false

/-- Events of which none is about a change of leadership. -/
def Unannounced (events : List Event) : Prop := ∀ e ∈ events, e.announces = false

theorem unannounced_nil : Unannounced [] := fun _ he => absurd he List.not_mem_nil

theorem unannounced_singleton {e : Event} (h : e.announces = false) : Unannounced [e] := by
  intro x hx
  rw [List.mem_singleton.1 hx]
  exact h

theorem Unannounced.append {events events' : List Event} (h : Unannounced events) (h' : Unannounced events') :
    Unannounced (events ++ events') := by
  intro e he
  rcases List.mem_append.1 he with he | he
  · exact h e he
  · exact h' e he

/-- One act after another. -/
theorem unannounced_bind {σ α β : Type} {a : Act σ α} {f : α → Act σ β} {s : σ} (ha : Unannounced (a.run s).2.2)
    (hf : ∀ x s', Unannounced ((f x).run s').2.2) : Unannounced ((a >>= f).run s).2.2 := by
  rw [Act.run_bind]
  exact ha.append (hf _ _)

theorem Unannounced.filter {events : List Event} (h : Unannounced events) : events.filter Event.announces = [] := by
  rw [List.filter_eq_nil_iff]
  intro e he
  simp [h e he]

namespace AdvisoryLock

variable {σ : Type} {svc : LockService σ} {l : AdvisoryLock} {s : σ}

/-! ## Competing -/

theorem unannounced_setStatus (l : AdvisoryLock) (next : LockStatus) : Unannounced (l.setStatus next).2 := by
  unfold setStatus
  dsimp only
  split
  · exact unannounced_nil
  · exact unannounced_singleton rfl

/-- The end of a call that competes. -/
inductive Concludes (l : AdvisoryLock) : Except ElectionError Bool × AdvisoryLock × List Event → Prop where
  | refused (cause : StorageError) : Concludes l (l.connectFailed cause)
  | checked (session : Nat) (answer : Except DatabaseFault Bool) : Concludes l (l.checked session answer)

variable {x : Except ElectionError Bool × AdvisoryLock × List Event}

/-- Who competes has won exactly if its status is that of a leader then. -/
theorem Concludes.won (h : Concludes l x) : Rounds.won x.1 = true ↔ x.2.1.status = .leader := by
  cases h with
  | refused cause => exact ⟨nofun, nofun⟩
  | checked session answer =>
    rcases answer with cause | leads
    · exact ⟨nofun, nofun⟩
    · cases leads with
      | true => exact ⟨fun _ => rfl, fun _ => rfl⟩
      | false => exact ⟨nofun, nofun⟩

theorem Concludes.lockId (h : Concludes l x) : x.2.1.lockId = l.lockId := by
  cases h with
  | refused cause => rfl
  | checked session answer => cases answer <;> rfl

theorem Concludes.unannounced (h : Concludes l x) : Unannounced x.2.2 := by
  cases h with
  | refused cause => exact unannounced_setStatus l _
  | checked session answer =>
    cases answer with
    | error cause => exact unannounced_setStatus l _
    | ok leads => exact unannounced_setStatus _ _

/-- A check ends with the answer of the server. -/
theorem run_check_concludes (svc : LockService σ) (l : AdvisoryLock) (s : σ) (session : Nat) (confirming : Bool) :
    ∃ x s', Concludes l x ∧ (check svc session confirming).run (l, s) = (x.1, (x.2.1, s'), x.2.2) :=
  ⟨l.checked session (ask svc l session confirming s).1, _, .checked session _, rfl⟩

/-- Who competes waits for a session at most, and for the answer to a check. What opening a session reports comes first. -/
theorem run_compete_concludes (svc : LockService σ) (l : AdvisoryLock) (s : σ) :
    ∃ l' x s' before, l'.lockId = l.lockId ∧ Concludes l' x ∧ (before = [] ∨ before = (svc.connect s).2.2) ∧
      (compete svc).run (l, s) = (x.1, (x.2.1, s'), before ++ x.2.2) := by
  cases hslot : l.session with
  | some session =>
    obtain ⟨x, s', hx, hrun⟩ := run_check_concludes svc { l with session := none } s session (decide (l.status = .leader))
    refine ⟨{ l with session := none }, x, s', [], rfl, hx, Or.inl rfl, ?_⟩
    have hcompete : (compete svc).run (l, s) =
        (check svc session (decide (l.status = .leader))).run ({ l with session := none }, s) := by
      simp only [Act.run, compete, beginCompete, hslot, checkOn]
    rw [hcompete, hrun]
    rfl
  | none =>
    have hbegin : l.beginCompete = (.connect, l) := by simp only [beginCompete, hslot]
    rcases hconnect : svc.connect s with ⟨cause | session, s', events⟩
    · refine ⟨l, l.connectFailed cause, s', events, rfl, .refused cause, Or.inr rfl, ?_⟩
      simp only [Act.run, compete, hbegin, hconnect]
    · obtain ⟨x, s'', hx, hrun⟩ := run_check_concludes svc l s' session (decide (l.status = .leader))
      refine ⟨l, x, s'', events, rfl, hx, Or.inr rfl, ?_⟩
      simp only [Act.run] at hrun
      simp only [Act.run, compete, hbegin, hconnect, hrun]

/-- What an instance answers that competes is what its status says. -/
theorem won_compete (svc : LockService σ) (l : AdvisoryLock) (s : σ) :
    Rounds.won ((compete svc).run (l, s)).1 = true ↔ ((compete svc).run (l, s)).2.1.1.status = .leader := by
  obtain ⟨l', x, s', before, -, hx, -, hrun⟩ := run_compete_concludes svc l s
  rw [hrun]
  exact hx.won

theorem lockId_compete (svc : LockService σ) (l : AdvisoryLock) (s : σ) : ((compete svc).run (l, s)).2.1.1.lockId = l.lockId := by
  obtain ⟨l', x, s', before, hid, hx, -, hrun⟩ := run_compete_concludes svc l s
  rw [hrun]
  exact hx.lockId.trans hid

theorem unannounced_compete (h : Unannounced (svc.connect s).2.2) : Unannounced ((compete svc).run (l, s)).2.2 := by
  obtain ⟨l', x, s', before, -, hx, hbefore, hrun⟩ := run_compete_concludes svc l s
  rw [hrun]
  refine Unannounced.append ?_ hx.unannounced
  rcases hbefore with rfl | rfl
  · exact unannounced_nil
  · exact h

/-! ## Resigning -/

/-- The answer to giving the lock back leaves the status as it is. -/
theorem status_unlocked (l : AdvisoryLock) (answer : Except DatabaseFault Bool) : (l.unlocked answer).2.1.status = l.status := by
  rcases answer with cause | held
  · rfl
  · cases held <;> rfl

theorem lockId_unlocked (l : AdvisoryLock) (answer : Except DatabaseFault Bool) : (l.unlocked answer).2.1.lockId = l.lockId := by
  rcases answer with cause | held
  · rfl
  · cases held <;> rfl

theorem unannounced_unlocked (l : AdvisoryLock) (answer : Except DatabaseFault Bool) : Unannounced (l.unlocked answer).2.2 := by
  rcases answer with cause | held
  · exact unannounced_nil
  · cases held with
    | true => exact unannounced_singleton rfl
    | false => exact unannounced_singleton rfl

/-- Who gives leadership up is a follower first; then the lock is given back, if there is one. -/
theorem run_resign_cases (svc : LockService σ) (l : AdvisoryLock) (s : σ) :
    ∃ l' s' after, l'.lockId = l.lockId ∧ l'.status = .follower ∧ Unannounced after ∧
      ((resign svc).run (l, s)).2 = ((l', s'), (l.setStatus .follower).2 ++ after) := by
  rcases hbegin : l.beginResign with ⟨slot, l', events⟩
  have hl' : l' = { l with status := .follower } := (congrArg (fun r => r.2.1) hbegin).symm
  have hevents : events = (l.setStatus .follower).2 := (congrArg (fun r => r.2.2) hbegin).symm
  cases slot with
  | none =>
    refine ⟨l', s, [], by rw [hl'], by rw [hl'], unannounced_nil, ?_⟩
    simp only [Act.run, resign, hbegin, hevents, List.append_nil]
  | some session =>
    rcases hletGo : letGo svc session (l', s) with ⟨r, ⟨l'', s'⟩, after⟩
    have hl'' : (l'.unlocked (svc.unlock session l'.lockId s).1).2.1 = l'' := congrArg (fun x => x.2.1.1) hletGo
    have hafter : (l'.unlocked (svc.unlock session l'.lockId s).1).2.2 = after := congrArg (fun x => x.2.2) hletGo
    refine ⟨l'', s', after, ?_, ?_, ?_, ?_⟩
    · rw [← hl'', lockId_unlocked, hl']
    · rw [← hl'', status_unlocked, hl']
    · rw [← hafter]
      exact unannounced_unlocked l' _
    · simp only [Act.run, resign, hbegin, hevents, hletGo]

/-- Whatever the server says, who gives leadership up is a follower. -/
theorem status_resign (svc : LockService σ) (l : AdvisoryLock) (s : σ) :
    (resign svc).Yields (l, s) fun _ t => t.1.status = .follower := by
  obtain ⟨l', s', after, -, hstatus, -, hrun⟩ := run_resign_cases svc l s
  rw [Act.Yields, hrun]
  exact hstatus

theorem lockId_resign (svc : LockService σ) (l : AdvisoryLock) (s : σ) : ((resign svc).run (l, s)).2.1.1.lockId = l.lockId := by
  obtain ⟨l', s', after, hid, -, -, hrun⟩ := run_resign_cases svc l s
  rw [hrun]
  exact hid

theorem unannounced_resign (svc : LockService σ) (l : AdvisoryLock) (s : σ) : Unannounced ((resign svc).run (l, s)).2.2 := by
  obtain ⟨l', s', after, -, -, hafter, hrun⟩ := run_resign_cases svc l s
  rw [hrun]
  exact (unannounced_setStatus l .follower).append hafter

end AdvisoryLock

namespace Rounds

variable {σ : Type} {c : Candidate σ} {idle timeout : Span}

/-! ## Calls -/

/-- A round in a pause is lost, and nobody is asked. -/
theorem run_paused (c : Candidate σ) {r : Rounds} (h : r.paused = true) (s : σ) :
    (run c).run (r, s) = (.ok false, (r, s), [.roundSkipped]) := by
  simp only [Act.run, run, h, if_true]

/-- A round without a pause is what competing is, and a comparison with the round before. -/
theorem run_unpaused (c : Candidate σ) {r : Rounds} (h : r.paused = false) (s : σ) :
    (run c).run (r, s) =
      ((c.compete.run s).1, ((r.settle (c.id (c.compete.run s).2.1) (c.compete.run s).1).1, (c.compete.run s).2.1),
        (c.compete.run s).2.2 ++ (r.settle (c.id (c.compete.run s).2.1) (c.compete.run s).1).2) := by
  simp only [Act.run, run, h, Bool.false_eq_true, if_false]

/-- A look that finds too little traffic pauses and resigns. -/
theorem checkIdle_of_idle (h : timeout < idle) (r : Rounds) (s : σ) :
    ((checkIdle c idle timeout).run (r, s)).2.1 = ({ paused := true, leading := false }, (c.resign.run s).2.1) := by
  simp only [Act.run, checkIdle, h, if_true]
  rfl

/-- A look that finds traffic ends a pause. -/
theorem checkIdle_of_busy (h : ¬timeout < idle) (r : Rounds) (s : σ) :
    ((checkIdle c idle timeout).run (r, s)).2.1 = ({ r with paused := false }, s) := by
  simp only [Act.run, checkIdle, h, if_false]
  rfl

/-- A look at the traffic announces nothing that giving leadership up does not. -/
theorem unannounced_checkIdle {s : σ} (h : Unannounced (c.resign.run s).2.2) (r : Rounds) :
    Unannounced ((checkIdle c idle timeout).run (r, s)).2.2 := by
  have hpause : Unannounced (r.pause idle timeout).2 := by
    unfold pause
    dsimp only
    split
    · exact unannounced_nil
    · exact unannounced_singleton rfl
  have hresume : Unannounced r.resume.2 := by
    unfold resume
    dsimp only
    split
    · exact unannounced_singleton rfl
    · exact unannounced_nil
  unfold checkIdle Act.run
  dsimp only
  by_cases hlong : timeout < idle
  · rw [if_pos hlong]
    refine (hpause.append h).append ?_
    split
    · exact unannounced_nil
    · exact unannounced_singleton rfl
  · rw [if_neg hlong]
    exact hresume

end Rounds

end Intake
