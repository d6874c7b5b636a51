import Mathlib.Logic.Function.Basic
import Intake.Proofs.Leadership.LockTable

/-!
# Safety: at most one of those who believe they lead does

Any number of instances compete for one lock of a server on which every request can fail and every session can be ended at any
moment. What an instance believes (`AdvisoryLock.isLeader`) and what the server knows (`LockTable.holder`) come apart only when
the server ends a session: a leader whose session lives holds the lock, exactly once. `Settled` says what is true of one instance
between two calls, `Turn` what one call of one instance does; `Group.Inv` ties the instances of a group together, and
`Group.Safe` is what follows for every run.
-/

namespace Intake

open LockTable FaultyServer

namespace AdvisoryLock

/-- What an instance has of the lock between two calls: the session of a leader holds the lock once for as long as it lives,
the session of anybody else does not hold it, and after a failed check there is no session. -/
structure Settled (l : AdvisoryLock) (v : LockTable) : Prop where
  leader : l.status = .leader → ∃ s, l.session = some s ∧ (v.Live s → v.depth l.lockId s = 1)
  other : l.status ≠ .leader → ∀ s, l.session = some s → v.depth l.lockId s = 0
  failed : ∀ reason, l.status = .failed reason → l.session = none
  opened : ∀ s, l.session = some s → s < v.opened

/-- What a call of one instance does to it and to the server. -/
structure Turn (l : AdvisoryLock) (v : LockTable) (l' : AdvisoryLock) (v' : LockTable) : Prop where
  lockId : l'.lockId = l.lockId
  settled : l'.Settled v'
  keeps : Keeps l.lockId (fun s => l.session = some s ∨ v.opened ≤ s) v v'
  slot : ∀ s, l'.session = some s → l.session = some s ∨ v.opened ≤ s
  /-- A session that the instance had or opened, and that is not in its slot any more, holds nothing. -/
  left : ∀ s, l.session = some s ∨ v.opened ≤ s → l'.session ≠ some s → v'.depth l.lockId s = 0

variable {l l' : AdvisoryLock} {v v' : LockTable}

/-- What others do leaves an instance settled. -/
theorem Settled.keeps {mine : Nat → Prop} (h : l.Settled v) (hk : Keeps l.lockId mine v v')
    (hm : ∀ s, l.session = some s → ¬mine s) : l.Settled v' := by
  refine ⟨?_, ?_, h.failed, fun s hs => Nat.lt_of_lt_of_le (h.opened s hs) hk.opened⟩
  · intro hl
    obtain ⟨s, hs, h1⟩ := h.leader hl
    refine ⟨s, hs, fun hlive => ?_⟩
    rw [hk.depth_eq (hm s hs) hlive]
    exact h1 (hk.live (h.opened s hs) hlive)
  · intro hl s hs
    exact hk.depth_zero (hm s hs) (h.other hl s hs)

/-- A call that uses one session, the kept one or a new one, and leaves it in the slot or closes it. -/
theorem Turn.of_session {s : Nat} (hfresh : ∀ t, v.opened ≤ t → v.depth l.lockId t = 0)
    (hs : l.session = some s ∨ l.session = none ∧ v.opened ≤ s) (hid : l'.lockId = l.lockId) (hset : l'.Settled v')
    (hk : Keeps l.lockId (· = s) v v') (hslot : l'.session = some s ∨ l'.session = none ∧ v'.depth l.lockId s = 0) :
    l.Turn v l' v' := by
  have hmine : l.session = some s ∨ v.opened ≤ s := hs.imp_right And.right
  refine ⟨hid, hset, hk.mono fun t ht => ht ▸ hmine, ?_, ?_⟩
  · intro t ht
    rcases hslot with e | ⟨e, _⟩
    · cases e.symm.trans ht
      exact hmine
    · cases e.symm.trans ht
  · intro t ht hne
    by_cases hts : t = s
    · subst hts
      rcases hslot with e | ⟨_, e⟩
      · exact absurd e hne
      · exact e
    · rcases ht with ht | ht
      · rcases hs with e | ⟨e, _⟩
        · exact absurd (Option.some.inj (ht.symm.trans e)) hts
        · cases e.symm.trans ht
      · exact hk.depth_zero hts (hfresh t ht)

/-- An instance that has just begun is settled. -/
theorem settled_start (lockId : Int) (v : LockTable) : Settled { lockId } v := by
  refine ⟨?_, ?_, fun _ _ => rfl, ?_⟩
  · intro h
    cases h
  · intro _ s h
    cases h
  · intro s h
    cases h

/-- Who answers that it leads has the status of a leader. -/
theorem isLeader_eq_true_iff (l : AdvisoryLock) : l.isLeader = .ok true ↔ l.status = .leader := by
  unfold isLeader
  cases l.status <;> simp

theorem isLeader_of_follower (h : l.status = .follower) : l.isLeader = .ok false := by
  rw [isLeader, h]

/-- Who answers with an error has a failed status. -/
theorem failed_of_isLeader {e : ElectionError} (h : l.isLeader = .error e) : ∃ reason, l.status = .failed reason := by
  unfold isLeader at h
  cases hs : l.status with
  | follower => rw [hs] at h; cases h
  | leader => rw [hs] at h; cases h
  | failed reason => exact ⟨reason, rfl⟩

/-! ## Competing -/

variable {v : FaultyServer} {s : Nat} {confirming : Bool}

/-- What is asked on a session concerns no other session. -/
theorem keeps_ask (l : AdvisoryLock) (s : Nat) (confirming : Bool) (v : FaultyServer) :
    Keeps l.lockId (· = s) v.table (ask service l s confirming v).2.table := by
  cases confirming with
  | true =>
    have h := statement_cases s (fun v => ((), v)) v
    have he : (ask service l s true v).2.table = v.arrival := by
      rcases h with ⟨_, _, h⟩ | ⟨_, h | h⟩ <;> exact h
    rw [he]
    exact keeps_arrival v
  | false =>
    rcases statement_cases s (take s l.lockId) v with ⟨_, _, h⟩ | ⟨_, h | h⟩
    · exact h ▸ (keeps_arrival v).trans (keeps_take _ s)
    · exact h ▸ keeps_arrival v
    · exact h ▸ (keeps_arrival v).trans (keeps_take _ s)

theorem opened_ask (l : AdvisoryLock) (s : Nat) (confirming : Bool) (v : FaultyServer) :
    (ask service l s confirming v).2.table.opened = v.table.opened := by
  cases confirming with
  | true =>
    rcases statement_cases s (fun v => ((), v)) v with ⟨_, _, h⟩ | ⟨_, h | h⟩ <;>
      exact (congrArg LockTable.opened h).trans (opened_arrival v)
  | false =>
    rcases statement_cases s (take s l.lockId) v with ⟨_, _, h⟩ | ⟨_, h | h⟩
    · exact (congrArg LockTable.opened h).trans (opened_take.trans (opened_arrival v))
    · exact (congrArg LockTable.opened h).trans (opened_arrival v)
    · exact (congrArg LockTable.opened h).trans (opened_take.trans (opened_arrival v))

/-- An answer comes from a session that lives. A probe changes nothing; an attempt that succeeds takes the lock once more, and
one that does not shows that the session does not hold it. -/
theorem ask_ok {b : Bool} (hs : s < v.table.opened) (h : (ask service l s confirming v).1 = .ok b) :
    v.table.Live s ∧ (ask service l s confirming v).2.table.depth l.lockId s =
      if b then v.table.depth l.lockId s + (if confirming then 0 else 1) else 0 := by
  have hk : Keeps l.lockId (fun _ => False) v.table v.arrival := keeps_arrival v
  cases confirming with
  | true =>
    rcases statement_cases s (fun v => ((), v)) v with ⟨hl, hr, ht⟩ | ⟨⟨fault, hr⟩, _⟩
    · have hb : b = true := by
        have : (ask service l s true v).1 = .ok true := congrArg (Except.map fun _ => true) hr
        exact (Except.ok.inj (this.symm.trans h)).symm
      refine ⟨hk.live hs hl, ?_⟩
      rw [hb, if_pos rfl, if_pos rfl, ← hk.depth_eq not_false hl]
      exact congrArg (fun t => LockTable.depth t l.lockId s) ht
    · have : (ask service l s true v).1 = .error fault := congrArg (Except.map fun _ => true) hr
      rw [this] at h
      cases h
  | false =>
    rcases statement_cases s (take s l.lockId) v with ⟨hl, hr, ht⟩ | ⟨⟨fault, hr⟩, _⟩
    · have hb : (take s l.lockId v.arrival).1 = b := Except.ok.inj (hr.symm.trans h)
      refine ⟨hk.live hs hl, ?_⟩
      rw [← hk.depth_eq not_false hl]
      refine (congrArg (fun t => LockTable.depth t l.lockId s) ht).trans ?_
      rw [depth_take, hb]
      cases b with
      | true => simp
      | false => simpa using depth_of_refused hb
    · have : (ask service l s false v).1 = .error fault := hr
      rw [this] at h
      cases h

/-- A check, by its parts: the question, what it means to the instance, and the end of a session that failed. -/
theorem check_state {σ : Type} (svc : LockService σ) (l : AdvisoryLock) (s : Nat) (confirming : Bool) (v : σ) :
    (check svc s confirming (l, v)).2.1 =
      ((l.checked s (ask svc l s confirming v).1).2.1,
        if (ask svc l s confirming v).1.isOk then (ask svc l s confirming v).2
        else svc.close s (ask svc l s confirming v).2) := rfl

/-- A check on a session that is out of its slot: it goes back into the slot, or it is closed and holds nothing. -/
theorem check_settled (hs : s < v.table.opened) (hslot : l.session = none)
    (hleader : l.status = .leader → v.table.Live s → v.table.depth l.lockId s = 1)
    (hother : l.status ≠ .leader → v.table.depth l.lockId s = 0) {q : AdvisoryLock × FaultyServer}
    (hq : (check service s (decide (l.status = .leader)) (l, v)).2.1 = q) :
    q.1.lockId = l.lockId ∧ q.1.Settled q.2.table ∧ Keeps l.lockId (· = s) v.table q.2.table ∧
      (q.1.session = some s ∨ q.1.session = none ∧ q.2.table.depth l.lockId s = 0) := by
  subst hq
  have hk := keeps_ask l s (decide (l.status = .leader)) v
  have ho := opened_ask l s (decide (l.status = .leader)) v
  have hok : ∀ b, (ask service l s (decide (l.status = .leader)) v).1 = .ok b → _ := fun b => ask_ok hs
  rw [check_state]
  generalize ask service l s (decide (l.status = .leader)) v = a at hk ho hok
  obtain ⟨answer, v'⟩ := a
  simp only at hk ho hok
  cases answer with
  | ok b =>
    obtain ⟨hlive, hd⟩ := hok b rfl
    refine ⟨rfl, ⟨?_, ?_, ?_, ?_⟩, hk, Or.inl rfl⟩
    · intro hl
      refine ⟨s, rfl, fun _ => ?_⟩
      have hb : b = true := by
        cases b with
        | true => rfl
        | false => cases hl
      subst hb
      change v'.table.depth l.lockId s = 1
      by_cases hlead : l.status = .leader
      · simpa [hlead, hleader hlead hlive] using hd
      · simpa [hlead, hother hlead] using hd
    · intro hl t ht
      have hb : b = false := by
        cases b with
        | true => exact absurd rfl hl
        | false => rfl
      cases ht
      change v'.table.depth l.lockId s = 0
      simpa [hb] using hd
    · intro reason hf
      cases b <;> cases hf
    · intro t ht
      cases ht
      exact ho ▸ hs
  | error cause =>
    have hd : (v'.table.endSession s).depth l.lockId s = 0 := by rw [depth_endSession, if_pos rfl]
    refine ⟨rfl, ⟨?_, ?_, fun _ _ => hslot, ?_⟩, hk.trans (keeps_endSession _ s), Or.inr ⟨hslot, hd⟩⟩
    · intro hl
      cases hl
    · intro _ t ht
      exact absurd (hslot.symm.trans ht) (by simp)
    · intro t ht
      exact absurd (hslot.symm.trans ht) (by simp)

/-- The state after competing: the check on the kept session, or on one that is opened for it. -/
theorem compete_state {σ : Type} (svc : LockService σ) (l : AdvisoryLock) (v : σ) :
    (compete svc (l, v)).2.1 =
      match l.session with
      | some s => (check svc s (decide (l.status = .leader)) ({ l with session := none }, v)).2.1
      | none =>
        match (svc.connect v).1 with
        | .error cause => ((l.connectFailed cause).2.1, (svc.connect v).2.1)
        | .ok s => (check svc s (decide (l.status = .leader)) (l, (svc.connect v).2.1)).2.1 := by
  obtain ⟨lockId, session, status⟩ := l
  cases session with
  | some s => rfl
  | none =>
    simp only [compete, beginCompete]
    rcases svc.connect v with ⟨_ | _, _, _⟩ <;> rfl

/-- An instance that competes stays settled, and no other session is touched. -/
theorem compete_turn (h : l.Settled v.table) (hfresh : ∀ s, v.table.opened ≤ s → v.table.depth l.lockId s = 0)
    {q : AdvisoryLock × FaultyServer} (hq : (compete service (l, v)).2.1 = q) : l.Turn v.table q.1 q.2.table := by
  rw [compete_state] at hq
  cases hsl : l.session with
  | some s =>
    rw [hsl] at hq
    have hleader : l.status = .leader → v.table.Live s → v.table.depth l.lockId s = 1 := by
      intro hl
      obtain ⟨t, ht, hd⟩ := h.leader hl
      cases hsl.symm.trans ht
      exact hd
    obtain ⟨hid, hset, hk, hslot⟩ := check_settled (l := { l with session := none }) (h.opened s hsl) rfl hleader
      (fun hl => h.other hl s hsl) hq
    exact Turn.of_session hfresh (Or.inl hsl) hid hset hk hslot
  | none =>
    rw [hsl] at hq
    rcases connect_cases l.lockId (fun _ => False) v with ⟨hr, ht⟩ | ⟨⟨e, hr⟩, hk⟩
    · have hr' : (service.connect v).1 = .ok v.table.opened := hr
      rw [hr'] at hq
      have hopen : Keeps l.lockId (fun _ => False) v.table (connect v).2.table :=
        ht ▸ (keeps_arrival v).trans ⟨by simp, fun _ h => h, fun _ _ => Or.inl rfl⟩
      have hnew : v.table.opened < (connect v).2.table.opened := ht ▸ Nat.lt_succ_self _
      have hstatus : l.status ≠ .leader := by
        intro hl
        obtain ⟨s, hs, _⟩ := h.leader hl
        cases hsl.symm.trans hs
      have hzero : (connect v).2.table.depth l.lockId v.table.opened = 0 :=
        hopen.depth_zero not_false (hfresh _ (Nat.le_refl _))
      obtain ⟨hid, hset, hk, hslot⟩ := check_settled (v := (connect v).2) hnew hsl (fun hl => absurd hl hstatus)
        (fun _ => hzero) hq
      exact Turn.of_session hfresh (Or.inr ⟨hsl, Nat.le_refl _⟩) hid hset ((hopen.mono fun _ hf => hf.elim).trans hk) hslot
    · have hr' : (service.connect v).1 = .error e := hr
      rw [hr'] at hq
      subst hq
      have hset : Settled (l.connectFailed e).2.1 (connect v).2.table := by
        refine ⟨?_, ?_, fun _ _ => hsl, ?_⟩
        · intro hl
          cases hl
        · intro _ t ht
          cases hsl.symm.trans ht
        · intro t ht
          cases hsl.symm.trans ht
      exact Turn.of_session hfresh (Or.inr ⟨hsl, Nat.le_refl _⟩) rfl hset (hk.mono fun _ hf => hf.elim)
        (Or.inr ⟨hsl, hk.depth_zero not_false (hfresh _ (Nat.le_refl _))⟩)

/-- On a session that has ended every check fails. -/
theorem compete_of_lost {s : Nat} (hsl : l.session = some s) (hs : s < v.table.opened) (hlost : ¬v.table.Live s) :
    (compete service (l, v)).2.1.1.status ≠ .leader := by
  rw [compete_state, hsl]
  simp only [check_state]
  cases hr : (ask service { l with session := none } s (decide (l.status = .leader)) v).1 with
  | ok b => exact absurd (ask_ok hs hr).1 hlost
  | error cause => simp [checked, setStatus]

/-! ## Resigning -/

/-- Giving the lock back, by its parts: the request, what its answer means to the instance, and the end of a session that
failed. -/
theorem letGo_state {σ : Type} (svc : LockService σ) (l : AdvisoryLock) (s : Nat) (v : σ) :
    (letGo svc s (l, v)).2.1 =
      ((l.unlocked (svc.unlock s l.lockId v).1).2.1,
        if (svc.unlock s l.lockId v).1.isOk then (svc.unlock s l.lockId v).2
        else svc.close s (svc.unlock s l.lockId v).2) := rfl

/-- A session that held the lock at most once and lets go of it holds nothing, whatever the server says. -/
theorem letGo_settled (hstatus : l.status = .follower) (hsl : l.session = some s) (hs : s < v.table.opened)
    (hd : v.table.Live s → v.table.depth l.lockId s ≤ 1) {q : AdvisoryLock × FaultyServer}
    (hq : (letGo service s (l, v)).2.1 = q) :
    q.1.lockId = l.lockId ∧ q.1.status = .follower ∧ q.1.Settled q.2.table ∧ Keeps l.lockId (· = s) v.table q.2.table ∧
      q.2.table.depth l.lockId s = 0 ∧ (q.1.session = some s ∨ q.1.session = none) := by
  have hk : Keeps l.lockId (fun _ => False) v.table v.arrival := keeps_arrival v
  have hgive : Keeps l.lockId (· = s) v.table (giveBack s l.lockId v.arrival).2 :=
    (keeps_arrival v).trans (keeps_giveBack _ s)
  rw [letGo_state] at hq
  rcases statement_cases s (giveBack s l.lockId) v with ⟨hlive, hr, ht⟩ | ⟨⟨fault, hr⟩, ht⟩
  · have h0 : (giveBack s l.lockId v.arrival).2.depth l.lockId s = 0 := by
      have h1 := hd (hk.live hs hlive)
      rw [depth_giveBack, if_pos rfl, hk.depth_eq not_false hlive]
      omega
    have hr' : (service.unlock s l.lockId v).1 = .ok (giveBack s l.lockId v.arrival).1 := hr
    have hl' : (l.unlocked (.ok (giveBack s l.lockId v.arrival).1)).2.1 = l := by
      cases (giveBack s l.lockId v.arrival).1 <;> rfl
    have ht' : q.2.table = (giveBack s l.lockId v.arrival).2 := by
      rw [← hq, hr', ← ht]
      rfl
    have hq' : q.1 = l := by rw [← hq, hr', hl']
    rw [hq', ht']
    refine ⟨rfl, hstatus, ⟨?_, ?_, ?_, ?_⟩, hgive, h0, Or.inl hsl⟩
    · intro h
      cases hstatus.symm.trans h
    · intro _ t ht
      cases hsl.symm.trans ht
      exact h0
    · intro reason h
      cases hstatus.symm.trans h
    · intro t ht
      cases hsl.symm.trans ht
      exact Nat.lt_of_lt_of_le hs hgive.opened
  · have hr' : (service.unlock s l.lockId v).1 = .error fault := hr
    have ht' : Keeps l.lockId (· = s) v.table (service.unlock s l.lockId v).2.table := by
      rcases ht with ht | ht
      · exact ht ▸ keeps_arrival v
      · exact ht ▸ hgive
    rw [hr'] at hq
    subst hq
    have h0 : ((service.unlock s l.lockId v).2.table.endSession s).depth l.lockId s = 0 := by
      rw [depth_endSession, if_pos rfl]
    refine ⟨rfl, hstatus, ⟨?_, ?_, fun _ _ => rfl, ?_⟩, ht'.trans (keeps_endSession _ s), h0, Or.inr rfl⟩
    · intro h
      cases hstatus.symm.trans h
    · intro _ t ht
      cases ht
    · intro t ht
      cases ht

theorem resign_of_leader {σ : Type} (svc : LockService σ) (v : σ) (hl : l.status = .leader) (hsl : l.session = some s) :
    (resign svc (l, v)).2.1 = (letGo svc s ({ l with status := .follower }, v)).2.1 := by
  obtain ⟨lockId, session, status⟩ := l
  subst hl hsl
  rfl

theorem resign_of_not_leader {σ : Type} (svc : LockService σ) (v : σ) (hl : l.status ≠ .leader) :
    (resign svc (l, v)).2.1 = ({ l with status := .follower }, v) := by
  simp only [resign, beginResign, if_neg hl]
  rfl

/-- An instance that resigns stays settled and does not lead any more, and no other session is touched. -/
theorem resign_turn (h : l.Settled v.table) (hfresh : ∀ s, v.table.opened ≤ s → v.table.depth l.lockId s = 0)
    {q : AdvisoryLock × FaultyServer} (hq : (resign service (l, v)).2.1 = q) :
    l.Turn v.table q.1 q.2.table ∧ q.1.status = .follower := by
  by_cases hl : l.status = .leader
  · obtain ⟨s, hsl, hd⟩ := h.leader hl
    rw [resign_of_leader service v hl hsl] at hq
    obtain ⟨hid, hstatus, hset, hk, h0, hslot⟩ := letGo_settled (l := { l with status := .follower }) rfl hsl (h.opened s hsl)
      (fun hlive => Nat.le_of_eq (hd hlive)) hq
    exact ⟨Turn.of_session hfresh (Or.inl hsl) hid hset hk (hslot.imp_right fun e => ⟨e, h0⟩), hstatus⟩
  · rw [resign_of_not_leader service v hl] at hq
    subst hq
    refine ⟨⟨rfl, ⟨?_, fun _ => h.other hl, ?_, h.opened⟩, Keeps.refl _, fun t ht => Or.inl ht, ?_⟩, rfl⟩
    · intro h
      cases h
    · intro reason h
      cases h
    · intro t ht hne
      rcases ht with ht | ht
      · exact absurd ht hne
      · exact hfresh t ht

end AdvisoryLock

/-! ## A group that competes for one lock -/

/-- Instances that compete for a lock of one server. -/
structure Group (ι : Type) where
  lock : ι → AdvisoryLock
  table : LockTable

/-- What can happen to a group: a call of an instance, with what befalls its requests, or the server ends a session. -/
inductive Move (ι : Type) where
  | compete (i : ι) (mishaps : List Mishap)
  | resign (i : ι) (mishaps : List Mishap)
  | lose (session : Nat)

namespace Group

open AdvisoryLock

variable {ι : Type}

/-- A group that has just begun, in front of a server without sessions. -/
def start (ι : Type) (lockId : Int) : Group ι := ⟨fun _ => { lockId }, {}⟩

/-- What an instance of a group answers when it is asked whether it leads. -/
def answer (g : Group ι) (i : ι) : Except ElectionError Bool := (g.lock i).isLeader

/-- What holds of a group after every run: its instances are settled, no two share a session, and a session in nobody's slot
holds nothing. -/
structure Inv (g : Group ι) (lockId : Int) : Prop where
  sameLock : ∀ i, (g.lock i).lockId = lockId
  settled : ∀ i, (g.lock i).Settled g.table
  distinct : ∀ i j s, (g.lock i).session = some s → (g.lock j).session = some s → i = j
  orphans : ∀ s, (∀ i, (g.lock i).session ≠ some s) → g.table.depth lockId s = 0

variable {g : Group ι} {lockId : Int}

theorem inv_start (ι : Type) (lockId : Int) : Inv (start ι lockId) lockId := by
  refine ⟨fun _ => rfl, fun _ => settled_start lockId {}, ?_, fun _ _ => rfl⟩
  intro _ _ _ h
  cases h

/-- A session that was not opened yet holds nothing. -/
theorem Inv.fresh (h : g.Inv lockId) (s : Nat) (hs : g.table.opened ≤ s) : g.table.depth lockId s = 0 := by
  apply h.orphans
  intro i hi
  have := (h.settled i).opened s hi
  omega

/-- Who answers that it leads has a session, which holds the lock once unless the server has ended it. -/
theorem Inv.leader (h : g.Inv lockId) {i : ι} (hi : g.answer i = .ok true) :
    ∃ s, (g.lock i).session = some s ∧ (s ∉ g.table.ended → g.table.depth lockId s = 1) := by
  obtain ⟨s, hs, hd⟩ := (h.settled i).leader ((isLeader_eq_true_iff _).1 hi)
  rw [h.sameLock i] at hd
  exact ⟨s, hs, fun hl => hd ⟨(h.settled i).opened s hs, hl⟩⟩

/-! ## Runs -/

variable [DecidableEq ι]

/-- A call of one instance. -/
def call {α : Type} (g : Group ι) (i : ι) (mishaps : List Mishap) (act : Act (AdvisoryLock × FaultyServer) α) : Group ι :=
  let (l, v) := (act.run (g.lock i, ⟨g.table, mishaps⟩)).2.1
  ⟨Function.update g.lock i l, v.table⟩

def step (g : Group ι) : Move ι → Group ι
  | .compete i mishaps => g.call i mishaps (AdvisoryLock.compete service)
  | .resign i mishaps => g.call i mishaps (AdvisoryLock.resign service)
  | .lose session => { g with table := g.table.endSession session }

def run (g : Group ι) (moves : List (Move ι)) : Group ι := moves.foldl step g

/-- A turn of one instance keeps the invariant of the group. -/
theorem Inv.turn (h : g.Inv lockId) {i : ι} {l : AdvisoryLock} {v : LockTable} (ht : (g.lock i).Turn g.table l v) :
    Inv ⟨Function.update g.lock i l, v⟩ lockId := by
  have hid : (g.lock i).lockId = lockId := h.sameLock i
  -- the sessions of the others are old, and not the one of this instance
  have hothers : ∀ j, j ≠ i → ∀ s, (g.lock j).session = some s → ¬((g.lock i).session = some s ∨ g.table.opened ≤ s) := by
    intro j hj s hs hn
    rcases hn with hn | hn
    · exact hj (h.distinct j i s hs hn)
    · have := (h.settled j).opened s hs
      omega
  refine ⟨?_, ?_, ?_, ?_⟩
  · intro j
    by_cases hj : j = i
    · subst hj
      simp only [Function.update_self]
      exact ht.lockId.trans hid
    · simp only [Function.update_of_ne hj]
      exact h.sameLock j
  · intro j
    by_cases hj : j = i
    · subst hj
      simp only [Function.update_self]
      exact ht.settled
    · simp only [Function.update_of_ne hj]
      have hk := ht.keeps
      rw [hid, ← h.sameLock j] at hk
      exact (h.settled j).keeps hk (hothers j hj)
  · intro j k s hj hk
    by_cases hji : j = i <;> by_cases hki : k = i
    · exact hji.trans hki.symm
    · subst hji
      simp only [Function.update_self, Function.update_of_ne hki] at hj hk
      exact absurd (ht.slot s hj) (hothers k hki s hk)
    · subst hki
      simp only [Function.update_self, Function.update_of_ne hji] at hj hk
      exact absurd (ht.slot s hk) (hothers j hji s hj)
    · simp only [Function.update_of_ne hji, Function.update_of_ne hki] at hj hk
      exact h.distinct j k s hj hk
  · intro s hs
    have hl : l.session ≠ some s := by simpa using hs i
    by_cases hmine : (g.lock i).session = some s ∨ g.table.opened ≤ s
    · exact hid ▸ ht.left s hmine hl
    · have hbefore : ∀ j, (g.lock j).session ≠ some s := by
        intro j
        by_cases hj : j = i
        · exact fun e => hmine (Or.inl (hj ▸ e))
        · simpa [Function.update_of_ne hj] using hs j
      exact (hid ▸ ht.keeps).depth_zero hmine (h.orphans s hbefore)

/-- Every move keeps the invariant. -/
theorem Inv.step (h : g.Inv lockId) (m : Move ι) : (g.step m).Inv lockId := by
  have hfresh : ∀ i s, g.table.opened ≤ s → g.table.depth (g.lock i).lockId s = 0 := by
    intro i s hs
    rw [h.sameLock i]
    exact h.fresh s hs
  cases m with
  | compete i mishaps => exact h.turn (compete_turn (v := ⟨g.table, mishaps⟩) (h.settled i) (hfresh i) rfl)
  | resign i mishaps => exact h.turn (resign_turn (v := ⟨g.table, mishaps⟩) (h.settled i) (hfresh i) rfl).1
  | lose session =>
    have hk : ∀ id, Keeps id (fun _ => False) g.table (g.table.endSession session) := fun id => keeps_endSession _ _
    refine ⟨h.sameLock, ?_, h.distinct, ?_⟩
    · intro i
      exact (h.settled i).keeps (hk _) fun _ _ => not_false
    · intro s hs
      exact (hk lockId).depth_zero not_false (h.orphans s hs)

theorem Inv.run (h : g.Inv lockId) (moves : List (Move ι)) : (g.run moves).Inv lockId := by
  induction moves generalizing g with
  | nil => exact h
  | cons m ms ih => exact ih (h.step m)

/-- What a group can rely on. -/
structure Safe (g : Group ι) (lockId : Int) : Prop where
  /-- Who answers that it leads has a session, and unless the server has ended it, it is the one that holds the lock, once. -/
  leader : ∀ i, g.answer i = .ok true →
    ∃ s, (g.lock i).session = some s ∧ (s ∉ g.table.ended → g.table.holder lockId = some (Hold.once s))
  /-- Of those whose session the server has not ended, at most one answers that it leads. -/
  unique : ∀ i j s t, g.answer i = .ok true → g.answer j = .ok true → (g.lock i).session = some s →
    (g.lock j).session = some t → s ∉ g.table.ended → t ∉ g.table.ended → i = j
  /-- Who does not answer that it leads does not hold the lock: the session that holds it is that of exactly one instance,
  which answers that it leads. -/
  holder : ∀ h, g.table.holder lockId = some h →
    ∃ i, g.answer i = .ok true ∧ ∀ j, (g.lock j).session = some h.session ↔ j = i
  /-- Who answers that the last check failed has let go of its session. -/
  failed : ∀ i e, g.answer i = .error e → (g.lock i).session = none
  /-- An instance whose session the server has ended finds out when it competes next. -/
  lost : ∀ i s mishaps, (g.lock i).session = some s → s ∈ g.table.ended → (g.step (.compete i mishaps)).answer i ≠ .ok true
  /-- Whatever befalls it, an instance that resigns answers that it does not lead. -/
  resigned : ∀ i mishaps, (g.step (.resign i mishaps)).answer i = .ok false

theorem Inv.safe (h : g.Inv lockId) : g.Safe lockId := by
  refine ⟨?_, ?_, ?_, ?_, ?_, ?_⟩
  · intro i hi
    obtain ⟨s, hs, hd⟩ := h.leader hi
    exact ⟨s, hs, fun hl => holder_of_depth_one (hd hl)⟩
  · intro i j s t hi hj hs ht hls hlt
    obtain ⟨s', hs', hds⟩ := h.leader hi
    obtain ⟨t', ht', hdt⟩ := h.leader hj
    cases hs.symm.trans hs'
    cases ht.symm.trans ht'
    have hst : s = t := holder_unique (by rw [hds hls]; decide) (by rw [hdt hlt]; decide)
    exact h.distinct i j t (hst ▸ hs) ht
  · intro hold hh
    have hpos := depth_pos_of_holder hh
    by_cases hex : ∃ i, (g.lock i).session = some hold.session
    · obtain ⟨i, hi⟩ := hex
      refine ⟨i, (isLeader_eq_true_iff _).2 ?_, fun j => ⟨fun hj => h.distinct j i _ hj hi, fun e => e ▸ hi⟩⟩
      by_contra hl
      have h0 := (h.settled i).other hl _ hi
      rw [h.sameLock i] at h0
      omega
    · have h0 := h.orphans hold.session fun i hi => hex ⟨i, hi⟩
      omega
  · intro i e hi
    obtain ⟨reason, hr⟩ := failed_of_isLeader hi
    exact (h.settled i).failed reason hr
  · intro i s mishaps hs hended hi
    have hl := (isLeader_eq_true_iff _).1 hi
    simp only [Group.step, call, Function.update_self] at hl
    exact compete_of_lost (v := ⟨g.table, mishaps⟩) hs ((h.settled i).opened s hs) (fun hl => hl.2 hended) hl
  · intro i mishaps
    have hst := (resign_turn (v := ⟨g.table, mishaps⟩) (h.settled i) (fun t ht => h.sameLock i ▸ h.fresh t ht) rfl).2
    simp only [answer, Group.step, call, Function.update_self]
    exact isLeader_of_follower hst

/-- However instances compete and resign, and whatever befalls their requests and sessions, those who answer that they lead and
whose session lives hold the lock, exactly once: there is at most one of them, and nobody else holds it. -/
theorem leadership_safe (lockId : Int) (moves : List (Move ι)) : ((start ι lockId).run moves).Safe lockId :=
  ((inv_start ι lockId).run moves).safe

/-- Two instances can believe that they lead: the first does not know yet that the server has ended its session. -/
example :
    let g := (start (Fin 2) 42).run [.compete 0 [], .compete 1 [], .lose 0, .compete 1 []]
    g.answer 0 = .ok true ∧ g.answer 1 = .ok true ∧ g.table.holder 42 = some (Hold.once 1) := by
  exact ⟨rfl, rfl, rfl⟩

end Group

end Intake
