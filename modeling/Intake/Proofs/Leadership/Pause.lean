import Intake.Proofs.Leadership.Rounds
import Intake.Proofs.Leadership.Turns

/-!
# Pause: an instance without traffic has let go and stays away

A round that is past the pause could take the lock right after it was given back. It cannot, because a round and a resignation take
turns and the pause begins within the turn of the resignation: who competes found no pause, and while it competes none begins.
`Order` says this of the two tasks. What the sessions of the instance have of the lock at each place where a task can be suspended
is its `Stake`, and `Owned` ties it to what the server knows. From the end of a look at the traffic that found too little until the
next that finds enough, there is no stake and nothing is asked of the server (`Sticks`).
-/

namespace Intake

open LockTable FaultyServer AdvisoryLock

/-! ## Stakes -/

/-- What the sessions of an instance have of the lock. -/
inductive Stake where
  | none
  /-- One of them holds it once, as long as it lives. -/
  | once (session : Nat)
  /-- Nobody knows what one of them holds. -/
  | unclear (session : Nat)

namespace Stake

/-- A stake is what the server knows. -/
def Sound (lockId : Int) (mine : List Nat) (v : LockTable) : Stake → Prop
  | .none => ∀ t ∈ mine, v.depth lockId t = 0
  | .once s => s ∈ mine ∧ (v.Live s → v.depth lockId s = 1) ∧ ∀ t ∈ mine, t ≠ s → v.depth lockId t = 0
  | .unclear s => s ∈ mine ∧ ∀ t ∈ mine, t ≠ s → v.depth lockId t = 0

variable {lockId : Int} {mine : List Nat} {v v' : LockTable} {s : Nat}

theorem Sound.forget_none (h : Sound lockId mine v .none) (hs : s ∈ mine) : Sound lockId mine v (.unclear s) :=
  ⟨hs, fun t ht _ => h t ht⟩

theorem Sound.forget_once (h : Sound lockId mine v (.once s)) : Sound lockId mine v (.unclear s) := ⟨h.1, h.2.2⟩

/-- A session that holds nothing leaves no stake. -/
theorem Sound.none_of_unclear (h : Sound lockId mine v (.unclear s)) (h0 : v.depth lockId s = 0) : Sound lockId mine v .none := by
  intro t ht
  by_cases hts : t = s
  · rw [hts]
    exact h0
  · exact h.2 t ht hts

theorem Sound.once_of_unclear (h : Sound lockId mine v (.unclear s)) (h1 : v.Live s → v.depth lockId s = 1) :
    Sound lockId mine v (.once s) := ⟨h.1, h1, h.2⟩

/-- What happens to one session concerns no other. -/
theorem Sound.of_own (h : Sound lockId mine v (.unclear s)) (hk : Keeps lockId (· = s) v v') : Sound lockId mine v' (.unclear s) :=
  ⟨h.1, fun t ht hts => hk.depth_zero hts (h.2 t ht hts)⟩

/-- What others do leaves a stake as it is. -/
theorem Sound.of_others {k : Stake} (h : Sound lockId mine v k) (hk : Keeps lockId (· ∉ mine) v v')
    (hold : ∀ t ∈ mine, t < v.opened) : Sound lockId mine v' k := by
  have hzero : ∀ t ∈ mine, v.depth lockId t = 0 → v'.depth lockId t = 0 := fun t ht => hk.depth_zero (not_not_intro ht)
  cases k with
  | none => exact fun t ht => hzero t ht (h t ht)
  | unclear s => exact ⟨h.1, fun t ht hts => hzero t ht (h.2 t ht hts)⟩
  | once s =>
    refine ⟨h.1, fun hlive => ?_, fun t ht hts => hzero t ht (h.2.2 t ht hts)⟩
    rw [hk.depth_eq (not_not_intro h.1) hlive]
    exact h.2.1 (hk.live (hold s h.1) hlive)

/-- The end of a session about which nothing is known leaves no stake. -/
theorem Sound.of_closed (h : Sound lockId mine v (.unclear s)) : Sound lockId mine (v.endSession s) .none :=
  (h.of_own (keeps_endSession v s)).none_of_unclear (by rw [depth_endSession, if_pos rfl])

end Stake

/-- The stake of an instance between two calls. -/
def AdvisoryLock.stake (l : AdvisoryLock) : Stake :=
  match l.status, l.session with
  | .leader, some s => .once s
  | _, _ => .none

/-- The stake of an instance that competes. -/
def RoundPhase.stake? (l : AdvisoryLock) : RoundPhase → Option Stake
  | .idle | .waiting | .entered => none
  | .asking .connect | .opened _ => some .none
  | .asking (.check s _) => some (if l.status = .leader then .once s else .none)
  | .answered s (.ok leads) => some (if leads then .once s else .none)
  | .answered s (.error _) => some (.unclear s)

/-- The stake of an instance that gives the lock back. -/
def LookPhase.stake? : LookPhase → Option Stake
  | .unlocking s _ => some (.once s)
  | .unlocked _ (.ok _) _ => some .none
  | .unlocked s (.error _) _ => some (.unclear s)
  | _ => none

/-- What a round has in hand: the session is out of its slot while it competes. -/
def RoundPhase.Fits (l : AdvisoryLock) (mine : List Nat) : RoundPhase → Prop
  | .idle | .waiting | .entered => True
  | .asking .connect | .opened (.error _) => l.session = none ∧ l.status ≠ .leader
  | .opened (.ok s) => l.session = none ∧ l.status ≠ .leader ∧ s ∈ mine
  | .asking (.check s confirming) => l.session = none ∧ s ∈ mine ∧ confirming = decide (l.status = .leader)
  | .answered s _ => l.session = none ∧ s ∈ mine

/-- Who gives the lock back is a follower already. -/
def LookPhase.Fits (l : AdvisoryLock) : LookPhase → Prop
  | .unlocking s _ | .unlocked s _ _ => l.session = some s ∧ l.status = .follower
  | _ => True

/-- Who does not compete has its session in its slot. -/
theorem RoundPhase.stake?_eq_none {p : RoundPhase} (l : AdvisoryLock) (h : p.competes = false) : p.stake? l = none := by
  cases p with
  | idle => rfl
  | waiting => rfl
  | entered => rfl
  | asking w => cases h
  | opened a => cases h
  | answered s a => cases h

theorem RoundPhase.fits_of_not_competes {p : RoundPhase} (l : AdvisoryLock) (mine : List Nat) (h : p.competes = false) :
    p.Fits l mine := by
  cases p with
  | idle => trivial
  | waiting => trivial
  | entered => trivial
  | asking w => cases h
  | opened a => cases h
  | answered s a => cases h

theorem RoundPhase.not_competes_of_waiting {p : RoundPhase} (h : p.hasTurn = false) : p.competes = false := by
  cases p with
  | idle => rfl
  | waiting => rfl
  | entered => rfl
  | asking w => cases h
  | opened a => cases h
  | answered s a => cases h

/-- Who does not give the lock back has no stake but that of its slot. -/
theorem LookPhase.stake?_eq_none {p : LookPhase} (h : p.unlocks = false) : p.stake? = none := by
  cases p with
  | idle => rfl
  | waiting k => rfl
  | entered k => rfl
  | resigning k => rfl
  | unlocking s k => cases h
  | unlocked s a k => cases h

theorem LookPhase.fits_of_not_unlocks {p : LookPhase} (l : AdvisoryLock) (h : p.unlocks = false) : p.Fits l := by
  cases p with
  | idle => trivial
  | waiting k => trivial
  | entered k => trivial
  | resigning k => trivial
  | unlocking s k => cases h
  | unlocked s a k => cases h

theorem LookPhase.not_unlocks_of_waiting {p : LookPhase} (h : p.hasTurn = false) : p.unlocks = false := by
  cases p with
  | idle => rfl
  | waiting k => rfl
  | entered k => rfl
  | resigning k => rfl
  | unlocking s k => cases h
  | unlocked s a k => cases h

/-- Who waits for its turn does not give the lock back. -/
theorem LookPhase.fits_of_waiting {p : LookPhase} (l : AdvisoryLock) (h : p.hasTurn = false) : p.Fits l :=
  fits_of_not_unlocks l (not_unlocks_of_waiting h)

theorem LookPhase.not_pauses_of_waiting {p : LookPhase} (h : p.hasTurn = false) : p.pauses = false := by
  cases p with
  | idle => rfl
  | waiting k => rfl
  | entered k => rfl
  | resigning k => cases h
  | unlocking s k => cases h
  | unlocked s a k => cases h

namespace Elector

def stake (e : Elector) : Stake := (e.round.stake? e.lock).getD (e.look.stake?.getD e.lock.stake)

/-- The last look at the traffic that is over found too little. -/
def Sticking (e : Elector) : Prop := ∃ k, e.last = some k ∧ k.tooLong = true

/-- How the two tasks stand to each other and to the pause. -/
structure Order (e : Elector) : Prop where
  turn : e.round.hasTurn = true → e.look.hasTurn = false
  unpaused : e.round.competes = true → e.rounds.paused = false
  paused : e.look.pauses = true → e.rounds.paused = true
  last : e.look.pauses = false → ∀ k, e.last = some k → e.rounds.paused = k.tooLong
  /-- Who let go stays a follower. -/
  resigned : e.Sticking → e.lock.status = .follower ∧ e.look.unlocks = false
  /-- Only looks that found too little wait for their turn. -/
  waits : ∀ k, e.look.about? = some k → k.tooLong = true

/-- What the sessions of an instance have of the lock, and who knows it. -/
structure Owned (lockId : Int) (e : Elector) : Prop where
  sameLock : e.lock.lockId = lockId
  old : ∀ s ∈ e.mine, s < e.table.opened
  fresh : ∀ s, e.table.opened ≤ s → e.table.depth lockId s = 0
  slot : ∀ s, e.lock.session = some s → s ∈ e.mine
  round : e.round.Fits e.lock e.mine
  look : e.look.Fits e.lock
  calm : e.round.competes = false → e.lock.status = .leader → e.lock.session ≠ none
  stake : e.stake.Sound lockId e.mine e.table

end Elector

namespace Elector

variable {e : Elector} {lockId : Int}

/-! ## Sessions -/

/-- A server on which only sessions that were open have changed gives nothing to those that are opened later. -/
theorem fresh_of_keeps {v v' : LockTable} (h : ∀ s, v.opened ≤ s → v.depth lockId s = 0) (hk : Keeps lockId (· < v.opened) v v') :
    ∀ s, v'.opened ≤ s → v'.depth lockId s = 0 := by
  intro s hs
  have hnew : v.opened ≤ s := Nat.le_trans hk.opened hs
  exact hk.depth_zero (Nat.not_lt.2 hnew) (h s hnew)

/-- What others do on the server. -/
theorem Owned.of_others {v : LockTable} (h : e.Owned lockId)
    (hk : Keeps lockId (fun t => t ∉ e.mine ∧ t < e.table.opened) e.table v) : Owned lockId { e with table := v } :=
  ⟨h.sameLock, fun s hs => Nat.lt_of_lt_of_le (h.old s hs) hk.opened, fresh_of_keeps h.fresh (hk.mono fun _ ht => ht.2), h.slot,
    h.round, h.look, h.calm, h.stake.of_others (hk.mono fun _ ht => ht.1) h.old⟩

/-- The server knows nothing of a pause, nor of looks at the traffic that are over. -/
theorem Owned.rounds (h : e.Owned lockId) (r : Rounds) (last : Option Look) : Owned lockId { e with rounds := r, last } :=
  ⟨h.sameLock, h.old, h.fresh, h.slot, h.round, h.look, h.calm, h.stake⟩

/-- A round that is not competing may be at another place where it does not. -/
theorem Owned.round_phase {p : RoundPhase} (h : e.Owned lockId) (hfrom : e.round.competes = false) (hto : p.competes = false) :
    Owned lockId { e with round := p } := by
  refine ⟨h.sameLock, h.old, h.fresh, h.slot, RoundPhase.fits_of_not_competes _ _ hto, h.look, fun _ => h.calm hfrom, ?_⟩
  have hstake := h.stake
  simp only [Elector.stake, RoundPhase.stake?_eq_none _ hfrom, RoundPhase.stake?_eq_none _ hto] at hstake ⊢
  exact hstake

/-- A look at the traffic that is not giving the lock back may be at another place where it does not. -/
theorem Owned.look_phase {p : LookPhase} (h : e.Owned lockId) (hfrom : e.look.unlocks = false) (hto : p.unlocks = false) :
    Owned lockId { e with look := p } := by
  refine ⟨h.sameLock, h.old, h.fresh, h.slot, h.round, LookPhase.fits_of_not_unlocks _ hto, h.calm, ?_⟩
  have hstake := h.stake
  simp only [Elector.stake, LookPhase.stake?_eq_none hfrom, LookPhase.stake?_eq_none hto] at hstake ⊢
  exact hstake

end Elector

/-! ## A round -/

theorem AdvisoryLock.stake_of_session {l : AdvisoryLock} {s : Nat} (h : l.session = some s) :
    l.stake = if l.status = .leader then .once s else .none := by
  unfold stake
  rw [h]
  cases l.status <;> rfl

theorem AdvisoryLock.stake_of_not_leader {l : AdvisoryLock} (h : l.status ≠ .leader) : l.stake = .none := by
  unfold stake
  cases hs : l.status with
  | leader => exact absurd hs h
  | follower => rfl
  | failed reason => rfl

namespace Elector

variable {e : Elector} {lockId : Int}

theorem stake_of_waiting (h : e.look.hasTurn = false) : e.stake = (e.round.stake? e.lock).getD e.lock.stake := by
  rw [stake, LookPhase.stake?_eq_none (LookPhase.not_unlocks_of_waiting h)]
  rfl

theorem stake_settle (h : e.look.hasTurn = false) (result : Except ElectionError Bool) (l : AdvisoryLock) (t : LockTable) :
    (e.settle result l t).stake = l.stake := by
  simp only [stake, settle, LookPhase.stake?_eq_none (LookPhase.not_unlocks_of_waiting h), RoundPhase.stake?, Option.getD_none]

/-- A round that finds no pause takes the session out of its slot, or asks for one. -/
theorem Owned.beginCompete (h : e.Owned lockId) (hround : e.round = .entered) (hturn : e.look.hasTurn = false) :
    Owned lockId (e.request e.lock.beginCompete.1 e.lock.beginCompete.2) := by
  have hstake := h.stake
  rw [stake_of_waiting hturn, hround] at hstake
  cases hslot : e.lock.session with
  | some s =>
    have hbegin : e.lock.beginCompete = (.check s (decide (e.lock.status = .leader)), { e.lock with session := none }) := by
      simp only [AdvisoryLock.beginCompete, hslot, checkOn]
    rw [hbegin]
    refine ⟨h.sameLock, h.old, h.fresh, fun t ht => (by cases ht), ⟨rfl, h.slot s hslot, rfl⟩, LookPhase.fits_of_waiting _ hturn,
      fun hc => (by cases hc), ?_⟩
    simp only [RoundPhase.stake?, Option.getD_none, stake_of_session hslot] at hstake
    exact hstake
  | none =>
    have hbegin : e.lock.beginCompete = (.connect, e.lock) := by simp only [AdvisoryLock.beginCompete, hslot]
    have hstatus : e.lock.status ≠ .leader := fun hl => h.calm (by rw [hround]; rfl) hl hslot
    rw [hbegin]
    refine ⟨h.sameLock, h.old, h.fresh, h.slot, ⟨hslot, hstatus⟩, h.look, fun hc => (by cases hc), ?_⟩
    simp only [RoundPhase.stake?, Option.getD_none, stake_of_not_leader hstatus] at hstake
    exact hstake

/-- Whether or not a session is handed out, the sessions of the instance hold nothing. -/
theorem Owned.connect (h : e.Owned lockId) (hround : e.round = .asking .connect) (m : Mishap) : Owned lockId (e.connect m) := by
  have hstake : Stake.Sound lockId e.mine e.table .none := by
    have hs := h.stake
    rw [Elector.stake, hround] at hs
    exact hs
  obtain ⟨hslot, hstatus⟩ : e.lock.session = none ∧ e.lock.status ≠ .leader := by
    have hr := h.round
    rw [hround] at hr
    exact hr
  have hcases := connect_cases lockId (fun _ => False) (e.server m)
  have hk : Keeps lockId (fun _ => False) e.table (FaultyServer.connect (e.server m)).2.table := by
    obtain ⟨-, ht⟩ | ⟨-, hk⟩ := hcases
    · rw [ht]
      exact (keeps_arrival (e.server m)).trans ⟨by simp [server], fun _ h => h, fun _ _ => Or.inl rfl⟩
    · exact hk
  have hnew : (FaultyServer.connect (e.server m)).2.table.opened ≠ e.table.opened →
      e.table.opened < (FaultyServer.connect (e.server m)).2.table.opened := fun hne => Nat.lt_of_le_of_ne hk.opened (Ne.symm hne)
  have hok : ∀ s, (FaultyServer.connect (e.server m)).1 = .ok s →
      s = e.table.opened ∧ (FaultyServer.connect (e.server m)).2.table.opened ≠ e.table.opened := by
    intro s hs
    obtain ⟨hr, ht⟩ | ⟨⟨cause, hr⟩, -⟩ := hcases
    · cases hs.symm.trans hr
      exact ⟨rfl, by rw [ht]; exact Nat.succ_ne_self _⟩
    · cases hs.symm.trans hr
  unfold Elector.connect
  generalize FaultyServer.connect (e.server m) = r at hk hnew hok
  obtain ⟨answer, v⟩ := r
  simp only at hk hnew hok ⊢
  have hmine : ∀ t ∈ (if v.table.opened = e.table.opened then e.mine else e.table.opened :: e.mine),
      t < v.table.opened ∧ v.table.depth lockId t = 0 := by
    intro t ht
    split at ht
    · exact ⟨Nat.lt_of_lt_of_le (h.old t ht) hk.opened, hk.depth_zero not_false (hstake t ht)⟩
    · next hne =>
      obtain rfl | ht := List.mem_cons.1 ht
      · exact ⟨hnew hne, hk.depth_zero not_false (h.fresh _ (Nat.le_refl _))⟩
      · exact ⟨Nat.lt_of_lt_of_le (h.old t ht) hk.opened, hk.depth_zero not_false (hstake t ht)⟩
  refine ⟨h.sameLock, fun t ht => (hmine t ht).1, fresh_of_keeps h.fresh (hk.mono fun _ hf => hf.elim),
    fun t ht => (by cases hslot.symm.trans ht), ?_, h.look, fun hc => (by cases hc), fun t ht => (hmine t ht).2⟩
  cases answer with
  | error cause => exact ⟨hslot, hstatus⟩
  | ok s =>
    obtain ⟨rfl, hne⟩ := hok s rfl
    refine ⟨hslot, hstatus, ?_⟩
    rw [if_neg hne]
    exact List.mem_cons_self

/-- A session that was handed out is asked for the lock. -/
theorem Owned.askFirst (h : e.Owned lockId) {s : Nat} (hround : e.round = .opened (.ok s)) :
    Owned lockId (e.request (e.lock.checkOn s) e.lock) := by
  obtain ⟨hslot, hstatus, hs⟩ : e.lock.session = none ∧ e.lock.status ≠ .leader ∧ s ∈ e.mine := by
    have hr := h.round
    rw [hround] at hr
    exact hr
  have hstake := h.stake
  rw [Elector.stake, hround] at hstake
  refine ⟨h.sameLock, h.old, h.fresh, h.slot, ⟨hslot, hs, rfl⟩, h.look, fun hc => (by cases hc), ?_⟩
  change Stake.Sound lockId e.mine e.table (if e.lock.status = .leader then .once s else .none)
  rw [if_neg hstatus]
  exact hstake

/-- No session was handed out. -/
theorem Owned.connectFailed (h : e.Owned lockId) {cause : StorageError} (hround : e.round = .opened (.error cause))
    (hturn : e.look.hasTurn = false) :
    Owned lockId (e.settle (e.lock.connectFailed cause).1 (e.lock.connectFailed cause).2.1 e.table) := by
  obtain ⟨hslot, -⟩ : e.lock.session = none ∧ e.lock.status ≠ .leader := by
    have hr := h.round
    rw [hround] at hr
    exact hr
  have hstake := h.stake
  rw [Elector.stake, hround] at hstake
  refine ⟨h.sameLock, h.old, h.fresh, h.slot, trivial, LookPhase.fits_of_waiting _ hturn, fun _ hl => (by cases hl), ?_⟩
  rw [stake_settle hturn]
  exact hstake

/-- A check arrives at the server: what the session holds after it is what the answer says, and without an answer nobody knows. -/
theorem Owned.ask (h : e.Owned lockId) {s : Nat} {confirming : Bool} (hround : e.round = .asking (.check s confirming)) (m : Mishap) :
    Owned lockId (e.ask s confirming m) := by
  obtain ⟨hslot, hs, hconfirming⟩ : e.lock.session = none ∧ s ∈ e.mine ∧ confirming = decide (e.lock.status = .leader) := by
    have hr := h.round
    rw [hround] at hr
    exact hr
  have hstake : Stake.Sound lockId e.mine e.table (if e.lock.status = .leader then .once s else .none) := by
    have hst := h.stake
    rw [Elector.stake, hround] at hst
    exact hst
  have hunclear : Stake.Sound lockId e.mine e.table (.unclear s) := by
    split at hstake
    · exact hstake.forget_once
    · exact hstake.forget_none hs
  have hid := h.sameLock
  have hk := keeps_ask e.lock s confirming (e.server m)
  have ho := opened_ask e.lock s confirming (e.server m)
  have hok : ∀ b, (AdvisoryLock.ask service e.lock s confirming (e.server m)).1 = .ok b → _ := fun b => ask_ok (h.old s hs)
  unfold Elector.ask
  rw [hid] at hk hok
  generalize AdvisoryLock.ask service e.lock s confirming (e.server m) = r at hk ho hok
  obtain ⟨answer, v⟩ := r
  simp only at hk ho hok ⊢
  change v.table.opened = e.table.opened at ho
  have hsound := hunclear.of_own hk
  refine ⟨hid, fun t ht => ho ▸ h.old t ht, ?_, h.slot, ⟨hslot, hs⟩, h.look, fun hc => (by cases hc), ?_⟩
  · exact fresh_of_keeps h.fresh (hk.mono fun t ht => ht ▸ h.old s hs)
  · cases answer with
    | error cause => exact hsound
    | ok b =>
      obtain ⟨hlive, hd⟩ := hok b rfl
      cases b with
      | false => exact hsound.none_of_unclear hd
      | true =>
        have hmore : v.table.depth lockId s = e.table.depth lockId s + (if confirming then 0 else 1) := hd
        refine hsound.once_of_unclear fun _ => ?_
        rw [hmore, hconfirming]
        -- A leader confirms what it holds; anybody else takes the lock for the first time.
        by_cases hl : e.lock.status = .leader
        · rw [if_pos hl] at hstake
          simp [hl, hstake.2.1 hlive]
        · rw [if_neg hl] at hstake
          simp [hl, hstake s hs]

/-- The answer to a check puts the session back into its slot, or closes it. -/
theorem Owned.checked (h : e.Owned lockId) {s : Nat} {answer : Except DatabaseFault Bool} (hround : e.round = .answered s answer)
    (hturn : e.look.hasTurn = false) :
    Owned lockId (e.settle (e.lock.checked s answer).1 (e.lock.checked s answer).2.1
      (if answer.isOk then e.table else e.table.endSession s)) := by
  obtain ⟨hslot, hs⟩ : e.lock.session = none ∧ s ∈ e.mine := by
    have hr := h.round
    rw [hround] at hr
    exact hr
  have hstake := h.stake
  rw [Elector.stake, hround] at hstake
  cases answer with
  | ok leads =>
    refine ⟨h.sameLock, h.old, h.fresh, fun t ht => ?_, trivial, LookPhase.fits_of_waiting _ hturn, fun _ _ => ?_, ?_⟩
    · cases ht
      exact hs
    · intro hn
      cases hn
    · rw [stake_settle hturn]
      cases leads <;> exact hstake
  | error cause =>
    have hclosed : Stake.Sound lockId e.mine (e.table.endSession s) .none := Stake.Sound.of_closed hstake
    refine ⟨h.sameLock, h.old, ?_, h.slot, trivial, LookPhase.fits_of_waiting _ hturn, fun _ hl => (by cases hl), ?_⟩
    · exact fresh_of_keeps h.fresh (keeps_endSession e.table s)
    · rw [stake_settle hturn]
      exact hclosed

/-! ## A look at the traffic -/

/-- Between calls the stake is that of the slot. -/
theorem stake_of_calm (hround : e.round.competes = false) (hlook : e.look.unlocks = false) : e.stake = e.lock.stake := by
  simp only [stake, RoundPhase.stake?_eq_none _ hround, LookPhase.stake?_eq_none hlook, Option.getD_none]

/-- Who begins to resign is a follower; its stake is on the session that is to give the lock back, if there is one. -/
theorem Owned.beginResign (h : e.Owned lockId) {k : Look} (hlook : e.look = .resigning k) (hround : e.round.competes = false) :
    (∀ s, e.lock.beginResign.1 = some s → Owned lockId { e with lock := e.lock.beginResign.2.1, look := .unlocking s k }) ∧
      (e.lock.beginResign.1 = none → Owned lockId (e.conclude k e.lock.beginResign.2.1 e.table)) := by
  have hstake := h.stake
  rw [stake_of_calm hround (by rw [hlook]; rfl)] at hstake
  have hfollower : e.lock.beginResign.2.1 = { e.lock with status := .follower } := rfl
  have hslot : e.lock.beginResign.1 = if e.lock.status = .leader then e.lock.session else none := rfl
  rw [hfollower, hslot]
  constructor
  · intro s hs
    by_cases hl : e.lock.status = .leader
    · rw [if_pos hl] at hs
      rw [stake_of_session hs, if_pos hl] at hstake
      refine ⟨h.sameLock, h.old, h.fresh, h.slot, RoundPhase.fits_of_not_competes _ _ hround, ⟨hs, rfl⟩,
        fun _ hl => (by cases hl), ?_⟩
      rw [Elector.stake, RoundPhase.stake?_eq_none _ hround]
      exact hstake
    · rw [if_neg hl] at hs
      cases hs
  · intro hs
    have hnone : Stake.Sound lockId e.mine e.table .none := by
      by_cases hl : e.lock.status = .leader
      · rw [if_pos hl] at hs
        exact absurd hs (h.calm hround hl)
      · rw [stake_of_not_leader hl] at hstake
        exact hstake
    refine ⟨h.sameLock, h.old, h.fresh, h.slot, RoundPhase.fits_of_not_competes _ _ hround, trivial, fun _ hl => (by cases hl), ?_⟩
    rw [stake_of_calm (e := e.conclude k _ _) hround rfl]
    exact hnone

/-- The request to give the lock back arrives at the server: unless the answer is lost, the session does not hold the lock. -/
theorem Owned.unlock (h : e.Owned lockId) {s : Nat} {k : Look} (hlook : e.look = .unlocking s k) (hround : e.round.competes = false)
    (m : Mishap) : Owned lockId (e.unlock s k m) := by
  have hstake : Stake.Sound lockId e.mine e.table (.once s) := by
    have hst := h.stake
    rw [Elector.stake, RoundPhase.stake?_eq_none _ hround, hlook] at hst
    exact hst
  have hfits := h.look
  rw [hlook] at hfits
  have hid := h.sameLock
  have hcases := statement_cases s (giveBack s lockId) (e.server m)
  have hk : Keeps lockId (· = s) e.table (statement s (giveBack s lockId) (e.server m)).2.table := by
    obtain ⟨-, -, ht⟩ | ⟨-, ht | ht⟩ := hcases
    · exact ht ▸ (keeps_arrival (e.server m)).trans (keeps_giveBack _ s)
    · exact ht ▸ keeps_arrival (e.server m)
    · exact ht ▸ (keeps_arrival (e.server m)).trans (keeps_giveBack _ s)
  -- An answer comes from a session that lives, which held the lock once.
  have hok : ∀ b, (statement s (giveBack s lockId) (e.server m)).1 = .ok b →
      (statement s (giveBack s lockId) (e.server m)).2.table.depth lockId s = 0 := by
    intro b hb
    obtain ⟨hlive, -, ht⟩ | ⟨⟨fault, hr⟩, -⟩ := hcases
    · have harrival : Keeps lockId (fun _ => False) e.table (e.server m).arrival := keeps_arrival (e.server m)
      have hone : (e.server m).arrival.depth lockId s = 1 := by
        rw [harrival.depth_eq not_false hlive]
        exact hstake.2.1 (harrival.live (h.old s hstake.1) hlive)
      rw [ht, depth_giveBack, if_pos rfl, hone]
    · cases hb.symm.trans hr
  have hunlock : e.unlock s k m =
      { e with
        table := (statement s (giveBack s lockId) (e.server m)).2.table
        look := .unlocked s (statement s (giveBack s lockId) (e.server m)).1 k } := by
    rw [← hid]
    rfl
  rw [hunlock]
  generalize statement s (giveBack s lockId) (e.server m) = r at hk hok
  obtain ⟨answer, v⟩ := r
  have hsound := hstake.forget_once.of_own hk
  refine ⟨hid, fun t ht => Nat.lt_of_lt_of_le (h.old t ht) hk.opened, ?_, h.slot, RoundPhase.fits_of_not_competes _ _ hround, hfits,
    h.calm, ?_⟩
  · exact fresh_of_keeps h.fresh (hk.mono fun t ht => ht ▸ h.old s hstake.1)
  · rw [Elector.stake, RoundPhase.stake?_eq_none _ hround]
    cases answer with
    | error cause => exact hsound
    | ok b => exact hsound.none_of_unclear (hok b rfl)

/-- The answer to the request leaves the session in its slot, or closes it. -/
theorem Owned.unlocked (h : e.Owned lockId) {s : Nat} {k : Look} {answer : Except DatabaseFault Bool}
    (hlook : e.look = .unlocked s answer k) (hround : e.round.competes = false) :
    Owned lockId (e.conclude k (e.lock.unlocked answer).2.1 (if answer.isOk then e.table else e.table.endSession s)) := by
  have hstake := h.stake
  rw [Elector.stake, RoundPhase.stake?_eq_none _ hround, hlook] at hstake
  obtain ⟨hslot, hstatus⟩ : e.lock.session = some s ∧ e.lock.status = .follower := by
    have hl := h.look
    rw [hlook] at hl
    exact hl
  have hnot : e.lock.status ≠ .leader := by
    rw [hstatus]
    exact nofun
  cases answer with
  | ok held =>
    have hlock : (e.lock.unlocked (.ok held)).2.1 = e.lock := by cases held <;> rfl
    rw [hlock]
    refine ⟨h.sameLock, h.old, h.fresh, h.slot, RoundPhase.fits_of_not_competes _ _ hround, trivial,
      fun _ hl => absurd hl hnot, ?_⟩
    rw [stake_of_calm (e := e.conclude k _ _) hround rfl]
    exact (stake_of_not_leader hnot).symm ▸ hstake
  | error cause =>
    have hclosed : Stake.Sound lockId e.mine (e.table.endSession s) .none := Stake.Sound.of_closed hstake
    refine ⟨h.sameLock, h.old, ?_, fun t ht => (by cases ht), RoundPhase.fits_of_not_competes _ _ hround, trivial,
      fun _ hl => absurd hl hnot, ?_⟩
    · exact fresh_of_keeps h.fresh (keeps_endSession e.table s)
    · rw [stake_of_calm (e := e.conclude k _ _) hround rfl]
      exact (stake_of_not_leader (l := { e.lock with session := none }) hnot).symm ▸ hclosed

/-- A step of a look at the traffic keeps what is known of the sessions. -/
theorem Owned.advanceLook (h : e.Owned lockId) (hturn : e.look.hasTurn = true → e.round.competes = false) (m : Mishap) :
    Owned lockId (e.advanceLook m) := by
  unfold Elector.advanceLook
  cases hlook : e.look with
  | idle => exact h
  | waiting k =>
    cases e.round.hasTurn with
    | true => exact h
    | false => exact h.look_phase (by rw [hlook]; rfl) rfl
  | entered k =>
    exact (h.look_phase (p := .resigning k) (by rw [hlook]; rfl) rfl).rounds (e.rounds.pause k.idle k.timeout).1 e.last
  | resigning k =>
    obtain ⟨hunlocking, hover⟩ := h.beginResign hlook (hturn (by rw [hlook]; rfl))
    cases hresign : e.lock.beginResign with
    | mk slot rest =>
      rw [hresign] at hunlocking hover
      cases slot with
      | none => exact hover rfl
      | some s => exact hunlocking s rfl
  | unlocking s k => exact h.unlock hlook (hturn (by rw [hlook]; rfl)) m
  | unlocked s answer k => exact h.unlocked hlook (hturn (by rw [hlook]; rfl))

/-- The beginning of a look at the traffic asks the server nothing. -/
theorem Owned.beginLook (h : e.Owned lockId) (k : Look) : Owned lockId (e.beginLook k) := by
  unfold Elector.beginLook
  cases hlook : e.look with
  | idle =>
    cases k.tooLong with
    | true => exact h.look_phase (by rw [hlook]; rfl) rfl
    | false => exact (h.look_phase (p := .idle) (by rw [hlook]; rfl) rfl).rounds e.rounds.resume.1 (some k)
  | waiting k' => exact h
  | entered k' => exact h
  | resigning k' => exact h
  | unlocking s k' => exact h
  | unlocked s answer k' => exact h

/-! ## The two tasks -/

/-- While there is no pause, the last look at the traffic that is over found enough. -/
theorem Order.not_sticking (h : e.Order) (hp : e.rounds.paused = false) : ¬e.Sticking := by
  rintro ⟨k, hk, hlong⟩
  have hpauses : e.look.pauses = false := by
    cases hl : e.look.pauses with
    | false => rfl
    | true =>
      have := h.paused hl
      rw [hp] at this
      cases this
  have := h.last hpauses k hk
  rw [hp, hlong] at this
  cases this

/-- A round is in its turn and has found no pause, and stays there. -/
theorem Order.competing {e' : Elector} (h : e.Order) (hturn : e.round.hasTurn = true) (hp : e.rounds.paused = false)
    (hlook : e'.look = e.look) (hlast : e'.last = e.last) (hp' : e'.rounds.paused = false) : e'.Order := by
  have hwaits := h.turn hturn
  have hnot : ¬e.Sticking := h.not_sticking hp
  refine ⟨fun _ => hlook ▸ hwaits, fun _ => hp', fun hl => ?_, fun hl k hk => ?_, fun hs => ?_, fun k hk => h.waits k (hlook ▸ hk)⟩
  · rw [hlook, LookPhase.not_pauses_of_waiting hwaits] at hl
    cases hl
  · rw [hp', ← hp]
    exact h.last (hlook ▸ hl) k (hlast ▸ hk)
  · obtain ⟨k, hk, hlong⟩ := hs
    exact absurd ⟨k, hlast ▸ hk, hlong⟩ hnot

theorem Order.round_phase {p : RoundPhase} (h : e.Order) (hturn : p.hasTurn = true → e.look.hasTurn = false)
    (hcompetes : p.competes = true → e.rounds.paused = false) : Order { e with round := p } :=
  ⟨hturn, hcompetes, h.paused, h.last, h.resigned, h.waits⟩

/-- The tasks know nothing of the server. -/
theorem Order.table (h : e.Order) (v : LockTable) : Order { e with table := v } :=
  ⟨h.turn, h.unpaused, h.paused, h.last, h.resigned, h.waits⟩

/-- A round that competes has its turn. -/
theorem Order.not_competes (h : e.Order) (hlook : e.look.hasTurn = true) : e.round.hasTurn = false ∧ e.round.competes = false := by
  have hturn : e.round.hasTurn = false := by
    cases hr : e.round.hasTurn with
    | false => rfl
    | true => exact (h.turn hr).symm.trans hlook |>.symm
  exact ⟨hturn, RoundPhase.not_competes_of_waiting hturn⟩

/-- The end of a look at the traffic that found too little. -/
theorem Order.conclude {k : Look} {l : AdvisoryLock} (t : LockTable) (hround : e.round.hasTurn = false)
    (hpaused : e.rounds.paused = true) (hlong : k.tooLong = true) (hl : l.status = .follower) : Order (e.conclude k l t) := by
  have hcompetes := RoundPhase.not_competes_of_waiting hround
  refine ⟨fun _ => rfl, fun hc => ?_, nofun, fun _ k' hk' => ?_, fun _ => ⟨hl, rfl⟩, nofun⟩
  · cases hcompetes.symm.trans hc
  · cases hk'
    exact hpaused.trans hlong.symm

/-- The invariant: the tasks are in order, and the server knows the stakes. -/
structure Inv (lockId : Int) (e : Elector) : Prop where
  order : e.Order
  owned : e.Owned lockId

/-- A step of a round keeps the invariant. -/
theorem Inv.advanceRound (h : e.Inv lockId) (m : Mishap) : Inv lockId (e.advanceRound m) := by
  have hturn := h.order.turn
  have hcompeting : e.round.competes = true → ∀ e' : Elector, e'.look = e.look → e'.last = e.last →
      e'.rounds.paused = e.rounds.paused → e'.Order := by
    intro hc e' hlook hlast hp
    have hunpaused := h.order.unpaused hc
    have hhas : e.round.hasTurn = true := by
      cases ht : e.round.hasTurn with
      | true => rfl
      | false => exact (RoundPhase.not_competes_of_waiting ht).symm.trans hc
    exact h.order.competing hhas hunpaused hlook hlast (hp.trans hunpaused)
  unfold Elector.advanceRound
  cases hround : e.round with
  | idle => exact ⟨h.order.round_phase nofun nofun, h.owned.round_phase (by rw [hround]; rfl) rfl⟩
  | waiting =>
    cases hlook : e.look.hasTurn with
    | true => exact h
    | false => exact ⟨h.order.round_phase (fun _ => hlook) nofun, h.owned.round_phase (by rw [hround]; rfl) rfl⟩
  | entered =>
    rw [hround] at hturn
    cases hpaused : e.rounds.paused with
    | true => exact ⟨h.order.round_phase nofun nofun, h.owned.round_phase (by rw [hround]; rfl) rfl⟩
    | false =>
      exact ⟨h.order.competing (by rw [hround]; rfl) hpaused rfl rfl hpaused, h.owned.beginCompete hround (hturn rfl)⟩
  | asking w =>
    rw [hround] at hcompeting
    cases w with
    | connect => exact ⟨hcompeting rfl _ rfl rfl rfl, h.owned.connect hround m⟩
    | check s confirming => exact ⟨hcompeting rfl _ rfl rfl rfl, h.owned.ask hround m⟩
  | opened answer =>
    rw [hround] at hturn hcompeting
    cases answer with
    | ok s => exact ⟨hcompeting rfl _ rfl rfl rfl, h.owned.askFirst hround⟩
    | error cause => exact ⟨hcompeting rfl _ rfl rfl rfl, h.owned.connectFailed hround (hturn rfl)⟩
  | answered s answer =>
    rw [hround] at hturn hcompeting
    exact ⟨hcompeting rfl _ rfl rfl rfl, h.owned.checked hround (hturn rfl)⟩

/-- A step of a look at the traffic keeps the order of the tasks. -/
theorem Order.advanceLook (h : e.Order) (hfits : e.look.Fits e.lock) (m : Mishap) : (e.advanceLook m).Order := by
  have hturn := h.not_competes
  have hpaused := h.paused
  have hwaits := h.waits
  have hresigned := h.resigned
  unfold Elector.advanceLook
  cases hlook : e.look with
  | idle => exact h
  | waiting k =>
    rw [hlook] at hwaits
    cases hround : e.round.hasTurn with
    | true => exact h
    | false =>
      refine ⟨fun hr => ?_, h.unpaused, nofun, fun _ => h.last (by rw [hlook]; rfl), fun hs => ⟨(hresigned hs).1, rfl⟩, hwaits⟩
      cases hround.symm.trans hr
  | entered k =>
    rw [hlook] at hturn hwaits
    obtain ⟨hround, hcompetes⟩ := hturn rfl
    refine ⟨fun hr => ?_, fun hc => ?_, fun _ => rfl, nofun, fun hs => ⟨(hresigned hs).1, rfl⟩, hwaits⟩
    · cases hround.symm.trans hr
    · cases hcompetes.symm.trans hc
  | resigning k =>
    rw [hlook] at hturn hpaused hwaits
    obtain ⟨hround, hcompetes⟩ := hturn rfl
    have hslot : e.lock.beginResign.1 = if e.lock.status = .leader then e.lock.session else none := rfl
    cases hresign : e.lock.beginResign with
    | mk slot rest =>
      rw [hresign] at hslot
      obtain ⟨l, reported⟩ := rest
      have hl : l = { e.lock with status := .follower } := (congrArg (fun r => r.2.1) hresign).symm
      cases slot with
      | none => exact Order.conclude _ hround (hpaused rfl) (hwaits k rfl) (by rw [hl])
      | some s =>
        refine ⟨fun hr => ?_, fun hc => ?_, fun _ => hpaused rfl, nofun, fun hs => ?_, hwaits⟩
        · cases hround.symm.trans hr
        · cases hcompetes.symm.trans hc
        · -- Who let go before is no leader, and has nothing to give back.
          rw [(hresigned hs).1] at hslot
          cases hslot
  | unlocking s k =>
    rw [hlook] at hturn hpaused hwaits hresigned
    obtain ⟨hround, hcompetes⟩ := hturn rfl
    refine ⟨fun hr => ?_, fun hc => ?_, fun _ => hpaused rfl, nofun, fun hs => ?_, hwaits⟩
    · cases hround.symm.trans hr
    · cases hcompetes.symm.trans hc
    · cases (hresigned hs).2
  | unlocked s answer k =>
    rw [hlook] at hturn hpaused hwaits hfits
    exact Order.conclude _ (hturn rfl).1 (hpaused rfl) (hwaits k rfl) ((e.lock.status_unlocked answer).trans hfits.2)

/-- A look at the traffic that begins keeps the order of the tasks. -/
theorem Order.beginLook (h : e.Order) (k : Look) : (e.beginLook k).Order := by
  have hlast := h.last
  have hresigned := h.resigned
  unfold Elector.beginLook
  cases hlook : e.look with
  | idle =>
    rw [hlook] at hlast hresigned
    cases hlong : k.tooLong with
    | true => exact ⟨fun _ => rfl, h.unpaused, nofun, hlast, hresigned, fun k' hk' => (by cases hk'; exact hlong)⟩
    | false =>
      refine ⟨fun _ => rfl, fun _ => rfl, nofun, fun _ k' hk' => ?_, fun hs => ?_, nofun⟩
      · cases hk'
        exact hlong.symm
      · obtain ⟨k', hk', hlong'⟩ := hs
        cases hk'
        cases hlong.symm.trans hlong'
  | waiting k' => exact h
  | entered k' => exact h
  | resigning k' => exact h
  | unlocking s k' => exact h
  | unlocked s answer k' => exact h

/-- A step of a look at the traffic keeps the invariant. -/
theorem Inv.advanceLook (h : e.Inv lockId) (m : Mishap) : Inv lockId (e.advanceLook m) :=
  ⟨h.order.advanceLook h.owned.look m, h.owned.advanceLook (fun hl => (h.order.not_competes hl).2) m⟩

theorem Inv.beginLook (h : e.Inv lockId) (k : Look) : Inv lockId (e.beginLook k) :=
  ⟨h.order.beginLook k, h.owned.beginLook k⟩

/-- A move is of the round or of a look at the traffic, or it is of others: then it changes the table at most, and there neither the
sessions of the instance nor those that are opened later. -/
theorem step_cases (hid : e.lock.lockId = lockId) (m : Move) :
    (∃ mishap, m = .round mishap) ∨ (∃ k, m = .beginLook k) ∨ (∃ mishap, m = .look mishap) ∨
      ∃ v, e.step m = { e with table := v } ∧ Keeps lockId (fun t => t ∉ e.mine ∧ t < e.table.opened) e.table v := by
  subst hid
  cases m with
  | round mishap => exact Or.inl ⟨mishap, rfl⟩
  | beginLook k => exact Or.inr (Or.inl ⟨k, rfl⟩)
  | look mishap => exact Or.inr (Or.inr (Or.inl ⟨mishap, rfl⟩))
  | «open» => exact Or.inr (Or.inr (Or.inr ⟨_, rfl, keeps_open e.table⟩))
  | lose s => exact Or.inr (Or.inr (Or.inr ⟨_, rfl, keeps_endSession e.table s⟩))
  | take s =>
    refine Or.inr (Or.inr (Or.inr ?_))
    by_cases hs : s ∈ e.mine ∨ ¬e.table.Live s
    · exact ⟨e.table, if_pos hs, Keeps.refl e.table⟩
    · refine ⟨_, if_neg hs, (keeps_take e.table s).mono fun t ht => ?_⟩
      rw [not_or, not_not] at hs
      exact ht ▸ ⟨hs.1, hs.2.1⟩
  | giveBack s =>
    refine Or.inr (Or.inr (Or.inr ?_))
    by_cases hs : s ∈ e.mine ∨ ¬e.table.Live s
    · exact ⟨e.table, if_pos hs, Keeps.refl e.table⟩
    · refine ⟨_, if_neg hs, (keeps_giveBack e.table s).mono fun t ht => ?_⟩
      rw [not_or, not_not] at hs
      exact ht ▸ ⟨hs.1, hs.2.1⟩

theorem Inv.step (h : e.Inv lockId) (m : Move) : Inv lockId (e.step m) := by
  obtain ⟨mishap, rfl⟩ | ⟨k, rfl⟩ | ⟨mishap, rfl⟩ | ⟨v, hv, hk⟩ := step_cases h.owned.sameLock m
  · exact h.advanceRound mishap
  · exact h.beginLook k
  · exact h.advanceLook mishap
  · rw [hv]
    exact ⟨h.order.table v, h.owned.of_others hk⟩

theorem Inv.run (h : e.Inv lockId) (moves : List Move) : Inv lockId (e.run moves) := by
  induction moves generalizing e with
  | nil => exact h
  | cons m rest ih => exact ih (h.step m)

theorem inv_start (lockId : Int) : Inv lockId (start lockId) := by
  refine ⟨⟨nofun, nofun, nofun, nofun, fun hs => ?_, nofun⟩, ⟨rfl, nofun, fun _ _ => rfl, nofun, trivial, trivial, nofun, nofun⟩⟩
  obtain ⟨k, hk, -⟩ := hs
  cases hk

/-! ## The pause lasts -/

/-- A move that does not begin a look at the traffic that finds enough. -/
def Move.Quiet : Move → Prop
  | .beginLook k => k.tooLong = true
  | _ => True

theorem Order.paused_of_sticking (h : e.Order) (hs : e.Sticking) : e.rounds.paused = true := by
  cases hp : e.rounds.paused with
  | true => rfl
  | false => exact absurd hs (h.not_sticking hp)

/-- Nobody competes in a pause. -/
theorem Order.not_competes_of_paused (h : e.Order) (hp : e.rounds.paused = true) : e.round.competes = false := by
  cases hc : e.round.competes with
  | false => rfl
  | true => cases hp.symm.trans (h.unpaused hc)

theorem last_advanceRound (e : Elector) (m : Mishap) : (e.advanceRound m).last = e.last := by
  unfold Elector.advanceRound
  cases e.round with
  | idle => rfl
  | waiting => cases e.look.hasTurn <;> rfl
  | entered => cases e.rounds.paused <;> rfl
  | asking w => cases w <;> rfl
  | opened answer => cases answer <;> rfl
  | answered s answer => rfl

/-- A look at the traffic that is over is the one that was under way. -/
theorem last_advanceLook (e : Elector) (m : Mishap) :
    (e.advanceLook m).last = e.last ∨ ∃ k, e.look.about? = some k ∧ (e.advanceLook m).last = some k := by
  unfold Elector.advanceLook
  cases e.look with
  | idle => exact Or.inl rfl
  | waiting k =>
    cases e.round.hasTurn with
    | true => exact Or.inl rfl
    | false => exact Or.inl rfl
  | entered k => exact Or.inl rfl
  | resigning k =>
    obtain ⟨slot, l, reported⟩ := e.lock.beginResign
    cases slot with
    | none => exact Or.inr ⟨k, rfl, rfl⟩
    | some s => exact Or.inl rfl
  | unlocking s k => exact Or.inl rfl
  | unlocked s answer k => exact Or.inr ⟨k, rfl, rfl⟩

/-- Only a look at the traffic that finds enough ends the time without leadership. -/
theorem sticking_step (h : e.Inv lockId) (hs : e.Sticking) {m : Move} (hm : m.Quiet) : (e.step m).Sticking := by
  have hsame : ∀ e' : Elector, e'.last = e.last → e'.Sticking := by
    intro e' he
    obtain ⟨k, hk, hlong⟩ := hs
    exact ⟨k, he.trans hk, hlong⟩
  obtain ⟨mishap, rfl⟩ | ⟨k, rfl⟩ | ⟨mishap, rfl⟩ | ⟨v, hv, -⟩ := step_cases h.owned.sameLock m
  · exact hsame _ (last_advanceRound e mishap)
  · have hlong : k.tooLong = true := hm
    refine hsame _ ?_
    unfold Elector.step Elector.beginLook
    cases e.look <;> simp [hlong]
  · obtain he | ⟨k, hk, he⟩ := last_advanceLook e mishap
    · exact hsame _ he
    · exact ⟨k, he, h.order.waits k hk⟩
  · rw [hv]
    exact hsame _ rfl

/-- A round asks nobody in a pause. -/
theorem asked_advanceRound (h : e.Order) (hp : e.rounds.paused = true) (m : Mishap) : (e.advanceRound m).asked = e.asked := by
  have hno := h.not_competes_of_paused hp
  unfold Elector.advanceRound
  cases hround : e.round with
  | idle => rfl
  | waiting => cases e.look.hasTurn <;> rfl
  | entered => rw [hp]; rfl
  | asking w => cases (congrArg RoundPhase.competes hround).symm.trans hno
  | opened answer => cases (congrArg RoundPhase.competes hround).symm.trans hno
  | answered s answer => cases (congrArg RoundPhase.competes hround).symm.trans hno

theorem asked_advanceLook (e : Elector) (m : Mishap) : (e.advanceLook m).asked = e.asked := by
  unfold Elector.advanceLook
  cases e.look with
  | idle => rfl
  | waiting k => cases e.round.hasTurn <;> rfl
  | entered k => rfl
  | resigning k =>
    obtain ⟨slot, l, reported⟩ := e.lock.beginResign
    cases slot <;> rfl
  | unlocking s k => rfl
  | unlocked s answer k => rfl

theorem asked_beginLook (e : Elector) (k : Look) : (e.beginLook k).asked = e.asked := by
  unfold Elector.beginLook
  cases e.look with
  | idle =>
    dsimp only
    split <;> rfl
  | waiting k' => rfl
  | entered k' => rfl
  | resigning k' => rfl
  | unlocking s k' => rfl
  | unlocked s answer k' => rfl

/-- Nobody asks for a session or a lock while the instance keeps away. -/
theorem asked_step (h : e.Inv lockId) (hs : e.Sticking) (m : Move) : (e.step m).asked = e.asked := by
  obtain ⟨mishap, rfl⟩ | ⟨k, rfl⟩ | ⟨mishap, rfl⟩ | ⟨v, hv, -⟩ := step_cases h.owned.sameLock m
  · exact asked_advanceRound h.order (h.order.paused_of_sticking hs) mishap
  · exact asked_beginLook e k
  · exact asked_advanceLook e mishap
  · rw [hv]

/-- While the instance keeps away it does not lead, and has no stake. -/
theorem Inv.away (h : e.Inv lockId) (hs : e.Sticking) :
    e.lock.isLeader ≠ .ok true ∧ (∀ s ∈ e.mine, e.table.depth lockId s = 0) ∧ e.round.competes = false := by
  obtain ⟨hstatus, hlook⟩ := h.order.resigned hs
  have hnot : e.lock.status ≠ .leader := by
    rw [hstatus]
    exact nofun
  have hround := h.order.not_competes_of_paused (h.order.paused_of_sticking hs)
  have hstake := h.owned.stake
  rw [stake_of_calm hround hlook, stake_of_not_leader hnot] at hstake
  exact ⟨fun hl => hnot ((isLeader_eq_true_iff _).1 hl), hstake, hround⟩

theorem Inv.away_run (h : e.Inv lockId) (hs : e.Sticking) {moves : List Move} (hm : ∀ m ∈ moves, m.Quiet) :
    (e.run moves).Sticking ∧ (e.run moves).asked = e.asked := by
  induction moves generalizing e with
  | nil => exact ⟨hs, rfl⟩
  | cons m rest ih =>
    obtain ⟨hsticks, hasked⟩ := ih (h.step m) (sticking_step h hs (hm m List.mem_cons_self))
      (fun m' hm' => hm m' (List.mem_cons_of_mem m hm'))
    exact ⟨hsticks, hasked.trans (asked_step h hs m)⟩

/-- What holds after every course of events. -/
structure Sticks (lockId : Int) (e : Elector) : Prop where
  /-- Between two looks at the traffic there is a pause exactly if the last one found too little. -/
  paused : e.look = .idle → ∀ k, e.last = some k → (e.rounds.paused = true ↔ k.timeout < k.idle)
  /-- After a look that found too little, and until one finds enough, the instance does not lead, none of its sessions holds the lock,
  and no round asks for a session or for the lock or probes one, nor waits for an answer. -/
  away : ∀ k, e.last = some k → k.timeout < k.idle → ∀ moves : List Move, (∀ m ∈ moves, m.Quiet) →
    (e.run moves).lock.isLeader ≠ .ok true ∧ (∀ s ∈ (e.run moves).mine, (e.run moves).table.depth lockId s = 0) ∧
      (e.run moves).round.competes = false ∧ (e.run moves).asked = e.asked

/-- However rounds and looks at the traffic interleave, and whatever befalls their requests and sessions: when a look has found too
little, there is a pause, and until a look finds enough the instance stays away from the lock. -/
theorem idle_resignation_sticks (lockId : Int) (moves : List Move) : Sticks lockId ((start lockId).run moves) := by
  have h := (inv_start lockId).run moves
  generalize (start lockId).run moves = e at h
  refine ⟨fun hlook k hk => ?_, fun k hk hlong more hquiet => ?_⟩
  · have hlast := h.order.last (by rw [hlook]; rfl) k hk
    rw [hlast, Look.tooLong, decide_eq_true_iff]
  · have hs : e.Sticking := ⟨k, hk, decide_eq_true hlong⟩
    obtain ⟨hsticks, hasked⟩ := h.away_run hs hquiet
    obtain ⟨hleader, hfree, hround⟩ := (h.run more).away hsticks
    exact ⟨hleader, hfree, hround, hasked⟩

/-- A look that finds three nanoseconds without traffic where two are too long. -/
def longIdle : Look := ⟨⟨3⟩, ⟨2⟩⟩

/-- A round is won, the leader begins to resign, and the next round waits for its turn. -/
def resigning : List Move :=
  List.replicate 7 (.round {}) ++ [.beginLook longIdle, .look {}, .look {}, .look {}, .round {}, .round {}]

/-- The leader has resigned, and the round that waited has had its turn. -/
def resigned : List Move := resigning ++ [.look {}, .look {}, .round {}, .round {}]

/-- A round that waits while a leader resigns finds the pause when its turn comes, and nobody asks for the lock after that. -/
theorem idle_resignation_sticks_waitingRound :
    ((start 42).run (List.replicate 7 (.round {}))).lock.isLeader = .ok true ∧
      ((start 42).run resigning).round = .waiting ∧ ((start 42).run resigning).look = .unlocking 0 longIdle ∧
      ((start 42).run resigned).round = .idle ∧ ((start 42).run resigned).look = .idle ∧
      ((start 42).run resigned).last = some longIdle ∧ longIdle.timeout < longIdle.idle ∧ ((start 42).run resigned).rounds.paused = true ∧
      ((start 42).run resigned).lock.isLeader = .ok false ∧ ((start 42).run resigned).table.holder 42 = none ∧
      ∀ moves : List Move, (∀ m ∈ moves, m.Quiet) →
        (((start 42).run resigned).run moves).lock.isLeader ≠ .ok true ∧
          (∀ s ∈ (((start 42).run resigned).run moves).mine, (((start 42).run resigned).run moves).table.depth 42 s = 0) ∧
          (((start 42).run resigned).run moves).round.competes = false ∧
          (((start 42).run resigned).run moves).asked = ((start 42).run resigned).asked := by
  have hlook : ((start 42).run resigned).look = .idle := rfl
  have hlast : ((start 42).run resigned).last = some longIdle := rfl
  have hlong : longIdle.timeout < longIdle.idle := by decide
  obtain ⟨hpaused, haway⟩ := idle_resignation_sticks 42 resigned
  exact ⟨rfl, rfl, rfl, rfl, hlook, hlast, hlong, (hpaused hlook longIdle hlast).2 hlong, rfl, rfl, haway longIdle hlast hlong⟩

end Elector

end Intake
