import Intake.Postgres.Source
import Intake.Proofs.Leadership.Rounds
import Intake.Proofs.Leadership.Turns

/-!
# Journal: who led when

Rounds and looks at the traffic are called one after the other, and a round announces that leadership was won or lost. `Journal` is an
instance between two calls, with an entry for every call so far: the status before and after it, and what it reported. Between two calls
anything may happen on the lock server, of which there are two: `Source.lockBackend` is any database server, and `FaultyServer.backend` the
table of locks with its mishaps. The rounds keep a flag of their own for the announcements, which is not the status of the lock.

The flag is that of a leader exactly if the status is (`Journal.announcements_track`), although rounds in a pause, resignations that fail
and sessions that are lost change one of the two at most. So what is announced are the changes of the status by rounds, each once: who
reads the announcements knows who led when, but for the end of leadership by a look at the traffic, which has a report of its own.
-/

namespace Intake

/-! ## Lock servers -/

/-- A lock server to which a session is opened without a word about leadership. -/
structure LockBackend (σ : Type) extends LockService σ where
  unannounced : ∀ s, Unannounced (connect s).2.2

/-- Who takes over a password says nothing of leadership. -/
theorem Credentials.unannounced_apply (content : String) (c : Credentials) : Unannounced ((apply content).run c).2.2 := by
  unfold apply Act.run
  dsimp only
  split
  · exact unannounced_nil
  · dsimp only
    split
    · exact unannounced_singleton rfl
    · exact unannounced_nil

namespace Source

variable {σ : Type}

theorem unannounced_refresh (svc : DatabaseServer σ) (t : Source × σ) : Unannounced ((refresh svc).run t).2.2 := by
  unfold refresh
  rw [Act.run_get_bind]
  dsimp only
  split
  · exact unannounced_nil
  · refine unannounced_bind (unannounced_singleton rfl) ?_
    intro _ t'
    cases Credentials.content t.1.settings.passwordFile (svc.passwordFile t.2) with
    | error cause => exact unannounced_nil
    | ok content => exact unannounced_bind (Credentials.unannounced_apply content t'.1.credentials) fun _ _ => unannounced_nil

theorem unannounced_dedicated (svc : DatabaseServer σ) (t : Source × σ) : Unannounced ((dedicated svc).run t).2.2 := by
  unfold dedicated
  refine unannounced_bind (unannounced_refresh svc t) ?_
  intro r t'
  cases r with
  | error e => exact unannounced_nil
  | ok o => exact unannounced_nil

/-- The locks of a database server, whatever the server does. -/
def lockBackend (svc : DatabaseServer σ) : LockBackend (Source × σ) where
  toLockService := lockService svc
  unannounced := unannounced_dedicated svc

end Source

/-- The server on which every request can fail. -/
def FaultyServer.backend : LockBackend FaultyServer where
  toLockService := service
  unannounced := fun _ => unannounced_nil

/-! ## Entries -/

/-- What an elector is called for. -/
inductive Occasion where
  | round
  | look (k : Look)

def Occasion.act {σ : Type} (c : Candidate σ) : Occasion → Act (Rounds × σ) Unit
  | .round => do
    let _ ← Rounds.run c
  | .look k => Rounds.checkIdle c k.idle k.timeout

/-- A call, by what it was for, what it did to the status and what it reported. -/
structure Entry where
  occasion : Occasion
  before : LockStatus
  after : LockStatus
  events : List Event

namespace Entry

/-- Leadership was won. -/
def Wins (e : Entry) : Prop := e.before ≠ .leader ∧ e.after = .leader

/-- Leadership was lost, or given up. -/
def Ends (e : Entry) : Prop := e.before = .leader ∧ e.after ≠ .leader

/-- What a round announces by which the status changes. -/
def announcement (id : String) (before after : LockStatus) : List Event :=
  if after = .leader then if before = .leader then [] else [.becameLeader id]
  else if before = .leader then [.lostLeadership id] else []

/-- A round announces what it did to the status; a look at the traffic announces nothing, and resigns if there is too little. -/
structure Faithful (id : String) (e : Entry) : Prop where
  round : e.occasion = .round → e.events.filter Event.announces = announcement id e.before e.after
  look : ∀ k, e.occasion = .look k →
    e.events.filter Event.announces = [] ∧ e.after = if k.tooLong then .follower else e.before

variable {id : String} {e : Entry}

theorem mem_announced {x : Event} (hx : x.announces = true) : x ∈ e.events ↔ x ∈ e.events.filter Event.announces := by
  simp [List.mem_filter, hx]

/-- A call announces at most one change. -/
theorem Faithful.length_le (h : e.Faithful id) : (e.events.filter Event.announces).length ≤ 1 := by
  cases ho : e.occasion with
  | round =>
    rw [h.round ho, announcement]
    split <;> split <;> simp
  | look k => simp [(h.look k ho).1]

/-- The calls that announce leadership are the rounds that win it. -/
theorem Faithful.became_iff (h : e.Faithful id) (name : String) :
    .becameLeader name ∈ e.events ↔ name = id ∧ e.occasion = .round ∧ e.Wins := by
  rw [mem_announced rfl]
  cases ho : e.occasion with
  | round =>
    rw [h.round ho, announcement]
    by_cases hafter : e.after = .leader <;> by_cases hbefore : e.before = .leader <;> simp [Wins, hafter, hbefore]
  | look k => simp [(h.look k ho).1]

/-- The calls that announce its loss are the rounds that lose it. -/
theorem Faithful.lost_iff (h : e.Faithful id) (name : String) :
    .lostLeadership name ∈ e.events ↔ name = id ∧ e.occasion = .round ∧ e.Ends := by
  rw [mem_announced rfl]
  cases ho : e.occasion with
  | round =>
    rw [h.round ho, announcement]
    by_cases hafter : e.after = .leader <;> by_cases hbefore : e.before = .leader <;> simp [Ends, hafter, hbefore]
  | look k => simp [(h.look k ho).1]

/-- Only a round wins leadership. -/
theorem Faithful.round_of_wins (h : e.Faithful id) (hwins : e.Wins) : e.occasion = .round := by
  cases ho : e.occasion with
  | round => rfl
  | look k =>
    obtain ⟨hbefore, hafter⟩ := hwins
    rw [(h.look k ho).2] at hafter
    split at hafter
    · cases hafter
    · exact absurd hafter hbefore

/-- Leadership ends by a round, which announces it, or by a look that found too little traffic. -/
theorem Faithful.cause_of_ends (h : e.Faithful id) (hends : e.Ends) :
    e.occasion = .round ∧ .lostLeadership id ∈ e.events ∨ ∃ k, e.occasion = .look k ∧ k.timeout < k.idle := by
  cases ho : e.occasion with
  | round => exact Or.inl ⟨rfl, (h.lost_iff id).2 ⟨rfl, ho, hends⟩⟩
  | look k =>
    refine Or.inr ⟨k, rfl, ?_⟩
    obtain ⟨hbefore, hafter⟩ := hends
    by_contra hshort
    have hkept := (h.look k ho).2
    rw [Look.tooLong, decide_eq_false hshort] at hkept
    exact hafter (hkept.trans hbefore)

end Entry

/-- Entries that lead from one status to another: each begins where the one before it ended. -/
def Linked : LockStatus → List Entry → LockStatus → Prop
  | s, [], t => s = t
  | s, e :: es, t => e.before = s ∧ Linked e.after es t

namespace Linked

variable {s t : LockStatus} {es : List Entry} {e : Entry}

theorem concat (h : Linked s es t) (he : e.before = t) : Linked s (es ++ [e]) e.after := by
  induction es generalizing s with
  | nil =>
    obtain rfl := h
    exact ⟨he, rfl⟩
  | cons x rest ih => exact ⟨h.1, ih h.2⟩

theorem drop (h : Linked s es t) {i : Nat} (he : es[i]? = some e) : Linked e.after (es.drop (i + 1)) t := by
  induction es generalizing s i with
  | nil => cases he
  | cons x rest ih =>
    cases i with
    | zero =>
      cases he
      exact h.2
    | succ i => exact ih h.2 he

/-- What a status has at the beginning and has not before some entry, it lost by an entry in between. -/
theorem exists_change {p : LockStatus → Prop} (h : Linked s es t) (hs : p s) {j : Nat} (hj : es[j]? = some e) (he : ¬p e.before) :
    ∃ k x, k < j ∧ es[k]? = some x ∧ p x.before ∧ ¬p x.after := by
  induction es generalizing s j with
  | nil => cases hj
  | cons x rest ih =>
    obtain ⟨rfl, hrest⟩ := h
    cases j with
    | zero =>
      cases hj
      exact absurd hs he
    | succ j =>
      by_cases hx : p x.after
      · obtain ⟨k, y, hk, hy, hbefore, hafter⟩ := ih hrest hx hj
        exact ⟨k + 1, y, Nat.succ_lt_succ hk, hy, hbefore, hafter⟩
      · exact ⟨0, x, Nat.succ_pos j, rfl, hs, hx⟩

/-- What a status has after one entry and has not before a later one, it lost by an entry in between. -/
theorem exists_between {p : LockStatus → Prop} (h : Linked s es t) {i j : Nat} {x y : Entry} (hij : i < j) (hi : es[i]? = some x)
    (hj : es[j]? = some y) (hx : p x.after) (hy : ¬p y.before) :
    ∃ k z, i < k ∧ k < j ∧ es[k]? = some z ∧ p z.before ∧ ¬p z.after := by
  have hj' : (es.drop (i + 1))[j - (i + 1)]? = some y := by
    rw [List.getElem?_drop, Nat.add_sub_cancel' hij]
    exact hj
  obtain ⟨k, z, hk, hz, hbefore, hafter⟩ := (h.drop hi).exists_change hx hj' hy
  rw [List.getElem?_drop] at hz
  exact ⟨i + 1 + k, z, by omega, by omega, hz, hbefore, hafter⟩

end Linked

/-! ## Journals -/

/-- An instance between two calls, and the calls so far. -/
structure Journal (σ : Type) where
  rounds : Rounds := {}
  lock : AdvisoryLock
  server : σ
  entries : List Entry := []

namespace Journal

variable {σ : Type} {svc : LockBackend σ} {j : Journal σ} {lockId : Int}

/-- What can happen next. -/
inductive Move (σ : Type) where
  | call (o : Occasion)
  /-- Something happens on the lock server. -/
  | meanwhile (change : σ → σ)

def call (svc : LockBackend σ) (j : Journal σ) (o : Occasion) : Journal σ :=
  let (_, (rounds, lock, server), events) :=
    (o.act (AdvisoryLock.candidate svc.toLockService)).run (j.rounds, j.lock, j.server)
  { rounds, lock, server, entries := j.entries ++ [⟨o, j.lock.status, lock.status, events⟩] }

def step (svc : LockBackend σ) (j : Journal σ) : Move σ → Journal σ
  | .call o => j.call svc o
  | .meanwhile change => { j with server := change j.server }

def run (svc : LockBackend σ) (j : Journal σ) (moves : List (Move σ)) : Journal σ := moves.foldl (step svc) j

/-- An instance before its first call. -/
def start (lockId : Int) (s : σ) : Journal σ := { lock := { lockId }, server := s }

/-! ### One call -/

/-- What a call for some occasion leaves of an instance, and what it reports. -/
structure Leaves (o : Occasion) (l : AdvisoryLock) (t : Rounds × AdvisoryLock × σ) (events : List Event) : Prop where
  lockId : t.2.1.lockId = l.lockId
  leading : t.1.leading = true ↔ t.2.1.status = .leader
  faithful : Entry.Faithful (toString l.lockId) ⟨o, l.status, t.2.1.status, events⟩

/-- A round compares its result with that of the round before. -/
theorem filter_settle {r : Rounds} {before after : LockStatus} {result : Except ElectionError Bool} (id : String)
    (hbefore : r.leading = true ↔ before = .leader) (hafter : Rounds.won result = true ↔ after = .leader) :
    (r.settle id result).2.filter Event.announces = Entry.announcement id before after := by
  have hleading : r.leading = decide (before = .leader) := by rw [Bool.eq_iff_iff, hbefore, decide_eq_true_iff]
  have hwon : Rounds.won result = decide (after = .leader) := by rw [Bool.eq_iff_iff, hafter, decide_eq_true_iff]
  simp only [Rounds.settle, Entry.announcement, hleading, hwon]
  by_cases ha : after = .leader <;> by_cases hb : before = .leader <;> simp [ha, hb, Event.announces]

variable {r : Rounds} {l : AdvisoryLock}

/-- A round, in a pause or not. -/
theorem round_leaves (svc : LockBackend σ) (h : r.leading = true ↔ l.status = .leader) (s : σ) :
    Leaves .round l ((Occasion.round.act (AdvisoryLock.candidate svc.toLockService)).run (r, l, s)).2.1
      ((Occasion.round.act (AdvisoryLock.candidate svc.toLockService)).run (r, l, s)).2.2 := by
  rw [Occasion.act, Act.run_bind]
  cases hpaused : r.paused with
  | true =>
    rw [Rounds.run_paused _ hpaused]
    refine ⟨rfl, h, fun _ => ?_, nofun⟩
    by_cases hl : l.status = .leader <;> simp [Entry.announcement, Event.announces, hl]
  | false =>
    rw [Rounds.run_unpaused _ hpaused]
    have hid := AdvisoryLock.lockId_compete svc.toLockService l s
    have hwon := AdvisoryLock.won_compete svc.toLockService l s
    have hquiet := (AdvisoryLock.unannounced_compete (l := l) (svc.unannounced s)).filter
    refine ⟨hid, hwon, fun _ => ?_, nofun⟩
    change ((_ ++ _) ++ []).filter Event.announces = _
    rw [List.append_nil, List.filter_append, ← hid]
    exact congrArg₂ (· ++ ·) hquiet (filter_settle _ h hwon)

/-- A look at the traffic, with enough of it or too little. -/
theorem look_leaves (svc : LockBackend σ) (h : r.leading = true ↔ l.status = .leader) (k : Look) (s : σ) :
    Leaves (.look k) l (((Occasion.look k).act (AdvisoryLock.candidate svc.toLockService)).run (r, l, s)).2.1
      (((Occasion.look k).act (AdvisoryLock.candidate svc.toLockService)).run (r, l, s)).2.2 := by
  have hquiet : Unannounced ((Rounds.checkIdle (AdvisoryLock.candidate svc.toLockService) k.idle k.timeout).run (r, l, s)).2.2 :=
    Rounds.unannounced_checkIdle (AdvisoryLock.unannounced_resign svc.toLockService l s) r
  rw [Occasion.act]
  by_cases hlong : k.timeout < k.idle
  · have hlock := AdvisoryLock.lockId_resign svc.toLockService l s
    have hstatus : ((AdvisoryLock.resign svc.toLockService).run (l, s)).2.1.1.status = .follower :=
      AdvisoryLock.status_resign svc.toLockService l s
    have hleft := Rounds.checkIdle_of_idle (c := AdvisoryLock.candidate svc.toLockService) hlong r (l, s)
    generalize (Rounds.checkIdle _ k.idle k.timeout).run (r, l, s) = q at hleft hquiet
    obtain ⟨u, t, events⟩ := q
    obtain rfl := hleft
    refine ⟨hlock, ⟨fun hl => ?_, fun hl => ?_⟩, fun hround => ?_, ?_⟩
    · cases hl
    · cases hstatus.symm.trans hl
    · cases hround
    · rintro k ⟨⟩
      refine ⟨hquiet.filter, ?_⟩
      rw [Look.tooLong, decide_eq_true hlong, if_pos rfl]
      exact hstatus
  · have hleft := Rounds.checkIdle_of_busy (c := AdvisoryLock.candidate svc.toLockService) hlong r (l, s)
    generalize (Rounds.checkIdle _ k.idle k.timeout).run (r, l, s) = q at hleft hquiet
    obtain ⟨u, t, events⟩ := q
    obtain rfl := hleft
    refine ⟨rfl, h, fun hround => ?_, ?_⟩
    · cases hround
    · rintro k ⟨⟩
      refine ⟨hquiet.filter, ?_⟩
      rw [Look.tooLong, decide_eq_false hlong]
      rfl

/-! ### Runs -/

/-- What holds of a journal after every run. -/
structure Inv (lockId : Int) (j : Journal σ) : Prop where
  sameLock : j.lock.lockId = lockId
  leading : j.rounds.leading = true ↔ j.lock.status = .leader
  faithful : ∀ e ∈ j.entries, e.Faithful (toString lockId)
  /-- The status changes by calls only. -/
  linked : Linked .follower j.entries j.lock.status

theorem inv_start (lockId : Int) (s : σ) : Inv lockId (start lockId s) :=
  ⟨rfl, ⟨nofun, nofun⟩, nofun, rfl⟩

/-- A call is entered with what it leaves. -/
theorem Inv.enter (h : j.Inv lockId) {o : Occasion} {t : Rounds × AdvisoryLock × σ} {events : List Event}
    (hleaves : Leaves o j.lock t events) :
    Inv lockId ⟨t.1, t.2.1, t.2.2, j.entries ++ [⟨o, j.lock.status, t.2.1.status, events⟩]⟩ := by
  refine ⟨hleaves.lockId.trans h.sameLock, hleaves.leading, ?_, h.linked.concat rfl⟩
  intro e he
  rcases List.mem_append.1 he with he | he
  · exact h.faithful e he
  · rw [List.mem_singleton.1 he, ← h.sameLock]
    exact hleaves.faithful

theorem Inv.call (h : j.Inv lockId) (svc : LockBackend σ) (o : Occasion) : Inv lockId (j.call svc o) := by
  cases o with
  | round => exact h.enter (round_leaves svc h.leading j.server)
  | look k => exact h.enter (look_leaves svc h.leading k j.server)

theorem Inv.step (h : j.Inv lockId) (svc : LockBackend σ) (m : Move σ) : Inv lockId (j.step svc m) := by
  cases m with
  | call o => exact h.call svc o
  | meanwhile change => exact ⟨h.sameLock, h.leading, h.faithful, h.linked⟩

theorem Inv.run (h : j.Inv lockId) (svc : LockBackend σ) (moves : List (Move σ)) : Inv lockId (j.run svc moves) := by
  induction moves generalizing j with
  | nil => exact h
  | cons m rest ih => exact ih (h.step svc m)

/-- Who led after one call and does not before a later one lost leadership by a call in between. -/
theorem Inv.ends_between (h : j.Inv lockId) {i k : Nat} {e e' : Entry} (hik : i < k) (hi : j.entries[i]? = some e)
    (hk : j.entries[k]? = some e') (hled : e.after = .leader) (hleads : e'.before ≠ .leader) :
    ∃ n x, i < n ∧ n < k ∧ j.entries[n]? = some x ∧ x.Ends ∧
      (x.occasion = .round ∧ .lostLeadership (toString lockId) ∈ x.events ∨
        ∃ look, x.occasion = .look look ∧ look.timeout < look.idle) := by
  obtain ⟨n, x, hin, hnk, hx, hbefore, hafter⟩ := h.linked.exists_between (p := (· = .leader)) hik hi hk hled hleads
  have hends : x.Ends := ⟨hbefore, hafter⟩
  exact ⟨n, x, hin, hnk, hx, hends, (h.faithful x (List.mem_of_getElem? hx)).cause_of_ends hends⟩

/-- Who did not lead after one call and does before a later one won leadership by a round in between. -/
theorem Inv.wins_between (h : j.Inv lockId) {i k : Nat} {e e' : Entry} (hik : i < k) (hi : j.entries[i]? = some e)
    (hk : j.entries[k]? = some e') (hled : e.after ≠ .leader) (hleads : e'.before = .leader) :
    ∃ n x, i < n ∧ n < k ∧ j.entries[n]? = some x ∧ x.Wins ∧ x.occasion = .round ∧
      .becameLeader (toString lockId) ∈ x.events := by
  obtain ⟨n, x, hin, hnk, hx, hbefore, hafter⟩ :=
    h.linked.exists_between (p := (· ≠ .leader)) hik hi hk hled (not_not_intro hleads)
  have hwins : x.Wins := ⟨hbefore, not_not.1 hafter⟩
  have hfaithful := h.faithful x (List.mem_of_getElem? hx)
  have hround := hfaithful.round_of_wins hwins
  exact ⟨n, x, hin, hnk, hx, hwins, hround, (hfaithful.became_iff _).2 ⟨rfl, hround, hwins⟩⟩

/-- What the flag of the rounds and their announcements say of the status. -/
structure Tracks (id : String) (j : Journal σ) : Prop where
  /-- Each call begins with the status that the one before it left, the first one with that of a follower. -/
  linked : Linked .follower j.entries j.lock.status
  /-- The flag is set exactly while the status is that of a leader. -/
  leading : j.rounds.leading = true ↔ j.lock.status = .leader
  /-- The calls that announce leadership are the rounds that win it. -/
  became : ∀ e ∈ j.entries, ∀ name, .becameLeader name ∈ e.events ↔ name = id ∧ e.occasion = .round ∧ e.Wins
  /-- The calls that announce its loss are the rounds that lose it. -/
  lost : ∀ e ∈ j.entries, ∀ name, .lostLeadership name ∈ e.events ↔ name = id ∧ e.occasion = .round ∧ e.Ends
  /-- No call announces two changes. -/
  once : ∀ e ∈ j.entries, (e.events.filter Event.announces).length ≤ 1
  /-- Between two calls that announce leadership it ended, by a round that announced it or by a look that found too little traffic. -/
  becameAgain : ∀ (i k : Nat) (e e' : Entry), i < k → j.entries[i]? = some e → j.entries[k]? = some e' →
    .becameLeader id ∈ e.events → .becameLeader id ∈ e'.events →
      ∃ n x, i < n ∧ n < k ∧ j.entries[n]? = some x ∧ x.Ends ∧
        (x.occasion = .round ∧ .lostLeadership id ∈ x.events ∨ ∃ look, x.occasion = .look look ∧ look.timeout < look.idle)
  /-- Between two calls that announce its loss it was won, by a round that announced it. -/
  lostAgain : ∀ (i k : Nat) (e e' : Entry), i < k → j.entries[i]? = some e → j.entries[k]? = some e' →
    .lostLeadership id ∈ e.events → .lostLeadership id ∈ e'.events →
      ∃ n x, i < n ∧ n < k ∧ j.entries[n]? = some x ∧ x.Wins ∧ x.occasion = .round ∧ .becameLeader id ∈ x.events

/-- Whatever the lock server does, and whatever happens on it between two calls: the flag of the rounds is that of the status, rounds
announce exactly the changes of the status that they make, and neither announcement is repeated without a change back in between. -/
theorem announcements_track (svc : LockBackend σ) (lockId : Int) (s : σ) (moves : List (Move σ)) :
    ((start lockId s).run svc moves).Tracks (toString lockId) := by
  have h := (inv_start lockId s).run svc moves
  generalize (start lockId s).run svc moves = j at h
  refine ⟨h.linked, h.leading, ?_, ?_, ?_, ?_, ?_⟩
  · intro e he
    exact (h.faithful e he).became_iff
  · intro e he
    exact (h.faithful e he).lost_iff
  · intro e he
    exact (h.faithful e he).length_le
  · intro i k e e' hik hi hk he he'
    have hwon := ((h.faithful e (List.mem_of_getElem? hi)).became_iff _).1 he
    have hwon' := ((h.faithful e' (List.mem_of_getElem? hk)).became_iff _).1 he'
    exact h.ends_between hik hi hk hwon.2.2.2 hwon'.2.2.1
  · intro i k e e' hik hi hk he he'
    have hlost := ((h.faithful e (List.mem_of_getElem? hi)).lost_iff _).1 he
    have hlost' := ((h.faithful e' (List.mem_of_getElem? hk)).lost_iff _).1 he'
    exact h.wins_between hik hi hk hlost.2.2.2 hlost'.2.2.1

/-- Leadership is won, lost with the session, won again, and given up by a look at the traffic, after which a round is skipped. -/
example :
    let loses : Move FaultyServer := .meanwhile fun v => { v with table := v.table.endSession 0 }
    let looks : Look := ⟨⟨3⟩, ⟨2⟩⟩
    let j := (start 42 { table := {} }).run FaultyServer.backend
      [.call .round, loses, .call .round, .call .round, .call (.look looks), .call .round]
    j.entries.map (fun e => decide (e.after = .leader)) = [true, false, true, false, false] ∧
      j.entries.map (fun e => e.events.filter Event.announces) =
        [[.becameLeader "42"], [.lostLeadership "42"], [.becameLeader "42"], [], []] := by
  exact ⟨rfl, rfl⟩

end Journal

end Intake
