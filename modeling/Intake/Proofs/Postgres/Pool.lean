import Intake.Postgres.Source
import Intake.Proofs.Act

/-!
# Pool: rules for acts on a pool and a source

What an act on a pool or a source yields, in terms of what its connection is asked: giving a connection back, handing one out, ending
and abandoning a session. The rules hold for any server.
-/

namespace Intake

variable {σ α : Type} {svc : DatabaseServer σ} {c : Connection}

namespace Connection

/-- What is asked for settles what the connection owes. -/
theorem ask_clear (svc : DatabaseServer σ) (o : Order) (t : Connection × σ) :
    (ask svc o).Yields t fun _ t' => t'.1 = { t.1 with owesRollback := false } := by
  obtain ⟨⟨number, owes⟩, s⟩ := t
  have hsettled : (settle svc).Yields (⟨number, owes⟩, s) fun _ t' => t'.1 = ⟨number, false⟩ := by cases owes <;> rfl
  unfold ask
  refine hsettled.bind fun r t' h => ?_
  cases r with
  | error e => exact h
  | ok u => exact h

end Connection

namespace Pool

variable {p : Pool} {s : σ}

/-- Giving back a connection: one that finds no room is ended, one that gives no sign of life is cut off, any other one is kept. -/
theorem yields_giveBack {Q : Unit → Pool × σ → Prop}
    (hfull : (p.isClosed || !p.hasRoom) = true → Q () (p.forget, svc.terminate c.number s))
    (hroom : (Connection.ask svc .sync).Yields (c, s) fun r t =>
      (∀ n, r = .ok n → Q () (p.keep t.1, t.2)) ∧ ∀ e, r = .error e → Q () (p.forget, svc.cut t.1.number t.2)) :
    (giveBack svc c).Yields (p, s) Q := by
  unfold giveBack
  refine Act.yields_get_bind.2 ?_
  dsimp only
  by_cases h : (p.isClosed || !p.hasRoom) = true
  · rw [if_pos h]
    exact hfull h
  · rw [if_neg h]
    have hbeside : (withConnection c (Connection.ask svc .sync)).Yields (p, s) fun x t =>
        t.1 = p ∧ (∀ n, x.1 = .ok n → Q () (p.keep x.2, t.2)) ∧ ∀ e, x.1 = .error e → Q () (p.forget, svc.cut x.2.number t.2) :=
      ⟨rfl, hroom⟩
    refine hbeside.bind fun x t hx => ?_
    obtain ⟨r, c⟩ := x
    obtain ⟨p, s⟩ := t
    obtain ⟨rfl, hkept, hcut⟩ := hx
    cases r with
    | ok n => exact hkept n rfl
    | error e => exact hcut e rfl

/-- Handing out the first idle connection that gives a sign of life. One that gives none is cut off, and the next one is asked. -/
theorem yields_firstAlive_cons {o : ConnectOptions} {rest : List Connection} {Q : Except DatabaseFault Connection → Pool × σ → Prop}
    (h : (Connection.ask svc .sync).Yields (c, s) fun r t =>
      (∀ n, r = .ok n → Q (.ok t.1) ({ p with idle := rest, handedOut := p.handedOut + 1 }, t.2)) ∧
        ∀ e, r = .error e → (firstAlive svc o rest).Yields ({ p with idle := rest }, svc.cut t.1.number t.2) Q) :
    (firstAlive svc o (c :: rest)).Yields (p, s) Q := by
  unfold firstAlive
  refine Act.yields_modify_bind.2 ?_
  have hbeside : (withConnection c (Connection.ask svc .sync)).Yields ({ p with idle := rest }, s) fun x t =>
      t.1 = { p with idle := rest } ∧ (∀ n, x.1 = .ok n → Q (.ok x.2) ({ p with idle := rest, handedOut := p.handedOut + 1 }, t.2)) ∧
        ∀ e, x.1 = .error e → (firstAlive svc o rest).Yields ({ p with idle := rest }, svc.cut x.2.number t.2) Q :=
    ⟨rfl, h⟩
  refine hbeside.bind fun x t hx => ?_
  obtain ⟨r, c⟩ := x
  obtain ⟨p', s⟩ := t
  obtain ⟨rfl, hkept, hcut⟩ := hx
  cases r with
  | ok n => exact hkept n rfl
  | error e => exact hcut e rfl

/-- A connection that is handed out owes nothing. -/
theorem firstAlive_clear (svc : DatabaseServer σ) (o : ConnectOptions) (cs : List Connection) (t : Pool × σ) :
    (firstAlive svc o cs).Yields t fun r _ => ∀ c, r = .ok c → c.owesRollback = false := by
  induction cs generalizing t with
  | nil =>
    unfold firstAlive openNew Act.Yields Act.run
    dsimp only
    split
    · split
      · exact nofun
      · intro c hc
        cases hc
        rfl
    · exact nofun
  | cons c rest ih =>
    refine yields_firstAlive_cons ?_
    refine (Connection.ask_clear svc .sync _).mono fun r t' h => ⟨fun n _ c' hc => ?_, fun e _ => ih _⟩
    cases hc
    rw [h]

/-- A closed pool hands out nothing, and neither does one that has no patience. -/
theorem yields_acquire {o : ConnectOptions} {Q : Except DatabaseFault Connection → Pool × σ → Prop}
    (hrefused : ∀ e, Q (.error e) (p, s)) (h : p.isClosed = false → (firstAlive svc o p.idle).Yields (p, s) Q) :
    (acquire svc o).Yields (p, s) Q := by
  unfold acquire
  refine Act.yields_get_bind.2 ?_
  dsimp only
  cases hclosed : p.isClosed with
  | true => exact hrefused .poolClosed
  | false =>
    by_cases hpatience : p.patience.nanos = 0
    · simp only [hpatience, Bool.false_eq_true, if_false, if_true]
      exact hrefused .poolTimedOut
    · simp only [hpatience, Bool.false_eq_true, if_false]
      exact h hclosed

end Pool

namespace Source

variable {t : Source × σ}

/-- An act on a connection leaves the source as it is. -/
theorem yields_withConnection {a : Act (Connection × σ) α} {Q : α → Connection × σ → Prop} (h : a.Yields (c, t.2) Q) :
    (onPool (Pool.withConnection c a)).Yields t fun x t' => t'.1 = t.1 ∧ Q x.1 (x.2, t'.2) :=
  ⟨rfl, h⟩

/-- Reading the password again touches nothing but the credentials. -/
theorem yields_refresh (svc : DatabaseServer σ) (t : Source × σ) :
    (refresh svc).Yields t fun _ t' => t'.2 = t.2 ∧ t'.1.pool = t.1.pool ∧ t'.1.settings = t.1.settings := by
  unfold refresh
  refine Act.yields_get_bind.2 ?_
  dsimp only
  by_cases hfile : t.1.settings.passwordFile = ""
  · rw [if_pos hfile]
    exact ⟨rfl, rfl, rfl⟩
  · rw [if_neg hfile]
    refine Act.yields_report_bind.2 ?_
    cases Credentials.content t.1.settings.passwordFile (svc.passwordFile t.2) with
    | error e => exact ⟨rfl, rfl, rfl⟩
    | ok content => exact ⟨rfl, rfl, rfl⟩

/-- A connection is reserved from the pool as it is, or nothing happens to it. -/
theorem yields_acquire {Q : Except StorageError Connection → Source × σ → Prop}
    (hrefused : ∀ e src, src.pool = t.1.pool → src.settings = t.1.settings → Q (.error e) (src, t.2))
    (h : ∀ o, (Pool.acquire svc o).Yields (t.1.pool, t.2) fun r t' =>
      ∀ src, src.pool = t'.1 → src.settings = t.1.settings → Q (r.mapError .acquire) (src, t'.2)) :
    (acquire svc).Yields t Q := by
  unfold acquire
  refine (yields_refresh svc t).bind fun r t' hr => ?_
  obtain ⟨src, s⟩ := t'
  obtain ⟨rfl, hpool, hsettings⟩ := hr
  cases r with
  | error e => exact hrefused e src hpool hsettings
  | ok o =>
    refine Act.yields_get_bind.2 ?_
    dsimp only
    refine Act.yields_bind.2 (Act.yields_on.2 ?_)
    dsimp only
    rw [hpool]
    exact (h _).mono fun r t' hQ => hQ _ rfl hsettings

/-- A connection that is reserved owes nothing. -/
theorem acquire_clear (svc : DatabaseServer σ) (t : Source × σ) :
    (acquire svc).Yields t fun r t' => t'.1.settings = t.1.settings ∧ ∀ c, r = .ok c → c.owesRollback = false := by
  refine yields_acquire (fun e src _ hsettings => ⟨hsettings, nofun⟩) fun o => ?_
  have hclear : (Pool.acquire svc o).Yields (t.1.pool, t.2) fun r _ => ∀ c, r = .ok c → c.owesRollback = false :=
    Pool.yields_acquire (fun _ => nofun) fun _ => Pool.firstAlive_clear svc o _ _
  refine hclear.mono fun r t' h src _ hsettings => ⟨hsettings, fun c hc => ?_⟩
  cases r with
  | error e => cases hc
  | ok c' =>
    cases hc
    exact h _ rfl

/-- Ending a session: one whose staging table is gone gives its connection back, any other one is closed. -/
theorem yields_release {Q : Unit → Source × σ → Prop}
    (h : (Connection.ask svc (.query t.1.statements.dropStaging)).Yields (c, t.2) fun r t' =>
      (∀ n, r = .ok n → (onPool (Pool.giveBack svc t'.1)).Yields (t.1, t'.2) Q) ∧
        ∀ e, r = .error e → Q () ({ t.1 with pool := t.1.pool.forget }, svc.terminate t'.1.number t'.2)) :
    (release svc c).Yields t Q := by
  unfold release
  refine Act.yields_get_bind.2 ?_
  dsimp only
  refine (yields_withConnection h).bind fun x t' hx => ?_
  obtain ⟨r, c⟩ := x
  obtain ⟨src, s⟩ := t'
  obtain ⟨rfl, hback, hclosed⟩ := hx
  cases r with
  | ok n => exact hback n rfl
  | error e => exact hclosed e rfl

end Source

end Intake
