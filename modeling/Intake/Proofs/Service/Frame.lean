import Intake.Proofs.Act
import Intake.Service.Serving

/-!
# Frames: what the work on a batch leaves alone, and what the passing of time does

A write that is begun or carried on calls the store, is counted at its end, and waits among the writes under way. It touches no other
part of an instance, however the store answers. So whatever relates an instance to each that differs from it by such a change
(`Frame`) relates it to the one that any piece of work on a batch leaves (`Frame.beginWrite`, `Frame.proceed`). While time passes the
clock moves and tasks tick besides; what is related across that too (`ClockFrame`) is related across any wait (`ClockFrame.await`).
-/

namespace Intake

namespace Instance

/-- A relation between an instance and a later one that holds across each change that the work on a batch makes. -/
structure Frame (R : Instance → Instance → Prop) : Prop where
  trans : ∀ {i j k : Instance}, R i j → R j k → R i k
  /-- Batches are counted and the throughput is fed; no request is timed. -/
  counted : ∀ (i : Instance) (meters : Meters) (throughput : Throughput),
    meters.requestDuration = i.meters.requestDuration → R i { i with meters, throughput }
  underWay : ∀ (i : Instance) (flights : List Flight) (nextFlight : Nat), R i { i with flights, nextFlight }
  called : ∀ (i : Instance) (p : WritePhase) (rows : List StagedRow), R i { i with store := i.store.noteCall p rows }
  performed : ∀ (i : Instance) (s : MemorySession) (p : WritePhase) (rows : List StagedRow),
    R i { i with store := (i.store.perform s p rows).2.2 }

namespace Frame

variable {R : Instance → Instance → Prop}

theorem refl (h : Frame R) (i : Instance) : R i i := h.counted i i.meters i.throughput rfl

theorem conclude (h : Frame R) (purpose : Purpose) (count : Nat) (result : Except Failure WriteOutcome) (i : Instance) :
    (Instance.conclude purpose count result).Yields i fun _ j => R i j := by
  cases purpose with
  | handle => exact h.counted i _ _ rfl
  | plain => exact h.refl i
  | send => exact h.refl i

theorem finishWrite (h : Frame R) (purpose : Purpose) (count begun : Nat) (result : Except StorageError Unit) (i : Instance) :
    (Instance.finishWrite purpose count begun result).Yields i fun _ j => R i j := by
  unfold Instance.finishWrite
  split
  · exact h.conclude purpose count _ i
  · have hcount : (countBatch count begun result).Yields i fun _ j => R i j := by
      cases result <;> exact h.counted i _ _ rfl
    refine hcount.bind fun _ j hj => ?_
    exact (h.conclude purpose count _ j).mono fun _ k hk => h.trans hj hk

/-- A write that is carried on, whatever the store answers. -/
theorem carryOn (h : Frame R) (calls : Nat) (f : Flight) (i : Instance) :
    (Instance.carryOn calls f).Yields i fun _ j => R i j := by
  induction calls generalizing f i with
  | zero => exact h.refl i
  | succ calls ih =>
    unfold Instance.carryOn
    refine Act.yields_get_bind.2 ?_
    by_cases hdue : i.now < f.due
    · rw [if_pos hdue]
      exact h.refl i
    · rw [if_neg hdue]
      have heffect : (takeEffect f).Yields i fun _ j => R i j := h.performed i _ _ _
      refine heffect.bind fun x j hj => ?_
      obtain ⟨r, session⟩ := x
      dsimp only
      cases answerOf r with
      | none => exact hj
      | some answer =>
        refine Act.yields_report_bind.2 ?_
        cases (f.write.reply answer).1 with
        | going write =>
          have hcall : (makeCall { f with write, session }).Yields j fun _ k => R j k := h.called j _ _
          refine hcall.bind fun f' k hk => ?_
          exact (ih f' k).mono fun _ l hl => h.trans hj (h.trans hk hl)
        | finished result =>
          refine (h.finishWrite _ _ _ _ j).bind fun _ k hk => ?_
          exact h.trans hj hk

theorem proceed (h : Frame R) (f : Flight) (i : Instance) : (Instance.proceed f).Yields i fun _ j => R i j := by
  unfold Instance.proceed
  refine (h.carryOn _ f i).bind fun x j hj => ?_
  cases x with
  | inl f => exact h.trans hj (h.underWay j _ _)
  | inr e => exact hj

/-- A batch that is let through, whatever becomes of it. -/
theorem beginWrite (h : Frame R) (purpose : Purpose) (samples : List Sample) (i : Instance) :
    (Instance.beginWrite purpose samples).Yields i fun _ j => R i j := by
  unfold Instance.beginWrite
  refine Act.yields_get_bind.2 ?_
  dsimp only
  refine Act.yields_report_bind.2 ?_
  cases (BatchWrite.start i.dump samples).1 with
  | error e =>
    refine (h.finishWrite _ _ _ _ i).bind fun _ j hj => ?_
    exact hj
  | ok write =>
    refine Act.yields_modify_bind.2 ?_
    have hmade : (makeCall { id := i.nextFlight, write, due := i.now, begun := i.now, purpose }).Yields
        { i with nextFlight := i.nextFlight + 1 } fun _ j => R i j := h.trans (h.underWay i i.flights _) (h.called _ _ _)
    refine hmade.bind fun f j hj => (h.proceed f j).bind fun x k hk => ?_
    cases x with
    | none => exact h.trans hj hk
    | some e => exact h.trans hj hk

/-- A batch that is sent, where it may count as traffic and the gate may ask the election. -/
theorem sendBatch (h : Frame R) (htouched : ∀ (i : Instance) (liveness : Liveness), R i { i with liveness })
    (hadmitted : ∀ i : Instance, admitted.Yields i fun _ j => R i j) (purpose : Purpose) (samples : List Sample) (i : Instance) :
    (Instance.sendBatch purpose samples).Yields i fun _ j => R i j := by
  unfold Instance.sendBatch
  refine Act.yields_modify_bind.2 ?_
  have hgate := (hadmitted { i with liveness := i.liveness.touch i.now }).mono fun _ j hj => h.trans (htouched i _) hj
  refine hgate.bind fun r j hj => ?_
  cases r with
  | error e =>
    refine (h.conclude purpose _ _ j).bind fun _ k hk => ?_
    exact h.trans hj hk
  | ok allowed =>
    obtain ⟨leads, id⟩ := allowed
    cases leads with
    | true => exact (h.beginWrite purpose samples j).mono fun _ k hk => h.trans hj hk
    | false =>
      refine Act.yields_report_bind.2 ?_
      refine (h.conclude purpose _ _ j).bind fun _ k hk => ?_
      exact h.trans hj hk

end Frame

/-! ## Time -/

/-- The first element that a test accepts, in its place. -/
theorem splitFirst?_eq_some {α : Type} {p : α → Bool} {l before after : List α} {a : α}
    (h : splitFirst? p l = some (before, a, after)) :
    l = before ++ a :: after ∧ p a = true := by
  induction l generalizing before with
  | nil => cases h
  | cons x rest ih =>
    unfold splitFirst? at h
    by_cases hp : p x = true
    · rw [if_pos hp] at h
      cases h
      exact ⟨rfl, hp⟩
    · rw [if_neg hp] at h
      obtain ⟨⟨b, y, c⟩, hrest, heq⟩ := Option.map_eq_some_iff.1 h
      cases heq
      obtain ⟨rfl, hy⟩ := ih hrest
      exact ⟨rfl, hy⟩

/-- A relation that holds across what happens while time passes, too. -/
structure ClockFrame (R : Instance → Instance → Prop) : Prop extends Frame R where
  waited : ∀ (i : Instance) (now : Nat), R i { i with now }
  noticed : ∀ (i : Instance) (endings : List (Nat × Ending)), R i { i with endings }
  /-- One of the tasks ticks. -/
  ticked : ∀ (i : Instance) (before after : List Ticker) (t : Ticker), i.tickers = before ++ t :: after →
    (runTask t.task).Yields i fun task j =>
      R i { j with tickers := before ++ { t with next := t.next + t.period.nanos, task } :: after }

namespace ClockFrame

variable {R : Instance → Instance → Prop}

theorem happen (h : ClockFrame R) (i : Instance) : Instance.happen.Yields i fun _ j => R i j := by
  unfold Instance.happen Act.Yields Act.run
  dsimp only
  cases htick : splitFirst? (fun t => decide (t.next = i.now)) i.tickers with
  | some x =>
    obtain ⟨before, t, after⟩ := x
    exact h.ticked i before after t (splitFirst?_eq_some htick).1
  | none =>
    cases splitFirst? (fun f => decide (f.due = i.now)) i.flights with
    | none => exact h.refl i
    | some x =>
      obtain ⟨before, f, after⟩ := x
      have hproceed := (h.proceed f { i with flights := before ++ after }).mono fun _ j hj => h.trans (h.underWay i _ i.nextFlight) hj
      unfold Act.Yields Act.run at hproceed
      dsimp only
      generalize proceed f { i with flights := before ++ after } = went at hproceed ⊢
      obtain ⟨ending, j, events⟩ := went
      cases ending with
      | none => exact hproceed
      | some e =>
        dsimp only
        split
        · exact h.trans hproceed (h.noticed j _)
        · exact hproceed

theorem elapse (h : ClockFrame R) (watched : Option Nat) (limit turns : Nat) (i : Instance) :
    (Instance.elapse watched limit turns).Yields i fun _ j => R i j := by
  induction turns generalizing i with
  | zero => exact h.waited i _
  | succ turns ih =>
    unfold Instance.elapse
    refine Act.yields_get_bind.2 ?_
    split
    · exact h.refl i
    · split
      · split
        · refine Act.yields_modify_bind.2 ?_
          refine (h.happen _).bind fun _ j hj => ?_
          exact (ih j).mono fun _ k hk => h.trans (h.waited i _) (h.trans hj hk)
        · exact h.waited i _
      · exact h.waited i _

theorem sleep (h : ClockFrame R) (d : Span) (i : Instance) : (Instance.sleep d).Yields i fun _ j => R i j :=
  Act.yields_get_bind.2 (h.elapse none _ _ i)

theorem await (h : ClockFrame R) (a : Attempt) (willing : Option Span) (i : Instance) :
    (Instance.await a willing).Yields i fun _ j => R i j := by
  cases a with
  | settled result => exact h.refl i
  | lost => exact h.refl i
  | underWay flight =>
    refine Act.yields_get_bind.2 ?_
    refine (h.elapse _ _ _ i).bind fun _ j hj => ?_
    have hending : (takeEnding flight).Yields j fun _ k => R j k := h.noticed j _
    refine hending.bind fun e k hk => ?_
    cases e with
    | some e => exact h.trans hj hk
    | none =>
      have habandon : (abandon flight).Yields k fun _ l => R k l := h.underWay k _ k.nextFlight
      exact habandon.bind fun _ l hl => h.trans hj (h.trans hk hl)

theorem awaitBatch (h : ClockFrame R) (willing : Option Span) (a : Attempt) (i : Instance) :
    (Instance.awaitBatch willing a).Yields i fun _ j => R i j := by
  refine (h.await a willing i).bind fun a j hj => ?_
  split
  · exact hj
  · cases a with
    | underWay flight => exact hj
    | lost => exact hj
    | settled result => exact hj

end ClockFrame

end Instance

end Intake
