import Intake.Proofs.Store.Write
import Intake.Service.Writing

/-!
# Writing: a batch of an instance is one write on its store

While calls take no time, a batch that is let through is written from its first call to its last before anything else happens:
carrying the write on is `MemoryStore.drive` on the store of the instance (`run_carryOn`), and beginning it settles it
(`run_beginWrite`).
-/

namespace Intake

namespace Instance

open MemoryStore

theorem answerOf_eq (r : StoreReply) : answerOf r = r.answer? := rfl

/-- While calls take no time, a call that is made is due at once. -/
theorem run_makeCall {i : Instance} (f : Flight) (h : i.store.delay = none) :
    (makeCall f).run i = ({ f with due := i.now }, { i with store := i.store.noteCall f.write.waiting f.write.rows }, []) := by
  simp only [makeCall, Act.run_ofState, delayOf_of_prompt h, Nat.zero_mul, Nat.add_zero]

/-- Carrying a write on is driving it, while calls take no time. -/
theorem run_carryOn {calls : Nat} {f : Flight} {i : Instance} {result : Except StorageError Unit} (hdelay : i.store.delay = none)
    (hdue : f.due ≤ i.now) (h : (drive calls f.write f.session i.store).1 = some result) :
    ((carryOn calls f).run i).1 = .inr (.finished result) ∧
      ((carryOn calls f).run i).2.1 = ((finishWrite f.purpose f.write.rows.length f.begun result).run
        { i with store := (drive calls f.write f.session i.store).2.1 }).2.1 := by
  induction calls generalizing f i with
  | zero => cases h
  | succ calls ih =>
    unfold drive at h ⊢
    unfold carryOn
    have hnow : ¬i.now < f.due := Nat.not_lt.2 hdue
    simp only [Act.run_bind, Act.run_get, hnow, if_false, takeEffect, Act.run_ofState, answerOf_eq]
    have hd := delay_perform i.store f.session f.write.waiting f.write.rows
    generalize i.store.perform f.session f.write.waiting f.write.rows = p at h hd
    obtain ⟨r, session, store⟩ := p
    simp only at h hd ⊢
    cases hr : r.answer? with
    | none => rw [hr] at h; cases h
    | some answer =>
      simp only [hr] at h ⊢
      cases hw : f.write.reply answer with
      | mk progress reported =>
        simp only [hw] at h ⊢
        cases progress with
        | finished result' =>
          cases h
          exact ⟨rfl, rfl⟩
        | going w =>
          -- The next call is listed and takes effect at once, which is where the hypothesis takes over.
          have hrows := BatchWrite.rows_of_reply hw
          simp only [Act.run_bind, Act.run_report, ← hrows]
          rw [run_makeCall (i := { i with store }) _ (hd.trans hdelay)]
          exact ih (f := { f with write := w, session, due := i.now }) (i := { i with store := store.noteCall w.waiting w.rows })
            (hd.trans hdelay) (Nat.le_refl _) h

/-- A write that is carried on to its end is not put among the writes under way. -/
theorem run_proceed {f : Flight} {i : Instance} {result : Except StorageError Unit} (hdelay : i.store.delay = none)
    (hdue : f.due ≤ i.now) (h : (drive (WritePhase.all.length + 1) f.write f.session i.store).1 = some result) :
    ((proceed f).run i).1 = some (.finished result) ∧
      ((proceed f).run i).2.1 = ((finishWrite f.purpose f.write.rows.length f.begun result).run
        { i with store := (drive (WritePhase.all.length + 1) f.write f.session i.store).2.1 }).2.1 := by
  unfold proceed
  generalize WritePhase.all.length + 1 = calls at h ⊢
  obtain ⟨hresult, hstate⟩ := run_carryOn hdelay hdue h
  simp only [Act.run_bind, hresult, hstate]
  exact ⟨rfl, rfl⟩

/-- Beginning a write settles it, while calls take no time: the batch is written on the store of the instance. -/
theorem run_beginWrite {i : Instance} (purpose : Purpose) (samples : List Sample) (h : i.store.Prompt) :
    ((beginWrite purpose samples).run i).1 = .settled (outcome (i.store.answerTo samples)) ∧
      ∃ nextFlight, ((beginWrite purpose samples).run i).2.1 =
        ((finishWrite purpose samples.length i.now (i.store.answerTo samples)).run
          { i with store := (i.store.write samples).2, nextFlight }).2.1 := by
  have hdump := stageBatch_fst i.dump samples
  unfold beginWrite
  simp only [Act.run_bind_result, Act.run_bind_state, Act.run_get]
  cases hs : stageBatch i.dump samples with
  | mk staged reported =>
    rw [hs] at hdump
    cases staged with
    | error e =>
      have hstart : BatchWrite.start i.dump samples = (.error e, reported ++ [.batchRejected e]) := by
        simp only [BatchWrite.start, hs]
      have hanswer : i.store.answerTo samples = .error e := by simp only [answerTo, ← hdump]
      rw [hstart, hanswer, write_of_rejected hdump.symm]
      exact ⟨rfl, i.nextFlight, rfl⟩
    | ok rows =>
      have hstart : BatchWrite.start i.dump samples = (.ok { rows }, reported) := by simp only [BatchWrite.start, hs]
      obtain ⟨hanswer, -⟩ := wrote_writeRows h.fault hdump.symm
      obtain ⟨hresult, hstate⟩ := run_proceed (f := { id := i.nextFlight, write := { rows }, due := i.now, begun := i.now, purpose })
        (i := { i with store := i.store.noteCall .acquire rows, nextFlight := i.nextFlight + 1 }) h.delay (Nat.le_refl _) hanswer
      rw [hstart, write_of_staged hdump.symm]
      simp only [Act.run_bind_result, Act.run_bind_state, Act.run_report, Act.run_modify]
      rw [run_makeCall (i := { i with nextFlight := i.nextFlight + 1 }) _ h.delay]
      simp only [hresult, hstate]
      rw [length_of_stageBatch hdump.symm]
      exact ⟨rfl, i.nextFlight + 1, rfl⟩

end Instance

end Intake
