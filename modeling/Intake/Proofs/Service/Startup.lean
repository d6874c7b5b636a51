import Mathlib.Data.List.Range
import Intake.Proofs.Act
import Intake.Service.Startup

/-!
# Startup: how often a task is tried

A task is tried until it succeeds, but not more often than there are attempts. Between one call and the next there is one pause of the
given length, and none behind the last call; each call that failed is reported under its number, before the pause (`retry_rehearsed`).
The calls and pauses can be counted because the task and the pause keep a record of them: what the task answers is known beforehand, as
a stream with one outcome for each call.
-/

namespace Intake.Startup

variable {σ α : Type}

/-! ## One attempt -/

section Attempt

variable {pause : ReaderT Span (Act σ) Unit} {delay : Span} {task : Act σ (Except Failure α)} {attempts left : Nat} {s s' t t' : σ}
  {es es' es'' : List Event} {e : Failure}

/-- A call that succeeds is the last one. -/
theorem run_attempt_ok {a : α} (htask : task.run s = (.ok a, s', es)) :
    (attempt pause delay task attempts (left + 1)).run s = (.ok a, s', es) := by
  rw [← List.append_nil es, attempt]
  exact Act.run_bind_eq htask rfl

/-- The last attempt is reported when it fails, and nothing is done after it. -/
theorem run_attempt_last (htask : task.run s = (.error e, s', es)) :
    (attempt pause delay task attempts 1).run s =
      (.error (.storage (.retriesExhausted attempts)), s', es ++ [.attemptFailed attempts attempts e]) := by
  rw [attempt]
  exact Act.run_bind_eq htask rfl

/-- An attempt that fails before the last one is reported, and after a pause the others follow. -/
theorem run_attempt_error {r : Except Failure α} (hleft : left ≠ 0) (htask : task.run s = (.error e, s', es))
    (hpause : (pause.run delay).run s' = ((), t, es')) (hrest : (attempt pause delay task attempts left).run t = (r, t', es'')) :
    (attempt pause delay task attempts (left + 1)).run s =
      (r, t', es ++ ([.attemptFailed (attempts - left) attempts e] ++ ([.retrying delay] ++ (es' ++ es'')))) := by
  rw [attempt]
  refine Act.run_bind_eq htask (Act.run_bind_eq (Act.run_report _ _) ?_)
  rw [if_neg hleft]
  exact Act.run_bind_eq (Act.run_report _ _) (Act.run_bind_eq hpause hrest)

end Attempt

/-! ## A task whose outcomes are known -/

/-- What is done while a task is tried. -/
inductive Deed where
  | called
  | slept (length : Span)
  deriving DecidableEq, Repr

/-- A task that answers one outcome after the other, and keeps a record of its calls. -/
def rehearsed (outcomes : Nat → Except Failure α) : Act (List Deed) (Except Failure α) :=
  Act.ofState fun deeds => (outcomes (deeds.count .called), deeds ++ [.called])

/-- A pause that keeps a record of its length. -/
def sleep : ReaderT Span (Act (List Deed)) Unit := fun length => Act.modify (· ++ [.slept length])

/-- Calls with one pause between each of them and the next. -/
def course (delay : Span) (calls : Nat) : List Deed := (List.replicate calls .called).intersperse (.slept delay)

/-- What is reported of the outcome of a call: that it failed, and that there will be another one. -/
def callEvents (attempts : Nat) (delay : Span) (number : Nat) : Except Failure α → List Event
  | .ok _ => []
  | .error e => .attemptFailed number attempts e :: (if number < attempts then [.retrying delay] else [])

/-- What is reported of some calls, from the one that has some number of calls before it. -/
def reported (outcomes : Nat → Except Failure α) (attempts : Nat) (delay : Span) (before calls : Nat) : List Event :=
  (List.range' before calls).flatMap fun n => callEvents attempts delay (n + 1) (outcomes n)

/-- The stream succeeds with this call for the first time; calls are counted from one. -/
def SucceedsAt (outcomes : Nat → Except Failure α) (k : Nat) (a : α) : Prop :=
  0 < k ∧ outcomes (k - 1) = .ok a ∧ ∀ n < k - 1, ∃ e, outcomes n = .error e

variable {outcomes : Nat → Except Failure α} {delay : Span} {attempts left n : Nat} {deeds : List Deed} {r : Except Failure α}

/-- How the attempts that are left end after `n` more calls that failed: with a success, or with a failure that is the last attempt. -/
def EndsWith (outcomes : Nat → Except Failure α) (attempts left before n : Nat) (r : Except Failure α) : Prop :=
  (∃ a, outcomes (before + n) = .ok a ∧ r = .ok a) ∨
    ((∃ e, outcomes (before + n) = .error e) ∧ left = n + 1 ∧ r = .error (.storage (.retriesExhausted attempts)))

theorem course_add_two (delay : Span) (n : Nat) : course delay (n + 2) = .called :: .slept delay :: course delay (n + 1) := rfl

theorem count_after_pause (deeds : List Deed) (length : Span) :
    (deeds ++ [Deed.called] ++ [Deed.slept length]).count .called = deeds.count .called + 1 := by
  simp

theorem reported_succ (outcomes : Nat → Except Failure α) (attempts : Nat) (delay : Span) (before calls : Nat) :
    reported outcomes attempts delay before (calls + 1) =
      callEvents attempts delay (before + 1) (outcomes before) ++ reported outcomes attempts delay (before + 1) calls := rfl

/-- What is reported of a call that fails, when there are more attempts. -/
theorem reported_error {before calls : Nat} {e : Failure} (herror : outcomes before = .error e) (hmore : before + 1 < attempts) :
    reported outcomes attempts delay before (calls + 1) =
      [.attemptFailed (before + 1) attempts e] ++ ([.retrying delay] ++ reported outcomes attempts delay (before + 1) calls) := by
  rw [reported_succ, herror, callEvents, if_pos hmore]
  rfl

/-- Calls that fail are followed by others until one succeeds or there are no more attempts. -/
theorem run_attempt_rehearsed (hattempts : attempts = deeds.count .called + left) (hleft : n < left)
    (hfails : ∀ j < n, ∃ e, outcomes (deeds.count .called + j) = .error e)
    (hends : EndsWith outcomes attempts left (deeds.count .called) n r) :
    (attempt sleep delay (rehearsed outcomes) attempts left).run deeds =
      (r, deeds ++ course delay (n + 1), reported outcomes attempts delay (deeds.count .called) (n + 1)) := by
  induction n generalizing left deeds with
  | zero =>
    have hcall : (rehearsed outcomes).run deeds = (outcomes (deeds.count .called), deeds ++ [.called], []) := rfl
    rw [reported_succ]
    rcases hends with ⟨a, hok, rfl⟩ | ⟨⟨e, herror⟩, rfl, rfl⟩
    · obtain ⟨left, rfl⟩ := Nat.exists_eq_succ_of_ne_zero (Nat.ne_of_gt hleft)
      rw [Nat.add_zero] at hok
      rw [hok] at hcall ⊢
      exact run_attempt_ok hcall
    · rw [Nat.add_zero] at herror
      rw [herror] at hcall ⊢
      rw [callEvents, if_neg (by omega), ← hattempts]
      exact run_attempt_last hcall
  | succ n ih =>
    obtain ⟨left, rfl⟩ := Nat.exists_eq_succ_of_ne_zero (Nat.ne_of_gt (Nat.zero_lt_of_lt hleft))
    obtain ⟨e, herror⟩ := hfails 0 (Nat.zero_lt_succ n)
    rw [Nat.add_zero] at herror
    have hcall : (rehearsed outcomes).run deeds = (.error e, deeds ++ [.called], []) :=
      congrArg (fun r => (r, deeds ++ [Deed.called], [])) herror
    -- The record has one more call, so the stream goes on with its next outcome.
    have hcount := count_after_pause deeds delay
    have hnext : ∀ j, deeds.count .called + 1 + j = deeds.count .called + (j + 1) := fun j => by omega
    have hrest := @ih left (deeds ++ [.called] ++ [.slept delay])
    rw [hcount, hnext] at hrest
    have hrest := hrest (by omega) (by omega) (fun j hj => by rw [hnext]; exact hfails (j + 1) (by omega)) (by
      unfold EndsWith at hends ⊢
      rw [hnext]
      simpa using hends)
    have hnumber : attempts - left = deeds.count .called + 1 := by omega
    rw [run_attempt_error (by omega) hcall rfl hrest, reported_error herror (by omega), course_add_two, hnumber]
    simp

/-! ## All attempts -/

/-- Where no call up to the last attempt is the first success, all of them fail. -/
theorem fails_of_not_succeedsAt (h : ∀ k a, SucceedsAt outcomes k a → attempts < k) :
    ∀ n < attempts, ∃ e, outcomes n = .error e := by
  intro n
  induction n using Nat.strongRecOn with
  | ind n ih =>
    intro hn
    cases houtcome : outcomes n with
    | error e => exact ⟨e, rfl⟩
    | ok a =>
      have hlate := h (n + 1) a ⟨Nat.succ_pos n, houtcome, fun j hj => ih j hj (Nat.lt_trans hj hn)⟩
      exact absurd hlate (by omega)

/-- However often a task is to be tried again and whatever it answers: if its first success is within the attempts, it is called just so
often and the success is the answer. Otherwise it is called once for each attempt, and the answer says that there are no more. -/
theorem retry_rehearsed (outcomes : Nat → Except Failure α) (retries : Nat) (delay : Span) :
    (∀ k a, SucceedsAt outcomes k a → k ≤ min (retries + 1) maxAttempts →
      (retry sleep delay retries (rehearsed outcomes)).run [] =
        (.ok a, course delay k, reported outcomes (min (retries + 1) maxAttempts) delay 0 k)) ∧
      ((∀ k a, SucceedsAt outcomes k a → min (retries + 1) maxAttempts < k) →
        (retry sleep delay retries (rehearsed outcomes)).run [] =
          (.error (.storage (.retriesExhausted (min (retries + 1) maxAttempts))), course delay (min (retries + 1) maxAttempts),
            reported outcomes (min (retries + 1) maxAttempts) delay 0 (min (retries + 1) maxAttempts))) := by
  obtain ⟨attempts, hattempts⟩ : ∃ attempts, attempts = min (retries + 1) maxAttempts := ⟨_, rfl⟩
  have hpos : 0 < attempts := by
    rw [hattempts, maxAttempts]
    omega
  rw [retry, attemptsFor, ← hattempts]
  have hall : attempts = ([] : List Deed).count .called + attempts := (Nat.zero_add attempts).symm
  constructor
  · rintro k a ⟨hk, hok, hfails⟩ hlast
    obtain ⟨n, rfl⟩ := Nat.exists_eq_succ_of_ne_zero (Nat.ne_of_gt hk)
    refine run_attempt_rehearsed hall hlast (fun j hj => ?_) (Or.inl ⟨a, ?_, rfl⟩)
    · rw [List.count_nil, Nat.zero_add]
      exact hfails j hj
    · rw [List.count_nil, Nat.zero_add]
      exact hok
  · intro hlate
    have hfails := fails_of_not_succeedsAt hlate
    obtain ⟨n, rfl⟩ := Nat.exists_eq_succ_of_ne_zero (Nat.ne_of_gt hpos)
    refine run_attempt_rehearsed hall (Nat.lt_succ_self n) (fun j hj => ?_) (Or.inr ⟨?_, rfl, rfl⟩)
    · rw [List.count_nil, Nat.zero_add]
      exact hfails j (Nat.lt_succ_of_lt hj)
    · rw [List.count_nil, Nat.zero_add]
      exact hfails n (Nat.lt_succ_self n)

/-- Fails twice and then succeeds. -/
def thirdTime (n : Nat) : Except Failure Nat := if n < 2 then .error (.fatal "not yet") else .ok n

theorem succeedsAt_thirdTime : SucceedsAt thirdTime 3 2 :=
  ⟨by decide, rfl, fun n hn => ⟨.fatal "not yet", if_pos hn⟩⟩

/-- A success in the last attempt is the answer; with one attempt less there is none. -/
theorem retry_rehearsed_lastAttempt :
    (retry sleep (Span.ofSeconds 5) 2 (rehearsed thirdTime)).run [] =
        (.ok 2, [.called, .slept (Span.ofSeconds 5), .called, .slept (Span.ofSeconds 5), .called],
          [.attemptFailed 1 3 (.fatal "not yet"), .retrying (Span.ofSeconds 5), .attemptFailed 2 3 (.fatal "not yet"),
            .retrying (Span.ofSeconds 5)]) ∧
      (retry sleep (Span.ofSeconds 5) 1 (rehearsed thirdTime)).run [] =
        (.error (.storage (.retriesExhausted 2)), [.called, .slept (Span.ofSeconds 5), .called],
          [.attemptFailed 1 2 (.fatal "not yet"), .retrying (Span.ofSeconds 5), .attemptFailed 2 2 (.fatal "not yet")]) := by
  refine ⟨(retry_rehearsed thirdTime 2 (Span.ofSeconds 5)).1 3 2 succeedsAt_thirdTime (by decide),
    (retry_rehearsed thirdTime 1 (Span.ofSeconds 5)).2 ?_⟩
  rintro k a ⟨hk, hok, -⟩
  refine Nat.lt_of_not_le fun hle => ?_
  have hfails : thirdTime (k - 1) = .error (.fatal "not yet") := if_pos (by rw [maxAttempts] at hle; omega)
  cases hok.symm.trans hfails

end Intake.Startup
