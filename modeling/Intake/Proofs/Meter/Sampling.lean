import Mathlib.Data.List.Induction
import Mathlib.Tactic.Ring
import Intake.Proofs.Number.Exact
import Intake.Service.Clock

/-!
# Sampling: what becomes of the rates

The sampler of a calculator ticks every second, while the counter is shown to the calculator and rates are taken at any time. Each tick
publishes how far the counter has risen since the tick before, so the rates of some ticks add up to what the counter rose by between them
(`published_append`). A rate can be taken until the next tick, and once. So two takes with an answer, and no other between them, are told of
the whole rise of the counter, by the rate that the second is answered and by those that were overwritten (`rates_accounted`).
-/

namespace Intake

namespace Sampling

/-- A count that a double shows exactly. -/
abbrev Count := Fin (2 ^ 53)

inductive Call where
  /-- The counter is shown. -/
  | set (count : Count)
  | tick
  | take
  deriving DecidableEq

/-- What the counter is after a call. -/
def Call.counter (count : Count) : Call → Count
  | .set next => next
  | _ => count

/-- What the counter is after some calls, from what it was first. -/
def held (first : Count) (calls : List Call) : Count := calls.foldl Call.counter first

/-- The calls up to the last tick. -/
def upToTick (calls : List Call) : List Call := (calls.reverse.dropWhile fun c => c ≠ .tick).reverse

/-- The calls since the last tick. -/
def sinceTick (calls : List Call) : List Call := (calls.reverse.takeWhile fun c => c ≠ .tick).reverse

/-- What the counter was at the last tick; before the first one it was what the sampler started with. -/
def heldAtTick (first : Count) (calls : List Call) : Count := held first (upToTick calls)

end Sampling

/-- A calculator and its sampler, with a record of the rates that were published and of those that were taken. -/
structure Sampling where
  throughput : Throughput
  /-- What the sampler saw of the counter at its last tick. -/
  seen : Binary64
  published : List Binary64 := []
  answered : List Binary64 := []

namespace Sampling

/-- The sampler starts beside a calculator that was shown a counter. -/
def start (first : Count) : Sampling :=
  let throughput := (Throughput.new (Span.ofSeconds 1)).setCurrent (.ofNat first)
  { throughput, seen := throughput.current }

def step (s : Sampling) : Call → Sampling
  | .set count => { s with throughput := s.throughput.setCurrent (.ofNat count) }
  | .tick =>
    let (seen, throughput) := s.throughput.sample s.seen
    { s with throughput, seen, published := s.published ++ throughput.latest.toList }
  | .take =>
    let (answer, throughput) := s.throughput.take
    { s with throughput, answered := s.answered ++ answer.toList }

def run (first : Count) (calls : List Call) : Sampling := calls.foldl step (start first)

/-- What a take is answered now. -/
def answer (s : Sampling) : Option Binary64 := s.throughput.take.1

/-- The sum of some rates; none if one of them is no number. -/
def total (rates : List Binary64) : Option ℚ := (rates.mapM Binary64.number).map List.sum

variable {first : Count} {calls earlier more between : List Call} {s : Sampling} {c : Call}

/-! ## Calls -/

theorem held_concat (first : Count) (calls : List Call) (c : Call) : held first (calls ++ [c]) = c.counter (held first calls) := by
  rw [held, List.foldl_append]
  rfl

theorem upToTick_tick (calls : List Call) : upToTick (calls ++ [.tick]) = calls ++ [.tick] := by simp [upToTick]

theorem upToTick_other (hc : c ≠ .tick) (calls : List Call) : upToTick (calls ++ [c]) = upToTick calls := by simp [upToTick, hc]

theorem sinceTick_tick (calls : List Call) : sinceTick (calls ++ [.tick]) = [] := by simp [sinceTick]

theorem sinceTick_other (hc : c ≠ .tick) (calls : List Call) : sinceTick (calls ++ [c]) = sinceTick calls ++ [c] := by
  simp [sinceTick, hc]

theorem heldAtTick_tick (first : Count) (calls : List Call) : heldAtTick first (calls ++ [.tick]) = held first calls := by
  rw [heldAtTick, upToTick_tick, held_concat]
  rfl

theorem heldAtTick_other (hc : c ≠ .tick) (first : Count) (calls : List Call) :
    heldAtTick first (calls ++ [c]) = heldAtTick first calls := by
  rw [heldAtTick, upToTick_other hc, heldAtTick]

theorem run_concat (first : Count) (calls : List Call) (c : Call) : run first (calls ++ [c]) = (run first calls).step c := by
  rw [run, List.foldl_append]
  rfl

/-- The rate of the next tick. -/
def rate (s : Sampling) : Binary64 := (s.throughput.current.sub s.seen).div s.throughput.tick.seconds

@[simp] theorem published_set (s : Sampling) (count : Count) : (s.step (.set count)).published = s.published := rfl

@[simp] theorem answered_set (s : Sampling) (count : Count) : (s.step (.set count)).answered = s.answered := rfl

@[simp] theorem answer_set (s : Sampling) (count : Count) : (s.step (.set count)).answer = s.answer := rfl

@[simp] theorem published_tick (s : Sampling) : (s.step .tick).published = s.published ++ [s.rate] := rfl

@[simp] theorem answered_tick (s : Sampling) : (s.step .tick).answered = s.answered := rfl

@[simp] theorem answer_tick (s : Sampling) : (s.step .tick).answer = some s.rate := rfl

@[simp] theorem published_take (s : Sampling) : (s.step .take).published = s.published := rfl

@[simp] theorem answered_take (s : Sampling) : (s.step .take).answered = s.answered ++ s.answer.toList := rfl

@[simp] theorem answer_take (s : Sampling) : (s.step .take).answer = none := rfl

/-! ## Rates -/

theorem seconds_one : (Span.ofSeconds 1).seconds = .ofNat 1 := by decide +kernel

/-- A second's rate is the exact difference of two counts. -/
theorem number_rate (a b : Count) :
    (((Binary64.ofNat a).sub (.ofNat b)).div (Span.ofSeconds 1).seconds).number = some ((a : ℚ) - b) := by
  have hsmall : ((a : Int) - b).natAbs < 2 ^ 53 := by
    have ha := a.isLt
    have hb := b.isLt
    omega
  rw [seconds_one, Binary64.sub_ofNat a.isLt b.isLt, Binary64.ofInt_div_one hsmall, Binary64.number_ofInt hsmall]
  push_cast
  rfl

theorem total_concat {rates : List Binary64} {rate : Binary64} {x y : ℚ} (hx : total rates = some x) (hy : rate.number = some y) :
    total (rates ++ [rate]) = some (x + y) := by
  obtain ⟨xs, hxs, rfl⟩ := Option.map_eq_some_iff.1 hx
  simp [total, hxs, hy]

/-! ## One call -/

/-- What the calculator and its sampler hold after some calls. -/
structure Follows (first : Count) (calls : List Call) (s : Sampling) : Prop where
  second : s.throughput.tick = Span.ofSeconds 1
  current : s.throughput.current = .ofNat (held first calls)
  seen : s.seen = .ofNat (heldAtTick first calls)
  /-- There is one rate for each tick. -/
  ticks : s.published.length = calls.count .tick
  /-- A take is answered with the last rate, if there was none since the tick. -/
  answer : s.answer = if .take ∈ sinceTick calls then none else s.published.getLast?
  /-- The rates that were taken, and the one that can be taken, are rates of different ticks. -/
  taken : (s.answered ++ s.answer.toList).Sublist s.published

theorem follows_start (first : Count) : Follows first [] (start first) where
  second := rfl
  current := rfl
  seen := rfl
  ticks := rfl
  answer := rfl
  taken := List.Sublist.slnil

theorem Follows.number_rate (h : Follows first calls s) : s.rate.number = some ((held first calls : ℚ) - heldAtTick first calls) := by
  rw [rate, h.current, h.seen, h.second]
  exact Sampling.number_rate _ _

theorem Follows.set (h : Follows first calls s) (count : Count) : Follows first (calls ++ [.set count]) (s.step (.set count)) where
  second := h.second
  current := by
    rw [held_concat]
    rfl
  seen := by
    rw [heldAtTick_other (by simp)]
    exact h.seen
  ticks := by simpa using h.ticks
  answer := by
    rw [sinceTick_other (by simp)]
    simpa using h.answer
  taken := h.taken

/-- A tick publishes its rate, and the next take is answered with it. -/
theorem Follows.tick (h : Follows first calls s) : Follows first (calls ++ [.tick]) (s.step .tick) where
  second := h.second
  current := by
    rw [held_concat]
    exact h.current
  seen := by
    rw [heldAtTick_tick]
    exact h.current
  ticks := by simpa using h.ticks
  answer := by simp [sinceTick_tick]
  taken := by
    have hanswered : s.answered.Sublist s.published := (List.sublist_append_left _ _).trans h.taken
    simpa using hanswered.append (List.Sublist.refl [s.rate])

/-- A take leaves no rate for the next one. -/
theorem Follows.take (h : Follows first calls s) : Follows first (calls ++ [.take]) (s.step .take) where
  second := h.second
  current := by
    rw [held_concat]
    exact h.current
  seen := by
    rw [heldAtTick_other (by simp)]
    exact h.seen
  ticks := by simpa using h.ticks
  answer := by simp [sinceTick_other]
  taken := by simpa using h.taken

theorem follows_step (h : Follows first calls s) (c : Call) : Follows first (calls ++ [c]) (s.step c) := by
  cases c with
  | set count => exact h.set count
  | tick => exact h.tick
  | take => exact h.take

/-! ## Runs -/

theorem follows_run (first : Count) (calls : List Call) : Follows first calls (run first calls) := by
  induction calls using List.reverseRecOn with
  | nil => exact follows_start first
  | append_singleton calls c ih =>
    rw [run_concat]
    exact follows_step ih c

/-- The rates of the ticks among some calls add up to what the counter rose by between the last tick before and the last one. -/
theorem published_append (first : Count) (earlier more : List Call) :
    ∃ rates, (run first (earlier ++ more)).published = (run first earlier).published ++ rates ∧
      total rates = some ((heldAtTick first (earlier ++ more) : ℚ) - heldAtTick first earlier) := by
  induction more using List.reverseRecOn with
  | nil => exact ⟨[], by simp, by simp [total]⟩
  | append_singleton more c ih =>
    obtain ⟨rates, hpublished, htotal⟩ := ih
    rw [← List.append_assoc, run_concat]
    by_cases hc : c = .tick
    · subst hc
      have hrate := (follows_run first (earlier ++ more)).number_rate
      refine ⟨rates ++ [(run first (earlier ++ more)).rate], ?_, ?_⟩
      · rw [published_tick, hpublished, List.append_assoc]
      · rw [total_concat htotal hrate, heldAtTick_tick]
        congr 1
        ring
    · refine ⟨rates, ?_, by rw [heldAtTick_other hc, htotal]⟩
      cases c with
      | tick => exact absurd rfl hc
      | set count => exact hpublished
      | take => exact hpublished

/-- A take that is answered behind another take has a tick before it. -/
theorem tick_mem_of_take_notMem (h : .take ∉ sinceTick (earlier ++ .take :: between)) : .tick ∈ between := by
  induction between using List.reverseRecOn with
  | nil => exact absurd (by simp [sinceTick_other]) h
  | append_singleton between c ih =>
    by_cases hc : c = .tick
    · simp [hc]
    · rw [← List.cons_append, ← List.append_assoc, sinceTick_other hc, List.mem_append, not_or] at h
      exact List.mem_append_left _ (ih h.1)

/-- Takes that are not answered take nothing. -/
theorem answered_append (hnone : ∀ before after, more = before ++ .take :: after → (run first (earlier ++ before)).answer = none) :
    (run first (earlier ++ more)).answered = (run first earlier).answered := by
  induction more using List.reverseRecOn with
  | nil => rw [List.append_nil]
  | append_singleton more c ih =>
    have hbefore := ih fun before after hmore => hnone before (after ++ [c]) (by rw [hmore]; simp)
    rw [← List.append_assoc, run_concat, ← hbefore]
    cases c with
    | tick => exact answered_tick _
    | set count => exact answered_set _ _
    | take => rw [answered_take, hnone more [] rfl, Option.toList_none, List.append_nil]

/-- What becomes of the rates of a run. -/
structure Accounted (first : Count) (calls : List Call) : Prop where
  /-- Each tick publishes one rate. -/
  ticks : (run first calls).published.length = calls.count .tick
  /-- The rates of all ticks add up to what the counter rose by until the last tick. -/
  sum : total (run first calls).published = some ((heldAtTick first calls : ℚ) - first)
  /-- A take is answered with the rate of the last tick if nothing was taken since, and else with nothing. -/
  answer : (run first calls).answer = if .take ∈ sinceTick calls then none else (run first calls).published.getLast?
  /-- No rate is taken twice. -/
  once : (run first calls).answered.Sublist (run first calls).published
  /-- When two takes are answered, and none between them, the rate that the second is answered and the rates that were overwritten before
  it add up to what the counter rose by from the one tick to the other. -/
  between : ∀ earlier between later rate rate', calls = earlier ++ .take :: (between ++ .take :: later) →
    (run first earlier).answer = some rate →
    (∀ before after, between = before ++ .take :: after → (run first (earlier ++ .take :: before)).answer = none) →
    (run first (earlier ++ .take :: between)).answer = some rate' → ∃ overwritten,
      (run first (earlier ++ .take :: between)).published = (run first earlier).published ++ (overwritten ++ [rate']) ∧
      (run first (earlier ++ .take :: (between ++ [.take]))).answered = (run first earlier).answered ++ [rate, rate'] ∧
      total (overwritten ++ [rate']) = some ((heldAtTick first (earlier ++ .take :: between) : ℚ) - heldAtTick first earlier)

/-- A take that is answered behind another take is answered with the last rate that was published between them. -/
theorem published_between {rate : Binary64} (hanswer : (run first (earlier ++ .take :: between)).answer = some rate) :
    ∃ overwritten, (run first (earlier ++ .take :: between)).published = (run first earlier).published ++ (overwritten ++ [rate]) ∧
      total (overwritten ++ [rate]) = some ((heldAtTick first (earlier ++ .take :: between) : ℚ) - heldAtTick first earlier) := by
  obtain ⟨rates, hpublished, htotal⟩ := published_append first earlier (.take :: between)
  have hearlier := follows_run first earlier
  have hrun := follows_run first (earlier ++ .take :: between)
  have hlast := hrun.answer
  rw [hanswer] at hlast
  split at hlast
  · cases hlast
  · next hnone =>
    have htick := tick_mem_of_take_notMem hnone
    have hlength : rates.length = between.count .tick := by
      have hticks := hrun.ticks
      rw [hpublished, List.length_append, hearlier.ticks, List.count_append, List.count_cons_of_ne (by simp)] at hticks
      exact Nat.add_left_cancel hticks
    have hne : rates ≠ [] := List.length_pos_iff.1 (hlength ▸ List.count_pos_iff.2 htick)
    have hrates : rates.getLast? = some rate := by
      rw [hlast, hpublished, List.getLast?_append, List.getLast?_eq_some_getLast hne, Option.some_or]
    obtain ⟨overwritten, rfl⟩ := List.getLast?_eq_some_iff.1 hrates
    exact ⟨overwritten, hpublished, htotal⟩

/-- What two takes are answered, and no other between them. -/
theorem answered_between {rate rate' : Binary64} (hfirst : (run first earlier).answer = some rate)
    (hnone : ∀ before after, between = before ++ .take :: after → (run first (earlier ++ .take :: before)).answer = none)
    (hanswer : (run first (earlier ++ .take :: between)).answer = some rate') :
    (run first (earlier ++ .take :: (between ++ [.take]))).answered = (run first earlier).answered ++ [rate, rate'] := by
  have hnothing : (run first (earlier ++ [.take] ++ between)).answered = (run first (earlier ++ [.take])).answered :=
    answered_append fun before after hbetween => by simpa using hnone before after hbetween
  have hcalls : earlier ++ .take :: (between ++ [.take]) = earlier ++ .take :: between ++ [.take] := by simp
  rw [hcalls, run_concat, answered_take, hanswer, List.append_cons, hnothing, run_concat, answered_take, hfirst]
  simp

/-- Whatever the order is in which the counter is shown, the sampler ticks and rates are taken: the rates add up to what the counter rose
by, and each can be taken once, until the next tick. -/
theorem rates_accounted (first : Count) (calls : List Call) : Accounted first calls where
  ticks := (follows_run first calls).ticks
  sum := by
    obtain ⟨rates, hpublished, htotal⟩ := published_append first [] calls
    rw [List.nil_append] at hpublished htotal
    rw [hpublished]
    exact htotal
  answer := (follows_run first calls).answer
  once := (List.sublist_append_left _ _).trans (follows_run first calls).taken
  between := by
    intro earlier between later rate rate' _ hfirst hnone hanswer
    obtain ⟨overwritten, hpublished, htotal⟩ := published_between hanswer
    exact ⟨overwritten, hpublished, answered_between hfirst hnone hanswer, htotal⟩

/-- The rate of the second of three ticks is overwritten. -/
example :
    (run 0 [.set 5, .tick, .take, .set 7, .tick, .take, .take, .set 6, .tick, .set 9, .tick, .take]).published =
        [.ofNat 5, .ofNat 2, .ofInt (-1), .ofNat 3] ∧
      (run 0 [.set 5, .tick, .take, .set 7, .tick, .take, .take, .set 6, .tick, .set 9, .tick, .take]).answered =
        [.ofNat 5, .ofNat 2, .ofNat 3] := by
  decide +kernel

/-! ## In the service -/

open Instance

/-- The sampler of an instance ticks as this one does. -/
theorem run_sampler {i : Instance} (h : i.throughput = s.throughput) :
    (runTask (.sampler s.seen)).run i = (.sampler (s.step .tick).seen, { i with throughput := (s.step .tick).throughput }, []) := by
  have hsample : i.throughput.sample s.seen = ((s.step .tick).seen, (s.step .tick).throughput) := by
    rw [h]
    rfl
  rw [runTask, Act.run_ofState, hsample]

/-- After a batch the counter is shown, and a rate that can be taken is taken and reported. -/
theorem run_feedThroughput {i : Instance} (h : i.throughput = s.throughput) {count : Count}
    (hsent : (i.meters.readSent i.store.name).1 = .ofNat count) :
    (feedThroughput.run i).2.1.throughput = ((s.step (.set count)).step .take).throughput ∧
      (feedThroughput.run i).2.2 = (s.step (.set count)).answer.toList.map .rate := by
  have hshown : (feedThroughput.run i).2.1.throughput = (i.throughput.setCurrent (i.meters.readSent i.store.name).1).take.2 := rfl
  have hanswer : (s.step (.set count)).answer = i.throughput.latest := by
    rw [h]
    rfl
  refine ⟨?_, ?_⟩
  · rw [hshown, hsent, h]
    rfl
  · rw [hanswer]
    cases hlatest : i.throughput.latest with
    | none => simp [feedThroughput, Throughput.setCurrent, Throughput.take, hlatest]
    | some rate => simp [feedThroughput, Throughput.setCurrent, Throughput.take, hlatest]

end Sampling

end Intake
