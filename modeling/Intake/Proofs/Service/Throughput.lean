import Intake.Proofs.Number.Order
import Intake.Proofs.Service.Ledger

/-!
# Throughput: the rate while batches end at the same time

When its write has ended a batch is counted, the counter is read, what was read is shown to the calculator, and a published rate is
taken and logged. Others can come between any two of these steps, and so can a tick. `Feeding` is an instance with batches that end in
this way; alone, a batch goes through the steps as `finishWrite` does (`run_alone`).

A batch that was overtaken between the second step and the third shows a reading that is older than what the calculator holds. The
held value then falls, and the next tick publishes a negative rate (`overtaken_reading_lowers_rate`). As long as readings are shown in
the order in which they were made, the held value never falls and no rate is negative (`rates_nonNegative`), however many samples are
counted: the counter need not be exact for that, only finite.
-/

namespace Intake

/-- A batch that ends, by what is to be done next for it. -/
inductive Tail where
  /-- Its write is to be counted. -/
  | ended (count begun : Nat) (result : Except StorageError Unit)
  /-- The counter is to be read. -/
  | counted
  /-- What was read is to be shown; it was the reading of this turn. -/
  | read (turn : Nat) (sent : Binary64)
  /-- The published rate is to be taken. -/
  | shown
  | done

namespace Instance

/-- Reads the counter of sent samples. -/
def readCounter : Act Instance Binary64 := Act.ofState fun i =>
  let (sent, meters) := i.meters.readSent i.store.name
  (sent, { i with meters })

/-- Shows the calculator what was read. -/
def showCounter (sent : Binary64) : Act Instance Unit := Act.modify fun i => { i with throughput := i.throughput.setCurrent sent }

/-- Takes the rate that was published. -/
def takeRate : Act Instance (Option Binary64) := Act.ofState fun i =>
  let (rate, throughput) := i.throughput.take
  (rate, { i with throughput })

theorem feedThroughput_eq : feedThroughput = (do
    let sent ← readCounter
    showCounter sent
    let rate ← takeRate
    Act.report (match rate with | some r => [.rate r] | none => [])) := rfl

end Instance

/-- An instance where batches end, and its sampler, with a record of what was read, shown, published and logged. -/
structure Feeding where
  inst : Instance
  /-- What the sampler saw of the counter at its last tick. -/
  seen : Binary64
  tails : List Tail := []
  /-- What was read of the counter, in the order of the readings. -/
  readings : List Binary64 := []
  /-- The turns of the readings that were shown, in the order in which they were shown. -/
  shown : List Nat := []
  published : List Binary64 := []
  logged : List Binary64 := []

namespace Feeding

open Instance

/-- The next step of the batch at a place. -/
def advance (f : Feeding) (k : Nat) : Tail → Feeding
  | .ended count begun result =>
    { f with inst := ((countBatch count begun result).run f.inst).2.1, tails := f.tails.set k .counted }
  | .counted =>
    { f with
      inst := (readCounter.run f.inst).2.1
      tails := f.tails.set k (.read f.readings.length (readCounter.run f.inst).1)
      readings := f.readings ++ [(readCounter.run f.inst).1] }
  | .read turn sent =>
    { f with inst := ((showCounter sent).run f.inst).2.1, tails := f.tails.set k .shown, shown := f.shown ++ [turn] }
  | .shown =>
    { f with
      inst := (takeRate.run f.inst).2.1
      tails := f.tails.set k .done
      logged := f.logged ++ (takeRate.run f.inst).1.toList }
  | .done => f

inductive Move where
  /-- The write of a batch ends. -/
  | ended (count begun : Nat) (result : Except StorageError Unit)
  /-- A batch ends that was not written. -/
  | dropped
  /-- The batch at a place takes its next step. -/
  | advance (k : Nat)
  /-- The sampler ticks. -/
  | tick

def step (f : Feeding) : Move → Feeding
  | .ended count begun result => { f with tails := f.tails ++ [.ended count begun result] }
  | .dropped => { f with tails := f.tails ++ [.counted] }
  | .advance k =>
    match f.tails[k]? with
    | some t => f.advance k t
    | none => f
  | .tick =>
    { f with
      inst := ((runTask (.sampler f.seen)).run f.inst).2.1
      seen := f.inst.throughput.current
      published := f.published ++ ((runTask (.sampler f.seen)).run f.inst).2.1.throughput.latest.toList }

def run (f : Feeding) (moves : List Move) : Feeding := moves.foldl step f

/-- The sampler starts beside an instance where no batch ends yet. -/
def start (i : Instance) : Feeding := { inst := i, seen := i.throughput.current }

theorem run_append (f : Feeding) (earlier later : List Move) : f.run (earlier ++ later) = (f.run earlier).run later :=
  List.foldl_append

/-- The sampler goes on with what it saw at the tick. -/
theorem runTask_sampler (f : Feeding) : ((runTask (.sampler f.seen)).run f.inst).1 = .sampler (f.step .tick).seen := rfl

/-- A batch that ends with nothing in between does what the end of a write does. -/
theorem run_alone {f : Feeding} {k count begun : Nat} {result : Except StorageError Unit}
    (h : f.tails[k]? = some (.ended count begun result)) :
    (f.run (List.replicate 4 (.advance k))).inst = ((finishWrite .handle count begun result).run f.inst).2.1 := by
  have hk : k < f.tails.length := (List.getElem?_eq_some_iff.1 h).1
  simp only [run, List.replicate, List.foldl_cons, List.foldl_nil, step, h, advance, List.getElem?_set_self hk, List.set_set]
  rfl

/-! ## Readings that are shown in order -/

/-- Readings were shown in the order in which they were made; some may not have been shown yet. -/
def InOrder (f : Feeding) : Prop := f.shown.Pairwise (· < ·)

instance (f : Feeding) : Decidable f.InOrder := inferInstanceAs (Decidable (List.Pairwise _ _))

/-- The reading that was shown last. -/
def level (f : Feeding) : Binary64 := (f.shown.getLast?.bind fun turn => f.readings[turn]?).getD Binary64.zero

/-- The rates that are published, were published or were logged. -/
def rates (f : Feeding) : List Binary64 := f.inst.throughput.latest.toList ++ f.published ++ f.logged

/-- What holds as long as readings are shown in order. -/
structure Rising (f : Feeding) : Prop where
  tick : 0 < f.inst.throughput.tick.nanos
  sent : f.inst.ledger.sent.NonNegative
  readings : (f.readings ++ [f.inst.ledger.sent]).Pairwise Binary64.UpTo
  /-- What a batch has read is the reading of its turn. -/
  read : ∀ turn sent, .read turn sent ∈ f.tails → f.readings[turn]? = some sent
  shown : ∀ turn ∈ f.shown, turn < f.readings.length
  current : f.inst.throughput.current = f.level
  seen : f.seen.UpTo f.level
  /-- A counter that has grown beyond all doubles has no rate. -/
  rates : f.inst.ledger.sent ≠ Binary64.infinity false → ∀ r ∈ f.rates, Binary64.zero.le r = true

variable {f : Feeding}

/-- Nothing was shown yet, or the level is that of a reading. -/
theorem level_cases (f : Feeding) :
    f.level = Binary64.zero ∨ ∃ turn, f.shown.getLast? = some turn ∧ f.readings[turn]? = some f.level := by
  unfold level
  cases hlast : f.shown.getLast? with
  | none => exact Or.inl rfl
  | some turn =>
    cases hread : f.readings[turn]? with
    | none => exact Or.inl (by simp [hread])
    | some x => exact Or.inr ⟨turn, rfl, by simp [hread]⟩

/-- A reading is no higher than the counter is now. -/
theorem Rising.reading_upTo (h : f.Rising) {x : Binary64} (hx : x ∈ f.readings) : x.UpTo f.inst.ledger.sent :=
  (List.pairwise_append.1 h.readings).2.2 x hx _ (List.mem_singleton.2 rfl)

theorem Rising.level_upTo (h : f.Rising) : f.level.UpTo f.inst.ledger.sent := by
  rcases f.level_cases with hzero | ⟨turn, -, hread⟩
  · rw [hzero]
    exact h.sent.zero_upTo
  · exact h.reading_upTo (List.mem_of_getElem? hread)

/-- A batch that joins has not read the counter yet. -/
theorem Rising.join (h : f.Rising) {t : Tail} (ht : ∀ turn sent, t ≠ .read turn sent) : { f with tails := f.tails ++ [t] }.Rising :=
  { h with
    read := by
      intro turn sent hmem
      rcases List.mem_append.1 hmem with hmem | hmem
      · exact h.read turn sent hmem
      · exact absurd (List.mem_singleton.1 hmem).symm (ht turn sent) }

/-- A batch that went one step further has just read the counter, or its reading is no new one. -/
theorem read_of_mem_set {tails : List Tail} {k turn : Nat} {sent : Binary64} {t : Tail} (h : .read turn sent ∈ tails.set k t)
    (ht : .read turn sent ≠ t) : .read turn sent ∈ tails :=
  (List.mem_or_eq_of_mem_set h).resolve_right ht

/-- Counting a batch raises the counter or leaves it. -/
theorem sent_enter {l : Ledger} (h : l.sent.NonNegative) (count : Nat) (result : Except StorageError Unit) :
    l.sent.UpTo (l.enter count result).sent := by
  cases result with
  | ok u => exact (Binary64.upTo_add h (Binary64.nonNegative_ofNat count)).1
  | error e => exact h.upTo_self

theorem rising_ended (h : f.Rising) (k count begun : Nat) (result : Except StorageError Unit) :
    (f.advance k (.ended count begun result)).Rising := by
  have hthroughput : (f.advance k (.ended count begun result)).inst.throughput = f.inst.throughput := by cases result <;> rfl
  have hledger : (f.advance k (.ended count begun result)).inst.ledger = f.inst.ledger.enter count result :=
    ledger_countBatch count begun result f.inst
  have hsent := sent_enter h.sent count result
  exact { h with
    tick := by
      rw [hthroughput]
      exact h.tick
    sent := by
      rw [hledger]
      exact hsent.right
    readings := by
      rw [hledger]
      refine List.pairwise_append.2 ⟨(List.pairwise_append.1 h.readings).1, List.pairwise_singleton _ _, fun x hx y hy => ?_⟩
      rw [List.mem_singleton.1 hy]
      exact (h.reading_upTo hx).trans hsent
    read := fun turn sent hmem => h.read turn sent (read_of_mem_set hmem (by simp))
    current := by
      rw [hthroughput]
      exact h.current
    rates := by
      intro hfinite
      rw [hledger] at hfinite
      rw [rates, hthroughput]
      exact h.rates (hsent.ne_infinity hfinite) }

/-- What is read of the counter is what was counted. -/
theorem run_readCounter (i : Instance) : (readCounter.run i).1 = i.ledger.sent ∧ (readCounter.run i).2.1.ledger = i.ledger := by
  have htouch := Family.lookup_touch Binary64.zero i.store.name i.meters.sent
  refine ⟨htouch, ?_⟩
  simp only [readCounter, Act.run_ofState, ledger, Meters.readSent, htouch]

/-- Reading the counter leaves the level, which is that of a reading before. -/
theorem level_counted (h : f.Rising) (k : Nat) : (f.advance k .counted).level = f.level := by
  unfold level advance
  cases hlast : f.shown.getLast? with
  | none => rfl
  | some turn =>
    have hturn := h.shown turn (List.mem_of_getLast? hlast)
    simp only [Option.bind_some, List.getElem?_append_left hturn]

theorem rising_counted (h : f.Rising) (k : Nat) : (f.advance k .counted).Rising := by
  have hlevel := level_counted h k
  obtain ⟨hread, hledger⟩ := run_readCounter f.inst
  exact { h with
    sent := by
      rw [advance, hledger]
      exact h.sent
    readings := by
      rw [advance, hledger, hread]
      refine List.pairwise_append.2 ⟨h.readings, List.pairwise_singleton _ _, fun x hx y hy => ?_⟩
      rw [List.mem_singleton.1 hy]
      rcases List.mem_append.1 hx with hx | hx
      · exact h.reading_upTo hx
      · rw [List.mem_singleton.1 hx]
        exact h.sent.upTo_self
    read := by
      intro turn sent hmem
      rcases List.mem_or_eq_of_mem_set hmem with hmem | heq
      · have hbefore := h.read turn sent hmem
        exact (List.getElem?_append_left (List.getElem?_eq_some_iff.1 hbefore).1).trans hbefore
      · cases heq
        exact List.getElem?_concat_length
    shown := by
      intro turn hturn
      rw [advance, List.length_append]
      exact Nat.lt_add_right _ (h.shown turn hturn)
    current := by
      rw [hlevel]
      exact h.current
    seen := by
      rw [hlevel]
      exact h.seen
    rates := by
      intro hfinite
      rw [advance, hledger] at hfinite
      exact h.rates hfinite }

/-- A reading that is shown in its turn is no lower than the one that was shown before. -/
theorem level_upTo_of_inOrder (h : f.Rising) {k turn : Nat} {sent : Binary64} (hread : f.readings[turn]? = some sent)
    (horder : (f.advance k (.read turn sent)).InOrder) : f.level.UpTo sent := by
  rcases f.level_cases with hzero | ⟨before, hlast, hlevel⟩
  · rw [hzero]
    exact (h.reading_upTo (List.mem_of_getElem? hread)).left.zero_upTo
  · -- The reading that was shown before was made before.
    have hturns : before < turn := (List.pairwise_append.1 horder).2.2 before (List.mem_of_getLast? hlast) turn (List.mem_singleton.2 rfl)
    obtain ⟨hbefore, hlevel⟩ := List.getElem?_eq_some_iff.1 hlevel
    obtain ⟨hturn, hsent⟩ := List.getElem?_eq_some_iff.1 hread
    rw [← hlevel, ← hsent]
    exact List.pairwise_iff_getElem.1 (List.pairwise_append.1 h.readings).1 before turn hbefore hturn hturns

theorem rising_read (h : f.Rising) {k turn : Nat} {sent : Binary64} (hmem : .read turn sent ∈ f.tails)
    (horder : (f.advance k (.read turn sent)).InOrder) :
    (f.advance k (.read turn sent)).Rising ∧ f.level.UpTo (f.advance k (.read turn sent)).level := by
  have hread := h.read turn sent hmem
  have hlevel : (f.advance k (.read turn sent)).level = sent := by simp [level, advance, hread]
  have hrises := level_upTo_of_inOrder h hread horder
  rw [hlevel]
  refine ⟨{ h with
    read := fun turn' sent' hmem' => h.read turn' sent' (read_of_mem_set hmem' (by simp))
    shown := ?_
    current := hlevel.symm
    seen := ?_ }, hrises⟩
  · intro turn' hturn'
    rcases List.mem_append.1 hturn' with hturn' | hturn'
    · exact h.shown turn' hturn'
    · rw [List.mem_singleton.1 hturn']
      exact (List.getElem?_eq_some_iff.1 hread).1
  · rw [hlevel]
    exact h.seen.trans hrises

theorem rising_shown (h : f.Rising) (k : Nat) : (f.advance k .shown).Rising :=
  { h with
    read := fun turn sent hmem => h.read turn sent (read_of_mem_set hmem (by simp))
    rates := by
      intro hfinite r hr
      refine h.rates hfinite r ?_
      -- The rate that was taken is the one that was published last.
      simp only [rates, advance, List.mem_append] at hr ⊢
      rcases hr with (hr | hr) | hr | hr
      · cases hr
      · exact Or.inl (Or.inr hr)
      · exact Or.inr hr
      · exact Or.inl (Or.inl hr) }

/-- A tick publishes the rate at which the level rose since the tick before. -/
theorem rising_tick (h : f.Rising) : (f.step .tick).Rising :=
  { h with
    seen := by
      rw [show (f.step .tick).seen = f.level from h.current]
      exact h.level_upTo.left.upTo_self
    rates := by
      intro hfinite r hr
      have hlevel := h.level_upTo.ne_infinity hfinite
      have hrose := h.seen.sub hlevel
      have hrate := (hrose.left.div (hrose.ne_infinity hlevel) (Binary64.positive_seconds h.tick)).zero_upTo.le
      rw [← h.current] at hrate
      simp only [rates, step, List.mem_append] at hr
      rcases hr with (hr | hr | hr) | hr
      · cases List.mem_singleton.1 hr
        exact hrate
      · exact h.rates hfinite r (List.mem_append_left _ (List.mem_append_right _ hr))
      · cases List.mem_singleton.1 hr
        exact hrate
      · exact h.rates hfinite r (List.mem_append_right _ hr) }

/-- Every move keeps what holds, and the level does not fall, as long as readings are shown in order. -/
theorem rising_step (h : f.Rising) (m : Move) (horder : (f.step m).InOrder) : (f.step m).Rising ∧ f.level.UpTo (f.step m).level := by
  have hsame := h.level_upTo.left.upTo_self
  cases m with
  | ended count begun result => exact ⟨h.join nofun, hsame⟩
  | dropped => exact ⟨h.join nofun, hsame⟩
  | tick => exact ⟨rising_tick h, hsame⟩
  | advance k =>
    unfold step at *
    dsimp only at *
    cases ht : f.tails[k]? with
    | none => exact ⟨h, hsame⟩
    | some t =>
      rw [ht] at horder
      cases t with
      | ended count begun result => exact ⟨rising_ended h k count begun result, hsame⟩
      | counted => exact ⟨rising_counted h k, (level_counted h k).symm ▸ hsame⟩
      | read turn sent => exact rising_read h (List.mem_of_getElem? ht) horder
      | shown => exact ⟨rising_shown h k, hsame⟩
      | done => exact ⟨h, hsame⟩

/-! ## Runs -/

/-- What was shown stays recorded. -/
theorem shown_step (f : Feeding) (m : Move) : f.shown <+: (f.step m).shown := by
  cases m with
  | advance k =>
    unfold step
    dsimp only
    cases f.tails[k]? with
    | none => exact List.prefix_rfl
    | some t =>
      cases t with
      | read turn sent => exact List.prefix_append _ _
      | _ => exact List.prefix_rfl
  | _ => exact List.prefix_rfl

theorem shown_run (f : Feeding) (moves : List Move) : f.shown <+: (f.run moves).shown := by
  induction moves generalizing f with
  | nil => exact List.prefix_rfl
  | cons m rest ih => exact (f.shown_step m).trans (ih (f.step m))

/-- Readings that are shown in order were so at each moment. -/
theorem InOrder.of_run (moves : List Move) (h : (f.run moves).InOrder) : f.InOrder :=
  List.Pairwise.sublist (f.shown_run moves).sublist h

/-- A run keeps what holds, and the level does not fall, as long as readings are shown in order. -/
theorem rising_run (h : f.Rising) {moves : List Move} (horder : (f.run moves).InOrder) :
    (f.run moves).Rising ∧ f.level.UpTo (f.run moves).level := by
  induction moves generalizing f with
  | nil => exact ⟨h, h.level_upTo.left.upTo_self⟩
  | cons m rest ih =>
    obtain ⟨hstep, hlevel⟩ := rising_step h m (InOrder.of_run rest horder)
    obtain ⟨hrun, hlevel'⟩ := ih hstep horder
    exact ⟨hrun, hlevel.trans hlevel'⟩

/-- An instance that has counted nothing and shown nothing to its calculator, whose sampler ticks. -/
structure Unfed (i : Instance) : Prop where
  tick : 0 < i.throughput.tick.nanos
  sent : i.ledger.sent = Binary64.zero
  current : i.throughput.current = Binary64.zero
  latest : i.throughput.latest = none

theorem rising_start {i : Instance} (hi : Unfed i) : (start i).Rising where
  tick := hi.tick
  sent := by
    rw [start, hi.sent]
    exact Binary64.nonNegative_zero
  readings := List.pairwise_singleton _ _
  read := nofun
  shown := nofun
  current := hi.current
  seen := by
    rw [start, hi.current]
    exact Binary64.nonNegative_zero.upTo_self
  rates := by
    intro _ r hr
    rw [rates, start, hi.latest] at hr
    cases hr

/-- However the ends of batches and the ticks of the sampler are interleaved: as long as readings are shown in the order in which they
were made, the value that the calculator holds never falls, and no rate that is published or logged is negative unless the counter has
grown beyond all doubles. -/
theorem rates_nonNegative {i : Instance} (hi : Unfed i) (moves : List Move) (horder : ((start i).run moves).InOrder) :
    (∀ earlier later, moves = earlier ++ later →
      ((start i).run earlier).inst.throughput.current.le ((start i).run moves).inst.throughput.current = true) ∧
      (((start i).run moves).inst.ledger.sent ≠ Binary64.infinity false →
        (∀ r ∈ ((start i).run moves).published, Binary64.zero.le r = true) ∧
          ∀ r ∈ ((start i).run moves).logged, Binary64.zero.le r = true) := by
  obtain ⟨hrun, -⟩ := rising_run (rising_start hi) horder
  refine ⟨fun earlier later hmoves => ?_, fun hfinite => ⟨fun r hr => ?_, fun r hr => ?_⟩⟩
  · subst hmoves
    rw [run_append] at *
    obtain ⟨hearlier, -⟩ := rising_run (rising_start hi) (InOrder.of_run later horder)
    obtain ⟨-, hlevel⟩ := rising_run hearlier horder
    rw [hearlier.current, hrun.current]
    exact hlevel.le
  · exact hrun.rates hfinite r (List.mem_append_left _ (List.mem_append_right _ hr))
  · exact hrun.rates hfinite r (List.mem_append_right _ hr)

/-- An instance whose sampler ticks every second. -/
def sampled : Instance :=
  { store := { name := "memory" }, backend := .none, throughput := .new (Span.ofSeconds 1), interval := Span.zero }

theorem unfed_sampled : Unfed sampled := ⟨by decide, rfl, rfl, rfl⟩

/-- Two batches of one sample that end at the same time. Both have read the counter before one of them shows it, and the one that read it
first shows it first. -/
def sideBySide : List Move :=
  [.ended 1 0 (.ok ()), .ended 1 0 (.ok ()), .advance 1, .advance 0, .advance 0, .tick, .advance 1, .advance 0, .advance 1, .tick]

theorem rates_nonNegative_sideBySide :
    ((start sampled).run sideBySide).published = [Binary64.zero, Binary64.ofNat 2] ∧
      ∀ r ∈ ((start sampled).run sideBySide).published, Binary64.zero.le r = true :=
  ⟨by decide +kernel, ((rates_nonNegative unfed_sampled sideBySide (by decide +kernel)).2 (by decide +kernel)).1⟩

/-- The second of two batches reads the counter after the first one did, and shows it before. -/
def overtaking : List Move :=
  [.ended 1 0 (.ok ()), .ended 1 0 (.ok ()), .advance 0, .advance 0, .advance 1, .advance 1, .advance 1, .advance 1, .tick]

/-- The first one goes on, and there is a tick. -/
def overtaken : List Move := [.advance 0, .advance 0, .tick]

/-- The next batch that ends takes the rate. -/
def nextBatch : List Move := [.dropped, .advance 2, .advance 2, .advance 2]

/-- A batch that was overtaken lowers the value that the calculator holds, and a negative rate is published and logged. -/
theorem overtaken_reading_lowers_rate :
    ((start sampled).run overtaking).inst.throughput.current = Binary64.ofNat 2 ∧
      ((start sampled).run (overtaking ++ overtaken)).inst.throughput.current = Binary64.ofNat 1 ∧
      ((start sampled).run (overtaking ++ overtaken)).published = [Binary64.ofNat 2, Binary64.ofInt (-1)] ∧
      ((start sampled).run (overtaking ++ overtaken ++ nextBatch)).logged = [Binary64.ofNat 2, Binary64.ofInt (-1)] := by
  refine ⟨?_, ?_, ?_, ?_⟩ <;> decide +kernel

end Feeding

end Intake
