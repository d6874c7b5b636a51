import Intake.Proofs.Postgres.CopyText
import Intake.Proofs.Time.Stamp

/-!
# Samples: a row keeps the time of its sample

The time of a row is written twice, to the millisecond in the line for the bulk load and to the second in the line for a human
reader. Both texts are read back here (`read_timeFields`), for every sample that can be staged, by a reader that counts days as the
calendar does.
-/

namespace Intake

theorem Instant.millis_of_ofMillis? {ms : Int} {t : Instant} (h : ofMillis? ms = some t) : t.millis = ms := by
  unfold ofMillis? at h
  split at h
  · cases h
    rfl
  · cases h

namespace StagedRow

open CopyText

/-- What stands before the first tab of a line. -/
def timeField (line : String) : String := String.ofList (line.toList.takeWhile fun c => c ≠ '\t')

/-- A text without tabs is what stands before the first one behind it. -/
theorem timeField_append {time : String} (h : Plain time.toList) (rest : String) : timeField (time ++ ("\t" ++ rest)) = time := by
  have htabs : ∀ c ∈ time.toList, decide (c ≠ '\t') = true := by
    intro c hc
    refine decide_eq_true fun htab => ?_
    have hescape := h c hc
    rw [htab] at hescape
    exact absurd hescape (by decide)
  have hrest : ("\t" ++ rest).toList = '\t' :: rest.toList := String.toList_append
  unfold timeField
  rw [String.toList_append, hrest, List.takeWhile_append_of_pos htabs, List.takeWhile_cons_of_neg (by decide), List.append_nil,
    String.ofList_toList]

theorem timeField_copyLine (r : StagedRow) : timeField r.copyLine = Calendar.stampMillis r.time.millis := by
  unfold copyLine
  simp only [String.append_assoc]
  exact timeField_append (Calendar.plain_stampMillis _) _

theorem timeField_displayLine (r : StagedRow) : timeField r.displayLine = Calendar.stampSeconds r.time.millis := by
  have hplain : Plain (Calendar.stampSeconds r.time.millis).toList := by
    unfold Calendar.stampSeconds
    rw [String.toList_ofList]
    exact (Calendar.plain_secondText _).append (.cons rfl plain_nil)
  unfold displayLine
  simp only [String.append_assoc]
  exact timeField_append hplain _

/-- A row has the time of its sample. -/
theorem millis_of_ofSample? {s : Sample} {r : StagedRow} (h : ofSample? s = some r) : r.time.millis = s.timestampMs := by
  obtain ⟨t, ht, rfl⟩ := Option.map_eq_some_iff.1 h
  exact Instant.millis_of_ofMillis? ht

/-- The time that stands in the line for the bulk load is the one of the sample, with three fraction digits; the time in the line for
a human reader is the greatest whole second that is not after it. So samples with different times are never written with the same one.
Dates are read as the calendar numbers them. -/
theorem read_timeFields {s : Sample} {r : StagedRow} (h : ofSample? s = some r) :
    Calendar.Counts Calendar.daysOfDate ∧ Calendar.read? (timeField r.copyLine) = some s.timestampMs ∧
      (∃ upToSecond millis : List Char, (timeField r.copyLine).toList = upToSecond ++ '.' :: millis ++ ['Z'] ∧ millis.length = 3 ∧
        Calendar.Digits millis) ∧
      (∃ second : Int, Calendar.read? (timeField r.displayLine) = some (1000 * second) ∧ 1000 * second ≤ s.timestampMs ∧
        s.timestampMs < 1000 * (second + 1)) ∧
      ∀ (s' : Sample) (r' : StagedRow), ofSample? s' = some r' → s'.timestampMs ≠ s.timestampMs →
        timeField r'.copyLine ≠ timeField r.copyLine := by
  have hread : ∀ (s : Sample) (r : StagedRow), ofSample? s = some r →
      Calendar.read? (timeField r.copyLine) = some s.timestampMs := by
    intro s r h
    rw [timeField_copyLine, Calendar.read?_stampMillis, millis_of_ofSample? h]
  refine ⟨Calendar.counts_daysOfDate, hread s r h, ?_, ?_, fun s' r' h' hne hsame => ?_⟩
  · have hmillis : (r.time.millis.fmod 1000).toNat < Nat.pow 10 3 := by
      rw [Int.fmod_eq_emod_of_nonneg _ (by decide)]
      exact (Int.toNat_lt' (by decide)).2 (Int.emod_lt_of_pos _ (by decide))
    rw [timeField_copyLine, Calendar.stampMillis, String.toList_ofList]
    exact ⟨_, _, rfl, Calendar.length_padded (by decide) hmillis, Calendar.digits_padded _ _⟩
  · rw [timeField_displayLine, ← millis_of_ofSample? h]
    exact Calendar.read?_stampSeconds _
  · have hread' := hread s' r' h'
    rw [hsame, hread s r h] at hread'
    exact hne (Option.some.inj hread').symm

/-- A millisecond before the year 0. -/
def lastOfYearMinusOne : Sample := { labels := .empty, value := Binary64.zero, timestampMs := -62167219200001 }

/-- Its year has a sign, and its second ends a year of the calendar. -/
theorem read_timeFields_beforeYearZero :
    ∃ r, ofSample? lastOfYearMinusOne = some r ∧
      (timeField r.copyLine = "-0001-12-31T23:59:59.999Z" ∧ Calendar.read? (timeField r.copyLine) = some (-62167219200001)) ∧
        timeField r.displayLine = "-0001-12-31T23:59:59Z" ∧ Calendar.read? (timeField r.displayLine) = some (-62167219201000) := by
  have hrow : ofSample? lastOfYearMinusOne =
      some ⟨{ millis := -62167219200001 }, Binary64.zero, lastOfYearMinusOne.labelSet⟩ := rfl
  obtain ⟨-, hread, -, ⟨second, hsecond, hle, hlt⟩, -⟩ := read_timeFields hrow
  have htime : lastOfYearMinusOne.timestampMs = -62167219200001 := rfl
  have hvalue : second = -62167219201 := by omega
  refine ⟨_, hrow, ⟨?_, hread⟩, ?_, ?_⟩
  · rw [timeField_copyLine]
    decide +kernel
  · rw [timeField_displayLine]
    decide +kernel
  · rw [hsecond, hvalue]
    rfl

end StagedRow

end Intake
