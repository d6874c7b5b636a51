import Mathlib.Data.List.Nodup
import Intake.Postgres.RelationName
import Intake.Settings.Check

/-!
# Relation names: when the relations of a prefix are three

The names of the relations differ in what stands behind the prefix, and of a name only the first bytes count. So the relations are
three as long as the prefix leaves room for one byte behind the underscore; with a longer prefix all names denote one relation
(`relations_distinct_iff`). The checks of the settings do not look at the length, so such prefixes are accepted
(`longPrefix_one_relation`).
-/

namespace Intake

/-! ## The length of a prefix -/

/-- A character that may stand in a plain identifier is one byte. -/
theorem utf8Size_of_isIdentifierPart {c : Char} (h : isIdentifierPart c = true) : c.utf8Size = 1 := by
  have hkind : (((c.isUpper || c.isLower) || c.isDigit) || decide (c = '_')) = true := h
  rw [Bool.or_eq_true, Bool.or_eq_true, Bool.or_eq_true, decide_eq_true_eq] at hkind
  rw [Char.utf8Size_eq_one_iff]
  rcases hkind with ((hupper | hlower) | hdigit) | rfl
  · have hle : c.val ≤ 90 := (of_decide_eq_true (p := 65 ≤ c.val ∧ c.val ≤ 90) hupper).2
    exact UInt32.le_trans hle (by decide)
  · have hle : c.val ≤ 122 := of_decide_eq_true (Bool.and_eq_true_iff.1 hlower).2
    exact UInt32.le_trans hle (by decide)
  · have hle : c.val ≤ 57 := of_decide_eq_true (Bool.and_eq_true_iff.1 hdigit).2
    exact UInt32.le_trans hle (by decide)
  · decide

theorem isIdentifierPart_of_start {c : Char} (h : isIdentifierStart c = true) : isIdentifierPart c = true := by
  rw [isIdentifierStart, Bool.or_eq_true] at h
  rw [isIdentifierPart, Char.isAlphanum, Bool.or_eq_true, Bool.or_eq_true]
  exact h.imp_left Or.inl

/-- A plain identifier consists of characters that may stand in one. -/
theorem all_of_isPlainIdentifier {s : String} (h : isPlainIdentifier s = true) : ∀ c ∈ s.toList, isIdentifierPart c = true := by
  unfold isPlainIdentifier at h
  split at h
  · cases h
  · next c cs hlist =>
    rw [Bool.and_eq_true] at h
    intro d hd
    rw [hlist] at hd
    obtain rfl | hd := List.mem_cons.1 hd
    · exact isIdentifierPart_of_start h.1
    · exact List.all_eq_true.1 h.2 d hd

/-- Characters of one byte each have as many bytes as they are. -/
theorem utf8ByteSize_ofList_of_parts {cs : List Char} (h : ∀ c ∈ cs, isIdentifierPart c = true) :
    (String.ofList cs).utf8ByteSize = cs.length := by
  induction cs with
  | nil => rfl
  | cons c rest ih =>
    have hone := utf8Size_of_isIdentifierPart (h c List.mem_cons_self)
    rw [String.ofList_cons, String.utf8ByteSize_append, String.utf8ByteSize_singleton, hone,
      ih fun d hd => h d (List.mem_cons_of_mem c hd), List.length_cons, Nat.add_comm]

/-- A plain identifier has as many bytes as characters. -/
theorem utf8ByteSize_of_isPlainIdentifier {s : String} (h : isPlainIdentifier s = true) : s.utf8ByteSize = s.toList.length := by
  have hsize := utf8ByteSize_ofList_of_parts (all_of_isPlainIdentifier h)
  rw [String.ofList_toList] at hsize
  exact hsize

/-- The table prefix of settings that passed their check is a plain identifier. -/
theorem PostgresSettings.isPlainIdentifier_of_check {s : PostgresSettings} (h : s.check = .ok ()) : isPlainIdentifier s.table = true := by
  unfold PostgresSettings.check at h
  cases hplain : isPlainIdentifier s.table with
  | true => rfl
  | false =>
    rw [hplain] at h
    cases h

/-! ## Names that are cut -/

/-- Of a name there is left what the limit leaves of the prefix and, in the room behind it, of the rest. -/
theorem denotation_append (table suffix : String) :
    denotation (table ++ suffix) =
      (table.toList.map Char.toLower).take nameLimit ++ (suffix.toList.map Char.toLower).take (nameLimit - table.toList.length) := by
  rw [ denotation, String.toList_append, List.map_append, List.take_append, List.length_map]

variable {table a b : String}

/-- Two names stay apart if there is room for two characters behind the prefix and these differ. -/
theorem denotation_ne (hroom : table.toList.length + 2 ≤ nameLimit)
    (hdiffer : (a.toList.map Char.toLower).take 2 ≠ (b.toList.map Char.toLower).take 2) :
    denotation (table ++ a) ≠ denotation (table ++ b) := by
  intro heq
  rw [denotation_append, denotation_append, List.append_cancel_left_eq] at heq
  have htwo := congrArg (List.take 2) heq
  rw [List.take_take, List.take_take, Nat.min_eq_left (by omega)] at htwo
  exact hdiffer htwo

/-- Two names become one if there is room for one character at most and they go on with the same. -/
theorem denotation_eq (hfull : nameLimit ≤ table.toList.length + 1)
    (hsame : (a.toList.map Char.toLower).take 1 = (b.toList.map Char.toLower).take 1) :
    denotation (table ++ a) = denotation (table ++ b) := by
  have hcut : ∀ cs : List Char, cs.take (nameLimit - table.toList.length) = (cs.take 1).take (nameLimit - table.toList.length) := by
    intro cs
    rw [List.take_take, Nat.min_eq_left (by omega)]
  rw [denotation_append, denotation_append, hcut, hcut (b.toList.map Char.toLower), hsame]

theorem nodup_denotations (hroom : table.toList.length + 2 ≤ nameLimit) : ((relationNames table).map denotation).Nodup := by
  have htmp_labels : denotation (table ++ "_tmp") ≠ denotation (table ++ "_labels") := denotation_ne hroom (by decide)
  have htmp_values : denotation (table ++ "_tmp") ≠ denotation (table ++ "_values") := denotation_ne hroom (by decide)
  have hlabels_values : denotation (table ++ "_labels") ≠ denotation (table ++ "_values") := denotation_ne hroom (by decide)
  simp [relationNames, stagingTable, labelsTable, valuesTable, htmp_labels, htmp_values, hlabels_values]

/-- Behind a prefix that leaves no room all names go on with the underscore, if with anything. -/
theorem denotation_eq_of_full (hfull : nameLimit ≤ table.toList.length + 1) {name : String} (hname : name ∈ relationNames table) :
    denotation name = denotation (stagingTable table) := by
  simp only [relationNames, List.mem_cons, List.not_mem_nil, or_false] at hname
  rcases hname with rfl | rfl | rfl
  · rfl
  · exact denotation_eq (a := "_labels") (b := "_tmp") hfull (by decide)
  · exact denotation_eq (a := "_values") (b := "_tmp") hfull (by decide)

/-! ## The relations of the service -/

/-- Every relation of the service is named in a statement. -/
theorem exists_statement {name : String} (hname : name ∈ relationNames table) :
    ∃ sql ∈ (Statements.ofTable table).all, name.toList <:+: sql.toList := by
  have hinfix : ∀ (before name after : String), name.toList <:+: (before ++ name ++ after).toList := by
    intro before name after
    rw [String.toList_append, String.toList_append]
    exact List.infix_append _ _ _
  simp only [relationNames, List.mem_cons, List.not_mem_nil, or_false] at hname
  rcases hname with rfl | rfl | rfl
  · exact ⟨(Statements.ofTable table).createStaging, by simp [Statements.all], hinfix _ _ _⟩
  · refine ⟨(Statements.ofTable table).insertLabels, by simp [Statements.all], ?_⟩
    unfold Statements.ofTable
    simp only [String.append_assoc]
    rw [← String.append_assoc]
    exact hinfix _ _ _
  · refine ⟨(Statements.ofTable table).insertValues, by simp [Statements.all], ?_⟩
    unfold Statements.ofTable
    simp only [String.append_assoc]
    rw [← String.append_assoc]
    exact hinfix _ _ _

/-- For every prefix that the settings accept, the names in the statements denote three relations exactly if the prefix has at most 61
bytes; with a longer one they all denote the same relation. -/
theorem relations_distinct_iff (s : PostgresSettings) (h : s.check = .ok ()) :
    (∀ name ∈ relationNames s.table, ∃ sql ∈ (Statements.ofTable s.table).all, name.toList <:+: sql.toList) ∧
      (((relationNames s.table).map denotation).Nodup ↔ s.table.utf8ByteSize ≤ 61) ∧
      (61 < s.table.utf8ByteSize → ∀ a ∈ relationNames s.table, ∀ b ∈ relationNames s.table, denotation a = denotation b) := by
  have hbytes := utf8ByteSize_of_isPlainIdentifier (PostgresSettings.isPlainIdentifier_of_check h)
  have hone : 61 < s.table.utf8ByteSize → ∀ a ∈ relationNames s.table, ∀ b ∈ relationNames s.table, denotation a = denotation b := by
    intro hlong a ha b hb
    have hfull : nameLimit ≤ s.table.toList.length + 1 := by
      rw [nameLimit]
      omega
    exact (denotation_eq_of_full hfull ha).trans (denotation_eq_of_full hfull hb).symm
  refine ⟨fun _ hname => exists_statement hname, ⟨fun hnodup => ?_, fun hshort => nodup_denotations ?_⟩, hone⟩
  · refine Nat.le_of_not_lt fun hlong => ?_
    have hsame := hone hlong (stagingTable s.table) (by simp [relationNames]) (labelsTable s.table) (by simp [relationNames])
    rw [relationNames, List.map_cons, List.map_cons, hsame] at hnodup
    exact (List.nodup_cons.1 hnodup).1 List.mem_cons_self
  · rw [nameLimit]
    omega

/-- Settings with a prefix of many letters. -/
def lettersPrefix (count : Nat) : PostgresSettings := { table := String.ofList (List.replicate count 'm') }

/-- A prefix of 61 bytes is accepted and has three relations. -/
theorem relations_distinct_iff_longest :
    (lettersPrefix 61).check = .ok () ∧ (lettersPrefix 61).table.utf8ByteSize ≤ 61 ∧
      ((relationNames (lettersPrefix 61).table).map denotation).Nodup := by
  have hcheck : (lettersPrefix 61).check = .ok () := by decide +kernel
  have hsize : (lettersPrefix 61).table.utf8ByteSize ≤ 61 := by decide +kernel
  exact ⟨hcheck, hsize, (relations_distinct_iff (lettersPrefix 61) hcheck).2.1.2 hsize⟩

/-- A prefix of 62 bytes is accepted too, and the temporary relation is the one of the label sets and the one of the values. -/
theorem longPrefix_one_relation :
    (lettersPrefix 62).check = .ok () ∧
      denotation (stagingTable (lettersPrefix 62).table) = denotation (labelsTable (lettersPrefix 62).table) ∧
      denotation (stagingTable (lettersPrefix 62).table) = denotation (valuesTable (lettersPrefix 62).table) := by
  refine ⟨?_, ?_, ?_⟩ <;> decide +kernel

end Intake
