import Mathlib.Data.List.TakeWhile
import Intake.Series.Sample

/-!
# COPY text: rows are read back as they were written

What is written for a list of rows is read as one record of four fields for each row, none of them null, with the contents
unchanged (`read_copyLines`). Nothing is assumed of metric names and label texts: they may hold tabs, newlines, backslashes, the
null marker and the end marker.

The escapes are undone one character at a time (`unescapeAfter_escapeChar`), and no separator is hidden in them or made by them
(`Unbroken`). The texts of times and values need no escapes at all (`Plain`).
-/

namespace Intake

namespace CopyText

variable {sep c : Char} {cs ds : List Char}

/-! ## Texts that stand for themselves -/

/-- Every character is written as itself. -/
def Plain (cs : List Char) : Prop := ∀ c ∈ cs, escapeChar c = [c]

instance (cs : List Char) : Decidable (Plain cs) := List.decidableBAll (fun c => escapeChar c = [c]) cs

theorem Plain.escape_eq (h : Plain cs) : escape cs = cs := by
  induction cs with
  | nil => rfl
  | cons c rest ih =>
    have hrest : escape rest = rest := ih fun d hd => h d (List.mem_cons_of_mem c hd)
    unfold escape at hrest ⊢
    rw [List.flatMap_cons, h c List.mem_cons_self, hrest, List.singleton_append]

theorem plain_nil : Plain [] := fun _ h => absurd h List.not_mem_nil

theorem Plain.append (h : Plain cs) (h' : Plain ds) : Plain (cs ++ ds) := by
  intro c hc
  rcases List.mem_append.1 hc with hc | hc
  · exact h c hc
  · exact h' c hc

theorem Plain.cons (hc : escapeChar c = [c]) (h : Plain cs) : Plain (c :: cs) := by
  intro d hd
  rcases List.mem_cons.1 hd with rfl | hd
  · exact hc
  · exact h d hd

theorem Plain.sublist (h : Plain cs) (hs : ds.Sublist cs) : Plain ds := fun c hc => h c (hs.subset hc)

theorem Plain.reverse (h : Plain cs) : Plain cs.reverse := fun c hc => h c (List.mem_reverse.1 hc)

theorem escapeChar_of_isDigit (h : c.isDigit = true) : escapeChar c = [c] := by
  unfold escapeChar
  rw [if_neg, if_neg, if_neg, if_neg] <;> (rintro rfl; exact absurd h (by decide))

theorem plain_toDigits (n : Nat) : Plain (Nat.toDigits 10 n) := fun _ hc =>
  escapeChar_of_isDigit (Nat.isDigit_of_mem_toDigits (by decide) (by decide) hc)

theorem plain_replicate (n : Nat) : Plain (List.replicate n '0') := by
  intro c hc
  rw [(List.mem_replicate.1 hc).2]
  rfl

end CopyText

open CopyText

/-! ## Times and values -/

namespace Calendar

theorem plain_padded (width n : Nat) : Plain (padded width n) := (plain_replicate _).append (plain_toDigits n)

theorem plain_yearText (y : Int) : Plain (yearText y) := by
  unfold yearText
  split
  · exact plain_padded 4 _
  · refine Plain.cons ?_ (plain_padded 4 _)
    split <;> rfl

theorem plain_dateText (d : Date) : Plain (dateText d) :=
  ((plain_yearText d.year).append (.cons rfl (plain_padded 2 d.month))).append (.cons rfl (plain_padded 2 d.day))

theorem plain_secondText (seconds : Int) : Plain (secondText seconds) :=
  (((plain_dateText _).append (.cons rfl (plain_padded 2 _))).append (.cons rfl (plain_padded 2 _))).append
    (.cons rfl (plain_padded 2 _))

theorem plain_stampMillis (ms : Int) : Plain (stampMillis ms).toList := by
  unfold stampMillis
  rw [String.toList_ofList]
  exact ((plain_secondText _).append (.cons rfl (plain_padded 3 _))).append (.cons rfl plain_nil)

end Calendar

namespace Decimal

theorem plain_digits (n : Nat) : Plain (digits n) := by
  unfold digits
  split
  · exact plain_nil
  · exact plain_toDigits n

/-- The zeros at the end of a fraction are dropped. -/
theorem plain_dropZeros {cs : List Char} (h : Plain cs) : Plain (cs.reverse.dropWhile (· = '0')).reverse :=
  (h.reverse.sublist (List.dropWhile_sublist _)).reverse

theorem plain_positional (n : Nat) (g : Int) : Plain (positional n g) := by
  have hds := plain_digits n
  unfold positional
  generalize digits n = ds at hds
  dsimp only
  split
  · split
    · exact .cons rfl plain_nil
    · exact hds.append (plain_replicate _)
  · split
    · have hwhole : Plain (ds.take (ds.length - (-g).toNat)) := hds.sublist (List.take_sublist _ _)
      split
      · exact hwhole
      · exact hwhole.append (.cons rfl (plain_dropZeros (hds.sublist (List.drop_sublist _ _))))
    · split
      · exact .cons rfl plain_nil
      · exact .cons rfl (.cons rfl (plain_dropZeros ((plain_replicate _).append hds)))

theorem plain_text (x : Binary64) : Plain (text x).toList := by
  unfold text
  split
  · decide
  · split <;> decide
  · next s m e _ =>
    dsimp only
    rw [String.toList_ofList]
    refine Plain.append ?_ (plain_positional _ _)
    split
    · exact .cons rfl plain_nil
    · exact plain_nil

end Decimal

theorem plain_valueText (x : Binary64) : Plain (valueText x).toList := by
  unfold valueText
  split
  · decide
  · split <;> decide
  · exact Decimal.plain_text x

namespace CopyText

variable {sep c : Char} {cs ds : List Char}

/-! ## One character -/

/-- What may stand behind a backslash that was written. -/
def letters : List Char := ['\\', 't', 'n', 'r']

theorem forall_letters {p : Char → Prop} : (∀ d ∈ letters, p d) ↔ p '\\' ∧ p 't' ∧ p 'n' ∧ p 'r' := by
  unfold letters
  rw [List.forall_mem_cons, List.forall_mem_cons, List.forall_mem_cons, List.forall_mem_singleton]

/-- A character is written as a backslash and a letter that stands for it, or as itself, and then it is none of four. -/
theorem escapeChar_cases (c : Char) :
    (∃ d ∈ letters, escapeChar c = ['\\', d] ∧ unescapeLetter d = c) ∨
      (escapeChar c = [c] ∧ c ≠ '\\' ∧ c ≠ '\t' ∧ c ≠ '\n' ∧ c ≠ '\r') := by
  unfold escapeChar
  split
  · next h => exact .inl ⟨'\\', by decide, rfl, h.symm⟩
  · split
    · next h => exact .inl ⟨'t', by decide, rfl, h.symm⟩
    · split
      · next h => exact .inl ⟨'n', by decide, rfl, h.symm⟩
      · split
        · next h => exact .inl ⟨'r', by decide, rfl, h.symm⟩
        · next hback htab hnewline hreturn => exact .inr ⟨rfl, hback, htab, hnewline, hreturn⟩

/-! ## Pieces -/

theorem consFirst_append (as bs : List Char) (ps : List (List Char)) : consFirst as (consFirst bs ps) = consFirst (as ++ bs) ps := by
  cases ps with
  | nil => rfl
  | cons p ps => exact congrArg (· :: ps) (List.append_assoc as bs p).symm

theorem consFirst_nil {ps : List (List Char)} (h : ps ≠ []) : consFirst [] ps = ps := by
  cases ps with
  | nil => exact absurd rfl h
  | cons p ps => rfl

theorem consFirst_ne_nil (cs : List Char) (ps : List (List Char)) : consFirst cs ps ≠ [] := by
  cases ps <;> exact List.cons_ne_nil _ _

theorem pieces_ne_nil (sep : Char) (cs : List Char) : pieces sep cs ≠ [] := by
  rw [pieces.eq_def]
  split
  · exact List.cons_ne_nil _ _
  · exact consFirst_ne_nil _ _
  · split
    · exact List.cons_ne_nil _ _
    · exact consFirst_ne_nil _ _

/-- A separator that no backslash stands before ends a piece. -/
theorem pieces_sep (hsep : sep ≠ '\\') (rest : List Char) : pieces sep (sep :: rest) = [] :: pieces sep rest := by
  rw [pieces.eq_3 sep sep rest fun _ _ h _ => hsep h, if_pos rfl]

/-- The characters stay in one piece, whatever follows them. -/
def Unbroken (sep : Char) (cs : List Char) : Prop := ∀ rest, pieces sep (cs ++ rest) = consFirst cs (pieces sep rest)

theorem unbroken_nil (sep : Char) : Unbroken sep [] := fun rest => (consFirst_nil (pieces_ne_nil sep rest)).symm

theorem Unbroken.append (h : Unbroken sep cs) (h' : Unbroken sep ds) : Unbroken sep (cs ++ ds) := by
  intro rest
  rw [List.append_assoc, h, h', consFirst_append]

theorem unbroken_single (hback : c ≠ '\\') (hsep : c ≠ sep) : Unbroken sep [c] := by
  intro rest
  rw [List.singleton_append, pieces.eq_3 sep c rest fun _ _ h _ => hback h, if_neg hsep]

theorem unbroken_pair (sep c : Char) : Unbroken sep ['\\', c] := fun rest => pieces.eq_2 sep c rest

/-- Whether a separator is one of the two of the format. -/
def IsSeparator (sep : Char) : Prop := sep = '\t' ∨ sep = '\n'

theorem unbroken_escapeChar (hsep : IsSeparator sep) (c : Char) : Unbroken sep (escapeChar c) := by
  rcases escapeChar_cases c with ⟨d, -, hc, -⟩ | ⟨hc, hback, htab, hnewline, -⟩
  · rw [hc]
    exact unbroken_pair sep d
  · rw [hc]
    rcases hsep with rfl | rfl
    · exact unbroken_single hback htab
    · exact unbroken_single hback hnewline

/-- No separator stands open in a field. -/
theorem unbroken_escape (hsep : IsSeparator sep) (cs : List Char) : Unbroken sep (escape cs) := by
  induction cs with
  | nil => exact unbroken_nil sep
  | cons c rest ih => exact (unbroken_escapeChar hsep c).append ih

/-! ## Contents -/

/-- The escape of a character stands for that character. -/
theorem unescapeAfter_escapeChar (c : Char) (rest : List Char) :
    unescapeAfter 0 (escapeChar c ++ rest) = c :: unescapeAfter 0 rest := by
  rcases escapeChar_cases c with ⟨d, hd, hc, hletter⟩ | ⟨hc, hback, -⟩
  · have hletters : ∀ d ∈ letters, isOctal d = false ∧ d ≠ 'x' := forall_letters.2 (by decide)
    have hcode := hletters d hd
    rw [hc, List.cons_append, List.singleton_append, unescapeAfter.eq_4, hcode.1, if_neg Bool.false_ne_true, if_neg hcode.2, hletter]
  · rw [hc, List.singleton_append, unescapeAfter.eq_5 c rest (fun h _ => hback h) fun _ _ h _ => hback h]

theorem unescape_escape (cs : List Char) : unescape (escape cs) = cs := by
  unfold unescape escape
  induction cs with
  | nil => rfl
  | cons c rest ih => rw [List.flatMap_cons, unescapeAfter_escapeChar, ih]

/-- Behind a backslash that an escape begins with stands one of four characters. -/
theorem second_of_escape {d : Char} {rest : List Char} (h : escape cs = '\\' :: d :: rest) : d ∈ letters := by
  cases cs with
  | nil => cases h
  | cons c more =>
    have hmore : escapeChar c ++ escape more = '\\' :: d :: rest := h
    rcases escapeChar_cases c with ⟨d', hd', hc, -⟩ | ⟨hc, hback, -⟩
    · rw [hc] at hmore
      obtain ⟨-, htail⟩ := List.cons.inj hmore
      rw [← (List.cons.inj htail).1]
      exact hd'
    · rw [hc] at hmore
      exact absurd (List.cons.inj hmore).1 hback

/-- A field that was written is no null, and its content is read back. -/
theorem field_escape (cs : List Char) : field (escape cs) = some cs := by
  unfold field
  rw [if_neg, unescape_escape]
  intro h
  exact absurd (second_of_escape h) (by decide)

/-- No newline stands in a field, and no carriage return. -/
theorem not_mem_escape (cs : List Char) : '\n' ∉ escape cs ∧ '\r' ∉ escape cs := by
  have hchar : ∀ c : Char, '\n' ∉ escapeChar c ∧ '\r' ∉ escapeChar c := by
    intro c
    rcases escapeChar_cases c with ⟨d, hd, hc, -⟩ | ⟨hc, -, -, hnewline, hreturn⟩
    · have hletters : ∀ d ∈ letters, '\n' ∉ ['\\', d] ∧ '\r' ∉ ['\\', d] := forall_letters.2 (by decide)
      rw [hc]
      exact hletters d hd
    · rw [hc, List.mem_singleton, List.mem_singleton]
      exact ⟨hnewline.symm, hreturn.symm⟩
  unfold escape
  constructor
  · intro h
    obtain ⟨c, -, hc⟩ := List.mem_flatMap.1 h
    exact (hchar c).1 hc
  · intro h
    obtain ⟨c, -, hc⟩ := List.mem_flatMap.1 h
    exact (hchar c).2 hc

/-! ## Records -/

/-- The line of a record, without its newline. -/
def record (fields : List (List Char)) : List Char := ['\t'].intercalate (fields.map escape)

theorem record_cons (f g : List Char) (more : List (List Char)) : record (f :: g :: more) = escape f ++ '\t' :: record (g :: more) := by
  unfold record
  rw [List.map_cons, List.map_cons, List.intercalate_cons_cons, List.append_assoc, List.singleton_append]

/-- A line is not broken by newlines. -/
theorem unbroken_record (f : List Char) (more : List (List Char)) : Unbroken '\n' (record (f :: more)) := by
  induction more generalizing f with
  | nil =>
    have hone : record [f] = escape f := List.intercalate_singleton
    rw [hone]
    exact unbroken_escape (.inr rfl) f
  | cons g more ih =>
    have htab : Unbroken '\n' ['\t'] := unbroken_single (by decide) (by decide)
    rw [record_cons]
    exact (unbroken_escape (.inr rfl) f).append (htab.append (ih g))

/-- The fields of a line are those that were written. -/
theorem pieces_record (f : List Char) (more : List (List Char)) : pieces '\t' (record (f :: more)) = (f :: more).map escape := by
  induction more generalizing f with
  | nil =>
    have hone : record [f] = escape f ++ [] := by rw [List.append_nil]; exact List.intercalate_singleton
    rw [hone, unbroken_escape (.inl rfl) f []]
    exact congrArg (· :: []) (List.append_nil _)
  | cons g more ih =>
    rw [record_cons, unbroken_escape (.inl rfl) f, pieces_sep (by decide), ih]
    exact congrArg (· :: (g :: more).map escape) (List.append_nil _)

/-- A line of two fields or more is not the end marker. -/
theorem record_ne_end (f g : List Char) (more : List (List Char)) : record (f :: g :: more) ≠ ['\\', '.'] := by
  intro h
  have htab : '\t' ∈ record (f :: g :: more) := by
    rw [record_cons]
    exact List.mem_append_right _ List.mem_cons_self
  rw [h] at htab
  exact absurd htab (by decide)

/-- The lines of some records are told apart. -/
theorem lines_records {records : List (List (List Char))} (h : ∀ fields ∈ records, fields ≠ []) :
    lines (records.flatMap fun fields => record fields ++ ['\n']) = records.map record := by
  have hpieces : pieces '\n' (records.flatMap fun fields => record fields ++ ['\n']) = records.map record ++ [[]] := by
    induction records with
    | nil => rfl
    | cons fields rest ih =>
      obtain ⟨f, more, rfl⟩ := List.exists_cons_of_ne_nil (h fields List.mem_cons_self)
      rw [List.flatMap_cons, List.append_assoc, unbroken_record f more, List.singleton_append, pieces_sep (by decide),
        ih fun fields hf => h fields (List.mem_cons_of_mem _ hf)]
      exact congrArg (· :: _) (List.append_nil _)
  unfold lines
  rw [hpieces]
  dsimp only
  rw [List.getLast?_concat, if_pos rfl, List.dropLast_concat]

/-- Records of two fields or more are read back from their lines. -/
theorem read_records {records : List (List (List Char))} (h : ∀ fields ∈ records, ∃ f g more, fields = f :: g :: more) :
    read (records.flatMap fun fields => record fields ++ ['\n']) = records.map fun fields => fields.map some := by
  have hlines : lines (records.flatMap fun fields => record fields ++ ['\n']) = records.map record := by
    refine lines_records fun fields hf => ?_
    obtain ⟨f, g, more, rfl⟩ := h fields hf
    exact List.cons_ne_nil f _
  have hall : (records.map record).takeWhile (fun l => l ≠ ['\\', '.']) = records.map record := by
    rw [List.takeWhile_eq_self_iff]
    intro l hl
    obtain ⟨fields, hf, rfl⟩ := List.mem_map.1 hl
    obtain ⟨f, g, more, rfl⟩ := h fields hf
    exact decide_eq_true (record_ne_end f g more)
  unfold read
  rw [hlines, hall, List.map_map]
  refine List.map_congr_left fun fields hf => ?_
  obtain ⟨f, g, more, rfl⟩ := h fields hf
  rw [Function.comp_apply, pieces_record, List.map_map]
  exact List.map_congr_left fun cs _ => field_escape cs

end CopyText

namespace StagedRow

/-- The line of a row is the record of its four fields. -/
theorem toList_copyLine (r : StagedRow) : r.copyLine.toList = record (r.copyFields.map String.toList) ++ ['\n'] := by
  have htime := (Calendar.plain_stampMillis r.time.millis).escape_eq
  have hvalue := (plain_valueText r.value).escape_eq
  unfold copyLine copyFields record
  generalize Calendar.stampMillis r.time.millis = time at htime
  generalize valueText r.value = value at hvalue
  simp only [String.toList_append, String.toList_ofList, List.map_cons, List.map_nil, List.intercalate_cons_cons,
    List.intercalate_singleton, htime, hvalue, List.append_assoc]
  rfl

/-- Rows are read back from their lines: one record for each row, in order, with time, value, metric name and labels as they were,
none of them null. And no line holds a newline or a carriage return inside its four fields. -/
theorem read_copyLines (rows : List StagedRow) :
    CopyText.read (String.join (rows.map copyLine)).toList = rows.map (fun r =>
        [some (Calendar.stampMillis r.time.millis).toList, some (valueText r.value).toList, some r.labelSet.metricName.toList,
          some r.labelSet.labels.toList]) ∧
      ∀ r ∈ rows, ∃ raw : List (List Char), raw.length = 4 ∧ r.copyLine.toList = ['\t'].intercalate raw ++ ['\n'] ∧
        ∀ f ∈ raw, '\n' ∉ f ∧ '\r' ∉ f := by
  refine ⟨?_, fun r _ => ⟨(r.copyFields.map String.toList).map escape, rfl, r.toList_copyLine, ?_⟩⟩
  · have hfields : ∀ fields ∈ rows.map (fun r => r.copyFields.map String.toList), ∃ f g more, fields = f :: g :: more := by
      intro fields hf
      obtain ⟨r, -, rfl⟩ := List.mem_map.1 hf
      exact ⟨_, _, _, rfl⟩
    have hlines : (String.join (rows.map copyLine)).toList =
        (rows.map fun r => r.copyFields.map String.toList).flatMap fun fields => record fields ++ ['\n'] := by
      rw [String.toList_join, List.flatMap_map, List.flatMap_map]
      exact congrArg (rows.flatMap ·) (funext toList_copyLine)
    rw [hlines, read_records hfields, List.map_map]
    rfl
  · intro f hf
    obtain ⟨cs, -, rfl⟩ := List.mem_map.1 hf
    exact not_mem_escape cs

end StagedRow

end Intake
