import Mathlib.Data.List.Infix
import Mathlib.Data.List.TakeWhile
import Intake.Postgres.RelationName
import Intake.Postgres.SqlToken
import Intake.Proofs.Postgres.RelationName
import Intake.Proofs.Postgres.Statements

/-!
# SQL tokens: what a table prefix can change

The statements are put together from fixed texts and from names that begin with the prefix. A fixed text in front of a name is quiet: it
has words, brackets, commas and points only and ends in a blank, so its tokens are the same whatever comes behind it (`lexesTo_append`).
A name that begins with a plain identifier is one word if a blank comes behind it (`lexesTo_name`). So another prefix changes the names
and nothing else (`prefix_renames_relations`).
-/

namespace Intake

namespace SqlToken

/-! ## Splitting -/

/-- Some characters have these tokens, with as many turns as there are characters or more. -/
def LexesTo (cs : List Char) (ts : List SqlToken) : Prop := ∀ turns, cs.length ≤ turns → split turns cs = some ts

variable {c : Char} {cs front back text a b : List Char} {t : SqlToken} {ts us : List SqlToken}

/-- More turns than needed do not matter. -/
theorem split_mono {n m : Nat} (h : split n cs = some ts) (hnm : n ≤ m) : split m cs = some ts := by
  induction n generalizing m cs ts with
  | zero =>
    cases cs with
    | nil => simpa only [split] using h
    | cons c cs => simp only [split, reduceCtorEq] at h
  | succ n ih =>
    cases cs with
    | nil => simpa only [split] using h
    | cons c cs =>
      obtain ⟨m, rfl⟩ := Nat.exists_eq_add_of_le' (Nat.lt_of_lt_of_le n.succ_pos hnm)
      have hle : n ≤ m := by omega
      have hrest : ∀ {rest : List Char} {us : List SqlToken}, split n rest = some us → split m rest = some us := fun h => ih h hle
      rw [split] at h ⊢
      split at h
      · next hblank => rw [if_pos hblank]; exact hrest h
      · next hblank =>
        rw [if_neg hblank]
        split at h
        · next hline => rw [if_pos hline]; exact hrest h
        · next hline =>
          rw [if_neg hline]
          split at h
          · next hblock =>
            rw [if_pos hblock]
            obtain ⟨rest, hafter, h⟩ := Option.bind_eq_some_iff.1 h
            exact Option.bind_eq_some_iff.2 ⟨rest, hafter, hrest h⟩
          · next hblock =>
            rw [if_neg hblock]
            obtain ⟨first, hfirst, h⟩ := Option.bind_eq_some_iff.1 h
            obtain ⟨us, hus, rfl⟩ := Option.map_eq_some_iff.1 h
            exact Option.bind_eq_some_iff.2 ⟨first, hfirst, Option.map_eq_some_iff.2 ⟨us, hrest hus, rfl⟩⟩

theorem lexesTo_of_split (h : split cs.length cs = some ts) : LexesTo cs ts := fun _ hle => split_mono h hle

theorem LexesTo.ofText? {sql : String} (h : LexesTo sql.toList ts) : ofText? sql = some ts := h _ (Nat.le_refl _)

theorem lexesTo_nil : LexesTo [] [] := lexesTo_of_split rfl

theorem lexesTo_blank (hblank : isBlank c = true) (h : LexesTo cs ts) : LexesTo (c :: cs) ts := by
  intro turns hle
  rw [List.length_cons] at hle
  obtain ⟨n, rfl⟩ := Nat.exists_eq_add_of_le' (Nat.lt_of_lt_of_le cs.length.succ_pos hle)
  rw [split, if_pos hblank]
  exact h n (by omega)

/-- Characters that begin with no blank and no comment are split behind their first token. -/
theorem split_first (hblank : isBlank c = false) (hdash : c ≠ '-') (hslash : c ≠ '/') (turns : Nat) :
    split (turns + 1) (c :: cs) = (first? (c :: cs)).bind fun t => (split turns t.2).map (t.1 :: ·) := by
  have hline : beginsLineComment (c :: cs) = false := by simp [beginsLineComment, List.isPrefixOf, hdash.symm]
  have hblock : beginsBlockComment (c :: cs) = false := by simp [beginsBlockComment, List.isPrefixOf, hslash.symm]
  rw [split, hblank, hline, hblock]
  rfl

theorem lexesTo_first {rest : List Char} (hblank : isBlank c = false) (hdash : c ≠ '-') (hslash : c ≠ '/')
    (hfirst : first? (c :: cs) = some (t, rest)) (hrest : rest.length ≤ cs.length) (h : LexesTo rest ts) :
    LexesTo (c :: cs) (t :: ts) := by
  intro turns hle
  rw [List.length_cons] at hle
  obtain ⟨n, rfl⟩ := Nat.exists_eq_add_of_le' (Nat.lt_of_lt_of_le cs.length.succ_pos hle)
  rw [split_first hblank hdash hslash, hfirst, Option.bind_some, h n (by omega), Option.map_some]

/-! ## Words -/

/-- A character in the openings of quotes that is in no word. -/
def isQuoteMark (c : Char) : Bool := c = '\'' || c = '"' || c = '&'

/-- Of a kind that has no quote mark no character is one. -/
theorem not_isQuoteMark {p : Char → Bool} (hp : p '\'' = false ∧ p '"' = false ∧ p '&' = false) (h : p c = true) :
    isQuoteMark c = false := by
  rw [Bool.eq_false_iff]
  intro hquote
  simp only [isQuoteMark, Bool.or_eq_true, decide_eq_true_eq] at hquote
  rcases hquote with (rfl | rfl) | rfl
  · exact Bool.false_ne_true (hp.1.symm.trans h)
  · exact Bool.false_ne_true (hp.2.1.symm.trans h)
  · exact Bool.false_ne_true (hp.2.2.symm.trans h)

/-- Every opening of quotes has such a character among its first two. -/
theorem no_opening (h : ∀ c ∈ cs.take 2, isQuoteMark c = false) : openings.find? (·.isPrefixOf cs) = none := by
  rw [List.find?_eq_none]
  intro opening hopening hprefix
  have hmark : ∀ opening ∈ openings, (opening.take 2).any isQuoteMark = true := by decide
  obtain ⟨c, hc, hquote⟩ := List.any_eq_true.1 (hmark opening hopening)
  have hmem : c ∈ cs.take 2 := (List.IsPrefix.take (List.isPrefixOf_iff_prefix.1 hprefix) 2).subset hc
  rw [h c hmem] at hquote
  cases hquote

theorem not_isQuoteMark_of_isWordPart (h : isWordPart c = true) : isQuoteMark c = false :=
  not_isQuoteMark (p := isWordPart) (by decide) h

theorem isWordPart_of_isWordStart (h : isWordStart c = true) : isWordPart c = true := by simp [isWordPart, h]

/-- A character that ends a word, and of which no word becomes the opening of quotes. -/
def endsWord (c : Char) : Bool := !isWordPart c && !isQuoteMark c

/-- The first two characters of a word and of what ends it are no quotes. -/
theorem no_quoteMark (hpart : ∀ c ∈ text, isWordPart c = true) (hnext : ∀ c ∈ back.head?, endsWord c = true) (hne : text ≠ []) :
    ∀ c ∈ (text ++ back).take 2, isQuoteMark c = false := by
  intro c hc
  rw [List.take_append, List.mem_append] at hc
  obtain hc | hc := hc
  · exact not_isQuoteMark_of_isWordPart (hpart c (List.mem_of_mem_take hc))
  · have hlen : 2 - text.length ≤ 1 := by
      have := List.length_pos_iff.2 hne
      omega
    have hone : c ∈ back.take 1 := (List.take_prefix_take_left hlen).subset hc
    rw [List.take_one, Option.mem_toList] at hone
    have hends := hnext c hone
    rw [endsWord, Bool.and_eq_true, Bool.not_eq_true', Bool.not_eq_true'] at hends
    exact hends.2

/-- A word goes as far as it can. -/
theorem first?_word (hstart : isWordStart c = true) (hpart : ∀ d ∈ text, isWordPart d = true)
    (hnext : ∀ d ∈ back.head?, endsWord d = true) : first? (c :: (text ++ back)) = some (.word (c :: text), back) := by
  have hparts : ∀ d ∈ c :: text, isWordPart d = true := by
    intro d hd
    obtain rfl | hd := List.mem_cons.1 hd
    · exact isWordPart_of_isWordStart hstart
    · exact hpart d hd
  have htake : back.takeWhile isWordPart = [] := by
    cases back with
    | nil => rfl
    | cons d ds =>
      have hends := hnext d rfl
      rw [endsWord, Bool.and_eq_true, Bool.not_eq_true'] at hends
      exact List.takeWhile_cons_of_neg (by simp [hends.1])
  have hrun : (text ++ back).takeWhile isWordPart = text := by
    rw [List.takeWhile_append_of_pos hpart, htake, List.append_nil]
  have hno : openings.find? (·.isPrefixOf (c :: (text ++ back))) = none :=
    no_opening (no_quoteMark hparts hnext (List.cons_ne_nil c text))
  rw [first?, hno]
  simp only [hstart, if_true, hrun, List.drop_left]

/-- Neither a blank nor a comment begins like a word. -/
theorem not_blank_of_isWordStart (hstart : isWordStart c = true) : isBlank c = false ∧ c ≠ '-' ∧ c ≠ '/' := by
  have hne : ∀ d, isWordStart d = false → c ≠ d := by
    rintro d hd rfl
    rw [hstart] at hd
    cases hd
  refine ⟨?_, hne '-' (by decide), hne '/' (by decide)⟩
  rw [Bool.eq_false_iff]
  intro hblank
  simp only [isBlank, isLineBreak, Bool.or_eq_true, decide_eq_true_eq] at hblank
  rcases hblank with (((hc | hc) | hc | hc) | hc) | hc
  all_goals exact hne _ (by decide) hc

theorem lexesTo_word (hstart : isWordStart c = true) (hpart : ∀ d ∈ text, isWordPart d = true)
    (hnext : ∀ d ∈ back.head?, endsWord d = true) (h : LexesTo back ts) : LexesTo (c :: text ++ back) (.word (c :: text) :: ts) := by
  obtain ⟨hblank, hdash, hslash⟩ := not_blank_of_isWordStart hstart
  exact lexesTo_first hblank hdash hslash (first?_word hstart hpart hnext) (by simp) h

/-- Characters that begin like a word have tokens. -/
theorem ne_nil_of_lexesTo (h : LexesTo (c :: cs) ts) (hstart : isWordStart c = true) : ts ≠ [] := by
  obtain ⟨hblank, hdash, hslash⟩ := not_blank_of_isWordStart hstart
  have hsplit := h (cs.length + 1) (Nat.le_refl _)
  rw [split_first hblank hdash hslash] at hsplit
  obtain ⟨first, -, hsplit⟩ := Option.bind_eq_some_iff.1 hsplit
  obtain ⟨us, -, rfl⟩ := Option.map_eq_some_iff.1 hsplit
  exact List.cons_ne_nil first.1 us

/-! ## Quiet texts -/

/-- The blank, brackets, comma and point. -/
def quietMarks : List Char := [' ', '(', ')', ',', '.']

/-- A character of words, or one of these. -/
def isQuiet (c : Char) : Bool := c.isAlpha || c = '_' || quietMarks.contains c

/-- Quiet characters, with a blank at the end. -/
def IsFront (cs : List Char) : Prop := (cs.all isQuiet && (cs.getLast?.all fun c => c = ' ')) = true

instance (cs : List Char) : Decidable (IsFront cs) := inferInstanceAs (Decidable (_ = true))

theorem isFront_iff : IsFront cs ↔ (∀ c ∈ cs, isQuiet c = true) ∧ ∀ c ∈ cs.getLast?, c = ' ' := by
  rw [IsFront, Bool.and_eq_true, List.all_eq_true, Option.all_eq_true]
  simp only [decide_eq_true_eq, Option.mem_def]

theorem IsFront.quiet (h : IsFront cs) : ∀ c ∈ cs, isQuiet c = true := (isFront_iff.1 h).1

theorem IsFront.suffix (h : IsFront cs) (hsuffix : back <:+ cs) : IsFront back := by
  obtain ⟨hquiet, hlast⟩ := isFront_iff.1 h
  refine isFront_iff.2 ⟨fun c hc => hquiet c (hsuffix.subset hc), fun c hc => hlast c ?_⟩
  obtain ⟨before, rfl⟩ := hsuffix
  rw [List.getLast?_append, hc]
  rfl

theorem IsFront.blank_mem (h : IsFront (c :: cs)) (hc : c ≠ ' ') : ' ' ∈ cs := by
  have hlast := (isFront_iff.1 h).2 _ (List.getLast?_eq_some_getLast (List.cons_ne_nil c cs))
  have hmem := List.getLast_mem (List.cons_ne_nil c cs)
  rw [hlast] at hmem
  obtain heq | hmem := List.mem_cons.1 hmem
  · exact absurd heq.symm hc
  · exact hmem

theorem not_isQuoteMark_of_isQuiet (h : isQuiet c = true) : isQuoteMark c = false := not_isQuoteMark (p := isQuiet) (by decide) h

theorem quietMark_spec (h : c ∈ quietMarks) : c.isDigit = false ∧ c ≠ '$' ∧ isOperatorChar c = false := by
  have hmarks : quietMarks.all (fun c => !c.isDigit && (c ≠ '$' && !isOperatorChar c)) = true := by decide
  simpa using List.all_eq_true.1 hmarks c h

theorem not_isDigit_of_isQuiet (h : isQuiet c = true) : c.isDigit = false := by
  have hkind : (((c.isUpper || c.isLower) || decide (c = '_')) || quietMarks.contains c) = true := h
  rw [Bool.or_eq_true, Bool.or_eq_true, Bool.or_eq_true, decide_eq_true_eq, List.contains_iff_mem] at hkind
  rcases hkind with ((hupper | hlower) | rfl) | hmem
  · have hge : 65 ≤ c.toNat := (of_decide_eq_true (p := 65 ≤ c.val ∧ c.val ≤ 90) hupper).1
    exact Bool.eq_false_iff.2 fun hdigit => absurd (Nat.le_trans hge (Char.isDigit_iff_toNat.1 hdigit).2) (by decide)
  · have hge : 97 ≤ c.toNat := of_decide_eq_true (Bool.and_eq_true_iff.1 hlower).1
    exact Bool.eq_false_iff.2 fun hdigit => absurd (Nat.le_trans hge (Char.isDigit_iff_toNat.1 hdigit).2) (by decide)
  · rfl
  · exact (quietMark_spec hmem).1

/-- A quiet character that is in no word is one of five. -/
theorem mem_of_isQuiet (h : isQuiet c = true) (hword : isWordStart c = false) : c ∈ quietMarks := by
  rw [isWordStart, Bool.or_eq_false_iff] at hword
  rw [isQuiet, hword.1, Bool.false_or] at h
  simpa using h

/-- A quiet mark is found by two characters. -/
theorem first?_mark {d : Char} (hword : isWordStart c = false) (hc : isQuiet c = true) (hd : isQuiet d = true) :
    first? (c :: d :: cs) = (marks.find? (·.isPrefixOf [c, d])).map fun m => (.mark m, (c :: d :: cs).drop m.length) := by
  have hno : openings.find? (·.isPrefixOf (c :: d :: cs)) = none :=
    no_opening (by simp [not_isQuoteMark_of_isQuiet hc, not_isQuoteMark_of_isQuiet hd])
  have hmarks : marks.find? (·.isPrefixOf (c :: d :: cs)) = marks.find? (·.isPrefixOf [c, d]) := by
    simp [marks, List.find?, List.isPrefixOf]
  obtain ⟨hdigit, hdollar, hoperator⟩ := quietMark_spec (mem_of_isQuiet hc hword)
  have hstarts : startsNumber (c :: d :: cs) = false := by
    simp [startsNumber, hdigit, not_isDigit_of_isQuiet hd]
  rw [first?, hno]
  simp only [hword, hstarts, hoperator, hdollar, hmarks, Bool.false_eq_true, if_false]

/-- A text is a word, or nothing, and what the word does not go on with. -/
theorem exists_word (cs : List Char) :
    ∃ word rest, cs = word ++ rest ∧ (∀ c ∈ word, isWordPart c = true) ∧ ∀ c ∈ rest.head?, isWordPart c = false := by
  refine ⟨cs.takeWhile isWordPart, cs.dropWhile isWordPart, List.takeWhile_append_dropWhile.symm,
    fun c hc => List.mem_takeWhile_imp hc, fun c hc => ?_⟩
  have hnot := List.head?_dropWhile_not isWordPart cs
  rw [hc] at hnot
  simpa using hnot

/-- The first token of a front is the same whatever comes behind the front. -/
theorem first?_append {rest : List Char} (back : List Char) (hfront : IsFront (c :: cs)) (hc : c ≠ ' ')
    (hfirst : first? (c :: cs) = some (t, rest)) : first? (c :: (cs ++ back)) = some (t, rest ++ back) ∧ rest <:+ cs := by
  have hquiet : ∀ d ∈ cs, isQuiet d = true := fun d hd => hfront.quiet d (List.mem_cons_of_mem c hd)
  cases hstart : isWordStart c with
  | true =>
    obtain ⟨word, after, rfl, hparts, hnext⟩ := exists_word cs
    have hends : ∀ d ∈ after.head?, endsWord d = true := by
      intro d hd
      rw [endsWord, hnext d hd, not_isQuoteMark_of_isQuiet (hquiet d (List.mem_append_right word (List.mem_of_mem_head? hd)))]
      rfl
    rw [first?_word hstart hparts hends] at hfirst
    obtain ⟨rfl, rfl⟩ := Prod.mk.inj (Option.some.inj hfirst)
    refine ⟨?_, List.suffix_append word after⟩
    -- the front ends in a blank, so something of it is left behind the word
    have hafter : after ≠ [] := by
      rintro rfl
      have hblank := hfront.blank_mem hc
      rw [List.append_nil] at hblank
      exact absurd (hparts ' ' hblank) (by decide)
    rw [List.append_assoc]
    refine first?_word hstart hparts ?_
    rwa [List.head?_append_of_ne_nil after hafter]
  | false =>
    obtain ⟨d, cs, rfl⟩ := List.exists_cons_of_ne_nil (List.ne_nil_of_mem (hfront.blank_mem hc))
    have hd := hquiet d List.mem_cons_self
    have hmark : ∀ more : List Char, first? (c :: d :: more) =
        (marks.find? (·.isPrefixOf [c, d])).map fun m => (.mark m, (c :: d :: more).drop m.length) :=
      fun more => first?_mark hstart (hfront.quiet c List.mem_cons_self) hd
    rw [hmark] at hfirst
    obtain ⟨m, hm, hfirst⟩ := Option.map_eq_some_iff.1 hfirst
    obtain ⟨rfl, rfl⟩ := Prod.mk.inj hfirst
    have hlen : ∀ m ∈ marks, 1 ≤ m.length ∧ m.length ≤ 2 := by decide
    obtain ⟨hpos, htwo⟩ := hlen m (List.mem_of_find?_eq_some hm)
    obtain ⟨k, hk⟩ := Nat.exists_eq_add_of_le' hpos
    have hdrop : ∀ more : List Char, (c :: d :: more).drop m.length = (d :: more).drop k := by
      intro more
      rw [hk, List.drop_succ_cons]
    rw [List.cons_append, hmark, hm, Option.map_some, hdrop, hdrop, ← List.cons_append,
      List.drop_append_of_le_length (by rw [List.length_cons]; omega)]
    exact ⟨rfl, List.drop_suffix k (d :: cs)⟩

/-- The tokens of a front are the same whatever comes behind it. -/
theorem lexesTo_append {n : Nat} (hfront : IsFront front) (hsplit : split n front = some ts) (h : LexesTo back us) :
    LexesTo (front ++ back) (ts ++ us) := by
  induction n generalizing front ts with
  | zero =>
    cases front with
    | nil =>
      simp only [split, Option.some.injEq] at hsplit
      subst hsplit
      exact h
    | cons c cs => simp only [split, reduceCtorEq] at hsplit
  | succ n ih =>
    cases front with
    | nil =>
      simp only [split, Option.some.injEq] at hsplit
      subst hsplit
      exact h
    | cons c cs =>
      rw [List.cons_append]
      have hcs : IsFront cs := hfront.suffix (List.suffix_cons c cs)
      have hkind : ∀ d, isQuiet d = false → c ≠ d := by
        rintro d hd rfl
        rw [hfront.quiet c List.mem_cons_self] at hd
        cases hd
      cases hblank : isBlank c with
      | true =>
        rw [split, if_pos hblank] at hsplit
        exact lexesTo_blank hblank (ih hcs hsplit)
      | false =>
        have hc : c ≠ ' ' := by
          rintro rfl
          cases hblank
        rw [split_first hblank (hkind '-' (by decide)) (hkind '/' (by decide))] at hsplit
        obtain ⟨⟨t, rest⟩, hfirst, hsplit⟩ := Option.bind_eq_some_iff.1 hsplit
        obtain ⟨vs, hvs, rfl⟩ := Option.map_eq_some_iff.1 hsplit
        obtain ⟨hfirst, hsuffix⟩ := first?_append back hfront hc hfirst
        have hle : (rest ++ back).length ≤ (cs ++ back).length := by
          rw [List.length_append, List.length_append]
          exact Nat.add_le_add_right hsuffix.length_le _
        rw [List.cons_append]
        exact lexesTo_first hblank (hkind '-' (by decide)) (hkind '/' (by decide)) hfirst hle (ih (hcs.suffix hsuffix) hvs)

/-! ## Names -/

theorem isWordStart_of_isIdentifierStart (h : isIdentifierStart c = true) : isWordStart c = true := by
  rw [isWordStart]
  exact Bool.or_eq_true_iff.2 (.inl h)

theorem isWordPart_of_isIdentifierPart (h : isIdentifierPart c = true) : isWordPart c = true := by
  have hkind : ((c.isAlpha || c.isDigit) || decide (c = '_')) = true := h
  rw [Bool.or_eq_true, Bool.or_eq_true] at hkind
  rw [isWordPart, isWordStart]
  simp only [Bool.or_eq_true]
  tauto

/-- A plain identifier with a blank behind it, or nothing, is one word. -/
theorem lexesTo_name {name : String} (hname : isPlainIdentifier name = true) (hnext : ∀ c ∈ back.head?, c = ' ') (h : LexesTo back ts) :
    LexesTo (name.toList ++ back) (.word name.toList :: ts) := by
  have hparts := all_of_isPlainIdentifier hname
  unfold isPlainIdentifier at hname
  split at hname
  · cases hname
  · next c cs hlist =>
    rw [Bool.and_eq_true] at hname
    rw [hlist] at hparts ⊢
    refine lexesTo_word (isWordStart_of_isIdentifierStart hname.1)
      (fun d hd => isWordPart_of_isIdentifierPart (hparts d (List.mem_cons_of_mem c hd))) (fun d hd => ?_) h
    rw [hnext d hd]
    decide

/-- A plain identifier stays one with more characters of that kind. -/
theorem isPlainIdentifier_append {table suffix : String} (h : isPlainIdentifier table = true)
    (hsuffix : suffix.toList.all isIdentifierPart = true) : isPlainIdentifier (table ++ suffix) = true := by
  unfold isPlainIdentifier at h ⊢
  split at h
  · cases h
  · next c cs hlist =>
    rw [Bool.and_eq_true] at h
    rw [String.toList_append, hlist]
    simp only [List.cons_append, List.all_append, h.1, h.2, hsuffix, Bool.and_self]

/-- The relations of the service. -/
def relations : List (String → String) := [stagingTable, labelsTable, valuesTable]

theorem stagingTable_mem : stagingTable ∈ relations := .head _

theorem labelsTable_mem : labelsTable ∈ relations := .tail _ (.head _)

theorem valuesTable_mem : valuesTable ∈ relations := .tail _ (.tail _ (.head _))

/-- What stands behind the prefix in the names of the relations. -/
def suffixes : List String := ["_tmp", "_labels", "_values"]

theorem exists_suffix {relation : String → String} (h : relation ∈ relations) :
    ∃ suffix ∈ suffixes, ∀ table, relation table = table ++ suffix := by
  simp only [relations, List.mem_cons, List.not_mem_nil, or_false] at h
  rcases h with rfl | rfl | rfl
  · exact ⟨"_tmp", by decide, fun _ => rfl⟩
  · exact ⟨"_labels", by decide, fun _ => rfl⟩
  · exact ⟨"_values", by decide, fun _ => rfl⟩

theorem isPlainIdentifier_relation {relation : String → String} (h : relation ∈ relations) {table : String}
    (htable : isPlainIdentifier table = true) : isPlainIdentifier (relation table) = true := by
  obtain ⟨suffix, hsuffix, heq⟩ := exists_suffix h
  have hall : ∀ suffix ∈ suffixes, suffix.toList.all isIdentifierPart = true := by decide +kernel
  rw [heq]
  exact isPlainIdentifier_append htable (hall suffix hsuffix)

/-! ## Two prefixes -/

/-- The relation that a token names, where the table prefix is `metrics`. -/
def relation? : SqlToken → Option (String → String)
  | .word text => relations.find? fun relation => (relation "metrics").toList = text
  | _ => none

/-- The token with another table prefix: only the names of the relations change. -/
def renamed (table : String) (t : SqlToken) : SqlToken :=
  match t.relation? with
  | some relation => .word (relation table).toList
  | none => t

theorem relation?_word {relation : String → String} (h : relation ∈ relations) :
    relation? (.word (relation "metrics").toList) = some relation := by
  have htmp_labels : (stagingTable "metrics").toList ≠ (labelsTable "metrics").toList := by decide +kernel
  have htmp_values : (stagingTable "metrics").toList ≠ (valuesTable "metrics").toList := by decide +kernel
  have hlabels_values : (labelsTable "metrics").toList ≠ (valuesTable "metrics").toList := by decide +kernel
  simp only [relations, List.mem_cons, List.not_mem_nil, or_false] at h
  rcases h with rfl | rfl | rfl
  · simp [relation?, relations]
  · simp [relation?, relations, List.find?, htmp_labels]
  · simp [relation?, relations, List.find?, htmp_values, hlabels_values]

theorem renamed_word {relation : String → String} (h : relation ∈ relations) (table : String) :
    renamed table (.word (relation "metrics").toList) = .word (relation table).toList := by
  rw [renamed, relation?_word h]

/-- A token that is the same for every table prefix and ends no statement. -/
def isFixed (t : SqlToken) : Bool := t.relation?.isNone && t ≠ .mark [';']

theorem map_renamed_of_fixed (h : ts.all isFixed = true) (table : String) : ts.map (renamed table) = ts := by
  have hself : ∀ t ∈ ts, renamed table t = t := by
    intro t ht
    have hfixed := List.all_eq_true.1 h t ht
    rw [isFixed, Bool.and_eq_true, Option.isNone_iff_eq_none] at hfixed
    rw [renamed, hfixed.1]
  rw [List.map_congr_left hself, List.map_id']

theorem no_semicolon_of_fixed (h : ts.all isFixed = true) : .mark [';'] ∉ ts := by
  intro hmem
  have hfixed := List.all_eq_true.1 h _ hmem
  simp [isFixed] at hfixed

/-- Two texts with tokens that differ in the names of the relations only, and are one statement. -/
def Alike (table : String) (a b : List Char) : Prop :=
  ∃ ts, LexesTo a ts ∧ LexesTo b (ts.map (renamed table)) ∧ .mark [';'] ∉ ts

variable {table : String}

theorem alike_front {text : String} (hcs : text.toList = cs)
    (hfixed : IsFront cs ∧ (split cs.length cs).any (·.all isFixed) = true) (h : Alike table a b) :
    Alike table (text.toList ++ a) (text.toList ++ b) := by
  obtain ⟨hfront, hany⟩ := hfixed
  obtain ⟨fs, hfs, hall⟩ := (Option.any_eq_true _ _).1 hany
  obtain ⟨ts, ha, hb, hsemicolon⟩ := h
  subst hcs
  refine ⟨fs ++ ts, lexesTo_append hfront hfs ha, ?_, ?_⟩
  · rw [List.map_append, map_renamed_of_fixed hall]
    exact lexesTo_append hfront hfs hb
  · rw [List.mem_append, not_or]
    exact ⟨no_semicolon_of_fixed hall, hsemicolon⟩

/-- A blank comes first, or nothing. -/
def BlankAhead (cs : List Char) : Prop := ∀ c ∈ cs.head?, c = ' '

theorem blankAhead_nil : BlankAhead [] := fun _ hc => nomatch hc

theorem blankAhead_append {text : String} (hcs : text.toList = ' ' :: cs) (more : List Char) : BlankAhead (text.toList ++ more) := by
  intro c hc
  rw [hcs] at hc
  exact (Option.some.inj hc).symm

theorem blankAhead_text {text : String} (hcs : text.toList = ' ' :: cs) : BlankAhead text.toList := by
  rw [← List.append_nil text.toList]
  exact blankAhead_append hcs []

theorem alike_name {relation : String → String} (hrelation : relation ∈ relations) (htable : isPlainIdentifier table = true)
    (ha : BlankAhead a) (hb : BlankAhead b) (h : Alike table a b) :
    Alike table ((relation "metrics").toList ++ a) ((relation table).toList ++ b) := by
  obtain ⟨ts, hats, hbts, hsemicolon⟩ := h
  refine ⟨.word (relation "metrics").toList :: ts,
    lexesTo_name (isPlainIdentifier_relation hrelation (by decide)) ha hats, ?_, by simpa using hsemicolon⟩
  rw [List.map_cons, renamed_word hrelation]
  exact lexesTo_name (isPlainIdentifier_relation hrelation htable) hb hbts

theorem alike_back {text : String} (hcs : text.toList = cs) (hfixed : (split cs.length cs).any (·.all isFixed) = true) :
    Alike table text.toList text.toList := by
  obtain ⟨ts, hts, hall⟩ := (Option.any_eq_true _ _).1 hfixed
  subst hcs
  refine ⟨ts, lexesTo_of_split hts, ?_, no_semicolon_of_fixed hall⟩
  rw [map_renamed_of_fixed hall]
  exact lexesTo_of_split hts

theorem alike_nil : Alike table [] [] := ⟨[], lexesTo_nil, lexesTo_nil, List.not_mem_nil⟩

/-! ## The statements of a batch -/

theorem alike_createStaging (htable : isPlainIdentifier table = true) :
    Alike table (Statements.ofTable "metrics").createStaging.toList (Statements.ofTable table).createStaging.toList := by
  unfold Statements.ofTable
  simp only [String.toList_append, List.append_assoc]
  refine alike_front String.toList_ofList (by decide +kernel) ?_
  refine alike_name stagingTable_mem htable (blankAhead_text String.toList_ofList) (blankAhead_text String.toList_ofList) ?_
  exact alike_back String.toList_ofList (by decide +kernel)

theorem alike_copyStaging (htable : isPlainIdentifier table = true) :
    Alike table (Statements.ofTable "metrics").copyStaging.toList (Statements.ofTable table).copyStaging.toList := by
  unfold Statements.ofTable
  simp only [String.toList_append, List.append_assoc]
  refine alike_front String.toList_ofList (by decide +kernel) ?_
  refine alike_name stagingTable_mem htable (blankAhead_text String.toList_ofList) (blankAhead_text String.toList_ofList) ?_
  exact alike_back String.toList_ofList (by decide +kernel)

theorem alike_insertLabels (htable : isPlainIdentifier table = true) :
    Alike table (Statements.ofTable "metrics").insertLabels.toList (Statements.ofTable table).insertLabels.toList := by
  unfold Statements.ofTable
  simp only [String.toList_append, List.append_assoc]
  refine alike_front String.toList_ofList (by decide +kernel) ?_
  refine alike_name labelsTable_mem htable (blankAhead_append String.toList_ofList _) (blankAhead_append String.toList_ofList _) ?_
  refine alike_front String.toList_ofList (by decide +kernel) ?_
  refine alike_name stagingTable_mem htable (blankAhead_text String.toList_ofList) (blankAhead_text String.toList_ofList) ?_
  exact alike_back String.toList_ofList (by decide +kernel)

theorem alike_insertValues (htable : isPlainIdentifier table = true) :
    Alike table (Statements.ofTable "metrics").insertValues.toList (Statements.ofTable table).insertValues.toList := by
  unfold Statements.ofTable
  simp only [String.toList_append, List.append_assoc]
  refine alike_front String.toList_ofList (by decide +kernel) ?_
  refine alike_name valuesTable_mem htable (blankAhead_append String.toList_ofList _) (blankAhead_append String.toList_ofList _) ?_
  refine alike_front String.toList_ofList (by decide +kernel) ?_
  refine alike_name stagingTable_mem htable (blankAhead_append String.toList_ofList _) (blankAhead_append String.toList_ofList _) ?_
  refine alike_front String.toList_ofList (by decide +kernel) ?_
  refine alike_name labelsTable_mem htable (blankAhead_text String.toList_ofList) (blankAhead_text String.toList_ofList) ?_
  exact alike_back String.toList_ofList (by decide +kernel)

theorem alike_dropStaging (htable : isPlainIdentifier table = true) :
    Alike table (Statements.ofTable "metrics").dropStaging.toList (Statements.ofTable table).dropStaging.toList := by
  unfold Statements.ofTable
  simp only [String.toList_append]
  refine alike_front String.toList_ofList (by decide +kernel) ?_
  have halike := alike_name (a := []) (b := []) stagingTable_mem htable blankAhead_nil blankAhead_nil alike_nil
  rwa [List.append_nil, List.append_nil] at halike

/-- Two texts are one statement each, with the same tokens but for the names of the relations. -/
structure SameStatement (table original sql : String) (tokens : List SqlToken) : Prop where
  original_tokens : ofText? original = some tokens
  sql_tokens : ofText? sql = some (tokens.map (renamed table))
  original_statements : statements tokens = [tokens]
  sql_statements : statements (tokens.map (renamed table)) = [tokens.map (renamed table)]

/-- Tokens without a semicolon are one statement. -/
theorem statements_eq (hne : ts ≠ []) (hsemicolon : .mark [';'] ∉ ts) : statements ts = [ts] := by
  rw [statements, List.splitOn_eq_singleton hsemicolon]
  simp [hne]

/-- Renaming makes no semicolon. -/
theorem semicolon_not_mem_map (h : .mark [';'] ∉ ts) (table : String) : .mark [';'] ∉ ts.map (renamed table) := by
  intro hmem
  obtain ⟨t, ht, heq⟩ := List.mem_map.1 hmem
  rw [renamed] at heq
  split at heq
  · cases heq
  · subst heq
    exact h ht

theorem exists_sameStatement {original sql : String} (h : Alike table original.toList sql.toList)
    (hhead : original.toList.head? = some c) (hc : isWordStart c = true) : ∃ tokens, SameStatement table original sql tokens := by
  obtain ⟨ts, horiginal, hsql, hsemicolon⟩ := h
  obtain ⟨cs, hlist⟩ := List.head?_eq_some_iff.1 hhead
  have hne : ts ≠ [] := ne_nil_of_lexesTo (hlist ▸ horiginal) hc
  exact ⟨ts, horiginal.ofText?, hsql.ofText?, statements_eq hne hsemicolon,
    statements_eq (by simpa using hne) (semicolon_not_mem_map hsemicolon table)⟩

/-- The names of the relations are no keywords: no keyword ends like one of them. -/
theorem isName_relation {name : String} (h : name ∈ relationNames table) : IsName name.toList := by
  obtain ⟨relation, hrelation, rfl⟩ : ∃ relation ∈ relations, relation table = name := List.mem_map.1 h
  obtain ⟨suffix, hsuffix, heq⟩ := exists_suffix hrelation
  have hunderscore : ∀ suffix ∈ suffixes, '_' ∈ suffix.toList := by decide +kernel
  have hlower : ∀ suffix ∈ suffixes, suffix.toList.map Char.toLower = suffix.toList := by decide +kernel
  have hkeyword : ∀ suffix ∈ suffixes, ∀ keyword ∈ compoundKeywords, ¬ suffix.toList <:+ keyword.toList := by decide +kernel
  rw [heq, String.toList_append]
  refine ⟨List.mem_append_right _ (hunderscore suffix hsuffix), fun keyword hmem hsame => ?_⟩
  rw [List.map_append, hlower suffix hsuffix] at hsame
  exact hkeyword suffix hsuffix keyword hmem ⟨_, hsame.symm⟩

/-- For every table prefix that is a plain identifier, every statement of a batch is one statement with the tokens that it has for the
prefix `metrics`, but for the names of the relations; and these are names, not keywords. -/
theorem prefix_renames_relations {table : String} (htable : isPlainIdentifier table = true) :
    List.Forall₂ (fun original sql => ∃ tokens, SameStatement table original sql tokens)
        (Statements.ofTable "metrics").all (Statements.ofTable table).all ∧
      ∀ name ∈ relationNames table, IsName name.toList := by
  refine ⟨?_, fun _ => isName_relation⟩
  refine .cons (exists_sameStatement (alike_createStaging htable) (Statements.head?_createStaging _) (by decide)) ?_
  refine .cons (exists_sameStatement (alike_copyStaging htable) (Statements.head?_copyStaging _) (by decide)) ?_
  refine .cons (exists_sameStatement (alike_insertLabels htable) (Statements.head?_insertLabels _) (by decide)) ?_
  refine .cons (exists_sameStatement (alike_insertValues htable) (Statements.head?_insertValues _) (by decide)) ?_
  exact .cons (exists_sameStatement (alike_dropStaging htable) (Statements.head?_dropStaging _) (by decide)) .nil

/-- The prefix `E` would begin a text with escapes if a quote came behind it. -/
theorem prefix_renames_relations_openingLetter :
    isPlainIdentifier "E" = true ∧
      List.Forall₂ (fun original sql => ∃ tokens, SameStatement "E" original sql tokens)
        (Statements.ofTable "metrics").all (Statements.ofTable "E").all ∧
      ∀ name ∈ relationNames "E", IsName name.toList := by
  have htable : isPlainIdentifier "E" = true := by decide
  exact ⟨htable, prefix_renames_relations htable⟩

/-- A prefix that is no plain identifier makes two statements of one. -/
example : ((ofText? (Statements.ofTable "m; drop table m").dropStaging).map fun tokens => (statements tokens).length) = some 2 := by
  decide +kernel

end SqlToken

end Intake
