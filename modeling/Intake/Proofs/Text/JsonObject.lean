import Intake.Text.JsonObject

/-!
# JSON objects: what is written is read back

A string is read back from its quotes and escapes with anything behind it (`decode?_encode`), so an object of strings is read back
member by member (`read?_render`), whatever characters stand in names and values. Two texts that write the same object need not be
the same text, as the order of members is free (`SameObject`).
-/

namespace Intake

namespace JsonString

/-! ## Strings -/

theorem hexValue?_digitChar : ∀ d < 16, hexValue? (Nat.digitChar d) = some d := by decide

/-- The four digits of a control character are read back. -/
theorem hex4?_control {n : Nat} (h : n < 0x20) : hex4? '0' '0' (Nat.digitChar (n / 16)) (Nat.digitChar (n % 16)) = some n := by
  have hzero : hexValue? '0' = some 0 := rfl
  unfold hex4?
  rw [hzero, hexValue?_digitChar (n / 16) (by omega), hexValue?_digitChar (n % 16) (by omega)]
  simp only [Option.some.injEq]
  omega

/-- A code that is no surrogate is a character of its own, also when another code follows it. -/
theorem decodeBody_unit {a b c d : Char} {u : Nat} (h : hex4? a b c d = some u) (hlow : u < 0xd800) (rest : List Char) :
    decodeBody ('\\' :: 'u' :: a :: b :: c :: d :: rest) = push (some (Char.ofNat u)) (decodeBody rest) := by
  have hunit : unit? u = some (Char.ofNat u) := if_neg (by omega)
  have hpair : ∀ v, pair? u v = none := fun v => if_neg (by omega)
  by_cases hcode : ∃ e f g i more, rest = '\\' :: 'u' :: e :: f :: g :: i :: more
  · obtain ⟨e, f, g, i, more, rfl⟩ := hcode
    rw [decodeBody.eq_3, h]
    cases hex4? e f g i with
    | none => simp only [hunit]
    | some v => simp only [hpair, hunit]
  · rw [decodeBody.eq_4 a b c d rest fun e f g i more he => hcode ⟨e, f, g, i, more, he⟩, h, Option.bind_some, hunit]

/-- A character is written as a backslash and a letter that stands for it, as the code of a control character, or as itself. -/
theorem escape_cases (c : Char) :
    (∃ d, escape c = ['\\', d] ∧ d ≠ 'u' ∧ letter? d = some c) ∨
      (escape c = ['\\', 'u', '0', '0', Nat.digitChar (c.toNat / 16), Nat.digitChar (c.toNat % 16)] ∧ c.toNat < 0x20) ∨
      (escape c = [c] ∧ c ≠ '"' ∧ c ≠ '\\' ∧ ¬c.toNat < 0x20) := by
  unfold escape
  split
  · next h => exact .inl ⟨'"', rfl, by decide, by rw [h]; rfl⟩
  split
  · next h => exact .inl ⟨'\\', rfl, by decide, by rw [h]; rfl⟩
  split
  · next h => exact .inl ⟨'b', rfl, by decide, by rw [h]; rfl⟩
  split
  · next h => exact .inl ⟨'f', rfl, by decide, by rw [h]; rfl⟩
  split
  · next h => exact .inl ⟨'n', rfl, by decide, by rw [h]; rfl⟩
  split
  · next h => exact .inl ⟨'r', rfl, by decide, by rw [h]; rfl⟩
  split
  · next h => exact .inl ⟨'t', rfl, by decide, by rw [h]; rfl⟩
  split
  · next h => exact .inr (.inl ⟨rfl, h⟩)
  · next hquote hback _ _ _ _ _ hcontrol => exact .inr (.inr ⟨rfl, hquote, hback, hcontrol⟩)

/-- The escape of a character is read as that character. -/
theorem decodeBody_escape (c : Char) (rest : List Char) : decodeBody (escape c ++ rest) = push (some c) (decodeBody rest) := by
  rcases escape_cases c with ⟨d, hc, hd, hletter⟩ | ⟨hc, hcontrol⟩ | ⟨hc, hquote, hback, hcontrol⟩
  · rw [hc, List.cons_append, List.singleton_append,
      decodeBody.eq_5 d rest (fun _ _ _ _ _ _ _ _ _ h _ => hd h) (fun _ _ _ _ _ h _ => hd h), hletter]
  · rw [hc]
    refine (decodeBody_unit (hex4?_control hcontrol) (by omega) rest).trans ?_
    rw [Char.ofNat_toNat]
  · rw [hc, List.singleton_append, decodeBody.eq_6 c rest hquote (fun _ _ _ _ _ _ _ _ _ h _ => hback h)
      (fun _ _ _ _ _ h _ => hback h) (fun _ _ h _ => hback h), if_neg]
    rintro (h | h)
    · exact hcontrol h
    · exact hback h

theorem decodeBody_escapes (s rest : List Char) : decodeBody (s.flatMap escape ++ '"' :: rest) = some (s, rest) := by
  induction s with
  | nil => exact decodeBody.eq_2 rest
  | cons c more ih =>
    rw [List.flatMap_cons, List.append_assoc, decodeBody_escape, ih]
    rfl

/-- A string is read back, with anything behind it. -/
theorem decode?_encode (s rest : List Char) : decode? (encode s ++ rest) = some (s, rest) := by
  unfold encode
  rw [List.append_assoc, List.cons_append, List.singleton_append]
  exact decodeBody_escapes s rest

end JsonString

namespace JsonObject

/-! ## Members -/

theorem skipBlank_cons {c : Char} (h : isBlankChar c = false) (rest : List Char) : skipBlank (c :: rest) = c :: rest := by
  unfold skipBlank
  rw [List.dropWhile_cons, h, if_neg Bool.false_ne_true]

theorem skipBlank_encode (s rest : List Char) : skipBlank (JsonString.encode s ++ rest) = JsonString.encode s ++ rest :=
  skipBlank_cons rfl _

/-- A member is read back, with anything behind it. -/
theorem readMember?_render (m : Member) (rest : List Char) : readMember? (renderMember m ++ rest) = some (m, skipBlank rest) := by
  have hcolon : skipBlank (':' :: ' ' :: (JsonString.encode m.2 ++ rest)) = ':' :: ' ' :: (JsonString.encode m.2 ++ rest) :=
    skipBlank_cons rfl _
  have hspace : skipBlank (' ' :: (JsonString.encode m.2 ++ rest)) = JsonString.encode m.2 ++ rest := skipBlank_encode m.2 rest
  have hsplit : renderMember m ++ rest = JsonString.encode m.1 ++ (':' :: ' ' :: (JsonString.encode m.2 ++ rest)) := by
    unfold renderMember
    simp only [List.append_assoc, List.cons_append, List.nil_append]
  unfold readMember?
  rw [hsplit, skipBlank_encode, JsonString.decode?_encode]
  simp only [hcolon, hspace, JsonString.decode?_encode]

/-- Members are read back up to the brace that closes them. -/
theorem readMembers?_render {ms : List Member} (hne : ms ≠ []) {turns : Nat} (hturns : ms.length ≤ turns) (rest : List Char) :
    readMembers? turns (renderMembers ms ++ '\x7d' :: rest) = some (ms, rest) := by
  induction ms generalizing turns with
  | nil => exact absurd rfl hne
  | cons m more ih =>
    obtain ⟨turns, rfl⟩ : ∃ t, turns = t + 1 := ⟨turns - 1, by rw [List.length_cons] at hturns; omega⟩
    rw [readMembers?.eq_2]
    cases more with
    | nil =>
      rw [renderMembers, readMember?_render, skipBlank_cons rfl]
      rfl
    | cons m' more =>
      have hsplit : renderMembers (m :: m' :: more) ++ '\x7d' :: rest =
          renderMember m ++ (',' :: (renderMembers (m' :: more) ++ '\x7d' :: rest)) := by
        rw [renderMembers, List.append_assoc, List.cons_append]
        exact List.cons_ne_nil _ _
      rw [hsplit, readMember?_render, skipBlank_cons rfl]
      simp only [ih (List.cons_ne_nil m' more) (Nat.le_of_succ_le_succ hturns), Option.map_some]

/-- Every member takes at least one character. -/
theorem length_le_renderMembers (ms : List Member) : ms.length ≤ (renderMembers ms).length := by
  have hmember : ∀ m, 0 < (renderMember m).length := fun m => Nat.succ_pos _
  induction ms with
  | nil => exact Nat.le_refl 0
  | cons m more ih =>
    have hpos := hmember m
    cases more with
    | nil =>
      rw [renderMembers]
      exact hpos
    | cons m' more =>
      rw [renderMembers, List.length_append, List.length_cons (a := ','), List.length_cons (a := m)]
      · omega
      · exact List.cons_ne_nil _ _

/-- A member begins with a quote, and so do members one after another. -/
theorem renderMembers_cons (m : Member) (more : List Member) : ∃ tail, renderMembers (m :: more) = '"' :: tail := by
  cases more with
  | nil => exact ⟨_, rfl⟩
  | cons m' more => exact ⟨_, rfl⟩

/-- An object is read back as its members, in their order. -/
theorem read?_render (ms : List Member) : read? (render ms) = some ms := by
  have hopen : skipBlank (render ms) = '\x7b' :: (renderMembers ms ++ ['\x7d']) := skipBlank_cons rfl _
  unfold read?
  rw [hopen]
  cases ms with
  | nil => rfl
  | cons m more =>
    obtain ⟨tail, htail⟩ := renderMembers_cons m more
    have hbody : skipBlank ('"' :: (tail ++ ['\x7d'])) = '"' :: (tail ++ ['\x7d']) := skipBlank_cons rfl _
    have hturns : (m :: more).length ≤ (renderMembers (m :: more) ++ ['\x7d']).length := by
      rw [List.length_append]
      exact Nat.le_add_right_of_le (length_le_renderMembers _)
    have hread := readMembers?_render (List.cons_ne_nil m more) hturns []
    rw [htail, List.cons_append] at hread
    simp only [htail, List.cons_append, hbody]
    split
    · next after h => exact absurd (List.cons.inj h).1 (by decide)
    · rw [hread]
      rfl

/-! ## Objects -/

/-- The value that an object gives a name: of a repeated name the last one counts. -/
def valueOf? (ms : List Member) (name : List Char) : Option (List Char) := ms.reverse.lookup name

/-- The texts write objects that give every name the same value; the order of members is no part of an object. -/
def SameObject (s t : List Char) : Prop :=
  ∃ ms ns, read? s = some ms ∧ read? t = some ns ∧ ∀ name, valueOf? ms name = valueOf? ns name

end JsonObject

end Intake
