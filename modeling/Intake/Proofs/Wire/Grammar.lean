import Intake.Proofs.Wire.Input

/-!
# Grammar: fields are read and skipped as they are written

A reader of numbers, keys and lengths takes off exactly what the grammar allows there (`varint_eq_ok`, `key_eq_ok`,
`grammar_of_delimited`). The content of a field is skipped if its groups are not nested too deep (`skip_content`), and whatever is
skipped is the content of a field (`skips_skip`). So a content cannot end at two places (`Content.unique`).

`Takes` is what is needed of every reader of contents: what it takes off is the content of a field, and it would take the same
whatever stood behind it.
-/

namespace Intake

namespace Grammar

theorem Key.length_pos {number : Nat} {w : WireType} {bs : List UInt8} (h : Key number w bs) : 0 < bs.length :=
  List.length_pos_iff.2 h.varint.septets.ne_nil

/-- A content is never the end of a group. -/
theorem Content.ne_endGroup {depth number : Nat} {w : WireType} {bs : List UInt8} (h : Content depth number w bs) : w ≠ .endGroup := by
  cases h <;> exact WireType.noConfusion

end Grammar

theorem RawField.allBytes_cons (f : RawField) (fs : List RawField) : allBytes (f :: fs) = f.bytes ++ allBytes fs := List.flatMap_cons

namespace Field

open Input

variable {α : Type} {depth number : Nat} {w : WireType} {content bs : List UInt8} {i next : Input}

/-! ## Numbers, keys and lengths -/

theorem varint_eq_ok {n : Nat} : varint i = .ok (n, next) ↔ ∃ bs, Grammar.Varint n bs ∧ i.bytes = bs ++ next.bytes := by
  rw [← varint?_eq_some]
  unfold varint
  cases i.varint? with
  | none => simp
  | some r => simp

theorem varint_grammar {n : Nat} (h : Grammar.Varint n bs) (rest : List UInt8) : varint (ofList (bs ++ rest)) = .ok (n, ofList rest) :=
  varint_eq_ok.2 ⟨bs, h, rfl⟩

theorem ofCode?_code (w : WireType) : WireType.ofCode? w.code = some w := by
  cases w <;> rfl

theorem code_ofCode? {c : Nat} (h : WireType.ofCode? c = some w) : w.code = c := by
  unfold WireType.ofCode? at h
  split at h <;> cases h <;> rfl

theorem code_lt (w : WireType) : w.code < 8 := by
  cases w <;> decide

theorem key_eq_ok :
    key i = .ok ((number, w), next) ↔ ∃ bs, Grammar.Key number w bs ∧ i.bytes = bs ++ next.bytes := by
  constructor
  · intro h
    unfold key at h
    cases hread : varint i with
    | error e =>
      rw [hread] at h
      cases h
    | ok r =>
      obtain ⟨k, rest⟩ := r
      obtain ⟨bs, hbs, hbytes⟩ := varint_eq_ok.1 hread
      rw [hread] at h
      simp only at h
      split at h
      · cases h
      · next hlt =>
        cases hcode : WireType.ofCode? (k % 8) with
        | none =>
          rw [hcode] at h
          cases h
        | some w' =>
          rw [hcode] at h
          simp only at h
          split at h
          · cases h
          · next hpos =>
            cases h
            have hk : 8 * (k / 8) + w.code = k := by
              rw [code_ofCode? hcode]
              exact Nat.div_add_mod k 8
            exact ⟨bs, ⟨Nat.pos_of_ne_zero hpos, by omega, hk.symm ▸ hbs⟩, hbytes⟩
  · rintro ⟨bs, ⟨hpos, hlt, hvarint⟩, hbytes⟩
    have hcode := code_lt w
    have hlow : (8 * number + w.code) % 8 = w.code := by omega
    have hhigh : (8 * number + w.code) / 8 = number := by omega
    unfold key
    rw [varint_eq_ok.2 ⟨bs, hvarint, hbytes⟩]
    simp only [hlow, hhigh, ofCode?_code]
    rw [if_neg (by omega), if_neg (by omega)]

theorem key_grammar (h : Grammar.Key number w bs) (rest : List UInt8) :
    key (ofList (bs ++ rest)) = .ok ((number, w), ofList rest) :=
  key_eq_ok.2 ⟨bs, h, rfl⟩

theorem bytes_append {n : Nat} (h : bs.length = n) (rest : List UInt8) :
    bytes n (ofList (bs ++ rest)) = .ok (bs, ofList rest) := by
  subst h
  unfold bytes
  rw [take?_append]

theorem bytes_of_bytes {n : Nat} (h : bytes n i = .ok (bs, next)) : bs.length = n ∧ i.bytes = bs ++ next.bytes := by
  unfold bytes at h
  cases htake : i.take? n with
  | none =>
    rw [htake] at h
    cases h
  | some r =>
    rw [htake] at h
    cases h
    exact bytes_of_take? htake

theorem delimited_grammar {length : List UInt8} (h : Grammar.Varint bs.length length) (rest : List UInt8) :
    delimited (ofList (length ++ bs ++ rest)) = .ok (bs, ofList rest) := by
  unfold delimited
  rw [List.append_assoc, varint_grammar h]
  exact bytes_append rfl rest

theorem grammar_of_delimited (h : delimited i = .ok (bs, next)) :
    ∃ length, Grammar.Varint bs.length length ∧ i.bytes = length ++ bs ++ next.bytes := by
  unfold delimited at h
  cases hread : varint i with
  | error e =>
    rw [hread] at h
    cases h
  | ok r =>
    obtain ⟨n, rest⟩ := r
    obtain ⟨length, hlength, hfirst⟩ := varint_eq_ok.1 hread
    rw [hread] at h
    obtain ⟨hn, hsecond⟩ := bytes_of_bytes h
    subst hn
    exact ⟨length, hlength, by rw [hfirst, hsecond, List.append_assoc]⟩

/-! ## Skipping a field -/

theorem skipGroup_end {skip : WireType → Nat → Input → Except MessageError Input} (h : key i = .ok ((number, .endGroup), next)) :
    skipGroup skip number i = .ok next := by
  rw [skipGroup, h]
  simp only [if_true]

/-- A field inside a group is skipped, and then the rest of the group. -/
theorem skipGroup_field {skip : WireType → Nat → Input → Except MessageError Input} {n : Nat} {rest : Input}
    (hkey : key i = .ok ((n, w), rest)) (hw : w ≠ .endGroup) (hskip : skip w n rest = .ok next) (hless : next.left < i.left) :
    skipGroup skip number i = skipGroup skip number next := by
  rw [skipGroup, hkey]
  cases w with
  | endGroup => exact absurd rfl hw
  | _ => simp only [hskip, if_pos hless]

/-- The fields of a group are skipped if each of them is. -/
theorem skipGroup_fields {skip : WireType → Nat → Input → Except MessageError Input} {fields : List RawField}
    (hkeys : ∀ f ∈ fields, Grammar.Key f.number f.type f.key) (hend : ∀ f ∈ fields, f.type ≠ .endGroup)
    (hskip : ∀ f ∈ fields, ∀ rest, skip f.type f.number (ofList (f.content ++ rest)) = .ok (ofList rest)) (rest : List UInt8) :
    skipGroup skip number (ofList (RawField.allBytes fields ++ rest)) = skipGroup skip number (ofList rest) := by
  induction fields with
  | nil => rfl
  | cons f fields ih =>
    have hkey := hkeys f List.mem_cons_self
    have hpos := hkey.length_pos
    have hbytes : RawField.allBytes (f :: fields) ++ rest = f.key ++ (f.content ++ (RawField.allBytes fields ++ rest)) := by
      rw [RawField.allBytes_cons, RawField.bytes]
      simp only [List.append_assoc]
    rw [hbytes, skipGroup_field (key_grammar hkey _) (hend f List.mem_cons_self) (hskip f List.mem_cons_self _)]
    · exact ih (fun g hg => hkeys g (List.mem_cons_of_mem f hg)) (fun g hg => hend g (List.mem_cons_of_mem f hg))
        fun g hg => hskip g (List.mem_cons_of_mem f hg)
    · simp only [left_ofList, List.length_append]
      omega

/-- A well-formed content is skipped, whatever stands behind it, by who may go deeper than its groups are nested. -/
theorem skip_content (h : Grammar.Content depth number w content) {budget : Nat} (hbudget : depth < budget) (rest : List UInt8) :
    skip budget w number (ofList (content ++ rest)) = .ok (ofList rest) := by
  -- on the content; a group costs one level of the budget, which its fields share
  induction h generalizing budget rest with
  | varint hvarint =>
    obtain ⟨budget, rfl⟩ := Nat.exists_eq_succ_of_ne_zero (Nat.ne_zero_of_lt hbudget)
    simp only [skip, varint_grammar hvarint, restOf]
  | sixtyFourBit hlength =>
    obtain ⟨budget, rfl⟩ := Nat.exists_eq_succ_of_ne_zero (Nat.ne_zero_of_lt hbudget)
    simp only [skip, bytes_append hlength, restOf]
  | thirtyTwoBit hlength =>
    obtain ⟨budget, rfl⟩ := Nat.exists_eq_succ_of_ne_zero (Nat.ne_zero_of_lt hbudget)
    simp only [skip, bytes_append hlength, restOf]
  | lengthDelimited hlength =>
    obtain ⟨budget, rfl⟩ := Nat.exists_eq_succ_of_ne_zero (Nat.ne_zero_of_lt hbudget)
    simp only [skip, delimited_grammar hlength, restOf]
  | group hkeys hcontents hlast ih =>
    obtain ⟨budget, rfl⟩ := Nat.exists_eq_succ_of_ne_zero (Nat.ne_zero_of_lt hbudget)
    simp only [skip]
    rw [List.append_assoc, skipGroup_fields hkeys (fun f hf => (hcontents f hf).ne_endGroup)
      fun f hf => ih f hf (Nat.lt_of_succ_lt_succ hbudget)]
    exact skipGroup_end (key_grammar hlast rest)

end Field

namespace Grammar

/-- A number ends where it ends: of two varints that stand at one place, both are the same. -/
theorem Varint.unique {n n' : Nat} {bs bs' rest rest' : List UInt8} (h : Varint n bs) (h' : Varint n' bs')
    (heq : bs ++ rest = bs' ++ rest') : n = n' ∧ bs = bs' ∧ rest = rest' := by
  have hread := Field.varint_grammar h rest
  rw [heq, Field.varint_grammar h' rest'] at hread
  obtain ⟨rfl, hrest⟩ := Prod.mk.inj (Except.ok.inj hread)
  have hrest : rest' = rest := congrArg Input.bytes hrest
  subst hrest
  exact ⟨rfl, List.append_cancel_right heq, rfl⟩

/-- A content ends where it ends: of two contents of one field that stand at one place, both are the same. -/
theorem Content.unique {depth depth' number : Nat} {w : WireType} {content content' rest rest' : List UInt8}
    (h : Content depth number w content) (h' : Content depth' number w content') (heq : content ++ rest = content' ++ rest') :
    content = content' ∧ rest = rest' := by
  have hskip := Field.skip_content h (Nat.lt_succ_of_le (Nat.le_max_left depth depth')) rest
  have hskip' := Field.skip_content h' (Nat.lt_succ_of_le (Nat.le_max_right depth depth')) rest'
  rw [heq, hskip'] at hskip
  have hrest : rest' = rest := congrArg Input.bytes (Except.ok.inj hskip)
  subst hrest
  exact ⟨List.append_cancel_right heq, rfl⟩

end Grammar

namespace Field

open Input

variable {α : Type} {depth number : Nat} {w : WireType} {i next : Input} {read : Input → FieldResult α}

/-! ## What readers take off -/

/-- What the reader takes off is the content of a field, and it would take the same whatever stood behind it. -/
def Takes (depth number : Nat) (w : WireType) (read : Input → FieldResult α) : Prop :=
  ∀ ⦃i x next⦄, read i = .ok (x, next) → ∃ content, Grammar.Content depth number w content ∧ i.bytes = content ++ next.bytes ∧
    ∀ rest, read (ofList (content ++ rest)) = .ok (x, ofList rest)

theorem takes_varint (depth number : Nat) : Takes depth number .varint varint := by
  intro i n next h
  obtain ⟨bs, hbs, hbytes⟩ := varint_eq_ok.1 h
  exact ⟨bs, .varint hbs, hbytes, varint_grammar hbs⟩

theorem takes_eight (depth number : Nat) : Takes depth number .sixtyFourBit (bytes 8) := by
  intro i bs next h
  obtain ⟨hlength, hbytes⟩ := bytes_of_bytes h
  exact ⟨bs, .sixtyFourBit hlength, hbytes, bytes_append hlength⟩

theorem takes_four (depth number : Nat) : Takes depth number .thirtyTwoBit (bytes 4) := by
  intro i bs next h
  obtain ⟨hlength, hbytes⟩ := bytes_of_bytes h
  exact ⟨bs, .thirtyTwoBit hlength, hbytes, bytes_append hlength⟩

theorem takes_delimited (depth number : Nat) : Takes depth number .lengthDelimited delimited := by
  intro i bs next h
  obtain ⟨length, hlength, hbytes⟩ := grammar_of_delimited h
  exact ⟨length ++ bs, .lengthDelimited hlength, hbytes, delimited_grammar hlength⟩

/-! ## What is skipped -/

/-- What is skipped is the content of a field, and would be skipped whatever stood behind it. -/
def Skips (depth number : Nat) (w : WireType) (skipped : Input → Except MessageError Input) : Prop :=
  ∀ ⦃i next⦄, skipped i = .ok next → ∃ content, Grammar.Content depth number w content ∧ i.bytes = content ++ next.bytes ∧
    ∀ rest, skipped (ofList (content ++ rest)) = .ok (ofList rest)

theorem Takes.skips (h : Takes depth number w read) : Skips depth number w fun i => restOf (read i) := by
  intro i next hskip
  cases hread : read i with
  | error e =>
    simp only [hread] at hskip
    cases hskip
  | ok r =>
    obtain ⟨x, rest⟩ := r
    simp only [hread] at hskip
    cases hskip
    obtain ⟨content, hcontent, hbytes, hagain⟩ := h hread
    exact ⟨content, hcontent, hbytes, fun more => by simp only [hagain, restOf]⟩

/-- A group that is skipped and does not end at once goes on behind a field that is skipped. -/
theorem ok_of_skipGroup {skip : WireType → Nat → Input → Except MessageError Input} {n : Nat} {rest : Input}
    (hkey : key i = .ok ((n, w), rest)) (hw : w ≠ .endGroup) (h : skipGroup skip number i = .ok next) :
    ∃ mid, skip w n rest = .ok mid ∧ (if mid.left < i.left then skipGroup skip number mid else .ok mid) = .ok next := by
  rw [skipGroup, hkey] at h
  cases hskip : skip w n rest with
  | error e =>
    cases w with
    | endGroup => exact absurd rfl hw
    | _ =>
      simp only [hskip] at h
      cases h
  | ok mid =>
    refine ⟨mid, rfl, ?_⟩
    cases w with
    | endGroup => exact absurd rfl hw
    | _ =>
      simp only [hskip] at h
      exact h

/-- A group that is skipped holds well-formed fields up to its end. -/
theorem fields_of_skipGroup {skip : WireType → Nat → Input → Except MessageError Input} (hskip : ∀ w n, Skips depth n w (skip w n))
    (h : skipGroup skip number i = .ok next) :
    ∃ (fields : List RawField) (last : List UInt8), (∀ f ∈ fields, f.WellFormed depth) ∧ Grammar.Key number .endGroup last ∧
      (∀ f ∈ fields, ∀ rest, skip f.type f.number (ofList (f.content ++ rest)) = .ok (ofList rest)) ∧
      i.bytes = RawField.allBytes fields ++ last ++ next.bytes := by
  -- on what is left of the input, which every field of the group shortens
  induction hleft : i.left using Nat.strongRecOn generalizing i with
  | ind left ih =>
    cases hread : key i with
    | error e =>
      rw [skipGroup, hread] at h
      cases h
    | ok r =>
      obtain ⟨⟨n, w⟩, rest⟩ := r
      obtain ⟨bs, hkey, hbytes⟩ := key_eq_ok.1 hread
      by_cases hw : w = .endGroup
      · subst hw
        rw [skipGroup, hread] at h
        simp only at h
        split at h
        · next hn =>
          cases h
          exact ⟨[], bs, fun _ hf => absurd hf List.not_mem_nil, hn ▸ hkey, fun _ hf => absurd hf List.not_mem_nil, hbytes⟩
        · cases h
      · obtain ⟨mid, hmid, hgoes⟩ := ok_of_skipGroup hread hw h
        obtain ⟨content, hcontent, hrest, hagain⟩ := hskip w n hmid
        have hpos := hkey.length_pos
        have hall : i.bytes = bs ++ content ++ mid.bytes := by rw [hbytes, hrest, List.append_assoc]
        have hless : mid.left < i.left := by
          rw [mid.left_eq, i.left_eq, hall, List.length_append, List.length_append]
          omega
        rw [if_pos hless] at hgoes
        obtain ⟨fields, last, hfields, hlast, hskips, hmore⟩ := ih mid.left (hleft ▸ hless) hgoes rfl
        refine ⟨⟨n, w, bs, content⟩ :: fields, last, List.forall_mem_cons.2 ⟨⟨hkey, hcontent⟩, hfields⟩, hlast,
          List.forall_mem_cons.2 ⟨hagain, hskips⟩, ?_⟩
        rw [hall, hmore, RawField.allBytes_cons, RawField.bytes]
        simp only [List.append_assoc]

theorem skips_skip (budget number : Nat) (w : WireType) : Skips budget number w (skip budget w number) := by
  -- on the budget: the fields of a group are skipped with one level less
  induction budget generalizing number w with
  | zero =>
    intro i next h
    cases h
  | succ budget ih =>
    cases w with
    | varint => exact (takes_varint (budget + 1) number).skips
    | sixtyFourBit => exact (takes_eight (budget + 1) number).skips
    | thirtyTwoBit => exact (takes_four (budget + 1) number).skips
    | lengthDelimited => exact (takes_delimited (budget + 1) number).skips
    | endGroup =>
      intro i next h
      cases h
    | startGroup =>
      intro i next h
      obtain ⟨fields, last, hfields, hlast, hskips, hbytes⟩ := fields_of_skipGroup (fun w n => ih n w) h
      refine ⟨RawField.allBytes fields ++ last, .group (fun f hf => (hfields f hf).key) (fun f hf => (hfields f hf).content) hlast,
        hbytes, fun rest => ?_⟩
      simp only [skip]
      rw [List.append_assoc, skipGroup_fields (fun f hf => (hfields f hf).key) (fun f hf => (hfields f hf).content.ne_endGroup) hskips]
      exact skipGroup_end (key_grammar hlast rest)

end Field

end Intake
