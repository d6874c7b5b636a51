import Intake.Proofs.Wire.Grammar

/-!
# Field: messages read back field by field

The loop that reads the fields of a message does not know where a field will end, so what it does with the bytes of a field must
hold with anything behind them. `Reads` says that some bytes take a message from one value to another in that sense; it composes
(`Reads.append`), and one field is enough to know what it does (`Reads.step`, `Reads.known`). A nested message is itself such a
field (`message_grammar`).

The other way round, everything that the loop accepts is a sequence of fields each of which does its part (`reads_of_fields`), so
that a message can be taken apart wherever a field ends (`Reads.split`).
-/

namespace Intake

/-- The bound for lengths that a varint of sixty-four bits can hold. -/
def varintBound : Nat := 0x10000000000000000

namespace Encoding

theorem length_le_delimited (number : Nat) (bs : List UInt8) : bs.length ≤ (delimited number bs).length := by
  unfold delimited
  rw [List.length_append]
  exact Nat.le_add_left _ _

/-- What an encoder writes for a number is a varint. -/
theorem grammar_varint {n : Nat} (h : n < varintBound) : Grammar.Varint n (varint n) :=
  ⟨septets_varint n, length_varint_le (Nat.lt_trans h (by decide)) (by decide), h⟩

/-- What an encoder writes for a key is one. -/
theorem grammar_key {number : Nat} (w : WireType) (hpos : 0 < number) (hlt : number < 0x20000000) :
    Grammar.Key number w (key number w) := by
  have hcode := Field.code_lt w
  refine ⟨hpos, hlt, grammar_varint ?_⟩
  unfold varintBound
  omega

end Encoding

namespace Field

open Input

theorem varint_encoding {n : Nat} (h : n < varintBound) (rest : List UInt8) :
    varint (Input.ofList (Encoding.varint n ++ rest)) = .ok (n, Input.ofList rest) :=
  varint_grammar (Encoding.grammar_varint h) rest

/-- A length and that many bytes are read back. -/
theorem delimited_encoding {bs : List UInt8} (h : bs.length < varintBound) (rest : List UInt8) :
    delimited (Input.ofList (Encoding.varint bs.length ++ bs ++ rest)) = .ok (bs, Input.ofList rest) :=
  delimited_grammar (Encoding.grammar_varint h) rest

/-! ## Fields one after another -/

variable {α β : Type} {merge : Merge α} {bs bs' : List UInt8} {a b c : α} {depth number limit : Nat} {w : WireType} {i next : Input}

/-- The bytes take the message from `a` to `b`, whatever stands behind them. -/
def Reads (merge : Merge α) (bs : List UInt8) (a b : α) : Prop :=
  ∀ (rest : List UInt8) (limit : Nat), limit ≤ rest.length →
    fields merge limit a (Input.ofList (bs ++ rest)) = fields merge limit b (Input.ofList rest)

theorem Reads.nil (a : α) : Reads merge [] a a := fun _ _ _ => rfl

theorem Reads.append (h : Reads merge bs a b) (h' : Reads merge bs' b c) : Reads merge (bs ++ bs') a c := by
  intro rest limit hlimit
  have hmore : limit ≤ (bs' ++ rest).length := by
    rw [List.length_append]
    omega
  rw [List.append_assoc, h _ _ hmore, h' _ _ hlimit]

/-- One field, of which the message's function takes in the content. -/
theorem Reads.step {kb content : List UInt8} (hkey : Grammar.Key number w kb)
    (h : ∀ rest, merge a number w (ofList (content ++ rest)) = .ok (b, ofList rest)) : Reads merge (kb ++ content) a b := by
  intro rest limit hlimit
  have hpos := hkey.length_pos
  have hshorter : (ofList rest).left < (ofList (kb ++ (content ++ rest))).left := by
    rw [left_ofList, left_ofList, List.length_append, List.length_append]
    omega
  rw [List.append_assoc, fields, if_pos (Nat.lt_of_le_of_lt hlimit hshorter), key_grammar hkey]
  simp only [h, if_pos hshorter]

/-- A field that the message knows by a name and a reader of its content. -/
theorem Reads.known {number : Nat} {w : WireType} {content : List UInt8} {name : String} {read : WireType → Input → FieldResult β}
    {x : β} (put : β → α) (hpos : 0 < number) (hlt : number < 0x20000000)
    (hmerge : ∀ i, merge a number w i = known name (WriteRequest.mapResult put (read w i)))
    (hread : ∀ rest, read w (Input.ofList (content ++ rest)) = .ok (x, Input.ofList rest)) :
    Reads merge (Encoding.key number w ++ content) a (put x) := by
  refine Reads.step (Encoding.grammar_key w hpos hlt) fun rest => ?_
  rw [hmerge, hread]
  rfl

/-- All fields of a message are read up to where it ends. -/
theorem fields_of_reads (h : Reads merge bs a b) (rest : List UInt8) :
    fields merge rest.length a (Input.ofList (bs ++ rest)) = .ok (b, Input.ofList rest) := by
  rw [h rest rest.length (Nat.le_refl _), fields, Input.left_ofList, if_neg (Nat.lt_irrefl _), if_pos rfl]

/-! ## A message taken apart -/

/-- Every field that the message's function takes in ends where the grammar says. -/
def Framed (depth : Nat) (merge : Merge α) : Prop := ∀ a number w, Takes depth number w (merge a number w)

/-- Fields that are read up to a limit are well formed and end at it, and would be read so whatever stood behind them. -/
theorem reads_of_fields (hmerge : Framed depth merge) (h : fields merge limit a i = .ok (b, next)) :
    next.left = limit ∧ ∃ fs : List RawField, (∀ f ∈ fs, f.WellFormed depth) ∧ i.bytes = RawField.allBytes fs ++ next.bytes ∧
      Reads merge (RawField.allBytes fs) a b := by
  induction hleft : i.left using Nat.strongRecOn generalizing i a with
  | ind left ih =>
    rw [fields] at h
    split at h
    · cases hread : key i with
      | error e =>
        rw [hread] at h
        cases h
      | ok r =>
        obtain ⟨⟨n, w⟩, rest⟩ := r
        obtain ⟨kb, hkey, hbytes⟩ := key_eq_ok.1 hread
        rw [hread] at h
        simp only at h
        cases hfield : merge a n w rest with
        | error e =>
          rw [hfield] at h
          cases h
        | ok r =>
          obtain ⟨mid, more⟩ := r
          obtain ⟨content, hcontent, hrest, hagain⟩ := hmerge a n w hfield
          have hpos := hkey.length_pos
          have hall : i.bytes = kb ++ content ++ more.bytes := by rw [hbytes, hrest, List.append_assoc]
          have hless : more.left < i.left := by
            rw [more.left_eq, i.left_eq, hall, List.length_append, List.length_append]
            omega
          rw [hfield] at h
          simp only [if_pos hless] at h
          obtain ⟨hlimit, fs, hfs, hmore, hreads⟩ := ih more.left (hleft ▸ hless) h rfl
          refine ⟨hlimit, ⟨n, w, kb, content⟩ :: fs, List.forall_mem_cons.2 ⟨⟨hkey, hcontent⟩, hfs⟩, ?_, ?_⟩
          · rw [hall, hmore, RawField.allBytes_cons, RawField.bytes]
            simp only [List.append_assoc]
          · rw [RawField.allBytes_cons]
            exact (Reads.step hkey hagain).append hreads
    · split at h
      · next hend =>
        cases h
        exact ⟨hend, [], fun _ hf => absurd hf List.not_mem_nil, rfl, Reads.nil _⟩
      · cases h

/-- Bytes are read as fields if and only if they take the message from where it was to where it is. -/
theorem reads_iff (hmerge : Framed depth merge) (rest : List UInt8) :
    Reads merge bs a b ↔ fields merge rest.length a (ofList (bs ++ rest)) = .ok (b, ofList rest) := by
  constructor
  · exact fun h => fields_of_reads h rest
  · intro h
    obtain ⟨-, fs, -, hbytes, hreads⟩ := reads_of_fields hmerge h
    have hbs : bs = RawField.allBytes fs := List.append_cancel_right hbytes
    exact hbs ▸ hreads

/-- A field that stands first is read first. -/
theorem Reads.first (hmerge : Framed depth merge) {f : RawField} {after : List UInt8} {inside : Nat} (hf : f.WellFormed inside)
    (h : Reads merge (f.bytes ++ after) a b) :
    ∃ mid, (∀ rest, merge a f.number f.type (ofList (f.content ++ rest)) = .ok (mid, ofList rest)) ∧ Reads merge after mid b := by
  have hread := (reads_iff hmerge []).1 h
  have hpos := hf.key.length_pos
  have hleft : ([] : List UInt8).length < (ofList (f.key ++ (f.content ++ after))).left := by
    rw [left_ofList, List.length_append]
    exact Nat.add_pos_left hpos _
  rw [List.append_nil, RawField.bytes, List.append_assoc, fields, if_pos hleft, key_grammar hf.key] at hread
  simp only at hread
  cases hfield : merge a f.number f.type (ofList (f.content ++ after)) with
  | error e =>
    rw [hfield] at hread
    cases hread
  | ok r =>
    obtain ⟨mid, more⟩ := r
    obtain ⟨content, hcontent, hbytes, hagain⟩ := hmerge a f.number f.type hfield
    obtain ⟨rfl, hafter⟩ := hf.content.unique hcontent hbytes
    rw [hfield, eq_ofList hafter.symm] at hread
    simp only [left_ofList, List.length_append] at hread
    rw [if_pos (by omega)] at hread
    refine ⟨mid, hagain, (reads_iff hmerge []).2 ?_⟩
    rw [List.append_nil]
    exact hread

/-- Well-formed fields that stand first are read first. -/
theorem Reads.split (hmerge : Framed depth merge) {before : List RawField} {after : List UInt8}
    (hbefore : ∀ f ∈ before, ∃ inside, f.WellFormed inside) (h : Reads merge (RawField.allBytes before ++ after) a b) :
    ∃ mid, Reads merge (RawField.allBytes before) a mid ∧ Reads merge after mid b := by
  induction before generalizing a with
  | nil => exact ⟨a, Reads.nil a, h⟩
  | cons f before ih =>
    obtain ⟨inside, hf⟩ := hbefore f List.mem_cons_self
    rw [RawField.allBytes_cons, List.append_assoc] at h
    obtain ⟨mid, hfield, hmore⟩ := Reads.first hmerge hf h
    obtain ⟨last, hrest, hafter⟩ := ih (fun g hg => hbefore g (List.mem_cons_of_mem f hg)) hmore
    refine ⟨last, ?_, hafter⟩
    rw [RawField.allBytes_cons]
    exact (Reads.step hf.key hfield).append hrest

/-! ## Nested messages -/

/-- A nested message is read from its length, however that is written, and its fields. -/
theorem message_grammar {inner : Nat → Merge β} {init x : β} {length content : List UInt8} (h : Reads (inner depth) content init x)
    (hlength : Grammar.Varint content.length length) (rest : List UInt8) :
    message inner init (depth + 1) .lengthDelimited (ofList (length ++ content ++ rest)) = .ok (x, ofList rest) := by
  have hexpect : expect .lengthDelimited .lengthDelimited = .ok () := rfl
  have hlimit : (content ++ rest).length - content.length = rest.length := by
    rw [List.length_append]
    omega
  unfold message
  simp only [hexpect, List.append_assoc, varint_grammar hlength, left_ofList, hlimit]
  rw [if_neg (by rw [List.length_append]; omega)]
  exact fields_of_reads h rest

/-- A nested message that is read has a length and fields up to it. -/
theorem reads_of_message {inner : Nat → Merge β} (hinner : ∀ depth, Framed depth (inner depth)) {init x : β}
    (h : message inner init depth w i = .ok (x, next)) :
    w = .lengthDelimited ∧ ∃ (inside : Nat) (length content : List UInt8), depth = inside + 1 ∧ Grammar.Varint content.length length ∧
      i.bytes = length ++ content ++ next.bytes ∧ Reads (inner inside) content init x := by
  unfold message expect at h
  by_cases hw : w = .lengthDelimited
  · subst hw
    refine ⟨rfl, ?_⟩
    cases depth with
    | zero =>
      simp only [if_true] at h
      cases h
    | succ inside =>
      cases hread : varint i with
      | error e =>
        simp only [if_true, hread] at h
        cases h
      | ok r =>
        obtain ⟨n, rest⟩ := r
        obtain ⟨length, hlength, hbytes⟩ := varint_eq_ok.1 hread
        simp only [if_true, hread] at h
        split at h
        · cases h
        · next hroom =>
          obtain ⟨hleft, fs, -, hrest, hreads⟩ := reads_of_fields (hinner inside) h
          have hn : (RawField.allBytes fs).length = n := by
            have hall := congrArg List.length hrest
            rw [List.length_append, ← rest.left_eq, ← next.left_eq, hleft] at hall
            omega
          exact ⟨inside, length, RawField.allBytes fs, rfl, hn.symm ▸ hlength, by rw [hbytes, hrest, List.append_assoc], hreads⟩
  · simp only [if_neg hw] at h
    cases h

theorem takes_message {inner : Nat → Merge β} (hinner : ∀ depth, Framed depth (inner depth)) (init : β) (depth number : Nat)
    (w : WireType) : Takes depth number w (message inner init depth w) := by
  intro i x next h
  obtain ⟨rfl, inside, length, content, rfl, hlength, hbytes, hreads⟩ := reads_of_message hinner h
  exact ⟨length ++ content, .lengthDelimited hlength, hbytes, message_grammar hreads hlength⟩

/-- A field that holds a nested message. -/
theorem Reads.message {number : Nat} {name : String} {inner : Nat → Merge β} {init x : β} {depth : Nat} (put : β → α)
    (hpos : 0 < number) (hlt : number < 0x20000000)
    (hmerge : ∀ i, merge a number .lengthDelimited i =
      Field.known name (WriteRequest.mapResult put (Field.message inner init (depth + 1) .lengthDelimited i)))
    (h : Reads (inner depth) bs init x) (hlength : (Encoding.delimited number bs).length < varintBound) :
    Reads merge (Encoding.delimited number bs) a (put x) := by
  have hinside := Encoding.length_le_delimited number bs
  unfold Encoding.delimited
  rw [List.append_assoc]
  exact Reads.known put hpos hlt hmerge
    (message_grammar h (Encoding.grammar_varint (Nat.lt_of_le_of_lt hinside hlength)))

/-- Messages of one kind, each in a field of its own: `add` is the outer message with those that were read. -/
theorem reads_encodeEach {encodes : β → List UInt8 → Prop} {number : Nat} {xs : List β} (add : List β → α)
    (h : EncodeEach encodes number xs bs) (hlength : bs.length < varintBound)
    (hone : ∀ x ∈ xs, ∀ (content : List UInt8) (before : List β), encodes x content →
      (Encoding.delimited number content).length < varintBound →
      Reads merge (Encoding.delimited number content) (add before) (add (before ++ [x]))) (before : List β) :
    Reads merge bs (add before) (add (before ++ xs)) := by
  induction h generalizing before with
  | nil =>
    rw [List.append_nil]
    exact Reads.nil _
  | cons hfirst hrest ih =>
    rename_i x xs content more
    rw [List.length_append] at hlength
    have hhead := hone x List.mem_cons_self content before hfirst (by omega)
    have htail := ih (by omega) (fun y hy => hone y (List.mem_cons_of_mem x hy)) (before ++ [x])
    rw [List.append_assoc, List.singleton_append] at htail
    exact hhead.append htail

end Field

end Intake
