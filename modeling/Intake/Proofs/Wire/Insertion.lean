import Intake.Proofs.Wire.WriteRequest

/-!
# Insertion: a field that nobody knows changes nothing

Senders add fields to the messages of a write request, and the reader skips those it does not know. Here for every place where a field
may stand: between the fields of a request, of a series, of a label or of a sample, with the lengths of the messages around it
written anew (`unknown_field_ignored`).

The readers of all four messages take in their own fields and skip others (`ReadBy`). One more field is then skipped where it stands
(`ReadBy.reads_here`), and a message around it is read as before (`ReadBy.reads_inside`).
-/

namespace Intake

namespace Field

variable {α β : Type} {depth number : Nat} {w : WireType} {read : Input → FieldResult α}

/-- A reader of contents of one type that answers with what another one read, or with something made of it. -/
theorem Takes.of_iff {want : WireType} {made : α → β → Prop} {whole : Input → FieldResult β} (h : Takes depth number want read)
    (hwhole : ∀ i y next, whole i = .ok (y, next) ↔ w = want ∧ ∃ x, read i = .ok (x, next) ∧ made x y) : Takes depth number w whole := by
  intro i y next hi
  obtain ⟨rfl, x, hread, hmade⟩ := (hwhole i y next).1 hi
  obtain ⟨content, hcontent, hbytes, hagain⟩ := h hread
  exact ⟨content, hcontent, hbytes, fun rest => (hwhole _ _ _).2 ⟨rfl, x, hagain rest, hmade⟩⟩

theorem known_eq_ok {name : String} {put : α → β} {i : Input} {y : β} {next : Input} :
    known name (WriteRequest.mapResult put (read i)) = .ok (y, next) ↔ ∃ x, read i = .ok (x, next) ∧ put x = y := by
  cases read i with
  | error e => simp [WriteRequest.mapResult, known]
  | ok r =>
    obtain ⟨x, rest⟩ := r
    simp only [WriteRequest.mapResult, known, Except.ok.injEq, Prod.mk.injEq]
    constructor
    · rintro ⟨rfl, rfl⟩
      exact ⟨x, ⟨rfl, rfl⟩, rfl⟩
    · rintro ⟨x', ⟨rfl, rfl⟩, rfl⟩
      exact ⟨rfl, rfl⟩

theorem takes_known (name : String) (put : α → β) (h : Takes depth number w read) :
    Takes depth number w fun i => known name (WriteRequest.mapResult put (read i)) :=
  h.of_iff fun i y next => by rw [known_eq_ok, eq_self, true_and]

theorem takes_unknown (depth number : Nat) (w : WireType) (a : α) : Takes depth number w (unknown depth a number w) := by
  intro i x next h
  unfold unknown at h
  cases hskip : skip depth w number i with
  | error e =>
    rw [hskip] at h
    cases h
  | ok rest =>
    rw [hskip] at h
    cases h
    obtain ⟨content, hcontent, hbytes, hagain⟩ := skips_skip depth number w hskip
    exact ⟨content, hcontent, hbytes, fun rest => by simp only [unknown, hagain]⟩

end Field

namespace WriteRequest

open Intake.Field

/-! ## The fields of labels and samples -/

theorem textField_eq_ok {w : WireType} {i next : Input} {s : String} :
    textField w i = .ok (s, next) ↔ w = .lengthDelimited ∧ ∃ bs, delimited i = .ok (bs, next) ∧ Utf8.decode? bs = some s := by
  unfold textField expect
  by_cases hw : w = .lengthDelimited
  · cases delimited i with
    | error e => simp [hw]
    | ok r => grind
  · simp [hw]

theorem doubleField_eq_ok {w : WireType} {i next : Input} {v : Binary64} :
    doubleField w i = .ok (v, next) ↔
      w = .sixtyFourBit ∧ ∃ bs, bytes 8 i = .ok (bs, next) ∧ ⟨UInt64.ofNat (Input.littleEndian bs)⟩ = v := by
  unfold doubleField expect
  by_cases hw : w = .sixtyFourBit
  · cases bytes 8 i with
    | error e => simp [hw]
    | ok r => grind
  · simp [hw]

theorem intField_eq_ok {w : WireType} {i next : Input} {n : Int} :
    intField w i = .ok (n, next) ↔ w = .varint ∧ ∃ m, Field.varint i = .ok (m, next) ∧ signed m = n := by
  unfold intField expect
  by_cases hw : w = .varint
  · cases Field.varint i with
    | error e => simp [hw]
    | ok r => grind
  · simp [hw]

theorem takes_textField (depth number : Nat) (w : WireType) : Takes depth number w (textField w) :=
  (takes_delimited depth number).of_iff fun _ _ _ => textField_eq_ok

theorem takes_doubleField (depth number : Nat) (w : WireType) : Takes depth number w (doubleField w) :=
  (takes_eight depth number).of_iff fun _ _ _ => doubleField_eq_ok

theorem takes_intField (depth number : Nat) (w : WireType) : Takes depth number w (intField w) :=
  (takes_varint depth number).of_iff fun _ _ _ => intField_eq_ok

end WriteRequest

namespace MessageKind

open Intake.Field WriteRequest

/-- The function takes in the fields of a message of this kind, and skips all others. -/
structure ReadBy {α : Type} (kind : MessageKind) (depth : Nat) (merge : Merge α) : Prop where
  framed : Framed depth merge
  skips : ∀ a number w i, number ∉ kind.fieldNumbers → merge a number w i = unknown depth a number w i

theorem readBy_label (depth : Nat) : label.ReadBy depth (mergeLabel depth) where
  framed := by
    rintro a (_ | _ | _ | number) w
    · exact takes_unknown depth 0 w a
    · exact takes_known _ _ (takes_textField depth 1 w)
    · exact takes_known _ _ (takes_textField depth 2 w)
    · exact takes_unknown depth (number + 3) w a
  skips := by
    rintro a (_ | _ | _ | number) w i h
    · rfl
    · exact absurd (by decide) h
    · exact absurd (by decide) h
    · rfl

theorem readBy_sample (depth : Nat) : sample.ReadBy depth (mergeSample depth) where
  framed := by
    rintro a (_ | _ | _ | number) w
    · exact takes_unknown depth 0 w a
    · exact takes_known _ _ (takes_doubleField depth 1 w)
    · exact takes_known _ _ (takes_intField depth 2 w)
    · exact takes_unknown depth (number + 3) w a
  skips := by
    rintro a (_ | _ | _ | number) w i h
    · rfl
    · exact absurd (by decide) h
    · exact absurd (by decide) h
    · rfl

theorem readBy_series (depth : Nat) : series.ReadBy depth (mergeSeries depth) where
  framed := by
    rintro a (_ | _ | _ | number) w
    · exact takes_unknown depth 0 w a
    · exact takes_known _ _ (takes_message (fun depth => (readBy_label depth).framed) _ depth 1 w)
    · exact takes_known _ _ (takes_message (fun depth => (readBy_sample depth).framed) _ depth 2 w)
    · exact takes_unknown depth (number + 3) w a
  skips := by
    rintro a (_ | _ | _ | number) w i h
    · rfl
    · exact absurd (by decide) h
    · exact absurd (by decide) h
    · rfl

theorem readBy_request (depth : Nat) : request.ReadBy depth (mergeRequest depth) where
  framed := by
    rintro a (_ | _ | number) w
    · exact takes_unknown depth 0 w a
    · exact takes_known _ _ (takes_message (fun depth => (readBy_series depth).framed) _ depth 1 w)
    · exact takes_unknown depth (number + 2) w a
  skips := by
    rintro a (_ | _ | number) w i h
    · rfl
    · exact absurd (by decide) h
    · rfl

variable {α β : Type} {kind : MessageKind} {depth number : Nat} {merge : Merge α} {a b : α} {before : List RawField}
  {after : List UInt8}

/-- One more field that a message does not know changes nothing. -/
theorem ReadBy.reads_here (hkind : kind.ReadBy depth merge) (hdepth : 90 < depth)
    (hbefore : ∀ g ∈ before, ∃ inside, g.WellFormed inside) {f : RawField} (hf : f.WellFormed 90)
    (hnumber : f.number ∉ kind.fieldNumbers) (h : Reads merge (RawField.allBytes before ++ after) a b) :
    Reads merge (RawField.allBytes before ++ f.bytes ++ after) a b := by
  obtain ⟨mid, hfirst, hrest⟩ := h.split hkind.framed hbefore
  have hskip : Reads merge f.bytes mid mid := by
    refine Reads.step hf.key fun rest => ?_
    rw [hkind.skips mid f.number f.type _ hnumber, unknown, skip_content hf.content hdepth]
  exact (hfirst.append hskip).append hrest

/-- A change inside a message of which its reader notices nothing is not noticed outside. -/
theorem ReadBy.reads_inside (hkind : kind.ReadBy depth merge) (hbefore : ∀ g ∈ before, ∃ inside, g.WellFormed inside)
    {inner : Nat → Merge β} (hinner : ∀ depth, Framed depth (inner depth)) {init : β} {inside : Nat} (name : String) (put : α → β → α)
    (hmerge : ∀ a i, merge a number .lengthDelimited i =
      known name (mapResult (put a) (message inner init (inside + 1) .lengthDelimited i)))
    {key length length' content content' : List UInt8} (hkey : Grammar.Key number .lengthDelimited key)
    (hlength : Grammar.Varint content.length length) (hlength' : Grammar.Varint content'.length length')
    (hreads : ∀ x, Reads (inner inside) content init x → Reads (inner inside) content' init x)
    (h : Reads merge (RawField.allBytes before ++ (key ++ length ++ content) ++ after) a b) :
    Reads merge (RawField.allBytes before ++ (key ++ length' ++ content') ++ after) a b := by
  rw [List.append_assoc] at h
  obtain ⟨mid, hfirst, hrest⟩ := h.split hkind.framed hbefore
  have hfield : RawField.WellFormed 0 ⟨number, .lengthDelimited, key, length ++ content⟩ := ⟨hkey, .lengthDelimited hlength⟩
  have hbytes : RawField.bytes ⟨number, .lengthDelimited, key, length ++ content⟩ = key ++ length ++ content :=
    (List.append_assoc key length content).symm
  rw [← hbytes] at hrest
  obtain ⟨last, hread, hafter⟩ := hrest.first hkind.framed hfield
  have hmessage := hread []
  simp only [hmerge] at hmessage
  obtain ⟨x, hcontent, rfl⟩ := known_eq_ok.1 hmessage
  obtain ⟨-, _, length₀, content₀, hinside, hlength₀, hsame, hx⟩ := reads_of_message hinner hcontent
  cases hinside
  obtain ⟨-, -, rfl⟩ := hlength.unique hlength₀ (List.append_cancel_right hsame)
  have hchanged : Reads merge (key ++ (length' ++ content')) mid (put mid x) := by
    refine Reads.step hkey fun rest => ?_
    rw [hmerge, message_grammar (hreads x hx) hlength']
    rfl
  rw [← List.append_assoc] at hchanged
  exact (hfirst.append hchanged).append hafter

/-- A message that holds no others: only what stands between its own fields can be new. -/
theorem ReadBy.inserts (hkind : kind.ReadBy depth merge) (hdepth : 90 < depth) (hinner : ∀ number, kind.inner? number = none)
    {bs bs' : List UInt8} (h : kind.Inserts bs bs') (hreads : Reads merge bs a b) : Reads merge bs' a b := by
  cases h with
  | here after hbefore hf hnumber => exact hkind.reads_here hdepth hbefore hf hnumber hreads
  | inside after hbefore hsome => cases (hinner _).symm.trans hsome

/-- What was read as a series is still, with one more field in it or in one of its labels and samples. -/
theorem inserts_series {depth : Nat} (hdepth : 90 < depth) {bs bs' : List UInt8} {a b : TimeSeries} (h : series.Inserts bs bs')
    (hreads : Reads (mergeSeries (depth + 1)) bs a b) : Reads (mergeSeries (depth + 1)) bs' a b := by
  cases h with
  | here after hbefore hf hnumber => exact (readBy_series (depth + 1)).reads_here (Nat.lt_succ_of_lt hdepth) hbefore hf hnumber hreads
  | @inside _ inner _ number _ _ _ _ _ after hbefore hinner hkey hlength hlength' hinserts =>
    rcases number with _ | _ | _ | number
    · cases hinner
    · cases hinner
      exact (readBy_series (depth + 1)).reads_inside hbefore (fun depth => (readBy_label depth).framed) _ _ (fun _ _ => rfl) hkey
        hlength hlength' (fun _ => (readBy_label depth).inserts hdepth (fun _ => rfl) hinserts) hreads
    · cases hinner
      exact (readBy_series (depth + 1)).reads_inside hbefore (fun depth => (readBy_sample depth).framed) _ _ (fun _ _ => rfl) hkey
        hlength hlength' (fun _ => (readBy_sample depth).inserts hdepth (fun _ => rfl) hinserts) hreads
    · cases hinner

/-- What was read as a request is still, with one more field anywhere in it. -/
theorem inserts_request {depth : Nat} (hdepth : 90 < depth) {bs bs' : List UInt8} {a b : WriteRequest} (h : request.Inserts bs bs')
    (hreads : Reads (mergeRequest (depth + 2)) bs a b) : Reads (mergeRequest (depth + 2)) bs' a b := by
  cases h with
  | here after hbefore hf hnumber =>
    exact (readBy_request (depth + 2)).reads_here (by omega) hbefore hf hnumber hreads
  | @inside _ inner _ number _ _ _ _ _ after hbefore hinner hkey hlength hlength' hinserts =>
    rcases number with _ | _ | number
    · cases hinner
    · cases hinner
      exact (readBy_request (depth + 2)).reads_inside hbefore (fun depth => (readBy_series depth).framed) _ _ (fun _ _ => rfl) hkey
        hlength hlength' (fun _ => inserts_series hdepth hinserts) hreads
    · cases hinner

end MessageKind

namespace WriteRequest

open Intake.Field

/-- A message is accepted as a request if and only if its fields make up the request. -/
theorem ofMessage_eq_ok {bs : List UInt8} {r : WriteRequest} :
    ofMessage bs = .ok r ↔ Reads (mergeRequest depthBudget) bs ⟨[]⟩ r := by
  have hframed := (MessageKind.readBy_request depthBudget).framed
  constructor
  · intro h
    unfold ofMessage at h
    cases hread : fields (mergeRequest depthBudget) 0 ⟨[]⟩ (Input.ofList bs) with
    | error e =>
      rw [hread] at h
      cases h
    | ok p =>
      obtain ⟨r', next⟩ := p
      rw [hread] at h
      cases h
      obtain ⟨hleft, fs, -, hbytes, hreads⟩ := reads_of_fields hframed hread
      have hnil : next.bytes = [] := List.eq_nil_of_length_eq_zero (next.left_eq.symm.trans hleft)
      have hbs : bs = RawField.allBytes fs ++ [] := hnil ▸ hbytes
      rw [List.append_nil] at hbs
      exact hbs ▸ hreads
  · intro h
    have hfields := fields_of_reads h []
    rw [List.append_nil] at hfields
    unfold ofMessage
    rw [List.length_nil] at hfields
    rw [hfields]

/-- What is accepted is a sequence of well-formed fields. With one more field anywhere, which the message it stands in does not know,
it is read as the same request. -/
theorem unknown_field_ignored {bs : List UInt8} {r : WriteRequest} (h : ofMessage bs = .ok r) :
    (∃ fs : List RawField, (∀ f ∈ fs, f.WellFormed depthBudget) ∧ bs = RawField.allBytes fs) ∧
      ∀ bs', MessageKind.request.Inserts bs bs' → ofMessage bs' = .ok r := by
  have hreads := ofMessage_eq_ok.1 h
  refine ⟨?_, fun bs' hinserts => ?_⟩
  · obtain ⟨-, fs, hfs, hbytes, -⟩ := reads_of_fields (MessageKind.readBy_request depthBudget).framed (fields_of_reads hreads [])
    exact ⟨fs, hfs, List.append_cancel_right hbytes⟩
  · have hdepth : 90 < 98 := by decide
    exact ofMessage_eq_ok.2 (MessageKind.inserts_request hdepth hinserts hreads)

/-- The field inside the group: a hundred bytes, the first of the fields below. -/
def groupBytes : List UInt8 := List.replicate 100 7

/-- A group with a field of a hundred bytes and one of four. Its key has a byte more than it needs. -/
def groupField : RawField :=
  ⟨3, .startGroup, [155, 0], RawField.allBytes [⟨1, .lengthDelimited, [10], [100] ++ groupBytes⟩,
    ⟨0x1fffffff, .thirtyTwoBit, [253, 255, 255, 255, 15], [1, 2, 3, 4]⟩] ++ [28]⟩

/-- What stands behind the name of the label. -/
def sentLabelValue : List UInt8 := [18, 12, 97, 97, 97, 97, 97, 97, 97, 97, 97, 97, 97, 97]

/-- What stands behind the label of the series. -/
def sentSamples : List UInt8 :=
  [18, 20, 9, 0, 0, 0, 0, 0, 0, 0, 128, 16, 255, 255, 255, 255, 255, 255, 255, 255, 255, 1, 18, 0]

/-- The field that names the label. -/
def sentLabelName : RawField := ⟨1, .lengthDelimited, [10], [8] ++ [95, 95, 110, 97, 109, 101, 95, 95]⟩

def labelWithGroup : List UInt8 := RawField.allBytes [sentLabelName] ++ groupField.bytes ++ sentLabelValue

def seriesWithGroup : List UInt8 := RawField.allBytes [] ++ ([10] ++ [138, 1] ++ labelWithGroup) ++ sentSamples

/-- The request with the group inside its label; two lengths now take two bytes. -/
def sentWithGroup : List UInt8 := RawField.allBytes [] ++ ([10] ++ [165, 1] ++ seriesWithGroup) ++ []

theorem groupField_wellFormed : groupField.WellFormed 90 := by
  have hlength : Grammar.Varint groupBytes.length [100] := by decide
  refine ⟨by decide, .group ?_ ?_ (by decide)⟩
  · exact List.forall_mem_cons.2 ⟨by decide, List.forall_mem_singleton.2 (by decide)⟩
  · exact List.forall_mem_cons.2 ⟨.lengthDelimited hlength, List.forall_mem_singleton.2 (.thirtyTwoBit rfl)⟩

theorem sentLabelName_wellFormed : sentLabelName.WellFormed 0 :=
  ⟨by decide, .lengthDelimited (by decide)⟩

theorem inserts_sentWithGroup : MessageKind.request.Inserts sentContent sentWithGroup := by
  have hkey : Grammar.Key 1 .lengthDelimited [10] := by decide
  have hnone : ∀ g ∈ ([] : List RawField), ∃ depth, g.WellFormed depth := fun _ hg => absurd hg List.not_mem_nil
  have hlabel : MessageKind.label.Inserts (RawField.allBytes [sentLabelName] ++ sentLabelValue) labelWithGroup :=
    .here sentLabelValue (List.forall_mem_singleton.2 ⟨0, sentLabelName_wellFormed⟩) groupField_wellFormed (by decide)
  have hseries : MessageKind.series.Inserts (RawField.allBytes [] ++ ([10] ++ [24] ++
      (RawField.allBytes [sentLabelName] ++ sentLabelValue)) ++ sentSamples) seriesWithGroup :=
    .inside sentSamples hnone rfl hkey (by decide) (by decide +kernel) hlabel
  have hrequest : MessageKind.request.Inserts (RawField.allBytes [] ++ ([10] ++ [50] ++ (RawField.allBytes [] ++ ([10] ++ [24] ++
      (RawField.allBytes [sentLabelName] ++ sentLabelValue)) ++ sentSamples)) ++ []) sentWithGroup :=
    .inside [] hnone rfl hkey (by decide) (by decide +kernel) hseries
  exact hrequest

/-- A group inside a label is not noticed. -/
theorem unknown_field_ignored_groupInLabel :
    ofMessage sentContent = .ok sentRequest ∧ MessageKind.request.Inserts sentContent sentWithGroup ∧
      ofMessage sentWithGroup = .ok sentRequest := by
  have hsent : ofMessage sentContent = .ok sentRequest := ofMessage_encoding sentRequest_inRange sentRequest_encodesTo (by decide)
  exact ⟨hsent, inserts_sentWithGroup, (unknown_field_ignored hsent).2 sentWithGroup inserts_sentWithGroup⟩

end WriteRequest

end Intake
