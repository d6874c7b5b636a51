import Intake.Proofs.Text.Utf8
import Intake.Proofs.Wire.Block
import Intake.Proofs.Wire.Field

/-!
# Write requests: what was sent is what is read

A sender encodes a request as a message, with some freedom about zeros, and compresses it, with much freedom about elements.
Whatever it chose, reading the body gives back the request it began with (`decode_of_holds`): every series with its labels and
samples in order, every value with its bits.

The proof goes up through the messages. A label, a sample and a series are each taken in by reading their fields (`reads_label`,
`reads_sample`, `reads_series`), and each is a field of the message around it.
-/

namespace Intake

/-- A timestamp of sixty-four bits, the most that a message can carry. -/
def WireSample.InRange (p : WireSample) : Prop := -0x8000000000000000 ≤ p.timestamp ∧ p.timestamp < 0x8000000000000000

namespace WriteRequest

open Intake.Field

/-! ## Contents of fields -/

/-- The two's complement of a number in range is read back. -/
theorem signed_encoding {i : Int} (hlow : -0x8000000000000000 ≤ i) (hhigh : i < 0x8000000000000000) :
    signed (i % 0x10000000000000000).toNat = i := by
  unfold signed
  split <;> omega

theorem intField_encoding {i : Int} (hlow : -0x8000000000000000 ≤ i) (hhigh : i < 0x8000000000000000) (rest : List UInt8) :
    intField .varint (Input.ofList (Encoding.varint (i % 0x10000000000000000).toNat ++ rest)) = .ok (i, Input.ofList rest) := by
  have hexpect : expect .varint .varint = .ok () := rfl
  have hbound : (i % 0x10000000000000000).toNat < varintBound := by
    unfold varintBound
    omega
  unfold intField
  rw [hexpect]
  simp only [varint_encoding hbound, signed_encoding hlow hhigh]

theorem doubleField_encoding (x : Binary64) (rest : List UInt8) :
    doubleField .sixtyFourBit (Input.ofList (Encoding.littleEndian 8 x.bits.toNat ++ rest)) = .ok (x, Input.ofList rest) := by
  have hexpect : expect .sixtyFourBit .sixtyFourBit = .ok () := rfl
  have htake := Input.take?_append (Encoding.littleEndian 8 x.bits.toNat) rest
  rw [Encoding.length_littleEndian] at htake
  unfold doubleField
  rw [hexpect]
  simp only [bytes, htake]
  rw [Input.littleEndian_encoding x.bits.toNat_lt, UInt64.ofNat_toNat]

theorem textField_encoding {s : String} (h : (Utf8.bytes s).length < varintBound) (rest : List UInt8) :
    textField .lengthDelimited (Input.ofList (Encoding.varint (Utf8.bytes s).length ++ Utf8.bytes s ++ rest)) =
      .ok (s, Input.ofList rest) := by
  have hexpect : expect .lengthDelimited .lengthDelimited = .ok () := rfl
  unfold textField
  rw [hexpect]
  simp only [delimited_encoding h, Utf8.decode?_bytes]

/-! ## Fields that may be left out -/

/-- A text field takes the text in, and one that is left out leaves the empty text that was there. -/
theorem reads_text {α : Type} {merge : Merge α} {number : Nat} {name : String} {s : String} (put : String → α)
    (hpos : 0 < number) (hlt : number < 0x20000000)
    (hmerge : ∀ i, merge (put "") number .lengthDelimited i = known name (mapResult put (textField .lengthDelimited i)))
    (hlength : (Encoding.text number s).length < varintBound) : Reads merge (Encoding.text number s) (put "") (put s) := by
  unfold Encoding.text at hlength ⊢
  by_cases hs : s = ""
  · rw [if_pos hs, hs]
    exact Reads.nil _
  · rw [if_neg hs] at hlength ⊢
    have hinside := Encoding.length_le_delimited number (Utf8.bytes s)
    unfold Encoding.delimited
    rw [List.append_assoc]
    exact Reads.known put hpos hlt hmerge (textField_encoding (Nat.lt_of_le_of_lt hinside hlength))

/-- A field that may be left out takes a message where it should, if leaving it out changes nothing. -/
theorem reads_mayOmit {α : Type} {merge : Merge α} {isZero : Prop} {written bs : List UInt8} {a b : α}
    (h : MayOmit isZero written bs) (hwritten : Reads merge written a b) (hzero : isZero → b = a) : Reads merge bs a b := by
  cases h with
  | present => exact hwritten
  | absent hz =>
    rw [hzero hz]
    exact Reads.nil a

/-! ## Messages -/

theorem reads_label (depth : Nat) {l : WireLabel} (hlength : (Encoding.label l).length < varintBound) :
    Reads (mergeLabel depth) (Encoding.label l) ⟨"", ""⟩ l := by
  unfold Encoding.label at hlength ⊢
  rw [List.length_append] at hlength
  have hname : Reads (mergeLabel depth) (Encoding.text 1 l.name) ⟨"", ""⟩ ⟨l.name, ""⟩ :=
    reads_text (fun s => (⟨s, ""⟩ : WireLabel)) (by decide) (by decide) (fun _ => rfl) (by omega)
  have hvalue : Reads (mergeLabel depth) (Encoding.text 2 l.value) ⟨l.name, ""⟩ ⟨l.name, l.value⟩ :=
    reads_text (fun s => (⟨l.name, s⟩ : WireLabel)) (by decide) (by decide) (fun _ => rfl) (by omega)
  exact hname.append hvalue

theorem reads_sample (depth : Nat) {p : WireSample} {bs : List UInt8} (hrange : p.InRange) (h : p.EncodesTo bs) :
    Reads (mergeSample depth) bs ⟨Binary64.zero, 0⟩ p := by
  obtain ⟨hvalue, htime⟩ := h
  have hdouble : Reads (mergeSample depth) (Encoding.double 1 p.value) ⟨Binary64.zero, 0⟩ ⟨p.value, 0⟩ :=
    Reads.known (fun v => (⟨v, 0⟩ : WireSample)) (by decide) (by decide) (fun _ => rfl) (doubleField_encoding p.value)
  have hint : Reads (mergeSample depth) (Encoding.integer 2 p.timestamp) ⟨p.value, 0⟩ ⟨p.value, p.timestamp⟩ :=
    Reads.known (fun t => (⟨p.value, t⟩ : WireSample)) (by decide) (by decide) (fun _ => rfl) (intField_encoding hrange.1 hrange.2)
  have hfirst := reads_mayOmit hvalue hdouble fun hz => by rw [hz]
  have hsecond := reads_mayOmit htime hint fun hz => by rw [hz]
  exact hfirst.append hsecond

/-- Labels written one after another are each the only encoding of themselves. -/
theorem encodeEach_labels (ls : List WireLabel) :
    EncodeEach (fun l bs => bs = Encoding.label l) 1 ls (ls.flatMap fun l => Encoding.delimited 1 (Encoding.label l)) := by
  induction ls with
  | nil => exact .nil
  | cons l rest ih => exact .cons rfl ih

theorem reads_series (depth : Nat) {s : TimeSeries} {bs : List UInt8} (hrange : ∀ p ∈ s.samples, p.InRange) (h : s.EncodesTo bs)
    (hlength : bs.length < varintBound) : Reads (mergeSeries (depth + 1)) bs ⟨[], []⟩ s := by
  obtain @⟨samples, hsamples⟩ := h
  rw [List.length_append] at hlength
  have hlabels : Reads (mergeSeries (depth + 1)) (s.labels.flatMap fun l => Encoding.delimited 1 (Encoding.label l))
      ⟨[], []⟩ ⟨[] ++ s.labels, []⟩ := by
    refine reads_encodeEach (fun ls : List WireLabel => (⟨ls, []⟩ : TimeSeries)) (encodeEach_labels s.labels) (by omega) ?_ []
    intro l _ content before hcontent hbound
    have hinside := Encoding.length_le_delimited 1 content
    subst hcontent
    have hlabel := reads_label depth (l := l) (by omega)
    exact Reads.message (fun l => (⟨before ++ [l], []⟩ : TimeSeries)) (by decide) (by decide) (fun _ => rfl) hlabel hbound
  have hmore : Reads (mergeSeries (depth + 1)) samples ⟨s.labels, []⟩ ⟨s.labels, [] ++ s.samples⟩ := by
    refine reads_encodeEach (fun ps : List WireSample => (⟨s.labels, ps⟩ : TimeSeries)) hsamples (by omega) ?_ []
    intro p hp content before hcontent hbound
    have hsample := reads_sample depth (hrange p hp) hcontent
    exact Reads.message (fun p => (⟨s.labels, before ++ [p]⟩ : TimeSeries)) (by decide) (by decide) (fun _ => rfl) hsample hbound
  rw [List.nil_append] at hlabels hmore
  exact hlabels.append hmore

/-- The message of a request is read back. -/
theorem ofMessage_encoding {r : WriteRequest} {bs : List UInt8} (hrange : ∀ s ∈ r.timeseries, ∀ p ∈ s.samples, p.InRange)
    (h : r.EncodesTo bs) (hlength : bs.length < varintBound) : ofMessage bs = .ok r := by
  have hreads : Reads (mergeRequest depthBudget) bs ⟨[]⟩ ⟨[] ++ r.timeseries⟩ := by
    refine reads_encodeEach (fun ss : List TimeSeries => (⟨ss⟩ : WriteRequest)) h hlength ?_ []
    intro s hs content before hcontent hbound
    have hinside := Encoding.length_le_delimited 1 content
    have hseries := reads_series 98 (hrange s hs) hcontent (by omega)
    exact Reads.message (fun s => (⟨before ++ [s]⟩ : WriteRequest)) (by decide) (by decide) (fun _ => rfl) hseries hbound
  have hfields := fields_of_reads hreads []
  rw [List.append_nil, List.nil_append, List.length_nil] at hfields
  unfold ofMessage
  rw [hfields]

/-! ## Bodies -/

/-- A body that holds an encoding of a request, however it was compressed, is read as that request. -/
theorem decode_of_holds {r : WriteRequest} {content block : List UInt8} (hrange : ∀ s ∈ r.timeseries, ∀ p ∈ s.samples, p.InRange)
    (hcontent : r.EncodesTo content) (hlength : content.length ≤ maxBlockLength) (hblock : Block.Holds block content) :
    decode block = .ok r := by
  have hbound : content.length < varintBound := Nat.lt_of_le_of_lt hlength (by decide)
  unfold decode
  rw [Block.expand_of_holds hblock hlength]
  simp only [ofMessage_encoding hrange hcontent hbound]

/-- A series with a negative zero before the epoch and with a sample of zeros. -/
def sentRequest : WriteRequest :=
  ⟨[⟨[⟨"__name__", "aaaaaaaaaaaa"⟩], [⟨⟨0x8000000000000000⟩, -1⟩, ⟨Binary64.zero, 0⟩]⟩]⟩

/-- An encoding of it in which the zeros of the last sample are left out. -/
def sentContent : List UInt8 :=
  [10, 50, 10, 24, 10, 8, 95, 95, 110, 97, 109, 101, 95, 95, 18, 12, 97, 97, 97, 97, 97, 97, 97, 97, 97, 97, 97, 97, 18, 20, 9, 0, 0, 0,
    0, 0, 0, 0, 128, 16, 255, 255, 255, 255, 255, 255, 255, 255, 255, 1, 18, 0]

/-- That content in literals and copies of every kind; the copies reach into themselves. -/
def sentElements : List BlockElement :=
  [.shortLiteral [10, 50, 10, 24, 10, 8, 95, 95, 110, 97, 109, 101, 95, 95, 18, 12, 97], .nearCopy 11 1, .longLiteral 1 [18, 20, 9, 0],
    .farCopy false 6 1, .longLiteral 2 [128, 16, 255], .farCopy true 8 1, .shortLiteral [1, 18, 0]]

def sentBlock : List UInt8 := Encoding.varint sentContent.length ++ sentElements.flatMap BlockElement.encode

theorem sentRequest_inRange : ∀ s ∈ sentRequest.timeseries, ∀ p ∈ s.samples, p.InRange := by
  unfold WireSample.InRange
  decide

theorem sentRequest_encodesTo : sentRequest.EncodesTo sentContent := by
  have hfirst : WireSample.EncodesTo ⟨⟨0x8000000000000000⟩, -1⟩ _ := .fields .present .present
  have hsecond : WireSample.EncodesTo ⟨Binary64.zero, 0⟩ _ := .fields (.absent rfl) (.absent rfl)
  have hseries : TimeSeries.EncodesTo ⟨[⟨"__name__", "aaaaaaaaaaaa"⟩], [⟨⟨0x8000000000000000⟩, -1⟩, ⟨Binary64.zero, 0⟩]⟩ _ :=
    .fields (.cons hfirst (.cons hsecond .nil))
  have hrequest : sentRequest.EncodesTo _ := .cons hseries .nil
  refine Eq.mp (congrArg sentRequest.EncodesTo ?_) hrequest
  decide +kernel

theorem sentBlock_holds : Block.Holds sentBlock sentContent :=
  ⟨sentElements, .step (by decide) (.step (by decide) (.step (by decide) (.step (by decide) (.step (by decide) (.step (by decide)
    (.step (by decide) (.done _))))))), rfl⟩

/-- What was sent is read back from a block with overlapping copies. -/
theorem decode_sentBlock :
    (∀ s ∈ sentRequest.timeseries, ∀ p ∈ s.samples, p.InRange) ∧ sentRequest.EncodesTo sentContent ∧
      sentContent.length ≤ maxBlockLength ∧ Block.Holds sentBlock sentContent ∧ decode sentBlock = .ok sentRequest :=
  ⟨sentRequest_inRange, sentRequest_encodesTo, by decide, sentBlock_holds,
    decode_of_holds sentRequest_inRange sentRequest_encodesTo (by decide) sentBlock_holds⟩

end WriteRequest

end Intake
