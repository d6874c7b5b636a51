import Intake.Series.Sample
import Intake.Wire.Block
import Intake.Wire.Field

/-!
# Write requests: what senders post

A write request carries series, each with its labels and its samples in the order they were written. It is a tagged message in a
compressed block. `WriteRequest.decode` reads a body, and `WriteRequest.samples` lays the series end to end, every sample with
the label map of its series.
-/

namespace Intake

/-- A label as sent: a series may repeat a name. -/
structure WireLabel where
  name : String
  value : String
  deriving DecidableEq, Inhabited, Repr

/-- A data point as sent. -/
structure WireSample where
  value : Binary64
  /-- Milliseconds since the Unix epoch. -/
  timestamp : Int
  deriving DecidableEq, Inhabited, Repr

structure TimeSeries where
  labels : List WireLabel
  samples : List WireSample
  deriving DecidableEq, Inhabited, Repr

/-- The label map of a series: of a repeated name the last value counts. -/
def TimeSeries.labelMap (s : TimeSeries) : Labels := Labels.ofPairs (s.labels.map fun l => (l.name, l.value))

structure WriteRequest where
  timeseries : List TimeSeries
  deriving DecidableEq, Inhabited, Repr

/-- Why a body is no write request. -/
inductive DecodeError where
  | block (cause : BlockError)
  | message (cause : MessageError)
  deriving DecidableEq, Repr

def DecodeError.text : DecodeError → String
  | .block e => "Snappy decompression failed: " ++ e.message
  | .message e => "Protobuf decoding failed: " ++ e.message

namespace WriteRequest

/-- The two's-complement reading of sixty-four bits. -/
def signed (n : Nat) : Int := if n < 0x8000000000000000 then n else (n : Int) - 0x10000000000000000

/-- The content of a text field. -/
def textField (w : WireType) (i : Input) : FieldResult String :=
  match Field.expect .lengthDelimited w with
  | .error e => .error e
  | .ok () =>
    match Field.delimited i with
    | .error e => .error e
    | .ok (bs, rest) =>
      match Utf8.decode? bs with
      | some s => .ok (s, rest)
      | none => .error (Field.fault .notUtf8)

/-- The content of a double field: eight bytes, lowest first. -/
def doubleField (w : WireType) (i : Input) : FieldResult Binary64 :=
  match Field.expect .sixtyFourBit w with
  | .error e => .error e
  | .ok () =>
    match Field.bytes 8 i with
    | .error e => .error e
    | .ok (bs, rest) => .ok (⟨UInt64.ofNat (Input.littleEndian bs)⟩, rest)

/-- The content of a signed integer field. -/
def intField (w : WireType) (i : Input) : FieldResult Int :=
  match Field.expect .varint w with
  | .error e => .error e
  | .ok () =>
    match Field.varint i with
    | .error e => .error e
    | .ok (n, rest) => .ok (signed n, rest)

/-- Applies a function to what was read. -/
def mapResult {α β : Type} (f : α → β) (r : FieldResult α) : FieldResult β :=
  match r with
  | .error e => .error e
  | .ok (a, rest) => .ok (f a, rest)

def mergeLabel (depth : Nat) : Field.Merge WireLabel := fun acc number w i =>
  match number with
  | 1 => Field.known "Label.name" (mapResult (fun s => { acc with name := s }) (textField w i))
  | 2 => Field.known "Label.value" (mapResult (fun s => { acc with value := s }) (textField w i))
  | _ => Field.unknown depth acc number w i

def mergeSample (depth : Nat) : Field.Merge WireSample := fun acc number w i =>
  match number with
  | 1 => Field.known "Sample.value" (mapResult (fun v => { acc with value := v }) (doubleField w i))
  | 2 => Field.known "Sample.timestamp" (mapResult (fun t => { acc with timestamp := t }) (intField w i))
  | _ => Field.unknown depth acc number w i

def mergeSeries (depth : Nat) : Field.Merge TimeSeries := fun acc number w i =>
  match number with
  | 1 =>
    Field.known "TimeSeries.labels"
      (mapResult (fun l => { acc with labels := acc.labels ++ [l] }) (Field.message mergeLabel ⟨"", ""⟩ depth w i))
  | 2 =>
    Field.known "TimeSeries.samples"
      (mapResult (fun s => { acc with samples := acc.samples ++ [s] })
        (Field.message mergeSample ⟨Binary64.zero, 0⟩ depth w i))
  | _ => Field.unknown depth acc number w i

def mergeRequest (depth : Nat) : Field.Merge WriteRequest := fun acc number w i =>
  match number with
  | 1 =>
    Field.known "WriteRequest.timeseries"
      (mapResult (fun s => { acc with timeseries := acc.timeseries ++ [s] })
        (Field.message mergeSeries ⟨[], []⟩ depth w i))
  | _ => Field.unknown depth acc number w i

/-- Reads the message of an expanded body. -/
def ofMessage (bs : List UInt8) : Except MessageError WriteRequest :=
  match Field.fields (mergeRequest Field.depthBudget) 0 ⟨[]⟩ (Input.ofList bs) with
  | .error e => .error e
  | .ok (r, _) => .ok r

/-- Reads the body of a request. -/
def decode (body : List UInt8) : Except DecodeError WriteRequest :=
  match Block.expand body with
  | .error e => .error (.block e)
  | .ok raw =>
    match ofMessage raw with
    | .error e => .error (.message e)
    | .ok r => .ok r

/-- All samples, series by series, each with the label map of its series. -/
def samples (r : WriteRequest) : List Sample :=
  r.timeseries.flatMap fun s =>
    let labels := s.labelMap
    s.samples.map fun p => ⟨labels, p.value, p.timestamp⟩

end WriteRequest

end Intake
