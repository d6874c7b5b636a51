import Intake.Number.Decimal
import Intake.Text.Utf8

/-!
# Meters: what the service counts and times

The service counts samples received, sent and failed, and times batch writes and requests. A family of meters has one child for
each label value it was ever used with. The exposition lists all families by name in the text format that monitoring systems
collect (`Meters.exposition`).
-/

namespace Intake

/-- How often values fell into each bucket, with their sum and number. -/
structure Histogram where
  /-- One number for each bound: the values that lie at most at the bound and above the bound before. -/
  buckets : List Nat
  sum : Binary64
  count : Nat
  deriving DecidableEq, Inhabited, Repr

namespace Histogram

/-- The upper bounds of the buckets: 0.005, 0.01, 0.025, 0.05, 0.1, 0.25, 0.5, 1, 2.5, 5 and 10. -/
def bounds : List Binary64 :=
  [(5, 1000), (10, 1000), (25, 1000), (50, 1000), (100, 1000), (250, 1000), (500, 1000), (1000, 1000), (2500, 1000),
    (5000, 1000), (10000, 1000)].map fun (n, d) => Binary64.ofQuotient false n d

def empty : Histogram := ⟨bounds.map fun _ => 0, Binary64.zero, 0⟩

/-- Counts a value in the first bucket whose bound is not below it, if there is one. -/
def countIn (x : Binary64) : List Binary64 → List Nat → List Nat
  | b :: bs, n :: ns => if x.le b then (n + 1) :: ns else n :: countIn x bs ns
  | _, ns => ns

/-- Takes in one value. -/
def observe (h : Histogram) (x : Binary64) : Histogram :=
  ⟨countIn x bounds h.buckets, h.sum.add x, h.count + 1⟩

/-- The numbers of values at most at each bound. -/
def cumulative (h : Histogram) : List Nat := (h.buckets.foldl (fun acc n => (acc.headD 0 + n) :: acc) []).reverse

end Histogram

/-- The children of a family, by label value, in the order of their first use. -/
abbrev Family (α : Type) := List (String × α)

namespace Family

/-- Changes the child of a label value, which is made from `init` when it is new. -/
def update {α : Type} (init : α) (label : String) (f : α → α) : Family α → Family α
  | [] => [(label, f init)]
  | (k, a) :: r => if k = label then (k, f a) :: r else (k, a) :: update init label f r

/-- Makes the child of a label value if it is new. -/
def touch {α : Type} (init : α) (label : String) (m : Family α) : Family α := update init label id m

/-- The children by the bytes of their label values. -/
def sorted {α : Type} (m : Family α) : List (String × α) := m.mergeSort fun a b => Utf8.atMost a.1 b.1

end Family

/-- All meters of the service. -/
structure Meters where
  received : Binary64
  /-- Samples written, by the name of the store. -/
  sent : Family Binary64
  /-- Samples whose write failed, by the name of the store. -/
  failed : Family Binary64
  /-- Seconds per batch written, by the name of the store. -/
  batchDuration : Family Histogram
  /-- Milliseconds per request, by route. -/
  requestDuration : Family Histogram
  deriving Inhabited

namespace Meters

def empty : Meters := ⟨Binary64.zero, [], [], [], []⟩

def addReceived (m : Meters) (n : Binary64) : Meters := { m with received := m.received.add n }

def addSent (m : Meters) (store : String) (n : Binary64) : Meters :=
  { m with sent := m.sent.update Binary64.zero store (·.add n) }

def addFailed (m : Meters) (store : String) (n : Binary64) : Meters :=
  { m with failed := m.failed.update Binary64.zero store (·.add n) }

def observeBatch (m : Meters) (store : String) (seconds : Binary64) : Meters :=
  { m with batchDuration := m.batchDuration.update Histogram.empty store (·.observe seconds) }

def observeRequest (m : Meters) (route : String) (millis : Binary64) : Meters :=
  { m with requestDuration := m.requestDuration.update Histogram.empty route (·.observe millis) }

/-- The sent counter of a store, which exists from the first time it is asked for. -/
def readSent (m : Meters) (store : String) : Binary64 × Meters :=
  let sent := m.sent.touch Binary64.zero store
  ((sent.lookup store).getD Binary64.zero, { m with sent })

/-! ## Exposition -/

/-- A label value between quotes. -/
def escapeLabel (s : String) : String :=
  String.ofList (s.toList.flatMap fun c =>
    if c = '\\' then ['\\', '\\'] else if c = '\n' then ['\\', 'n'] else if c = '"' then ['\\', '"'] else [c])

/-- A label as it stands between the braces. -/
def labelText (name value : String) : String := name ++ "=\"" ++ escapeLabel value ++ "\""

/-- A line of the exposition: name, labels in braces if there are any, value. -/
def line (name : String) (labels : List String) (value : String) : String :=
  name ++ (if labels.isEmpty then "" else "\x7b" ++ ",".intercalate labels ++ "\x7d") ++ " " ++ value

/-- The two lines that open a family. -/
def heading (name kind help : String) : List String := ["# HELP " ++ name ++ " " ++ help, "# TYPE " ++ name ++ " " ++ kind]

def counterLines (name label help : String) (f : Family Binary64) : List String :=
  if f.isEmpty then []
  else heading name "counter" help ++ f.sorted.map fun (v, n) => line name [labelText label v] (Decimal.text n)

def histogramChild (name label : String) (child : String × Histogram) : List String :=
  let own := labelText label child.1
  let h := child.2
  let buckets := (Histogram.bounds.zip h.cumulative).map fun (b, n) =>
    line (name ++ "_bucket") [own, labelText "le" (Decimal.text b)] (toString n)
  buckets ++
    [line (name ++ "_bucket") [own, labelText "le" "+Inf"] (toString h.count),
      line (name ++ "_sum") [own] (Decimal.text h.sum), line (name ++ "_count") [own] (toString h.count)]

def histogramLines (name label help : String) (f : Family Histogram) : List String :=
  if f.isEmpty then [] else heading name "histogram" help ++ f.sorted.flatMap (histogramChild name label)

/-- The lines of the exposition: families by name, children by label value. A family without children is left out. -/
def lines (m : Meters) : List String :=
  counterLines "failed_samples_total" "remote"
      "Total number of processed samples which failed on send to remote storage." m.failed
    ++ histogramLines "http_request_duration_ms" "path" "Duration of HTTP request in milliseconds" m.requestDuration
    ++ heading "received_samples_total" "counter" "Total number of received samples."
    ++ [line "received_samples_total" [] (Decimal.text m.received)]
    ++ histogramLines "sent_batch_duration_seconds" "remote"
      "Duration of sample batch send calls to the remote storage." m.batchDuration
    ++ counterLines "sent_samples_total" "remote" "Total number of processed samples sent to remote storage." m.sent

/-- The text of the exposition. -/
def exposition (m : Meters) : String := String.join (m.lines.map (· ++ "\n"))

end Meters

/-- A collection of meters that are shown together; each name can be registered once. -/
structure Registry where
  names : List String := []
  deriving Inhabited

/-- The names of the families of the service. -/
def Meters.familyNames : List String :=
  ["received_samples_total", "sent_samples_total", "failed_samples_total", "sent_batch_duration_seconds",
    "http_request_duration_ms"]

/-- Registers the families of the service; none when one of the names is taken. -/
def Registry.register? (r : Registry) : Option Registry :=
  if Meters.familyNames.any r.names.contains then none else some ⟨r.names ++ Meters.familyNames⟩

end Intake
