import Intake.Text.Utf8

/-!
# Routes: which requests are answered by what

A request is offered to the routes in order: writing, health, telemetry, leadership. A route takes a request whose path and
method are its own. Every route that was offered a request counts it, also when it did not take it. When no route takes a
request, the answer says that the method is wrong if some route had the path, and that there is no such path otherwise.

A path is compared as it is, piece by piece between slashes, and one slash at its end does not count. A target may name a scheme
and a host in front of its path.
-/

namespace Intake

/-- What a request asks for. -/
inductive Endpoint where
  | write | health | telemetry | readLeader | decideLeader
  deriving DecidableEq, Inhabited, Repr

structure Request where
  method : String
  /-- The target as sent, with query and fragment. -/
  target : String
  body : List UInt8
  deriving Inhabited

structure Response where
  status : Nat
  /-- Whether the answer says it is plain text. -/
  isText : Bool := true
  body : String
  deriving DecidableEq, Inhabited, Repr

/-- The type of every answer that has one. -/
def Response.textType : String := "text/plain; charset=utf-8"

/-- A path with the methods it takes. -/
structure Route where
  path : List String
  methods : List (String × Endpoint)
  deriving Inhabited

namespace Route

/-- The name under which a route is counted. -/
def label (r : Route) : String := "/" ++ "/".intercalate r.path

/-- The routes in the order in which they are offered a request. -/
def table (telemetry : String) : List Route :=
  [⟨["write"], [("POST", .write)]⟩, ⟨["healthz"], [("GET", .health)]⟩, ⟨[telemetry], [("GET", .telemetry)]⟩,
    ⟨["admin", "leader"], [("GET", .readLeader), ("PUT", .decideLeader)]⟩]

/-- Whether a query or a fragment begins with a character. -/
def endsPath (c : Char) : Bool := c = '?' || c = '#'

/-- What follows the scheme at the beginning of a target, if it has one. -/
def afterScheme? : List Char → Option (List Char)
  | ':' :: '/' :: '/' :: r => some r
  | c :: r => if c = '/' || endsPath c then none else afterScheme? r
  | [] => none

/-- A target without its scheme and its host. A host alone has the path of a single slash. -/
def withoutHost (target : List Char) : List Char :=
  match afterScheme? target with
  | none => target
  | some r =>
    match r.dropWhile fun c => c ≠ '/' && !endsPath c with
    | '/' :: path => '/' :: path
    | rest => '/' :: rest

/-- The path of a target: what stands before a query or a fragment. -/
def pathOf (target : String) : List Char := (withoutHost target.toList).takeWhile fun c => !endsPath c

/-- The pieces of a path between its slashes, without the empty one before the first. -/
def splitSlash : List Char → List (List Char)
  | [] => [[]]
  | c :: cs =>
    if c = '/' then [] :: splitSlash cs
    else
      match splitSlash cs with
      | [] => [[c]]
      | p :: ps => (c :: p) :: ps

/-- The pieces of a path; none when it does not begin with a slash. One empty piece at the end, from a slash, is dropped. A target
that is but a star stands for itself. -/
def segments (target : String) : List String :=
  match splitSlash (pathOf target) with
  | [] :: ps =>
    let names := ps.map String.ofList
    if 1 < names.length ∧ names.getLast? = some "" then names.dropLast else names
  | _ => if target = "*" then [target] else []

/-- How a route takes a request. -/
inductive Trial where
  | taken (endpoint : Endpoint)
  | wrongMethod
  | wrongPath
  deriving DecidableEq, Repr

def offer (r : Route) (q : Request) : Trial :=
  if segments q.target ≠ r.path then .wrongPath
  else
    match r.methods.lookup q.method with
    | some e => .taken e
    | none => .wrongMethod

/-- What offering a request to routes leads to: the labels of the routes that refused it, in order, and the route that took it,
or whether one of them refused only its method. -/
structure Dispatch where
  refused : List String
  outcome : Option (String × Endpoint)
  wrongMethod : Bool
  deriving Inhabited, Repr

def dispatchTo : List Route → Request → Dispatch
  | [], _ => ⟨[], none, false⟩
  | r :: rs, q =>
    match r.offer q with
    | .taken e => ⟨[], some (r.label, e), false⟩
    | t =>
      let d := dispatchTo rs q
      ⟨r.label :: d.refused, d.outcome, d.wrongMethod || decide (t = .wrongMethod)⟩

def dispatch (telemetry : String) (q : Request) : Dispatch := dispatchTo (table telemetry) q

end Route

end Intake
