import Intake.LogFilter
import Intake.Service.Startup
import Intake.Settings.Layers

/-!
# Program: the service as it is run from a directory and an environment

The program loads its settings, checks them, and starts. Nothing is logged before the settings are known to be good, because they
say what is logged; the variable `RUST_LOG` has the last word on that.
-/

namespace Intake

namespace Program

/-- What may be logged: the variable decides, if it holds a filter, and otherwise the level of the settings. -/
def filter (s : Surroundings) (settings : Settings) : List LogDirective :=
  let own := (LogFilter.read? settings.log.level).getD []
  match Layers.valueOf? s "RUST_LOG" with
  | none => own
  | some text => (LogFilter.read? text).getD own

/-- The settings of the surroundings, checked. -/
def settings (s : Surroundings) : Except Failure Settings :=
  match Settings.load s with
  | .error e => .error (.settings e)
  | .ok settings =>
    match settings.check with
    | .error e => .error (.invalidSettings e.message)
    | .ok () => .ok settings

/-- Starts the service with checked settings. -/
def start {σ : Type} (svc : DatabaseServer σ) (pause : ReaderT Span (Act (Source × σ)) Unit) (name : String)
    (settings : Settings) : Act σ (Except Failure Startup.Ready) := do
  Act.report [.starting settings]
  let r ← Startup.start svc pause name settings {}
  Act.report (match r with | .ok _ => [] | .error e => [.startFailed e])
  return r

/-- What a program that failed says last. -/
def lastWords (e : Failure) : String := "Error: " ++ e.detail.text

end Program

end Intake
