import LoginCallback.Exchange.Recorder
import LoginCallback.Fault
import LoginCallback.Text.Case

/-!
# Setting up the journal

Which records are kept is set by a severity, given by name or as a number. Records are written as
lines to the console, and to a file if one is wanted. Tracing has to be enabled on its own, and is
then announced.
-/

namespace LoginCallback

namespace Severity

/-- The severities that can be set by name. -/
def settable : List (String × Severity) :=
  [("ERROR", error), ("INFO", info), ("DEBUG", debug), ("TRACE", trace)]

/-- The severity of a name, in any letter case; every other text means `info`. -/
def ofName (name : String) : Severity := (settable.lookup (Text.upper name)).getD info

/-- The severity of a value, which is the name or the number of one that can be set. -/
def ofValue (v : Value) : Except Fault Severity :=
  match v, v.asInt? with
  | .text s, _ => .ok (ofName s)
  | _, some n =>
    if settable.any (·.2 == n) then .ok n else .error (.notAChoice v "LogLevel")
  | _, none => .error (.notAChoice v "LogLevel")

/-- The severity that a setting gives; numbers are taken as they are. -/
def ofSetting (v : Value) : Except Fault Severity :=
  match v with
  | .text s => .ok (ofName s)
  | .int n => .ok n
  | .bool b => .ok (if b then 1 else 0)
  | v => .error (.severityKind v)

end Severity

/-- Where lines are written. -/
inductive Outlet where
  | console
  | file
  deriving DecidableEq

structure LogSetup where
  level : Severity := Severity.info
  traceEnabled : Bool := false
  toFile : Bool := false

namespace LogSetup

def outlets (s : LogSetup) : List Outlet := if s.toFile then [.console, .file] else [.console]

/-- The recorder of exchanges that goes with the setup. -/
def recorder (s : LogSetup) : Recorder := { level := s.level, traceEnabled := s.traceEnabled }

def announcement : Record :=
  ⟨.warning, .protocol, "TRACE logging enabled - sensitive data (tokens, secrets) will be logged!"⟩

/-- The journal, which begins with the announcement of tracing. -/
def journal (s : LogSetup) : Journal :=
  let j : Journal := { threshold := s.level }
  if s.traceEnabled then j.add announcement else j

/-- The line of a record, at a time; `place` names the sources. -/
def line (time : String) (place : Source → String) (r : Record) : String :=
  time ++ " - " ++ place r.source ++ " - " ++ r.severity.name ++ " - " ++ r.text ++ "\n"

end LogSetup

end LoginCallback
