import LoginCallback.Exchange.Basic

/-!
# The recorder of exchanges

The recorder writes each exchange to the journal, in the detail of its level, and keeps the latest
exchanges. Secrets are written and kept only if tracing is enabled and the level is `trace`.
-/

namespace LoginCallback

structure Recorder where
  level : Severity := Severity.info
  traceEnabled : Bool := false
  /-- How many exchanges are kept. -/
  capacity : Nat := 50
  /-- The exchanges kept, the oldest first. -/
  kept : List Exchange := []

namespace Recorder

/-- A recorder that keeps so many exchanges; of a negative number, none. -/
def ofSize (level : Severity) (traceEnabled : Bool) (size : Int) : Recorder :=
  { level, traceEnabled, capacity := size.toNat }

/-- The level in use: tracing that is not enabled counts as debugging. -/
def effectiveLevel (r : Recorder) : Severity :=
  if r.level = Severity.trace && !r.traceEnabled then Severity.debug else r.level

/-- Whether secrets are written and kept. -/
def sensitive (r : Recorder) : Bool := r.traceEnabled && decide (r.level ≤ Severity.trace)

/-- The latest exchanges, as many as are kept. -/
def latest (r : Recorder) (es : List Exchange) : List Exchange := es.drop (es.length - r.capacity)

def keep (r : Recorder) (e : Exchange) : Recorder :=
  { r with kept := r.latest (r.kept ++ [e.shown r.sensitive]) }

/-- The records that an exchange makes. -/
def recordsOf (r : Recorder) (e : Exchange) : List Record :=
  let level := r.effectiveLevel
  (if level ≤ Severity.debug then [⟨.debug, .protocol, e.logText level r.sensitive⟩]
    else if level ≤ Severity.info then [⟨.info, .protocol, e.logText level r.sensitive⟩]
    else [])
  ++ (match e.error with
    | some m =>
      if m.isEmpty then []
      else [⟨.error, .protocol, "HTTP error: " ++ e.method ++ " " ++ redact e.url ++ ": " ++ m⟩]
    | none => [])

/-- Writes an exchange to the journal and keeps it. -/
def record (r : Recorder) (e : Exchange) (j : Journal) : Recorder × Journal :=
  (r.keep e, (r.recordsOf e).foldl Journal.add j)

end Recorder

end LoginCallback
