/-!
# The journal

Log records of the library. A record is kept if it is at least as severe as the threshold.
-/

namespace LoginCallback

/-- How severe a record is, as a number. -/
abbrev Severity := Int

namespace Severity

/-- Everything, secrets included. -/
def trace : Severity := 5

def debug : Severity := 10

def info : Severity := 20

def warning : Severity := 30

def error : Severity := 40

def critical : Severity := 50

def name (s : Severity) : String :=
  if s = trace then "TRACE"
  else if s = debug then "DEBUG"
  else if s = info then "INFO"
  else if s = warning then "WARNING"
  else if s = error then "ERROR"
  else if s = critical then "CRITICAL"
  else if s = 0 then "NOTSET"
  else "Level " ++ toString s

end Severity

/-- Which part of the library a record is from. -/
inductive Source where
  | protocol
  | store
  | attempt
  | engine
  | filter
  | site
  deriving DecidableEq

structure Record where
  severity : Severity
  source : Source
  text : String
  deriving DecidableEq

structure Journal where
  threshold : Severity := Severity.debug
  /-- The records kept, the newest first. -/
  latest : List Record := []

namespace Journal

/-- Records below this severity are dropped. Without a threshold of its own a journal keeps
warnings. -/
def least (j : Journal) : Severity := if j.threshold = 0 then Severity.warning else j.threshold

def add (j : Journal) (r : Record) : Journal :=
  if j.least ≤ r.severity then { j with latest := r :: j.latest } else j

/-- The same record several times. -/
def addTimes (j : Journal) : Nat → Record → Journal
  | 0, _ => j
  | n + 1, r => (j.add r).addTimes n r

/-- The records in the order in which they were made. -/
def records (j : Journal) : List Record := j.latest.reverse

end Journal

end LoginCallback
