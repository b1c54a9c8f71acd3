import LoginCallback.Exchange.Redaction
import LoginCallback.Journal
import LoginCallback.Time.Iso

/-!
# Exchanges

An exchange is one request to a provider with its answer, or with the error that came instead. Its
text for the journal holds the more, the lower the level: the headers from `debug` on, the bodies
from `trace` on. Secrets are left out unless they are asked for.
-/

namespace LoginCallback

/-- Header fields in order, at most one under each name. -/
abbrev Headers := List (String × String)

namespace Headers

/-- A name that is present keeps its place and takes the new value. -/
def insert : Headers → String → String → Headers
  | [], name, value => [(name, value)]
  | (n, v) :: hs, name, value =>
    if n == name then (n, value) :: hs else (n, v) :: insert hs name value

def ofList (hs : List (String × String)) : Headers := hs.foldl (fun m h => m.insert h.1 h.2) []

end Headers

structure Exchange where
  id : String
  timestamp : Time.Moment
  method : String
  url : String
  requestHeaders : Headers
  requestBody : Option String := none
  responseStatus : Option Int := none
  responseHeaders : Headers := []
  responseBody : Option String := none
  /-- How long the exchange took, in milliseconds: a number, or null. -/
  duration : Value := .null
  error : Option String := none

namespace Exchange

def redactHeaders (hs : Headers) : Headers := hs.map fun h => (h.1, redact h.2)

/-- The exchange without its secrets. -/
def redacted (e : Exchange) : Exchange :=
  { e with
    url := redact e.url
    requestHeaders := redactHeaders e.requestHeaders
    requestBody := e.requestBody.map redact
    responseHeaders := redactHeaders e.responseHeaders
    responseBody := e.responseBody.map redact }

/-- The exchange as it may be shown. -/
def shown (e : Exchange) (sensitive : Bool) : Exchange := if sensitive then e else e.redacted

/-- A number with one place after the point. -/
def onePlace (v : Value) : String :=
  match v with
  | .float x => Decimal.fixed 1 x
  | v => Decimal.fixed 1 (Decimal.ofIntNearest (v.asInt?.getD 0))

def bodyLimit : Nat := 2000

/-- A body, cut after so many characters. -/
def clipped (body : String) : String :=
  let cs := body.toList
  if bodyLimit < cs.length then String.ofList (cs.take bodyLimit) ++ "..." else body

def headerLines (title : String) (hs : Headers) : List String :=
  ("  " ++ title ++ ":") :: hs.map fun h => "    " ++ h.1 ++ ": " ++ h.2

def bodyLines (title : String) (body : Option String) : List String :=
  match body with
  | some b => if b.isEmpty then [] else ["  " ++ title ++ ":", "    " ++ clipped b]
  | none => []

def statusText (e : Exchange) : String :=
  match e.responseStatus with
  | some n => if n = 0 then "ERROR" else toString n
  | none => "ERROR"

/-- The lines for the journal. -/
def lines (e : Exchange) (level : Severity) : List String :=
  ["HTTP " ++ e.method ++ " " ++ e.url ++ " -> " ++ e.statusText]
    ++ (if e.duration.isNull then [] else ["  Duration: " ++ onePlace e.duration ++ "ms"])
    ++ (match e.error with
      | some m => if m.isEmpty then [] else ["  Error: " ++ m]
      | none => [])
    ++ (if level ≤ Severity.debug then
        headerLines "Request Headers" e.requestHeaders
          ++ (if e.responseHeaders.isEmpty then []
            else headerLines "Response Headers" e.responseHeaders)
      else [])
    ++ (if level ≤ Severity.trace then
        bodyLines "Request Body" e.requestBody ++ bodyLines "Response Body" e.responseBody
      else [])

/-- The text for the journal. -/
def logText (e : Exchange) (level : Severity) (sensitive : Bool) : String :=
  String.intercalate "\n" ((e.shown sensitive).lines level)

end Exchange

end LoginCallback
