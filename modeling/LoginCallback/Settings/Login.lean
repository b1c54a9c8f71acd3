import LoginCallback.Callback.Matcher
import LoginCallback.Session.Store

/-!
# Login settings

How callbacks are handled: where they arrive, where the user goes afterwards, how long pending
requests are kept and how many, and how patient and how talkative the library is. The settings may
hold any value; they are checked where they are used.
-/

namespace LoginCallback

structure LoginSettings where
  callbackPath : Value := .text Matcher.defaultTemplate
  successUrl : Value := .text "/"
  failureUrl : Value := .text "/login"
  requestTtl : Value := .int 600
  maxPending : Value := .int 8
  httpTimeout : Value := .float 10.0
  logLevel : Value := .text "INFO"

namespace LoginSettings

/-- The settings that a mapping describes; what it does not name has its default. -/
def read (v : Value) : Except Fault LoginSettings := do
  let defaults : LoginSettings := {}
  let es ← ofValue (v.entriesFor "get")
  let given (key : String) (default : Value) : Value := (Entries.text? es key).getD default
  return {
    callbackPath := given "callback_path" defaults.callbackPath
    successUrl := given "success_url" defaults.successUrl
    failureUrl := given "failure_url" defaults.failureUrl
    requestTtl := given "request_ttl_seconds" defaults.requestTtl
    maxPending := given "max_pending_requests" defaults.maxPending
    httpTimeout := given "http_timeout" defaults.httpTimeout
    logLevel := given "log_level" defaults.logLevel }

def toValue (s : LoginSettings) : Value :=
  Value.record [
    ("callback_path", s.callbackPath),
    ("success_url", s.successUrl),
    ("failure_url", s.failureUrl),
    ("request_ttl_seconds", s.requestTtl),
    ("max_pending_requests", s.maxPending),
    ("http_timeout", s.httpTimeout),
    ("log_level", s.logLevel)]

/-- How long a pending request is kept; for ever if no time is given. -/
def ttl (s : LoginSettings) : Except Fault (Option Time.Duration) :=
  if s.requestTtl.truthy then ((Time.Duration.ofSeconds s.requestTtl).mapError .time).map some
  else .ok none

/-- The store of pending requests. -/
def store (s : LoginSettings) : Except Fault SessionStore := do
  let ttl ← s.ttl
  return { ttl, limit := ← SessionStore.limitOf s.maxPending, key := SessionStore.defaultKey }

end LoginSettings

end LoginCallback
