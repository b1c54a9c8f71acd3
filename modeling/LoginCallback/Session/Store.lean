import LoginCallback.Authorization.Request
import LoginCallback.Journal

/-!
# Pending authorization requests

A session keeps the authorization requests whose callbacks are awaited: a mapping from the state
parameter of a request to the request and its expiry, in the order in which they were saved.
Expired entries count as absent and are discarded whenever the mapping is read; when there are too
many, the oldest are dropped. A request that is retrieved is removed with the same step.

A failing operation changes nothing, except that an entry whose request cannot be decoded is still
removed when it is retrieved.
-/

namespace LoginCallback

/-- What is kept for one user between requests. Its keys are texts. -/
abbrev Session := Entries

structure SessionStore where
  /-- How long a request is kept; `none` for ever. -/
  ttl : Option Time.Duration
  /-- How many requests are kept at most; `none` any number. -/
  limit : Option Nat
  /-- The session key of the pending requests. -/
  key : String

/-- The result of an operation on a session. -/
structure SessionChange (α : Type) where
  session : Session
  /-- How many expired entries were met. -/
  discarded : Nat := 0
  /-- How many entries were dropped because there were too many. -/
  dropped : Nat := 0
  result : Except Fault α

namespace SessionStore

def defaultTtl : Time.Duration := ⟨600 * Time.microsPerSecond⟩

def defaultLimit : Nat := 8

def defaultKey : String := "oauth2_authorization_requests"

/-- The bound that a value gives, at least one. -/
def limitOf (v : Value) : Except Fault (Option Nat) :=
  match v with
  | .int n => if n < 1 then .error .tooFewRequests else .ok (some n.toNat)
  | .bool b => if b then .ok (some 1) else .error .tooFewRequests
  | .float x =>
    if x < 1.0 then .error .tooFewRequests else .ok ((Decimal.truncate? x).map Int.toNat)
  | v => .error (.value (.unordered v.kind "int"))

/-- Whether an entry has expired. -/
def isExpired (now : Time.Moment) (entry : Value) : Except Fault Bool := do
  let expiry ← ofValue (entry.getD "expires_at" .null)
  if !expiry.truthy then return false
  match expiry with
  | .text s => do
    let e ← (Time.Moment.read s).mapError .moment
    (e.notAfter now).mapError .time
  | _ => throw .momentKind

/-- The entries that have not expired, and how many others were met before the first that cannot be
read. -/
def live (now : Time.Moment) : Entries → Nat × Except Fault Entries
  | [] => (0, .ok [])
  | (state, entry) :: es =>
    match isExpired now entry with
    | .error e => (0, .error e)
    | .ok true => let (n, r) := live now es; (n + 1, r)
    | .ok false => let (n, r) := live now es; (n, r.map ((state, entry) :: ·))

/-- The pending requests of a session. -/
def stored (s : SessionStore) (session : Session) : Except Fault Entries :=
  let v := (Entries.text? session s.key).getD .null
  if v.truthy then ofValue (v.entriesFor "items") else .ok []

/-- The pending requests that have not expired. -/
def load (s : SessionStore) (now : Time.Moment) (session : Session) : Nat × Except Fault Entries :=
  match s.stored session with
  | .error e => (0, .error e)
  | .ok es => live now es

/-- When a request saved now expires, as sessions keep it. -/
def expiry (s : SessionStore) (now : Time.Moment) : Except Fault Value :=
  match s.ttl with
  | none => .ok .null
  | some d =>
    if d.micros = 0 then .ok .null else ((now.add d).mapError .time).map fun m => .text m.toText

/-- The entry of a request saved now, under its state. -/
def entry (s : SessionStore) (now : Time.Moment) (request : AuthorizationRequest) :
    Except Fault (Value × Value) := do
  let key ← ofValue request.state.asKey
  let expiry ← s.expiry now
  return (key, Value.record [("request", request.toValue), ("expires_at", expiry)])

/-- The newest entries, as many as are allowed. -/
def newest (s : SessionStore) (es : Entries) : Entries :=
  match s.limit with
  | some n => es.drop (es.length - n)
  | none => es

/-- Keeps a request under its state. -/
def save (s : SessionStore) (now : Time.Moment) (request : AuthorizationRequest)
    (session : Session) : SessionChange Unit :=
  if !request.state.truthy then { session, result := .error .emptyState }
  else match s.load now session with
    | (discarded, .error e) => { session, discarded, result := .error e }
    | (discarded, .ok pending) =>
      match s.entry now request with
      | .error e => { session, discarded, result := .error e }
      | .ok (key, entry) =>
        let all := pending.erase key ++ [(key, entry)]
        let kept := s.newest all
        { session := session.insert (.text s.key) (.mapping kept)
          discarded
          dropped := all.length - kept.length
          result := .ok () }

/-- The session with these pending requests; without any the key is removed. -/
def withPending (s : SessionStore) (session : Session) (pending : Entries) : Session :=
  if pending.isEmpty then session.erase (.text s.key)
  else session.insert (.text s.key) (.mapping pending)

/-- The pending requests without the one of a state, which must be able to be a key if there are
any. -/
def without (pending : Entries) (state : Value) : Except Fault Entries :=
  if pending.isEmpty then .ok [] else ofValue (state.asKey.map pending.erase)

/-- Finds and removes the request saved under a state. -/
def retrieve (s : SessionStore) (now : Time.Moment) (state : Value) (session : Session) :
    SessionChange (Option AuthorizationRequest) :=
  if !state.truthy then { session, result := .ok none }
  else match s.load now session with
    | (discarded, .error e) => { session, discarded, result := .error e }
    | (discarded, .ok pending) =>
      match without pending state with
      | .error e => { session, discarded, result := .error e }
      | .ok rest =>
        { session := s.withPending session rest
          discarded
          result := match pending.get? state with
            | none => .ok none
            | some entry => do
              return some (← AuthorizationRequest.read (← ofValue (entry.item "request"))) }

end SessionStore

namespace SessionChange

variable {α : Type}

def discardedRecord : Record := ⟨.debug, .store, "Discarding expired authorization request"⟩

def droppedRecord : Record := ⟨.debug, .store, "Dropped oldest pending authorization request"⟩

/-- The journal with the records of an operation. -/
def log (c : SessionChange α) (j : Journal) : Journal :=
  (j.addTimes c.discarded discardedRecord).addTimes c.dropped droppedRecord

end SessionChange

end LoginCallback
