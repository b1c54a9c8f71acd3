import LoginCallback.Action
import LoginCallback.Exchange.Basic
import LoginCallback.Http.Address
import LoginCallback.Json.Reader

/-!
# Requests and replies

What a client sends to a provider, and what comes back: a status, header fields in the order in
which they came, and the octets of a body.

How a reply comes off the line is left to the transport: its body holds the decoded octets. What a
client makes of fields of one name, of a body that is a text or JSON, and of a place that it is sent
to, is an assumption about the client that the program sends its requests with.
-/

namespace LoginCallback.Http

structure Request where
  method : String
  address : Address
  headers : Headers
  /-- The body, in ASCII; empty if there is none. -/
  body : String

/-- The body is what is left when the transport has undone all content codings; a body that it
cannot decode is a fault of the transport. -/
structure Reply where
  status : Int
  headers : List (String × String) := []
  body : List Nat := []

namespace Reply

/-- The values of the fields of a name, which is given in small letters. -/
def values (r : Reply) (name : String) : List String :=
  (r.headers.filter fun h => Text.lower h.1 == name).map (·.2)

/-- The fields under small names, the values of equal names joined by commas at the place of the
first. -/
def joined (r : Reply) : Headers :=
  r.headers.foldl (fun hs h =>
    let name := Text.lower h.1
    match hs.lookup name with
    | some v => hs.insert name (v ++ ", " ++ h.2)
    | none => hs.insert name h.2) []

/-- The body as text, if it is one. -/
def bodyText (r : Reply) : String :=
  match Octets.toUtf8? false r.body with
  | some cs => String.ofList cs
  | none => "<binary content>"

/-- The JSON object that the body holds, if it holds one. The body is the decoded content; content
codings are left to the transport. -/
def object? [Platform] (r : Reply) : Except Fault (Option Entries) :=
  match Json.readOctets r.body with
  | .ok (.mapping es) => .ok (some es)
  | .ok _ => .ok none
  | .error .malformed => .ok none
  | .error (.tooDeep inList) => .error (.jsonDepth inList)

/-- Statuses that send a client elsewhere. -/
def isRedirect (r : Reply) : Bool :=
  [301, 302, 303, 307, 308].contains r.status && !(r.values "location").isEmpty

/-- Where the reply to a request at `a` sends the client must be an address, although the client
does not go there. A text that is none is a fault of the transport; what is wrong with an address
beyond that is not. -/
def checkLocation [Platform] (r : Reply) (a : Address) : Except Fault Unit :=
  if r.isRedirect then
    match Address.parse (String.intercalate ", " (r.values "location")) with
    | .ok place => (place.completed a).map fun _ => ()
    | .error e => .error (.transport (.other "RemoteProtocolError")
        ("Invalid URL in location header: " ++ e.message ++ "."))
  else .ok ()

end Reply

/-- The other end of a client: it answers requests or faults, and may change its state. -/
abbrev Provider (τ : Type) := Request → Action τ Reply

end LoginCallback.Http
