import LoginCallback.Exchange.Recorder
import LoginCallback.Http.Cookie
import LoginCallback.Http.Message
import LoginCallback.Octets.Base64

/-!
# The client

A client sends requests to a provider. It numbers them, adds the cookies it has been given, records
each exchange exactly once, whether the provider answers or faults, and takes over the cookies of
an answer. It does not follow redirects, but looks at the place that they name.

Which headers a request has, when credentials inside an address count, and what is done with a
redirect, are assumptions about the client that the program sends its requests with. The headers
that describe the connection and the length of the body are left out.
-/

namespace LoginCallback.Http

structure Client where
  /-- How many requests were sent. -/
  sent : Nat := 0
  jar : CookieJar := {}

/-- Everything that a request may change. -/
structure Wire (τ : Type) where
  /-- The open client, if there is one. -/
  client : Option Client := none
  recorder : Recorder := {}
  journal : Journal := {}
  provider : τ

namespace Wire

variable {τ : Type}

/-- The open client; it is opened if there is none. -/
def opened (w : Wire τ) : Client := w.client.getD {}

def close (w : Wire τ) : Wire τ := { w with client := none }

def record (w : Wire τ) (e : Exchange) : Wire τ :=
  let (recorder, journal) := w.recorder.record e w.journal
  { w with recorder, journal }

end Wire

/-- A request before it is sent: what the sender gives of its headers, around which the client
places its own. -/
structure Draft where
  method : String
  address : Value
  headers : Headers
  body : String := ""
  contentHeaders : Headers := []
  /-- Value of the authorization header, which is added last. -/
  credentials : Option String := none

namespace Draft

/-- The credentials of a name and a secret. -/
def basic (name secret : String) : String :=
  "Basic " ++ String.ofList (Octets.toBase64 (Octets.ofText (name ++ ":" ++ secret)))

def readAddress [Platform] (v : Value) : Except Fault Address :=
  match v with
  | .text s => match Address.parse s with
    | .ok a => .ok a.target
    | .error e => .error (.address e.message)
  | v => .error (.addressKind v)

/-- The place of the first run of characters beyond ASCII: how many stand before it, and the run. -/
def foreignRun? (cs : List Char) : Option (Nat × List Char) :=
  let plain (c : Char) : Bool := decide (c.toNat < 128)
  match cs.dropWhile plain with
  | [] => none
  | rest => some (cs.length - rest.length, rest.takeWhile (!plain ·))

/-- Header values are written in ASCII. -/
def checkHeaders : Headers → Except Fault Unit
  | [] => .ok ()
  | (_, v) :: hs =>
    match foreignRun? v.toList with
    | some (i, c :: run) => .error (.nonAscii i (run.length + 1) c)
    | _ => checkHeaders hs

/-- The request, with the cookies of a jar. Credentials inside the address count if no others are
given. -/
def toRequest (d : Draft) (address : Address) (cookie : Option String) : Request :=
  let headers := d.headers ++ (cookie.map fun c => ("cookie", c)).toList ++ d.contentHeaders
  let credentials := d.credentials <|> address.credentials?.map fun (n, s) => basic n s
  { method := d.method, address, body := d.body
    headers := match credentials with
      | some c => headers.insert "authorization" c
      | none => headers }

end Draft

/-- The number of an exchange as its name. -/
def exchangeId (n : Nat) : String :=
  let ds := Decimal.digits n
  "http_" ++ String.ofList (List.replicate (4 - ds.length) '0' ++ ds)

/-- The record of a request that is being sent. -/
def Request.exchange (r : Request) (n : Nat) (now : Time.Moment) : Exchange :=
  { id := exchangeId n, timestamp := now, method := r.method, url := r.address.toText
    requestHeaders := r.headers, requestBody := if r.body.isEmpty then none else some r.body
    duration := .float 0.0 }

/-- The text of a fault in the record of an exchange: its message, or its name if that is empty. -/
def faultText (e : Fault) : String :=
  if !e.message.isEmpty then e.message
  else match e.category with
    | .named n => n
    | _ => ""

/-- The seconds of a moment, as cookies count them. -/
def secondOf (m : Time.Moment) : Int := (m.ticks - m.offset.getD 0) / Time.microsPerSecond

/-- The record of an exchange with the reply. -/
def Reply.complete (reply : Reply) (e : Exchange) : Exchange :=
  { e with
    responseStatus := some reply.status
    responseHeaders := reply.joined
    responseBody := some reply.bodyText }

/-- Sends a request with an open client. -/
def Client.transmit [Platform] {τ : Type} (provider : Provider τ) (now : Time.Moment) (c : Client)
    (r : Request) (w : Wire τ) : Except Fault Reply × Wire τ :=
  let e := r.exchange (c.sent + 1) now
  let (outcome, p) := (provider r).runOn w.provider
  let w := { w with provider := p, client := some { c with sent := c.sent + 1 } }
  match outcome with
  | .error fault => (.error fault, w.record { e with error := some (faultText fault) })
  | .ok reply =>
    let jar := c.jar.takeAll (secondOf now) r.address (reply.values "set-cookie")
      (reply.values "set-cookie2")
    ((reply.checkLocation r.address).map fun _ => reply,
      { w.record (reply.complete e) with client := some { sent := c.sent + 1, jar } })

/-- Sends a request and returns the reply. -/
def send [Platform] {τ : Type} (provider : Provider τ) (now : Time.Moment) (d : Draft) :
    Action (Wire τ) Reply :=
  Action.ofFn fun w =>
    let c := w.opened
    let w := { w with client := some c }
    match Draft.readAddress d.address, Draft.checkHeaders d.headers with
    | .error e, _ => (.error e, w)
    | _, .error e => (.error e, w)
    | .ok a, .ok () => c.transmit provider now (d.toRequest a (c.jar.headerFor? (secondOf now) a)) w

end LoginCallback.Http
