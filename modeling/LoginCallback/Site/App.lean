import LoginCallback.Settings.Assembly
import LoginCallback.Settings.LogSetup
import LoginCallback.Site.Reply
import LoginCallback.Site.Session
import LoginCallback.Site.Visit

/-!
# The application

A small web site behind a login filter: a page that tells that the site is up, one to land on after
a failed login, and one that shows who is logged in. Each visit works on the session that its
browser sent, which is kept only if there is a reply.

How visits are led to pages, and that the session is kept with a reply and not without one, are
assumptions about the framework that the site is built with.
-/

namespace LoginCallback

inductive Site.Page where
  | health
  | login
  | index
  deriving DecidableEq

namespace Site.Page

def path : Page → String
  | health => "/health"
  | login => "/login"
  | index => "/"

def all : List Page := [health, login, index]

/-- The page at a path. -/
def ofPath? (path : String) : Option Page := all.find? (·.path == path)

/-- What a page shows: the error of a query, or the principal of a session. -/
def json (page : Page) (c : Callback) (s : Session) : Except Fault Value :=
  match page with
  | health => .ok (.record [("status", .text "healthy")])
  | login => .ok (.record [("authenticated", .bool false),
      ("error", ((c.query.lookup "error").map .text).getD .null)])
  | index =>
    match (Entries.text? s principalKey).getD .null with
    | .null => .ok (.record [("authenticated", .bool false)])
    | principal => do
      let es ← ofValue (principal.entriesFor "keys")
      return .mapping (Entries.ofList ((.text "authenticated", .bool true) :: es))

end Site.Page

/-- Whether a path leads into the directory for static files. -/
def Site.isFilePath (path : String) : Bool :=
  let cs := path.toList
  let directory := "/static/".toList
  directory.isPrefixOf cs && (cs.drop directory.length).head?.any (· != '/')

/-- The reply of whatever can be read and asked for its methods; `read` is the reply to a reader. -/
def Site.readable (c : Callback) (read : Except Fault Reply) : Except Fault Reply :=
  if c.method = "GET" then read
  else if c.method = "HEAD" then read.map fun r => { r with json := none }
  else if c.method = "OPTIONS" then .ok {}
  else .ok { status := 405 }

/-- The reply of the pages. There is a directory for static files, which is empty. -/
def Site.serve (c : Callback) (s : Session) : Except Fault Reply :=
  match Page.ofPath? c.path with
  | some page => readable c ((page.json c s).map fun v => { json := some v })
  | none =>
    if isFilePath c.path then readable c (.ok { status := 404 }) else .ok { status := 404 }

structure Site (ε : Type) where
  settings : LoginSettings
  parts : LoginParts
  filter : LoginFilter (Host ε) Site.Reply
  /-- Faults go to the caller instead of being told as a reply. -/
  propagates : Bool
  /-- How the journal is set up, unless the host does that. -/
  logSetup : Option LogSetup

namespace Site

variable {ε : Type}

/-- The site of a configuration. A site that is being tested leaves the journal alone and passes
faults on. The store of pending requests and the handler of logins may be other ones. -/
def create [Platform] (c : LoginConfig) (testing : Bool) (store : Option RequestStore)
    (engine : Engine ε) (ownsEngine : Bool)
    (onSuccess : Option (Principal → Action (Host ε) Reply)) :
    Except Fault (Site ε) := do
  let logSetup ← if testing then pure none
    else do pure (some { level := ← Severity.ofSetting c.login.logLevel })
  let parts ← LoginParts.ofConfig c store
  let onSuccess := onSuccess.getD (welcome c.login.successUrl)
  return {
    settings := c.login
    parts
    filter := parts.filter engine ownsEngine true (fun _ _ p => onSuccess p)
      (fun _ _ f => turnAway c.login.failureUrl f)
    propagates := testing
    logSetup }

/-- The journal in the state that the site sets up. -/
def journal (s : Site ε) (j : Journal) : Journal :=
  match s.logSetup with
  | some setup => { j with threshold := setup.level }
  | none => j

/-- The visit ends with a fault, and the session is not kept. -/
def abandon {α : Type} (before after : Host ε) (e : Fault) : Except Fault α × Host ε :=
  (.error e, { after with session := before.session })

/-- The visit ends with a reply, and the session is kept. -/
def conclude (before after : Host ε) (r : Reply) : Except Fault Reply × Host ε :=
  match keptSession after.session, r.location.mapM location with
  | .ok session, .ok location => (.ok { r with location }, { after with session })
  | .error e, _ => abandon before after e
  | _, .error e => abandon before after e

def faultRecord (c : Callback) : Record :=
  ⟨.error, .site, "Exception on " ++ c.path ++ " [" ++ c.method ++ "]"⟩

/-- The reply to a visit. -/
def respond (s : Site ε) (v : Visit) (h : Host ε) : Except Fault Reply × Host ε :=
  match v.callback with
  | .error e => (.error e, h)
  | .ok c =>
    let (handled, after) := s.filter.handle c none
      (fun c _ => Action.ofFn fun h => (serve c h.session, h)) h
    match handled.answer with
    | .ok r => conclude h after r
    | .error e =>
      if s.propagates then abandon h after e
      else conclude h (Host.log (faultRecord c) after) { status := 500 }

/-- Keeps a request until its callback. -/
def save (s : Site ε) (request : AuthorizationRequest) (h : Host ε) : Except Fault Unit × Host ε :=
  match (Host.save s.parts.store request).runOn h with
  | (.error e, after) => abandon h after e
  | (.ok (), after) =>
    match keptSession after.session with
    | .ok session => (.ok (), { after with session })
    | .error e => abandon h after e

end Site

end LoginCallback
