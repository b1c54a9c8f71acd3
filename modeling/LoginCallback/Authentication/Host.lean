import LoginCallback.Authentication.Attempt
import LoginCallback.Engine.HttpEngine
import LoginCallback.Registration.Repository
import LoginCallback.Session.Store

/-!
# Hosts

The state of an application in which users log in: the clock, the session of the user, the
authorized clients, the journal, and whatever the engine keeps. `Host.services` makes the parts of
an attempt from a repository, a store of pending requests and an engine, each of which changes only
its own share of the state.
-/

namespace LoginCallback

/-- Where pending requests are kept. -/
structure RequestStore where
  save : Time.Moment → AuthorizationRequest → Session → SessionChange Unit
  retrieve : Time.Moment → String → Session → SessionChange (Option AuthorizationRequest)

def SessionStore.toRequestStore (s : SessionStore) : RequestStore :=
  ⟨s.save, fun now state => s.retrieve now (.text state)⟩

/-- Turns login tokens into authenticated ones; an engine writes to the journal and has a state of
its own. -/
abbrev Engine (ε : Type) := Time.Moment → LoginToken → Action (Journal × ε) LoginToken

/-- The engine that asks a provider. -/
def HttpEngine.engine [Platform] {τ : Type} (p : Http.Provider τ) : Engine (Http.Wire τ) :=
  fun now t =>
  Action.ofFn fun (j, w) =>
    let (r, w) := (HttpEngine.authenticate p now t).runOn { w with journal := j }
    (r, (w.journal, w))

structure Host (ε : Type) where
  now : Time.Moment
  session : Session := []
  clients : Clients := {}
  journal : Journal := {}
  engine : ε

namespace Host

variable {ε : Type}

/-- The result of an operation on the session takes effect. -/
def settle {α : Type} (h : Host ε) (c : SessionChange α) : Except Fault α × Host ε :=
  (c.result, { h with session := c.session, journal := c.log h.journal })

/-- Keeps a request until its callback. -/
def save (store : RequestStore) (request : AuthorizationRequest) : Action (Host ε) Unit :=
  Action.ofFn fun h => h.settle (store.save h.now request h.session)

/-- Finds and removes the request that was kept under a state. -/
def retrieve (store : RequestStore) (state : String) :
    Action (Host ε) (Option AuthorizationRequest) :=
  Action.ofFn fun h => h.settle (store.retrieve h.now state h.session)

/-- Runs the engine. -/
def authenticate (engine : Engine ε) (t : LoginToken) : Action (Host ε) LoginToken :=
  Action.ofFn fun h =>
    let (r, (journal, engine)) := (engine h.now t).runOn (h.journal, h.engine)
    (r, { h with journal, engine })

def saveClient (c : AuthorizedClient) : Action (Host ε) Unit :=
  Action.change fun h => { h with clients := h.clients.save c }

def log (r : Record) (h : Host ε) : Host ε := { h with journal := h.journal.add r }

/-- The parts of an attempt. -/
def services (repository : Repository) (store : RequestStore) (engine : Engine ε)
    (recordsClients : Bool) : Services (Host ε) :=
  { findRegistration := fun id => return repository.find? id
    retrieveRequest := retrieve store
    authenticate := authenticate engine
    saveClient := if recordsClients then some saveClient else none
    log }

/-- Moves the clock. -/
def advance (seconds : Value) (h : Host ε) : Except Fault (Host ε) := do
  let d ← (Time.Duration.ofSeconds seconds).mapError .time
  return { h with now := ← (h.now.add d).mapError .time }

end Host

end LoginCallback
