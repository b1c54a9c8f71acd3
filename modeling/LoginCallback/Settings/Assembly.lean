import LoginCallback.Authentication.Filter
import LoginCallback.Authentication.Host
import LoginCallback.Settings.Config

/-!
# From a configuration to a filter

The parts of a login filter, made from a configuration. A registration that keeps the default
redirect template gets one built from the callback path, so that the provider sends users to a path
that the filter recognises.
-/

namespace LoginCallback

/-- The parts of a filter. -/
structure LoginParts where
  repository : Repository
  store : RequestStore
  matcher : Matcher

namespace LoginParts

/-- The redirect template of a callback path. -/
def redirectTemplate (callbackPath : Value) : Except Fault String :=
  match callbackPath with
  | .text p => .ok ("\x7bbase_url\x7d" ++ p)
  | v => .error (.concatenation v.kind)

/-- The registration with a redirect template built from the callback path, unless it has one of its
own. -/
def withCallbackPath (callbackPath : Value) (r : Registration) : Except Fault Registration := do
  let template ← redirectTemplate callbackPath
  return if Value.same r.redirectTemplate (.text defaultRedirectTemplate) then
    { r with redirectTemplate := .text template } else r

/-- The parts that a configuration describes; the store of pending requests may be another one. -/
def ofConfig [Platform] (c : LoginConfig) (store : Option RequestStore) :
    Except Fault LoginParts := do
  let registrations ← c.registrations.mapM (withCallbackPath c.login.callbackPath)
  let repository ← Repository.ofList registrations
  let store ← match store with
    | some s => pure s
    | none => do pure (← c.login.store).toRequestStore
  return { repository, store
           matcher := ← Matcher.build c.login.callbackPath repository.registrations }

/-- The filter made of these parts. -/
def filter {ε ρ : Type} (p : LoginParts) (engine : Engine ε) (ownsEngine recordsClients : Bool)
    (onSuccess : Callback → SecurityContext → Principal → Action (Host ε) ρ)
    (onFailure : Callback → SecurityContext → Failure → Action (Host ε) ρ) :
    LoginFilter (Host ε) ρ :=
  { matcher := p.matcher
    attempt := Attempt.run (Host.services p.repository p.store engine recordsClients)
    onSuccess
    onFailure
    log := Host.log
    ownsEngine }

end LoginParts

end LoginCallback
