import LoginCallback.Callback.PathTemplate
import LoginCallback.Registration.Basic
import LoginCallback.Text.Case
import LoginCallback.Url.Parts

/-!
# Which requests are callbacks

A request is a callback if its method is GET and its path either matches the path template or is
the path of the redirect address of a registration. The template comes first; of registrations with
the same path the last one counts.
-/

namespace LoginCallback

/-- A request recognised as a callback, and the registration it is for. -/
structure Match where
  registrationId : Value
  path : String

structure Matcher where
  template : PathTemplate
  /-- Paths of redirect addresses with their registrations, in order. -/
  declared : List (String × Value)

namespace Matcher

def defaultTemplate : String := "/login/oauth2/code/\x7bregistration_id\x7d"

/-- The path of the redirect address of each registration that has one. -/
def declaredPaths [Platform] : List Registration → Except Fault (List (String × Value))
  | [] => .ok []
  | r :: rs => do
    let path ← Url.path (← r.redirectUri "")
    let rest ← declaredPaths rs
    return if path.isEmpty then rest else (path, r.id) :: rest

/-- The matcher of a template and the registrations that are known, if any. -/
def build [Platform] (template : Value) (registrations : List Registration) :
    Except Fault Matcher := do
  return { template := ← PathTemplate.ofValue template, declared := ← declaredPaths registrations }

/-- The registration that declares a path. -/
def declaring? (m : Matcher) (path : String) : Option Value :=
  (m.declared.reverse.find? fun d => d.1 == path).map (·.2)

def match? (m : Matcher) (method path : String) : Option Match :=
  if Text.upper method != "GET" then none
  else match m.template.match? path.toList with
    | some id => some ⟨.text (String.ofList id), path⟩
    | none => (m.declaring? path).map (⟨·, path⟩)

end Matcher

end LoginCallback
