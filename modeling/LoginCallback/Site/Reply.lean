import LoginCallback.Authentication.Host
import LoginCallback.Octets.Form
import LoginCallback.Site.Location

/-!
# Replies to callbacks

After a login the principal is kept in the session and the user is sent on; after a failure the
session forgets the principal and the user is sent to a page whose address carries the error code.

That a redirect is refused if its target holds a line end is an assumption about the framework that
the site is built with.
-/

namespace LoginCallback.Site

structure Reply where
  status : Int := 200
  /-- Where a redirect leads. -/
  location : Option String := none
  json : Option Value := none

/-- The session key of the principal who has logged in. -/
def principalKey : String := "oauth2_principal"

/-- A redirect. The target must fit into one line. -/
def redirect (target : String) : Except Fault Reply :=
  if target.toList.any fun c => c == '\n' || c == '\r' then .error .targetBreak
  else .ok { status := 302, location := some target }

/-- What is kept of a principal. -/
def principalEntry (p : Principal) : Except Fault Entries := do
  return [(.text "name", .text (← p.name)), (.text "registration_id", p.registrationId),
    (.text "authorities", .list p.authorities)]

/-- What pages may show of the authentication that holds during a visit. -/
def snapshot (c : SecurityContext) : Except Fault Value := do
  match c with
  | none => return .record [("authenticated", .bool false)]
  | some p => return .mapping ((.text "authenticated", .bool true) :: (← principalEntry p))

variable {ε : Type}

/-- Changes the session. -/
def changeSession (f : Session → Session) : Action (Host ε) Unit :=
  Action.change fun h => { h with session := f h.session }

/-- The default handler of logins. -/
def welcome (target : Value) (p : Principal) : Action (Host ε) Reply := do
  let entry ← principalEntry p
  changeSession fun s => Entries.insert s (.text principalKey) (.mapping entry)
  redirect target.display

/-- Whether an address has a query already. -/
def hasQuery (target : Value) : Except Fault Bool :=
  match target with
  | .text s => .ok (s.toList.contains '?')
  | v => ofValue (v.hasKey (.text "?"))

/-- The address of the page that shows a failure. -/
def failureTarget (target code : Value) : Except Fault String := do
  return target.display ++ (if ← hasQuery target then "&" else "?")
    ++ Octets.encodeForm [("error", code.display)]

/-- The default handler of failures. -/
def turnAway (target : Value) (f : Failure) : Action (Host ε) Reply := do
  changeSession fun s => Entries.erase s (.text principalKey)
  redirect (← failureTarget target f.code)

end LoginCallback.Site
