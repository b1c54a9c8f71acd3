import LoginCallback.Proofs.Authentication.Attempt
import LoginCallback.Proofs.Session.Run
import LoginCallback.Proofs.Settings.Assembly
import LoginCallback.Proofs.Settings.Registration

/-!
# The state machine of an attempt

Each stage of an attempt is a relation between the state of the host before it, what it asks of the
services (`ServiceCall`), its result and the state after it: the parameters of the callback and the
look-up of the stored request (`Follows`), the comparison of the states and the look-up of the
registration (`Proceeds`), the engine (`Exchanges`), and the principal (`Finishes`). A constructor
is a way to end a stage or to pass to the next one. Main statement: `attempt_follows`, the relation
of the first stage is the graph of the attempt, whatever the services do.
-/

namespace LoginCallback

/-- What an attempt asks of the services of its host. -/
inductive ServiceCall where
  | retrieve (state : String)
  | find (id : Value)
  | authenticate (t : LoginToken)
  | save (client : AuthorizedClient)

namespace Services

variable {σ α : Type}

/-- The action, noting that it was asked for. -/
def noting (call : ServiceCall) (x : Action σ α) : Action (σ × List ServiceCall) α :=
  Action.ofFn fun (st, calls) => let (r, st) := x.runOn st; (r, (st, calls ++ [call]))

/-- The services, noting what is asked of them. -/
def traced (s : Services σ) : Services (σ × List ServiceCall) :=
  { findRegistration := fun id => noting (.find id) (s.findRegistration id)
    retrieveRequest := fun state => noting (.retrieve state) (s.retrieveRequest state)
    authenticate := fun t => noting (.authenticate t) (s.authenticate t)
    saveClient := s.saveClient.map fun save client => noting (.save client) (save client)
    log := fun r t => (s.log r t.1, t.2) }

variable (s : Services σ) (st : σ) (calls : List ServiceCall)

theorem runOn_noting (call : ServiceCall) (x : Action σ α) :
    (noting call x).runOn (st, calls) = ((x.runOn st).1, (x.runOn st).2, calls ++ [call]) := rfl

theorem runOn_findRegistration_traced (id : Value) :
    (s.traced.findRegistration id).runOn (st, calls) =
      (((s.findRegistration id).runOn st).1, ((s.findRegistration id).runOn st).2,
        calls ++ [.find id]) := rfl

theorem runOn_retrieveRequest_traced (state : String) :
    (s.traced.retrieveRequest state).runOn (st, calls) =
      (((s.retrieveRequest state).runOn st).1, ((s.retrieveRequest state).runOn st).2,
        calls ++ [.retrieve state]) := rfl

theorem runOn_authenticate_traced (t : LoginToken) :
    (s.traced.authenticate t).runOn (st, calls) =
      (((s.authenticate t).runOn st).1, ((s.authenticate t).runOn st).2,
        calls ++ [.authenticate t]) := rfl

end Services

/-- A registration that was made from a draft has an identifier. -/
theorem Registration.truthy_id_of_ofDraft {d : Registration.Draft} {r : Registration}
    (h : Registration.ofDraft d = .ok r) : r.id.truthy = true := (Registration.made_iff.1 ⟨d, h⟩).1

/-- Nothing is found under an empty identifier if every registration has one. -/
theorem Repository.find?_empty {repository : Repository}
    (h : ∀ r ∈ repository.registrations, r.id.truthy = true) :
    repository.find? (.text "") = none := by
  refine List.find?_eq_none.2 fun r hr hsame => ?_
  have hgiven := h r hr
  rw [(Value.sameScalar_text_right r.id "").1 hsame] at hgiven
  cases hgiven

/-- A parameter is present and not empty. -/
def Query.Gives (q : Query) (name text : String) : Prop := q.lookup name = some text ∧ text ≠ ""

/-- A parameter is absent or empty. -/
def Query.Lacks (q : Query) (name : String) : Prop := ∀ text, q.lookup name = some text → text = ""

namespace Attempt

open Services

variable {σ α : Type}

/-! ## The relations -/

/-- The state after the failure of a stage was written to the journal. -/
def afterFailure (s : Services σ) (stage : Stage) (f : Failure) (st : σ) : σ :=
  s.log ⟨.warning, .attempt,
    "Login callback failed in " ++ stage.name ++ ": " ++ f.code.display⟩ st

/-- The state after a login was written to the journal. -/
def afterLogin (s : Services σ) (r : Registration) (name : String) (st : σ) : σ :=
  s.log ⟨.info, .attempt, "Authenticated '" ++ name ++ "' via " ++ r.id.display⟩ st

/-- The principal of a user whom the engine returned. -/
def principal (r : Registration) (t : LoginToken) (user : User) : Principal :=
  ⟨user, t.authorities, r.id⟩

/-- The last stage, with what the engine returned: without an authenticated user it faults, and
otherwise it ends with the principal. The access token is recorded before, once, if there is one and
the host wants it. -/
inductive Finishes (s : Services σ) (r : Registration) (t : LoginToken) (st : σ) :
    List ServiceCall → Except Fault AttemptResult → σ → Prop where
  | unauthenticated (ht : t.authenticated = false ∨ t.user = none) :
      Finishes s r t st [] (.error .unauthenticatedToken) st
  | nameless {user : User} {e : Fault} (ht : t.authenticated = true) (hu : t.user = some user)
      (hn : user.name = .error e) : Finishes s r t st [] (.error e) st
  | unrecorded {user : User} {name : String} (ht : t.authenticated = true)
      (hu : t.user = some user) (hn : user.name = .ok name)
      (hs : s.saveClient = none ∨ t.accessToken = none) :
      Finishes s r t st [] (.ok (succeeded (principal r t user) t)) (afterLogin s r name st)
  | recordingFaulted {user : User} {name : String} {save : AuthorizedClient → Action σ Unit}
      {token : AccessToken} {e : Fault} {st₁ : σ} (ht : t.authenticated = true)
      (hu : t.user = some user) (hn : user.name = .ok name) (hs : s.saveClient = some save)
      (ha : t.accessToken = some token) (hr : (save ⟨r, name, token⟩).runOn st = (.error e, st₁)) :
      Finishes s r t st [.save ⟨r, name, token⟩] (.error e) st₁
  | recorded {user : User} {name : String} {save : AuthorizedClient → Action σ Unit}
      {token : AccessToken} {st₁ : σ} (ht : t.authenticated = true)
      (hu : t.user = some user) (hn : user.name = .ok name) (hs : s.saveClient = some save)
      (ha : t.accessToken = some token) (hr : (save ⟨r, name, token⟩).runOn st = (.ok (), st₁)) :
      Finishes s r t st [.save ⟨r, name, token⟩] (.ok (succeeded (principal r t user) t))
        (afterLogin s r name st₁)

/-- The engine gets the callback, once. Its failures end the attempt, its faults leave it. -/
inductive Exchanges (s : Services σ) (t : LoginToken) (st : σ) :
    List ServiceCall → Except Fault AttemptResult → σ → Prop where
  | failed {f : Failure} {st₁ : σ} (ha : (s.authenticate t).runOn st = (.error (.failure f), st₁)) :
      Exchanges s t st [.authenticate t] (.ok (failed .exchanging f.ofEngine))
        (afterFailure s .exchanging f.ofEngine st₁)
  | faulted {e : Fault} {st₁ : σ} (ha : (s.authenticate t).runOn st = (.error e, st₁))
      (he : ∀ f, e ≠ .failure f) : Exchanges s t st [.authenticate t] (.error e) st₁
  | returned {t' : LoginToken} {st₁ st' : σ} {calls : List ServiceCall}
      {result : Except Fault AttemptResult} (ha : (s.authenticate t).runOn st = (.ok t', st₁))
      (hf : Finishes s t.registration t' st₁ calls result st') :
      Exchanges s t st (.authenticate t :: calls) result st'

/-- The stored request is compared with the callback, and its registration is looked up. -/
inductive Proceeds (s : Services σ) (request : AuthorizationRequest)
    (response : AuthorizationResponse) (st : σ) :
    List ServiceCall → Except Fault AttemptResult → σ → Prop where
  | stateKind (hs : ∀ text, request.state ≠ .text text) :
      Proceeds s request response st []
        (.error (.value (.noMember request.state.kind "encode"))) st
  | stateDiffers {text : String} (hs : request.state = .text text)
      (hne : response.state ≠ some text) :
      Proceeds s request response st [] (.ok (failed .stateValidated .invalidState))
        (afterFailure s .stateValidated .invalidState st)
  | lookupFaulted {text : String} {e : Fault} {st₁ : σ} (hs : request.state = .text text)
      (heq : response.state = some text)
      (hf : (s.findRegistration (.text (request.registrationId?.getD ""))).runOn st =
        (.error e, st₁)) :
      Proceeds s request response st [.find (.text (request.registrationId?.getD ""))] (.error e) st₁
  | unknown {text : String} {st₁ : σ} (hs : request.state = .text text)
      (heq : response.state = some text)
      (hf : (s.findRegistration (.text (request.registrationId?.getD ""))).runOn st =
        (.ok none, st₁)) :
      Proceeds s request response st [.find (.text (request.registrationId?.getD ""))]
        (.ok (failed .exchanging (.registrationNotFound (.ofText? request.registrationId?))))
        (afterFailure s .exchanging (.registrationNotFound (.ofText? request.registrationId?)) st₁)
  | known {text : String} {r : Registration} {st₁ st' : σ} {calls : List ServiceCall}
      {result : Except Fault AttemptResult} (hs : request.state = .text text)
      (heq : response.state = some text)
      (hf : (s.findRegistration (.text (request.registrationId?.getD ""))).runOn st =
        (.ok (some r), st₁))
      (hx : Exchanges s { registration := r, request, response } st₁ calls result st') :
      Proceeds s request response st (.find (.text (request.registrationId?.getD "")) :: calls)
        result st'

/-- The failure with which the parameters of a callback end an attempt. -/
inductive Refuses (q : Query) : Failure → Prop where
  | error {code : String} (he : q.Gives "error" code) :
      Refuses q (.provider (.text code) (.ofText? (q.lookup "error_description"))
        (.ofText? (q.lookup "error_uri")))
  | noCode (he : q.Lacks "error") (hc : q.Lacks "code") :
      Refuses q (.invalidRequest (.text "Callback carries neither 'code' nor 'error'"))
  | noState {code : String} (he : q.Lacks "error") (hc : q.Gives "code" code)
      (hs : q.Lacks "state") : Refuses q .invalidState

/-- The parameters of a callback that can lead to a login. -/
structure Complete (q : Query) (state : String) : Prop where
  error : q.Lacks "error"
  code : ∃ code, q.Gives "code" code
  state : q.Gives "state" state

/-- The first stage: refused parameters end the attempt before anything is asked of a service;
others lead to the look-up of the request that was stored under their state. -/
inductive Follows (s : Services σ) (c : Callback) (st : σ) :
    List ServiceCall → Except Fault AttemptResult → σ → Prop where
  | refused {f : Failure} (hc : Refuses c.query f) :
      Follows s c st [] (.ok (failed .start f)) (afterFailure s .start f st)
  | retrievalFaulted {state : String} {e : Fault} {st₁ : σ} (hc : Complete c.query state)
      (hr : (s.retrieveRequest state).runOn st = (.error e, st₁)) :
      Follows s c st [.retrieve state] (.error e) st₁
  | notFound {state : String} {st₁ : σ} (hc : Complete c.query state)
      (hr : (s.retrieveRequest state).runOn st = (.ok none, st₁)) :
      Follows s c st [.retrieve state] (.ok (failed .storeLookup .requestNotFound))
        (afterFailure s .storeLookup .requestNotFound st₁)
  | found {state : String} {request : AuthorizationRequest} {st₁ st' : σ}
      {calls : List ServiceCall} {result : Except Fault AttemptResult}
      (hc : Complete c.query state)
      (hr : (s.retrieveRequest state).runOn st = (.ok (some request), st₁))
      (hp : Proceeds s request (responseOf c) st₁ calls result st') :
      Follows s c st (.retrieve state :: calls) result st'

/-- The last stage ends with a principal if the engine has logged in a user with a name and the
client is recorded without a fault. -/
theorem Finishes.result_eq {s : Services σ} {r : Registration} {t : LoginToken} {st st' : σ}
    {calls : List ServiceCall} {result : Except Fault AttemptResult} {user : User} {name : String}
    (h : Finishes s r t st calls result st') (ht : t.authenticated = true) (hu : t.user = some user)
    (hn : user.name = .ok name) (hsave : ∀ save, s.saveClient = some save →
      ∀ client st, ((save client).runOn st).1 = .ok ()) :
    result = .ok (succeeded (principal r t user) t) := by
  cases h with
  | unauthenticated ht' =>
    rcases ht' with hfalse | hnone
    · rw [ht] at hfalse
      cases hfalse
    · rw [hu] at hnone
      cases hnone
  | nameless _ hu' hn' =>
    rw [hu] at hu'
    obtain rfl := Option.some.inj hu'
    rw [hn] at hn'
    cases hn'
  | unrecorded _ hu' _ _ =>
    rw [hu] at hu'
    obtain rfl := Option.some.inj hu'
    rfl
  | @recordingFaulted _ name _ token _ _ _ _ _ hs _ hr =>
    have hreturns := hsave _ hs ⟨r, name, token⟩ st
    rw [hr] at hreturns
    cases hreturns
  | recorded _ hu' _ _ _ _ =>
    rw [hu] at hu'
    obtain rfl := Option.some.inj hu'
    rfl

/-! ## The parameters -/

theorem given_eq_true {q : Query} {name text : String} (h : q.Gives name text) :
    AuthorizationResponse.given (q.lookup name) = true := by
  rw [h.1]
  simp [AuthorizationResponse.given, h.2]

theorem given_eq_false {q : Query} {name : String} (h : q.Lacks name) :
    AuthorizationResponse.given (q.lookup name) = false := by
  cases hq : q.lookup name with
  | none => rfl
  | some text =>
    rw [h text hq]
    rfl

theorem gives_or_lacks (q : Query) (name : String) : (∃ text, q.Gives name text) ∨ q.Lacks name := by
  cases hq : q.lookup name with
  | none => exact Or.inr fun text h => by rw [hq] at h; cases h
  | some text =>
    by_cases ht : text = ""
    · exact Or.inr fun text' h => by rw [hq] at h; exact (Option.some.inj h) ▸ ht
    · exact Or.inl ⟨text, hq, ht⟩

theorem refuses_or_complete (q : Query) : (∃ f, Refuses q f) ∨ ∃ state, Complete q state := by
  rcases gives_or_lacks q "error" with ⟨code, he⟩ | he
  · exact Or.inl ⟨_, .error he⟩
  · rcases gives_or_lacks q "code" with ⟨code, hc⟩ | hc
    · rcases gives_or_lacks q "state" with ⟨state, hs⟩ | hs
      · exact Or.inr ⟨state, he, ⟨code, hc⟩, hs⟩
      · exact Or.inl ⟨_, .noState he hc hs⟩
    · exact Or.inl ⟨_, .noCode he hc⟩

theorem Refuses.refusal? {c : Callback} {f : Failure} (h : Refuses c.query f) :
    refusal? (responseOf c) = some f := by
  unfold Attempt.refusal? AuthorizationResponse.isSuccess AuthorizationResponse.isError
  cases h with
  | error he =>
    have herror : AuthorizationResponse.given (responseOf c).error = true := given_eq_true he
    have hcode : (responseOf c).error = some _ := he.1
    rw [if_pos herror, hcode]
    rfl
  | noCode he hc =>
    have herror : AuthorizationResponse.given (responseOf c).error = false := given_eq_false he
    have hcode : AuthorizationResponse.given (responseOf c).code = false := given_eq_false hc
    simp [herror, hcode]
  | noState he hc hs =>
    have herror : AuthorizationResponse.given (responseOf c).error = false := given_eq_false he
    have hcode : AuthorizationResponse.given (responseOf c).code = true := given_eq_true hc
    have hstate : AuthorizationResponse.given (responseOf c).state = false := given_eq_false hs
    simp [herror, hcode, hstate]

theorem Complete.refusal? {c : Callback} {state : String} (h : Complete c.query state) :
    refusal? (responseOf c) = none := by
  obtain ⟨code, hc⟩ := h.code
  have herror : AuthorizationResponse.given (responseOf c).error = false := given_eq_false h.error
  have hcode : AuthorizationResponse.given (responseOf c).code = true := given_eq_true hc
  have hstate : AuthorizationResponse.given (responseOf c).state = true := given_eq_true h.state
  simp [Attempt.refusal?, AuthorizationResponse.isSuccess, AuthorizationResponse.isError, herror,
    hcode, hstate]

theorem Complete.state_eq {c : Callback} {state : String} (h : Complete c.query state) :
    (responseOf c).state.getD "" = state := by
  simp [responseOf, AuthorizationResponse.ofQuery, h.state.1]

/-! ## Runs of the stages -/

section

variable (s : Services σ) (st : σ)

theorem runOn_recordClient (r : Registration) (p : Principal) (t : LoginToken) :
    (recordClient s r p t).runOn st = match s.saveClient, t.accessToken, p.name with
      | some save, some token, .ok name => (save ⟨r, name, token⟩).runOn st
      | some _, some _, .error e => (.error e, st)
      | _, _, _ => (.ok (), st) := by
  unfold recordClient
  cases s.saveClient with
  | none => rfl
  | some save =>
    cases t.accessToken with
    | none => rfl
    | some token =>
      dsimp only
      rw [Action.runOn_bind, Action.runOn_lift]
      cases p.name <;> rfl

theorem runOn_finish_eq (r : Registration) (t : LoginToken) :
    (finish s r t).runOn st = match principalOf r t with
      | .error e => (.error e, st)
      | .ok p => match (recordClient s r p t).runOn st with
        | (.error e, st) => (.error e, st)
        | (.ok (), st) => match p.name with
          | .error e => (.error e, st)
          | .ok name => (.ok (succeeded p t), afterLogin s r name st) := by
  unfold finish
  rw [Action.runOn_bind, Action.runOn_lift]
  cases principalOf r t with
  | error e => rfl
  | ok p =>
    dsimp only
    rw [Action.runOn_bind]
    rcases (recordClient s r p t).runOn st with ⟨_ | _, st'⟩
    · rfl
    · dsimp only
      rw [Action.runOn_bind, Action.runOn_lift]
      cases p.name <;> rfl

theorem principalOf_eq_error {r : Registration} {t : LoginToken}
    (h : t.authenticated = false ∨ t.user = none) :
    principalOf r t = .error .unauthenticatedToken := by
  unfold principalOf
  rcases h with h | h
  · cases t.user <;> simp [h]
  · rw [h]

theorem principalOf_of_user {r : Registration} {t : LoginToken} {user : User}
    (ht : t.authenticated = true) (hu : t.user = some user) :
    principalOf r t = .ok (principal r t user) := by
  unfold principalOf principal
  rw [hu, ht]
  rfl

theorem saveClient_traced {save : AuthorizedClient → Action σ Unit} (h : s.saveClient = some save) :
    s.traced.saveClient = some fun client => noting (.save client) (save client) := by
  simp [Services.traced, h]

theorem saveClient_traced_none (h : s.saveClient = none) : s.traced.saveClient = none := by
  simp [Services.traced, h]

end

variable {s : Services σ} {st st' : σ} {calls : List ServiceCall}
  {result : Except Fault AttemptResult}

section

variable {r : Registration} {t : LoginToken} {user : User} {name : String}

/-- The access token is recorded, or there is nothing to record: the last stage ends. -/
theorem runOn_finish_of_recorded (ht : t.authenticated = true) (hu : t.user = some user)
    (hn : user.name = .ok name)
    (h : (recordClient s r (principal r t user) t).runOn st = (.ok (), st')) :
    (finish s r t).runOn st = (.ok (succeeded (principal r t user) t), afterLogin s r name st') := by
  have hname : (principal r t user).name = .ok name := hn
  rw [runOn_finish_eq, principalOf_of_user ht hu]
  simp only [h, hname]

/-- A fault of recording the access token leaves the last stage. -/
theorem runOn_finish_of_faulted {e : Fault} (ht : t.authenticated = true)
    (hu : t.user = some user)
    (h : (recordClient s r (principal r t user) t).runOn st = (.error e, st')) :
    (finish s r t).runOn st = (.error e, st') := by
  rw [runOn_finish_eq, principalOf_of_user ht hu]
  simp only [h]

end

theorem Finishes.runOn {r : Registration} {t : LoginToken}
    (h : Finishes s r t st calls result st') : (finish s r t).runOn st = (result, st') := by
  cases h with
  | unauthenticated ht => rw [runOn_finish_eq, principalOf_eq_error ht]
  | nameless ht hu hn =>
    have hname : (principal r t _).name = _ := hn
    rw [runOn_finish_eq, principalOf_of_user ht hu]
    simp only [runOn_recordClient, hname]
    cases s.saveClient <;> cases t.accessToken <;> rfl
  | unrecorded ht hu hn hs =>
    refine runOn_finish_of_recorded ht hu hn ?_
    rw [runOn_recordClient]
    rcases hs with hs | hs
    · rw [hs]
    · rw [hs]
      cases s.saveClient <;> rfl
  | recordingFaulted ht hu hn hs ha hr =>
    have hname : (principal r t _).name = _ := hn
    refine runOn_finish_of_faulted ht hu ?_
    simp only [runOn_recordClient, hname, hs, ha, hr]
  | recorded ht hu hn hs ha hr =>
    have hname : (principal r t _).name = _ := hn
    refine runOn_finish_of_recorded ht hu hn ?_
    simp only [runOn_recordClient, hname, hs, ha, hr]

theorem Exchanges.runOn {r : Registration} {request : AuthorizationRequest}
    {response : AuthorizationResponse}
    (h : Exchanges s { registration := r, request, response } st calls result st') :
    (exchange s r request response).runOn st = (result, st') := by
  rw [runOn_exchange]
  cases h with
  | failed ha =>
    rw [ha]
    rfl
  | faulted ha he =>
    rw [ha]
    split <;> simp_all
  | returned ha hf =>
    rw [ha]
    exact hf.runOn

theorem encode_eq_ok {request : AuthorizationRequest} {text : String}
    (h : request.state = .text text) : ofValue (request.state.textFor "encode") = .ok text := by
  rw [h]
  rfl

theorem encode_eq_error {request : AuthorizationRequest} (h : ∀ text, request.state ≠ .text text) :
    ofValue (request.state.textFor "encode") =
      .error (.value (.noMember request.state.kind "encode")) := by
  cases hs : request.state with
  | text text => exact absurd hs (h text)
  | _ => rfl

theorem Proceeds.runOn {request : AuthorizationRequest} {response : AuthorizationResponse}
    (h : Proceeds s request response st calls result st') :
    (proceed s request response).runOn st = (result, st') := by
  rw [runOn_proceed]
  cases h with
  | stateKind hs => rw [encode_eq_error hs]
  | stateDiffers hs hne =>
    rw [encode_eq_ok hs]
    simp only [ne_eq, hne.symm, not_false_eq_true, if_true]
    rfl
  | lookupFaulted hs heq hf =>
    rw [encode_eq_ok hs]
    simp only [ne_eq, heq, not_true, if_false, hf]
  | unknown hs heq hf =>
    rw [encode_eq_ok hs]
    simp only [ne_eq, heq, not_true, if_false, hf]
    rfl
  | known hs heq hf hx =>
    rw [encode_eq_ok hs]
    simp only [ne_eq, heq, not_true, if_false, hf]
    exact hx.runOn

theorem Follows.runOn {c : Callback} (h : Follows s c st calls result st') :
    (run s c).runOn st = (result, st') := by
  rw [runOn_run]
  cases h with
  | refused hc =>
    rw [hc.refusal?]
    rfl
  | retrievalFaulted hc hr =>
    rw [hc.refusal?, hc.state_eq]
    simp only [hr]
  | notFound hc hr =>
    rw [hc.refusal?, hc.state_eq]
    simp only [hr]
    rfl
  | found hc hr hp =>
    rw [hc.refusal?, hc.state_eq]
    simp only [hr]
    exact hp.runOn

/-! ## Runs that are watched

A stage that is watched is described by the same constructors, with the calls noted in its state. -/

theorem afterFailure_traced (s : Services σ) (stage : Stage) (f : Failure) (st : σ)
    (noted : List ServiceCall) :
    afterFailure s.traced stage f (st, noted) = (afterFailure s stage f st, noted) := rfl

theorem afterLogin_traced (s : Services σ) (r : Registration) (name : String) (st : σ)
    (noted : List ServiceCall) :
    afterLogin s.traced r name (st, noted) = (afterLogin s r name st, noted) := rfl

theorem Finishes.traced {r : Registration} {t : LoginToken}
    (h : Finishes s r t st calls result st') (noted : List ServiceCall) :
    Finishes s.traced r t (st, noted) calls result (st', noted ++ calls) := by
  cases h with
  | unauthenticated ht =>
    rw [List.append_nil]
    exact .unauthenticated ht
  | nameless ht hu hn =>
    rw [List.append_nil]
    exact .nameless ht hu hn
  | unrecorded ht hu hn hs =>
    rw [List.append_nil]
    exact .unrecorded ht hu hn (hs.imp_left (saveClient_traced_none s))
  | recordingFaulted ht hu hn hs ha hr =>
    refine .recordingFaulted ht hu hn (saveClient_traced s hs) ha ?_
    rw [runOn_noting, hr]
  | recorded ht hu hn hs ha hr =>
    rw [← afterLogin_traced]
    refine .recorded ht hu hn (saveClient_traced s hs) ha ?_
    rw [runOn_noting, hr]

theorem Exchanges.traced {t : LoginToken} (h : Exchanges s t st calls result st')
    (noted : List ServiceCall) :
    Exchanges s.traced t (st, noted) calls result (st', noted ++ calls) := by
  cases h with
  | failed ha =>
    rw [← afterFailure_traced]
    refine .failed ?_
    rw [runOn_authenticate_traced, ha]
  | faulted ha he =>
    refine .faulted ?_ he
    rw [runOn_authenticate_traced, ha]
  | returned ha hf =>
    have hrest := hf.traced (noted ++ [.authenticate t])
    rw [List.append_assoc] at hrest
    refine .returned ?_ hrest
    rw [runOn_authenticate_traced, ha]

theorem Proceeds.traced {request : AuthorizationRequest} {response : AuthorizationResponse}
    (h : Proceeds s request response st calls result st') (noted : List ServiceCall) :
    Proceeds s.traced request response (st, noted) calls result (st', noted ++ calls) := by
  cases h with
  | stateKind hs =>
    rw [List.append_nil]
    exact .stateKind hs
  | stateDiffers hs hne =>
    rw [List.append_nil]
    exact .stateDiffers hs hne
  | lookupFaulted hs heq hf =>
    refine .lookupFaulted hs heq ?_
    rw [runOn_findRegistration_traced, hf]
  | unknown hs heq hf =>
    rw [← afterFailure_traced]
    refine .unknown hs heq ?_
    rw [runOn_findRegistration_traced, hf]
  | known hs heq hf hx =>
    have hrest := hx.traced (noted ++ [.find (.text (request.registrationId?.getD ""))])
    rw [List.append_assoc] at hrest
    refine .known hs heq ?_ hrest
    rw [runOn_findRegistration_traced, hf]

theorem Follows.traced {c : Callback} (h : Follows s c st calls result st')
    (noted : List ServiceCall) :
    Follows s.traced c (st, noted) calls result (st', noted ++ calls) := by
  cases h with
  | refused hc =>
    rw [List.append_nil]
    exact .refused hc
  | retrievalFaulted hc hr =>
    refine .retrievalFaulted hc ?_
    rw [runOn_retrieveRequest_traced, hr]
  | notFound hc hr =>
    rw [← afterFailure_traced]
    refine .notFound hc ?_
    rw [runOn_retrieveRequest_traced, hr]
  | @found state request st₁ _ calls _ hc hr hp =>
    have hrest := hp.traced (noted ++ [.retrieve state])
    rw [List.append_assoc] at hrest
    refine .found hc ?_ hrest
    rw [runOn_retrieveRequest_traced, hr]

/-! ## Every run is described -/

section

variable (s : Services σ) (st : σ)

theorem exists_finishes (r : Registration) (t : LoginToken) :
    ∃ calls result st', Finishes s r t st calls result st' := by
  cases ht : t.authenticated with
  | false => exact ⟨_, _, _, .unauthenticated (Or.inl ht)⟩
  | true =>
    cases hu : t.user with
    | none => exact ⟨_, _, _, .unauthenticated (Or.inr hu)⟩
    | some user =>
      cases hn : user.name with
      | error e => exact ⟨_, _, _, .nameless ht hu hn⟩
      | ok name =>
        cases hs : s.saveClient with
        | none => exact ⟨_, _, _, .unrecorded ht hu hn (Or.inl hs)⟩
        | some save =>
          cases ha : t.accessToken with
          | none => exact ⟨_, _, _, .unrecorded ht hu hn (Or.inr ha)⟩
          | some token =>
            rcases hr : (save ⟨r, name, token⟩).runOn st with ⟨e | _, st₁⟩
            · exact ⟨_, _, _, .recordingFaulted ht hu hn hs ha hr⟩
            · exact ⟨_, _, _, .recorded ht hu hn hs ha hr⟩

theorem exists_exchanges (t : LoginToken) :
    ∃ calls result st', Exchanges s t st calls result st' := by
  rcases ha : (s.authenticate t).runOn st with ⟨e | t', st₁⟩
  · by_cases he : ∃ f, e = .failure f
    · obtain ⟨f, rfl⟩ := he
      exact ⟨_, _, _, .failed ha⟩
    · exact ⟨_, _, _, .faulted ha fun f hf => he ⟨f, hf⟩⟩
  · obtain ⟨calls, result, st', hf⟩ := exists_finishes s st₁ t.registration t'
    exact ⟨_, _, _, .returned ha hf⟩

theorem exists_proceeds (request : AuthorizationRequest) (response : AuthorizationResponse) :
    ∃ calls result st', Proceeds s request response st calls result st' := by
  by_cases hs : ∃ text, request.state = .text text
  · obtain ⟨text, hs⟩ := hs
    by_cases heq : response.state = some text
    · rcases hf : (s.findRegistration (.text (request.registrationId?.getD ""))).runOn st with
        ⟨e | (_ | r), st₁⟩
      · exact ⟨_, _, _, .lookupFaulted hs heq hf⟩
      · exact ⟨_, _, _, .unknown hs heq hf⟩
      · obtain ⟨calls, result, st', hx⟩ :=
          exists_exchanges s st₁ { registration := r, request, response }
        exact ⟨_, _, _, .known hs heq hf hx⟩
    · exact ⟨_, _, _, .stateDiffers hs heq⟩
  · exact ⟨_, _, _, .stateKind fun text h => hs ⟨text, h⟩⟩

theorem exists_follows (c : Callback) : ∃ calls result st', Follows s c st calls result st' := by
  rcases refuses_or_complete c.query with ⟨f, hc⟩ | ⟨state, hc⟩
  · exact ⟨_, _, _, .refused hc⟩
  · rcases hr : (s.retrieveRequest state).runOn st with ⟨e | (_ | request), st₁⟩
    · exact ⟨_, _, _, .retrievalFaulted hc hr⟩
    · exact ⟨_, _, _, .notFound hc hr⟩
    · obtain ⟨calls, result, st', hp⟩ := exists_proceeds s st₁ request (responseOf c)
      exact ⟨_, _, _, .found hc hr hp⟩

/-- What an attempt asks of the services. -/
def serviceCalls (c : Callback) : List ServiceCall := ((run s.traced c).runOn (st, [])).2.2

end

/-- The relation of the first stage holds of the run of an attempt, and of nothing else. -/
theorem follows_iff {c : Callback} :
    Follows s c st calls result st' ↔
      serviceCalls s st c = calls ∧ (run s c).runOn st = (result, st') := by
  have hyields : ∀ {calls' result' st''}, Follows s c st calls' result' st'' →
      serviceCalls s st c = calls' ∧ (run s c).runOn st = (result', st'') := by
    intro calls' result' st'' h
    refine ⟨?_, h.runOn⟩
    unfold serviceCalls
    rw [(h.traced []).runOn]
    rfl
  constructor
  · exact hyields
  · rintro ⟨hcalls, hrun⟩
    obtain ⟨calls', result', st'', h⟩ := exists_follows s st c
    obtain ⟨hcalls', hrun'⟩ := hyields h
    rw [hcalls] at hcalls'
    rw [hrun] at hrun'
    obtain rfl := hcalls'
    obtain ⟨rfl, rfl⟩ := Prod.mk.inj hrun'
    exact h

/-- Only an attempt whose parameters are refused asks nothing of the services, and it changes
nothing but the journal. -/
theorem part_run_of_silent {κ : Type} {part : σ → κ} (hlog : ∀ r st, part (s.log r st) = part st)
    {c : Callback} (h : serviceCalls s st c = []) : part ((run s c).runOn st).2 = part st := by
  obtain ⟨calls, result, st', hf⟩ := exists_follows s st c
  obtain ⟨hcalls, hrun⟩ := follows_iff.1 hf
  rw [h] at hcalls
  subst hcalls
  rw [hrun]
  cases hf with
  | refused hc => exact hlog _ st

/-- The attempt follows its stages exactly, whatever the services do: `Follows` holds of what it
asks of them, of its result and of the state it leaves, and of nothing else. Refused parameters end
it before it asks for anything, and leave everything but the journal as it was. A request that names
no registration has none in a repository of registrations with identifiers. -/
theorem attempt_follows (s : Services σ) (st : σ) (c : Callback) :
    (∀ calls result st', Follows s c st calls result st' ↔
      serviceCalls s st c = calls ∧ (run s c).runOn st = (result, st')) ∧
    (∀ f, Refuses c.query f → serviceCalls s st c = [] ∧
      ∀ (κ : Type) (part : σ → κ), (∀ r st, part (s.log r st) = part st) →
        part ((run s c).runOn st).2 = part st) ∧
    ∀ (registrations : List Registration) (repository : Repository),
      (∀ r ∈ registrations, ∃ d, Registration.ofDraft d = .ok r) →
      Repository.ofList registrations = .ok repository → repository.find? (.text "") = none := by
  refine ⟨fun _ _ _ => follows_iff, fun f hf => ?_, fun registrations repository hdrafts hlist => ?_⟩
  · have hrefused : Follows s c st _ _ _ := .refused hf
    have hsilent := (follows_iff.1 hrefused).1
    exact ⟨hsilent, fun κ part hlog => part_run_of_silent hlog hsilent⟩
  · refine Repository.find?_empty fun r hr => ?_
    rw [(Repository.ofList_eq_ok hlist).1] at hr
    obtain ⟨d, hd⟩ := hdrafts r hr
    exact Registration.truthy_id_of_ofDraft hd

/-- A store hands out the request of another login: the attempt ends when the states are compared,
and neither the repository nor the engine is asked. A provider that reports an error leaves the
store alone. -/
theorem attempt_follows_mismatch :
    let s : Services (Nat × Nat) :=
      { findRegistration := fun _ => pure none
        retrieveRequest := fun _ => Action.ofFn fun (entries, records) =>
          (.ok (some (.ofLogin "S2" "acme")), entries - 1, records)
        authenticate := fun t => pure t
        saveClient := none
        log := fun _ st => (st.1, st.2 + 1) }
    let c : Callback := { path := "/login/acme", query := [("code", "C"), ("state", "S1")] }
    let denied : Callback :=
      { path := "/login/acme", query := [("error", "access_denied"), ("state", "S1")] }
    serviceCalls s (1, 0) c = [.retrieve "S1"] ∧
      (run s c).runOn (1, 0) = (.ok (failed .stateValidated .invalidState), 0, 1) ∧
      serviceCalls s (1, 0) denied = [] ∧ ((run s denied).runOn (1, 0)).2.1 = 1 ∧
      ∃ repository, Repository.ofList [.ofId "acme"] = .ok repository ∧
        repository.find? (.text "") = none := by
  intro s c denied
  have hcomplete : Complete c.query "S1" :=
    ⟨fun _ h => (by cases h), ⟨"C", rfl, by decide⟩, rfl, by decide⟩
  have hrefuses : Refuses denied.query (.provider (.text "access_denied") .null .null) :=
    .error ⟨rfl, by decide⟩
  obtain ⟨hfollows, -, hempty⟩ := attempt_follows s (1, 0) c
  have hstate : (AuthorizationRequest.ofLogin "S2" "acme").state = .text "S2" := rfl
  obtain ⟨hcalls, hrun⟩ := (hfollows _ _ _).1
    (.found hcomplete rfl (.stateDiffers hstate (by decide)))
  obtain ⟨hsilent, hkept⟩ := (attempt_follows s (1, 0) denied).2.1 _ hrefuses
  have hdraft : Registration.ofDraft
      { id := .text "acme"
        clientId := .text "client"
        authorizationUri := .text "https://id.example.com/authorize"
        tokenUri := .text "https://id.example.com/token"
        userInfoUri := .text "https://id.example.com/user" } = .ok (.ofId "acme") := rfl
  refine ⟨hcalls, hrun, hsilent, hkept Nat Prod.fst fun _ _ => rfl, ⟨[.ofId "acme"]⟩, rfl,
    hempty [.ofId "acme"] _ ?_ rfl⟩
  intro r hr
  rw [List.mem_singleton.1 hr]
  exact ⟨_, hdraft⟩

end Attempt

end LoginCallback
