import LoginCallback.Proofs.Action.Parallel
import LoginCallback.Proofs.Authentication.Attempt

/-!
# Two attempts side by side

Two hosts attempt a login each. If their services run in parallel (`Services.Parallel`), so do the
attempts: they end in the same way, with the same principal or the same failure, and what is related
of the hosts before is related after. Main statement: `matches_run`.
-/

namespace LoginCallback

/-- What an engine fills in of a token. -/
def LoginToken.filled (t : LoginToken) :
    Option User × Option AccessToken × List Value × Bool :=
  (t.user, t.accessToken, t.authorities, t.authenticated)

/-- The results are the same, except for the request and the registration of the login token. -/
structure AttemptResult.Matches (r r' : AttemptResult) : Prop where
  status : r.status = r'.status
  principal : r.principal = r'.principal
  failure : r.failure = r'.failure
  failedIn : r.failedIn = r'.failedIn
  filled : r.loginToken.map LoginToken.filled = r'.loginToken.map LoginToken.filled

theorem AttemptResult.Matches.success? {r r' : AttemptResult} (h : r.Matches r') :
    r.success? = r'.success? := by
  unfold AttemptResult.success?
  rw [h.status, h.principal]

/-- The services do the same to related states: `Q` relates the registrations that they find, and
`T` the tokens that their engines get. -/
structure Services.Parallel {σ : Type} (S : σ → σ → Prop) (Q : Registration → Registration → Prop)
    (T : LoginToken → LoginToken → Prop) (s s' : Services σ) : Prop where
  findRegistration : ∀ id,
    Action.Parallel S (Option.Rel Q) (s.findRegistration id) (s'.findRegistration id)
  authenticate : ∀ t t', T t t' →
    Action.Parallel S (fun t t' => t.filled = t'.filled) (s.authenticate t) (s'.authenticate t')
  saveClient : (s.saveClient = none ∧ s'.saveClient = none) ∨
    ∃ save save', s.saveClient = some save ∧ s'.saveClient = some save' ∧
      ∀ client client', Action.Parallel S Eq (save client) (save' client')
  log : ∀ r st st', S st st' → S (s.log r st) (s'.log r st')

namespace Attempt

variable {σ : Type} {S : σ → σ → Prop} {Q : Registration → Registration → Prop}
  {T : LoginToken → LoginToken → Prop} {s s' : Services σ}

theorem matches_failed (stage : Stage) (f : Failure) :
    (failed stage f).Matches (failed stage f) := ⟨rfl, rfl, rfl, rfl, rfl⟩

theorem parallel_fail (h : s.Parallel S Q T s') (stage : Stage) (f : Failure) :
    Action.Parallel S AttemptResult.Matches (fail s stage f) (fail s' stage f) :=
  (Action.parallel_change fun st st' => h.log _ st st').bind fun _ _ _ =>
    Action.parallel_pure (matches_failed stage f)

theorem principalOf_congr {r r' : Registration} {t t' : LoginToken} (hr : r.id = r'.id)
    (ht : t.filled = t'.filled) : principalOf r t = principalOf r' t' := by
  simp only [LoginToken.filled, Prod.mk.injEq] at ht
  obtain ⟨huser, -, hauthorities, hauthenticated⟩ := ht
  unfold principalOf
  rw [hr, huser, hauthorities, hauthenticated]

theorem parallel_recordClient (h : s.Parallel S Q T s') (r r' : Registration) (p : Principal)
    {t t' : LoginToken} (ht : t.filled = t'.filled) :
    Action.Parallel S Eq (recordClient s r p t) (recordClient s' r' p t') := by
  simp only [LoginToken.filled, Prod.mk.injEq] at ht
  unfold recordClient
  rw [ht.2.1]
  rcases h.saveClient with ⟨hs, hs'⟩ | ⟨save, save', hs, hs', hsave⟩
  · rw [hs, hs']
    exact Action.parallel_pure rfl
  · rw [hs, hs']
    cases t'.accessToken with
    | none => exact Action.parallel_pure rfl
    | some token =>
      exact (Action.parallel_lift (alike_of_eq rfl)).bind fun name name' _ => hsave _ _

theorem parallel_finish (h : s.Parallel S Q T s') {r r' : Registration} (hr : r.id = r'.id)
    {t t' : LoginToken} (ht : t.filled = t'.filled) :
    Action.Parallel S AttemptResult.Matches (finish s r t) (finish s' r' t') := by
  unfold finish
  refine (Action.parallel_lift (alike_of_eq (principalOf_congr hr ht))).bind ?_
  rintro p _ rfl
  refine (parallel_recordClient h r r' p ht).bind fun _ _ _ => ?_
  refine (Action.parallel_lift (alike_of_eq (rfl : p.name = p.name))).bind ?_
  rintro name _ rfl
  rw [hr]
  refine (Action.parallel_change fun st st' => h.log _ st st').bind fun _ _ _ => ?_
  exact Action.parallel_pure ⟨rfl, rfl, rfl, rfl, congrArg some ht⟩

theorem parallel_exchange (h : s.Parallel S Q T s') {r r' : Registration} (hr : r.id = r'.id)
    {request request' : AuthorizationRequest} {response response' : AuthorizationResponse}
    (ht : T { registration := r, request, response }
      { registration := r', request := request', response := response' }) :
    Action.Parallel S AttemptResult.Matches (exchange s r request response)
      (exchange s' r' request' response') := by
  unfold exchange
  refine (h.authenticate _ _ ht).outcome.bind fun answer answer' hanswer => ?_
  cases hanswer with
  | ok hfilled => exact parallel_finish h hr hfilled
  | error e =>
    cases e with
    | failure f => exact parallel_fail h _ _
    | _ => exact Action.parallel_throw _

/-- The requests name the same registration, and their states are those of the callbacks or are
not. -/
structure Comparable (response response' : AuthorizationResponse)
    (request request' : AuthorizationRequest) : Prop where
  registrationId? : request.registrationId? = request'.registrationId?
  state : Alike (fun state state' => some state = response.state ↔ some state' = response'.state)
    (ofValue (request.state.textFor "encode")) (ofValue (request'.state.textFor "encode"))

section

variable {response response' : AuthorizationResponse}

theorem parallel_proceed (h : s.Parallel S Q T s') (hQ : ∀ r r', Q r r' → r.id = r'.id)
    {request request' : AuthorizationRequest} (hc : Comparable response response' request request')
    (ht : ∀ r r', Q r r' → T { registration := r, request, response }
      { registration := r', request := request', response := response' }) :
    Action.Parallel S AttemptResult.Matches (proceed s request response)
      (proceed s' request' response') := by
  unfold proceed
  rw [hc.registrationId?]
  refine (Action.parallel_lift hc.state).bind fun state state' hstate => ?_
  by_cases heq : some state = response.state
  · rw [if_neg (not_not_intro heq), if_neg (not_not_intro (hstate.1 heq))]
    refine (h.findRegistration _).bind fun found found' hfound => ?_
    cases hfound with
    | none => exact parallel_fail h _ _
    | some hr => exact parallel_exchange h (hQ _ _ hr) (ht _ _ hr)
  · rw [if_pos heq, if_pos (mt hstate.2 heq)]
    exact parallel_fail h _ _

end

/-- Two attempts of which the services run in parallel, and which are refused for the same reason or
retrieve comparable requests. -/
theorem matches_run {c c' : Callback} {P : AuthorizationRequest → AuthorizationRequest → Prop}
    (h : s.Parallel S Q T s') (hQ : ∀ r r', Q r r' → r.id = r'.id)
    (hrefusal : refusal? (responseOf c) = refusal? (responseOf c'))
    (hP : ∀ request request', P request request' →
      Comparable (responseOf c) (responseOf c') request request' ∧
      ∀ r r', Q r r' → T { registration := r, request, response := responseOf c }
        { registration := r', request := request', response := responseOf c' })
    {st st' : σ} (hst : S st st')
    (hretrieve : refusal? (responseOf c) = none →
      Alike (Option.Rel P) ((s.retrieveRequest ((responseOf c).state.getD "")).runOn st).1
        ((s'.retrieveRequest ((responseOf c').state.getD "")).runOn st').1 ∧
      S ((s.retrieveRequest ((responseOf c).state.getD "")).runOn st).2
        ((s'.retrieveRequest ((responseOf c').state.getD "")).runOn st').2) :
    Alike AttemptResult.Matches ((run s c).runOn st).1 ((run s' c').runOn st').1 ∧
      S ((run s c).runOn st).2 ((run s' c').runOn st').2 := by
  rw [runOn_run, runOn_run, ← hrefusal]
  cases hr : refusal? (responseOf c) with
  | some f => exact parallel_fail h .start f st st' hst
  | none =>
    obtain ⟨hfound, hstate⟩ := hretrieve hr
    dsimp only
    revert hfound hstate
    rcases (s.retrieveRequest ((responseOf c).state.getD "")).runOn st with ⟨found, st₁⟩
    rcases (s'.retrieveRequest ((responseOf c').state.getD "")).runOn st' with ⟨found', st₁'⟩
    intro hfound hstate
    cases hfound with
    | error e => exact ⟨.error e, hstate⟩
    | ok hfound =>
      cases hfound with
      | none => exact parallel_fail h _ _ st₁ st₁' hstate
      | some hrequest =>
        obtain ⟨hcomparable, ht⟩ := hP _ _ hrequest
        exact parallel_proceed h hQ hcomparable ht st₁ st₁' hstate

end Attempt

end LoginCallback
