import LoginCallback.Proofs.Authentication.Filter

/-!
# Calls of the engine

The services of a host can be recorded: every token that is handed to the engine is noted
(`Services.recorded`), and `LoginFilter.engineCalls` are the tokens noted while a filter processes a
request. Main statements: `engineCalls_of_reaches`, an attempt that reaches the engine calls it
exactly once, and `engineCalls_of_ends`, no other does; `engineCalls_of_context`, only a request
that calls the engine ends with a new principal.
-/

namespace LoginCallback

variable {σ ρ : Type}

namespace Services

/-- The services, noting the tokens that are handed to the engine. -/
def recorded (s : Services σ) : Services (σ × List LoginToken) :=
  { findRegistration := fun id => (s.findRegistration id).beside
    retrieveRequest := fun state => (s.retrieveRequest state).beside
    authenticate := fun t => Action.ofFn fun (st, calls) =>
      let (r, st) := (s.authenticate t).runOn st
      (r, (st, calls ++ [t]))
    saveClient := s.saveClient.map fun save client => (save client).beside
    log := fun r t => (s.log r t.1, t.2) }

variable (s : Services σ) (st : σ) (calls : List LoginToken)

theorem runOn_findRegistration_recorded (id : Value) :
    (s.recorded.findRegistration id).runOn (st, calls) =
      (((s.findRegistration id).runOn st).1, ((s.findRegistration id).runOn st).2, calls) := rfl

theorem runOn_retrieveRequest_recorded (state : String) :
    (s.recorded.retrieveRequest state).runOn (st, calls) =
      (((s.retrieveRequest state).runOn st).1, ((s.retrieveRequest state).runOn st).2, calls) := rfl

theorem runOn_authenticate_recorded (t : LoginToken) :
    (s.recorded.authenticate t).runOn (st, calls) =
      (((s.authenticate t).runOn st).1, ((s.authenticate t).runOn st).2, calls ++ [t]) := rfl

end Services

namespace Attempt

open Services

variable (s : Services σ)

/-! ## Recording an attempt -/

theorem fail_recorded (stage : Stage) (f : Failure) :
    fail s.recorded stage f = (fail s stage f).beside := rfl

theorem recordClient_recorded (r : Registration) (p : Principal) (t : LoginToken) :
    recordClient s.recorded r p t = (recordClient s r p t).beside := by
  unfold recordClient Services.recorded
  cases s.saveClient with
  | none => rfl
  | some save =>
    cases t.accessToken with
    | none => rfl
    | some accessToken =>
      simp only [Option.map_some]
      rw [Action.beside_bind]
      rfl

theorem finish_recorded (r : Registration) (t : LoginToken) :
    finish s.recorded r t = (finish s r t).beside := by
  unfold finish
  rw [Action.beside_bind]
  congr 1
  funext p
  rw [Action.beside_bind, recordClient_recorded]
  congr 1
  funext _
  rw [Action.beside_bind]
  rfl

variable {s} {c : Callback} {st st' : σ} {t : LoginToken} (calls : List LoginToken)

theorem runOn_exchange_recorded (r : Registration) (request : AuthorizationRequest)
    (response : AuthorizationResponse) :
    (exchange s.recorded r request response).runOn (st, calls) =
      (((exchange s r request response).runOn st).1, ((exchange s r request response).runOn st).2,
        calls ++ [{ registration := r, request, response }]) := by
  rw [runOn_exchange, runOn_exchange, runOn_authenticate_recorded]
  rcases (s.authenticate _).runOn st with ⟨e | t, st'⟩
  · cases e <;> rfl
  · dsimp only
    rw [finish_recorded, Action.runOn_beside]

theorem Reaches.recorded (h : Reaches s c st t st') :
    Reaches s.recorded c (st, calls) t (st', calls) := by
  obtain ⟨st₁, hretrieve, hfind⟩ := h.retrieved
  refine ⟨h.accepted, ⟨(st₁, calls), ?_, ?_⟩, h.state_eq, h.token_eq⟩
  · rw [runOn_retrieveRequest_recorded, hretrieve]
  · rw [runOn_findRegistration_recorded, hfind]

/-- An attempt that reaches the engine calls it once. -/
theorem Reaches.runOn_recorded (h : Reaches s c st t st') :
    (run s.recorded c).runOn (st, calls) =
      (((run s c).runOn st).1, ((run s c).runOn st).2, calls ++ [t]) := by
  rw [(h.recorded calls).runOn_run, h.runOn_run, runOn_exchange_recorded, ← h.token_eq]

theorem Ends.recorded {x : Except Fault (Stage × Failure)} (h : Ends s c st x st') :
    Ends s.recorded c (st, calls) x (st', calls) := by
  have hrec : ∀ {r : Except Fault (Option AuthorizationRequest)} {st₁ : σ},
      (s.retrieveRequest ((responseOf c).state.getD "")).runOn st = (r, st₁) →
      (s.recorded.retrieveRequest ((responseOf c).state.getD "")).runOn (st, calls) =
        (r, st₁, calls) := by
    intro r st₁ hr
    rw [runOn_retrieveRequest_recorded, hr]
  have hfind : ∀ {id : Value} {r : Except Fault (Option Registration)} {st₁ st₂ : σ},
      (s.findRegistration id).runOn st₁ = (r, st₂) →
      (s.recorded.findRegistration id).runOn (st₁, calls) = (r, st₂, calls) := by
    intro id r st₁ st₂ hf
    rw [runOn_findRegistration_recorded, hf]
  cases h with
  | refused hc => exact .refused hc
  | retrievalFaulted hc hr => exact .retrievalFaulted hc (hrec hr)
  | notFound hc hr => exact .notFound hc (hrec hr)
  | stateFaulted hc hr hs => exact .stateFaulted hc (hrec hr) hs
  | stateDiffers hc hr hs hne => exact .stateDiffers hc (hrec hr) hs hne
  | lookupFaulted hc hr hs heq hf => exact .lookupFaulted hc (hrec hr) hs heq (hfind hf)
  | unknown hc hr hs heq hf => exact .unknown hc (hrec hr) hs heq (hfind hf)

/-- An attempt that ends before the engine does not call it. -/
theorem Ends.runOn_recorded {x : Except Fault (Stage × Failure)} (h : Ends s c st x st') :
    (run s.recorded c).runOn (st, calls) =
      (((run s c).runOn st).1, ((run s c).runOn st).2, calls) := by
  rw [(h.recorded calls).runOn_run, h.runOn_run]
  rcases x with e | ⟨stage, f⟩
  · rfl
  · show (fail s.recorded stage f).runOn (st', calls) = _
    rw [fail_recorded, Action.runOn_beside]
    rfl

theorem success?_of_ended {x : Except Fault (Stage × Failure)} {st st' : σ} {result : AttemptResult}
    (h : ended s st x = (.ok result, st')) : result.success? = none := by
  rcases x with e | ⟨stage, f⟩
  · cases congrArg Prod.fst h
  · rw [ended, runOn_fail] at h
    obtain rfl : failed stage f = result := Except.ok.inj (congrArg Prod.fst h)
    rfl

/-- An attempt succeeds with the principal of the token that the engine returned. -/
theorem reaches_of_success {result : AttemptResult} {p : Principal} {st₂ : σ}
    (h : (run s c).runOn st = (.ok result, st₂)) (hp : result.success? = some p) :
    ∃ t st' t', Reaches s c st t st' ∧ ((s.authenticate t).runOn st').1 = .ok t' ∧
      principalOf t.registration t' = .ok p := by
  rcases reaches_or_ends s st c with ⟨t, st', hr⟩ | ⟨x, st', he⟩
  · rw [hr.runOn_run, runOn_exchange, ← hr.token_eq] at h
    rcases ha : (s.authenticate t).runOn st' with ⟨e | t', st₁⟩
    · rw [ha] at h
      cases e with
      | failure f =>
        obtain rfl : failed .exchanging f.ofEngine = result := Except.ok.inj (congrArg Prod.fst h)
        cases hp
      | _ => cases congrArg Prod.fst h
    · rw [ha] at h
      obtain ⟨q, hq, rfl⟩ := runOn_finish s h
      obtain rfl : q = p := Option.some.inj hp
      exact ⟨t, st', t', hr, by rw [ha], hq⟩
  · rw [he.runOn_run] at h
    rw [success?_of_ended h] at hp
    cases hp

theorem principalOf_eq_ok {r : Registration} {t : LoginToken} {p : Principal}
    (h : principalOf r t = .ok p) :
    t.authenticated = true ∧ ∃ user, t.user = some user ∧ p = ⟨user, t.authorities, r.id⟩ := by
  unfold principalOf at h
  cases hu : t.user with
  | none =>
    rw [hu] at h
    cases h
  | some user =>
    rw [hu] at h
    cases ha : t.authenticated with
    | false =>
      rw [ha] at h
      cases h
    | true =>
      rw [ha] at h
      exact ⟨rfl, user, rfl, (Except.ok.inj h).symm⟩

end Attempt

namespace LoginFilter

variable (f : LoginFilter σ ρ) (s : Services σ) (c : Callback) (context : SecurityContext)
  (next : Callback → SecurityContext → Action σ ρ) (st : σ)

/-! ## Recording a filter -/

/-- The filter, noting the tokens that its attempts hand to the engine. -/
def recorded : LoginFilter (σ × List LoginToken) ρ :=
  { matcher := f.matcher
    attempt := Attempt.run s.recorded
    onSuccess := fun c seen p => (f.onSuccess c seen p).beside
    onFailure := fun c seen failure => (f.onFailure c seen failure).beside
    log := fun r t => (f.log r t.1, t.2)
    ownsEngine := f.ownsEngine }

/-- The tokens that the engine gets while a request is processed. -/
def engineCalls : List LoginToken :=
  ((f.recorded s).handle c context (fun c seen => (next c seen).beside) (st, [])).2.2

theorem recorded_dispatch (r : AttemptResult) (calls : List LoginToken) :
    (f.recorded s).dispatch c r (st, calls) =
      (((f.attempting s).dispatch c r st).1, ((f.attempting s).dispatch c r st).2, calls) := by
  cases h : r.success? with
  | some p =>
    rw [(f.recorded s).dispatch_of_success c _ h, (f.attempting s).dispatch_of_success c st h]
    rfl
  | none =>
    cases hf : r.failure with
    | some failure =>
      rw [(f.recorded s).dispatch_of_failure c _ h hf,
        (f.attempting s).dispatch_of_failure c st h hf]
      rfl
    | none =>
      rw [(f.recorded s).dispatch_of_neither c _ h hf,
        (f.attempting s).dispatch_of_neither c st h hf]

/-- What is recorded of a callback is what its attempt hands over. -/
theorem recorded_handle_of_attempt (h : f.requiresAuthentication c = true)
    {calls : List LoginToken} (ha : (Attempt.run s.recorded c).runOn (st, []) =
      (((Attempt.run s c).runOn st).1, ((Attempt.run s c).runOn st).2, calls)) :
    (f.recorded s).handle c context (fun c seen => (next c seen).beside) (st, []) =
      (((f.attempting s).handle c context next st).1, ((f.attempting s).handle c context next st).2,
        calls) := by
  rcases hrun : (Attempt.run s c).runOn st with ⟨e | r, st'⟩
  · rw [hrun] at ha
    rw [(f.recorded s).handle_of_error c context _ _ h ha,
      (f.attempting s).handle_of_error c context next st h hrun]
  · rw [hrun] at ha
    rw [(f.recorded s).handle_of_ok c context _ _ h ha,
      (f.attempting s).handle_of_ok c context next st h hrun, recorded_dispatch]

theorem engineCalls_of_passed (h : f.requiresAuthentication c = false) :
    f.engineCalls s c context next st = [] := by
  unfold engineCalls
  rw [(f.recorded s).handle_of_passed c context _ _ h]
  rfl

theorem engineCalls_of_ends (h : f.requiresAuthentication c = true)
    {x : Except Fault (Stage × Failure)} {st' : σ} (he : Attempt.Ends s c st x st') :
    f.engineCalls s c context next st = [] := by
  unfold engineCalls
  rw [f.recorded_handle_of_attempt s c context next st h (he.runOn_recorded [])]

/-- A callback whose attempt reaches the engine calls it exactly once. -/
theorem engineCalls_of_reaches (h : f.requiresAuthentication c = true) {t : LoginToken} {st' : σ}
    (hr : Attempt.Reaches s c st t st') : f.engineCalls s c context next st = [t] := by
  unfold engineCalls
  rw [f.recorded_handle_of_attempt s c context next st h (hr.runOn_recorded [])]
  rfl

/-- A request that calls the engine is a callback whose attempt reaches it. -/
theorem reaches_of_engineCalls (h : f.engineCalls s c context next st ≠ []) :
    ∃ t st', Attempt.Reaches s c st t st' ∧ f.engineCalls s c context next st = [t] := by
  cases hc : f.requiresAuthentication c with
  | false => exact absurd (f.engineCalls_of_passed s c context next st hc) h
  | true =>
    rcases Attempt.reaches_or_ends s st c with ⟨t, st', hr⟩ | ⟨x, st', he⟩
    · exact ⟨t, st', hr, f.engineCalls_of_reaches s c context next st hc hr⟩
    · exact absurd (f.engineCalls_of_ends s c context next st hc he) h

/-- The principal that a callback leaves is one of the registration that the engine was called
with. -/
theorem engineCalls_of_context (h : f.requiresAuthentication c = true) {p : Principal}
    (hp : ((f.attempting s).handle c context next st).1.context = some p) :
    ∃ t, f.engineCalls s c context next st = [t] ∧ p.registrationId = t.registration.id := by
  obtain ⟨r, st₂, hrun, hs⟩ := (f.attempting s).success_of_context c context next st h hp
  obtain ⟨t, st', t', hr, -, hprincipal⟩ := Attempt.reaches_of_success hrun hs
  obtain ⟨-, user, -, rfl⟩ := Attempt.principalOf_eq_ok hprincipal
  exact ⟨t, f.engineCalls_of_reaches s c context next st h hr, rfl⟩

end LoginFilter

end LoginCallback
