import LoginCallback.Authentication.Host

/-!
# Stages of an attempt

An attempt, stage by stage: what each stage returns and which stage follows (`runOn_run`,
`runOn_proceed`, `runOn_exchange`, `runOn_finish`). Every attempt either reaches the engine
(`Reaches`) or ends before, in one of seven ways (`Ends`). Main statement: `settled_of_run`,
whatever the services of the host do, an attempt that returns has either a principal or a failure.
-/

namespace LoginCallback

/-- The result says either who has logged in or why nobody has. -/
def AttemptResult.Settled (r : AttemptResult) : Prop :=
  (∃ p, r.success? = some p ∧ r.failure = none) ∨ ∃ f, r.success? = none ∧ r.failure = some f

theorem AttemptResult.success?_eq_some {r : AttemptResult} {p : Principal} :
    r.success? = some p ↔ r.status = .authenticated ∧ r.principal = some p := by
  unfold success?
  by_cases h : r.status = .authenticated <;> simp [h]

/-- Retrieving a request apart, the services leave a part of the state alone. -/
structure Services.Keep {σ κ : Type} (s : Services σ) (part : σ → κ) : Prop where
  findRegistration : ∀ id, (s.findRegistration id).Keeps part
  authenticate : ∀ t, (s.authenticate t).Keeps part
  saveClient : ∀ save ∈ s.saveClient, ∀ client, (save client).Keeps part
  log : ∀ r st, part (s.log r st) = part st

namespace Attempt

variable {σ : Type} (s : Services σ) (st : σ)

/-- The result of an attempt that failed in a stage. -/
def failed (stage : Stage) (f : Failure) : AttemptResult :=
  { status := .failed, failure := some f, failedIn := some stage }

/-- The result of an attempt that logged a user in. -/
def succeeded (p : Principal) (t : LoginToken) : AttemptResult :=
  { status := .authenticated, principal := some p, loginToken := some t }

/-- The parameters of a callback. -/
def responseOf (c : Callback) : AuthorizationResponse := .ofQuery c.query c.url

/-! ## The stages -/

/-- A stage that fails only writes to the journal. -/
theorem runOn_fail (stage : Stage) (f : Failure) :
    (fail s stage f).runOn st = (.ok (failed stage f), s.log ⟨.warning, .attempt,
      "Login callback failed in " ++ stage.name ++ ": " ++ f.code.display⟩ st) := rfl

theorem runOn_run (c : Callback) :
    (run s c).runOn st = match refusal? (responseOf c) with
      | some f => (fail s .start f).runOn st
      | none =>
        match (s.retrieveRequest ((responseOf c).state.getD "")).runOn st with
        | (.error e, st) => (.error e, st)
        | (.ok none, st) => (fail s .storeLookup .requestNotFound).runOn st
        | (.ok (some request), st) => (proceed s request (responseOf c)).runOn st := by
  unfold run
  show (match refusal? (responseOf c) with
    | some f => fail s .start f
    | none => s.retrieveRequest ((responseOf c).state.getD "") >>= _ : Action σ _).runOn st = _
  cases refusal? (responseOf c) with
  | some f => rfl
  | none =>
    dsimp only
    rw [Action.runOn_bind]
    rcases (s.retrieveRequest _).runOn st with ⟨_ | (_ | request), st'⟩ <;> rfl

theorem runOn_proceed (request : AuthorizationRequest) (response : AuthorizationResponse) :
    (proceed s request response).runOn st = match ofValue (request.state.textFor "encode") with
      | .error e => (.error e, st)
      | .ok state =>
        if some state ≠ response.state then (fail s .stateValidated .invalidState).runOn st
        else match (s.findRegistration (.text (request.registrationId?.getD ""))).runOn st with
          | (.error e, st) => (.error e, st)
          | (.ok none, st) => (fail s .exchanging
              (.registrationNotFound (.ofText? request.registrationId?))).runOn st
          | (.ok (some r), st) => (exchange s r request response).runOn st := by
  unfold proceed
  rw [Action.runOn_bind, Action.runOn_lift]
  cases ofValue (request.state.textFor "encode") with
  | error e => rfl
  | ok state =>
    dsimp only
    split
    · rfl
    · rw [Action.runOn_bind]
      rcases (s.findRegistration _).runOn st with ⟨_ | (_ | r), st'⟩ <;> rfl

theorem runOn_exchange (r : Registration) (request : AuthorizationRequest)
    (response : AuthorizationResponse) :
    (exchange s r request response).runOn st =
      match (s.authenticate { registration := r, request, response }).runOn st with
      | (.ok t, st) => (finish s r t).runOn st
      | (.error (.failure f), st) => (fail s .exchanging f.ofEngine).runOn st
      | (.error e, st) => (.error e, st) := by
  unfold exchange
  rw [Action.runOn_bind, Action.runOn_outcome]
  rcases (s.authenticate _).runOn st with ⟨e | t, st'⟩
  · cases e <;> rfl
  · rfl

/-- The last stage returns only with a principal. -/
theorem runOn_finish {r : Registration} {t : LoginToken} {st st' : σ} {result : AttemptResult}
    (h : (finish s r t).runOn st = (.ok result, st')) :
    ∃ p, principalOf r t = .ok p ∧ result = succeeded p t := by
  obtain ⟨p, st₁, hp, h⟩ := Action.runOn_bind_eq_ok.1 h
  obtain ⟨-, st₂, -, h⟩ := Action.runOn_bind_eq_ok.1 h
  obtain ⟨name, st₃, -, h⟩ := Action.runOn_bind_eq_ok.1 h
  exact ⟨p, congrArg Prod.fst hp, (Except.ok.inj (congrArg Prod.fst h)).symm⟩

/-! ## The engine -/

section

/-- An attempt reaches the engine with the token `t`, in the state `st'`: the parameters of the
callback may lead to a login, a request was stored under their state, its own state is the same, and
its registration is known. -/
structure Reaches (c : Callback) (st : σ) (t : LoginToken) (st' : σ) : Prop where
  accepted : refusal? (responseOf c) = none
  retrieved : ∃ st₁,
    (s.retrieveRequest ((responseOf c).state.getD "")).runOn st = (.ok (some t.request), st₁) ∧
    (s.findRegistration (.text (t.request.registrationId?.getD ""))).runOn st₁ =
      (.ok (some t.registration), st')
  state_eq : ∃ state, ofValue (t.request.state.textFor "encode") = .ok state ∧
    (responseOf c).state = some state
  token_eq : t = { registration := t.registration, request := t.request, response := responseOf c }

/-- An attempt ends before the engine, in the state `st'`: with a fault, or with a failure in a
stage. -/
inductive Ends (c : Callback) (st : σ) : Except Fault (Stage × Failure) → σ → Prop where
  | refused {f : Failure} (hc : refusal? (responseOf c) = some f) : Ends c st (.ok (.start, f)) st
  | retrievalFaulted {e : Fault} {st₁ : σ} (hc : refusal? (responseOf c) = none)
      (hr : (s.retrieveRequest ((responseOf c).state.getD "")).runOn st = (.error e, st₁)) :
      Ends c st (.error e) st₁
  | notFound {st₁ : σ} (hc : refusal? (responseOf c) = none)
      (hr : (s.retrieveRequest ((responseOf c).state.getD "")).runOn st = (.ok none, st₁)) :
      Ends c st (.ok (.storeLookup, .requestNotFound)) st₁
  | stateFaulted {e : Fault} {request : AuthorizationRequest} {st₁ : σ}
      (hc : refusal? (responseOf c) = none)
      (hr : (s.retrieveRequest ((responseOf c).state.getD "")).runOn st = (.ok (some request), st₁))
      (hs : ofValue (request.state.textFor "encode") = .error e) : Ends c st (.error e) st₁
  | stateDiffers {request : AuthorizationRequest} {state : String} {st₁ : σ}
      (hc : refusal? (responseOf c) = none)
      (hr : (s.retrieveRequest ((responseOf c).state.getD "")).runOn st = (.ok (some request), st₁))
      (hs : ofValue (request.state.textFor "encode") = .ok state)
      (hne : some state ≠ (responseOf c).state) :
      Ends c st (.ok (.stateValidated, .invalidState)) st₁
  | lookupFaulted {e : Fault} {request : AuthorizationRequest} {state : String} {st₁ st₂ : σ}
      (hc : refusal? (responseOf c) = none)
      (hr : (s.retrieveRequest ((responseOf c).state.getD "")).runOn st = (.ok (some request), st₁))
      (hs : ofValue (request.state.textFor "encode") = .ok state)
      (heq : some state = (responseOf c).state)
      (hf : (s.findRegistration (.text (request.registrationId?.getD ""))).runOn st₁ =
        (.error e, st₂)) : Ends c st (.error e) st₂
  | unknown {request : AuthorizationRequest} {state : String} {st₁ st₂ : σ}
      (hc : refusal? (responseOf c) = none)
      (hr : (s.retrieveRequest ((responseOf c).state.getD "")).runOn st = (.ok (some request), st₁))
      (hs : ofValue (request.state.textFor "encode") = .ok state)
      (heq : some state = (responseOf c).state)
      (hf : (s.findRegistration (.text (request.registrationId?.getD ""))).runOn st₁ =
        (.ok none, st₂)) :
      Ends c st (.ok (.exchanging, .registrationNotFound (.ofText? request.registrationId?))) st₂

/-- What an attempt gives that ends before the engine. -/
def ended (x : Except Fault (Stage × Failure)) : Except Fault AttemptResult × σ :=
  match x with
  | .error e => (.error e, st)
  | .ok (stage, f) => (fail s stage f).runOn st

theorem reaches_or_ends (c : Callback) :
    (∃ t st', Reaches s c st t st') ∨ ∃ x st', Ends s c st x st' := by
  cases hc : refusal? (responseOf c) with
  | some f => exact Or.inr ⟨_, _, .refused hc⟩
  | none =>
    rcases hr : (s.retrieveRequest ((responseOf c).state.getD "")).runOn st with
      ⟨e | (_ | request), st₁⟩
    · exact Or.inr ⟨_, _, .retrievalFaulted hc hr⟩
    · exact Or.inr ⟨_, _, .notFound hc hr⟩
    · cases hs : ofValue (request.state.textFor "encode") with
      | error e => exact Or.inr ⟨_, _, .stateFaulted hc hr hs⟩
      | ok state =>
        by_cases heq : some state = (responseOf c).state
        · rcases hf : (s.findRegistration (.text (request.registrationId?.getD ""))).runOn st₁ with
            ⟨e | (_ | r), st₂⟩
          · exact Or.inr ⟨_, _, .lookupFaulted hc hr hs heq hf⟩
          · exact Or.inr ⟨_, _, .unknown hc hr hs heq hf⟩
          · exact Or.inl ⟨{ registration := r, request, response := responseOf c }, st₂, hc,
              ⟨st₁, hr, hf⟩, ⟨state, hs, heq.symm⟩, rfl⟩
        · exact Or.inr ⟨_, _, .stateDiffers hc hr hs heq⟩

variable {s st}

theorem Reaches.runOn_run {c : Callback} {st' : σ} {t : LoginToken}
    (h : Reaches s c st t st') :
    (run s c).runOn st = (exchange s t.registration t.request (responseOf c)).runOn st' := by
  obtain ⟨st₁, hretrieve, hfind⟩ := h.retrieved
  obtain ⟨state, hencode, hstate⟩ := h.state_eq
  rw [Attempt.runOn_run, h.accepted]
  dsimp only
  rw [hretrieve]
  dsimp only
  rw [runOn_proceed, hencode, hstate]
  simp only [ne_eq, not_true, if_false]
  rw [hfind]

theorem Ends.runOn_run {c : Callback} {x : Except Fault (Stage × Failure)} {st' : σ}
    (h : Ends s c st x st') : (run s c).runOn st = ended s st' x := by
  cases h with
  | refused hc => simp only [Attempt.runOn_run, hc, ended]
  | retrievalFaulted hc hr => simp only [Attempt.runOn_run, hc, hr, ended]
  | notFound hc hr => simp only [Attempt.runOn_run, hc, hr, ended]
  | stateFaulted hc hr hs => simp only [Attempt.runOn_run, hc, hr, runOn_proceed, hs, ended]
  | stateDiffers hc hr hs hne =>
    simp only [Attempt.runOn_run, hc, hr, runOn_proceed, hs, ended, if_pos hne]
  | lookupFaulted hc hr hs heq hf =>
    simp only [Attempt.runOn_run, hc, hr, runOn_proceed, hs, ended, if_neg (not_not_intro heq), hf]
  | unknown hc hr hs heq hf =>
    simp only [Attempt.runOn_run, hc, hr, runOn_proceed, hs, ended, if_neg (not_not_intro heq), hf]

end

/-! ## What an attempt returns -/

theorem settled_failed (stage : Stage) (f : Failure) : (failed stage f).Settled :=
  Or.inr ⟨f, rfl, rfl⟩

theorem settled_succeeded (p : Principal) (t : LoginToken) : (succeeded p t).Settled :=
  Or.inl ⟨p, rfl, rfl⟩

theorem settled_of_fail {stage : Stage} {f : Failure} {st st' : σ} {result : AttemptResult}
    (h : (fail s stage f).runOn st = (.ok result, st')) : result.Settled := by
  rw [runOn_fail] at h
  obtain rfl : failed stage f = result := Except.ok.inj (congrArg Prod.fst h)
  exact settled_failed stage f

theorem settled_of_exchange {r : Registration} {request : AuthorizationRequest}
    {response : AuthorizationResponse} {st st' : σ} {result : AttemptResult}
    (h : (exchange s r request response).runOn st = (.ok result, st')) : result.Settled := by
  rw [runOn_exchange] at h
  split at h
  · obtain ⟨p, -, rfl⟩ := runOn_finish s h
    exact settled_succeeded p _
  · exact settled_of_fail s h
  · cases congrArg Prod.fst h

theorem settled_of_ended {x : Except Fault (Stage × Failure)} {st st' : σ} {result : AttemptResult}
    (h : ended s st x = (.ok result, st')) : result.Settled := by
  rcases x with e | ⟨stage, f⟩
  · cases congrArg Prod.fst h
  · exact settled_of_fail s h

/-- An attempt that returns has either a principal or a failure. -/
theorem settled_of_run {c : Callback} {st st' : σ} {result : AttemptResult}
    (h : (run s c).runOn st = (.ok result, st')) : result.Settled := by
  rcases reaches_or_ends s st c with ⟨t, st₁, hr⟩ | ⟨x, st₁, he⟩
  · rw [hr.runOn_run] at h
    exact settled_of_exchange s h
  · rw [he.runOn_run] at h
    exact settled_of_ended s h

/-! ## What an attempt leaves alone -/

section

variable {s} {κ : Type} {part : σ → κ}

theorem keeps_fail (h : s.Keep part) (stage : Stage) (f : Failure) :
    (fail s stage f).Keeps part :=
  (Action.keeps_change (h.log _)).bind fun _ => Action.keeps_pure _

theorem keeps_recordClient (h : s.Keep part) (r : Registration) (p : Principal) (t : LoginToken) :
    (recordClient s r p t).Keeps part := by
  unfold recordClient
  split
  · rename_i save accessToken hsave _
    exact (Action.keeps_lift _).bind fun _ => h.saveClient save hsave _
  · exact Action.keeps_pure _

theorem keeps_finish (h : s.Keep part) (r : Registration) (t : LoginToken) :
    (finish s r t).Keeps part := by
  refine (Action.keeps_lift _).bind fun p => (keeps_recordClient h r p t).bind fun _ => ?_
  exact (Action.keeps_lift _).bind fun _ =>
    (Action.keeps_change (h.log _)).bind fun _ => Action.keeps_pure _

theorem keeps_exchange (h : s.Keep part) (r : Registration) (request : AuthorizationRequest)
    (response : AuthorizationResponse) : (exchange s r request response).Keeps part := by
  refine (h.authenticate _).outcome.bind fun answer => ?_
  split
  · exact keeps_finish h r _
  · exact keeps_fail h _ _
  · exact Action.keeps_throw _

theorem keeps_proceed (h : s.Keep part) (request : AuthorizationRequest)
    (response : AuthorizationResponse) : (proceed s request response).Keeps part := by
  refine (Action.keeps_lift _).bind fun state => ?_
  split
  · exact keeps_fail h _ _
  · refine (h.findRegistration _).bind fun found => ?_
    split
    · exact keeps_fail h _ _
    · exact keeps_exchange h _ _ _

/-- An attempt that is not refused leaves what the retrieval of its request left. -/
theorem part_run_of_accepted (h : s.Keep part) {c : Callback}
    (hc : refusal? (responseOf c) = none) :
    part ((run s c).runOn st).2 =
      part ((s.retrieveRequest ((responseOf c).state.getD "")).runOn st).2 := by
  rw [runOn_run, hc]
  rcases (s.retrieveRequest _).runOn st with ⟨_ | (_ | request), st'⟩
  · rfl
  · exact keeps_fail h _ _ st'
  · exact keeps_proceed h request _ st'

theorem part_run_of_refused (h : s.Keep part) {c : Callback} {f : Failure}
    (hc : refusal? (responseOf c) = some f) : part ((run s c).runOn st).2 = part st := by
  rw [runOn_run, hc]
  exact keeps_fail h _ _ st

end

end Attempt

namespace Host

variable {ε : Type} (repository : Repository) (store : RequestStore) (engine : Engine ε)
  (recordsClients : Bool)

/-- Retrieving a request apart, the services of a host leave the clock and the session alone. -/
theorem services_keep :
    (services repository store engine recordsClients).Keep fun h => (h.now, h.session) where
  findRegistration _ := Action.keeps_pure _
  authenticate _ _ := rfl
  saveClient save hsave client := by
    simp only [services] at hsave
    split at hsave
    · obtain rfl := Option.some.inj hsave
      exact fun _ => rfl
    · cases hsave
  log _ _ := rfl

/-- A host records a client without a fault. -/
theorem saveClient_returns {save : AuthorizedClient → Action (Host ε) Unit}
    (hsave : (services repository store engine recordsClients).saveClient = some save)
    (client : AuthorizedClient) (h : Host ε) : ((save client).runOn h).1 = .ok () := by
  simp only [services] at hsave
  split at hsave
  · obtain rfl := Option.some.inj hsave
    rfl
  · cases hsave

end Host

end LoginCallback
