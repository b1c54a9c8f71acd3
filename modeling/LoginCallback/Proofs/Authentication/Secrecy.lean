import LoginCallback.Proofs.Authentication.Filter
import LoginCallback.Proofs.Engine.Secrecy
import LoginCallback.Proofs.Session.Run
import LoginCallback.Site.App

/-!
# What a login leaves in the journal

Two hosts process a callback each. The callbacks differ in the code and the state, the sessions in
the state of the request that was saved, the registrations in the secrets of the clients, and
nothing else is different. If the engines do not trace, what they keep and what stands in the
journals afterwards is the same (`DiscreetGate.trail_of_handle`), and so it is for a look-up of the
user with one access token or another (`DiscreetGate.trail_hides_secrets`).

The relation that every step of a login maintains is `Host.Indistinct`.
-/

namespace LoginCallback

open LoginCallback.Http (Wire Script scripted)

variable {state state' : String}

/-! ## Callbacks -/

/-- The callbacks differ in the code and the state alone, which are given in both. -/
structure Callback.SameButSecret (state state' : String) (c c' : Callback) : Prop where
  method : c.method = c'.method
  path : c.path = c'.path
  baseUrl : c.baseUrl = c'.baseUrl
  code : ∃ code, c.query.lookup "code" = some code ∧ code ≠ ""
  code' : ∃ code, c'.query.lookup "code" = some code ∧ code ≠ ""
  state : c.query.lookup "state" = some state
  state' : c'.query.lookup "state" = some state'
  others : ∀ name, name ≠ "code" → name ≠ "state" → c.query.lookup name = c'.query.lookup name

theorem AuthorizationResponse.given_some {text : String} (h : text ≠ "") :
    given (some text) = true := by
  simp [given, h]

theorem Attempt.refusal?_congr {c c' : Callback} (h : c.SameButSecret state state' c')
    (hs : state ≠ "") (hs' : state' ≠ "") :
    refusal? (responseOf c) = refusal? (responseOf c') := by
  obtain ⟨code, hcode, hne⟩ := h.code
  obtain ⟨code', hcode', hne'⟩ := h.code'
  have herror := h.others "error" (by decide) (by decide)
  have hdescription := h.others "error_description" (by decide) (by decide)
  have huri := h.others "error_uri" (by decide) (by decide)
  unfold refusal? AuthorizationResponse.isSuccess AuthorizationResponse.isError responseOf
    AuthorizationResponse.ofQuery
  simp only [hcode, hcode', h.state, h.state', herror, hdescription, huri,
    AuthorizationResponse.given_some hne, AuthorizationResponse.given_some hne',
    AuthorizationResponse.given_some hs, AuthorizationResponse.given_some hs']

/-! ## Pending requests -/

namespace SessionStore

/-- The entry of a request under a state. -/
def entryUnder (request : AuthorizationRequest) (expiry : Value) (state : String) : Value × Value :=
  (.text state, Value.record [
    ("request", { request with state := .text state }.toValue), ("expires_at", expiry)])

/-- The entries are the same and under a third state, or they are those of one request under the one
state and under the other. -/
def SameButState (state state' : String) (e e' : Value × Value) : Prop :=
  (e = e' ∧ e.1 ≠ .text state ∧ e.1 ≠ .text state') ∨
    ∃ request expiry, e = entryUnder request expiry state ∧ e' = entryUnder request expiry state'

variable {e e' : Value × Value} {es es' : Entries}

theorem SameButState.isExpired (h : SameButState state state' e e') (now : Time.Moment) :
    isExpired now e.2 = isExpired now e'.2 := by
  rcases h with ⟨rfl, -⟩ | ⟨request, expiry, rfl, rfl⟩
  · rfl
  · rfl

theorem SameButState.isUnder (h : SameButState state state' e e') :
    Value.sameScalar e.1 (.text state) = Value.sameScalar e'.1 (.text state') := by
  rcases h with ⟨rfl, hs, hs'⟩ | ⟨request, expiry, rfl, rfl⟩
  · rw [Value.sameScalar_text_eq_false hs, Value.sameScalar_text_eq_false hs']
  · rw [entryUnder, entryUnder, Value.sameScalar_text_self, Value.sameScalar_text_self]

theorem alike_live (now : Time.Moment) (h : List.Forall₂ (SameButState state state') es es') :
    (live now es).1 = (live now es').1 ∧
      Alike (List.Forall₂ (SameButState state state')) (live now es).2 (live now es').2 := by
  induction h with
  | nil => exact ⟨rfl, .ok .nil⟩
  | @cons e e' es es' he _ ih =>
    obtain ⟨key, entry⟩ := e
    obtain ⟨key', entry'⟩ := e'
    obtain ⟨hcount, hlive⟩ := ih
    unfold live
    rw [← he.isExpired now]
    cases isExpired now entry with
    | error e => exact ⟨rfl, .error e⟩
    | ok expired =>
      cases expired with
      | true => exact ⟨congrArg (· + 1) hcount, hlive⟩
      | false =>
        refine ⟨hcount, ?_⟩
        dsimp only
        revert hlive
        generalize (live now es).2 = x
        generalize (live now es').2 = y
        intro hlive
        cases hlive with
        | error e => exact .error e
        | ok h => exact .ok (.cons he h)

/-- The requests found under the states are the same but for the states. -/
theorem request_congr (h : List.Forall₂ (SameButState state state') es es') :
    (es.get? (.text state) = none ∧ es'.get? (.text state') = none) ∨
      ∃ request expiry, es.get? (.text state) = some (entryUnder request expiry state).2 ∧
        es'.get? (.text state') = some (entryUnder request expiry state').2 := by
  unfold Entries.get?
  induction h with
  | nil => exact Or.inl ⟨rfl, rfl⟩
  | @cons e e' es es' he _ ih =>
    rw [List.find?_cons, List.find?_cons, ← he.isUnder]
    cases hunder : Value.sameScalar e.1 (.text state) with
    | false => exact ih
    | true =>
      rcases he with ⟨rfl, hs, -⟩ | ⟨request, expiry, rfl, rfl⟩
      · rw [Value.sameScalar_text_eq_false hs] at hunder
        cases hunder
      · exact Or.inr ⟨request, expiry, rfl, rfl⟩

variable (s : SessionStore)

/-- What the sessions hold is the same but for the state of a request. -/
def Corresponds (state state' : String) (session session' : Session) : Prop :=
  ∃ es es', s.stored session = .ok es ∧ s.stored session' = .ok es' ∧
    List.Forall₂ (SameButState state state') es es'

variable {s} {session session' : Session}

/-- A request that is saved in a session under one state or the other, neither of which is in use,
leaves sessions that correspond. -/
theorem corresponds_save {now : Time.Moment} {pending : Entries} {expiry : Value} {n : Nat}
    (hload : s.load now session = (n, .ok pending)) (hexpiry : s.expiry now = .ok expiry)
    (hnew : ∀ e ∈ pending, e.1 ≠ .text state ∧ e.1 ≠ .text state') (hs : state ≠ "")
    (hs' : state' ≠ "") (request : AuthorizationRequest) :
    s.Corresponds state state'
      (s.save now { request with state := .text state } session).session
      (s.save now { request with state := .text state' } session).session := by
  have hsaved : ∀ {state : String}, state ≠ "" → (∀ e ∈ pending, e.1 ≠ .text state) →
      s.stored (s.save now { request with state := .text state } session).session =
        .ok (s.newest (pending ++ [entryUnder request expiry state])) := by
    intro state hs hnew
    have hentry : s.entry now { request with state := .text state } =
        .ok (entryUnder request expiry state) := by
      unfold entry
      rw [hexpiry]
      rfl
    have herase : pending.erase (.text state) = pending := by
      refine List.filter_eq_self.2 fun e he => ?_
      rw [Value.sameScalar_text_eq_false (hnew e he)]
      rfl
    rw [(s.save_of_admits ⟨Value.truthy_text hs, congrArg Prod.snd hload, hentry⟩).2,
      s.stored_insert]
    unfold entryUnder
    rw [herase]
  have hsame : List.Forall₂ (SameButState state state')
      (pending ++ [entryUnder request expiry state])
      (pending ++ [entryUnder request expiry state']) := by
    refine List.rel_append ?_ (.cons (Or.inr ⟨request, expiry, rfl, rfl⟩) .nil)
    refine List.forall₂_same.2 fun e he => Or.inl ⟨rfl, hnew e he⟩
  refine ⟨_, _, hsaved hs fun e he => (hnew e he).1, hsaved hs' fun e he => (hnew e he).2, ?_⟩
  unfold newest
  cases s.limit with
  | none => exact hsame
  | some limit =>
    dsimp only
    rw [hsame.length_eq]
    exact List.forall₂_drop _ hsame

/-- Retrieving the requests from the sessions writes the same to the journal and gives the same but
for the states. -/
theorem Corresponds.retrieve (h : s.Corresponds state state' session session') (hs : state ≠ "")
    (hs' : state' ≠ "") (now : Time.Moment) (j : Journal) :
    (s.retrieve now (.text state) session).log j = (s.retrieve now (.text state') session').log j ∧
      Alike (Option.Rel fun r r' : AuthorizationRequest => ∃ request : AuthorizationRequest,
          r = { request with state := .text state } ∧ r' = { request with state := .text state' })
        (s.retrieve now (.text state) session).result
        (s.retrieve now (.text state') session').result := by
  obtain ⟨es, es', hes, hes', hsame⟩ := h
  obtain ⟨hcount, hlive⟩ := alike_live now hsame
  have hwithout : ∀ (pending : Entries) (state : String), without pending (.text state) =
      .ok (if pending.isEmpty then [] else pending.erase (.text state)) := by
    intro pending state
    unfold without
    split
    · rfl
    · rfl
  unfold SessionStore.retrieve load
  rw [hes, hes', Value.truthy_text hs, Value.truthy_text hs']
  simp only [Bool.not_true, Bool.false_eq_true, if_false, hwithout]
  revert hcount hlive
  rcases live now es with ⟨count, pending⟩
  rcases live now es' with ⟨count', pending'⟩
  rintro rfl hlive
  cases hlive with
  | error e => exact ⟨rfl, .error e⟩
  | ok hpending =>
    refine ⟨rfl, ?_⟩
    dsimp only
    rcases request_congr hpending with ⟨hnone, hnone'⟩ | ⟨request, expiry, hfound, hfound'⟩
    · rw [hnone, hnone']
      exact .ok .none
    · rw [hfound, hfound']
      exact .ok (.some ⟨request, rfl, rfl⟩)

end SessionStore

/-! ## Hosts -/

/-- The hosts have the same clock, and nothing in their journals or engines, which do not trace,
tells them apart. -/
structure Host.Indistinct (h h' : Host (Wire Script)) : Prop where
  now : h.now = h'.now
  journal : h.journal = h'.journal
  engine : h.engine = h'.engine
  notSensitive : h.engine.recorder.sensitive = false

namespace Host

theorem runOn_authenticate_engine [Platform] {τ : Type} (p : Http.Provider τ) (t : LoginToken)
    (h : Host (Wire τ)) : (authenticate (HttpEngine.engine p) t).runOn h =
      (((HttpEngine.authenticate p h.now t).runOn { h.engine with journal := h.journal }).1,
        { h with
          journal :=
            ((HttpEngine.authenticate p h.now t).runOn
              { h.engine with journal := h.journal }).2.journal
          engine :=
            ((HttpEngine.authenticate p h.now t).runOn
              { h.engine with journal := h.journal }).2 }) :=
  rfl

theorem parallel_authenticate [Platform] {t t' : LoginToken} (h : t.SameButSecret t') :
    Action.Parallel Indistinct (fun t t' => t.filled = t'.filled)
      (authenticate (HttpEngine.engine scripted) t)
      (authenticate (HttpEngine.engine scripted) t') := by
  intro st st' hst
  have hwire : Http.Discreet { st.engine with journal := st.journal }
      { st'.engine with journal := st'.journal } := by
    rw [hst.engine, hst.journal]
    exact ⟨rfl, hst.engine ▸ hst.notSensitive⟩
  obtain ⟨hresult, hleft⟩ := HttpEngine.parallel_authenticate st.now h _ _ hwire
  rw [runOn_authenticate_engine, runOn_authenticate_engine, ← hst.now]
  exact ⟨hresult, rfl, congrArg Wire.journal hleft.eq, hleft.eq, hleft.notSensitive⟩

theorem indistinct_log (r : Record) {st st' : Host (Wire Script)} (h : st.Indistinct st') :
    (log r st).Indistinct (log r st') :=
  ⟨h.now, congrArg (·.add r) h.journal, h.engine, h.notSensitive⟩

theorem parallel_saveClient (client client' : AuthorizedClient) :
    Action.Parallel Indistinct Eq (@saveClient (Wire Script) client) (saveClient client') :=
  Action.parallel_change fun _ _ h => ⟨h.now, h.journal, h.engine, h.notSensitive⟩

end Host

theorem Registration.SameButSecret.id_eq {r r' : Registration} (h : r.SameButSecret r') :
    r.id = r'.id := by
  rcases h with rfl | ⟨_, _, -, -, -, rfl⟩ <;> rfl

theorem Repository.find?_congr {repository repository' : Repository}
    (h : List.Forall₂ Registration.SameButSecret repository.registrations
      repository'.registrations) (id : Value) :
    Option.Rel Registration.SameButSecret (repository.find? id) (repository'.find? id) := by
  obtain ⟨rs⟩ := repository
  obtain ⟨rs'⟩ := repository'
  unfold Repository.find?
  dsimp only at h ⊢
  induction h with
  | nil => exact .none
  | @cons r r' rs rs' hr _ ih =>
    rw [List.find?_cons, List.find?_cons, ← hr.id_eq]
    cases Value.sameScalar r.id id with
    | true => exact .some hr
    | false => exact ih

theorem Host.parallel_services [Platform] {repository repository' : Repository}
    (h : List.Forall₂ Registration.SameButSecret repository.registrations
      repository'.registrations) (store : RequestStore) (recordsClients : Bool) :
    (Host.services repository store (HttpEngine.engine scripted) recordsClients).Parallel
      Host.Indistinct Registration.SameButSecret LoginToken.SameButSecret
      (Host.services repository' store (HttpEngine.engine scripted) recordsClients) where
  findRegistration id := Action.parallel_pure (Repository.find?_congr h id)
  authenticate _ _ ht := parallel_authenticate ht
  saveClient := by
    cases recordsClients with
    | false => exact Or.inl ⟨rfl, rfl⟩
    | true => exact Or.inr ⟨_, _, rfl, rfl, parallel_saveClient⟩
  log r _ _ hst := indistinct_log r hst

/-! ## Filters -/

/-- Whatever else the hosts differ in, their journals and engines do not show it. -/
def Host.SameTrail (h h' : Host (Wire Script)) : Prop :=
  h.journal = h'.journal ∧ h.engine = h'.engine

/-- What keeps its share of the host leaves no trail. -/
theorem Host.sameTrail_of_keeps {α : Type} {x x' : Action (Host (Wire Script)) α}
    (hx : x.Keeps fun h => (h.journal, h.engine)) (hx' : x'.Keeps fun h => (h.journal, h.engine))
    {h h' : Host (Wire Script)} (hh : h.Indistinct h') :
    (x.runOn h).2.SameTrail (x'.runOn h').2 := by
  obtain ⟨hjournal, hengine⟩ := Prod.mk.inj (hx h)
  obtain ⟨hjournal', hengine'⟩ := Prod.mk.inj (hx' h')
  constructor
  · rw [hjournal, hjournal', hh.journal]
  · rw [hengine, hengine', hh.engine]

/-- A login filter whose engine asks a provider, and the application behind it. The handlers and the
application leave the same trail for callbacks that differ in code and state alone. -/
structure DiscreetGate (ρ : Type) where
  store : SessionStore
  matcher : Matcher
  ownsEngine : Bool
  recordsClients : Bool
  onSuccess : Callback → SecurityContext → Principal → Action (Host (Wire Script)) ρ
  onFailure : Callback → SecurityContext → Failure → Action (Host (Wire Script)) ρ
  next : Callback → SecurityContext → Action (Host (Wire Script)) ρ
  success_discreet : ∀ {state state' c c'}, c.SameButSecret state state' c' →
    ∀ seen p {h h' : Host (Wire Script)}, h.Indistinct h' →
      ((onSuccess c seen p).runOn h).2.SameTrail ((onSuccess c' seen p).runOn h').2
  failure_discreet : ∀ {state state' c c'}, c.SameButSecret state state' c' →
    ∀ seen f {h h' : Host (Wire Script)}, h.Indistinct h' →
      ((onFailure c seen f).runOn h).2.SameTrail ((onFailure c' seen f).runOn h').2
  next_discreet : ∀ {state state' c c'}, c.SameButSecret state state' c' →
    ∀ seen {h h' : Host (Wire Script)}, h.Indistinct h' →
      ((next c seen).runOn h).2.SameTrail ((next c' seen).runOn h').2

namespace DiscreetGate

variable {ρ : Type}

section

variable [Platform] (g : DiscreetGate ρ)

/-- The filter for the known registrations. -/
def filter (repository : Repository) : LoginFilter (Host (Wire Script)) ρ :=
  (⟨repository, g.store.toRequestStore, g.matcher⟩ : LoginParts).filter (HttpEngine.engine scripted)
    g.ownsEngine g.recordsClients g.onSuccess g.onFailure

variable {g} {repository repository' : Repository} {c c' : Callback} {h h' : Host (Wire Script)}

theorem trail_of_dispatch (hc : c.SameButSecret state state' c') {r r' : AttemptResult}
    (hr : r.Matches r') (hh : h.Indistinct h') :
    ((g.filter repository).dispatch c r h).2.SameTrail
      ((g.filter repository').dispatch c' r' h').2 := by
  cases hs : r.success? with
  | some p =>
    rw [LoginFilter.dispatch_of_success _ c h hs,
      LoginFilter.dispatch_of_success _ c' h' (hr.success? ▸ hs)]
    exact g.success_discreet hc (some p) p hh
  | none =>
    have hs' : r'.success? = none := hr.success? ▸ hs
    cases hf : r.failure with
    | some failure =>
      rw [LoginFilter.dispatch_of_failure _ c h hs hf,
        LoginFilter.dispatch_of_failure _ c' h' hs' (hr.failure ▸ hf)]
      exact g.failure_discreet hc none failure (Host.indistinct_log _ hh)
    | none =>
      rw [LoginFilter.dispatch_of_neither _ c h hs hf,
        LoginFilter.dispatch_of_neither _ c' h' hs' (hr.failure ▸ hf)]
      exact ⟨hh.journal, hh.engine⟩

theorem matches_attempt (hr : List.Forall₂ Registration.SameButSecret repository.registrations
      repository'.registrations) (hs : state ≠ "") (hs' : state' ≠ "")
    (hc : c.SameButSecret state state' c') (hh : h.Indistinct h')
    (hsession : g.store.Corresponds state state' h.session h'.session) :
    Alike AttemptResult.Matches (((g.filter repository).attempt c).runOn h).1
        (((g.filter repository').attempt c').runOn h').1 ∧
      (((g.filter repository).attempt c).runOn h).2.Indistinct
        (((g.filter repository').attempt c').runOn h').2 := by
  have hresponse : (Attempt.responseOf c).state = some state := hc.state
  have hresponse' : (Attempt.responseOf c').state = some state' := hc.state'
  have hcode : ∀ {c : Callback}, (∃ code, c.query.lookup "code" = some code ∧ code ≠ "") →
      (Attempt.responseOf c).code.getD "" ≠ "" := by
    rintro c ⟨code, hcode, hne⟩
    have hgiven : (Attempt.responseOf c).code = some code := hcode
    rwa [hgiven]
  have hurl : c.url = c'.url := by
    unfold Callback.url
    rw [hc.baseUrl, hc.path]
  refine Attempt.matches_run (Host.parallel_services hr _ _) (fun _ _ h => h.id_eq)
    (P := fun r r' => ∃ request : AuthorizationRequest,
      r = { request with state := .text state } ∧ r' = { request with state := .text state' })
    (Attempt.refusal?_congr hc hs hs') ?_ hh fun _ => ?_
  · rintro _ _ ⟨request, rfl, rfl⟩
    refine ⟨⟨rfl, .ok ?_⟩, fun r r' hsecret =>
      ⟨hsecret, rfl, rfl, hurl, hcode hc.code, hcode hc.code'⟩⟩
    rw [hresponse, hresponse']
    exact iff_of_true rfl rfl
  · obtain ⟨hlog, hfound⟩ := hsession.retrieve hs hs' h.now h.journal
    rw [hresponse, hresponse', Option.getD_some, Option.getD_some]
    have hretrieve : ∀ (repository : Repository) (state : String) (h : Host (Wire Script)),
        ((Host.services repository g.store.toRequestStore (HttpEngine.engine scripted)
          g.recordsClients).retrieveRequest state).runOn h =
            h.settle (g.store.retrieve h.now (.text state) h.session) := fun _ _ _ => rfl
    rw [hretrieve, hretrieve, ← hh.now]
    refine ⟨hfound, hh.now, ?_, hh.engine, hh.notSensitive⟩
    exact hlog.trans (congrArg _ hh.journal)

theorem trail_of_handle (hr : List.Forall₂ Registration.SameButSecret repository.registrations
      repository'.registrations) (hs : state ≠ "") (hs' : state' ≠ "")
    (hc : c.SameButSecret state state' c') (context : SecurityContext) (hh : h.Indistinct h')
    (hsession : g.store.Corresponds state state' h.session h'.session) :
    ((g.filter repository).handle c context g.next h).2.SameTrail
      ((g.filter repository').handle c' context g.next h').2 := by
  have hrequires : (g.filter repository).requiresAuthentication c =
      (g.filter repository').requiresAuthentication c' := by
    unfold LoginFilter.requiresAuthentication
    rw [hc.method, hc.path]
    rfl
  cases hcallback : (g.filter repository).requiresAuthentication c with
  | false =>
    rw [LoginFilter.handle_of_passed _ c context g.next h hcallback,
      LoginFilter.handle_of_passed _ c' context g.next h' (hrequires ▸ hcallback)]
    exact g.next_discreet hc context hh
  | true =>
    obtain ⟨hresult, hleft⟩ := matches_attempt hr hs hs' hc hh hsession
    revert hresult hleft
    rcases ha : ((g.filter repository).attempt c).runOn h with ⟨x, st⟩
    rcases ha' : ((g.filter repository').attempt c').runOn h' with ⟨x', st'⟩
    intro hresult hleft
    cases hresult with
    | error e =>
      rw [LoginFilter.handle_of_error _ c context g.next h hcallback ha,
        LoginFilter.handle_of_error _ c' context g.next h' (hrequires ▸ hcallback) ha']
      exact ⟨hleft.journal, hleft.engine⟩
    | ok hmatches =>
      rw [LoginFilter.handle_of_ok _ c context g.next h hcallback ha,
        LoginFilter.handle_of_ok _ c' context g.next h' (hrequires ▸ hcallback) ha']
      exact trail_of_dispatch hc hmatches hleft

/-- Secrets leave no trail. If the engine does not trace, a login leaves the same in the journal and
with the engine whatever the code, the state and the secrets of the clients are; and so does the
look-up of the user, whatever the access token is. -/
theorem trail_hides_secrets (g : DiscreetGate ρ) {repository repository' : Repository}
    (hr : List.Forall₂ Registration.SameButSecret repository.registrations
      repository'.registrations) (hs : state ≠ "") (hs' : state' ≠ "") {c c' : Callback}
    (hc : c.SameButSecret state state' c') (context : SecurityContext)
    {h h' : Host (Wire Script)} (hh : h.Indistinct h')
    (hsession : g.store.Corresponds state state' h.session h'.session) :
    ((g.filter repository).handle c context g.next h).2.SameTrail
        ((g.filter repository').handle c' context g.next h').2 ∧
      ∀ (now : Time.Moment) (r : Registration) (t : AccessToken) (w : Wire Script)
        (value value' : String), w.recorder.sensitive = false → Printable value →
        Printable value' →
          ((HttpEngine.loadUser scripted now r { t with tokenValue := .text value }).runOn w).2 =
            ((HttpEngine.loadUser scripted now r
              { t with tokenValue := .text value' }).runOn w).2 := by
  refine ⟨trail_of_handle hr hs hs' hc context hh hsession, ?_⟩
  intro now r t w value value' hw hvalue hvalue'
  have hrequest := HttpEngine.looksLike_userRequest r t hvalue hvalue'
  exact (HttpEngine.parallel_loadUser now (Or.inl rfl) hrequest w w ⟨rfl, hw⟩).2.eq

end

theorem keeps_changeSession (f : Session → Session) :
    (Site.changeSession f).Keeps fun h : Host (Wire Script) => (h.journal, h.engine) := fun _ => rfl

theorem keeps_welcome (target : Value) (p : Principal) :
    (Site.welcome target p).Keeps fun h : Host (Wire Script) => (h.journal, h.engine) := by
  unfold Site.welcome
  exact (Action.keeps_lift _).bind fun _ => (keeps_changeSession _).bind fun _ =>
    Action.keeps_lift _

theorem keeps_turnAway (target : Value) (f : Failure) :
    (Site.turnAway target f).Keeps fun h : Host (Wire Script) => (h.journal, h.engine) := by
  unfold Site.turnAway
  exact (keeps_changeSession _).bind fun _ => (Action.keeps_lift _).bind fun _ =>
    Action.keeps_lift _

/-- The gate of a site: it tells of logins and failures in the session and by redirects only. -/
def ofSite (store : SessionStore) (matcher : Matcher) (success failure : Value) :
    DiscreetGate Site.Reply :=
  { store
    matcher
    ownsEngine := false
    recordsClients := true
    onSuccess := fun _ _ p => Site.welcome success p
    onFailure := fun _ _ f => Site.turnAway failure f
    next := fun c _ => Action.ofFn fun h => (Site.serve c h.session, h)
    success_discreet := fun _ _ p _ _ hh =>
      Host.sameTrail_of_keeps (keeps_welcome success p) (keeps_welcome success p) hh
    failure_discreet := fun _ _ f _ _ hh =>
      Host.sameTrail_of_keeps (keeps_turnAway failure f) (keeps_turnAway failure f) hh
    next_discreet := fun _ _ _ _ hh => ⟨hh.journal, hh.engine⟩ }

/-- Two logins through one client that proves itself by its secret in the form: codes, states and
secrets are different, both hosts keep two exchanges and nothing tells them apart. Nor does anything
tell two access tokens apart. -/
theorem trail_of_two_logins :
    let store := SessionStore.standard
    let g := ofSite store ⟨⟨"/login/".toList, []⟩, []⟩ (.text "/") (.text "/login")
    let registration (secret : String) : Registration :=
      { Registration.ofId "github" with
        clientSecret := .text secret
        authentication := .secretPost }
    let callback (code state : String) : Callback :=
      { path := "/login/github", query := [("code", code), ("state", state)] }
    let request (state : String) : AuthorizationRequest :=
      { AuthorizationRequest.ofLogin state "github" with
        redirectUri := .text "http://localhost/login/github" }
    let answers : Script :=
      [.ok { status := 200, body := Octets.ofText "\x7b\"access_token\": \"t\"\x7d" },
        .ok { status := 200, body := Octets.ofText "\x7b\"sub\": \"u\"\x7d" }]
    let host (state : String) : Host (Wire Script) :=
      ((Host.save store.toRequestStore (request state)).runOn
        { now := ⟨63839664000000000, some 0⟩, engine := { provider := answers } }).2
    let left := ((g.filter ⟨[registration "s1"]⟩).handle (callback "c1" "a") none g.next (host "a")).2
    let right := ((g.filter ⟨[registration "s2"]⟩).handle (callback "c2" "b") none g.next (host "b")).2
    let user (token : String) : Wire Script :=
      ((HttpEngine.loadUser scripted (host "a").now (registration "s1")
        { tokenValue := .text token }).runOn (host "a").engine).2
    left.SameTrail right ∧ left.engine.recorder.kept.length = 2 ∧ user "t1" = user "t2" := by
  intro store g registration callback request answers host left right user
  obtain ⟨expiry, hexpiry⟩ :
      ∃ expiry, store.expiry ⟨63839664000000000, some 0⟩ = .ok expiry := ⟨_, rfl⟩
  have hquery : ∀ code state name, name ≠ "code" → name ≠ "state" →
      (callback code state).query.lookup name = none := by
    intro code state name hcode hstate
    have hcode' : (name == "code") = false := by simpa using hcode
    have hstate' : (name == "state") = false := by simpa using hstate
    simp [callback, List.lookup_cons, hcode', hstate']
  have hcallback : (callback "c1" "a").SameButSecret "a" "b" (callback "c2" "b") :=
    ⟨rfl, rfl, rfl, ⟨"c1", rfl, by decide⟩, ⟨"c2", rfl, by decide⟩, rfl, rfl,
      fun name hcode hstate =>
        (hquery _ _ name hcode hstate).trans (hquery _ _ name hcode hstate).symm⟩
  have hrepository : List.Forall₂ Registration.SameButSecret
      (⟨[registration "s1"]⟩ : Repository).registrations
      (⟨[registration "s2"]⟩ : Repository).registrations :=
    .cons (Or.inr ⟨"s1", "s2", by decide, by decide, rfl, rfl⟩) .nil
  have hhosts : (host "a").Indistinct (host "b") := ⟨rfl, rfl, rfl, rfl⟩
  have hload : store.load ⟨63839664000000000, some 0⟩ [] = (0, .ok []) := rfl
  have hsessions : store.Corresponds "a" "b" (host "a").session (host "b").session :=
    SessionStore.corresponds_save hload hexpiry (by simp) (by decide) (by decide) (request "a")
  obtain ⟨htrail, htokens⟩ := g.trail_hides_secrets hrepository (by decide) (by decide) hcallback none
    hhosts hsessions
  refine ⟨htrail, by decide +kernel, ?_⟩
  exact htokens _ _ { tokenValue := .null } _ _ _ rfl ⟨by decide, by decide⟩ ⟨by decide, by decide⟩

end DiscreetGate

end LoginCallback
