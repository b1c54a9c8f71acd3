import LoginCallback.Proofs.Authentication.AuthorizedClients
import LoginCallback.Proofs.Authentication.Filter
import LoginCallback.Proofs.Octets.Characters
import LoginCallback.Proofs.Site.Pending
import LoginCallback.Site.App

/-!
# One visit of a site

An engine decides if it returns an authenticated token or fails (`Engine.Decides`). Behind such an
engine an attempt on a fit session never faults (`attempt_result`), and what the default handlers do
to the session depends only on whether it succeeded (`handle_callback`). Main statements:
`respond_callback`, what a visit that is a callback leaves in the session (`Served`), and
`respond_other`, any other visit leaves the session alone.
-/

namespace LoginCallback

/-- The token is authenticated, its user has a name, and its authorities are texts. -/
structure LoginToken.LogsIn (t : LoginToken) (user : User) (name : String) : Prop where
  authenticated : t.authenticated = true
  user_eq : t.user = some user
  name_eq : user.name = .ok name
  authorities : ∀ a ∈ t.authorities, a.isText = true

/-- The engine decides every login: it returns an authenticated token, or it fails. -/
def Engine.Decides {ε : Type} (engine : Engine ε) : Prop :=
  ∀ now t st, (∃ f, ((engine now t).runOn st).1 = .error (.failure f)) ∨
    ∃ t' user name, ((engine now t).runOn st).1 = .ok t' ∧ t'.LogsIn user name

/-- The principal has a name, and the other fields that are kept of it are texts. -/
structure Principal.Named (p : Principal) (name : String) : Prop where
  name_eq : p.name = .ok name
  authorities : ∀ a ∈ p.authorities, a.isText = true
  registrationId : p.registrationId.isText = true

namespace Site

variable {ε : Type} {engine : Engine ε} {repository : Repository} {s : SessionStore}
  {recordsClients : Bool} {h h' : Host ε} {c : Callback}

/-! ## The attempt -/

/-- How an attempt ends: with a named principal, or with a failure. -/
def Ended (result : AttemptResult) : Prop :=
  (∃ p name, result.success? = some p ∧ p.Named name) ∨
    ∃ f, result.success? = none ∧ result.failure = some f

theorem ended_failed (stage : Stage) (f : Failure) : Ended (Attempt.failed stage f) :=
  Or.inr ⟨f, rfl, rfl⟩

/-- An engine that decides ends the attempt. -/
theorem ended_of_exchanges (hengine : Engine.Decides engine) {t : LoginToken} {id : String}
    (hid : t.registration.id = .text id) {calls : List ServiceCall}
    {result : Except Fault AttemptResult}
    (hx : Attempt.Exchanges (Host.services repository s.toRequestStore engine recordsClients) t h
      calls result h') : ∃ ended, result = .ok ended ∧ Ended ended := by
  have hanswer : ∀ x st, ((Host.services repository s.toRequestStore engine
      recordsClients).authenticate t).runOn h = (x, st) →
        ((engine h.now t).runOn (h.journal, h.engine)).1 = x := fun x st ha => congrArg Prod.fst ha
  cases hx with
  | failed => exact ⟨_, rfl, ended_failed _ _⟩
  | faulted ha he =>
    have hresult := hanswer _ _ ha
    rcases hengine h.now t (h.journal, h.engine) with ⟨f, hf⟩ | ⟨t', user, name, ht', -⟩
    · exact absurd (Except.error.inj (hresult.symm.trans hf)) (he f)
    · cases hresult.symm.trans ht'
  | returned ha hf =>
    have hresult := hanswer _ _ ha
    rcases hengine h.now t (h.journal, h.engine) with ⟨f, hf'⟩ | ⟨t', user, name, ht', hlogs⟩
    · cases hresult.symm.trans hf'
    · obtain rfl := Except.ok.inj (hresult.symm.trans ht')
      refine ⟨_, hf.result_eq hlogs.authenticated hlogs.user_eq hlogs.name_eq
        fun _ => Host.saveClient_returns _ _ _ _, Or.inl ⟨_, name, rfl, hlogs.name_eq,
        hlogs.authorities, ?_⟩⟩
      show t.registration.id.isText = true
      rw [hid]
      rfl

/-- An attempt on a fit session ends. -/
theorem attempt_result (hengine : Engine.Decides engine) (hfit : Fit s h.session)
    (hnow : h.now.offset = some 0) (c : Callback) :
    ∃ result, ((Attempt.run (Host.services repository s.toRequestStore engine recordsClients)
      c).runOn h).1 = .ok result ∧ Ended result := by
  obtain ⟨calls, result, h', hf⟩ := Attempt.exists_follows
    (Host.services repository s.toRequestStore engine recordsClients) h c
  rw [hf.runOn]
  cases hf with
  | refused => exact ⟨_, rfl, ended_failed _ _⟩
  | notFound => exact ⟨_, rfl, ended_failed _ _⟩
  | @retrievalFaulted state e _ hc hr =>
    obtain ⟨⟨found, hfound, -⟩, -⟩ := hfit.retrieve hnow hc.state.2
    have hresult : (s.retrieve h.now (.text state) h.session).result = .error e :=
      congrArg Prod.fst hr
    cases hresult.symm.trans hfound
  | @found state request _ _ _ _ hc hr hp =>
    obtain ⟨⟨found, hfound, hstate⟩, -⟩ := hfit.retrieve hnow hc.state.2
    have hresult : (s.retrieve h.now (.text state) h.session).result = .ok (some request) :=
      congrArg Prod.fst hr
    obtain rfl := Except.ok.inj (hresult.symm.trans hfound)
    cases hp with
    | stateKind hs => exact absurd (hstate request rfl) (hs state)
    | stateDiffers => exact ⟨_, rfl, ended_failed _ _⟩
    | lookupFaulted _ _ hf => cases hf
    | unknown => exact ⟨_, rfl, ended_failed _ _⟩
    | known _ _ hf hx =>
      obtain ⟨hfound, rfl⟩ := Prod.mk.inj hf
      exact ended_of_exchanges hengine (Repository.id_of_find? (Except.ok.inj hfound)) hx

/-- What an attempt on a fit session leaves will come back. -/
theorem attempt_session (hfit : Fit s h.session) (hnow : h.now.offset = some 0) (c : Callback) :
    let after := ((Attempt.run (Host.services repository s.toRequestStore engine recordsClients)
      c).runOn h).2
    after.now = h.now ∧ Storable s after.session := by
  have hkeep := Host.services_keep repository s.toRequestStore engine recordsClients
  rcases Attempt.refuses_or_complete c.query with ⟨f, hc⟩ | ⟨state, hc⟩
  · have hpart := Attempt.part_run_of_refused h hkeep hc.refusal?
    rw [Prod.mk.injEq] at hpart
    dsimp only
    rw [hpart.1, hpart.2]
    exact ⟨rfl, hfit.storable⟩
  · have hpart := Attempt.part_run_of_accepted h hkeep hc.refusal?
    rw [hc.state_eq, Prod.mk.injEq] at hpart
    dsimp only
    rw [hpart.1, hpart.2]
    exact ⟨rfl, (hfit.retrieve hnow hc.state.2).2⟩

/-! ## The handlers -/

/-- What is kept of a principal while a visit is answered. -/
def entryOf (p : Principal) (name : String) : Entries :=
  [(.text "name", .text name), (.text "registration_id", p.registrationId),
    (.text "authorities", .list p.authorities)]

/-- What a session holds of a principal. -/
def shown (p : Principal) (name : String) : Value :=
  Value.record [("authorities", .list p.authorities), ("name", .text name),
    ("registration_id", p.registrationId)]

theorem stable_of_isText {v : Value} (h : v.isText = true) : Stable v := by
  cases v with
  | text t => rfl
  | null | bool | int | float | list | mapping | foreign => cases h

theorem kept_entryOf {p : Principal} {name : String} (h : p.Named name) :
    kept (.mapping (entryOf p name)) = .ok (shown p name) := by
  have hstable : ∀ e ∈ entryOf p name, Stable e.2 := by
    simp only [entryOf, List.forall_mem_cons, List.not_mem_nil, false_implies, implies_true,
      and_true]
    exact ⟨rfl, stable_of_isText h.registrationId, kept_list_eq_ok.2
      ⟨_, keptItems_of_stable fun a ha => stable_of_isText (h.authorities a ha), rfl⟩⟩
  have hkeys : TextKeys (entryOf p name) := by simp [entryOf, TextKeys, Value.isText]
  refine kept_mapping_eq_ok.2 ⟨_, _, keptEntries_of_stable hstable, sortEntries_of_textKeys hkeys, ?_⟩
  have hfirst : "name" ≤ "registration_id" := by decide
  have hsecond : ¬ "name" ≤ "authorities" := by decide
  simp [shown, Value.record, entryOf, List.mergeSort, List.MergeSort.Internal.splitInTwo, inOrder,
    Json.keyText, hfirst, hsecond]

theorem runOn_welcome {p : Principal} {name : String} (hp : p.Named name) (target : Value)
    (h : Host ε) : (welcome target p).runOn h = (redirect target.display,
      { h with session := h.session.insert (.text principalKey) (.mapping (entryOf p name)) }) := by
  have hentry : principalEntry p = .ok (entryOf p name) := by
    unfold principalEntry
    rw [hp.name_eq]
    rfl
  unfold welcome
  rw [Action.runOn_bind, Action.runOn_lift, hentry]
  rfl

theorem runOn_turnAway (target : Value) (f : Failure) (h : Host ε) :
    (turnAway target f).runOn h = (failureTarget target f.code >>= redirect,
      { h with session := h.session.erase (.text principalKey) }) := by
  unfold turnAway
  rw [Action.runOn_bind]
  show Action.runOn (_ >>= _) _ = _
  rw [Action.runOn_bind, Action.runOn_lift]
  cases failureTarget target f.code <;> rfl

/-! ## A callback -/

/-- The site has the default handlers, for these targets, and a store of its own. -/
structure Plain (site : Site ε) (engine : Engine ε) (s : SessionStore) (success failure : Value) :
    Prop where
  store_eq : site.parts.store = s.toRequestStore
  key_eq : s.key = SessionStore.defaultKey
  attempt_eq : ∀ c, site.filter.attempt c =
    Attempt.run (Host.services site.parts.repository s.toRequestStore engine true) c
  onSuccess_eq : ∀ c seen p, site.filter.onSuccess c seen p = welcome success p
  onFailure_eq : ∀ c seen f, site.filter.onFailure c seen f = turnAway failure f
  log_eq : site.filter.log = Host.log

/-- A site has the parts of its configuration, and the handlers for its targets. -/
theorem parts_of_create [Platform] {c : LoginConfig} {testing ownsEngine : Bool} {site : Site ε}
    (h : create c testing none engine ownsEngine none = .ok site) :
    LoginParts.ofConfig c none = .ok site.parts ∧ site.propagates = testing ∧
      site.filter = site.parts.filter engine ownsEngine true
        (fun _ _ p => welcome c.login.successUrl p) (fun _ _ f => turnAway c.login.failureUrl f) := by
  have hjoined : ∃ setup, (LoginParts.ofConfig c none >>= fun parts => pure
      { settings := c.login
        parts
        filter := parts.filter engine ownsEngine true
          (fun _ _ p => welcome c.login.successUrl p)
          (fun _ _ f => turnAway c.login.failureUrl f)
        propagates := testing
        logSetup := setup : Site ε }) = .ok site := by
    unfold create at h
    dsimp only at h
    split at h
    · obtain ⟨setup, -, h⟩ := bind_eq_ok.1 h
      exact ⟨setup, h⟩
    · obtain ⟨level, -, h⟩ := bind_eq_ok.1 h
      obtain ⟨setup, -, h⟩ := bind_eq_ok.1 h
      exact ⟨setup, h⟩
  obtain ⟨setup, h⟩ := hjoined
  obtain ⟨parts, hparts, h⟩ := bind_eq_ok.1 h
  obtain rfl := Except.ok.inj h
  exact ⟨hparts, rfl, rfl⟩

theorem plain_of_create [Platform] {c : LoginConfig} {testing ownsEngine : Bool} {site : Site ε}
    (h : create c testing none engine ownsEngine none = .ok site) :
    ∃ s, Plain site engine s c.login.successUrl c.login.failureUrl := by
  obtain ⟨hparts, -, hfilter⟩ := parts_of_create h
  obtain ⟨s, hstore, hkey⟩ := LoginParts.store_of_settings hparts
  refine ⟨s, hstore, hkey, fun c => ?_, fun _ _ _ => ?_, fun _ _ _ => ?_, ?_⟩
  · rw [hfilter]
    show Attempt.run (Host.services _ site.parts.store engine true) c = _
    rw [hstore]
  all_goals
    rw [hfilter]
    rfl

variable {site : Site ε} {success failure : Value}

theorem principalKey_ne (hplain : Plain site engine s success failure) : principalKey ≠ s.key := by
  rw [hplain.key_eq]
  decide

/-- How the site handles a callback: its attempt ends, with a principal that is kept or a failure
that is told. -/
theorem handle_callback (hplain : Plain site engine s success failure)
    (hengine : Engine.Decides engine) (hfit : Fit s h.session) (hnow : h.now.offset = some 0)
    (hc : site.filter.requiresAuthentication c = true)
    (next : Callback → SecurityContext → Action (Host ε) Reply) :
    ∃ result, ((site.filter.attempt c).runOn h).1 = .ok result ∧
      let handled := site.filter.handle c none next h
      handled.2.now = h.now ∧ Storable s handled.2.session ∧
      ((∃ p name, result.success? = some p ∧ p.Named name ∧
          Entries.text? handled.2.session principalKey = some (.mapping (entryOf p name)) ∧
          handled.1.answer = redirect success.display) ∨
        ∃ f : Failure, result.success? = none ∧ Entries.text? handled.2.session principalKey = none ∧
          handled.1.answer = (failureTarget failure f.code >>= redirect)) := by
  obtain ⟨result, hresult, hended⟩ : ∃ result, ((site.filter.attempt c).runOn h).1 = .ok result ∧
      Ended result := by
    rw [hplain.attempt_eq c]
    exact attempt_result hengine hfit hnow c
  obtain ⟨hclock, hstorable⟩ : ((site.filter.attempt c).runOn h).2.now = h.now ∧
      Storable s ((site.filter.attempt c).runOn h).2.session := by
    rw [hplain.attempt_eq c]
    exact attempt_session hfit hnow c
  have hkey := (principalKey_ne hplain).symm
  refine ⟨result, hresult, ?_⟩
  have ha : (site.filter.attempt c).runOn h = (.ok result, ((site.filter.attempt c).runOn h).2) :=
    Prod.ext hresult rfl
  generalize ((site.filter.attempt c).runOn h).2 = after at ha hclock hstorable
  dsimp only
  rw [site.filter.handle_of_ok c none next h hc ha]
  rcases hended with ⟨p, name, hp, hnamed⟩ | ⟨f, hnone, hf⟩
  · rw [site.filter.dispatch_of_success c after hp, hplain.onSuccess_eq, runOn_welcome hnamed]
    exact ⟨hclock, hstorable.insert hkey ⟨_, kept_entryOf hnamed⟩,
      Or.inl ⟨p, name, hp, hnamed, Entries.text?_insert_self _ _ _, rfl⟩⟩
  · rw [site.filter.dispatch_of_failure c after hnone hf, hplain.onFailure_eq, runOn_turnAway]
    unfold LoginFilter.beforeFailure
    rw [hplain.log_eq]
    exact ⟨hclock, hstorable.erase hkey, Or.inr ⟨f, hnone, Entries.text?_erase_self _ _, rfl⟩⟩

/-! ## Replies -/

/-- A reply can be sent: it names no address, or one that can be written. -/
def CanSend (x : Except Fault Reply) : Prop := ∃ r l, x = .ok r ∧ r.location.mapM location = .ok l

/-- How a visit ends after which the session would be that of `after`: with a reply the session
comes back, and without one it is as the visit found it. -/
inductive Concludes (s : SessionStore) (before after : Host ε) :
    Except Fault Reply × Host ε → Prop where
  | replied {reply : Reply} {h' : Host ε} (clock : h'.now = after.now) (fit : Fit s h'.session)
      (kept : keptSession after.session = .ok h'.session) : Concludes s before after (.ok reply, h')
  | abandoned {e : Fault} {h' : Host ε} (clock : h'.now = after.now)
      (same : h'.session = before.session) : Concludes s before after (.error e, h')

variable {before after : Host ε}

theorem Concludes.of_log {r : Record} {x : Except Fault Reply × Host ε}
    (h : Concludes s before (after.log r) x) : Concludes s before after x := by
  cases h with
  | replied clock fit kept => exact .replied clock fit kept
  | abandoned clock same => exact .abandoned clock same

theorem concludes_conclude (hkeys : TextKeys after.session) (hsound : SoundIn s after.session)
    (r : Reply) : Concludes s before after (conclude before after r) := by
  unfold conclude
  cases hkept : keptSession after.session with
  | error e => exact .abandoned rfl rfl
  | ok session =>
    cases r.location.mapM location with
    | error e => exact .abandoned rfl rfl
    | ok l => exact .replied rfl (fit_of_keptSession hkeys hsound hkept) hkept

theorem conclude_of_canSend (hafter : Storable s after.session) {r : Reply}
    (hr : CanSend (.ok r)) : ∃ reply, (conclude before after r).1 = .ok reply := by
  obtain ⟨session, hkept⟩ := exists_keptSession hafter.keys hafter.values
  obtain ⟨r', l, heq, hl⟩ := hr
  obtain rfl := Except.ok.inj heq
  unfold conclude
  rw [hkept, hl]
  exact ⟨_, rfl⟩

/-- A target of one line is named by the reply. -/
theorem redirect_eq_ok {t : String} (h : ∀ c ∈ t.toList, c ≠ '\n' ∧ c ≠ '\r') :
    redirect t = .ok { status := 302, location := some t } := by
  have hbreak : (t.toList.any fun c => c == '\n' || c == '\r') = false := by
    rw [List.any_eq_false]
    intro c hc
    simpa using h c hc
  unfold redirect
  rw [hbreak]
  rfl

theorem ne_lineBreak_of_printable {c : Char} (h : 33 ≤ c.toNat ∧ c.toNat ≤ 126) :
    c ≠ '\n' ∧ c ≠ '\r' := by
  constructor <;> rintro rfl <;> revert h <;> decide

/-- A target of ASCII without blanks is sent as it is. -/
theorem location_eq_self {t : String} (hne : t ≠ "")
    (h : ∀ c ∈ t.toList, c.toNat < 128 ∧ Text.isBlank c = false) : location t = .ok t := by
  have hascii : (t.toList.all fun c => decide (c.val < 128)) = true := by
    rw [List.all_eq_true]
    intro c hc
    rw [decide_eq_true_iff, UInt32.lt_iff_toNat_lt]
    exact (h c hc).1
  unfold location
  dsimp only
  rw [Text.words_of_notBlank (by simpa using hne) fun c hc => (h c hc).2]
  simp [hascii]

/-- A target of printable ASCII can be sent. -/
theorem canSend_redirect {t : String} (hne : t ≠ "")
    (h : ∀ c ∈ t.toList, 33 ≤ c.toNat ∧ c.toNat ≤ 126) : CanSend (redirect t) := by
  have hplain : ∀ c ∈ t.toList, c.toNat < 128 ∧ Text.isBlank c = false := fun c hc =>
    ⟨Nat.lt_of_le_of_lt (h c hc).2 (by decide), Text.isBlank_of_printable (h c hc)⟩
  refine ⟨_, some t, redirect_eq_ok fun c hc => ne_lineBreak_of_printable (h c hc), ?_⟩
  simp [location_eq_self hne hplain]

/-- The target that shows a code: the page and one more parameter. -/
def targetOf (page code : String) : String :=
  page ++ (if page.toList.contains '?' then "&" else "?") ++ Octets.encodeForm [("error", code)]

theorem failureTarget_text (page : String) (code : Value) :
    failureTarget (.text page) code = .ok (targetOf page code.display) := rfl

/-- The parameter with the code. -/
theorem encodeForm_error (code : String) : Octets.encodeForm [("error", code)] =
    "error=" ++ String.ofList (Octets.encodeFormText code.toList) := by
  have hname : Octets.encodeFormText "error".toList ++ ['='] = "error=".toList := by decide
  rw [← String.toList_inj, String.toList_append, ← hname]
  simp [Octets.encodeForm, Octets.joinWith, Octets.encodeField]

/-- What is added to a page is printable ASCII. -/
theorem mem_targetOf {page code : String} {x : Char} (hx : x ∈ (targetOf page code).toList) :
    x ∈ page.toList ∨ 33 ≤ x.toNat ∧ x.toNat ≤ 126 := by
  have hname : ∀ x ∈ "error=".toList, 33 ≤ x.toNat ∧ x.toNat ≤ 126 := by decide
  unfold targetOf at hx
  rw [encodeForm_error] at hx
  simp only [String.toList_append, List.mem_append] at hx
  rcases hx with (hx | hx) | hx | hx
  · exact Or.inl hx
  · right
    revert hx
    split <;> simp +contextual
  · exact Or.inr (hname x hx)
  · rw [String.toList_ofList] at hx
    have hrange := Octets.toNat_of_mem_encodeFormText hx
    omega

theorem targetOf_ne_empty (page code : String) : targetOf page code ≠ "" := by
  intro hempty
  have hlength := congrArg String.length hempty
  unfold targetOf at hlength
  split at hlength <;> simp at hlength

/-- A page of printable ASCII can be told any failure. -/
theorem canSend_failureTarget {t : String} (h : ∀ c ∈ t.toList, 33 ≤ c.toNat ∧ c.toNat ≤ 126)
    (code : Value) : CanSend (failureTarget (.text t) code >>= redirect) := by
  rw [failureTarget_text]
  exact canSend_redirect (targetOf_ne_empty t _) fun c hc => (mem_targetOf hc).elim (h c) id

/-- The pages, as the filter continues with them. -/
def pages (c : Callback) (_ : SecurityContext) : Action (Host ε) Reply :=
  Action.ofFn fun h => (serve c h.session, h)

/-- How a visit is answered once the filter has handled it. -/
theorem respond_eq {v : Visit} (hv : v.callback = .ok c) (h : Host ε) :
    site.respond v h = match (site.filter.handle c none pages h).1.answer with
      | .ok r => conclude h (site.filter.handle c none pages h).2 r
      | .error e => if site.propagates then abandon h (site.filter.handle c none pages h).2 e
        else conclude h ((site.filter.handle c none pages h).2.log (faultRecord c))
          { status := 500 } := by
  unfold respond
  rw [hv]
  rfl

theorem concludes_respond {v : Visit} (hv : v.callback = .ok c)
    (hkeys : TextKeys (site.filter.handle c none pages h).2.session)
    (hsound : SoundIn s (site.filter.handle c none pages h).2.session) :
    Concludes s h (site.filter.handle c none pages h).2 (site.respond v h) := by
  rw [respond_eq hv]
  generalize site.filter.handle c none pages h = handled at hkeys hsound ⊢
  split
  · exact concludes_conclude hkeys hsound _
  · split
    · exact .abandoned rfl rfl
    · refine Concludes.of_log (concludes_conclude ?_ ?_ _)
      · exact hkeys
      · exact hsound

/-- What becomes of a callback whose attempt has this result. With a reply the session shows the
principal of the attempt, or none if it has none; without a reply it is what it was. There is a
reply if the target of the handler can be sent. -/
structure Served (s : SessionStore) (success failure : Value) (before : Host ε)
    (result : AttemptResult) (x : Except Fault Reply × Host ε) : Prop where
  clock : x.2.now = before.now
  fit : Fit s x.2.session
  kept : ∀ e, x.1 = .error e → x.2.session = before.session
  shows : ∀ reply, x.1 = .ok reply →
    (∃ p name, result.success? = some p ∧ p.Named name ∧
      Entries.text? x.2.session principalKey = some (shown p name)) ∨
    result.success? = none ∧ Entries.text? x.2.session principalKey = none
  replied : CanSend (redirect success.display) →
    (result.success? = none → ∀ code, CanSend (failureTarget failure code >>= redirect)) →
    ∃ reply, x.1 = .ok reply

theorem respond_callback (hplain : Plain site engine s success failure)
    (hengine : Engine.Decides engine) (hfit : Fit s h.session) (hnow : h.now.offset = some 0)
    {v : Visit} (hv : v.callback = .ok c) (hc : site.filter.requiresAuthentication c = true) :
    ∃ result, ((site.filter.attempt c).runOn h).1 = .ok result ∧
      Served s success failure h result (site.respond v h) := by
  obtain ⟨result, hresult, hclock, hstorable, hprincipal⟩ :=
    handle_callback hplain hengine hfit hnow hc pages
  refine ⟨result, hresult, ?_⟩
  have hends := concludes_respond hv hstorable.keys hstorable.sound
  have hsent : ∀ r, (site.filter.handle c none pages h).1.answer = .ok r → CanSend (.ok r) →
      ∃ reply, (site.respond v h).1 = .ok reply := by
    intro r hr hcan
    rw [respond_eq hv, hr]
    exact conclude_of_canSend hstorable hcan
  have hreplied : CanSend (redirect success.display) →
      (result.success? = none → ∀ code, CanSend (failureTarget failure code >>= redirect)) →
      ∃ reply, (site.respond v h).1 = .ok reply := by
    intro hsuccess hfailure
    rcases hprincipal with ⟨p, name, -, -, -, hanswer⟩ | ⟨f, hnone, -, hanswer⟩
    · obtain ⟨r, l, hr, hl⟩ := hsuccess
      exact hsent r (hanswer.trans hr) ⟨r, l, rfl, hl⟩
    · obtain ⟨r, l, hr, hl⟩ := hfailure hnone f.code
      exact hsent r (hanswer.trans hr) ⟨r, l, rfl, hl⟩
  generalize site.respond v h = answer at hends hreplied ⊢
  cases hends with
  | abandoned clock same =>
    refine ⟨clock.trans hclock, ?_, fun _ _ => same, fun _ h => ?_, hreplied⟩
    · rw [same]
      exact hfit
    · cases h
  | replied clock fit kept =>
    have hreturns := returns_of_keptSession hstorable.keys kept
    refine ⟨clock.trans hclock, fit, fun _ h => ?_, fun _ _ => ?_, hreplied⟩
    · cases h
    · rcases hprincipal with ⟨p, name, hp, hnamed, hfound, -⟩ | ⟨f, hnone, hfound, -⟩
      · obtain ⟨v', hkept, hv'⟩ := hreturns.of_some hfound
        obtain rfl := Except.ok.inj (hkept.symm.trans (kept_entryOf hnamed))
        exact Or.inl ⟨p, name, hp, hnamed, hv'⟩
      · exact Or.inr ⟨hnone, hreturns.of_none hfound⟩

/-! ## A request that is saved -/

theorem save_of_kept {r : AuthorizationRequest}
    (hrun : (Host.save site.parts.store r).runOn h = (.ok (), h')) {session : Session}
    (hkept : keptSession h'.session = .ok session) :
    site.save r h = (.ok (), { h' with session }) := by
  unfold save
  rw [hrun]
  dsimp only
  rw [hkept]

/-- A request that is saved leaves a fit session, with the principal that it had. -/
theorem session_after_save (hplain : Plain site engine s success failure) (hfit : Fit s h.session)
    (hnow : h.now.Universal) {r : AuthorizationRequest} {t : String} (hstate : r.state = .text t) :
    (site.save r h).2.now = h.now ∧ Fit s (site.save r h).2.session ∧
      Entries.text? (site.save r h).2.session principalKey =
        Entries.text? h.session principalKey := by
  obtain ⟨hkeys, hsound, hothers⟩ := hfit.save hnow hstate
  have hrun : (Host.save s.toRequestStore r).runOn h = h.settle (s.save h.now r h.session) := rfl
  unfold save
  rw [hplain.store_eq, hrun]
  generalize s.save h.now r h.session = change at hkeys hsound hothers
  obtain ⟨session, discarded, dropped, result⟩ := change
  unfold Host.settle
  cases result with
  | error e => exact ⟨rfl, hfit, rfl⟩
  | ok _ =>
    dsimp only at hkeys hsound hothers ⊢
    cases hkept : keptSession session with
    | error e => exact ⟨rfl, hfit, rfl⟩
    | ok session' =>
      refine ⟨rfl, fit_of_keptSession hkeys hsound hkept, ?_⟩
      have hreturns := returns_of_keptSession hkeys hkept
      have hsame := hothers principalKey (principalKey_ne hplain)
      cases hfound : Entries.text? h.session principalKey with
      | none => exact hreturns.of_none (hsame.trans hfound)
      | some v =>
        obtain ⟨w, hw, hw'⟩ := hreturns.of_some (hsame.trans hfound)
        have hstable := hfit.settled.values _ (Entries.mem_of_text? hfound)
        obtain rfl := Except.ok.inj (hw.symm.trans hstable)
        exact hw'

/-! ## Any other visit -/

theorem handle_other (hc : site.filter.requiresAuthentication c = false) :
    site.filter.handle c none pages h = (⟨serve c h.session, none⟩, h) :=
  site.filter.handle_of_passed c none pages h hc

/-- A visit that is no callback leaves the session alone. -/
theorem respond_other (hfit : Fit s h.session) {v : Visit}
    (hc : ∀ c, v.callback = .ok c → site.filter.requiresAuthentication c = false) :
    (site.respond v h).2.now = h.now ∧ (site.respond v h).2.session = h.session := by
  cases hv : v.callback with
  | error e =>
    unfold respond
    rw [hv]
    exact ⟨rfl, rfl⟩
  | ok c =>
    have hpassed := handle_other (h := h) (hc c hv)
    have hends : Concludes s h (site.filter.handle c none pages h).2 (site.respond v h) :=
      concludes_respond hv (by rw [hpassed]; exact hfit.settled.keys)
        (by rw [hpassed]; exact hfit.sound)
    rw [hpassed] at hends
    generalize site.respond v h = answer at hends
    cases hends with
    | abandoned clock same => exact ⟨clock, same⟩
    | replied clock _ kept =>
      exact ⟨clock, (Except.ok.inj (kept.symm.trans hfit.settled.keptSession_eq))⟩

/-- What the first page shows of a principal. -/
def greeting (p : Principal) (name : String) : Value :=
  Value.record [("authenticated", .bool true), ("authorities", .list p.authorities),
    ("name", .text name), ("registration_id", p.registrationId)]

/-- What the first page shows if nobody has logged in. -/
def unknown : Value := Value.record [("authenticated", .bool false)]

/-- The first page shows the principal of the session. -/
theorem respond_index (hsettled : Settled h.session) {v : Visit} (hv : v.callback = .ok c)
    (hc : site.filter.requiresAuthentication c = false) (hmethod : c.method = "GET")
    (hpath : c.path = "/") {shownThere : Value}
    (hjson : Page.index.json c h.session = .ok shownThere) :
    (site.respond v h).1 = .ok { json := some shownThere } := by
  have hpage : Page.ofPath? c.path = some .index := by
    rw [hpath]
    rfl
  have hserve : serve c h.session = .ok { json := some shownThere } := by
    unfold serve readable
    rw [hpage, hmethod]
    simp [hjson, Except.map]
  rw [respond_eq hv, handle_other hc, hserve]
  unfold conclude
  rw [hsettled.keptSession_eq]
  rfl

theorem json_index_of_shown {p : Principal} {name : String}
    (hp : Entries.text? h.session principalKey = some (shown p name)) (c : Callback) :
    Page.index.json c h.session = .ok (greeting p name) := by
  unfold Page.json
  rw [hp]
  rfl

theorem json_index_of_none (hp : Entries.text? h.session principalKey = none) (c : Callback) :
    Page.index.json c h.session = .ok unknown := by
  unfold Page.json
  rw [hp]
  rfl

end Site

end LoginCallback
