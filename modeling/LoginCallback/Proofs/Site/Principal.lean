import LoginCallback.Proofs.Session.Run
import LoginCallback.Proofs.Site.Visit
import Mathlib.Data.List.Induction

/-!
# Whom a session shows

A browser visits a site, requests are saved into its session and the clock is moved, in any order
(`SiteEvent`). The session shows a principal exactly while the last callback that was replied to has
logged one in (`LastCallback`). Main statement: `principal_follows_callbacks`, with what the first
page shows, and with the visits that leave the session alone.

A callback to which there is no reply, because its handler names an address that cannot be written,
has not happened for the browser, which keeps the session that it had.
-/

namespace LoginCallback

/-- What can happen to the session of a browser. -/
inductive SiteEvent where
  | save (request : AuthorizationRequest)
  | clock (now : Time.Moment) (universal : now.Universal)
  | visit (v : Site.Visit)

/-- A request that is saved has a text as its state. -/
def SiteEvent.Regular : SiteEvent → Prop
  | save r => ∃ t, r.state = .text t
  | clock _ _ => True
  | visit _ => True

namespace Site

variable {ε : Type} (site : Site ε)

def step (h : Host ε) : SiteEvent → Host ε
  | .save r => (site.save r h).2
  | .clock now _ => { h with now }
  | .visit v => (site.respond v h).2

def runFrom (start : Host ε) (es : List SiteEvent) : Host ε := es.foldl site.step start

/-- The host before an event of a run. -/
def hostAt (start : Host ε) (es : List SiteEvent) (i : Nat) : Host ε :=
  site.runFrom start (es.take i)

/-- The event is a callback, to which the site replies, and this is the principal of its attempt, if
it has one. -/
def Answers (h : Host ε) (e : SiteEvent) (principal : Option Principal) : Prop :=
  ∃ v c result reply, e = .visit v ∧ v.callback = .ok c ∧
    site.filter.requiresAuthentication c = true ∧
    ((site.filter.attempt c).runOn h).1 = .ok result ∧ result.success? = principal ∧
    (site.respond v h).1 = .ok reply

/-- An event of a run is a callback with this principal. -/
def CallbackAt (start : Host ε) (es : List SiteEvent) (i : Nat) (principal : Option Principal) :
    Prop :=
  ∃ e, es[i]? = some e ∧ site.Answers (site.hostAt start es i) e principal

/-- The last callback of a run has this principal, if it has one. -/
def LastCallback (start : Host ε) (es : List SiteEvent) (principal : Option Principal) : Prop :=
  ∃ i, site.CallbackAt start es i principal ∧ ∀ j other, i < j → ¬ site.CallbackAt start es j other

/-- A browser that comes to the site for the first time: no request is pending and nobody has logged
in. -/
structure Begins (start : Host ε) : Prop where
  clock : start.now.Universal
  settled : keptSession start.session = .ok start.session
  noRequests : Entries.text? start.session SessionStore.defaultKey = none
  noPrincipal : Entries.text? start.session principalKey = none

variable {site} {start h : Host ε} {es : List SiteEvent} {e : SiteEvent}
  {principal other : Option Principal}

/-! ## The last callback -/

theorem runFrom_concat : site.runFrom start (es ++ [e]) = site.step (site.runFrom start es) e := by
  unfold runFrom
  rw [List.foldl_concat]

theorem hostAt_concat {i : Nat} (hi : i ≤ es.length) :
    site.hostAt start (es ++ [e]) i = site.hostAt start es i := by
  unfold hostAt
  rw [List.take_append_of_le_length hi]

theorem Answers.unique (h₁ : site.Answers h e principal) (h₂ : site.Answers h e other) :
    principal = other := by
  obtain ⟨v, c, result, -, rfl, hv, -, hresult, rfl, -⟩ := h₁
  obtain ⟨v', c', result', -, heq, hv', -, hresult', rfl, -⟩ := h₂
  obtain rfl := SiteEvent.visit.inj heq
  obtain rfl := Except.ok.inj (hv.symm.trans hv')
  rw [Except.ok.inj (hresult.symm.trans hresult')]

theorem CallbackAt.lt {i : Nat} (h : site.CallbackAt start es i principal) : i < es.length := by
  obtain ⟨e, he, -⟩ := h
  exact (List.getElem?_eq_some_iff.1 he).1

theorem callbackAt_concat_of_lt {i : Nat} (hi : i < es.length) :
    site.CallbackAt start (es ++ [e]) i principal ↔ site.CallbackAt start es i principal := by
  unfold CallbackAt
  rw [List.getElem?_append_left hi, hostAt_concat (Nat.le_of_lt hi)]

theorem callbackAt_concat_length : site.CallbackAt start (es ++ [e]) es.length principal ↔
    site.Answers (site.runFrom start es) e principal := by
  unfold CallbackAt
  rw [List.getElem?_concat_length, hostAt_concat (Nat.le_refl _)]
  unfold hostAt
  rw [List.take_length]
  simp

/-- The last callback of a longer run: the last event itself, or the last callback before it. -/
theorem lastCallback_concat : site.LastCallback start (es ++ [e]) principal ↔
    site.Answers (site.runFrom start es) e principal ∨
      (∀ other, ¬ site.Answers (site.runFrom start es) e other) ∧
        site.LastCallback start es principal := by
  constructor
  · rintro ⟨i, hi, hlast⟩
    have hlt := hi.lt
    rw [List.length_append, List.length_singleton] at hlt
    rcases Nat.lt_succ_iff_lt_or_eq.1 hlt with hlt | rfl
    · refine Or.inr ⟨fun other hother => ?_, i, (callbackAt_concat_of_lt hlt).1 hi,
        fun j other hij hj => ?_⟩
      · exact hlast _ other hlt (callbackAt_concat_length.2 hother)
      · exact hlast j other hij ((callbackAt_concat_of_lt hj.lt).2 hj)
    · exact Or.inl (callbackAt_concat_length.1 hi)
  · rintro (hanswers | ⟨hnone, i, hi, hlast⟩)
    · refine ⟨es.length, callbackAt_concat_length.2 hanswers, fun j other hj hother => ?_⟩
      have hlt := hother.lt
      rw [List.length_append, List.length_singleton] at hlt
      omega
    · refine ⟨i, (callbackAt_concat_of_lt hi.lt).2 hi, fun j other hij hj => ?_⟩
      have hlt := hj.lt
      rw [List.length_append, List.length_singleton] at hlt
      rcases Nat.lt_succ_iff_lt_or_eq.1 hlt with hlt | rfl
      · exact hlast j other hij ((callbackAt_concat_of_lt hlt).1 hj)
      · exact hnone other (callbackAt_concat_length.1 hj)

/-! ## Runs -/

variable {engine : Engine ε} {s : SessionStore} {success failure : Value}

/-- What holds after every run: the session is fit for the next visit, and shows the principal of
the last callback. -/
structure Follows (site : Site ε) (s : SessionStore) (start : Host ε) (es : List SiteEvent) :
    Prop where
  clock : (site.runFrom start es).now.Universal
  fit : Fit s (site.runFrom start es).session
  present : ∀ p, site.LastCallback start es (some p) → ∃ name, p.Named name ∧
    Entries.text? (site.runFrom start es).session principalKey = some (shown p name)
  absent : (∀ p, ¬ site.LastCallback start es (some p)) →
    Entries.text? (site.runFrom start es).session principalKey = none

/-- An event that is no callback, or has no reply, leaves the principal. -/
theorem Follows.concat_of_no_answer (h : Follows site s start es)
    (hnone : ∀ principal, ¬ site.Answers (site.runFrom start es) e principal)
    (hclock : (site.step (site.runFrom start es) e).now.Universal)
    (hfit : Fit s (site.step (site.runFrom start es) e).session)
    (hsame : Entries.text? (site.step (site.runFrom start es) e).session principalKey =
      Entries.text? (site.runFrom start es).session principalKey) :
    Follows site s start (es ++ [e]) := by
  have hlast : ∀ principal, site.LastCallback start (es ++ [e]) principal ↔
      site.LastCallback start es principal := by
    intro principal
    rw [lastCallback_concat]
    exact ⟨fun h => (h.resolve_left (hnone principal)).2, fun h => Or.inr ⟨hnone, h⟩⟩
  refine ⟨?_, ?_, fun p hp => ?_, fun habsent => ?_⟩
  · rwa [runFrom_concat]
  · rwa [runFrom_concat]
  · rw [runFrom_concat, hsame]
    exact h.present p ((hlast _).1 hp)
  · rw [runFrom_concat, hsame]
    exact h.absent fun p hp => habsent p ((hlast _).2 hp)

/-- A callback that is answered leaves its own principal, or none. -/
theorem follows_concat_of_answer (hanswers : site.Answers (site.runFrom start es) e principal)
    (hclock : (site.step (site.runFrom start es) e).now.Universal)
    (hfit : Fit s (site.step (site.runFrom start es) e).session)
    (hshows : (∃ p name, principal = some p ∧ p.Named name ∧
        Entries.text? (site.step (site.runFrom start es) e).session principalKey =
          some (shown p name)) ∨
      principal = none ∧
        Entries.text? (site.step (site.runFrom start es) e).session principalKey = none) :
    Follows site s start (es ++ [e]) := by
  have hlast : ∀ other, site.LastCallback start (es ++ [e]) other ↔ other = principal := by
    intro other
    rw [lastCallback_concat]
    constructor
    · rintro (hother | ⟨hnone, -⟩)
      · exact hother.unique hanswers
      · exact absurd hanswers (hnone _)
    · rintro rfl
      exact Or.inl hanswers
  refine ⟨?_, ?_, fun p hp => ?_, fun habsent => ?_⟩
  · rwa [runFrom_concat]
  · rwa [runFrom_concat]
  · rw [runFrom_concat]
    have hsuccess := (hlast _).1 hp
    rcases hshows with ⟨p', name, hp', hnamed, hfound⟩ | ⟨hnone, -⟩
    · obtain rfl := Option.some.inj (hsuccess.trans hp')
      exact ⟨name, hnamed, hfound⟩
    · cases hsuccess.trans hnone
  · rw [runFrom_concat]
    rcases hshows with ⟨p, name, hp, -, -⟩ | ⟨-, hfound⟩
    · exact absurd ((hlast _).2 hp.symm) (habsent p)
    · exact hfound

/-- A visit keeps what holds after every run. -/
theorem Follows.visit (hplain : Plain site engine s success failure)
    (hengine : Engine.Decides engine) (h : Follows site s start es) (v : Visit) :
    Follows site s start (es ++ [.visit v]) := by
  by_cases hcallback : ∃ c, v.callback = .ok c ∧ site.filter.requiresAuthentication c = true
  · obtain ⟨c, hv, hc⟩ := hcallback
    obtain ⟨result, hresult, hserved⟩ :=
      respond_callback hplain hengine h.fit h.clock.offset_eq hv hc
    have hclock' : (site.step (site.runFrom start es) (.visit v)).now.Universal := by
      show (site.respond v _).2.now.Universal
      rw [hserved.clock]
      exact h.clock
    cases hreply : (site.respond v (site.runFrom start es)).1 with
    | error fault =>
      refine h.concat_of_no_answer ?_ hclock' hserved.fit (congrArg (Entries.text? · principalKey)
        (hserved.kept fault hreply))
      rintro principal ⟨_, _, _, reply, heq, -, -, -, -, hok⟩
      obtain rfl := SiteEvent.visit.inj heq
      cases hreply.symm.trans hok
    | ok reply =>
      have hanswers : site.Answers (site.runFrom start es) (.visit v) result.success? :=
        ⟨v, c, result, reply, rfl, hv, hc, hresult, rfl, hreply⟩
      exact follows_concat_of_answer hanswers hclock' hserved.fit (hserved.shows reply hreply)
  · have hother : ∀ c, v.callback = .ok c → site.filter.requiresAuthentication c = false :=
      fun c hv => Bool.eq_false_iff.2 fun hc => hcallback ⟨c, hv, hc⟩
    obtain ⟨hclock, hsession⟩ := respond_other h.fit hother
    refine h.concat_of_no_answer ?_ ?_ ?_ ?_
    · rintro principal ⟨_, c, _, _, heq, hv, hc, -, -, -⟩
      obtain rfl := SiteEvent.visit.inj heq
      exact hcallback ⟨c, hv, hc⟩
    · show (site.respond v _).2.now.Universal
      rw [hclock]
      exact h.clock
    · show Fit s (site.respond v _).2.session
      rw [hsession]
      exact h.fit
    · show Entries.text? (site.respond v _).2.session principalKey = _
      rw [hsession]

/-- Every event keeps what holds after every run. -/
theorem follows_concat (hplain : Plain site engine s success failure)
    (hengine : Engine.Decides engine) (h : Follows site s start es) (he : e.Regular) :
    Follows site s start (es ++ [e]) := by
  have hvisit : (∀ v, e ≠ .visit v) →
      ∀ principal, ¬ site.Answers (site.runFrom start es) e principal := by
    rintro hne principal ⟨v, -, -, -, rfl, -⟩
    exact hne v rfl
  cases e with
  | save r =>
    obtain ⟨t, hstate⟩ := he
    obtain ⟨hclock, hfit, hsame⟩ := session_after_save hplain h.fit h.clock hstate
    refine h.concat_of_no_answer (hvisit nofun) ?_ hfit hsame
    show (site.save r _).2.now.Universal
    rw [hclock]
    exact h.clock
  | clock now universal => exact h.concat_of_no_answer (hvisit nofun) universal h.fit rfl
  | visit v => exact h.visit hplain hengine v

theorem follows_nil (hplain : Plain site engine s success failure) (hstart : Begins start) :
    Follows site s start [] := by
  refine ⟨hstart.clock, ⟨settled_of_keptSession hstart.settled, Or.inl ?_⟩, ?_,
    fun _ => hstart.noPrincipal⟩
  · rw [hplain.key_eq]
    exact hstart.noRequests
  · rintro p ⟨i, hi, -⟩
    exact absurd hi.lt (Nat.not_lt_zero i)

theorem follows_run (hplain : Plain site engine s success failure)
    (hengine : Engine.Decides engine) (hstart : Begins start) (hes : ∀ e ∈ es, e.Regular) :
    Follows site s start es := by
  induction es using List.reverseRecOn with
  | nil => exact follows_nil hplain hstart
  | append_singleton es e ih =>
    refine follows_concat hplain hengine (ih fun e' he' => ?_) ?_
    · exact hes e' (List.mem_append_left _ he')
    · exact hes e (List.mem_append_right _ (List.mem_singleton_self e))

/-! ## A site with one user -/

/-- An engine that logs everybody in as this user. -/
def admitting (user : User) : Engine Unit := fun _ t => pure (t.authenticate user none)

/-- A site with one registration, whose engine logs everybody in as this user. -/
def oneUser (user : User) (failureUrl : String) : Site Unit :=
  let parts : LoginParts :=
    { repository := ⟨[.ofId "acme"]⟩
      store := SessionStore.standard.toRequestStore
      matcher := ⟨⟨"/login/oauth2/code/".toList, []⟩, [("/login/oauth2/code/acme", .text "acme")]⟩ }
  { settings := { failureUrl := .text failureUrl }
    parts
    filter := parts.filter (admitting user) false true
      (fun _ _ p => welcome (.text "/") p) (fun _ _ f => turnAway (.text failureUrl) f)
    propagates := true
    logSetup := none }

theorem create_oneUser (user : User) (failureUrl : String) :
    create { login := { failureUrl := .text failureUrl }, registrations := [.ofId "acme"] } true none
      (admitting user) false none = .ok (oneUser user failureUrl) := rfl

def octocat : User :=
  { attributes := .record [("sub", .text "octocat")]
    nameKey := .text "sub"
    authorities := [roleUser] }

theorem decides_octocat : (admitting octocat).Decides := by
  refine fun _ _ _ => Or.inr ⟨_, octocat, "octocat", rfl, rfl, rfl, rfl, fun a ha => ?_⟩
  rw [List.mem_singleton.1 ha]
  rfl

def newcomer : Host Unit := { now := ⟨63839664000000000, some 0⟩, engine := () }

theorem begins_newcomer : Begins newcomer :=
  ⟨⟨rfl, by decide, by decide⟩, settled_nil.keptSession_eq, rfl, rfl⟩

/-- Somebody sets out to log in, and comes back with a code. -/
def loginOfOctocat : List SiteEvent :=
  [.save (.ofLogin "S" "acme"),
    .visit { path := "/login/oauth2/code/acme", query := "code=C&state=S" }]

/-- Somebody comes back without having logged in. -/
def denial : Visit := { path := "/login/oauth2/code/acme", query := "error=access_denied" }

theorem regular_loginOfOctocat : ∀ e ∈ loginOfOctocat, e.Regular := by
  simp only [loginOfOctocat, List.forall_mem_cons, List.not_mem_nil, false_implies, implies_true,
    and_true]
  exact ⟨⟨"S", rfl⟩, trivial⟩

/-- A session in which the request of a login is pending, as it comes back. -/
def pendingLogin : Session :=
  [(.text SessionStore.defaultKey, .record [("S", .record
    [("expires_at", .text "2024-01-01T00:10:00+00:00"),
      ("request", .record [("additional_parameters", .record [("registration_id", .text "acme")]),
        ("authorization_uri", .text "https://id.example.com/authorize"),
        ("client_id", .text "client"), ("grant_type", .text "authorization_code"),
        ("redirect_uri", .text "https://app.example.com/login"), ("scopes", .list []),
        ("state", .text "S")])])])]

/-- The session in which it is pending, as the store has written it. -/
def writtenLogin : Session :=
  [(.text SessionStore.defaultKey, .record [("S", .record
    [("request", (AuthorizationRequest.ofLogin "S" "acme").toValue),
      ("expires_at", .text "2024-01-01T00:10:00+00:00")])])]

theorem keptSession_writtenLogin : keptSession writtenLogin = .ok pendingLogin := by
  simp [keptSession, kept, keptEntries, keptItems, sortEntries, inOrder, writtenLogin, pendingLogin,
    Value.record, Value.isText, AuthorizationRequest.toValue, AuthorizationRequest.ofLogin,
    AuthorizationRequest.ofState, Json.keyText, List.mergeSort, List.MergeSort.Internal.splitInTwo,
    ofValue, pure, Except.pure, bind, Except.bind, Except.map, Except.mapError]

theorem save_writtenLogin (failureUrl : String) : ((oneUser octocat failureUrl).save
    (.ofLogin "S" "acme") newcomer).2 = { newcomer with session := pendingLogin } := by
  have hrun : (Host.save (oneUser octocat failureUrl).parts.store
      (.ofLogin "S" "acme")).runOn newcomer =
        (.ok (), { newcomer with session := writtenLogin }) := rfl
  rw [save_of_kept hrun keptSession_writtenLogin]

/-- Who comes back with a code is logged in. -/
theorem lastCallback_loginOfOctocat (failureUrl : String) :
    (oneUser octocat failureUrl).LastCallback newcomer loginOfOctocat
      (some ⟨octocat, [roleUser], .text "acme"⟩) := by
  obtain ⟨s, hplain⟩ := plain_of_create (create_oneUser octocat failureUrl)
  have hsplit : loginOfOctocat = [.save (.ofLogin "S" "acme")] ++
      [.visit { path := "/login/oauth2/code/acme", query := "code=C&state=S" }] := rfl
  have hregular : ∀ e ∈ [SiteEvent.save (.ofLogin "S" "acme")], e.Regular :=
    fun e he => regular_loginOfOctocat e (List.mem_append_left _ he)
  have hfollows := follows_run hplain decides_octocat begins_newcomer hregular
  have hv : Visit.callback { path := "/login/oauth2/code/acme", query := "code=C&state=S" } = .ok
      { path := "/login/oauth2/code/acme", query := [("code", "C"), ("state", "S")] } := rfl
  obtain ⟨result, hresult, hserved⟩ :=
    respond_callback hplain decides_octocat hfollows.fit hfollows.clock.offset_eq hv rfl
  have hsuccess : result.success? = some ⟨octocat, [roleUser], .text "acme"⟩ := by
    have hhost : (oneUser octocat failureUrl).runFrom newcomer [.save (.ofLogin "S" "acme")] =
        { newcomer with session := pendingLogin } := save_writtenLogin failureUrl
    rw [hhost] at hresult
    rw [← Except.ok.inj hresult]
    rfl
  have hhome : CanSend (redirect "/") := canSend_redirect (by decide) (by decide)
  obtain ⟨reply, hreply⟩ := hserved.replied hhome fun hnone => nomatch hsuccess.symm.trans hnone
  rw [hsplit, lastCallback_concat]
  exact Or.inl ⟨_, _, result, reply, rfl, hv, rfl, hresult, hsuccess, hreply⟩

/-- The principal of a session follows its callbacks. After any run of a site with the default
handlers, whose engine decides every login, the session shows the principal of the last callback, by
name, registration and authorities, and shows none if there was no callback or its attempt failed.
Visits that are no callbacks leave the whole session alone, and the first page tells who is shown. A
callback leaves the session alone as well if it has no reply, which does not happen if the targets
of the handlers can be sent. -/
theorem principal_follows_callbacks [Platform] {c : LoginConfig} {testing ownsEngine : Bool}
    (hsite : create c testing none engine ownsEngine none = .ok site)
    (hengine : Engine.Decides engine) (hstart : Begins start) (hes : ∀ e ∈ es, e.Regular) :
    let h := site.runFrom start es
    (∀ p, site.LastCallback start es (some p) → ∃ name, p.name = .ok name ∧
      Entries.text? h.session principalKey = some (Value.record
        [("authorities", .list p.authorities), ("name", .text name),
          ("registration_id", p.registrationId)])) ∧
    ((∀ p, ¬ site.LastCallback start es (some p)) →
      Entries.text? h.session principalKey = none) ∧
    (∀ v : Visit, (∀ c, v.callback = .ok c → site.filter.requiresAuthentication c = false) →
      (site.respond v h).2.session = h.session) ∧
    (∀ (v : Visit) (c : Callback), v.callback = .ok c → c.method = "GET" → c.path = "/" →
      site.filter.requiresAuthentication c = false →
      (∀ p name, site.LastCallback start es (some p) → p.name = .ok name →
        (site.respond v h).1 = .ok { json := some (Value.record
          [("authenticated", .bool true), ("authorities", .list p.authorities),
            ("name", .text name), ("registration_id", p.registrationId)]) }) ∧
      ((∀ p, ¬ site.LastCallback start es (some p)) → (site.respond v h).1 =
        .ok { json := some (Value.record [("authenticated", .bool false)]) })) ∧
    ∀ (v : Visit) (c' : Callback), v.callback = .ok c' →
      site.filter.requiresAuthentication c' = true →
      (∀ e, (site.respond v h).1 = .error e → (site.respond v h).2.session = h.session) ∧
      (CanSend (redirect c.login.successUrl.display) →
        (∀ code, CanSend (failureTarget c.login.failureUrl code >>= redirect)) →
        ∃ reply, (site.respond v h).1 = .ok reply) := by
  obtain ⟨s, hplain⟩ := plain_of_create hsite
  have hfollows := follows_run hplain hengine hstart hes
  refine ⟨fun p hp => ?_, hfollows.absent, fun v hv => (respond_other hfollows.fit hv).2,
    fun v c' hv hmethod hpath hc => ⟨fun p name hp hname => ?_, fun hnone => ?_⟩,
    fun v c' hv hc => ?_⟩
  · obtain ⟨name, hnamed, hfound⟩ := hfollows.present p hp
    exact ⟨name, hnamed.name_eq, hfound⟩
  · obtain ⟨name', hnamed, hfound⟩ := hfollows.present p hp
    obtain rfl := Except.ok.inj (hname.symm.trans hnamed.name_eq)
    exact respond_index hfollows.fit.settled hv hc hmethod hpath (json_index_of_shown hfound c')
  · exact respond_index hfollows.fit.settled hv hc hmethod hpath
      (json_index_of_none (hfollows.absent hnone) c')
  · obtain ⟨_, -, hserved⟩ :=
      respond_callback hplain hengine hfollows.fit hfollows.clock.offset_eq hv hc
    exact ⟨hserved.kept, fun hsuccess hfailure => hserved.replied hsuccess fun _ => hfailure⟩

/-- The first page greets the user after the login, and a failure would be told. -/
theorem first_page_of_octocat :
    let site := oneUser octocat "/login"
    let h := site.runFrom newcomer loginOfOctocat
    create { login := { failureUrl := .text "/login" }, registrations := [.ofId "acme"] } true none
        (admitting octocat) false none = .ok site ∧
      (admitting octocat).Decides ∧ Begins newcomer ∧ (∀ e ∈ loginOfOctocat, e.Regular) ∧
      (site.respond { path := "/" } h).1 = .ok { json := some (Value.record
        [("authenticated", .bool true), ("authorities", .list [roleUser]), ("name", .text "octocat"),
          ("registration_id", .text "acme")]) } ∧
      ∃ reply, (site.respond denial h).1 = .ok reply := by
  have hcreate := create_oneUser octocat "/login"
  obtain ⟨-, -, -, hfirst, hanswered⟩ :=
    principal_follows_callbacks hcreate decides_octocat begins_newcomer regular_loginOfOctocat
  have hv : Visit.callback { path := "/" } = .ok { path := "/" } := rfl
  have hdenial : denial.callback = .ok
      { path := "/login/oauth2/code/acme", query := [("error", "access_denied")] } := rfl
  have hsuccess : CanSend (redirect "/") := canSend_redirect (by decide) (by decide)
  have hfailure : ∀ code, CanSend (failureTarget (.text "/login") code >>= redirect) :=
    canSend_failureTarget (by decide)
  exact ⟨hcreate, decides_octocat, begins_newcomer, regular_loginOfOctocat,
    (hfirst _ _ hv rfl rfl rfl).1 _ _ (lastCallback_loginOfOctocat "/login") rfl,
    (hanswered _ _ hdenial rfl).2 hsuccess hfailure⟩

/-- A line break behind the address for failures: there is no reply when the user denies the next
login. That callback fails, and yet the first page still greets the user. -/
theorem first_page_after_denial :
    let site := oneUser octocat "/login\n"
    let h := site.runFrom newcomer loginOfOctocat
    create { login := { failureUrl := .text "/login\n" }, registrations := [.ofId "acme"] } true none
        (admitting octocat) false none = .ok site ∧
      (∃ c result, denial.callback = .ok c ∧ site.filter.requiresAuthentication c = true ∧
        ((site.filter.attempt c).runOn h).1 = .ok result ∧ result.success? = none) ∧
      (site.respond { path := "/" } (site.respond denial h).2).1 =
        .ok { json := some (Value.record [("authenticated", .bool true),
          ("authorities", .list [roleUser]), ("name", .text "octocat"),
          ("registration_id", .text "acme")]) } := by
  have hfails : ∀ h : Host Unit, ∃ c result, denial.callback = .ok c ∧
      (oneUser octocat "/login\n").filter.requiresAuthentication c = true ∧
      (((oneUser octocat "/login\n").filter.attempt c).runOn h).1 = .ok result ∧
      result.success? = none := fun _ => ⟨_, _, rfl, rfl, rfl, rfl⟩
  have hunsent : ∀ h : Host Unit,
      ((oneUser octocat "/login\n").respond denial h).1 = .error .targetBreak := fun _ => rfl
  have hcreate := create_oneUser octocat "/login\n"
  obtain ⟨s, hplain⟩ := plain_of_create hcreate
  have hfollows := follows_run hplain decides_octocat begins_newcomer regular_loginOfOctocat
  obtain ⟨name, hnamed, hshown⟩ := hfollows.present _ (lastCallback_loginOfOctocat "/login\n")
  obtain rfl : "octocat" = name := Except.ok.inj hnamed.name_eq
  intro site h
  obtain ⟨c, result, hdenied, hc, hresult, hnone⟩ := hfails h
  have hsame : (site.respond denial h).2.session = h.session := by
    obtain ⟨_, -, hserved⟩ := respond_callback hplain decides_octocat hfollows.fit
      hfollows.clock.offset_eq hdenied hc
    exact hserved.kept _ (hunsent h)
  have hsettled : Settled (site.respond denial h).2.session := by
    rw [hsame]
    exact hfollows.fit.settled
  have hgreeted : Entries.text? (site.respond denial h).2.session principalKey =
      some (shown ⟨octocat, [roleUser], .text "acme"⟩ "octocat") := by
    rw [hsame]
    exact hshown
  have hv : Visit.callback { path := "/" } = .ok { path := "/" } := rfl
  exact ⟨hcreate, ⟨c, result, hdenied, hc, hresult, hnone⟩,
    respond_index hsettled hv rfl rfl rfl (json_index_of_shown hgreeted _)⟩

end Site

end LoginCallback
