import LoginCallback.Proofs.Engine.Credentials
import LoginCallback.Proofs.Text.Words

/-!
# What becomes of an answer to a code

Every outcome of the request that sends a code is of one class, and the class says what the exchange
of the code gives: a failure of the engine under the code of the class, or an access token with all
its fields (`Yields`). Main statement: `exchangeCode_classifies`.

A body that is nested too deeply is of a class of its own, which is no failure of the engine
(`nesting_escapes`).
-/

namespace LoginCallback

/-! ## Deep bodies -/

namespace Json

/-- More lists inside each other than may lie so cannot be read. -/
theorem readValue_replicate {depth fuel : Nat} (k : Nat) (h : 2 * depth < fuel) :
    readValue depth fuel (List.replicate (depth + 1 + k) '[') = .error (.tooDeep true) := by
  induction depth generalizing fuel with
  | zero =>
    obtain ⟨fuel, rfl⟩ : ∃ n, fuel = n + 1 := ⟨fuel - 1, by omega⟩
    rw [show 0 + 1 + k = k + 1 by omega, List.replicate_succ]
    rfl
  | succ depth ih =>
    obtain ⟨fuel, rfl⟩ : ∃ n, fuel = n + 2 := ⟨fuel - 2, by omega⟩
    have hinner := ih (by omega : 2 * depth < fuel)
    obtain ⟨cs, hcs⟩ : ∃ cs, List.replicate (depth + 1 + k) '[' = '[' :: cs :=
      ⟨_, by rw [show depth + 1 + k = depth + k + 1 by omega, List.replicate_succ]⟩
    have hskip : skip ('[' :: cs) = '[' :: cs := rfl
    rw [show depth + 1 + 1 + k = depth + 1 + k + 1 by omega, List.replicate_succ]
    rw [hcs] at hinner ⊢
    simp only [readValue, hskip, readItems]
    split
    · rename_i hclosed
      simp at hclosed
    · rw [hinner]
      rfl

theorem decode?_replicate (n : Nat) :
    decode? (List.replicate n 91) = some (List.replicate n '[') := by
  have hutf8 : (List.replicate n '[').flatMap Octets.ofChar = List.replicate n 91 := by
    induction n with
    | zero => rfl
    | succ n ih => rw [List.replicate_succ, List.flatMap_cons, ih]; rfl
  have hplain : decode? (List.replicate n 91) = Octets.toUtf8? true (List.replicate n 91) := by
    match n with
    | 0 | 1 | 2 | 3 | _ + 4 => rfl
  rw [hplain, ← hutf8, Octets.toUtf8?_flatMap_ofChar]

theorem readOctets_replicate [Platform] {n : Nat} (h : Platform.jsonDepth < n) :
    readOctets (List.replicate n 91) = .error (.tooDeep true) := by
  obtain ⟨k, rfl⟩ : ∃ k, n = Platform.jsonDepth + 1 + k := ⟨n - (Platform.jsonDepth + 1), by omega⟩
  have hskip : skip (List.replicate (Platform.jsonDepth + 1 + k) '[') =
      List.replicate (Platform.jsonDepth + 1 + k) '[' := by
    rw [show Platform.jsonDepth + 1 + k = Platform.jsonDepth + k + 1 by omega, List.replicate_succ]
    rfl
  unfold readOctets read
  rw [decode?_replicate]
  show (readValue Platform.jsonDepth _
    (skip (List.replicate (Platform.jsonDepth + 1 + k) '[')) >>= _) = _
  rw [hskip, readValue_replicate k (by simp; omega)]
  rfl

end Json

namespace TokenReply

open LoginCallback.Http

/-! ## Bodies -/

section

variable [Platform]

/-- The fields that a body holds: those of its object, or none if it is no object. -/
inductive Body (reply : Reply) : Entries → Prop where
  | object {fields : Entries} (h : Json.readOctets reply.body = .ok (.mapping fields)) :
      Body reply fields
  | other {v : Value} (h : Json.readOctets reply.body = .ok v) (hv : ∀ fields, v ≠ .mapping fields) :
      Body reply []
  | noJson (h : Json.readOctets reply.body = .error .malformed) : Body reply []

theorem Body.object? {reply : Reply} {fields : Entries} (h : Body reply fields) :
    ∃ fields?, reply.object? = .ok fields? ∧ fields?.getD [] = fields := by
  unfold Reply.object?
  cases h with
  | object h => exact ⟨some fields, by rw [h], rfl⟩
  | noJson h => exact ⟨none, by rw [h], rfl⟩
  | @other v h hv =>
    refine ⟨none, ?_, rfl⟩
    rw [h]
    cases v with
    | mapping fields => exact absurd rfl (hv fields)
    | _ => rfl

/-- The fields that grant a token are those of the body. -/
theorem Body.eq_of_grants {reply : Reply} {fields given : Entries} (h : Body reply fields)
    (hg : Grants reply given) : fields = given := by
  obtain ⟨fields?, hobject, rfl⟩ := h.object?
  obtain rfl := Except.ok.inj (hobject.symm.trans hg.object)
  rfl

/-- A body holds fields, or is nested too deeply to be read. -/
theorem exists_body (reply : Reply) : (∃ fields, Body reply fields) ∨
    ∃ inList, Json.readOctets reply.body = .error (.tooDeep inList) := by
  cases h : Json.readOctets reply.body with
  | error e =>
    cases e with
    | malformed => exact Or.inl ⟨[], .noJson h⟩
    | tooDeep inList => exact Or.inr ⟨inList, rfl⟩
  | ok v =>
    cases v with
    | mapping fields => exact Or.inl ⟨fields, .object h⟩
    | _ => exact Or.inl ⟨[], .other h fun _ hv => by cases hv⟩

end

/-! ## Lifetimes -/

/-- The reading of a clock in microseconds lies in the calendar. -/
def InCalendar (ticks : Int) : Prop := 0 ≤ ticks ∧ ticks < Time.Moment.endTicks

instance (ticks : Int) : Decidable (InCalendar ticks) := inferInstanceAs (Decidable (_ ∧ _))

/-- When a token expires that is issued now: never, or exactly a number of seconds later. -/
inductive Expires (now : Time.Moment) : Value → Option Time.Moment → Prop where
  | never : Expires now .null none
  | after {lifetime : Value} {n : Int} (hn : toInteger lifetime = .ok n)
      (hr : InCalendar (now.ticks + n * Time.microsPerSecond)) :
      Expires now lifetime (some { now with ticks := now.ticks + n * Time.microsPerSecond })

section

variable {now : Time.Moment} {lifetime : Value} {n : Int}

theorem expiry_of_toInteger (h : toInteger lifetime = .ok n) : expiry now lifetime = (do
    let d ← (Time.Duration.ofMicros (n * Time.microsPerSecond)).mapError .time
    return some (← (now.add d).mapError .time)) := by
  unfold expiry
  split
  · cases h
  · rw [h]

theorem expiry_of_invalid (hgiven : lifetime ≠ .null) (h : toInteger lifetime = .error .invalid) :
    expiry now lifetime = HttpEngine.fail FailureCode.invalidTokenResponse
      ("Invalid expires_in: " ++ lifetime.quoted) := by
  unfold expiry
  split
  · exact absurd rfl hgiven
  · rw [h]
    rfl

theorem expiry_of_infinite (h : toInteger lifetime = .error .infinite) :
    expiry now lifetime = .error (.time .infiniteSeconds) := by
  unfold expiry
  split
  · cases h
  · rw [h]

/-- Within the calendar no duration is too long. -/
theorem expiry_of_inCalendar (hnow : InCalendar now.ticks) (h : toInteger lifetime = .ok n)
    (hr : InCalendar (now.ticks + n * Time.microsPerSecond)) :
    expiry now lifetime = .ok (some { now with ticks := now.ticks + n * Time.microsPerSecond }) := by
  obtain ⟨hlow, hhigh⟩ := hnow
  obtain ⟨hlow', hhigh'⟩ := hr
  have hend : Time.Moment.endTicks = 3652059 * 86400000000 := rfl
  have hmicros : (Time.microsPerSecond : Int) = 1000000 := rfl
  have hday : (Time.microsPerDay : Int) = 86400000000 := rfl
  rw [hend] at hhigh hhigh'
  rw [hmicros] at hlow' hhigh'
  have hduration : Time.Duration.ofMicros (n * Time.microsPerSecond) =
      .ok ⟨n * Time.microsPerSecond⟩ := by
    unfold Time.Duration.ofMicros
    rw [hday, hmicros]
    dsimp only
    rw [if_neg, if_neg]
    · simp only [Bool.or_eq_true, decide_eq_true_eq]
      omega
    · simp only [Bool.or_eq_true, decide_eq_true_eq]
      omega
  have hmoment : now.add ⟨n * Time.microsPerSecond⟩ =
      .ok { now with ticks := now.ticks + n * Time.microsPerSecond } := by
    rcases now.add_cases ⟨n * Time.microsPerSecond⟩ with ⟨-, -, hok⟩ | ⟨hout, -⟩
    · exact hok
    · rw [hmicros, hend] at hout
      dsimp only at hout
      omega
  rw [expiry_of_toInteger h, hduration]
  show ((now.add ⟨n * Time.microsPerSecond⟩).mapError Fault.time >>= fun m => pure (some m)) = _
  rw [hmoment]
  rfl

theorem exists_expiry_fault (h : toInteger lifetime = .ok n)
    (hr : ¬ InCalendar (now.ticks + n * Time.microsPerSecond)) :
    ∃ fault, expiry now lifetime = .error (.time fault) := by
  rw [expiry_of_toInteger h]
  cases hd : Time.Duration.ofMicros (n * Time.microsPerSecond) with
  | error fault => exact ⟨fault, rfl⟩
  | ok d =>
    have hmicros : d.micros = n * Time.microsPerSecond := by
      unfold Time.Duration.ofMicros at hd
      dsimp only at hd
      split at hd
      · cases hd
      · split at hd
        · cases hd
        · rw [← Except.ok.inj hd]
    have hmoment : now.add d = .error .momentRange := by
      unfold InCalendar at hr
      rw [← hmicros] at hr
      rcases now.add_cases d with ⟨hnonneg, hlt, -⟩ | ⟨-, hfault⟩
      · exact absurd ⟨hnonneg, hlt⟩ hr
      · exact hfault
    refine ⟨.momentRange, ?_⟩
    show ((now.add d).mapError Fault.time >>= fun m => pure (some m)) = _
    rw [hmoment]
    rfl

theorem Expires.expiry_eq {expiresAt : Option Time.Moment} (hnow : InCalendar now.ticks)
    (h : Expires now lifetime expiresAt) : expiry now lifetime = .ok expiresAt := by
  cases h with
  | never => rfl
  | after hn hr => exact expiry_of_inCalendar hnow hn hr

/-- A token is expired exactly from so many seconds after its issue on. -/
theorem Expires.isExpired {token : AccessToken} (h : Expires now lifetime token.expiresAt)
    {clock : Time.Moment} (hclock : clock.offset = now.offset) :
    ∃ gone, token.isExpired clock = .ok gone ∧ (gone = true ↔
      ∃ n, toInteger lifetime = .ok n ∧ now.ticks + n * Time.microsPerSecond ≤ clock.ticks) := by
  unfold AccessToken.isExpired
  generalize token.expiresAt = expiresAt at h
  cases h with
  | never =>
    refine ⟨false, rfl, fun hgone => (by cases hgone), ?_⟩
    rintro ⟨n, hn, -⟩
    cases hn
  | @after lifetime n hn hr =>
    have hcompare : ({ now with ticks := now.ticks + n * Time.microsPerSecond } :
        Time.Moment).notAfter clock =
          .ok (decide (now.ticks + n * Time.microsPerSecond ≤ clock.ticks)) := by
      unfold Time.Moment.notAfter
      rw [hclock]
      cases now.offset with
      | none => rfl
      | some o =>
        dsimp only
        congr 2
        exact propext ⟨fun h => (by omega), fun h => (by omega)⟩
    refine ⟨decide (now.ticks + n * Time.microsPerSecond ≤ clock.ticks), ?_, ?_⟩
    · dsimp only
      rw [hcompare]
      rfl
    · rw [decide_eq_true_iff]
      refine ⟨fun hle => ⟨n, hn, hle⟩, ?_⟩
      rintro ⟨n', hn', hle⟩
      obtain rfl := Except.ok.inj (hn.symm.trans hn')
      exact hle

end

/-! ## Scopes -/

/-- Commas and blanks end a scope. -/
def endsScope (c : Char) : Bool := c == ',' || Text.isBlank c

/-- The scopes that are granted: those of a text, or, if there is none, those that were
requested. -/
inductive Scopes (requested : List Value) : Value → List Value → Prop where
  | listed {s : String} {ws : List (List Char)} (h : Text.Runs endsScope s.toList ws) :
      Scopes requested (.text s) (ws.map fun w => .text (String.ofList w))
  | notListed {v : Value} (h : ∀ s, v ≠ .text s) : Scopes requested v requested

/-- The scopes of a text are its words. -/
theorem runs_scopes (cs : List Char) :
    Text.Runs endsScope cs (Text.words (cs.map fun c => if c == ',' then ' ' else c)) := by
  refine (Text.runs_words _).of_map rfl (fun c => ?_) fun c hc => ?_
  · unfold endsScope
    by_cases hcomma : c = ','
    · subst hcomma
      decide
    · simp [hcomma]
  · unfold endsScope at hc
    simp only [Bool.or_eq_false_iff] at hc
    simp [hc.1]

/-- The scopes that an access token is given. -/
def scopesFor (requested : List Value) : Value → List Value
  | .text s => scopesOf s
  | _ => requested

theorem scopes_iff {requested : List Value} {v : Value} {scopes : List Value} :
    Scopes requested v scopes ↔ scopes = scopesFor requested v := by
  constructor
  · intro h
    cases h with
    | listed h =>
      unfold scopesFor scopesOf
      rw [h.unique (runs_scopes _) rfl]
    | notListed h =>
      cases v with
      | text s => exact absurd rfl (h s)
      | _ => rfl
  · rintro rfl
    cases v with
    | text s => exact .listed (runs_scopes s.toList)
    | _ => exact .notListed fun s h => by cases h

/-- The access token that fields describe. -/
theorem accessToken_of_expiry {now : Time.Moment} {requested : List Value} {fields : Entries}
    {expiresAt : Option Time.Moment} (h : expiry now (fieldOf fields "expires_in") = .ok expiresAt) :
    accessToken now requested fields = .ok {
      tokenValue := fieldOf fields "access_token"
      tokenType := firstGiven (fieldOf fields "token_type") (.text "Bearer")
      issuedAt := some now
      expiresAt
      scopes := scopesFor requested (fieldOf fields "scope")
      refreshToken := fieldOf fields "refresh_token" } := by
  unfold accessToken
  rw [h]
  rfl

end TokenReply

namespace HttpEngine

open LoginCallback.Http
open LoginCallback.TokenReply
  (fieldOf firstGiven toInteger expiry Body Grants InCalendar Expires Scopes)

variable {τ : Type}

/-! ## Classes of outcomes -/

/-- What is said of a refusal: what the provider says, or the status. -/
def refusal (status : Int) (fields : Entries) : Value :=
  (Entries.text? fields "error_description").getD
    (.text ("Token request failed with status " ++ toString status))

theorem failure?_of_refused {status : Int} {fields : Entries}
    (h : (fieldOf fields "error").truthy = true ∨ status ≠ 200) :
    TokenReply.failure? status fields = some (.engine
      (.text (firstGiven (fieldOf fields "error") FailureCode.invalidTokenResponse).display)
      (refusal status fields)) := by
  unfold TokenReply.failure?
  exact if_pos (by simpa using h)

section

variable [Platform]

/-- What the exchange of a code gives, by the outcome of the request that sends it. -/
inductive Yields (now : Time.Moment) (requested : List Value) :
    Except Fault Reply → Except Fault AccessToken → Prop where
  | timeout {name m : String} : Yields now requested (.error (.transport (.timeout name) m))
      (fail FailureCode.tokenEndpointTimeout ("Token request timed out: " ++ m))
  | noAnswer {name m : String} : Yields now requested (.error (.transport (.other name) m))
      (fail FailureCode.invalidTokenResponse ("HTTP error during token exchange: " ++ m))
  /-- Faults of other parts than the transport are passed on. -/
  | passedOn {e : Fault} (he : ∀ kind m, e ≠ .transport kind m) :
      Yields now requested (.error e) (.error e)
  | tooDeep {reply : Reply} {inList : Bool}
      (h : Json.readOctets reply.body = .error (.tooDeep inList)) :
      Yields now requested (.ok reply) (.error (.jsonDepth inList))
  /-- An error that the provider reports, whatever the status. -/
  | reported {reply : Reply} {fields : Entries} (hb : Body reply fields)
      (he : (fieldOf fields "error").truthy = true) :
      Yields now requested (.ok reply) (.error (.failure (.engine
        (.text (fieldOf fields "error").display) (refusal reply.status fields))))
  | refused {reply : Reply} {fields : Entries} (hb : Body reply fields)
      (he : (fieldOf fields "error").truthy = false) (hs : reply.status ≠ 200) :
      Yields now requested (.ok reply) (.error (.failure (.engine
        FailureCode.invalidTokenResponse (refusal reply.status fields))))
  | noToken {reply : Reply} {fields : Entries} (hb : Body reply fields)
      (he : (fieldOf fields "error").truthy = false) (hs : reply.status = 200)
      (ht : (fieldOf fields "access_token").truthy = false) :
      Yields now requested (.ok reply)
        (fail FailureCode.invalidTokenResponse "Token response did not contain an access_token")
  | badLifetime {reply : Reply} {fields : Entries} (hg : Grants reply fields)
      (hx : fieldOf fields "expires_in" ≠ .null)
      (hn : toInteger (fieldOf fields "expires_in") = .error .invalid) :
      Yields now requested (.ok reply) (fail FailureCode.invalidTokenResponse
        ("Invalid expires_in: " ++ (fieldOf fields "expires_in").quoted))
  | endless {reply : Reply} {fields : Entries} (hg : Grants reply fields)
      (hn : toInteger (fieldOf fields "expires_in") = .error .infinite) :
      Yields now requested (.ok reply) (.error (.time .infiniteSeconds))
  | beyond {reply : Reply} {fields : Entries} {n : Int} {fault : Time.Fault}
      (hg : Grants reply fields) (hn : toInteger (fieldOf fields "expires_in") = .ok n)
      (hr : ¬ InCalendar (now.ticks + n * Time.microsPerSecond))
      (hx : expiry now (fieldOf fields "expires_in") = .error (.time fault)) :
      Yields now requested (.ok reply) (.error (.time fault))
  | granted {reply : Reply} {fields : Entries} {expiresAt : Option Time.Moment}
      {scopes : List Value} (hg : Grants reply fields)
      (hx : Expires now (fieldOf fields "expires_in") expiresAt)
      (hs : Scopes requested (fieldOf fields "scope") scopes) :
      Yields now requested (.ok reply) (.ok {
        tokenValue := fieldOf fields "access_token"
        tokenType := firstGiven (fieldOf fields "token_type") (.text "Bearer")
        issuedAt := some now
        expiresAt
        scopes
        refreshToken := fieldOf fields "refresh_token" })

section

variable {now : Time.Moment} {requested : List Value} {outcome : Except Fault Reply}

theorem read_of_body {reply : Reply} {fields : Entries} (h : Body reply fields) :
    TokenReply.read now requested reply = match TokenReply.failure? reply.status fields with
      | some f => .error (.failure f)
      | none => TokenReply.accessToken now requested fields := by
  obtain ⟨fields?, hobject, rfl⟩ := h.object?
  exact TokenReply.read_of_object hobject

/-- What is read from an outcome is what its class says. -/
theorem Yields.answered_eq {x : Except Fault AccessToken} (hnow : InCalendar now.ticks)
    (h : Yields now requested outcome x) :
    answered tokenFault (TokenReply.read now requested) outcome = x := by
  cases h with
  | timeout => rfl
  | noAnswer => rfl
  | @passedOn e he =>
    cases e with
    | transport kind m => exact absurd rfl (he kind m)
    | _ => rfl
  | @tooDeep reply inList h =>
    exact bind_eq_error.2 (Or.inl (Reply.object?_eq_error.2 ⟨inList, h, rfl⟩))
  | reported hb he =>
    show TokenReply.read now requested _ = _
    rw [read_of_body hb, failure?_of_refused (Or.inl he), firstGiven, if_pos he]
  | refused hb he hs =>
    show TokenReply.read now requested _ = _
    rw [read_of_body hb, failure?_of_refused (Or.inr hs), firstGiven, if_neg (by simp [he])]
    rfl
  | noToken hb he hs ht =>
    show TokenReply.read now requested _ = _
    rw [read_of_body hb]
    simp [TokenReply.failure?, he, hs, ht, fail]
  | badLifetime hg hx hn =>
    show TokenReply.read now requested _ = _
    rw [hg.read_eq]
    exact TokenReply.accessToken_eq_error.2 (TokenReply.expiry_of_invalid hx hn)
  | endless hg hn =>
    show TokenReply.read now requested _ = _
    rw [hg.read_eq]
    exact TokenReply.accessToken_eq_error.2 (TokenReply.expiry_of_infinite hn)
  | beyond hg hn hr hx =>
    show TokenReply.read now requested _ = _
    rw [hg.read_eq]
    exact TokenReply.accessToken_eq_error.2 hx
  | granted hg hx hs =>
    show TokenReply.read now requested _ = _
    rw [hg.read_eq, TokenReply.accessToken_of_expiry (hx.expiry_eq hnow),
      TokenReply.scopes_iff.1 hs]

/-- A reply that grants a token yields one, unless its lifetime cannot be counted. -/
theorem exists_yields_of_grants {reply : Reply} {fields : Entries} (hg : Grants reply fields) :
    ∃ x, Yields now requested (.ok reply) x := by
  have hscopes : Scopes requested (fieldOf fields "scope")
      (TokenReply.scopesFor requested (fieldOf fields "scope")) := TokenReply.scopes_iff.2 rfl
  cases hn : toInteger (fieldOf fields "expires_in") with
  | ok n =>
    by_cases hr : InCalendar (now.ticks + n * Time.microsPerSecond)
    · exact ⟨_, .granted hg (.after hn hr) hscopes⟩
    · obtain ⟨fault, hx⟩ := TokenReply.exists_expiry_fault hn hr
      exact ⟨_, .beyond hg hn hr hx⟩
  | error e =>
    cases e with
    | infinite => exact ⟨_, .endless hg hn⟩
    | invalid =>
      by_cases hx : fieldOf fields "expires_in" = .null
      · have hnever : Expires now (fieldOf fields "expires_in") none := by
          rw [hx]
          exact .never
        exact ⟨_, .granted hg hnever hscopes⟩
      · exact ⟨_, .badLifetime hg hx hn⟩

/-- Every outcome is of a class. -/
theorem exists_yields (outcome : Except Fault Reply) : ∃ x, Yields now requested outcome x := by
  cases outcome with
  | error e =>
    cases e with
    | transport kind m =>
      cases kind with
      | timeout name => exact ⟨_, .timeout⟩
      | other name => exact ⟨_, .noAnswer⟩
    | _ => exact ⟨_, .passedOn fun _ _ he => by cases he⟩
  | ok reply =>
    rcases TokenReply.exists_body reply with ⟨fields, hb⟩ | ⟨inList, hdeep⟩
    · cases he : (fieldOf fields "error").truthy with
      | true => exact ⟨_, .reported hb he⟩
      | false =>
        by_cases hs : reply.status = 200
        · cases ht : (fieldOf fields "access_token").truthy with
          | false => exact ⟨_, .noToken hb he hs ht⟩
          | true =>
            obtain ⟨fields?, hobject, hfields⟩ := hb.object?
            subst hfields
            obtain ⟨given, rfl, hg⟩ := TokenReply.grants_of_failure? hobject
              (TokenReply.failure?_eq_none.2 ⟨hs, he, ht⟩)
            exact exists_yields_of_grants hg
        · exact ⟨_, .refused hb he hs⟩
    · exact ⟨_, .tooDeep hdeep⟩

theorem answered_eq_iff_yields (hnow : InCalendar now.ticks) {x : Except Fault AccessToken} :
    answered tokenFault (TokenReply.read now requested) outcome = x ↔
      Yields now requested outcome x := by
  constructor
  · rintro rfl
    obtain ⟨x, hx⟩ : ∃ x, Yields now requested outcome x := exists_yields outcome
    rw [hx.answered_eq hnow]
    exact hx
  · exact fun h => h.answered_eq hnow

end

/-! ## The exchange of the code -/

/-- The exchange of a code makes of its one request what can be read from the outcome. -/
theorem exchangeCode_fst (p : Provider τ) (now : Time.Moment) {r : Registration} {code : String}
    {redirectUri : Value} (requested : List Value) {d : Draft}
    (hd : tokenRequest r code redirectUri = .ok d) (w : Wire τ) :
    ((exchangeCode p now r code redirectUri requested).runOn w).1 =
      answered tokenFault (TokenReply.read now requested) ((send p now d).runOn w).1 := by
  unfold exchangeCode
  rw [hd, Action.runOn_bind, Action.runOn_lift]
  dsimp only
  rw [Action.runOn_bind, Action.runOn_outcome]
  cases ((send p now d).runOn w).1 <;> rfl

/-- The exchange of a code gives what the class of the outcome of its request says. A token that it
gives is expired exactly from the number of seconds after its issue on that the reply names. -/
theorem exchangeCode_classifies (p : Provider τ) (now : Time.Moment) (r : Registration)
    {name : String} {secret : Option String} (h : r.Identified name secret)
    (hnow : InCalendar now.ticks) (code redirectUri : String) (requested : List Value) :
    ∃ d, tokenRequest r code (.text redirectUri) = .ok d ∧ ∀ w : Wire τ,
      let outcome := ((send p now d).runOn w).1
      let result := ((exchangeCode p now r code (.text redirectUri) requested).runOn w).1
      (∀ x, result = x ↔ Yields now requested outcome x) ∧
      ∀ reply fields token clock, outcome = .ok reply → Body reply fields → result = .ok token →
        clock.offset = now.offset →
        ∃ gone, token.isExpired clock = .ok gone ∧ (gone = true ↔
          ∃ n, toInteger (fieldOf fields "expires_in") = .ok n ∧
            now.ticks + n * Time.microsPerSecond ≤ clock.ticks) := by
  obtain ⟨d, hd⟩ := tokenRequest_of_identified h code (.text redirectUri)
  refine ⟨d, hd, fun w => ?_⟩
  intro outcome result
  have hresult : ∀ x, result = x ↔ Yields now requested outcome x := by
    intro x
    show ((exchangeCode p now r code (.text redirectUri) requested).runOn w).1 = x ↔ _
    rw [exchangeCode_fst p now requested hd]
    exact answered_eq_iff_yields hnow
  refine ⟨hresult, fun reply fields token clock hreply hb htoken hclock => ?_⟩
  have hyields := (hresult (.ok token)).1 htoken
  rw [hreply] at hyields
  cases hyields with
  | granted hg hx hs =>
    rw [hb.eq_of_grants hg]
    exact hx.isExpired hclock

end

/-- A token for one minute, with scopes between commas and blanks. -/
theorem exchangeCode_classifies_granted :
    let provider := answering
      "\x7b\"access_token\": \"T\", \"expires_in\": 60, \"scope\": \" a,b  c\"\x7d" ""
    let now : Time.Moment := ⟨63839664000000000, some 0⟩
    let result := ((exchangeCode provider now (.ofId "acme") "C" (.text "http://localhost/") []).runOn
      { provider := () }).1
    ∃ reply fields token, Grants reply fields ∧ result = .ok token ∧
      token.tokenValue = fieldOf fields "access_token" ∧
      Expires now (fieldOf fields "expires_in") token.expiresAt ∧
      Scopes [] (fieldOf fields "scope") token.scopes := by
  intro provider now result
  have hidentified : (Registration.ofId "acme").Identified "client" none := ⟨rfl, rfl⟩
  obtain ⟨d, -, hclassifies⟩ := exchangeCode_classifies provider now (.ofId "acme") hidentified
    (by decide) "C" "http://localhost/" []
  have hyields := ((hclassifies { provider := () }).1 result).1 rfl
  have hok : result.isOk = true := by decide +kernel
  cases hresult : result with
  | error e =>
    rw [hresult] at hok
    cases hok
  | ok token =>
    rw [hresult] at hyields
    generalize ((send provider now d).runOn { provider := () }).1 = outcome at hyields
    cases hyields with
    | granted hg hx hs => exact ⟨_, _, _, hg, rfl, rfl, hx, hs⟩

/-- The exchange of a code with a provider that always gives the same reply. -/
theorem exchangeCode_constant {reply : Reply} (hs : reply.status = 200)
    {x : Except Fault AccessToken} {now : Time.Moment} (hnow : InCalendar now.ticks)
    (hx : Yields now [] (.ok reply) x) :
    ((exchangeCode (fun _ => pure reply) now (.ofId "acme") "C" (.text "http://localhost/") []).runOn
      { provider := () }).1 = x := by
  have hidentified : (Registration.ofId "acme").Identified "client" none := ⟨rfl, rfl⟩
  obtain ⟨d, hd⟩ := tokenRequest_of_identified hidentified "C" (.text "http://localhost/")
  obtain ⟨-, haddress, hheaders, -⟩ := tokenRequest_eq_ok hd
  have hh : Draft.checkHeaders d.headers = .ok () := by
    rw [hheaders]
    rfl
  have hread : (Draft.readAddress d.address).isOk = true := by
    rw [haddress]
    decide +kernel
  rw [exchangeCode_fst _ _ _ hd]
  cases ha : Draft.readAddress d.address with
  | error e =>
    rw [ha] at hread
    cases hread
  | ok a =>
    rw [send_fst _ _ _ ha hh]
    show answered tokenFault _ (received a (.ok reply)) = x
    rw [received_of_status hs]
    exact hx.answered_eq hnow

/-- A body that is no object, but nested so deeply that the exchange of the code is left by a fault
that is no failure of the engine. -/
theorem nesting_escapes :
    let provider : Provider Unit := fun _ =>
      pure { status := 200, body := List.replicate 2000 91 }
    ∃ e, ((exchangeCode provider ⟨63839664000000000, some 0⟩ (.ofId "acme") "C"
        (.text "http://localhost/") []).runOn { provider := () }).1 = .error e ∧
      ¬ e.IsEngineFailure := by
  have hdeep := Json.readOctets_replicate (show Platform.jsonDepth < 2000 by decide)
  refine ⟨.jsonDepth true, ?_, by simp [Fault.IsEngineFailure]⟩
  exact exchangeCode_constant rfl (by decide) (.tooDeep hdeep)

end HttpEngine

end LoginCallback
