import LoginCallback.Settings.Config

/-!
# Registrations that were made

A registration can be made exactly if its identifiers and its name are given (`made_iff`). What is
written of such a registration describes it again, without its secret
(`readRegistration_toValue`), and whatever a configuration describes was made
(`made_of_readRegistration`).
-/

namespace LoginCallback

namespace ClientAuthentication

theorem ofValue_name (m : ClientAuthentication) : ofValue (.text m.name) = .ok m := by
  cases m <;> rfl

end ClientAuthentication

namespace Registration

/-- The registration was made from some draft. -/
def Made (r : Registration) : Prop := ∃ d, ofDraft d = .ok r

/-- The registration without its secret. -/
def withoutSecret (r : Registration) : Registration := { r with clientSecret := .null }

/-- The registration that a draft describes, with its scopes and its proof method read. -/
def ofChecked (d : Draft) (scopes : List Value) (m : ClientAuthentication) : Registration where
  id := d.id
  clientId := d.clientId
  clientSecret := d.clientSecret
  authentication := m
  grantType := d.grantType
  redirectTemplate := d.redirectTemplate
  scopes := scopes
  authorizationUri := d.authorizationUri
  tokenUri := d.tokenUri
  userInfoUri := d.userInfoUri
  userNameAttribute := d.userNameAttribute
  clientName := if d.clientName.truthy then d.clientName else d.id

/-- What is checked of a draft. -/
theorem ofDraft_eq_ok {d : Draft} {r : Registration} : ofDraft d = .ok r ↔
    d.id.truthy = true ∧ d.clientId.truthy = true ∧ ∃ scopes m, d.scopes.items = .ok scopes ∧
      ClientAuthentication.ofValue d.authentication = .ok m ∧ ofChecked d scopes m = r := by
  unfold ofDraft
  cases d.id.truthy with
  | false => simp [throw, throwThe, MonadExceptOf.throw, bind, Except.bind]
  | true =>
    cases d.clientId.truthy with
    | false => simp [throw, throwThe, MonadExceptOf.throw, bind, Except.bind]
    | true =>
      cases d.scopes.items with
      | error e => simp [ofValue, bind, Except.bind]
      | ok scopes =>
        cases ClientAuthentication.ofValue d.authentication with
        | error e => simp [ofValue, bind, Except.bind]
        | ok m => simp [ofValue, bind, Except.bind, pure, Except.pure, ofChecked]

/-- The draft of a registration. -/
def toDraft (r : Registration) : Draft where
  id := r.id
  clientId := r.clientId
  clientSecret := r.clientSecret
  authentication := .text r.authentication.name
  grantType := r.grantType
  redirectTemplate := r.redirectTemplate
  scopes := .list r.scopes
  authorizationUri := r.authorizationUri
  tokenUri := r.tokenUri
  userInfoUri := r.userInfoUri
  userNameAttribute := r.userNameAttribute
  clientName := r.clientName

/-- A registration is made again from its own fields. -/
theorem ofDraft_toDraft {r : Registration} (hid : r.id.truthy = true)
    (hclient : r.clientId.truthy = true) (hname : r.clientName.truthy = true) :
    ofDraft r.toDraft = .ok r := by
  refine ofDraft_eq_ok.2 ⟨hid, hclient, r.scopes, r.authentication, rfl,
    ClientAuthentication.ofValue_name _, ?_⟩
  simp [ofChecked, toDraft, hname]

/-- A registration was made if its identifiers and its name are given. -/
theorem made_iff {r : Registration} : r.Made ↔
    r.id.truthy = true ∧ r.clientId.truthy = true ∧ r.clientName.truthy = true := by
  constructor
  · rintro ⟨d, hd⟩
    obtain ⟨hid, hclient, scopes, m, -, -, rfl⟩ := ofDraft_eq_ok.1 hd
    refine ⟨hid, hclient, ?_⟩
    show (if d.clientName.truthy then d.clientName else d.id).truthy = true
    split
    · assumption
    · exact hid
  · rintro ⟨hid, hclient, hname⟩
    exact ⟨r.toDraft, ofDraft_toDraft hid hclient hname⟩

/-- The secret does not matter. -/
theorem Made.withSecret {r : Registration} (h : r.Made) (secret : Value) :
    Made { r with clientSecret := secret } :=
  made_iff.2 (by simpa using made_iff.1 h)

end Registration

namespace LoginConfig

open Registration

@[simp] theorem report_eq_ok {α : Type} {name : Value} {x : Except Fault α} {a : α} :
    report name x = .ok a ↔ x = .ok a := by
  unfold report
  split
  · split <;> simp
  · exact Iff.rfl

/-- What is written of a registration describes it, without its secret. -/
theorem readRegistration_toValue {r : Registration} (h : r.Made) :
    readRegistration r.toValue = .ok r.withoutSecret := by
  obtain ⟨hid, hclient, hname⟩ := made_iff.1 h
  have hentries : readRegistration r.toValue = report r.id (ofDraft r.withoutSecret.toDraft) := rfl
  rw [hentries, report_eq_ok]
  exact ofDraft_toDraft hid hclient hname

theorem made_of_ofEntries {es : Entries} {r : Registration} (h : ofEntries es = .ok r) :
    r.Made := by
  obtain ⟨id, -, h⟩ := bind_eq_ok.1 h
  obtain ⟨clientId, -, h⟩ := bind_eq_ok.1 h
  obtain ⟨scopes, -, h⟩ := bind_eq_ok.1 h
  exact ⟨_, h⟩

theorem made_of_register {p : Preset} {id clientId secret : Value} {es : Entries}
    {r : Registration} (h : p.register id clientId secret es = .ok r) : r.Made := by
  obtain ⟨-, -, h⟩ := bind_eq_ok.1 h
  dsimp only at h
  split at h
  · obtain ⟨endpoints, -, h⟩ := bind_eq_ok.1 h
    obtain ⟨above, -, h⟩ := bind_eq_ok.1 h
    obtain ⟨d, -, h⟩ := bind_eq_ok.1 h
    exact ⟨d, h⟩
  · obtain ⟨above, -, h⟩ := bind_eq_ok.1 h
    obtain ⟨d, -, h⟩ := bind_eq_ok.1 h
    exact ⟨d, h⟩

theorem made_of_readPreset {provider : Value} {es : Entries} {r : Registration}
    (h : readPreset provider es = .ok r) : r.Made := by
  obtain ⟨word, -, h⟩ := bind_eq_ok.1 h
  obtain ⟨preset, -, h⟩ := bind_eq_ok.1 h
  have h := report_eq_ok.1 h
  split at h
  · cases h
  · dsimp only at h
    split at h
    · obtain ⟨scopes, -, h⟩ := bind_eq_ok.1 h
      exact made_of_register h
    · exact made_of_register h

/-- Whatever an entry of a configuration describes was made. -/
theorem made_of_readRegistration {v : Value} {r : Registration}
    (h : readRegistration v = .ok r) : r.Made := by
  obtain ⟨es, -, h⟩ := bind_eq_ok.1 h
  dsimp only at h
  split at h
  · exact made_of_ofEntries (report_eq_ok.1 h)
  · exact made_of_readPreset h

end LoginConfig

end LoginCallback
