import LoginCallback.Proofs.Registration.Precedence
import LoginCallback.Settings.Config

/-!
# Entries of a configuration that name a preset

An entry that names a preset is made into a registration as if the preset had been given its other
fields (`readRegistration_preset_eq_ok`). What is refused is reported as a fault of the
configuration, but for a domain of Okta that is neither null nor a text
(`configuration_or_misreads`). Main statement: `register_precedence`.
-/

namespace LoginCallback

open LoginConfig Entries

/-! ## Faults of registrations -/

theorem Value.category_of_items {v : Value} {f : Value.Fault} (h : v.items = .error f) :
    f.category = .kind := by
  cases v with
  | list | text | mapping => cases h
  | null | bool | int | float | foreign =>
    obtain rfl := Except.error.inj h
    rfl

namespace Registration

theorem reported_of_items {v : Value} {f : Value.Fault} (h : v.items = .error f) :
    isReported (Fault.value f).category = true := by
  show isReported f.category = true
  rw [Value.category_of_items h]
  rfl

theorem reported_of_ofDraft {d : Draft} {e : Fault} (h : ofDraft d = .error e) :
    isReported e.category = true := by
  unfold ofDraft at h
  cases hid : d.id.truthy with
  | false =>
    rw [hid] at h
    obtain rfl := Except.error.inj h
    rfl
  | true =>
    cases hclient : d.clientId.truthy with
    | false =>
      rw [hid, hclient] at h
      obtain rfl := Except.error.inj h
      rfl
    | true =>
      rw [hid, hclient] at h
      rcases bind_eq_error.1 h with h | ⟨scopes, -, h⟩
      · obtain ⟨f, hf, rfl⟩ := mapError_eq_error.1 h
        exact reported_of_items hf
      · rcases bind_eq_error.1 h with h | ⟨m, -, h⟩
        · unfold ClientAuthentication.ofValue at h
          split at h
          · split at h
            · cases h
            · obtain rfl := Except.error.inj h
              rfl
          · obtain rfl := Except.error.inj h
            rfl
        · cases h

end Registration

namespace Preset

variable {p : Preset} {id clientId clientSecret : Value} {given : Entries} {e : Fault}

/-! ## Domains that are misused -/

/-- A domain of Okta is given that is neither null nor a text, and the fault it leads to. -/
def MisusesDomain (p : Preset) (given : Entries) (e : Fault) : Prop :=
  p = .okta ∧ ∃ d, text? given "okta_domain" = some d ∧ d ≠ .null ∧ d.isText = false ∧
    e = .value (.noMember d.kind "removeprefix")

theorem DomainFits.not_misuses (h : p.DomainFits given) : ¬ p.MisusesDomain given e := by
  rintro ⟨hp, d, hd, hnull, htext, -⟩
  rcases h hp d hd with rfl | htext'
  · exact hnull rfl
  · rw [htext'] at htext
    cases htext

theorem endpoints_of_misuses (h : p.MisusesDomain given e) : p.endpoints given = .error e := by
  obtain ⟨rfl, d, hd, hnull, htext, rfl⟩ := h
  unfold endpoints domainEndpoints
  rw [if_pos rfl, hd]
  cases d with
  | null => exact absurd rfl hnull
  | text => cases htext
  | bool | int | float | list | mapping | foreign => rfl

theorem domainRequired_of_null (h : domainEndpoints .null given = .error e) :
    e = .domainRequired := by
  unfold domainEndpoints at h
  dsimp only at h
  split at h
  · cases h
  · exact (Except.error.inj h).symm

theorem endpoints_eq_error (h : p.endpoints given = .error e) :
    e = .domainRequired ∨ p.MisusesDomain given e := by
  unfold endpoints at h
  split at h
  · rename_i hp
    cases hd : text? given "okta_domain" with
    | none =>
      rw [hd] at h
      exact Or.inl (domainRequired_of_null h)
    | some d =>
      rw [hd] at h
      cases d with
      | null => exact Or.inl (domainRequired_of_null h)
      | text => cases h
      | bool | int | float | list | mapping | foreign =>
        exact Or.inr ⟨hp, _, hd, Value.noConfusion, rfl, (Except.error.inj h).symm⟩
  · cases h

theorem setFields_eq_error {d : Registration.Draft} {es : Entries}
    (h : setFields d es = .error e) : ∃ f, e = .arguments f := by
  induction es generalizing d with
  | nil => cases h
  | cons entry es ih =>
    obtain ⟨key, v⟩ := entry
    cases key with
    | text n =>
      rw [setFields] at h
      split at h
      · exact ih h
      · exact ⟨_, (Except.error.inj h).symm⟩
    | null | bool | int | float | list | mapping | foreign => exact ⟨_, (Except.error.inj h).symm⟩

/-- What a registration is refused with is reported, but for a misused domain. -/
theorem reported_or_misuses (h : p.register id clientId clientSecret given = .error e) :
    isReported e.category = true ∨ checkNames given = .ok () ∧ p.MisusesDomain given e := by
  rw [register_eq] at h
  rcases bind_eq_error.1 h with h | ⟨_, hnames, h⟩
  · left
    rw [category_of_checkNames h]
    rfl
  rcases bind_eq_error.1 h with h | ⟨derived, -, h⟩
  · rcases endpoints_eq_error h with rfl | hmisuses
    · exact Or.inl rfl
    · exact Or.inr ⟨hnames, hmisuses⟩
  left
  rcases bind_eq_error.1 h with h | ⟨d, -, h⟩
  · obtain ⟨f, rfl⟩ := setFields_eq_error h
    rfl
  · exact Registration.reported_of_ofDraft h

theorem register_of_misuses (hnames : checkNames given = .ok ()) (h : p.MisusesDomain given e) :
    p.register id clientId clientSecret given = .error e := by
  rw [register_eq, hnames, endpoints_of_misuses h]
  rfl

theorem ofValue_name (p : Preset) : ofValue (.text p.name) = .ok p := by
  cases p <;> rfl

theorem name_of_ofValue {s : String} (h : ofValue (.text s) = .ok p) : s = p.name := by
  unfold ofValue at h
  dsimp only at h
  split at h
  · rename_i hfound
    rw [Except.ok.inj h] at hfound
    have hnamed : (p.name == s) = true := by simpa using List.find?_some hfound
    exact (eq_of_beq hnamed).symm
  · cases h

theorem reported_of_ofValue {v : Value} (h : ofValue v = .error e) :
    isReported e.category = true := by
  unfold ofValue at h
  split at h
  · split at h
    · cases h
    · obtain rfl := Except.error.inj h
      rfl
  · obtain rfl := Except.error.inj h
    rfl

end Preset

namespace LoginConfig

/-! ## Scopes that are read before -/

variable {p : Preset} {id clientId clientSecret : Value} {given es : Entries} {w : String}
  {r : Registration} {e : Fault}

/-- The fields with their scopes read. -/
def listScopes (es : Entries) : Except Fault Entries :=
  match text? es "scopes" with
  | some scopes => do return es.insert (.text "scopes") (.list (← ofValue scopes.items))
  | none => return es

theorem ofDraft_listScopes {d : Registration.Draft} {xs : List Value} (h : d.scopes.items = .ok xs) :
    Registration.ofDraft { d with scopes := .list xs } = Registration.ofDraft d := by
  unfold Registration.ofDraft
  dsimp only
  rw [h]
  rfl

theorem listScopes_eq_ok : listScopes es = .ok given ↔
    text? es "scopes" = none ∧ es = given ∨
      ∃ scopes xs, text? es "scopes" = some scopes ∧ scopes.items = .ok xs ∧
        es.insert (.text "scopes") (.list xs) = given := by
  unfold listScopes
  cases text? es "scopes" with
  | none => simp [pure, Except.pure]
  | some scopes =>
    dsimp only
    cases hitems : scopes.items <;> simp [hitems, ofValue, bind, Except.bind, pure, Except.pure]

theorem listScopes_eq_error : listScopes es = .error e ↔
    ∃ scopes f, text? es "scopes" = some scopes ∧ scopes.items = .error f ∧ .value f = e := by
  unfold listScopes
  cases text? es "scopes" with
  | none => simp [pure, Except.pure]
  | some scopes =>
    dsimp only
    cases hitems : scopes.items <;> simp [hitems, ofValue, bind, Except.bind, pure, Except.pure]

theorem reported_of_listScopes (h : listScopes es = .error e) : isReported e.category = true := by
  obtain ⟨scopes, f, -, hf, rfl⟩ := listScopes_eq_error.1 h
  exact Registration.reported_of_items hf

theorem text?_listScopes (h : listScopes es = .ok given) {n : String} (hn : n ≠ "scopes") :
    text? given n = text? es n := by
  rcases listScopes_eq_ok.1 h with ⟨-, rfl⟩ | ⟨scopes, xs, -, -, rfl⟩
  · rfl
  · exact text?_insert_of_ne es hn _

theorem mem_keys_listScopes (h : listScopes es = .ok given) {key : Value} :
    key ∈ keys given ↔ key ∈ keys es := by
  rcases listScopes_eq_ok.1 h with ⟨-, rfl⟩ | ⟨scopes, xs, hscopes, -, rfl⟩
  · exact Iff.rfl
  · exact mem_keys_insert_of_text? hscopes

theorem exists_listScopes : (∃ given, listScopes es = .ok given) ↔
    ∀ v, text? es "scopes" = some v → ∃ xs, v.items = .ok xs := by
  constructor
  · rintro ⟨given, h⟩ v hv
    rcases listScopes_eq_ok.1 h with ⟨hnone, -⟩ | ⟨scopes, xs, hscopes, hitems, -⟩
    · rw [hnone] at hv
      cases hv
    · rw [hscopes] at hv
      exact ⟨xs, Option.some.inj hv ▸ hitems⟩
  · intro h
    cases hlist : listScopes es with
    | ok given => exact ⟨given, rfl⟩
    | error e =>
      obtain ⟨scopes, f, hscopes, hitems, -⟩ := listScopes_eq_error.1 hlist
      obtain ⟨xs, hxs⟩ := h scopes hscopes
      rw [hitems] at hxs
      cases hxs

theorem ofFields_insert_scopes (xs : List Value) :
    Registration.Draft.ofFields id clientId clientSecret
        (p.valueOf (given.insert (.text "scopes") (.list xs))) =
      { Registration.Draft.ofFields id clientId clientSecret (p.valueOf given) with
        scopes := .list xs } := by
  have hvalues : ∀ n, p.valueOf (given.insert (.text "scopes") (.list xs)) n =
      if n = "scopes" then .list xs else p.valueOf given n := by
    intro n
    split
    · rename_i hn
      subst hn
      exact Preset.valueOf_of_given (text?_insert_self given "scopes" (.list xs))
    · rename_i hn
      exact Preset.valueOf_insert_of_ne hn (by decide) _
  rw [Registration.Draft.ofFields_congr fun n _ => hvalues n]
  rfl

/-- It makes no difference to a preset whether the scopes are read before. -/
theorem register_listScopes (hgiven : (keys given).Nodup) (hdomain : p.DomainFits given) :
    (listScopes given >>= p.register id clientId clientSecret) = .ok r ↔
      p.register id clientId clientSecret given = .ok r := by
  cases hlist : listScopes given with
  | error e =>
    obtain ⟨scopes, f, hscopes, hitems, -⟩ := listScopes_eq_error.1 hlist
    refine ⟨fun h => (by cases h), fun h => ?_⟩
    obtain ⟨-, -, xs, m, hxs, -⟩ :=
      Registration.ofDraft_eq_ok.1 ((Preset.register_eq_ok hgiven hdomain).1 h).2
    have hxs : (p.valueOf given "scopes").items = .ok xs := hxs
    rw [Preset.valueOf_of_given hscopes, hitems] at hxs
    cases hxs
  | ok listed =>
    show p.register id clientId clientSecret listed = _ ↔ _
    rcases listScopes_eq_ok.1 hlist with ⟨-, rfl⟩ | ⟨scopes, xs, hscopes, hitems, rfl⟩
    · exact Iff.rfl
    · have hfits : p.DomainFits (given.insert (.text "scopes") (.list xs)) := by
        unfold Preset.DomainFits
        rw [text?_insert_of_ne given (by decide)]
        exact hdomain
      have hdraft : (Registration.Draft.ofFields id clientId clientSecret
          (p.valueOf given)).scopes.items = .ok xs := by
        show (p.valueOf given "scopes").items = .ok xs
        rw [Preset.valueOf_of_given hscopes, hitems]
      rw [Preset.register_eq_ok (nodup_keys_insert hgiven _ _) hfits,
        Preset.register_eq_ok hgiven hdomain,
        Preset.refuses_insert hscopes (by decide) (by decide), ofFields_insert_scopes,
        ofDraft_listScopes hdraft]

/-! ## Entries -/

/-- Where an entry names its preset, its identifiers and its secret. -/
def readNames : List String := ["provider", "registration_id", "client_id", "client_secret"]

/-- What an entry says beside its preset, its identifiers and its secret. -/
def fieldsOf (es : Entries) : Entries :=
  (((es.erase (.text "provider")).erase (.text "registration_id")).erase
    (.text "client_id")).erase (.text "client_secret")

theorem text?_fieldsOf {n : String} (h : n ∉ readNames) : text? (fieldsOf es) n = text? es n := by
  simp only [readNames, List.mem_cons, List.not_mem_nil, or_false, not_or] at h
  obtain ⟨h₁, h₂, h₃, h₄⟩ := h
  unfold fieldsOf
  rw [text?_erase_of_ne _ h₄, text?_erase_of_ne _ h₃, text?_erase_of_ne _ h₂,
    text?_erase_of_ne _ h₁]

theorem mem_keys_fieldsOf {key : Value} :
    key ∈ keys (fieldsOf es) ↔ key ∈ keys es ∧ ∀ n ∈ readNames, key ≠ .text n := by
  unfold fieldsOf
  simp only [mem_keys_erase, readNames, List.forall_mem_cons, List.not_mem_nil, false_implies,
    implies_true, and_true, and_assoc]

theorem nodup_keys_fieldsOf (h : (keys es).Nodup) : (keys (fieldsOf es)).Nodup :=
  nodup_keys_erase (nodup_keys_erase (nodup_keys_erase (nodup_keys_erase h)))

theorem readRegistration_mapping (es : Entries) : readRegistration (.mapping es) =
    match (text? es "provider").getD .null with
    | .null => report ((text? (es.erase (.text "provider")) "registration_id").getD .null)
        (Registration.ofEntries (es.erase (.text "provider")))
    | provider => readPreset provider (es.erase (.text "provider")) := rfl

/-- How an entry is read that names a preset. -/
theorem readRegistration_preset (h : text? es "provider" = some (.text w)) :
    readRegistration (.mapping es) = (do
      let preset ← report ((text? es "registration_id").getD (.text w))
        (Preset.ofValue (.text (Text.lower w)))
      report (.text w) (match text? es "client_id" with
        | none => .error (.value (.missingKey (.text "client_id")))
        | some clientId => listScopes (fieldsOf es) >>=
          preset.register ((text? es "registration_id").getD (.text preset.name)) clientId
            ((text? es "client_secret").getD .null))) := by
  have hread : readRegistration (.mapping es) =
      readPreset (.text w) (es.erase (.text "provider")) := by
    rw [readRegistration_mapping, h]
    rfl
  have hkept : ∀ k : String, k ≠ "provider" → k ≠ "registration_id" →
      text? ((es.erase (.text "provider")).erase (.text "registration_id")) k = text? es k := by
    intro k hprovider hid
    rw [text?_erase_of_ne _ hid, text?_erase_of_ne _ hprovider]
  have hword : ofValue ((Value.text w).textFor "lower") = .ok w := rfl
  rw [hread]
  unfold readPreset
  rw [text?_erase_of_ne es (show "registration_id" ≠ "provider" by decide), hword]
  show (report _ _ >>= _) = (report _ _ >>= _)
  refine congrArg _ (funext fun preset => ?_)
  dsimp only
  rw [hkept "client_id" (by decide) (by decide), hkept "client_secret" (by decide) (by decide)]
  refine congrArg (report (.text w)) ?_
  cases text? es "client_id" with
  | none => rfl
  | some clientId =>
    unfold listScopes fieldsOf
    dsimp only
    cases text? ((((es.erase (.text "provider")).erase (.text "registration_id")).erase
        (.text "client_id")).erase (.text "client_secret")) "scopes" with
    | none => rfl
    | some scopes =>
      dsimp only
      cases scopes.items <;> rfl

/-- An entry that names a preset in any letter case is made into a registration as the preset makes
one of its other fields. -/
theorem readRegistration_preset_eq_ok (hset : (keys es).Nodup)
    (hprovider : text? es "provider" = some (.text w)) (hname : Text.lower w = p.name)
    (hdomain : p.DomainFits es) : readRegistration (.mapping es) = .ok r ↔
      ∃ clientId, text? es "client_id" = some clientId ∧
        p.register ((text? es "registration_id").getD (.text p.name)) clientId
          ((text? es "client_secret").getD .null) (fieldsOf es) = .ok r := by
  have hfits : p.DomainFits (fieldsOf es) := by
    unfold Preset.DomainFits
    rw [text?_fieldsOf (by decide)]
    exact hdomain
  rw [readRegistration_preset hprovider, hname, Preset.ofValue_name]
  show report (.text w) _ = _ ↔ _
  rw [report_eq_ok]
  cases text? es "client_id" with
  | none => simp
  | some clientId =>
    dsimp only
    rw [register_listScopes (nodup_keys_fieldsOf hset) hfits]
    simp

/-! ## What entries are refused with -/

/-- Faults that are not reported are left as they are. -/
theorem report_eq_error {α : Type} {name : Value} {x : Except Fault α} (h : report name x = .error e) :
    (∃ m, e = .configuration m) ∨ x = .error e ∧ isReported e.category = false := by
  unfold report at h
  split at h
  · split at h
    · exact Or.inl ⟨_, (Except.error.inj h).symm⟩
    · rename_i hreported
      obtain rfl := Except.error.inj h
      exact Or.inr ⟨rfl, Bool.eq_false_iff.2 hreported⟩
  · rename_i hok
    exact absurd h (hok e)

/-- An entry of Okta that can be read up to its domain, which is neither null nor a text. -/
structure MisreadsDomain (es : Entries) (e : Fault) : Prop where
  provider : ∃ w, text? es "provider" = some (.text w) ∧ Text.lower w = "okta"
  client : ∃ clientId, text? es "client_id" = some clientId
  scopes : ∀ v, text? es "scopes" = some v → ∃ xs, v.items = .ok xs
  names : ∀ key ∈ keys es, ∃ n, key = .text n ∧ n ≠ "self"
  domain : Preset.MisusesDomain .okta es e

theorem misuses_congr (h : text? given "okta_domain" = text? es "okta_domain") :
    p.MisusesDomain given e ↔ p.MisusesDomain es e := by
  unfold Preset.MisusesDomain
  rw [h]

/-- The names of an entry that a preset accepts. -/
theorem checkNames_listScopes (h : listScopes (fieldsOf es) = .ok given) :
    Preset.checkNames given = .ok () ↔ ∀ key ∈ keys es, ∃ n, key = .text n ∧ n ≠ "self" := by
  rw [Preset.checkNames_eq_ok]
  simp only [mem_keys_listScopes h, mem_keys_fieldsOf]
  constructor
  · intro hall key hkey
    by_cases hread : ∃ n ∈ readNames, key = .text n
    · obtain ⟨n, hn, rfl⟩ := hread
      exact ⟨n, rfl, by rintro rfl; revert hn; decide⟩
    · obtain ⟨n, rfl, hn⟩ := hall key ⟨hkey, fun n hn heq => hread ⟨n, hn, heq⟩⟩
      exact ⟨n, rfl, fun hself => hn (hself ▸ by decide)⟩
  · rintro hall key ⟨hkey, hread⟩
    obtain ⟨n, rfl, hn⟩ := hall key hkey
    refine ⟨n, rfl, fun hfixed => ?_⟩
    rcases List.mem_cons.1 hfixed with rfl | hfixed
    · exact hn rfl
    · exact hread n (List.mem_cons_of_mem _ hfixed) rfl

/-- What an entry that names a preset is refused with. -/
theorem configuration_or_misreads (hprovider : text? es "provider" = some (.text w))
    (h : readRegistration (.mapping es) = .error e) :
    (∃ m, e = .configuration m) ∨ MisreadsDomain es e := by
  rw [readRegistration_preset hprovider] at h
  rcases bind_eq_error.1 h with h | ⟨p, hp, h⟩
  · refine (report_eq_error h).imp_right fun ⟨h, hreported⟩ => ?_
    rw [Preset.reported_of_ofValue h] at hreported
    cases hreported
  refine (report_eq_error h).imp_right fun ⟨h, hreported⟩ => ?_
  have hname := Preset.name_of_ofValue (report_eq_ok.1 hp)
  cases hclient : text? es "client_id" with
  | none =>
    rw [hclient] at h
    obtain rfl := Except.error.inj h
    cases hreported
  | some clientId =>
    rw [hclient] at h
    rcases bind_eq_error.1 h with h | ⟨given, hgiven, h⟩
    · rw [reported_of_listScopes h] at hreported
      cases hreported
    · rcases Preset.reported_or_misuses h with hr | ⟨hnames, hmisuses⟩
      · rw [hr] at hreported
        cases hreported
      · obtain rfl := hmisuses.1
        refine ⟨⟨w, hprovider, hname⟩, ⟨clientId, hclient⟩, ?_,
          (checkNames_listScopes hgiven).1 hnames, (misuses_congr ?_).1 hmisuses⟩
        · have hscopes := exists_listScopes.1 ⟨given, hgiven⟩
          rwa [text?_fieldsOf (by decide)] at hscopes
        · rw [text?_listScopes hgiven (by decide), text?_fieldsOf (by decide)]

theorem readRegistration_of_misreads (h : MisreadsDomain es e) :
    readRegistration (.mapping es) = .error e := by
  obtain ⟨⟨w, hprovider, hname⟩, ⟨clientId, hclient⟩, hscopes, hnames, hdomain⟩ := h
  obtain ⟨given, hgiven⟩ : ∃ given, listScopes (fieldsOf es) = .ok given := by
    rw [exists_listScopes, text?_fieldsOf (by decide)]
    exact hscopes
  have hmisuses : Preset.MisusesDomain .okta given e := by
    refine (misuses_congr ?_).2 hdomain
    rw [text?_listScopes hgiven (by decide), text?_fieldsOf (by decide)]
  have hok : Preset.ofValue (.text (Text.lower w)) = .ok .okta := by
    rw [hname]
    rfl
  rw [readRegistration_preset hprovider, hok, hclient]
  show report (.text w) (listScopes (fieldsOf es) >>= _) = _
  rw [hgiven]
  show report (.text w) (Preset.register .okta _ _ _ given) = _
  rw [Preset.register_of_misuses ((checkNames_listScopes hgiven).2 hnames) hmisuses]
  obtain ⟨-, d, -, -, -, rfl⟩ := hdomain
  rfl

/-- An entry that names a preset is refused with a fault of the configuration. -/
theorem readRegistration_preset_eq_error (hprovider : text? es "provider" = some (.text w))
    (hname : Text.lower w = p.name) (hdomain : p.DomainFits es)
    (h : readRegistration (.mapping es) = .error e) : ∃ m, e = .configuration m := by
  refine (configuration_or_misreads hprovider h).resolve_right fun hmisreads => ?_
  obtain ⟨w', hprovider', hokta⟩ := hmisreads.provider
  rw [hprovider] at hprovider'
  obtain rfl := Value.text.inj (Option.some.inj hprovider')
  have hp : p = .okta := by
    rw [hname] at hokta
    cases p <;> first | rfl | exact absurd hokta (by decide)
  subst hp
  exact hdomain.not_misuses hmisreads.domain

end LoginConfig

namespace Preset

/-- Presets obey one precedence. A registration is made from the values of its fields, with its
scopes and its method read and its identifier for an empty name; it is refused if what is given is,
or the registration with these values. However the host of a domain is spelled, it leads to the same
registration. (The scheme alone is no host: with slashes behind it, it begins an address.) An entry
of a configuration that names a preset, in any letter case, is made into the registration that the
preset makes of its other fields. -/
theorem register_precedence :
    (∀ (p : Preset) (id clientId clientSecret : Value) (given : Entries), (keys given).Nodup →
      p.DomainFits given →
      (∀ r, p.register id clientId clientSecret given = .ok r ↔
        ¬ p.Refuses given ∧ id.truthy = true ∧ clientId.truthy = true ∧
          ∃ scopes m, (p.valueOf given "scopes").items = .ok scopes ∧
            ClientAuthentication.ofValue (p.valueOf given "client_authentication_method") = .ok m ∧
            r = {
              id
              clientId
              clientSecret
              authentication := m
              grantType := p.valueOf given "authorization_grant_type"
              redirectTemplate := p.valueOf given "redirect_uri_template"
              scopes
              authorizationUri := p.valueOf given "authorization_uri"
              tokenUri := p.valueOf given "token_uri"
              userInfoUri := p.valueOf given "user_info_uri"
              userNameAttribute := p.valueOf given "user_name_attribute"
              clientName := if (p.valueOf given "client_name").truthy
                then p.valueOf given "client_name" else id }) ∧
      ((∃ e, p.register id clientId clientSecret given = .error e) ↔ p.Refuses given ∨
        ∃ e, Registration.ofDraft (.ofFields id clientId clientSecret (p.valueOf given)) =
          .error e)) ∧
    (∀ (id clientId clientSecret : Value) (given : Entries) (host domain domain' : String),
      '/' ∉ host.toList → host ≠ "https:" → SpellsHost host domain → SpellsHost host domain' →
      register .okta id clientId clientSecret (given.insert (.text "okta_domain") (.text domain)) =
        register .okta id clientId clientSecret
          (given.insert (.text "okta_domain") (.text domain'))) ∧
    ∀ (p : Preset) (es : Entries) (w : String), (keys es).Nodup →
      text? es "provider" = some (.text w) → Text.lower w = p.name → p.DomainFits es →
      (∀ r, readRegistration (.mapping es) = .ok r ↔
        ∃ clientId, text? es "client_id" = some clientId ∧
          p.register ((text? es "registration_id").getD (.text p.name)) clientId
            ((text? es "client_secret").getD .null) (fieldsOf es) = .ok r) ∧
      ∀ e, readRegistration (.mapping es) = .error e → ∃ m, e = .configuration m := by
  refine ⟨fun p id clientId clientSecret given hgiven hdomain => ⟨fun r => ?_, ?_⟩, ?_, ?_⟩
  · rw [register_eq_ok hgiven hdomain, Registration.ofDraft_eq_ok]
    simp only [eq_comm (a := r)]
    rfl
  · by_cases hrefuses : p.Refuses given
    · refine ⟨fun _ => Or.inl hrefuses, fun _ => ?_⟩
      cases h : p.register id clientId clientSecret given with
      | error e => exact ⟨e, rfl⟩
      | ok r => exact absurd hrefuses (not_refuses_of_register h)
    · rw [register_of_not_refuses hgiven hdomain hrefuses, or_iff_right hrefuses]
  · intro id clientId clientSecret given host domain domain' hslash hscheme h h'
    refine register_domain ?_
    rw [hostOfDomain_of_spells hslash hscheme h, hostOfDomain_of_spells hslash hscheme h']
  · intro p es w hset hprovider hname hdomain
    exact ⟨fun r => readRegistration_preset_eq_ok hset hprovider hname hdomain,
      fun e => readRegistration_preset_eq_error hprovider hname hdomain⟩

/-- A domain given as an address, with one of its endpoints left empty. -/
theorem register_precedence_okta :
    register .okta (.text "corp") (.text "c") .null
        [(.text "okta_domain", .text "https://dev-1.okta.com/"), (.text "token_uri", .text "")] =
      .ok {
        id := .text "corp"
        clientId := .text "c"
        clientSecret := .null
        authentication := .secretBasic
        grantType := .text "authorization_code"
        redirectTemplate := .text defaultRedirectTemplate
        scopes := [.text "openid", .text "profile", .text "email"]
        authorizationUri := .text "https://dev-1.okta.com/oauth2/v1/authorize"
        tokenUri := .text ""
        userInfoUri := .text "https://dev-1.okta.com/oauth2/v1/userinfo"
        userNameAttribute := .text "sub"
        clientName := .text "Okta" } ∧
    register .okta (.text "corp") (.text "c") .null
        (Entries.insert [] (.text "okta_domain") (.text "dev-1.okta.com")) =
      register .okta (.text "corp") (.text "c") .null
        (Entries.insert [] (.text "okta_domain") (.text "https://dev-1.okta.com//")) ∧
    readRegistration (.mapping
        [(.text "provider", .text "GitHub"), (.text "client_id", .text "c")]) =
      register .github (.text "github") (.text "c") .null [] := by
  refine ⟨?_, ?_, ?_⟩
  · refine ((register_precedence.1 .okta _ _ _ _ (by simp [keys]) ?_).1 _).2
      ⟨?_, rfl, rfl, [.text "openid", .text "profile", .text "email"], .secretBasic, rfl, rfl, rfl⟩
    · intro _ v hv
      obtain rfl := Option.some.inj hv
      exact Or.inr rfl
    · rintro (⟨key, hkey, hfield | ⟨n, hn, rfl⟩⟩ | ⟨-, hnull, -⟩)
      · obtain rfl | rfl : key = .text "okta_domain" ∨ key = .text "token_uri" := by
          simpa [keys] using hkey
        · exact hfield ⟨"okta_domain", rfl, Or.inr ⟨rfl, rfl⟩⟩
        · exact hfield ⟨"token_uri", rfl, Or.inl (by decide)⟩
      · obtain rfl | rfl : n = "okta_domain" ∨ n = "token_uri" := by simpa [keys] using hkey
        · exact absurd hn (by decide)
        · exact absurd hn (by decide)
      · cases hnull
  · refine register_precedence.2.1 _ _ _ _ "dev-1.okta.com" _ _ (by decide) (by decide)
      ⟨0, Or.inl rfl⟩ ⟨2, Or.inr rfl⟩
  · have hmade : ∃ r, register .github (.text "github") (.text "c") .null [] = .ok r := ⟨_, rfl⟩
    obtain ⟨r, hr⟩ := hmade
    rw [hr]
    exact ((register_precedence.2.2 .github _ "GitHub" (by simp [keys]) rfl (by decide +kernel)
      (fun hp => by cases hp)).1 r).2 ⟨.text "c", rfl, hr⟩

end Preset

end LoginCallback
