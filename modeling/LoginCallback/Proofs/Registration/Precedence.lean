import LoginCallback.Proofs.Settings.Registration
import LoginCallback.Proofs.Value.Entries

/-!
# The fields of a preset registration

The value of a field of a registration that is made with a preset (`Preset.valueOf`) is the one that
is given for it, else the endpoint that a given domain leads to, else the one of the preset, else
the default. A registration with these values is made, unless something is given that is not a field
to be given, or endpoints of Okta are missing (`Preset.Refuses`): `register_eq_ok`. Of a domain only
the host matters, however it is spelled: `register_domain`.
-/

namespace LoginCallback

namespace Registration

/-- The names of the fields that need not be given. -/
def optionalNames : List String :=
  ["client_authentication_method", "authorization_grant_type", "redirect_uri_template", "scopes",
   "authorization_uri", "token_uri", "user_info_uri", "user_name_attribute", "client_name"]

def fieldNames : List String := ["registration_id", "client_id", "client_secret"] ++ optionalNames

/-- What a field holds that is not given. -/
def defaultOf : String → Value
  | "client_authentication_method" => .text "client_secret_basic"
  | "authorization_grant_type" => .text "authorization_code"
  | "redirect_uri_template" => .text defaultRedirectTemplate
  | "scopes" => .list []
  | "user_name_attribute" => .text "sub"
  | _ => .text ""

/-- The draft with these values of the fields that need not be given. -/
def Draft.ofFields (id clientId clientSecret : Value) (value : String → Value) : Draft where
  id
  clientId
  clientSecret
  authentication := value "client_authentication_method"
  grantType := value "authorization_grant_type"
  redirectTemplate := value "redirect_uri_template"
  scopes := value "scopes"
  authorizationUri := value "authorization_uri"
  tokenUri := value "token_uri"
  userInfoUri := value "user_info_uri"
  userNameAttribute := value "user_name_attribute"
  clientName := value "client_name"

variable {id clientId clientSecret : Value} {value value' : String → Value}

theorem Draft.ofFields_default : Draft.ofFields id clientId clientSecret defaultOf =
    { id, clientId, clientSecret } := rfl

theorem Draft.ofFields_congr (h : ∀ n ∈ optionalNames, value n = value' n) :
    Draft.ofFields id clientId clientSecret value =
      Draft.ofFields id clientId clientSecret value' := by
  simp only [optionalNames, List.forall_mem_cons, List.not_mem_nil, false_implies, implies_true,
    and_true] at h
  obtain ⟨h₁, h₂, h₃, h₄, h₅, h₆, h₇, h₈, h₉⟩ := h
  unfold Draft.ofFields
  rw [h₁, h₂, h₃, h₄, h₅, h₆, h₇, h₈, h₉]

end Registration

namespace Preset

open Registration Entries

variable {p : Preset} {id clientId clientSecret : Value} {value : String → Value} {given : Entries}
  {d : Draft} {r : Registration}

/-! ## Fields that are set -/

theorem setField_ofFields {n : String} (h : n ∈ optionalNames) (v : Value) :
    setField (.ofFields id clientId clientSecret value) n v =
      some (.ofFields id clientId clientSecret fun m => if m = n then v else value m) := by
  simp only [optionalNames, List.mem_cons, List.not_mem_nil, or_false] at h
  rcases h with rfl | rfl | rfl | rfl | rfl | rfl | rfl | rfl | rfl <;>
    simp [setField, Draft.ofFields]

theorem setField_eq_none {n : String} (h : n ∉ optionalNames) (v : Value) :
    setField d n v = none := by
  unfold setField
  split
  case h_10 => rfl
  all_goals exact absurd (by decide) h

/-- The key is the name of a field that need not be given. -/
def IsOptional (key : Value) : Prop := ∃ n ∈ optionalNames, key = .text n

/-- Fields that are given once each have the values that are given. -/
theorem setFields_ofFields {es : Entries} (hset : (keys es).Nodup)
    (hes : ∀ key ∈ keys es, IsOptional key) :
    setFields (.ofFields id clientId clientSecret value) es =
      .ok (.ofFields id clientId clientSecret fun n => (text? es n).getD (value n)) := by
  induction es generalizing value with
  | nil => rfl
  | cons e es ih =>
    obtain ⟨key, v⟩ := e
    obtain ⟨⟨n, hn, rfl⟩, hrest⟩ := List.forall_mem_cons.1 hes
    obtain ⟨hkey, hunique⟩ := List.nodup_cons.1 hset
    rw [setFields, setField_ofFields hn]
    dsimp only
    rw [ih hunique hrest]
    congr 2
    funext m
    -- the name stands once, so the later fields leave the value as it is set here
    by_cases hm : m = n
    · subst hm
      rw [text?_cons_self, text?_eq_none_iff.2 hkey]
      simp
    · rw [text?_cons_of_ne (by simpa using Ne.symm hm)]
      simp [hm]

/-- Nothing else can be set. -/
theorem isOptional_of_setFields {es : Entries} {d d' : Draft} (h : setFields d es = .ok d') :
    ∀ key ∈ keys es, IsOptional key := by
  induction es generalizing d with
  | nil => exact fun key hkey => absurd hkey List.not_mem_nil
  | cons e es ih =>
    obtain ⟨own, v⟩ := e
    cases own with
    | text n =>
      rw [setFields] at h
      cases hset : setField d n v with
      | none =>
        rw [hset] at h
        cases h
      | some d₁ =>
        rw [hset] at h
        refine List.forall_mem_cons.2 ⟨⟨n, ?_, rfl⟩, ih h⟩
        refine Classical.byContradiction fun hn => ?_
        rw [setField_eq_none hn] at hset
        cases hset
    | null | bool | int | float | list | mapping | foreign => cases h

/-! ## Layers of fields -/

theorem text?_overlay {below above : Entries} (hset : (keys above).Nodup)
    (htext : ∀ key ∈ keys above, key.isText = true) (n : String) :
    text? (overlay below above) n = (text? above n).or (text? below n) := by
  unfold overlay
  induction above generalizing below with
  | nil => rfl
  | cons e above ih =>
    obtain ⟨key, v⟩ := e
    obtain ⟨hkey, hunique⟩ := List.nodup_cons.1 hset
    obtain ⟨hown, hrest⟩ := List.forall_mem_cons.1 htext
    cases key with
    | text k =>
      rw [List.foldl_cons, ih hunique hrest]
      by_cases hn : n = k
      · subst hn
        rw [text?_insert_self, text?_eq_none_iff.2 hkey, text?_cons_self]
        rfl
      · rw [text?_insert_of_ne _ hn, text?_cons_of_ne (by simpa using Ne.symm hn)]
    | null | bool | int | float | list | mapping | foreign => cases hown

theorem mem_keys_overlay {below above : Entries} (htext : ∀ key ∈ keys above, key.isText = true)
    {key : Value} : key ∈ keys (overlay below above) ↔ key ∈ keys below ∨ key ∈ keys above := by
  unfold overlay
  induction above generalizing below with
  | nil => simp [keys]
  | cons e above ih =>
    obtain ⟨own, v⟩ := e
    obtain ⟨hown, hrest⟩ := List.forall_mem_cons.1 htext
    cases own with
    | text k =>
      rw [List.foldl_cons, ih hrest, mem_keys_insert, or_assoc]
      simp [keys]
    | null | bool | int | float | list | mapping | foreign => cases hown

theorem nodup_keys_overlay {below above : Entries} (hset : (keys below).Nodup)
    (htext : ∀ key ∈ keys above, key.isText = true) : (keys (overlay below above)).Nodup := by
  unfold overlay
  induction above generalizing below with
  | nil => exact hset
  | cons e above ih =>
    obtain ⟨own, v⟩ := e
    obtain ⟨hown, hrest⟩ := List.forall_mem_cons.1 htext
    cases own with
    | text k => exact ih (nodup_keys_insert hset k v) hrest
    | null | bool | int | float | list | mapping | foreign => cases hown

/-! ## Names that are given -/

/-- Refuses the name of an argument that there is anyway. -/
def refuseFixed (key : Value) : Except Fault Unit :=
  match key with
  | .text name =>
    if fixedArguments.contains name then
      .error (.arguments (.repeated "CommonOAuth2Provider.registration" name))
    else .ok ()
  | _ => .ok ()

theorem checkNames_eq (given : Entries) : checkNames given =
    if (keys given).all (·.isText) then forM (keys given) refuseFixed
    else .error (.arguments .nameNotText) := by
  -- the loop over the entries only reads their keys
  have hloop : ∀ given : Entries, (do
      for e in given do
        if let .text name := e.1 then
          if fixedArguments.contains name then
            throw (.arguments (.repeated "CommonOAuth2Provider.registration" name)) :
      Except Fault Unit) = forM (keys given) refuseFixed := by
    intro given
    induction given with
    | nil => rfl
    | cons e given ih =>
      obtain ⟨key, v⟩ := e
      rw [List.forIn_cons]
      show _ = (refuseFixed key >>= fun _ => forM (keys given) refuseFixed)
      rw [← ih]
      cases key with
      | text name =>
        unfold refuseFixed
        dsimp only
        cases fixedArguments.contains name <;> rfl
      | null | bool | int | float | list | mapping | foreign => rfl
  have hall : (keys given).all (·.isText) = !given.any fun e => !e.1.isText := by
    simp [keys, List.all_map, List.not_any_eq_all_not, Function.comp_def]
  unfold checkNames
  rw [hall, ← hloop]
  cases given.any fun e => !e.1.isText with
  | true => rfl
  | false => rfl

theorem forM_eq_ok {f : Value → Except Fault Unit} {xs : List Value} :
    forM xs f = .ok () ↔ ∀ x ∈ xs, f x = .ok () := by
  induction xs with
  | nil => simp [pure, Except.pure]
  | cons x xs ih =>
    rw [List.forM_cons, bind_eq_ok, List.forall_mem_cons, ← ih]
    exact ⟨fun ⟨_, hx, hxs⟩ => ⟨hx, hxs⟩, fun ⟨hx, hxs⟩ => ⟨(), hx, hxs⟩⟩

theorem forM_eq_error {f : Value → Except Fault Unit} {xs : List Value} {e : Fault}
    (h : forM xs f = .error e) : ∃ x ∈ xs, f x = .error e := by
  induction xs with
  | nil => cases h
  | cons x xs ih =>
    rw [List.forM_cons] at h
    rcases bind_eq_error.1 h with h | ⟨-, -, h⟩
    · exact ⟨x, List.mem_cons_self, h⟩
    · obtain ⟨y, hy, hf⟩ := ih h
      exact ⟨y, List.mem_cons_of_mem x hy, hf⟩

theorem refuseFixed_text (n : String) :
    refuseFixed (.text n) = .ok () ↔ n ∉ fixedArguments := by
  unfold refuseFixed
  dsimp only
  by_cases h : n ∈ fixedArguments
  · rw [if_pos (List.contains_iff_mem.2 h)]
    simp [h]
  · rw [if_neg (by simpa using h)]
    simp [h]

theorem checkNames_eq_ok : checkNames given = .ok () ↔
    ∀ key ∈ keys given, ∃ n, key = .text n ∧ n ∉ fixedArguments := by
  rw [checkNames_eq]
  cases hall : (keys given).all (·.isText) with
  | true =>
    rw [List.all_eq_true] at hall
    rw [if_pos rfl, forM_eq_ok]
    refine forall₂_congr fun key hkey => ?_
    cases key with
    | text n => simp [refuseFixed_text]
    | null | bool | int | float | list | mapping | foreign => cases hall _ hkey
  | false =>
    rw [if_neg Bool.false_ne_true]
    refine ⟨fun h => (by cases h), fun h => ?_⟩
    rw [List.all_eq_false] at hall
    obtain ⟨key, hkey, hnot⟩ := hall
    obtain ⟨n, rfl, -⟩ := h key hkey
    exact absurd rfl hnot

theorem category_of_checkNames {e : Fault} (h : checkNames given = .error e) :
    e.category = .kind := by
  rw [checkNames_eq] at h
  split at h
  · obtain ⟨key, -, h⟩ := forM_eq_error h
    unfold refuseFixed at h
    split at h
    · split at h
      · obtain rfl := Except.error.inj h
        rfl
      · cases h
    · cases h
  · obtain rfl := Except.error.inj h
    rfl

/-! ## Making a registration -/

/-- What is given for fields: all that is given, but for the domain of Okta. -/
def others (p : Preset) (given : Entries) : Entries :=
  if p = .okta then given.erase (.text "okta_domain") else given

/-- The endpoints that a given domain leads to. -/
def endpoints (p : Preset) (given : Entries) : Except Fault Entries :=
  if p = .okta then domainEndpoints ((text? given "okta_domain").getD .null) (p.others given)
  else .ok []

/-- The fields of a preset and its redirect template. -/
def base (p : Preset) : Entries :=
  overlay [(.text "redirect_uri_template", .text defaultRedirectTemplate)] p.fields

theorem register_eq : p.register id clientId clientSecret given = (do
    checkNames given
    let derived ← p.endpoints given
    ofDraft (← setFields { id, clientId, clientSecret }
      (overlay (overlay p.base derived) (p.others given)))) := by
  unfold register endpoints others
  cases p with
  | okta =>
    simp only [if_true, pure_bind]
    rfl
  | google | github | facebook => rfl

/-! ## What a field holds -/

/-- The endpoint of this name at the domain of an organisation. -/
def endpointAt (domain name : String) : Option Value :=
  ([("authorization_uri", "/authorize"), ("token_uri", "/token"),
    ("user_info_uri", "/userinfo")].lookup name).map fun path =>
      .text ("https://" ++ hostOfDomain domain ++ "/oauth2/v1" ++ path)

/-- The endpoint that a given domain leads to. Only the endpoints of Okta depend on a domain. -/
def derived? (p : Preset) (given : Entries) (name : String) : Option Value :=
  match p, text? given "okta_domain" with
  | .okta, some (.text domain) => endpointAt domain name
  | _, _ => none

/-- What a field holds: what is given for it, else the endpoint that a given domain leads to, else
the value of the preset, else the default. -/
def valueOf (p : Preset) (given : Entries) (name : String) : Value :=
  ((text? given name).or ((p.derived? given name).or (text? p.fields name))).getD (defaultOf name)

/-- The key is the name of a field, or that of the domain of Okta. -/
def IsField (p : Preset) (key : Value) : Prop :=
  ∃ n, key = .text n ∧ (n ∈ fieldNames ∨ p = .okta ∧ n = "okta_domain")

/-- Okta is used without a domain, and an endpoint is missing or empty. -/
def LacksEndpoint (p : Preset) (given : Entries) : Prop :=
  p = .okta ∧ (text? given "okta_domain").getD .null = .null ∧
    ∃ n ∈ endpointNames, ((text? given n).getD .null).truthy = false

/-- Something is given that is not a field, or one that there is anyway, or an endpoint is
lacking. -/
def Refuses (p : Preset) (given : Entries) : Prop :=
  (∃ key ∈ keys given, ¬ p.IsField key ∨ ∃ n ∈ fixedArguments, key = .text n) ∨
    p.LacksEndpoint given

/-- The domain of Okta, if one is given, is a text or null. -/
def DomainFits (p : Preset) (given : Entries) : Prop :=
  p = .okta → ∀ v, text? given "okta_domain" = some v → v = .null ∨ v.isText = true

theorem valueOf_of_given {n : String} {v : Value} (h : text? given n = some v) :
    p.valueOf given n = v := by
  unfold valueOf
  rw [h]
  rfl

theorem valueOf_insert_of_ne {n k : String} (hn : n ≠ k) (hk : k ≠ "okta_domain") (v : Value) :
    p.valueOf (given.insert (.text k) v) n = p.valueOf given n := by
  unfold valueOf derived?
  rw [text?_insert_of_ne given hn, text?_insert_of_ne given hk.symm]

theorem refuses_insert {n : String} {w : Value} (h : text? given n = some w)
    (hdomain : n ≠ "okta_domain") (hendpoint : n ∉ endpointNames) (v : Value) :
    p.Refuses (given.insert (.text n) v) ↔ p.Refuses given := by
  have hkeys : ∀ key, key ∈ keys (given.insert (.text n) v) ↔ key ∈ keys given := fun _ =>
    mem_keys_insert_of_text? h
  have hlacks : p.LacksEndpoint (given.insert (.text n) v) ↔ p.LacksEndpoint given := by
    unfold LacksEndpoint
    rw [text?_insert_of_ne given hdomain.symm]
    refine and_congr_right fun _ => and_congr_right fun _ => exists_congr fun m => ?_
    refine and_congr_right fun hm => ?_
    rw [text?_insert_of_ne given (by rintro rfl; exact hendpoint hm)]
  unfold Refuses
  rw [hlacks]
  simp only [hkeys]

/-! ## Endpoints of a domain -/

theorem text?_others {n : String} (h : n ≠ "okta_domain") :
    text? (p.others given) n = text? given n := by
  unfold others
  split
  · exact text?_erase_of_ne _ h
  · rfl

theorem nodup_keys_others (hset : (keys given).Nodup) : (keys (p.others given)).Nodup := by
  unfold others
  split
  · exact nodup_keys_erase hset
  · exact hset

theorem mem_keys_others {key : Value} : key ∈ keys (p.others given) ↔
    key ∈ keys given ∧ ¬ (p = .okta ∧ key = .text "okta_domain") := by
  unfold others
  by_cases hp : p = .okta
  · rw [if_pos hp, mem_keys_erase]
    simp [hp]
  · rw [if_neg hp]
    simp [hp]

/-- The endpoints at a domain, by their names. -/
theorem domainEndpoints_text (domain : String) (given : Entries) :
    ∃ es, domainEndpoints (.text domain) given = .ok es ∧ (keys es).Nodup ∧
      (∀ key ∈ keys es, IsOptional key) ∧ ∀ n, text? es n = endpointAt domain n := by
  refine ⟨_, rfl, by simp [keys], ?_, fun n => ?_⟩
  · simp [keys, IsOptional, optionalNames]
  · let endpoint : String → Value := fun path =>
      .text ("https://" ++ hostOfDomain domain ++ "/oauth2/v1" ++ path)
    show text? ([("authorization_uri", endpoint "/authorize"), ("token_uri", endpoint "/token"),
      ("user_info_uri", endpoint "/userinfo")].map fun f => (.text f.1, f.2)) n = _
    rw [text?_record, endpointAt]
    simp only [List.lookup_cons, List.lookup_nil]
    cases n == "authorization_uri" <;> cases n == "token_uri" <;> cases n == "user_info_uri" <;> rfl

theorem endpoints_of_lacks (h : p.LacksEndpoint given) :
    p.endpoints given = .error .domainRequired := by
  obtain ⟨rfl, hnull, n, hn, hlacks⟩ := h
  have hmissing : (endpointNames.all fun n =>
      ((text? (others .okta given) n).getD .null).truthy) = false := by
    refine List.all_eq_false.2 ⟨n, hn, ?_⟩
    rw [text?_others (by rintro rfl; revert hn; decide), hlacks]
    exact Bool.false_ne_true
  unfold endpoints domainEndpoints
  rw [if_pos rfl, hnull, hmissing]
  rfl

/-- A domain that fits leads to endpoints, unless one is lacking. -/
theorem exists_endpoints (hdomain : p.DomainFits given) (hlacks : ¬ p.LacksEndpoint given) :
    ∃ es, p.endpoints given = .ok es ∧ (keys es).Nodup ∧ (∀ key ∈ keys es, IsOptional key) ∧
      ∀ n, text? es n = p.derived? given n := by
  have hempty : ∀ f : String → Option Value, (∀ n, f n = none) →
      (keys ([] : Entries)).Nodup ∧ (∀ key ∈ keys ([] : Entries), IsOptional key) ∧
        ∀ n, text? ([] : Entries) n = f n := by
    intro f hf
    exact ⟨List.nodup_nil, by simp [keys], fun n => (hf n).symm⟩
  unfold endpoints
  by_cases hp : p = .okta
  · subst hp
    rw [if_pos rfl]
    have hnull : (text? given "okta_domain").getD .null = .null →
        domainEndpoints .null (others .okta given) = .ok [] := by
      intro hnull
      have hall : (endpointNames.all fun n =>
          ((text? (others .okta given) n).getD .null).truthy) = true := by
        rw [List.all_eq_true]
        intro n hn
        rw [text?_others (by rintro rfl; revert hn; decide)]
        cases hmissing : ((text? given n).getD .null).truthy with
        | true => rfl
        | false => exact absurd ⟨rfl, hnull, n, hn, hmissing⟩ hlacks
      unfold domainEndpoints
      rw [hall]
      rfl
    cases hgiven : text? given "okta_domain" with
    | none =>
      rw [hgiven] at hnull
      exact ⟨[], hnull rfl, hempty _ fun n => by simp [derived?, hgiven]⟩
    | some v =>
      rcases hdomain rfl v hgiven with rfl | htext
      · rw [hgiven] at hnull
        exact ⟨[], hnull rfl, hempty _ fun n => by simp [derived?, hgiven]⟩
      · cases v with
        | text domain =>
          obtain ⟨es, hes, hset, hkeys, hvalues⟩ :=
            domainEndpoints_text domain (others .okta given)
          refine ⟨es, hes, hset, hkeys, fun n => ?_⟩
          simp only [hvalues, derived?, hgiven]
        | null | bool | int | float | list | mapping | foreign => cases htext
  · rw [if_neg hp]
    refine ⟨[], rfl, hempty _ fun n => ?_⟩
    cases p with
    | okta => exact absurd rfl hp
    | google | github | facebook => rfl

/-! ## The registration that is made -/

theorem keys_fields : (keys p.fields).Nodup ∧ ∀ key ∈ keys p.fields, IsOptional key := by
  cases p <;> simp [fields, keys, IsOptional, optionalNames]

theorem IsOptional.isText {key : Value} (h : IsOptional key) : key.isText = true := by
  obtain ⟨n, -, rfl⟩ := h
  rfl

theorem text?_base (n : String) : text? p.base n =
    (text? p.fields n).or (text? [(.text "redirect_uri_template", .text defaultRedirectTemplate)] n) :=
  text?_overlay keys_fields.1 (fun key hkey => (keys_fields.2 key hkey).isText) n

theorem keys_base : (keys p.base).Nodup ∧ ∀ key ∈ keys p.base, IsOptional key := by
  have htext : ∀ key ∈ keys p.fields, key.isText = true := fun key hkey =>
    (keys_fields.2 key hkey).isText
  refine ⟨nodup_keys_overlay (by simp [keys]) htext, fun key hkey => ?_⟩
  rcases (mem_keys_overlay htext).1 hkey with hkey | hkey
  · obtain rfl := List.mem_singleton.1 hkey
    exact ⟨"redirect_uri_template", by decide, rfl⟩
  · exact keys_fields.2 key hkey

/-- The template that a preset starts with is the default, too. -/
theorem getD_base (n : String) :
    (text? p.base n).getD (defaultOf n) = (text? p.fields n).getD (defaultOf n) := by
  rw [text?_base]
  cases text? p.fields n with
  | some v => rfl
  | none =>
    by_cases hn : n = "redirect_uri_template"
    · subst hn
      rw [text?_cons_self]
      rfl
    · rw [text?_cons_of_ne (by simpa using Ne.symm hn)]
      rfl

/-- All the fields of a registration: those of the preset, on top of them the endpoints that a given
domain leads to, on top of these what is given. -/
theorem setFields_layers {derived : Entries} (hgiven : (keys given).Nodup)
    (hderived : (keys derived).Nodup) (hbelow : ∀ key ∈ keys derived, IsOptional key)
    (habove : ∀ key ∈ keys (p.others given), IsOptional key)
    (hvalues : ∀ n, text? derived n = p.derived? given n) :
    setFields { id, clientId, clientSecret } (overlay (overlay p.base derived) (p.others given)) =
      .ok (.ofFields id clientId clientSecret (p.valueOf given)) := by
  have htext : ∀ key ∈ keys derived, key.isText = true := fun key hkey => (hbelow key hkey).isText
  have htext' : ∀ key ∈ keys (p.others given), key.isText = true := fun key hkey =>
    (habove key hkey).isText
  have hkeys : ∀ key ∈ keys (overlay (overlay p.base derived) (p.others given)),
      IsOptional key := by
    intro key hkey
    rw [mem_keys_overlay htext', mem_keys_overlay htext] at hkey
    exact hkey.elim (fun h => h.elim (keys_base.2 key) (hbelow key)) (habove key)
  rw [← Draft.ofFields_default, setFields_ofFields
    (nodup_keys_overlay (nodup_keys_overlay keys_base.1 htext) htext') hkeys]
  refine congrArg Except.ok (Draft.ofFields_congr fun n hn => ?_)
  rw [text?_overlay (nodup_keys_others hgiven) htext', text?_overlay hderived htext,
    text?_others (by rintro rfl; revert hn; decide), hvalues]
  unfold valueOf
  cases text? given n with
  | some v => rfl
  | none =>
    cases p.derived? given n with
    | some v => rfl
    | none => exact getD_base n

theorem mem_optionalNames {n : String} (h : n ∈ fieldNames) (hfixed : n ∉ fixedArguments) :
    n ∈ optionalNames := by
  refine (List.mem_append.1 h).resolve_left fun hown => hfixed ?_
  exact List.mem_cons_of_mem _ hown

/-- Nothing that is refused was given for a registration that is made. -/
theorem not_refuses_of_register (h : p.register id clientId clientSecret given = .ok r) :
    ¬ p.Refuses given := by
  rw [register_eq] at h
  obtain ⟨_, hnames, h⟩ := bind_eq_ok.1 h
  obtain ⟨derived, hderived, h⟩ := bind_eq_ok.1 h
  obtain ⟨d, hset, -⟩ := bind_eq_ok.1 h
  have hnames := checkNames_eq_ok.1 hnames
  rintro (⟨key, hkey, hfield | ⟨n, hn, rfl⟩⟩ | hlacks)
  · -- a name that is not one of a field is still there when the fields are set
    obtain ⟨n, rfl, -⟩ := hnames key hkey
    have hother : Value.text n ∈ keys (p.others given) :=
      mem_keys_others.2 ⟨hkey, fun ⟨hp, hn⟩ =>
        hfield ⟨n, rfl, Or.inr ⟨hp, Value.text.inj hn⟩⟩⟩
    have htext : ∀ key ∈ keys (p.others given), key.isText = true := by
      intro key hkey
      obtain ⟨n, rfl, -⟩ := hnames key (mem_keys_others.1 hkey).1
      rfl
    obtain ⟨m, hm, heq⟩ := isOptional_of_setFields hset (.text n)
      ((mem_keys_overlay htext).2 (Or.inr hother))
    obtain rfl := Value.text.inj heq
    exact hfield ⟨n, rfl, Or.inl (List.mem_append_right _ hm)⟩
  · obtain ⟨m, hm, hfree⟩ := hnames _ hkey
    exact hfree (Value.text.inj hm ▸ hn)
  · rw [endpoints_of_lacks hlacks] at hderived
    cases hderived

/-- A registration with a preset is made from the values of its fields, unless what is given is
refused. -/
theorem register_of_not_refuses (hgiven : (keys given).Nodup) (hdomain : p.DomainFits given)
    (h : ¬ p.Refuses given) : p.register id clientId clientSecret given =
      ofDraft (.ofFields id clientId clientSecret (p.valueOf given)) := by
  obtain ⟨derived, hderived, hunique, hbelow, hvalues⟩ :=
    exists_endpoints hdomain fun hlacks => h (Or.inr hlacks)
  have hfield : ∀ key ∈ keys given, p.IsField key := fun key hkey =>
    Classical.byContradiction fun hnot => h (Or.inl ⟨key, hkey, Or.inl hnot⟩)
  have hfree : ∀ n, .text n ∈ keys given → n ∉ fixedArguments := fun n hkey hfixed =>
    h (Or.inl ⟨_, hkey, Or.inr ⟨n, hfixed, rfl⟩⟩)
  have hnames : checkNames given = .ok () := by
    refine checkNames_eq_ok.2 fun key hkey => ?_
    obtain ⟨n, rfl, -⟩ := hfield key hkey
    exact ⟨n, rfl, hfree n hkey⟩
  have habove : ∀ key ∈ keys (p.others given), IsOptional key := by
    intro key hkey
    obtain ⟨hkey, hother⟩ := mem_keys_others.1 hkey
    obtain ⟨n, rfl, hn | ⟨rfl, rfl⟩⟩ := hfield key hkey
    · exact ⟨n, mem_optionalNames hn (hfree n hkey), rfl⟩
    · exact absurd ⟨rfl, rfl⟩ hother
  rw [register_eq, hnames, hderived]
  show (setFields _ _ >>= ofDraft) = _
  rw [setFields_layers hgiven hunique hbelow habove hvalues]
  rfl

theorem register_eq_ok (hgiven : (keys given).Nodup) (hdomain : p.DomainFits given) :
    p.register id clientId clientSecret given = .ok r ↔ ¬ p.Refuses given ∧
      ofDraft (.ofFields id clientId clientSecret (p.valueOf given)) = .ok r := by
  constructor
  · intro h
    have hrefuses := not_refuses_of_register h
    exact ⟨hrefuses, by rw [← register_of_not_refuses hgiven hdomain hrefuses, h]⟩
  · rintro ⟨hrefuses, h⟩
    rw [register_of_not_refuses hgiven hdomain hrefuses, h]

/-! ## Ways to give a domain -/

/-- The host, alone or as an address, with any number of slashes behind it. -/
def SpellsHost (host domain : String) : Prop :=
  ∃ n : Nat, domain.toList = host.toList ++ List.replicate n '/' ∨
    domain.toList = "https://".toList ++ (host.toList ++ List.replicate n '/')

theorem dropTrailing_slashes {cs : List Char} (h : '/' ∉ cs) (n : Nat) :
    Text.dropTrailing '/' (cs ++ List.replicate n '/') = cs := by
  unfold Text.dropTrailing
  rw [List.reverse_append, List.reverse_replicate, List.dropWhile_append_of_pos (by simp)]
  have hkept : cs.reverse.dropWhile (· == '/') = cs.reverse := by
    cases hrev : cs.reverse with
    | nil => rfl
    | cons c rest =>
      have hc : (c == '/') = false := by
        refine beq_eq_false_iff_ne.2 fun hslash => h (List.mem_reverse.1 ?_)
        rw [hrev, hslash]
        exact List.mem_cons_self
      rw [List.dropWhile_cons_of_neg (by rw [hc]; exact Bool.false_ne_true)]
  rw [hkept, List.reverse_reverse]

/-- What comes before the first slash. -/
theorem takeWhile_slashes {cs : List Char} (h : '/' ∉ cs) (n : Nat) :
    (cs ++ List.replicate n '/').takeWhile (· != '/') = cs := by
  rw [List.takeWhile_append_of_pos fun c hc => by
    simpa using fun hslash : c = '/' => h (hslash ▸ hc)]
  cases n <;> simp [List.replicate_succ]

theorem hostOfDomain_of_spells {host domain : String} (hslash : '/' ∉ host.toList)
    (hscheme : host ≠ "https:") (h : SpellsHost host domain) : hostOfDomain domain = host := by
  obtain ⟨n, h | h⟩ := h
  · have hstarts : "https://".toList.isPrefixOf domain.toList = false := by
      -- the host has no slash: it is all that stands before the slashes of the scheme
      refine Bool.eq_false_iff.2 fun hstarts => hscheme ?_
      obtain ⟨rest, hrest⟩ := List.isPrefixOf_iff_prefix.1 hstarts
      rw [h] at hrest
      have htake := takeWhile_slashes hslash n
      rw [← hrest] at htake
      exact String.toList_injective htake.symm
    unfold hostOfDomain
    dsimp only
    rw [hstarts, if_neg Bool.false_ne_true, h, dropTrailing_slashes hslash, String.ofList_toList]
  · have hstarts : "https://".toList.isPrefixOf domain.toList = true :=
      List.isPrefixOf_iff_prefix.2 ⟨_, h.symm⟩
    unfold hostOfDomain
    dsimp only
    rw [if_pos hstarts, h, List.drop_left, dropTrailing_slashes hslash, String.ofList_toList]

/-- Of a domain that is given, only the host matters. -/
theorem register_domain {domain domain' : String} (h : hostOfDomain domain = hostOfDomain domain') :
    register .okta id clientId clientSecret (given.insert (.text "okta_domain") (.text domain)) =
      register .okta id clientId clientSecret
        (given.insert (.text "okta_domain") (.text domain')) := by
  have hothers : ∀ d : String,
      others .okta (given.insert (.text "okta_domain") (.text d)) = others .okta given := fun d =>
    erase_insert_self given "okta_domain" (.text d)
  have hendpoints : ∀ d : String, endpoints .okta (given.insert (.text "okta_domain") (.text d)) =
      domainEndpoints (.text d) (others .okta given) := by
    intro d
    unfold endpoints
    rw [if_pos rfl, text?_insert_self, hothers]
    rfl
  have hnames : ∀ d : String, checkNames (given.insert (.text "okta_domain") (.text d)) =
      checkNames (given.insert (.text "okta_domain") (.text domain')) := by
    intro d
    rw [checkNames_eq, checkNames_eq, keys_insert_congr given "okta_domain" (.text d)]
  have hsame : domainEndpoints (.text domain) (others .okta given) =
      domainEndpoints (.text domain') (others .okta given) := by
    unfold domainEndpoints
    dsimp only
    rw [h]
  rw [register_eq, register_eq, hnames domain, hendpoints, hendpoints, hothers, hothers, hsame]

end Preset

end LoginCallback
