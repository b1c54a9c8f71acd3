import LoginCallback.Proofs.Settings.Registration
import LoginCallback.Proofs.Value.Equality
import LoginCallback.Settings.Example
import LoginCallback.Settings.Loading

/-!
# Configurations that are saved and loaded again

A configuration of made registrations is described by what is written of it, but for the secrets and
the file it came from (`read_toValue`). The environment adjusts a loaded configuration as it did
before (`override_override`, `withSecret_withoutSecret`). Main statement: `saved_and_reloaded`.
-/

namespace LoginCallback

theorem mapM_map_eq_ok {ε α β γ : Type} {f : β → Except ε γ} {g : α → β} {h : α → γ} {xs : List α}
    (hf : ∀ x ∈ xs, f (g x) = .ok (h x)) : (xs.map g).mapM f = .ok (xs.map h) := by
  rw [mapM_eq_ok, List.map_map, List.map_map]
  exact List.map_congr_left hf

/-- Where each element of a result comes from. -/
theorem exists_mem_of_mapM {ε α β : Type} {f : α → Except ε β} {xs : List α} {ys : List β}
    (h : xs.mapM f = .ok ys) {y : β} (hy : y ∈ ys) : ∃ x ∈ xs, f x = .ok y := by
  have hmem : .ok y ∈ ys.map (Except.ok : β → Except ε β) := List.mem_map_of_mem hy
  rw [← mapM_eq_ok.1 h] at hmem
  exact List.mem_map.1 hmem

namespace LoginSettings

/-- What is written of the settings describes them. -/
theorem read_toValue (s : LoginSettings) : read s.toValue = .ok s := rfl

/-- The environment has nothing to add to settings that it has adjusted. -/
theorem override_override (env : Environment) (s : LoginSettings) :
    (s.override env).override env = s.override env := by
  have hagain : ∀ (given : Option Value) (v : Value), given.getD (given.getD v) = given.getD v := by
    rintro (_ | w) v <;> rfl
  unfold override
  simp only [hagain]

end LoginSettings

/-- Whether the environment gives the secret of a registration. -/
def Environment.givesSecret (env : Environment) (r : Registration) : Bool :=
  match r.id with
  | .text id => (env.given? (secretName id)).isSome
  | _ => false

namespace LoginConfig

/-- What is written of a configuration describes it, without the secrets. -/
theorem read_toValue {c : LoginConfig} (h : ∀ r ∈ c.registrations, r.Made) (path : Option String) :
    read c.toValue path =
      .ok { c with registrations := c.registrations.map Registration.withoutSecret, path } := by
  have hregistrations : (c.registrations.map Registration.toValue).mapM readRegistration =
      .ok (c.registrations.map Registration.withoutSecret) :=
    mapM_map_eq_ok fun r hr => readRegistration_toValue (h r hr)
  have hread : read c.toValue path =
      ((c.registrations.map Registration.toValue).mapM readRegistration >>= fun registrations =>
        pure { login := c.login, registrations, path }) := rfl
  rw [hread, hregistrations]
  rfl

/-! ## Secrets -/

variable {env : Environment} {r r' : Registration}

theorem withSecret_of_text {id : String} (hid : r.id = .text id) : withSecret env r =
    match env.given? (Environment.secretName id) with
    | some secret => .ok { r with clientSecret := .text secret }
    | none => .ok r := by
  have htext : r.id.textFor "upper" = .ok id := by
    rw [hid]
    rfl
  unfold withSecret
  rw [htext]
  rfl

/-- A registration keeps its secret, or takes the one that the environment gives. -/
theorem withSecret_cases (h : withSecret env r = .ok r') : ∃ id, r.id = .text id ∧
    (env.given? (Environment.secretName id) = none ∧ r' = r ∨
      ∃ secret, env.given? (Environment.secretName id) = some secret ∧
        r' = { r with clientSecret := .text secret }) := by
  obtain ⟨id, hid⟩ : ∃ id, r.id = .text id := by
    cases hr : r.id with
    | text id => exact ⟨id, rfl⟩
    | null | bool | int | float | list | mapping | foreign =>
      obtain ⟨id, hid, -⟩ := bind_eq_ok.1 h
      rw [hr] at hid
      cases hid
  refine ⟨id, hid, ?_⟩
  rw [withSecret_of_text hid] at h
  cases hgiven : env.given? (Environment.secretName id) with
  | none =>
    rw [hgiven] at h
    exact Or.inl ⟨rfl, (Except.ok.inj h).symm⟩
  | some secret =>
    rw [hgiven] at h
    exact Or.inr ⟨secret, rfl, (Except.ok.inj h).symm⟩

theorem made_of_withSecret (hr : r.Made) (h : withSecret env r = .ok r') : r'.Made := by
  obtain ⟨id, -, ⟨-, rfl⟩ | ⟨secret, -, rfl⟩⟩ := withSecret_cases h
  · exact hr
  · exact hr.withSecret _

/-- The environment gives once more the secrets that it has given. -/
theorem withSecret_withoutSecret (h : withSecret env r = .ok r') : withSecret env r'.withoutSecret =
    .ok (if env.givesSecret r' then r' else r'.withoutSecret) := by
  obtain ⟨id, hid, ⟨hgiven, rfl⟩ | ⟨secret, hgiven, rfl⟩⟩ := withSecret_cases h
  · have hid' : r'.withoutSecret.id = .text id := hid
    rw [withSecret_of_text hid', hgiven]
    simp [Environment.givesSecret, hid, hgiven]
  · have hid' : (Registration.withoutSecret { r with clientSecret := .text secret }).id =
        .text id := hid
    rw [withSecret_of_text hid', hgiven]
    simp [Environment.givesSecret, hid, hgiven, Registration.withoutSecret]

/-! ## Loading -/

theorem made_of_read {v : Value} {path : Option String} {c : LoginConfig}
    (h : read v path = .ok c) : ∀ r ∈ c.registrations, r.Made := by
  obtain ⟨login, -, h⟩ := bind_eq_ok.1 h
  dsimp only at h
  have hregistrations : ∃ vs : List Value, vs.mapM readRegistration = .ok c.registrations := by
    split at h
    all_goals
      obtain ⟨login', -, h⟩ := bind_eq_ok.1 h
      obtain ⟨vs, -, h⟩ := bind_eq_ok.1 h
      obtain ⟨registrations, hmap, h⟩ := bind_eq_ok.1 h
      obtain rfl := Except.ok.inj h
      exact ⟨vs, hmap⟩
  obtain ⟨vs, hmap⟩ := hregistrations
  intro r hr
  obtain ⟨v, -, hv⟩ := exists_mem_of_mapM hmap hr
  exact made_of_readRegistration hv

theorem made_of_readFile {file : ConfigFile} {c : LoginConfig} (h : readFile file = .ok c) :
    ∀ r ∈ c.registrations, r.Made := by
  unfold readFile at h
  split at h
  · cases h
  · cases h
  · split at h
    · exact made_of_read h
    · split at h
      · exact made_of_read h
      · cases h

/-- What the environment makes of the configuration of a file. -/
theorem load_some_eq_ok {file : ConfigFile} {env : Environment} {c : LoginConfig} :
    load (some file) env = .ok c ↔ ∃ c₀ registrations, readFile file = .ok c₀ ∧
      c₀.registrations.mapM (withSecret env) = .ok registrations ∧
      { c₀ with login := c₀.login.override env, registrations } = c := by
  unfold load
  simp only [bind_eq_ok, pure, Except.pure, Except.ok.injEq]
  constructor
  · rintro ⟨c₀, hfile, registrations, hsecrets, rfl⟩
    exact ⟨c₀, registrations, hfile, hsecrets, rfl⟩
  · rintro ⟨c₀, registrations, hfile, hsecrets, rfl⟩
    exact ⟨c₀, hfile, registrations, hsecrets, rfl⟩

/-- A configuration that is loaded was adjusted by the environment, from made registrations. -/
theorem adjusted_of_load {file : Option ConfigFile} {env : Environment} {c : LoginConfig}
    (h : load file env = .ok c) :
    ∃ c₀ : LoginConfig, (∀ r ∈ c₀.registrations, r.Made) ∧ c.login = c₀.login.override env ∧
      c₀.registrations.mapM (withSecret env) = .ok c.registrations := by
  cases file with
  | none =>
    obtain rfl := Except.ok.inj h
    exact ⟨{}, by simp, rfl, rfl⟩
  | some f =>
    obtain ⟨c₀, registrations, hfile, hsecrets, rfl⟩ := load_some_eq_ok.1 h
    exact ⟨c₀, made_of_readFile hfile, rfl, hsecrets⟩

/-- The file of a configuration that is saved describes it. -/
theorem readFile_toText {c : LoginConfig} (h : ∀ r ∈ c.registrations, r.Made)
    (hyaml : Yaml.read (Yaml.write c.toValue) = .ok c.toValue) (path : String) :
    readFile ⟨path, c.toText⟩ = .ok
      { c with registrations := c.registrations.map Registration.withoutSecret, path } := by
  have htext : c.toText.toList = Yaml.write c.toValue := String.toList_ofList
  unfold readFile
  rw [htext, hyaml]
  exact read_toValue h path

/-- What is written of configurations differs only if more than their secrets does. -/
theorem toValue_eq_of_withoutSecret {c c' : LoginConfig} (hlogin : c.login = c'.login)
    (h : c.registrations.map Registration.withoutSecret =
      c'.registrations.map Registration.withoutSecret) : c.toValue = c'.toValue := by
  have hwritten : ∀ c : LoginConfig, c.registrations.map Registration.toValue =
      (c.registrations.map Registration.withoutSecret).map Registration.toValue := by
    intro c
    rw [List.map_map]
    rfl
  unfold toValue
  rw [hlogin, hwritten c, hwritten c', h]

/-- A configuration survives being saved and loaded again. What is written of a configuration whose
registrations were made describes it without its secrets, on which it does not depend; a
configuration that was loaded and is saved is loaded from the new file in the same environment with
the same settings and registrations, but for the secrets that the environment does not give. -/
theorem saved_and_reloaded :
    (∀ c : LoginConfig, (∀ r ∈ c.registrations, r.Made) → read c.toValue =
      .ok { c with registrations := c.registrations.map Registration.withoutSecret, path := none }) ∧
    (∀ c c' : LoginConfig, c.login = c'.login →
      c.registrations.map Registration.withoutSecret =
        c'.registrations.map Registration.withoutSecret → c.toValue = c'.toValue) ∧
    ∀ (file : Option ConfigFile) (env : Environment) (c : LoginConfig) (path : String),
      load file env = .ok c → Yaml.read (Yaml.write c.toValue) = .ok c.toValue →
      load (some ⟨path, c.toText⟩) env = .ok
        { c with
          registrations := c.registrations.map fun r =>
            if env.givesSecret r then r else r.withoutSecret
          path } := by
  refine ⟨fun c hc => read_toValue hc none, fun c c' => toValue_eq_of_withoutSecret,
    fun file env c path h hyaml => ?_⟩
  obtain ⟨c₀, hmade₀, hlogin, hsecrets⟩ := adjusted_of_load h
  have hmade : ∀ r ∈ c.registrations, r.Made := by
    intro r hr
    obtain ⟨r₀, hr₀, hwith⟩ := exists_mem_of_mapM hsecrets hr
    exact made_of_withSecret (hmade₀ r₀ hr₀) hwith
  have hagain : (c.registrations.map Registration.withoutSecret).mapM (withSecret env) =
      .ok (c.registrations.map fun r => if env.givesSecret r then r else r.withoutSecret) := by
    refine mapM_map_eq_ok fun r hr => ?_
    obtain ⟨r₀, -, hwith⟩ := exists_mem_of_mapM hsecrets hr
    exact withSecret_withoutSecret hwith
  have hsettings : c.login.override env = c.login := by
    rw [hlogin, LoginSettings.override_override]
  refine load_some_eq_ok.2 ⟨_, _, readFile_toText hmade hyaml path, hagain, ?_⟩
  simp only [hsettings]

/-- Two registrations with secrets of their own, one of which the environment gives: the other is
lost when the configuration is saved and loaded again. -/
theorem saved_and_reloaded_of_two :
    let file : ConfigFile := ⟨"config.yaml",
      "login:\n  success_url: /home\nregistrations:\n" ++
      "- registration_id: my-app\n  client_id: a\n  client_secret: written\n" ++
      "- provider: github\n  client_id: b\n  client_secret: kept\n"⟩
    let env : Environment :=
      [("OAUTH2LOGIN_MY_APP_CLIENT_SECRET", "given"), ("OAUTH2LOGIN_REQUEST_TTL_SECONDS", "30")]
    ∃ c c', load (some file) env = .ok c ∧
      c.registrations.map (·.clientSecret) = [.text "given", .text "kept"] ∧
      read c.toValue = .ok
        { c with registrations := c.registrations.map Registration.withoutSecret, path := none } ∧
      c.toValue = { c with registrations := c.registrations.map Registration.withoutSecret }.toValue ∧
      load (some ⟨"saved.yaml", c.toText⟩) env = .ok c' ∧ c'.login = c.login ∧
      c'.registrations.map (·.clientSecret) = [.text "given", .null] := by
  intro file env
  have hcheck : ((load (some file) env).toOption.any fun c =>
      decide ((Yaml.read (Yaml.write c.toValue)).toOption = some c.toValue) &&
      decide (c.registrations.map (·.clientSecret) = [.text "given", .text "kept"]) &&
      decide ((c.registrations.map fun r => if env.givesSecret r then r else r.withoutSecret).map
        (·.clientSecret) = [.text "given", .null]) &&
      c.registrations.all fun r => r.id.truthy && r.clientId.truthy && r.clientName.truthy) =
      true := by decide +kernel
  obtain ⟨c, hload, hc⟩ := (Option.any_eq_true _ _).1 hcheck
  simp only [Bool.and_eq_true, decide_eq_true_eq, List.all_eq_true] at hc
  obtain ⟨⟨⟨hyaml, hsecrets⟩, hsecrets'⟩, hmade⟩ := hc
  have hload := toOption_eq_some.1 hload
  obtain ⟨hread, hwritten, hreloaded⟩ := saved_and_reloaded
  exact ⟨c, _, hload, hsecrets,
    hread c fun r hr => Registration.made_iff.2 ⟨(hmade r hr).1.1, (hmade r hr).1.2, (hmade r hr).2⟩,
    hwritten _ _ rfl (by rw [List.map_map]; rfl),
    hreloaded (some file) env c "saved.yaml" hload (toOption_eq_some.1 hyaml), rfl, hsecrets'⟩

end LoginConfig

end LoginCallback
