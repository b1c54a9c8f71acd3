import LoginCallback.Proofs.Settings.Reloading

/-!
# Secrets that the environment gives

The environment gives a registration a secret in a variable whose name is made of its identifier
(`Environment.secretVariable`). Different identifiers may lead to one name, and then the variable
gives the secret of each of these registrations. Main statement: `secret_reaches`, two environments
that agree on all other variables load a file alike but for the secrets of these registrations.
-/

namespace LoginCallback

namespace Environment

/-- The variable that holds the secret of the registration with this identifier. -/
def secretVariable (id : String) : String := scope ++ secretName id

/-- The environments give all variables but one the same values. -/
def AgreeExcept (name : String) (env env' : Environment) : Prop :=
  ∀ n, n ≠ name → env.lookup n = env'.lookup n

/-- The secret of a registration: the value of its variable, or its own secret if that is not set or
empty. -/
def secretOf (env : Environment) (r : Registration) : Value :=
  match r.id with
  | .text id => ((env.given? (secretName id)).map .text).getD r.clientSecret
  | _ => r.clientSecret

/-- The names of the variables that give settings. -/
def settingNames : List String :=
  ["CALLBACK_PATH", "SUCCESS_URL", "FAILURE_URL", "REQUEST_TTL_SECONDS", "MAX_PENDING_REQUESTS",
    "HTTP_TIMEOUT", "LOG_LEVEL"]

variable {env env' : Environment} {r : Registration} {id : String}

theorem secretOf_of_text (h : r.id = .text id) :
    env.secretOf r = ((env.given? (secretName id)).map .text).getD r.clientSecret := by
  unfold secretOf
  rw [h]

/-- A variable for a secret gives no setting. -/
theorem secretVariable_ne {n : String} (hn : n ∈ settingNames) : scope ++ n ≠ secretVariable id := by
  intro h
  have hlist : n.toList = (secretName id).toList := by
    have htoList := congrArg String.toList h
    rw [secretVariable, String.toList_append, String.toList_append] at htoList
    exact List.append_cancel_left htoList
  have hsuffix : "_CLIENT_SECRET".toList.isSuffixOf n.toList = true := by
    rw [List.isSuffixOf_iff_suffix, hlist, secretName, String.toList_append]
    exact List.suffix_append _ _
  -- no setting has a name that ends like those of secrets
  have hall : ∀ n ∈ settingNames, "_CLIENT_SECRET".toList.isSuffixOf n.toList = false := by decide
  rw [hall n hn] at hsuffix
  cases hsuffix

theorem agreeExcept_singleton (name value : String) : AgreeExcept name [] [(name, value)] := by
  intro n hn
  have hne : (n == name) = false := by simpa using hn
  rw [List.lookup_nil, List.lookup_cons, hne]
  rfl

/-- Another registration takes its secret from another variable. -/
theorem AgreeExcept.secretOf_eq {name : String} (h : AgreeExcept name env env')
    (hr : ∀ id, r.id = .text id → secretVariable id ≠ name) : env.secretOf r = env'.secretOf r := by
  cases hid : r.id with
  | text id =>
    have hgiven : env.given? (secretName id) = env'.given? (secretName id) :=
      congrArg (Option.filter _) (h _ (hr id hid))
    rw [secretOf_of_text hid, secretOf_of_text hid, hgiven]
  | null | bool | int | float | list | mapping | foreign =>
    unfold secretOf
    rw [hid]

end Environment

/-- A variable for a secret does not matter to the settings. -/
theorem LoginSettings.override_congr {env env' : Environment} {id : String}
    (h : Environment.AgreeExcept (Environment.secretVariable id) env env') (s : LoginSettings) :
    s.override env = s.override env' := by
  have hget : ∀ n ∈ Environment.settingNames, env.get? n = env'.get? n := fun n hn =>
    h _ (Environment.secretVariable_ne hn)
  simp only [Environment.settingNames, List.forall_mem_cons, List.not_mem_nil, false_implies,
    implies_true, and_true] at hget
  unfold LoginSettings.override Environment.given?
  simp only [hget]

namespace LoginConfig

open Environment

variable {env env' : Environment} {r : Registration} {rs : List Registration} {file : ConfigFile}
  {c₀ : LoginConfig} {e : Fault}

/-- The registration with its secret, if it has a text for an identifier. -/
theorem withSecret_eq_ok (h : r.id.isText = true) :
    withSecret env r = .ok { r with clientSecret := env.secretOf r } := by
  obtain ⟨id, hid⟩ : ∃ id, r.id = .text id := by
    cases hid : r.id with
    | text id => exact ⟨id, rfl⟩
    | null | bool | int | float | list | mapping | foreign =>
      rw [hid] at h
      cases h
  rw [withSecret_of_text hid, secretOf_of_text hid]
  cases env.given? (secretName id) <;> rfl

theorem withSecret_eq_error (h : r.id.isText = false) :
    withSecret env r = .error (.value (.noMember r.id.kind "upper")) := by
  unfold withSecret
  cases hid : r.id with
  | text id =>
    rw [hid] at h
    cases h
  | null | bool | int | float | list | mapping | foreign => rfl

theorem mapM_withSecret_eq_ok (h : ∀ r ∈ rs, r.id.isText = true) : rs.mapM (withSecret env) =
    .ok (rs.map fun r => { r with clientSecret := env.secretOf r }) := by
  rw [mapM_eq_ok, List.map_map]
  exact List.map_congr_left fun r hr => withSecret_eq_ok (h r hr)

/-- The first identifier that is not a text is in the way. -/
theorem mapM_withSecret_eq_error : rs.mapM (withSecret env) = .error e ↔
    ∃ before r after, rs = before ++ r :: after ∧ (∀ q ∈ before, q.id.isText = true) ∧
      r.id.isText = false ∧ e = .value (.noMember r.id.kind "upper") := by
  have hok : ∀ q : Registration, (∃ q', withSecret env q = .ok q') ↔ q.id.isText = true := by
    intro q
    cases hq : q.id.isText with
    | true => simp [withSecret_eq_ok hq]
    | false => simp [withSecret_eq_error hq]
  have herror : ∀ q : Registration, withSecret env q = .error e ↔
      q.id.isText = false ∧ e = .value (.noMember q.id.kind "upper") := by
    intro q
    cases hq : q.id.isText with
    | true => simp [withSecret_eq_ok hq]
    | false => simp [withSecret_eq_error hq, eq_comm]
  simp only [mapM_eq_error, hok, herror]

theorem load_some_eq (hfile : readFile file = .ok c₀) : load (some file) env =
    (c₀.registrations.mapM (withSecret env)).map fun registrations =>
      { c₀ with login := c₀.login.override env, registrations } := by
  unfold load
  dsimp only
  rw [hfile]
  show (c₀.registrations.mapM (withSecret env) >>= _) = _
  cases c₀.registrations.mapM (withSecret env) <;> rfl

/-- The configuration of a file as the environment adjusts it. -/
def adjusted (c₀ : LoginConfig) (env : Environment) : LoginConfig :=
  { c₀ with
    login := c₀.login.override env
    registrations := c₀.registrations.map fun q => { q with clientSecret := env.secretOf q } }

theorem load_eq_ok (hfile : readFile file = .ok c₀)
    (htexts : ∀ q ∈ c₀.registrations, q.id.isText = true) :
    load (some file) env = .ok (c₀.adjusted env) := by
  rw [load_some_eq hfile, mapM_withSecret_eq_ok htexts]
  rfl

theorem load_eq_error (hfile : readFile file = .ok c₀) : load (some file) env = .error e ↔
    ∃ before r after, c₀.registrations = before ++ r :: after ∧
      (∀ q ∈ before, q.id.isText = true) ∧ r.id.isText = false ∧
      e = .value (.noMember r.id.kind "upper") := by
  rw [load_some_eq hfile, ← mapM_withSecret_eq_error]
  cases c₀.registrations.mapM (withSecret env) with
  | error e' => simp [Except.map]
  | ok rs => simp [Except.map]

/-- Identifiers in a configuration that is loaded are texts. -/
theorem text_of_load {c : LoginConfig} (hfile : readFile file = .ok c₀)
    (h : load (some file) env = .ok c) : ∀ q ∈ c₀.registrations, ∃ id, q.id = .text id := by
  obtain ⟨c₀', registrations, hfile', hsecrets, -⟩ := load_some_eq_ok.1 h
  rw [hfile] at hfile'
  obtain rfl := Except.ok.inj hfile'
  intro q hq
  have hmem := List.mem_map_of_mem (f := withSecret env) hq
  rw [mapM_eq_ok.1 hsecrets] at hmem
  obtain ⟨q', -, hq'⟩ := List.mem_map.1 hmem
  obtain ⟨id, hid, -⟩ := withSecret_cases hq'.symm
  exact ⟨id, hid⟩

/-- A secret of the environment reaches the registrations of its variable. In two environments that
agree on all variables but the one for an identifier, a file is loaded with the same settings and
the same registrations in the same order, which differ in nothing but their secrets, and in these
only if they take them from that variable. A registration takes the value of its variable if this is
set and not empty, and keeps its own secret otherwise. If an identifier is not a text, the file is
refused with the same fault. -/
theorem secret_reaches {id : String} (hfile : readFile file = .ok c₀)
    (henv : AgreeExcept (secretVariable id) env env') :
    ((∀ q ∈ c₀.registrations, q.id.isText = true) →
      ∃ c c', load (some file) env = .ok c ∧ load (some file) env' = .ok c' ∧
        c'.login = c.login ∧ c'.path = c.path ∧
        c.registrations = c₀.registrations.map (fun q => { q with clientSecret := env.secretOf q }) ∧
        c'.registrations =
          c₀.registrations.map (fun q => { q with clientSecret := env'.secretOf q }) ∧
        ∀ q ∈ c₀.registrations, ∀ id', q.id = .text id' →
          env.secretOf q = ((env.given? (secretName id')).map .text).getD q.clientSecret ∧
          env'.secretOf q = ((env'.given? (secretName id')).map .text).getD q.clientSecret ∧
          (secretVariable id' ≠ secretVariable id → env'.secretOf q = env.secretOf q)) ∧
    ((∃ q ∈ c₀.registrations, q.id.isText = false) →
      ∃ e, load (some file) env = .error e ∧ load (some file) env' = .error e) := by
  constructor
  · intro htexts
    refine ⟨c₀.adjusted env, c₀.adjusted env', load_eq_ok hfile htexts, load_eq_ok hfile htexts,
      (LoginSettings.override_congr henv c₀.login).symm, rfl, rfl, rfl, ?_⟩
    intro q _ id' hid
    refine ⟨secretOf_of_text hid, secretOf_of_text hid, fun hne => ?_⟩
    refine (henv.secretOf_eq fun id'' hid'' => ?_).symm
    rw [hid] at hid''
    rwa [← Value.text.inj hid'']
  · rintro ⟨q, hq, hid⟩
    cases h : load (some file) env with
    | error e => exact ⟨e, rfl, (load_eq_error hfile).2 ((load_eq_error hfile).1 h)⟩
    | ok c =>
      obtain ⟨id', hid'⟩ := text_of_load hfile h q hq
      rw [hid'] at hid
      cases hid

/-- Two registrations with variables of their own. -/
theorem secret_reaches_acme :
    let file : ConfigFile := ⟨"config.yaml",
      "registrations:\n" ++
      "- registration_id: acme\n  client_id: a\n  client_secret: written\n" ++
      "- registration_id: my-app\n  client_id: b\n  client_secret: kept\n"⟩
    let env : Environment := [(secretVariable "acme", "given")]
    ∃ c c', load (some file) [] = .ok c ∧ load (some file) env = .ok c' ∧ c'.login = c.login ∧
      c.registrations.map (·.clientSecret) = [.text "written", .text "kept"] ∧
      c'.registrations.map (·.clientSecret) = [.text "given", .text "kept"] := by
  intro file env
  have hcheck : ((readFile file).toOption.any fun c₀ =>
      c₀.registrations.all (·.id.isText) &&
      decide ((c₀.registrations.map (secretOf [])) = [.text "written", .text "kept"]) &&
      decide ((c₀.registrations.map (secretOf env)) = [.text "given", .text "kept"])) = true := by
    decide +kernel
  have henv : AgreeExcept (secretVariable "acme") [] env := agreeExcept_singleton _ _
  obtain ⟨c₀, hfile, hc⟩ := (Option.any_eq_true _ _).1 hcheck
  simp only [Bool.and_eq_true, decide_eq_true_eq, List.all_eq_true] at hc
  obtain ⟨⟨htexts, hsecrets⟩, hsecrets'⟩ := hc
  obtain ⟨c, c', hload, hload', hlogin, -, hrs, hrs', -⟩ :=
    (secret_reaches (toOption_eq_some.1 hfile) henv).1 htexts
  refine ⟨c, c', hload, hload', hlogin, ?_, ?_⟩
  · rw [hrs, List.map_map, ← hsecrets]
    rfl
  · rw [hrs', List.map_map, ← hsecrets']
    rfl

/-- Different identifiers with one variable: it gives the secret of both registrations. -/
theorem secret_shared :
    let file : ConfigFile := ⟨"config.yaml",
      "registrations:\n" ++
      "- registration_id: my-app\n  client_id: a\n" ++
      "- registration_id: my_app\n  client_id: b\n"⟩
    let env : Environment := [(secretVariable "my-app", "s")]
    AgreeExcept (secretVariable "my-app") [] env ∧
    ((load (some file) []).toOption.map fun c =>
      c.registrations.map fun r => (r.id, r.clientSecret)) =
        some [(.text "my-app", .null), (.text "my_app", .null)] ∧
    ((load (some file) env).toOption.map fun c =>
      c.registrations.map fun r => (r.id, r.clientSecret)) =
        some [(.text "my-app", .text "s"), (.text "my_app", .text "s")] := by
  exact ⟨agreeExcept_singleton _ _, by decide +kernel, by decide +kernel⟩

end LoginConfig

end LoginCallback
