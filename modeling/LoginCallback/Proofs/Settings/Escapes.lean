import LoginCallback.Proofs.Settings.Presets
import LoginCallback.Proofs.Settings.Secrets

/-!
# Faults of files that are not reported

Faults of a configuration file are reported as faults of the configuration, or at least of a value
(`Fault.IsOfConfiguration`). `Escapes` describes the files that are refused with another fault, and
this fault: the login settings or the registrations are not of the kind they must be, an entry is
none, its preset or its domain is no text (`Misread`), or an identifier is none. Main statement:
`load_escapes`, there are no others.
-/

namespace LoginCallback

open LoginConfig Entries

/-- The fault is one of the configuration or of a value. -/
def Fault.IsOfConfiguration (e : Fault) : Prop :=
  e.category = .configuration ∨ e.category = .value ∨ e.category = .encoding

namespace LoginConfig

variable {v d : Value} {es : Entries} {e : Fault} {file : ConfigFile} {env : Environment}

/-- An entry of a configuration that cannot be read, and the fault: it is no mapping and cannot be
made into one, its preset is neither null nor a text, or its domain of Okta is. -/
inductive Misread (v : Value) : Fault → Prop where
  | entries {f : Value.Fault} (hv : v.toEntries = .error f) (hf : f.category = .kind) :
      Misread v (.value f)
  | preset {es : Entries} {p : Value} (hv : v.toEntries = .ok es)
      (hp : text? es "provider" = some p) (hnull : p ≠ .null) (htext : p.isText = false) :
      Misread v (.value (.noMember p.kind "lower"))
  | domain {es : Entries} {e : Fault} (hv : v.toEntries = .ok es) (he : MisreadsDomain es e) :
      Misread v e

/-- The login settings of a file are those of a mapping, or the defaults. -/
def LoginFits (es : Entries) : Prop :=
  ∀ d, text? es "login" = some d → d.truthy = true → ∃ fs, d = .mapping fs

/-- The entries of a file, one for each registration. -/
def entriesIn (es : Entries) : Except Value.Fault (List Value) :=
  ((text? es "registrations").getD (.list [])).items

/-- A file that is refused with a fault that is not reported, and the fault. -/
inductive Escapes (es : Entries) : Fault → Prop where
  | login {d : Value} (hd : text? es "login" = some d) (htruthy : d.truthy = true)
      (hkind : ∀ fs, d ≠ .mapping fs) : Escapes es (.value (.noMember d.kind "get"))
  | registrations {f : Value.Fault} (hlogin : LoginFits es) (hf : entriesIn es = .error f) :
      Escapes es (.value f)
  | entry {before after : List Value} {v : Value} {e : Fault} (hlogin : LoginFits es)
      (hes : entriesIn es = .ok (before ++ v :: after))
      (hbefore : ∀ w ∈ before, ∃ r, readRegistration w = .ok r) (hv : Misread v e) : Escapes es e
  | identifier {vs : List Value} {before after : List Registration} {r : Registration}
      (hlogin : LoginFits es) (hes : entriesIn es = .ok vs)
      (hread : vs.mapM readRegistration = .ok (before ++ r :: after))
      (hbefore : ∀ q ∈ before, q.id.isText = true) (hr : r.id.isText = false) :
      Escapes es (.value (.noMember r.id.kind "upper"))

/-! ## One entry -/

theorem category_of_pairsOf {i : Nat} {found : Entries} {xs : List Value} {f : Value.Fault}
    (h : Value.pairsOf i found xs = .error f) : f.category = .kind ∨ f.category = .value := by
  induction xs generalizing i found with
  | nil => cases h
  | cons x xs ih =>
    unfold Value.pairsOf at h
    split at h
    · obtain rfl := Except.error.inj h
      exact Or.inl rfl
    · rcases bind_eq_error.1 h with h | ⟨key, -, h⟩
      · unfold Value.asKey at h
        split at h
        · cases h
        · obtain rfl := Except.error.inj h
          exact Or.inl rfl
      · exact ih h
    · obtain rfl := Except.error.inj h
      exact Or.inr rfl

theorem category_of_toEntries {f : Value.Fault} (h : v.toEntries = .error f) :
    f.category = .kind ∨ f.category = .value := by
  unfold Value.toEntries at h
  split at h
  · cases h
  · rcases bind_eq_error.1 h with h | ⟨xs, -, h⟩
    · exact Or.inl (Value.category_of_items h)
    · exact category_of_pairsOf h

theorem readRegistration_of_toEntries (h : v.toEntries = .ok es) :
    readRegistration v = readRegistration (.mapping es) := by
  unfold readRegistration
  rw [h]
  rfl

theorem reported_of_ofEntries (h : Registration.ofEntries es = .error e) :
    isReported e.category = true := by
  have hrequired : ∀ {key : String} {e : Fault},
      ofValue ((Value.mapping es).item key) = .error e → isReported e.category = true := by
    intro key e h
    obtain ⟨f, hf, rfl⟩ := mapError_eq_error.1 h
    unfold Value.item at hf
    dsimp only at hf
    split at hf
    · cases hf
    · obtain rfl := Except.error.inj hf
      rfl
  rcases bind_eq_error.1 h with h | ⟨id, -, h⟩
  · exact hrequired h
  rcases bind_eq_error.1 h with h | ⟨clientId, -, h⟩
  · exact hrequired h
  rcases bind_eq_error.1 h with h | ⟨scopes, -, h⟩
  · obtain ⟨f, hf, rfl⟩ := mapError_eq_error.1 h
    exact Registration.reported_of_items hf
  · exact Registration.reported_of_ofDraft h

theorem readRegistration_without_preset (h : (text? es "provider").getD .null = .null) :
    readRegistration (.mapping es) = report
      ((text? (es.erase (.text "provider")) "registration_id").getD .null)
      (Registration.ofEntries (es.erase (.text "provider"))) := by
  rw [readRegistration_mapping, h]

theorem readRegistration_of_misnamed {p : Value} (hp : text? es "provider" = some p)
    (hnull : p ≠ .null) (htext : p.isText = false) :
    readRegistration (.mapping es) = .error (.value (.noMember p.kind "lower")) := by
  rw [readRegistration_mapping, hp]
  cases p with
  | null => exact absurd rfl hnull
  | text => cases htext
  | bool | int | float | list | mapping | foreign => rfl

theorem Misread.category (h : Misread v e) : e.category = .kind ∨ e.category = .member := by
  cases h with
  | entries hv hf => exact Or.inl hf
  | preset => exact Or.inr rfl
  | domain hv he =>
    obtain ⟨-, d, -, -, -, rfl⟩ := he.domain
    exact Or.inr rfl

theorem not_isOfConfiguration (h : e.category = .kind ∨ e.category = .member) :
    ¬ e.IsOfConfiguration := by
  unfold Fault.IsOfConfiguration
  rcases h with h | h <;> rw [h] <;> decide

/-- What escapes from reading an entry. -/
theorem readRegistration_escapes : readRegistration v = .error e ∧ ¬ e.IsOfConfiguration ↔
    Misread v e := by
  constructor
  · rintro ⟨h, he⟩
    cases hv : v.toEntries with
    | error f =>
      unfold readRegistration at h
      rw [hv] at h
      obtain rfl := Except.error.inj h
      refine .entries hv ((category_of_toEntries hv).resolve_right fun hvalue => ?_)
      exact he (Or.inr (Or.inl hvalue))
    | ok es =>
      rw [readRegistration_of_toEntries hv] at h
      have hconfiguration : ¬ ∃ m, e = .configuration m := by
        rintro ⟨m, rfl⟩
        exact he (Or.inl rfl)
      -- an entry without a preset has all its faults reported
      have hplain : (text? es "provider").getD .null = .null → Misread v e := by
        intro hnull
        rw [readRegistration_without_preset hnull] at h
        obtain ⟨h, hreported⟩ := (report_eq_error h).resolve_left hconfiguration
        rw [reported_of_ofEntries h] at hreported
        cases hreported
      cases hp : text? es "provider" with
      | none => exact hplain (by rw [hp]; rfl)
      | some p =>
        cases p with
        | null => exact hplain (by rw [hp]; rfl)
        | text w =>
          exact .domain hv ((configuration_or_misreads hp h).resolve_left hconfiguration)
        | bool | int | float | list | mapping | foreign =>
          rw [readRegistration_of_misnamed hp Value.noConfusion rfl] at h
          obtain rfl := Except.error.inj h
          exact .preset hv hp Value.noConfusion rfl
  · intro h
    refine ⟨?_, not_isOfConfiguration h.category⟩
    cases h with
    | entries hv hf =>
      unfold readRegistration
      rw [hv]
      rfl
    | preset hv hp hnull htext =>
      rw [readRegistration_of_toEntries hv, readRegistration_of_misnamed hp hnull htext]
    | domain hv he => rw [readRegistration_of_toEntries hv, readRegistration_of_misreads he]

/-! ## The file -/

/-- The login settings of a file. -/
def readLogin (es : Entries) : Except Fault LoginSettings :=
  let login := (text? es "login").getD (.mapping [])
  if login.truthy then LoginSettings.read login else .ok {}

theorem read_mapping (es : Entries) (path : Option String) : read (.mapping es) path = (do
    let login ← readLogin es
    let vs ← ofValue (entriesIn es)
    let registrations ← vs.mapM readRegistration
    return { login, registrations, path }) := by
  have hlogin : (Value.mapping es).getD "login" (.mapping []) =
      .ok ((text? es "login").getD (.mapping [])) := rfl
  unfold read readLogin
  rw [hlogin]
  dsimp only [ofValue, Except.mapError, bind, Except.bind]
  cases ((text? es "login").getD (.mapping [])).truthy with
  | true => rfl
  | false => rfl

theorem readLogin_of_fits (h : LoginFits es) : ∃ login, readLogin es = .ok login := by
  unfold readLogin
  dsimp only
  cases hd : text? es "login" with
  | none => exact ⟨{}, rfl⟩
  | some d =>
    cases htruthy : d.truthy with
    | false => exact ⟨{}, by rw [Option.getD_some, htruthy, if_neg Bool.false_ne_true]⟩
    | true =>
      obtain ⟨fs, rfl⟩ := h d hd htruthy
      exact ⟨_, by rw [Option.getD_some, htruthy, if_pos rfl]; rfl⟩

theorem readLogin_of_kind (hd : text? es "login" = some d) (htruthy : d.truthy = true)
    (hkind : ∀ fs, d ≠ .mapping fs) :
    readLogin es = .error (.value (.noMember d.kind "get")) := by
  unfold readLogin
  dsimp only
  rw [hd, Option.getD_some, htruthy, if_pos rfl]
  cases d with
  | mapping fs => exact absurd rfl (hkind fs)
  | null | bool | int | float | text | list | foreign => rfl

theorem fits_of_readLogin {login : LoginSettings} (h : readLogin es = .ok login) : LoginFits es := by
  intro d hd htruthy
  refine Classical.byContradiction fun hkind => ?_
  rw [readLogin_of_kind hd htruthy fun fs hfs => hkind ⟨fs, hfs⟩] at h
  cases h

theorem escapes_of_readLogin (h : readLogin es = .error e) : Escapes es e := by
  by_cases hlogin : LoginFits es
  · obtain ⟨login, hread⟩ := readLogin_of_fits hlogin
    rw [hread] at h
    cases h
  · unfold LoginFits at hlogin
    simp only [Classical.not_forall] at hlogin
    obtain ⟨d, hd, htruthy, hkind⟩ := hlogin
    have hkind : ∀ fs, d ≠ .mapping fs := fun fs hfs => hkind ⟨fs, hfs⟩
    rw [readLogin_of_kind hd htruthy hkind] at h
    obtain rfl := Except.error.inj h
    exact .login hd htruthy hkind

/-- Reading an empty mapping gives the defaults, so that a file need not be told from an empty
one. -/
theorem readFile_mapping (hv : Yaml.read file.text.toList = .ok (.mapping es)) :
    readFile file = read (.mapping es) file.path := by
  unfold readFile
  rw [hv]
  cases es with
  | nil => rfl
  | cons e es => rfl

theorem load_of_readFile_error (h : readFile file = .error e) : load (some file) env = .error e := by
  unfold load
  dsimp only
  rw [h]
  rfl

/-- A file that is not a mapping is reported, or empty. -/
theorem load_of_not_mapping (hv : Yaml.read file.text.toList = .ok v) (hkind : ∀ es, v ≠ .mapping es)
    (h : load (some file) env = .error e) : e.IsOfConfiguration := by
  cases htruthy : v.truthy with
  | false =>
    have hfile : readFile file = .ok { path := file.path } := by
      unfold readFile
      rw [hv]
      dsimp only
      rw [htruthy]
      rfl
    obtain ⟨before, r, after, hnone, -⟩ := (load_eq_error hfile).1 h
    exact absurd hnone (by simp)
  | true =>
    have hfile : readFile file =
        .error (.configuration ("Config file " ++ file.path ++ " must contain a mapping")) := by
      unfold readFile
      rw [hv]
      dsimp only
      rw [htruthy]
      cases v with
      | mapping es => exact absurd rfl (hkind es)
      | null | bool | int | float | text | list | foreign => rfl
    rw [load_of_readFile_error hfile] at h
    obtain rfl := Except.error.inj h
    exact Or.inl rfl

theorem Escapes.category (h : Escapes es e) : e.category = .kind ∨ e.category = .member := by
  cases h with
  | login | identifier => exact Or.inr rfl
  | registrations hlogin hf => exact Or.inl (Value.category_of_items hf)
  | entry hlogin hes hbefore hv => exact hv.category

theorem escapes_of_read {path : Option String} (h : read (.mapping es) path = .error e)
    (he : ¬ e.IsOfConfiguration) : Escapes es e := by
  rw [read_mapping] at h
  rcases bind_eq_error.1 h with h | ⟨login, hlogin, h⟩
  · exact escapes_of_readLogin h
  have hlogin := fits_of_readLogin hlogin
  rcases bind_eq_error.1 h with h | ⟨vs, hvs, h⟩
  · obtain ⟨f, hf, rfl⟩ := mapError_eq_error.1 h
    exact .registrations hlogin hf
  rcases bind_eq_error.1 h with h | ⟨rs, -, h⟩
  · obtain ⟨before, v, after, rfl, hbefore, hv⟩ := mapM_eq_error.1 h
    exact .entry hlogin (ofValue_eq_ok.1 hvs) hbefore (readRegistration_escapes.1 ⟨hv, he⟩)
  · cases h

theorem read_eq_ok {path : Option String} {c₀ : LoginConfig}
    (h : read (.mapping es) path = .ok c₀) : LoginFits es ∧
      ∃ vs, entriesIn es = .ok vs ∧ vs.mapM readRegistration = .ok c₀.registrations := by
  rw [read_mapping] at h
  obtain ⟨login, hlogin, h⟩ := bind_eq_ok.1 h
  obtain ⟨vs, hvs, h⟩ := bind_eq_ok.1 h
  obtain ⟨rs, hrs, h⟩ := bind_eq_ok.1 h
  obtain rfl := Except.ok.inj h
  exact ⟨fits_of_readLogin hlogin, vs, ofValue_eq_ok.1 hvs, hrs⟩

theorem load_of_escapes (hv : Yaml.read file.text.toList = .ok (.mapping es)) (h : Escapes es e) :
    load (some file) env = .error e := by
  have hfile := readFile_mapping hv
  cases h with
  | login hd htruthy hkind =>
    refine load_of_readFile_error ?_
    rw [hfile, read_mapping, readLogin_of_kind hd htruthy hkind]
    rfl
  | registrations hlogin hf =>
    obtain ⟨login, hread⟩ := readLogin_of_fits hlogin
    refine load_of_readFile_error ?_
    rw [hfile, read_mapping, hread, hf]
    rfl
  | entry hlogin hes hbefore hentry =>
    obtain ⟨login, hread⟩ := readLogin_of_fits hlogin
    refine load_of_readFile_error ?_
    rw [hfile, read_mapping, hread, hes]
    show (List.mapM readRegistration _ >>= _) = _
    rw [mapM_eq_error.2 ⟨_, _, _, rfl, hbefore, (readRegistration_escapes.2 hentry).1⟩]
    rfl
  | @identifier vs before after r hlogin hes hread hbefore hr =>
    obtain ⟨login, hlogin⟩ := readLogin_of_fits hlogin
    have hok : readFile file = .ok ⟨login, before ++ r :: after, some file.path⟩ := by
      rw [hfile, read_mapping, hlogin, hes]
      show (List.mapM readRegistration _ >>= _) = _
      rw [hread]
      rfl
    exact (load_eq_error hok).2 ⟨_, _, _, rfl, hbefore, hr, rfl⟩

/-- The files that are refused with a fault that is neither one of the configuration nor one of a
value are those that `Escapes` describes, and the fault is the one it gives: a wrong kind of value,
or an operation that a value does not have. Every other file is loaded or reported. -/
theorem load_escapes (hv : Yaml.read file.text.toList = .ok v) :
    (∀ env e, load (some file) env = .error e ∧ ¬ e.IsOfConfiguration ↔
      ∃ es, v = .mapping es ∧ Escapes es e) ∧
    ∀ es e, Escapes es e → e.category = .kind ∨ e.category = .member := by
  refine ⟨fun env e => ⟨?_, ?_⟩, fun es e => Escapes.category⟩
  · rintro ⟨h, he⟩
    by_cases hkind : ∃ es, v = .mapping es
    · obtain ⟨es, rfl⟩ := hkind
      refine ⟨es, rfl, ?_⟩
      have hfile := readFile_mapping hv
      -- the fault is one of reading the file, or one of the secrets behind it
      cases hread : read (.mapping es) file.path with
      | error e' =>
        rw [hread] at hfile
        rw [load_of_readFile_error hfile] at h
        exact escapes_of_read (hread.trans h) he
      | ok c₀ =>
        obtain ⟨before, r, after, hrs, hbefore, hr, rfl⟩ :=
          (load_eq_error (hfile.trans hread)).1 h
        obtain ⟨hlogin, vs, hes, hmap⟩ := read_eq_ok hread
        exact .identifier hlogin hes (hrs ▸ hmap) hbefore hr
    · exact absurd (load_of_not_mapping hv (fun es hes => hkind ⟨es, hes⟩) h) he
  · rintro ⟨es, rfl, h⟩
    exact ⟨load_of_escapes hv h, not_isOfConfiguration h.category⟩

/-- An identifier that is a number. -/
theorem load_escapes_identifier :
    let file : ConfigFile :=
      ⟨"config.yaml", "registrations:\n- registration_id: 7\n  client_id: a\n"⟩
    let fault : Fault := .value (.noMember "int" "upper")
    load (some file) [] = .error fault ∧ ¬ fault.IsOfConfiguration := by
  intro file fault
  have hv : Yaml.read file.text.toList = .ok (.mapping [(.text "registrations", .list [.mapping
      [(.text "registration_id", .int 7), (.text "client_id", .text "a")]])]) :=
    toOption_eq_some.1 (by decide +kernel)
  have hread : [Value.mapping [(.text "registration_id", .int 7), (.text "client_id", .text "a")]].mapM
      readRegistration = .ok ([] ++ Registration.ofChecked
        { id := .int 7, clientId := .text "a" } [] .secretBasic :: []) := rfl
  exact ((load_escapes hv).1 [] _).2 ⟨_, rfl, .identifier (fun d hd => by cases hd) rfl hread
    (fun q hq => by cases hq) rfl⟩

/-- A preset that is a number: the fault is an operation that numbers do not have. -/
theorem preset_escapes :
    let file : ConfigFile := ⟨"config.yaml", "registrations:\n- provider: 5\n  client_id: x\n"⟩
    let fault : Fault := .value (.noMember "int" "lower")
    load (some file) [] = .error fault ∧ ¬ fault.IsOfConfiguration := by
  intro file fault
  have hv : Yaml.read file.text.toList = .ok (.mapping [(.text "registrations", .list [.mapping
      [(.text "provider", .int 5), (.text "client_id", .text "x")]])]) :=
    toOption_eq_some.1 (by decide +kernel)
  have hmisread : Misread (.mapping [(.text "provider", .int 5), (.text "client_id", .text "x")])
      (.value (.noMember (Value.int 5).kind "lower")) :=
    .preset rfl rfl Value.noConfusion rfl
  have hescapes : Escapes [(.text "registrations", .list [.mapping
      [(.text "provider", .int 5), (.text "client_id", .text "x")]])] fault :=
    .entry (fun d hd => by cases hd) rfl (fun w hw => absurd hw List.not_mem_nil) hmisread
  exact ⟨load_of_escapes hv hescapes, not_isOfConfiguration hescapes.category⟩

end LoginConfig

end LoginCallback
