import LoginCallback.Registration.Preset
import LoginCallback.Settings.Login

/-!
# Configurations

A configuration consists of login settings and client registrations. A registration may name a
preset in its field `provider`. Secrets are not written back.
-/

namespace LoginCallback

structure LoginConfig where
  login : LoginSettings := {}
  registrations : List Registration := []
  /-- The file that the configuration was read from. -/
  path : Option String := none

namespace LoginConfig

/-- Faults of a registration that are reported as faults of the configuration. -/
def isReported : Category → Bool
  | .key | .kind | .value | .encoding | .configuration => true
  | _ => false

/-- Reports a fault of the registration that is called so. -/
def report {α : Type} (name : Value) (x : Except Fault α) : Except Fault α :=
  match x with
  | .error e =>
    if isReported e.category then
      .error (.configuration ("Invalid client registration " ++ name.quoted ++ ": " ++ e.message))
    else .error e
  | x => x

/-- The registration of a preset. -/
def readPreset (provider : Value) (es : Entries) : Except Fault Registration := do
  let named := (Entries.text? es "registration_id").getD provider
  let word ← ofValue (provider.textFor "lower")
  let preset ← report named (Preset.ofValue (.text (Text.lower word)))
  let id := (Entries.text? es "registration_id").getD (.text preset.name)
  let es := Entries.erase es (.text "registration_id")
  report provider do
    match Entries.text? es "client_id" with
    | none => throw (.value (.missingKey (.text "client_id")))
    | some clientId =>
      let secret := (Entries.text? es "client_secret").getD .null
      let es := Entries.erase (Entries.erase es (.text "client_id")) (.text "client_secret")
      let es ← match Entries.text? es "scopes" with
        | some scopes => pure (Entries.insert es (.text "scopes") (.list (← ofValue scopes.items)))
        | none => pure es
      preset.register id clientId secret es

/-- The registration that an entry of a configuration describes. -/
def readRegistration (v : Value) : Except Fault Registration := do
  let es ← ofValue v.toEntries
  let provider := (Entries.text? es "provider").getD .null
  let es := Entries.erase es (.text "provider")
  match provider with
  | .null => report ((Entries.text? es "registration_id").getD .null) (Registration.ofEntries es)
  | provider => readPreset provider es

/-- The configuration that a value describes, and the file that the value was read from. -/
def read (v : Value) (path : Option String := none) : Except Fault LoginConfig := do
  let login ← ofValue (v.getD "login" (.mapping []))
  let login ← if login.truthy then LoginSettings.read login else pure {}
  let registrations ← ofValue (do (← v.getD "registrations" (.list [])).items)
  return { login, registrations := ← registrations.mapM readRegistration, path }

/-- The configuration without its secrets. -/
def toValue (c : LoginConfig) : Value :=
  Value.record [
    ("login", c.login.toValue),
    ("registrations", .list (c.registrations.map Registration.toValue))]

end LoginConfig

end LoginCallback
