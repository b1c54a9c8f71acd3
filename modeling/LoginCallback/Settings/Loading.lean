import LoginCallback.Settings.Config
import LoginCallback.Text.Case
import LoginCallback.Yaml.Reading

/-!
# Loading a configuration

A configuration is read from a file, if there is one, and then adjusted by environment variables.
Each registration takes its secret from a variable of its own if that is set, so that secrets can be
kept out of the file.
-/

namespace LoginCallback

/-- The environment variables, each with its value. -/
abbrev Environment := List (String × String)

namespace Environment

/-- What the names of all variables of the library begin with. -/
def scope : String := "OAUTH2LOGIN_"

def get? (env : Environment) (name : String) : Option String := env.lookup (scope ++ name)

/-- The value of a variable that is set and not empty. -/
def given? (env : Environment) (name : String) : Option String :=
  (env.get? name).filter (!·.isEmpty)

/-- The variable that holds the secret of a registration. -/
def secretName (id : String) : String :=
  String.ofList ((Text.upper id).toList.map fun c => if c == '-' then '_' else c)
    ++ "_CLIENT_SECRET"

end Environment

/-- A file with the name it is known by. -/
structure ConfigFile where
  path : String
  text : String

namespace LoginSettings

/-- The settings that the environment gives. Numbers that cannot be read are ignored, and so is a
largest number of pending requests that is zero. -/
def override (env : Environment) (s : LoginSettings) : LoginSettings :=
  let text (name : String) (default : Value) : Value := ((env.given? name).map .text).getD default
  let integer (name : String) : Option Int := (env.get? name).bind Decimal.readInt?
  { callbackPath := text "CALLBACK_PATH" s.callbackPath
    successUrl := text "SUCCESS_URL" s.successUrl
    failureUrl := text "FAILURE_URL" s.failureUrl
    requestTtl := ((integer "REQUEST_TTL_SECONDS").map .int).getD s.requestTtl
    maxPending := (((integer "MAX_PENDING_REQUESTS").filter (· != 0)).map .int).getD s.maxPending
    httpTimeout :=
      (((env.get? "HTTP_TIMEOUT").bind Decimal.readFloat?).map .float).getD s.httpTimeout
    logLevel := text "LOG_LEVEL" s.logLevel }

end LoginSettings

namespace LoginConfig

/-- The configuration that a file describes. An empty one describes the defaults. -/
def readFile (file : ConfigFile) : Except Fault LoginConfig := do
  match Yaml.read file.text.toList with
  | .error .malformed => throw (.configuration ("Invalid config file " ++ file.path))
  | .error f => throw (.yaml f)
  | .ok v =>
    if !v.truthy then read (.mapping []) file.path
    else match v with
      | .mapping _ => read v file.path
      | _ => throw (.configuration ("Config file " ++ file.path ++ " must contain a mapping"))

/-- A registration with the secret that the environment gives for it. -/
def withSecret (env : Environment) (r : Registration) : Except Fault Registration := do
  let id ← ofValue (r.id.textFor "upper")
  match env.given? (Environment.secretName id) with
  | some secret => return { r with clientSecret := .text secret }
  | none => return r

/-- The configuration of a file, or the defaults without one, adjusted by the environment. -/
def load (file : Option ConfigFile) (env : Environment) : Except Fault LoginConfig := do
  let c ← match file with
    | some f => readFile f
    | none => pure {}
  return { c with
    login := c.login.override env
    registrations := ← c.registrations.mapM (withSecret env) }

end LoginConfig

end LoginCallback
