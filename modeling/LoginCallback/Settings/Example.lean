import LoginCallback.Settings.Config
import LoginCallback.Yaml.Reading
import LoginCallback.Yaml.Writer

/-!
# Written configurations

A configuration as the text of a file, and a commented file to begin with.
-/

namespace LoginCallback

namespace LoginConfig

/-- The text of a file that describes the configuration, without its secrets. -/
def toText (c : LoginConfig) : String := String.ofList (Yaml.write c.toValue)

/-- The configuration that a text describes. -/
def ofText (text : String) : Except Fault LoginConfig := do
  read (← (Yaml.read text.toList).mapError .yaml)

/-- The lines of a file that names every setting, with its default, and one registration. -/
def exampleLines : List String :=
  ["# OAuth2 Login Configuration File",
   "# Environment variables override these settings (prefix: OAUTH2LOGIN_)",
   "",
   "login:",
   "  # Callback path; \x7bregistration_id\x7d names the client registration",
   "  callback_path: \"/login/oauth2/code/\x7bregistration_id\x7d\"",
   "",
   "  # Where the default handlers redirect after login",
   "  success_url: \"/\"",
   "  failure_url: \"/login\"",
   "",
   "  # Lifetime of a pending authorization request (seconds, null disables expiry)",
   "  request_ttl_seconds: 600",
   "",
   "  # Pending authorization requests kept per session",
   "  max_pending_requests: 8",
   "",
   "  # Timeout for token and user-info requests (seconds)",
   "  http_timeout: 10.0",
   "",
   "  log_level: \"INFO\"",
   "",
   "registrations:",
   "  # Provider presets: google, github, facebook, okta",
   "  - provider: github",
   "    registration_id: github",
   "    client_id: \"your-client-id\"",
   "    # Prefer OAUTH2LOGIN_GITHUB_CLIENT_SECRET",
   "    # client_secret: \"your-client-secret\"",
   "",
   "  # Fully specified registration",
   "  # - registration_id: corp",
   "  #   client_id: \"corp-client\"",
   "  #   client_authentication_method: client_secret_post",
   "  #   scopes: [openid, profile]",
   "  #   authorization_uri: https://sso.example.com/authorize",
   "  #   token_uri: https://sso.example.com/token",
   "  #   user_info_uri: https://sso.example.com/userinfo",
   "  #   user_name_attribute: sub"]

def exampleText : String := String.join (exampleLines.map (· ++ "\n"))

end LoginConfig

end LoginCallback
