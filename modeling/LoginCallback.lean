import LoginCallback.Action
import LoginCallback.Authentication.AccessToken
import LoginCallback.Authentication.Attempt
import LoginCallback.Authentication.Clients
import LoginCallback.Authentication.Filter
import LoginCallback.Authentication.Host
import LoginCallback.Authentication.LoginToken
import LoginCallback.Authentication.User
import LoginCallback.Authorization.Request
import LoginCallback.Authorization.Response
import LoginCallback.Callback.Matcher
import LoginCallback.Callback.PathTemplate
import LoginCallback.Callback.Request
import LoginCallback.Decimal.Binary
import LoginCallback.Decimal.Digits
import LoginCallback.Decimal.Radix
import LoginCallback.Decimal.Shortest
import LoginCallback.Engine.HttpEngine
import LoginCallback.Engine.TokenReply
import LoginCallback.Exchange.Basic
import LoginCallback.Exchange.Recorder
import LoginCallback.Exchange.Redaction
import LoginCallback.Failure
import LoginCallback.Fault
import LoginCallback.Http.Address
import LoginCallback.Http.Client
import LoginCallback.Http.Cookie
import LoginCallback.Http.Message
import LoginCallback.Journal
import LoginCallback.Json.Reader
import LoginCallback.Json.Writer
import LoginCallback.Octets.Base64
import LoginCallback.Octets.Basic
import LoginCallback.Octets.Form
import LoginCallback.Octets.Lenient
import LoginCallback.Registration.Basic
import LoginCallback.Registration.Preset
import LoginCallback.Registration.Repository
import LoginCallback.Session.Store
import LoginCallback.Settings.Assembly
import LoginCallback.Settings.Config
import LoginCallback.Settings.Example
import LoginCallback.Settings.Loading
import LoginCallback.Settings.LogSetup
import LoginCallback.Settings.Login
import LoginCallback.Site.App
import LoginCallback.Site.Location
import LoginCallback.Site.Reply
import LoginCallback.Site.Session
import LoginCallback.Site.Visit
import LoginCallback.Template.Expand
import LoginCallback.Template.Piece
import LoginCallback.Template.Setting
import LoginCallback.Text.Blank
import LoginCallback.Text.Case
import LoginCallback.Text.CaseTable
import LoginCallback.Text.CodeSet
import LoginCallback.Text.Printable
import LoginCallback.Text.Quoted
import LoginCallback.Text.Word
import LoginCallback.Time.Calendar
import LoginCallback.Time.Iso
import LoginCallback.Time.Moment
import LoginCallback.Url.Parts
import LoginCallback.Url.Punycode
import LoginCallback.Value.Access
import LoginCallback.Value.Basic
import LoginCallback.Value.Display
import LoginCallback.Yaml.Block
import LoginCallback.Yaml.Cursor
import LoginCallback.Yaml.Fault
import LoginCallback.Yaml.Flow
import LoginCallback.Yaml.Layout
import LoginCallback.Yaml.Node
import LoginCallback.Yaml.Reading
import LoginCallback.Yaml.Resolution
import LoginCallback.Yaml.Scalar
import LoginCallback.Yaml.Token
import LoginCallback.Yaml.Writer
import LoginCallback.Proofs.Time.Calendar
import LoginCallback.Proofs.Time.Counting
import LoginCallback.Proofs.Time.Iso
import LoginCallback.Proofs.Value.Equality
import LoginCallback.Proofs.Session.Ledger
import LoginCallback.Proofs.Session.Run
import LoginCallback.Proofs.Session.Faults
import LoginCallback.Proofs.Session.History
import LoginCallback.Proofs.Settings.Registration
import LoginCallback.Proofs.Authentication.Attempt
import LoginCallback.Proofs.Authentication.Filter
import LoginCallback.Proofs.Authentication.EngineCalls
import LoginCallback.Proofs.Authentication.Replay
import LoginCallback.Proofs.Authentication.StateMachine
import LoginCallback.Proofs.Session.Invariant
import LoginCallback.Proofs.Session.Expiry
import LoginCallback.Proofs.Text.Case
import LoginCallback.Proofs.Text.Words
import LoginCallback.Proofs.Template.Segment
import LoginCallback.Proofs.Callback.PathTemplate
import LoginCallback.Proofs.Callback.Language
import LoginCallback.Proofs.Callback.Matcher
import LoginCallback.Proofs.Settings.Assembly
import LoginCallback.Proofs.Settings.Redirect
import LoginCallback.Proofs.Settings.Reloading
import LoginCallback.Proofs.Engine.Watched
import LoginCallback.Proofs.Engine.Conversation
import LoginCallback.Proofs.Engine.Replies
import LoginCallback.Proofs.Engine.Login
import LoginCallback.Proofs.Engine.Faults
import LoginCallback.Proofs.Engine.Isolation
import LoginCallback.Proofs.Engine.Recording
import LoginCallback.Proofs.Engine.RedirectCheck
import LoginCallback.Proofs.Action.Parallel
import LoginCallback.Proofs.Authentication.Parallel
import LoginCallback.Proofs.Authentication.AuthorizedClients
import LoginCallback.Proofs.Octets.Characters
import LoginCallback.Proofs.Octets.Base64
import LoginCallback.Proofs.Octets.Form
import LoginCallback.Proofs.Octets.Utf8
import LoginCallback.Proofs.Engine.Credentials
import LoginCallback.Proofs.Engine.Redemption
import LoginCallback.Proofs.Exchange.Replacement
import LoginCallback.Proofs.Exchange.Names
import LoginCallback.Proofs.Exchange.Record
import LoginCallback.Proofs.Exchange.Parameters
import LoginCallback.Proofs.Exchange.Running
import LoginCallback.Proofs.Exchange.Forms
import LoginCallback.Proofs.Exchange.Secrets
import LoginCallback.Proofs.Engine.Secrecy
import LoginCallback.Proofs.Authentication.Secrecy
import LoginCallback.Proofs.Json.Writer
import LoginCallback.Proofs.Exchange.Fields
import LoginCallback.Proofs.Exchange.Tokens
import LoginCallback.Proofs.Exchange.Settled
import LoginCallback.Proofs.Exchange.Pieces
import LoginCallback.Proofs.Exchange.Entanglement
import LoginCallback.Proofs.Exchange.Idempotence
import LoginCallback.Proofs.Site.Kept
import LoginCallback.Proofs.Site.Pending
import LoginCallback.Proofs.Site.Principal
import LoginCallback.Proofs.Site.Visit
import LoginCallback.Proofs.Site.FailurePage
import LoginCallback.Proofs.Registration.Precedence
import LoginCallback.Proofs.Settings.Presets
import LoginCallback.Proofs.Settings.Secrets
import LoginCallback.Proofs.Settings.Escapes
