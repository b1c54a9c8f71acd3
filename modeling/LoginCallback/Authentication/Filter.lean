import LoginCallback.Authentication.Attempt
import LoginCallback.Callback.Matcher

/-!
# The login filter

The filter stands in front of an application. Requests that are no callbacks pass on to it
untouched; a callback is attempted, and its outcome goes to the success or the failure handler,
whose answer is the answer of the filter. The security context of a request holds a principal
after a callback only if the attempt succeeded and the success handler did not fault.
-/

namespace LoginCallback

structure LoginFilter (σ ρ : Type) where
  matcher : Matcher
  attempt : Callback → Action σ AttemptResult
  onSuccess : Callback → SecurityContext → Principal → Action σ ρ
  onFailure : Callback → SecurityContext → Failure → Action σ ρ
  log : Record → σ → σ
  /-- The engine was made for the filter, and closes with it. -/
  ownsEngine : Bool := false

/-- What became of a request: its answer, and the authentication that holds after it. -/
structure Handled (ρ : Type) where
  answer : Except Fault ρ
  context : SecurityContext

namespace LoginFilter

variable {σ ρ : Type}

/-- Whether a request is a callback. -/
def requiresAuthentication (f : LoginFilter σ ρ) (c : Callback) : Bool :=
  (f.matcher.match? c.method c.path).isSome

/-- Hands the result of an attempt to one of the handlers. -/
def dispatch (f : LoginFilter σ ρ) (c : Callback) (result : AttemptResult) (s : σ) :
    Handled ρ × σ :=
  match result.success? with
  | some p =>
    match (f.onSuccess c (some p) p).runOn s with
    | (.ok r, s) => (⟨.ok r, some p⟩, s)
    | (.error e, s) => (⟨.error e, none⟩, s)
  | none =>
    match result.failure with
    | none => (⟨.error (.endedWithoutError result.status.name), none⟩, s)
    | some failure =>
      let s := f.log ⟨.debug, .filter,
        "Dispatching failure " ++ failure.code.display ++ " to failure handler"⟩ s
      let (r, s) := (f.onFailure c none failure).runOn s
      (⟨r, none⟩, s)

/-- Processes a request; `next` continues with the application. -/
def handle (f : LoginFilter σ ρ) (c : Callback) (context : SecurityContext)
    (next : Callback → SecurityContext → Action σ ρ) (s : σ) : Handled ρ × σ :=
  if f.requiresAuthentication c then
    match (f.attempt c).runOn s with
    | (.error e, s) => (⟨.error e, none⟩, s)
    | (.ok result, s) => f.dispatch c result s
  else
    let (r, s) := (next c context).runOn s
    (⟨r, context⟩, s)

end LoginFilter

end LoginCallback
