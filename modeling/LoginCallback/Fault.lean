import LoginCallback.Failure
import LoginCallback.Template.Expand
import LoginCallback.Time.Iso
import LoginCallback.Yaml.Fault

/-!
# Faults

Everything that can keep an operation from giving a result: misused values, unusable settings,
failed logins, and faults of the parts that a host supplies. A fault is a cause; its wording is in
`Fault.message`, and `Fault.category` says which faults are of one sort.
-/

namespace LoginCallback

/-- Why a list of arguments does not fit. -/
inductive ArgumentFault where
  | unexpected (callee name : String)
  | repeated (callee name : String)
  | missing (callee name : String)
  | nameNotText
  /-- More arguments than the `least` to `most` that can be given. -/
  | surplus (callee : String) (least most given : Nat)

def ArgumentFault.message : ArgumentFault → String
  | .unexpected f k => f ++ "() got an unexpected keyword argument '" ++ k ++ "'"
  | .repeated f k => f ++ "() got multiple values for argument '" ++ k ++ "'"
  | .missing f k => f ++ "() missing 1 required positional argument: '" ++ k ++ "'"
  | .nameNotText => "keywords must be strings"
  | .surplus f least most given =>
    let range := if least = most then toString most
      else "from " ++ toString least ++ " to " ++ toString most
    f ++ "() takes " ++ range ++ " positional argument" ++ (if most = 1 then "" else "s") ++ " but "
      ++ toString given ++ (if given = 1 then " was" else " were") ++ " given"

/-- Why a host in square brackets is none. -/
inductive BracketFault where
  /-- It begins like an address of a later version, but is none. -/
  | laterVersion
  /-- It is an address of version 4, which stands without brackets. -/
  | version4
  | noAddress (host : String)
  deriving DecidableEq

def BracketFault.message : BracketFault → String
  | .laterVersion => "IPvFuture address is invalid"
  | .version4 => "An IPv4 address cannot be in brackets"
  | .noAddress h => Text.quoted h ++ " does not appear to be an IPv4 or IPv6 address"

/-- How the transport of an HTTP exchange failed. -/
inductive TransportKind where
  | timeout (name : String)
  | other (name : String)
  deriving DecidableEq

inductive Fault where
  | value (fault : Value.Fault)
  | template (fault : Template.Fault)
  | time (fault : Time.Fault)
  | moment (fault : Time.ReadFault)
  /-- Only a text can be read as a moment. -/
  | momentKind
  | arguments (fault : ArgumentFault)
  /-- A value is not one of the choices. -/
  | notAChoice (value : Value) (choice : String)
  /-- A field that must be given is empty. -/
  | emptyField (name : String)
  | duplicateRegistration (id : Value)
  | noRegistrations
  | domainRequired
  | pathNotAbsolute (template : String)
  | pathPlaceholder (template : String)
  /-- Square brackets in the host of an address are not paired. -/
  | addressBrackets
  | bracketedHost (fault : BracketFault)
  /-- The host of an address turns into something else when it is normalised. -/
  | addressHost (host : String)
  /-- The port of an address is not a number. -/
  | portText (text : String)
  | portRange
  /-- The line of a reply that holds a target would be broken by it. -/
  | targetBreak
  /-- No request can be sent to an address; the text says why. -/
  | address (message : String)
  /-- A host name in ASCII stands for no host name; the text says why. -/
  | hostName (message : String)
  /-- An address must be a text. -/
  | addressKind (value : Value)
  /-- Credentials must be texts; the index tells the name from the secret. -/
  | credentialKind (index : Nat) (kind : String)
  /-- A JSON text is nested too deeply; its innermost part is a list or an object. -/
  | jsonDepth (inList : Bool)
  /-- A severity is neither a number nor a text. -/
  | severityKind (value : Value)
  | missingUserAttribute (key : Value)
  | keyInText (kind : String)
  | emptyState
  | tooFewRequests
  | concatenation (kind : String)
  | nonAscii (position count : Nat) (first : Char)
  /-- The engine returned a token that is not authenticated. -/
  | unauthenticatedToken
  /-- An attempt ended neither with a principal nor with a failure. -/
  | endedWithoutError (status : String)
  | yaml (fault : Yaml.Fault)
  /-- The settings cannot be used; the text says why. -/
  | configuration (message : String)
  | failure (failure : Failure)
  | transport (kind : TransportKind) (message : String)
  /-- A fault of a part supplied by the host. -/
  | supplied (name message : String)

/-- Sorts of faults. -/
inductive Category where
  | member
  | kind
  | value
  | key
  | index
  | overflow
  | encoding
  | broken
  | configuration
  | failure (kind : FailureKind)
  | named (name : String)
  deriving DecidableEq

def Value.Fault.category : Value.Fault → Category
  | .noMember .. => .member
  | .textIndexRange => .index
  | .listIndexRange => .index
  | .missingKey _ => .key
  | .itemLength .. => .value
  | _ => .kind

def Template.Fault.category : Template.Fault → Category
  | .value f => f.category
  | .noPositional _ => .index
  | .settingOn _ => .kind
  | _ => .value

def Time.Fault.category : Time.Fault → Category
  | .unknownSeconds => .value
  | .secondsKind _ => .kind
  | .mixedZones => .kind
  | _ => .overflow

def Yaml.Fault.category : Yaml.Fault → Category
  | .malformed => .configuration
  | .notBoolean _ => .key
  | .noNumber => .index
  | .momentForm => .member
  | .noCodePoint true => .overflow
  | _ => .value

namespace Fault

def category : Fault → Category
  | value f => f.category
  | template f => f.category
  | time f => f.category
  | moment _ => .value
  | momentKind => .kind
  | arguments _ => .kind
  | address _ => .named "InvalidURL"
  | hostName _ => .named "IDNAError"
  | addressKind _ => .kind
  | credentialKind .. => .kind
  | severityKind _ => .kind
  | jsonDepth _ => .named "RecursionError"
  | keyInText _ => .kind
  | concatenation _ => .kind
  | nonAscii .. => .encoding
  | unauthenticatedToken => .broken
  | endedWithoutError _ => .broken
  | yaml f => f.category
  | configuration _ => .configuration
  | failure f => .failure f.kind
  | transport (.timeout name) _ => .named name
  | transport (.other name) _ => .named name
  | supplied name _ => .named name
  | _ => .value

/-- The escape of a character that a message shows by its code point. -/
def shownCode (c : Char) : String := String.ofList (Text.Quoted.escapeCode c.toNat)

def message : Fault → String
  | value f => f.message
  | template f => f.message
  | time f => f.message
  | moment f => f.message
  | momentKind => "fromisoformat: argument must be str"
  | arguments f => f.message
  | notAChoice v choice => v.quoted ++ " is not a valid " ++ choice
  | emptyField name => name ++ " cannot be empty"
  | duplicateRegistration id => "Duplicate registration_id: " ++ id.display
  | noRegistrations => "At least one client registration is required"
  | domainRequired => "Okta registrations require okta_domain or explicit endpoint URIs"
  | pathNotAbsolute t => "Callback path template must start with '/': " ++ t
  | pathPlaceholder t =>
    "Callback path template must contain \x7bregistration_id\x7d exactly once: " ++ t
  | addressBrackets => "Invalid IPv6 URL"
  | bracketedHost f => f.message
  | addressHost h => "netloc '" ++ h ++ "' contains invalid characters under NFKC normalization"
  | portText s => "Port could not be cast to integer value as " ++ Text.quoted s
  | portRange => "Port out of range 0-65535"
  | targetBreak => "Header values must not contain newline characters."
  | address m => m
  | hostName m => m
  | addressKind v =>
    "Invalid type for url.  Expected str or httpx.URL, got <class '" ++ v.kind ++ "'>: " ++ v.quoted
  | credentialKind i k =>
    "sequence item " ++ toString i ++ ": expected a bytes-like object, " ++ k ++ " found"
  | jsonDepth inList =>
    "maximum recursion depth exceeded while decoding a JSON "
      ++ (if inList then "array" else "object") ++ " from a unicode string"
  | severityKind v => "Level not an integer or a valid string: " ++ v.quoted
  | missingUserAttribute k => "Missing attribute '" ++ k.display ++ "' in user attributes"
  | keyInText k => "'in <string>' requires string as left operand, not " ++ k
  | emptyState => "Authorization request state cannot be empty"
  | tooFewRequests => "max_requests must be at least 1"
  | concatenation k => "can only concatenate str (not \"" ++ k ++ "\") to str"
  | nonAscii p n c =>
    let what := if n == 1 then "character '" ++ shownCode c ++ "' in position " ++ toString p
      else "characters in position " ++ toString p ++ "-" ++ toString (p + n - 1)
    "'ascii' codec can't encode " ++ what ++ ": ordinal not in range(128)"
  | unauthenticatedToken => "Authentication engine returned an unauthenticated token"
  | endedWithoutError s => "Authentication attempt ended in " ++ s ++ " without an error"
  | yaml f => f.message
  | configuration m => m
  | failure f => f.message
  | transport _ m => m
  | supplied "KeyError" m => Text.quoted m
  | supplied _ m => m

instance : Coe Value.Fault Fault := ⟨Fault.value⟩

end Fault

/-- Runs a computation on values with the faults of the library. -/
def ofValue {α : Type} (x : Except Value.Fault α) : Except Fault α := x.mapError .value

@[simp] theorem mapError_ok {ε ε' α : Type} (g : ε → ε') (a : α) :
    (Except.ok a).mapError g = .ok a := rfl

@[simp] theorem mapError_error {ε ε' α : Type} (g : ε → ε') (e : ε) :
    (Except.error e : Except ε α).mapError g = .error (g e) := rfl

theorem toOption_eq_some {ε α : Type} {x : Except ε α} {a : α} :
    x.toOption = some a ↔ x = .ok a := by
  cases x with
  | error e => exact ⟨fun h => (by cases h), fun h => (by cases h)⟩
  | ok b => exact ⟨fun h => congrArg Except.ok (Option.some.inj h), fun h => by rw [h]; rfl⟩

theorem ofValue_eq_ok {α : Type} {x : Except Value.Fault α} {a : α} :
    ofValue x = .ok a ↔ x = .ok a := by
  cases x with
  | error e => exact ⟨fun h => (by cases h), fun h => (by cases h)⟩
  | ok b => exact ⟨fun h => congrArg Except.ok (Except.ok.inj h), fun h => by rw [h]; rfl⟩

/-- A computation that gives a result has given one at each of its steps. -/
theorem bind_eq_ok {ε α β : Type} {x : Except ε α} {f : α → Except ε β} {b : β} :
    x >>= f = .ok b ↔ ∃ a, x = .ok a ∧ f a = .ok b := by
  cases x with
  | error e =>
    constructor
    · intro h
      cases h
    · rintro ⟨a, h, -⟩
      cases h
  | ok a =>
    constructor
    · intro h
      exact ⟨a, rfl, h⟩
    · rintro ⟨_, h, h'⟩
      cases h
      exact h'

/-- A list of computations gives a list of results if each of them gives its own. -/
theorem mapM_eq_ok {ε α β : Type} {f : α → Except ε β} {xs : List α} {ys : List β} :
    xs.mapM f = .ok ys ↔ xs.map f = ys.map .ok := by
  induction xs generalizing ys with
  | nil =>
    rw [List.mapM_nil, List.map_nil, eq_comm, List.nil_eq, List.map_eq_nil_iff]
    exact ⟨fun h => Except.ok.inj h, fun h => by rw [h]; rfl⟩
  | cons x xs ih =>
    rw [List.mapM_cons, bind_eq_ok, List.map_cons]
    constructor
    · rintro ⟨y, hy, h⟩
      obtain ⟨zs, hzs, h⟩ := bind_eq_ok.1 h
      rw [← Except.ok.inj h, List.map_cons, hy, ih.1 hzs]
    · intro h
      obtain ⟨y, zs, rfl, hy, hzs⟩ := List.map_eq_cons_iff.1 h.symm
      exact ⟨y, hy.symm, bind_eq_ok.2 ⟨zs, ih.2 hzs.symm, rfl⟩⟩

/-- A computation that faults has faulted at one of its steps. -/
theorem bind_eq_error {ε α β : Type} {x : Except ε α} {f : α → Except ε β} {e : ε} :
    x >>= f = .error e ↔ x = .error e ∨ ∃ a, x = .ok a ∧ f a = .error e := by
  cases x with
  | error e' =>
    constructor
    · intro h
      exact Or.inl (congrArg Except.error (Except.error.inj h))
    · rintro (h | ⟨a, h, -⟩)
      · exact congrArg Except.error (Except.error.inj h)
      · cases h
  | ok a =>
    constructor
    · intro h
      exact Or.inr ⟨a, rfl, h⟩
    · rintro (h | ⟨_, h, h'⟩)
      · cases h
      · cases h
        exact h'

/-- A list of computations faults with the first of them that does. -/
theorem mapM_eq_error {ε α β : Type} {f : α → Except ε β} {xs : List α} {e : ε} :
    xs.mapM f = .error e ↔ ∃ before x after, xs = before ++ x :: after ∧
      (∀ y ∈ before, ∃ b, f y = .ok b) ∧ f x = .error e := by
  induction xs with
  | nil =>
    constructor
    · intro h
      cases h
    · rintro ⟨before, x, after, h, -⟩
      exact absurd h.symm (by simp)
  | cons z xs ih =>
    rw [List.mapM_cons, bind_eq_error]
    constructor
    · rintro (hz | ⟨b, hb, h⟩)
      · exact ⟨[], z, xs, rfl, fun y hy => absurd hy List.not_mem_nil, hz⟩
      · rcases bind_eq_error.1 h with h | ⟨bs, -, h⟩
        · obtain ⟨before, x, after, rfl, hbefore, hx⟩ := ih.1 h
          exact ⟨z :: before, x, after, rfl, List.forall_mem_cons.2 ⟨⟨b, hb⟩, hbefore⟩, hx⟩
        · cases h
    · rintro ⟨before, x, after, h, hbefore, hx⟩
      cases before with
      | nil =>
        obtain ⟨rfl, rfl⟩ := List.cons.inj h
        exact Or.inl hx
      | cons y before =>
        obtain ⟨rfl, rfl⟩ := List.cons.inj h
        obtain ⟨⟨b, hb⟩, hbefore⟩ := List.forall_mem_cons.1 hbefore
        exact Or.inr ⟨b, hb, bind_eq_error.2 (Or.inl (ih.2 ⟨before, x, after, rfl, hbefore, hx⟩))⟩

theorem mapError_eq_error {ε ε' α : Type} {x : Except ε α} {g : ε → ε'} {e : ε'} :
    x.mapError g = .error e ↔ ∃ e', x = .error e' ∧ g e' = e := by
  cases x with
  | error e' => simp
  | ok a => simp

end LoginCallback
