import LoginCallback.Http.Address
import LoginCallback.Http.CookieDate
import LoginCallback.Time.Moment

/-!
# Cookies

A client keeps the cookies that servers set and sends each of them with later requests to the same
domain under the same path, until it expires. A cookie without a domain is for the host that set
it, one without a path for the directory of the request. A server sets cookies only for domains that
its own name ends in. A cookie that has expired already removes its predecessor.

Cookies are set by headers `Set-Cookie`, and beside these also by headers `Set-Cookie2`. The jar,
its policy and its way of reading headers are an assumption about the client that the program sends
its requests with.
-/

namespace LoginCallback.Http

open LoginCallback.Http.CookieDate (Read)

structure Cookie where
  name : String
  value : Option String
  /-- The host, or a domain that starts with a dot. -/
  domain : String
  path : String
  secure : Bool
  /-- When the cookie expires, in seconds of the clock. -/
  expiry : Option Int
  /-- The ports that the cookie is for, divided by commas. -/
  ports : Option String
  /-- Only cookies of version 0, or below, are kept. -/
  version : Int
  deriving DecidableEq

namespace Cookie

/-! ## Requests as cookies see them -/

/-- The authority without its port, in small letters. User information belongs to it. -/
def hostOf (a : Address) : String :=
  let cs := a.authority.toList.reverse
  let host := match cs.dropWhile Decimal.isDigit with
    | ':' :: before => if (cs.head?.any Decimal.isDigit) then before else cs
    | _ => cs
  Text.lower (String.ofList host.reverse)

/-- A host without a dot counts as one of the local network. -/
def effectiveHost (a : Address) : String :=
  let h := hostOf a
  if h.toList.contains '.' then h else h ++ ".local"

/-- What stands behind the first colon of the authority, if it is a number; without a colon, the
port of HTTP. -/
def portOf? (a : Address) : Option String :=
  match (Address.unescaped a.authority.toList).toList.dropWhile (· != ':') with
  | [] => some "80"
  | _ :: port =>
    if (Decimal.readInt? (String.ofList port)).isSome then some (String.ofList port) else none

def portOf (a : Address) : String := (portOf? a).getD "80"

def isPathChar (c : Char) : Bool := Octets.isUnreserved c || "%/;:@&=+$,!*'()".toList.contains c

/-- Hexadecimal digits of escapes in capitals. -/
def capitalEscapes : List Char → List Char
  | [] => []
  | '%' :: a :: b :: cs =>
    if (Octets.hexValue? a).isSome && (Octets.hexValue? b).isSome then
      '%' :: a.toUpper :: b.toUpper :: capitalEscapes cs
    else '%' :: capitalEscapes (a :: b :: cs)
  | c :: cs => c :: capitalEscapes cs

def escapePath (cs : List Char) : List Char :=
  capitalEscapes (cs.flatMap fun c =>
    if isPathChar c then [c] else (Octets.ofChar c).flatMap Octets.percent)

def pathOf (a : Address) : List Char :=
  let p := escapePath a.path.toList
  if p.head? == some '/' then p else '/' :: p

/-! ## Words of headers -/

/-- The value of an attribute. A date has been read already. -/
inductive Word where
  | text (s : String)
  | second (n : Int)

/-- A name and what stands behind its sign of equality, if there is one. -/
abbrev Pair := String × Option Word

def stripQuotes (cs : List Char) : List Char :=
  let cs := if cs.head? == some '"' then cs.drop 1 else cs
  if cs.getLast? == some '"' then cs.dropLast else cs

/-- Name and value of one part of a header. -/
def splitPart (cs : List Char) : List Char × Option (List Char) :=
  (Text.strip (cs.takeWhile (· != '=')),
    match cs.dropWhile (· != '=') with
    | _ :: v => some (Text.strip v)
    | [] => none)

/-- An attribute of a header `Set-Cookie`, in the year `current`. -/
def plainAttribute (current : Nat) (name : List Char) (value : Option (List Char)) : Read Pair := do
  let name := String.ofList name
  let asText (v : Option (List Char)) : Option Word := v.map fun cs => .text (String.ofList cs)
  match Text.lower name, value with
  | "version", v => return ("version", asText (v.map stripQuotes))
  | "expires", some v => return ("expires", (← CookieDate.read current (stripQuotes v)).map .second)
  | _, v => return (name, asText v)

/-- The pairs of a header `Set-Cookie`, of which the first is the cookie itself. Such cookies are of
version 0 unless they say otherwise. -/
def plainPairs (current : Nat) (header : String) : Read (List Pair) := do
  match (Octets.splitOn ';' header.toList).map (fun p => splitPart (Text.strip p)) with
  | [] => return []
  | (name, value) :: parts =>
    if name.isEmpty then return []
    let attributes ← (parts.filter fun p => !p.1.isEmpty).mapM fun (n, v) =>
      plainAttribute current n v
    let hasVersion := attributes.any (·.1 == "version")
    return (String.ofList name, value.map fun v => .text (String.ofList v)) :: attributes
      ++ (if hasVersion then [] else [("version", some (.text "0"))])

def endsWord (c : Char) : Bool := c == ';' || c == ',' || Text.isBlank c

/-- A text up to its closing quote, in which a backslash stands before the next character. -/
def takeQuoted : List Char → Option (List Char × List Char)
  | [] => none
  | '"' :: rest => some ([], rest)
  | '\\' :: c :: rest => if c == '\n' then none else (takeQuoted rest).map fun (v, r) => (c :: v, r)
  | c :: rest => if c == '\\' then none else (takeQuoted rest).map fun (v, r) => (c :: v, r)

/-- The value behind a name, and what follows it. -/
def takeValue (cs : List Char) : Option (List Char) × List Char :=
  match cs.dropWhile Text.isBlank with
  | '=' :: rest =>
    let rest := rest.dropWhile Text.isBlank
    let quoted := match rest with
      | '"' :: r => takeQuoted r
      | _ => none
    match quoted with
    | some (v, r) => (some v, r)
    | none => (some (rest.takeWhile (!endsWord ·)), rest.dropWhile (!endsWord ·))
  | _ => (none, cs)

/-- The pairs of a header `Set-Cookie2` of at most `fuel` characters: a comma begins another cookie.
`found` are those before. -/
def wordPairs : Nat → List Pair → List Char → List (List Pair)
  | 0, found, _ => [found]
  | _, found, [] => [found]
  | fuel + 1, found, cs =>
    let rest := cs.dropWhile Text.isBlank
    let isNameChar (c : Char) : Bool := !endsWord c && c != '='
    match rest.takeWhile isNameChar with
    | [] => match rest with
      | ',' :: r => found :: wordPairs fuel [] r
      | _ => wordPairs fuel found (rest.dropWhile fun c => c == '=' || c == ';' || Text.isBlank c)
    | name =>
      let (value, r) := takeValue (rest.dropWhile isNameChar)
      wordPairs fuel
        (found ++ [(String.ofList name, value.map fun v => .text (String.ofList v))]) r

/-! ## Attributes -/

/-- The attributes that count. Of those of one name it is the first, but the last age. -/
structure Attributes where
  version : Option Word := none
  domain : Option String := none
  path : Option String := none
  ports : Option (Option String) := none
  secure : Option Bool := none
  expiry : Option Word := none
  hasAge : Bool := false

/-- The text of a word; a word that is none has been read as a date. -/
def Word.toText : Word → String
  | text s => s
  | second _ => ""

/-- Adds an attribute. `none` refuses the cookie; an age without a value spoils the header. -/
def addAttribute (now : Int) (a : Attributes) (p : Pair) : Read (Option Attributes) :=
  match Text.lower p.1, p.2 with
  | "secure", v =>
    let given := v.all fun w => !w.toText.isEmpty
    .ok (some { a with secure := a.secure <|> some given })
  | "domain", v =>
    if a.domain.isSome then .ok (some a)
    else .ok (v.map fun w => { a with domain := some (Text.lower w.toText) })
  | "path", v =>
    if a.path.isSome then .ok (some a) else .ok (v.map fun w => { a with path := some w.toText })
  | "version", v =>
    if a.version.isSome then .ok (some a) else .ok (v.map fun w => { a with version := some w })
  | "port", v => .ok (some { a with ports := a.ports <|> some (v.map Word.toText) })
  | "expires", v =>
    if a.expiry.isSome || a.hasAge then .ok (some a) else .ok (some { a with expiry := v })
  | "max-age", none => .error ()
  | "max-age", some w =>
    .ok ((Decimal.readInt? w.toText).map fun n =>
      { a with expiry := some (.second (now + n)), hasAge := true })
  | _, _ => .ok (some a)

/-- The attributes of a cookie, unless they refuse it. -/
def attributesOf? (now : Int) : Attributes → List Pair → Read (Option Attributes)
  | a, [] => .ok (some a)
  | a, p :: ps => do
    match ← addAttribute now a p with
    | some a => attributesOf? now a ps
    | none => return none

/-! ## Which cookies are kept -/

/-- Whether the first text ends in the second. -/
def endsIn (s t : String) : Bool := t.toList.isSuffixOf s.toList

/-- Whether a server may set a cookie for a domain that the cookie names: the domain has a dot
inside, and the name of the server ends in it. -/
def admitsDomain (c : Cookie) (a : Address) : Bool :=
  let host := effectiveHost a
  let bare := if c.domain.toList.head? == some '.' then String.ofList (c.domain.toList.drop 1)
    else c.domain
  (bare.toList.contains '.' || endsIn host ".local")
    && (c.version != 0 || endsIn host c.domain || endsIn host (bare ++ ".local")
      || host.toList.head? == some '.' || endsIn ("." ++ host) c.domain)

/-- Whether the ports that a cookie names are numbers up to that of the server, which is among
them. -/
def admitsPort (ports : List (List Char)) (a : Address) : Bool :=
  match ports with
  | [] => false
  | p :: rest =>
    (Decimal.readInt? (String.ofList p)).isSome
      && (String.ofList p == portOf a || admitsPort rest a)

/-! ## Reading -/

/-- The directory of a path. -/
def directory (path : List Char) (keepSlash : Bool) : List Char :=
  let upToSlash := (path.reverse.dropWhile (· != '/')).reverse
  let d := if keepSlash then upToSlash else upToSlash.dropLast
  if d.isEmpty then ['/'] else d

/-- What tells the cookies of a jar apart: domain, path and name. -/
structure Key where
  domain : String
  path : String
  name : String
  deriving DecidableEq

def key (c : Cookie) : Key := ⟨c.domain, c.path, c.name⟩

/-- What becomes of the pairs of a cookie. -/
inductive Outcome where
  | ignored
  /-- It has expired already, and removes a cookie. -/
  | removes (k : Key)
  /-- It is kept, if it may be set. -/
  | sets (c : Cookie)
  /-- Nothing can be made of it, nor of the others of its header. -/
  | spoils

/-- Seconds from here on are no double any more. -/
def endOfSeconds : Int := Nat.pow 2 1024 - Nat.pow 2 970

/-- A host that does not say which domain a cookie is for means itself. -/
def domainFor (a : Address) (domain : Option String) : String :=
  match domain with
  | some d => if d.toList.head? == some '.' then d else "." ++ d
  | none => effectiveHost a

/-- What the answer to a request at `a` makes of a cookie with these attributes. Version 1 counts as
the old version in a header `Set-Cookie`, where `plain` is true. -/
def ofAttributes (plain : Bool) (now : Int) (a : Address) (name : String) (value : Option String)
    (attributes : Attributes) : Outcome :=
  let version := attributes.version.map fun w => Decimal.readInt? w.toText
  if version == some none then .ignored
  else
    let path := match attributes.path.filter (!·.isEmpty) with
      | some p => escapePath p.toList
      | none => directory (pathOf a) (version != some (some 0))
    let domain := domainFor a attributes.domain
    let cookie (expiry : Option Int) : Outcome :=
      match version.join with
      | none => .ignored
      | some n =>
        let named := attributes.ports.join.map fun p => p.toList.filter (!Text.isBlank ·)
        let c : Cookie := {
          name, value, domain, expiry
          path := String.ofList path
          secure := attributes.secure.getD false
          ports := if attributes.ports == some none then portOf? a else named.map String.ofList
          version := if plain && n == 1 then 0 else n }
        if decide (c.version ≤ 0) && (attributes.domain.isNone || c.admitsDomain a)
            && named.all (fun p => admitsPort (Octets.splitOn ',' p) a) then .sets c
        else .ignored
    match attributes.expiry with
    | none => cookie none
    | some (.text _) => .spoils
    | some (.second n) =>
      if n ≤ now then .removes ⟨domain, String.ofList path, name⟩
      else if endOfSeconds ≤ n then .spoils
      else cookie (some n)

/-- What becomes of a cookie, by the pairs of its header. -/
def outcomeOf (plain : Bool) (now : Int) (a : Address) : List Pair → Read Outcome
  | [] => .ok .ignored
  | (name, value) :: attributes => do
    return match ← attributesOf? now {} attributes with
      | none => .ignored
      | some found => ofAttributes plain now a name (value.map Word.toText) found

def Outcome.removed? : Outcome → Option Key
  | removes k => some k
  | _ => none

def Outcome.set? : Outcome → Option Cookie
  | sets c => some c
  | _ => none

def Outcome.isSpoilt : Outcome → Bool
  | spoils => true
  | _ => false

/-- The cookies that headers of one kind remove and those that they set. If one of them spoils the
others, none is set, and those before it are removed. -/
def settle (outcomes : Read (List Outcome)) : List Key × List Cookie :=
  match outcomes with
  | .error () => ([], [])
  | .ok os =>
    ((os.takeWhile (!·.isSpoilt)).filterMap Outcome.removed?,
      if os.any Outcome.isSpoilt then [] else os.filterMap Outcome.set?)

/-- The year of a second. -/
def yearOf (now : Int) : Nat := (Time.Date.ofDays (now / 86400).toNat).year

/-- What the headers `Set-Cookie` of the answer to a request at `a` remove and set. -/
def plainCookies (now : Int) (a : Address) (headers : List String) : List Key × List Cookie :=
  settle (headers.mapM (plainPairs (yearOf now)) >>= (·.mapM (outcomeOf true now a)))

/-- The cookies of a header `Set-Cookie2`, in pairs. -/
def wordSets (header : String) : List (List Pair) := wordPairs (header.length + 1) [] header.toList

/-- What the headers `Set-Cookie2` of the answer to a request at `a` remove and set. -/
def wordCookies (now : Int) (a : Address) (headers : List String) : List Key × List Cookie :=
  settle ((headers.flatMap wordSets).mapM (outcomeOf false now a))

/-! ## Which cookies are sent -/

def isExpired (now : Int) (c : Cookie) : Bool :=
  match c.expiry with
  | some e => decide (e ≤ now)
  | none => false

/-- Whether a path lies under the path of the cookie. -/
def covers (c : Cookie) (path : List Char) : Bool :=
  let own := c.path.toList
  own == path || (own.isPrefixOf path
    && (own.getLast? == some '/' || (path.drop own.length).head? == some '/'))

/-- Whether a cookie goes with a request. -/
def goesWith (now : Int) (a : Address) (c : Cookie) : Bool :=
  let dotted (s : String) : String := if s.toList.head? == some '.' then s else "." ++ s
  let domain := if c.domain.isEmpty then "" else dotted c.domain
  (endsIn (dotted (hostOf a)) domain || endsIn (dotted (effectiveHost a)) domain)
    && c.covers (pathOf a)
    && (!c.secure || a.scheme == "https" || a.scheme == "wss") && !c.isExpired now
    && (match c.ports with
      | some ports => ports.isEmpty || (Octets.splitOn ',' ports.toList).contains (portOf a).toList
      | none => true)
    && (c.version != 0 || endsIn ("." ++ effectiveHost a) domain)

def text (c : Cookie) : String :=
  match c.value with
  | some v => c.name ++ "=" ++ v
  | none => c.name

end Cookie

/-! ## Jars -/

/-- Puts something under a key: what is there already is replaced at its place. -/
def place {α : Type} (key : String) (f : Option α → α) : List (String × α) → List (String × α)
  | [] => [(key, f none)]
  | (k, x) :: rest => if k = key then (k, f (some x)) :: rest else (k, x) :: place key f rest

/-- The cookies of a client, by domain, by path and by name. The place of a domain and of a path
stays even if their cookies are removed. -/
structure CookieJar where
  domains : List (String × List (String × List (String × Cookie))) := []

namespace CookieJar

open Cookie (Key)

def cookies (jar : CookieJar) : List Cookie :=
  jar.domains.flatMap fun d => d.2.flatMap fun p => p.2.map (·.2)

def put (jar : CookieJar) (c : Cookie) : CookieJar :=
  ⟨place c.domain
    (fun d => place c.path (fun p => place c.name (fun _ => c) (p.getD [])) (d.getD []))
    jar.domains⟩

def remove (jar : CookieJar) (k : Key) : CookieJar :=
  ⟨jar.domains.map fun d =>
    (d.1, d.2.map fun p => (p.1, p.2.filter fun c => ⟨d.1, p.1, c.1⟩ ≠ k))⟩

/-- The cookies after an answer to a request at `a`, with its headers `Set-Cookie` and
`Set-Cookie2`. The latter count only beside the former. -/
def takeAll (now : Int) (a : Address) (jar : CookieJar) (plain words : List String) : CookieJar :=
  if plain.isEmpty then jar
  else
    let (gone, fresh) := Cookie.wordCookies now a words
    let (goneToo, freshToo) := Cookie.plainCookies now a plain
    (fresh ++ freshToo).foldl put ((gone ++ goneToo).foldl remove jar)

/-- The cookies for a request, those of the longest path first. -/
def headerFor? (now : Int) (a : Address) (jar : CookieJar) : Option String :=
  let sent := jar.cookies.filter (·.goesWith now a)
  match sent.mergeSort fun c d => d.path.length ≤ c.path.length with
  | [] => none
  | cs => some (String.intercalate "; " (cs.map (·.text)))

end CookieJar

end LoginCallback.Http
