import LoginCallback.Octets.Lenient
import LoginCallback.Platform
import LoginCallback.Url.Parts

/-!
# Addresses of HTTP requests

An address is taken apart into its components, each of which is normalised: scheme and host in small
letters, labels beyond ASCII in their ASCII form, no default port, no dot segments, and every
character that its component does not admit as percent escapes. An address that cannot be sent to
is refused. `Address.toText` writes it again.

That addresses are read, completed and refused in this way is an assumption about the client that
the program sends its requests with.
-/

namespace LoginCallback.Http

structure Address where
  scheme : String
  userInfo : String
  host : String
  port : Option Int
  path : String
  query : Option String
  fragment : Option String

/-- Why a text is no address. -/
inductive AddressFault where
  | tooLong
  | control (c : Char) (position : Nat)
  | ipv4 (host : String)
  | ipv6 (host : String)
  | hostName (host : String)
  | port (text : String)
  | absolutePath
  | doubleSlash
  | leadingColon
  /-- A component that is put in is too long. -/
  | longComponent (name : String)
  /-- A component that is put in holds a control character. -/
  | controlIn (name : String) (c : Char) (position : Nat)

def AddressFault.message : AddressFault → String
  | .tooLong => "URL too long"
  | .control c i =>
    "Invalid non-printable ASCII character in URL, " ++ Text.quoted (String.singleton c)
      ++ " at position " ++ toString i ++ "."
  | .ipv4 h => "Invalid IPv4 address: " ++ Text.quoted h
  | .ipv6 h => "Invalid IPv6 address: " ++ Text.quoted h
  | .hostName h => "Invalid IDNA hostname: " ++ Text.quoted h
  | .port p => "Invalid port: " ++ Text.quoted p
  | .absolutePath => "For absolute URLs, path must be empty or begin with '/'"
  | .doubleSlash => "Relative URLs cannot have a path starting with '//'"
  | .leadingColon => "Relative URLs cannot have a path starting with ':'"
  | .longComponent n => "URL component '" ++ n ++ "' too long"
  | .controlIn n c i =>
    "Invalid non-printable ASCII character in URL " ++ n ++ " component, "
      ++ Text.quoted (String.singleton c) ++ " at position " ++ toString i ++ "."

namespace Address

/-! ## Characters -/

/-- The characters of ASCII that a component admits: the visible ones without these. -/
def admits (refused : List Char) (c : Char) : Bool :=
  decide (0x21 ≤ c.toNat ∧ c.toNat < 0x7F) && !refused.contains c

def refusedInFragment : List Char := ['"', '<', '>', '\x60']

def refusedInQuery : List Char := ['"', '#', '<', '>']

def refusedInPath : List Char := refusedInQuery ++ ['?', '\x60', '\x7b', '\x7d']

def refusedInUserInfo : List Char := refusedInPath ++ ['/', ';', '=', '@', '[', '\\', ']', '^', '|']

def isHostChar (c : Char) : Bool :=
  Octets.isUnreserved c || "!$&'()*+,;=\"\x60\x7b\x7d%|\\".toList.contains c

/-- Escapes what is not admitted; escapes that are there stay. -/
def escape (admitted : Char → Bool) : List Char → List Char
  | [] => []
  | '%' :: a :: b :: cs =>
    if (Octets.hexValue? a).isSome && (Octets.hexValue? b).isSome then
      '%' :: a :: b :: escape admitted cs
    else (if admitted '%' then ['%'] else Octets.percent 0x25) ++ escape admitted (a :: b :: cs)
  | c :: cs =>
    (if admitted c then [c] else (Octets.ofChar c).flatMap Octets.percent) ++ escape admitted cs

/-! ## Hosts -/

/-- Four runs of digits with any character between them. -/
def looksLikeIpv4 : Nat → List Char → Bool
  | _, [] => false
  | groups, c :: cs =>
    Decimal.isDigit c &&
      (match groups, cs with
        | 0, [] => true
        | _ + 1, [] => false
        | 0, cs => looksLikeIpv4 0 cs
        | groups + 1, d :: cs => looksLikeIpv4 groups cs || looksLikeIpv4 (groups + 1) (d :: cs))

def encodeHost [Platform] (cs : List Char) : Except AddressFault (List Char) :=
  if cs.isEmpty then .ok []
  else if looksLikeIpv4 3 cs then
    if Url.isIpv4 cs then .ok cs else .error (.ipv4 (String.ofList cs))
  else if cs.head? == some '[' && cs.getLast? == some ']' then
    let inner := (cs.drop 1).dropLast
    if Url.isIpv6 inner then .ok inner else .error (.ipv6 (String.ofList cs))
  else if cs.all fun c => c.val < 128 then .ok (escape isHostChar (cs.map Char.toLower))
  else match Platform.hostToAscii? (Text.lower (String.ofList cs)).toList with
    | some host => .ok host
    | none => .error (.hostName (String.ofList cs))

/-! ## Ports -/

def defaultPort? (scheme : String) : Option Int :=
  [("ftp", 21), ("http", 80), ("https", 443), ("ws", 80), ("wss", 443)].lookup scheme

def readPort (text : List Char) (scheme : String) : Except AddressFault (Option Int) :=
  if text.isEmpty then .ok none
  else match Decimal.readInt? (String.ofList text) with
    | some n => .ok (if defaultPort? scheme == some n then none else some n)
    | none => .error (.port (String.ofList text))

/-! ## Paths -/

/-- The segments without `.` and without `..` and what it takes back; `done` is reversed. -/
def dropDots (done : List (List Char)) : List (List Char) → List (List Char)
  | [] => done.reverse
  | ['.'] :: rest => dropDots done rest
  | ['.', '.'] :: rest => dropDots (if done == [[]] then done else done.drop 1) rest
  | s :: rest => dropDots (s :: done) rest

def normalPath (cs : List Char) : List Char :=
  Octets.joinWith '/' (dropDots [] (Octets.splitOn '/' cs))

def checkPath (path : List Char) (hasScheme hasAuthority : Bool) : Except AddressFault Unit :=
  if hasAuthority && !path.isEmpty && path.head? != some '/' then .error .absolutePath
  else if !hasScheme && !hasAuthority then
    if "//".toList.isPrefixOf path then .error .doubleSlash
    else if path.head? == some ':' then .error .leadingColon
    else .ok ()
  else .ok ()

/-! ## Reading -/

def isSchemeChar (c : Char) : Bool := c.isAlphanum || c == '+' || c == '.' || c == '-'

/-- The scheme, which is empty if there is none, and what follows its colon. -/
def splitScheme (cs : List Char) : List Char × List Char :=
  let name := cs.takeWhile isSchemeChar
  match cs.drop name.length with
  | ':' :: rest => if (name.head?.map Char.isAlpha).getD true then (name, rest) else ([], cs)
  | _ => ([], cs)

/-- The last occurrence of a character divides the text. -/
def splitLast (x : Char) (cs : List Char) : Option (List Char × List Char) :=
  if cs.contains x then
    let after := (cs.reverse.takeWhile (· != x)).reverse
    some (cs.take (cs.length - after.length - 1), after)
  else none

/-- Host and port of an authority without user information. -/
def splitPort (cs : List Char) : List Char × List Char :=
  let host := match cs with
    | '[' :: _ => match splitLast ']' cs with
      | some (before, _) => before ++ [']']
      | none => cs.takeWhile fun c => c != ':' && c != '@'
    | cs => cs.takeWhile fun c => c != ':' && c != '@'
  match cs.drop host.length with
  | ':' :: port => (host, port)
  | port => (host, port)

def control? (cs : List Char) : Option (Char × Nat) :=
  (cs.zipIdx.find? fun p => decide (p.1.toNat < 32) || p.1.toNat == 127)

def optional (mark : Char) (cs : List Char) : Option (List Char) :=
  match cs with
  | c :: rest => if c == mark then some rest else none
  | [] => none

/-- The longest text that is read as an address, or put into one as a component. -/
def maxLength : Nat := 65536

/-- The address that a text writes. -/
def parse [Platform] (text : String) : Except AddressFault Address := do
  let cs := text.toList
  if maxLength < cs.length then throw .tooLong
  match control? cs with
  | some (c, i) => throw (.control c i)
  | none => pure ()
  let (scheme, rest) := splitScheme cs
  let (authority, rest) := match rest with
    | '/' :: '/' :: rest =>
      let isEnd (c : Char) : Bool := c == '/' || c == '?' || c == '#'
      (rest.takeWhile (!isEnd ·), rest.dropWhile (!isEnd ·))
    | rest => ([], rest)
  let path := rest.takeWhile fun c => c != '?' && c != '#'
  let rest := rest.drop path.length
  let query := (optional '?' rest).map (·.takeWhile (· != '#'))
  let fragment := optional '#' (rest.dropWhile (· != '#'))
  let (userInfo, hostPort) := (splitLast '@' authority).getD ([], authority)
  let (host, port) := splitPort hostPort
  let small := String.ofList (scheme.map Char.toLower)
  let userInfo := escape (admits refusedInUserInfo) userInfo
  let host ← encodeHost host
  let port ← readPort port (String.ofList scheme)
  let hasScheme := !scheme.isEmpty
  let hasAuthority := !userInfo.isEmpty || !host.isEmpty || port.isSome
  checkPath path hasScheme hasAuthority
  let path := if hasScheme || hasAuthority then normalPath path else path
  let text (cs : List Char) : String := String.ofList cs
  return {
    scheme := small, userInfo := text userInfo, host := text host, port
    path := text (escape (admits refusedInPath) path)
    query := query.map fun q => text (escape (admits refusedInQuery) q)
    fragment := fragment.map fun f => text (escape (admits refusedInFragment) f) }

/-- An address without scheme or host is a path on an unnamed host. -/
def isAbsolute (a : Address) : Bool := !a.scheme.isEmpty && !a.host.isEmpty

/-- The address that a request to `a` is sent to. -/
def target (a : Address) : Address :=
  if a.isAbsolute then a
  else
    { scheme := "", userInfo := "", host := "", port := none
      path := "/" ++ String.ofList (a.path.toList.dropWhile (· == '/')), query := a.query
      fragment := none }

/-! ## Writing -/

def authority (a : Address) : String :=
  (if a.userInfo.isEmpty then "" else a.userInfo ++ "@")
    ++ (if a.host.toList.contains ':' then "[" ++ a.host ++ "]" else a.host)
    ++ (match a.port with
      | some n => ":" ++ toString n
      | none => "")

def toText (a : Address) : String :=
  (if a.scheme.isEmpty then "" else a.scheme ++ ":")
    ++ (if a.authority.isEmpty then "" else "//" ++ a.authority)
    ++ a.path
    ++ (match a.query with
      | some q => "?" ++ q
      | none => "")
    ++ (match a.fragment with
      | some f => "#" ++ f
      | none => "")

/-- A text without its escapes. -/
def unescaped (cs : List Char) : String := String.ofList (Octets.toTextMarked (Octets.unescape cs))

/-- Name and password of the user information, without escapes, if either is given. -/
def credentials? (a : Address) : Option (String × String) :=
  let cs := a.userInfo.toList
  let name := cs.takeWhile (· != ':')
  let password := (cs.dropWhile (· != ':')).drop 1
  if name.isEmpty && password.isEmpty then none else some (unescaped name, unescaped password)

/-! ## Completing -/

/-- The fragment without escapes; no fragment counts as an empty one. -/
def shownFragment (a : Address) : String := unescaped ((a.fragment.getD "").toList)

/-- The host as people read it. It is asked what it stands for only if its first label stands for
another one. -/
def shownHost [Platform] (a : Address) : Except Fault String :=
  if Url.labelMark.isPrefixOf a.host.toList then
    ((Platform.hostOfAscii a.host.toList).map String.ofList).mapError .hostName
  else .ok a.host

/-- A component that is put into an address has a bounded length and no control characters. -/
def checkComponent (name text : String) : Except AddressFault Unit :=
  if maxLength < text.length then .error (.longComponent name)
  else match control? text.toList with
    | some (c, i) => .error (.controlIn name c i)
    | none => .ok ()

/-- The components that stay where one of them is replaced are put in again. -/
def checkComponents (a : Address) : Except AddressFault Unit := do
  checkComponent "scheme" a.scheme
  checkComponent "authority" a.authority
  checkComponent "path" a.path
  checkComponent "query" (a.query.getD "")
  checkComponent "fragment" (a.fragment.getD "")

/-- The address on a host. -/
def onHost [Platform] (a : Address) (host : String) : Except AddressFault Address := do
  checkComponents a
  checkComponent "host" host
  let cs := if host.toList.contains ':' then '[' :: host.toList ++ [']'] else host.toList
  let a := { a with host := String.ofList (← encodeHost cs) }
  checkPath a.path.toList true (!a.userInfo.isEmpty || !a.host.isEmpty || a.port.isSome)
  return a

/-- The address with the fragment of another one, unless it has one itself. -/
def withFragmentOf (a other : Address) : Except AddressFault Address :=
  if other.shownFragment.isEmpty || !a.shownFragment.isEmpty then .ok a
  else do
    checkComponents { a with fragment := some other.shownFragment }
    let cs := escape (admits refusedInFragment) other.shownFragment.toList
    return { a with fragment := some (String.ofList cs) }

/-- No request can be sent to what is no address. -/
def fault (e : AddressFault) : Fault := .address e.message

/-- A place that names a scheme but no host is on the host of `a`. -/
def onHostOf [Platform] (place a : Address) : Except Fault Address :=
  if place.scheme.isEmpty then .ok place
  else do
    if (← place.shownHost).isEmpty then (place.onHost (← a.shownHost)).mapError fault
    else .ok place

/-- A place that is only a part of an address is completed by `a`. -/
def joinedTo [Platform] (place a : Address) : Except Fault Address :=
  if place.isAbsolute then .ok place
  else do (parse (← Url.join a.toText place.toText)).mapError fault

/-- The address that `place` names for a client that was sent there from `a`. In the end the hosts
of both are compared, as people read them. -/
def completed [Platform] (place a : Address) : Except Fault Address := do
  let place ← place.onHostOf a
  let place ← place.joinedTo a
  let place ← (place.withFragmentOf a).mapError fault
  let _ ← place.shownHost
  let _ ← a.shownHost
  return place

end Address

end LoginCallback.Http
