import LoginCallback.Fault
import LoginCallback.Url.IpAddress

/-!
# The parts of an address

Scheme, host, path, query and fragment. Blanks and control characters at the front, tabs and line
ends anywhere do not count. A text before a colon is a scheme only if it is a name; `//` starts the
host, whose square brackets must be paired and hold the address of a machine, and which must not
hide one of the delimiters `/?#@:` in a compatibility character.

That addresses are cut and joined so is an assumption about the library that the program uses for
it.
-/

namespace LoginCallback.Url

structure Parts where
  /-- In small letters. -/
  scheme : List Char := []
  /-- The host with what may stand around it: a name before `@` and a port. -/
  host : List Char := []
  path : List Char
  query : List Char := []
  fragment : List Char := []
  deriving DecidableEq

def isLeading (c : Char) : Bool := decide (c.toNat ≤ 32)

def isIgnored (c : Char) : Bool := c == '\t' || c == '\r' || c == '\n'

def isSchemeChar (c : Char) : Bool := c.isAlphanum || c == '+' || c == '-' || c == '.'

/-- The scheme, which is empty if there is none, and the rest of the address. -/
def splitScheme (cs : List Char) : List Char × List Char :=
  match cs.takeWhile (· != ':'), cs.dropWhile (· != ':') with
  | first :: name, _ :: rest =>
    if first.isAlpha && name.all isSchemeChar then ((first :: name).map Char.toLower, rest)
    else ([], cs)
  | _, _ => ([], cs)

def endsHost (c : Char) : Bool := c == '/' || c == '?' || c == '#'

/-- The code points whose compatibility form holds a delimiter of addresses. -/
def hiddenDelimiters : List Nat :=
  [8263, 8264, 8265, 8448, 8449, 8453, 8454, 10868, 65043, 65046, 65109, 65110, 65119, 65131, 65283,
   65295, 65306, 65311, 65312]

def hidesDelimiter (c : Char) : Bool := hiddenDelimiters.contains c.toNat

/-- The host, which is empty if the address has none, and what follows it. -/
def splitHost : List Char → List Char × List Char
  | '/' :: '/' :: rest => (rest.takeWhile (!endsHost ·), rest.dropWhile (!endsHost ·))
  | cs => ([], cs)

/-- An address of a later version: `v`, hexadecimal digits, a point, and something more. -/
def isLaterIp (cs : List Char) : Bool :=
  let digits := (cs.drop 1).takeWhile fun c => (Octets.hexValue? c).isSome
  match cs.drop (digits.length + 1) with
  | '.' :: c :: _ => c != '\n' && cs.head? == some 'v' && !digits.isEmpty
  | _ => false

/-- What stands in square brackets must be the address of a machine, not one of version 4. -/
def checkBracketed (cs : List Char) : Except BracketFault Unit :=
  if cs.head? == some 'v' then if isLaterIp cs then .ok () else .error .laterVersion
  else if isIpv4 cs then .error .version4
  else if isIpv6 cs then .ok ()
  else .error (.noAddress (String.ofList cs))

/-- Square brackets come in pairs, with an address between them. -/
def checkBrackets (host : List Char) : Except Fault Unit :=
  if host.contains '[' != host.contains ']' then .error .addressBrackets
  else if host.contains '[' then
    (checkBracketed (((host.dropWhile (· != '[')).drop 1).takeWhile (· != ']'))).mapError
      .bracketedHost
  else .ok ()

def checkHost (host : List Char) : Except Fault Unit := do
  checkBrackets host
  if host.any hidesDelimiter then .error (.addressHost (String.ofList host)) else .ok ()

/-- The text before the first `mark`, and the text behind it. -/
def cutAt (mark : Char) (cs : List Char) : List Char × List Char :=
  (cs.takeWhile (· != mark), (cs.dropWhile (· != mark)).drop 1)

/-- The parts of an address. -/
def parts (address : String) : Except Fault Parts := do
  let (scheme, rest) := splitScheme ((address.toList.dropWhile isLeading).filter (!isIgnored ·))
  let (host, rest) := splitHost rest
  checkHost host
  let (rest, fragment) := cutAt '#' rest
  let (path, query) := cutAt '?' rest
  return { scheme, host, path, query, fragment }

/-- The path of an address. -/
def path (address : String) : Except Fault String := do
  return String.ofList (← parts address).path

/-- Schemes whose addresses keep an empty host. -/
def hostSchemes : List String :=
  ["", "ftp", "http", "gopher", "nntp", "telnet", "imap", "wais", "file", "mms", "https", "shttp",
   "snews", "prospero", "rtsp", "rtsps", "rtspu", "rsync", "svn", "svn+ssh", "sftp", "nfs", "git",
   "git+ssh", "ws", "wss"]

/-- The address of parts. -/
def Parts.toText (p : Parts) : String :=
  let keepsHost := (!p.scheme.isEmpty && hostSchemes.contains (String.ofList p.scheme))
    || p.path.take 2 == ['/', '/']
  let path :=
    if !p.host.isEmpty || keepsHost then
      '/' :: '/' :: p.host
        ++ (if !p.path.isEmpty && p.path.head? != some '/' then ['/'] else []) ++ p.path
    else p.path
  String.ofList (
    (if p.scheme.isEmpty then [] else p.scheme ++ [':']) ++ path
      ++ (if p.query.isEmpty then [] else '?' :: p.query)
      ++ (if p.fragment.isEmpty then [] else '#' :: p.fragment))

/-! ## Addresses from the point of view of another one -/

/-- Schemes whose addresses can be given in part, to be completed by another one. -/
def relativeSchemes : List String :=
  ["", "ftp", "http", "gopher", "nntp", "imap", "wais", "file", "https", "shttp", "mms", "prospero",
   "rtsp", "rtsps", "rtspu", "sftp", "svn", "svn+ssh", "ws", "wss"]

/-- Schemes whose paths may end in parameters. -/
def parameterSchemes : List String :=
  ["", "ftp", "hdl", "prospero", "http", "imap", "https", "shttp", "rtsp", "rtsps", "rtspu", "sip",
   "sips", "mms", "sftp", "tel"]

/-- A path without the parameters of its last segment, and these. -/
def splitParameters (scheme path : List Char) : List Char × List Char :=
  if parameterSchemes.contains (String.ofList scheme) then
    let last := (path.reverse.takeWhile (· != '/')).reverse
    (path.take (path.length - last.length) ++ last.takeWhile (· != ';'),
      (last.dropWhile (· != ';')).drop 1)
  else (path, [])

/-- The segments without `.` and without `..` and what it takes back; `done` is reversed. -/
def resolve (done : List (List Char)) : List (List Char) → List (List Char)
  | [] => done.reverse
  | ['.'] :: rest => resolve done rest
  | ['.', '.'] :: rest => resolve (done.drop 1) rest
  | s :: rest => resolve (s :: done) rest

/-- The path that a relative one names, beside `base`. -/
def joinPaths (base path : List Char) : List Char :=
  let own := Octets.splitOn '/' path
  let segments :=
    if path.head? == some '/' then own
    else
      let directory := Octets.splitOn '/' base
      let directory := if directory.getLast? == some [] then directory else directory.dropLast
      let all := directory ++ own
      all.take 1 ++ ((all.drop 1).dropLast.filter fun s => !s.isEmpty)
        ++ (all.drop 1).getLast?.toList
  let isDots (s : List Char) : Bool := s == ['.'] || s == ['.', '.']
  let resolved := resolve [] segments ++ (if segments.getLast?.any isDots then [[]] else [])
  let joined := Octets.joinWith '/' resolved
  if joined.isEmpty then ['/'] else joined

/-- The address `address`, with the parts `a`, from the point of view of an address with the parts
`b`. -/
def Parts.complete (b a : Parts) (address : String) : String :=
  let scheme := if a.scheme.isEmpty then b.scheme else a.scheme
  if scheme != b.scheme || !relativeSchemes.contains (String.ofList scheme) then address
  else
    let written (p : List Char × List Char) : List Char :=
      p.1 ++ (if p.2.isEmpty then [] else ';' :: p.2)
    let path := splitParameters scheme a.path
    let basePath := splitParameters b.scheme b.path
    if !a.host.isEmpty then Parts.toText { a with scheme, path := written path }
    else if (written path).isEmpty then
      Parts.toText {
        a with
        scheme
        host := b.host
        path := written basePath
        query := if a.query.isEmpty then b.query else a.query }
    else
      Parts.toText {
        a with scheme, host := b.host, path := written (joinPaths basePath.1 path.1, path.2) }

/-- The address that a partial one names on a page at `base`. -/
def join (base address : String) : Except Fault String :=
  if base.isEmpty then .ok address
  else if address.isEmpty then .ok base
  else do
    let b ← parts base
    let a ← parts address
    return b.complete a address

end LoginCallback.Url
