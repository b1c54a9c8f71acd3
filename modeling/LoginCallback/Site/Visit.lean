import LoginCallback.Callback.Request
import LoginCallback.Octets.Lenient
import LoginCallback.Text.Case
import LoginCallback.Url.Parts

/-!
# Visits

A request as it reaches a web site: method, path and query as they were sent, and the address under
which the site was reached. `Visit.callback` reads it. Escapes in paths and queries are octets of
UTF-8; faulty ones are marked in a path and stay escapes in a query.

That a request is read so is an assumption about the framework that the site is built with.
-/

namespace LoginCallback.Site

structure Visit where
  method : String := "GET"
  path : String
  query : String := ""
  /-- The address of the site, the path under which it is mounted included. -/
  base : String := "http://localhost"

namespace Visit

/-! ## Queries -/

/-- A name or a value: a plus sign is a space. -/
def decodeField (cs : List Char) : String :=
  String.ofList
    (Octets.toTextEscaped (Octets.unescape (cs.map fun c => if c == '+' then ' ' else c)))

/-- The fields of a query, without empty ones. -/
def fields (query : String) : List (String × String) :=
  ((Octets.splitOn '&' query.toList).filter (!·.isEmpty)).map fun field =>
    let (name, value) := Url.cutAt '=' field
    (decodeField name, decodeField value)

/-- The first field of each name. -/
def firsts (fs : List (String × String)) : Query :=
  fs.foldl (fun q f => if (q.lookup f.1).isSome then q else q ++ [f]) []

/-! ## Paths -/

/-- A path without escapes, and with one slash in front. -/
def decodePath (cs : List Char) : List Char :=
  '/' :: (Octets.toTextMarked (Octets.unescape cs)).dropWhile (· == '/')

/-! ## Sites -/

/-- The port that goes without saying. -/
def defaultPort (scheme : List Char) : List Char :=
  if scheme = "http".toList then ":80".toList
  else if scheme = "https".toList then ":443".toList
  else []

/-- Host and port in small letters, without the default port. -/
def shownHost (p : Url.Parts) : List Char :=
  let host := (Text.lower (String.ofList p.host)).toList
  let port := defaultPort p.scheme
  if !port.isEmpty && port.reverse.isPrefixOf host.reverse then
    host.take (host.length - port.length)
  else host

/-- Characters that stay escaped in the address of a site. -/
def staysEscaped (c : Char) : Bool :=
  decide (c.toNat ≤ 32) || c.toNat == 127 || c == '?' || c == '#'

/-- The path under which a site is mounted, with the escapes that it needs. -/
def mount (cs : List Char) : List Char :=
  (Octets.toTextMarked (Octets.unescape (Text.dropTrailing '/' cs))).flatMap fun c =>
    if staysEscaped c then Octets.percent c.toNat else [c]

/-- The address of the site, without a slash at its end. -/
def root (v : Visit) : Except Fault String := do
  let p ← Url.parts v.base
  return String.ofList (Text.dropTrailing '/'
    (p.scheme ++ "://".toList ++ shownHost p ++ mount p.path))

/-- The name of the host, which tells whose cookies are sent. -/
def hostName (v : Visit) : Except Fault String := do
  let p ← Url.parts v.base
  return String.ofList ((Text.lower (String.ofList p.host)).toList.takeWhile (· != ':'))

/-- What the login needs to know of the visit. -/
def callback (v : Visit) : Except Fault Callback := do
  let p ← Url.parts v.path
  return {
    method := Text.upper v.method
    path := String.ofList (decodePath p.path)
    query := firsts (fields v.query)
    baseUrl := ← v.root }

end Visit

end LoginCallback.Site
