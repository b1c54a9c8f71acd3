import LoginCallback.Octets.Form
import LoginCallback.Octets.Lenient
import LoginCallback.Text.Blank
import LoginCallback.Url.Parts
import LoginCallback.Url.Punycode

/-!
# Where a redirect leads

An address that is all ASCII and holds no blank stays as it is. Any other is taken apart and put
together again, its host in ASCII and the rest with percent escapes.

That redirects are sent so is an assumption about the framework that the site is built with.
-/

namespace LoginCallback.Site

/-- What stays unescaped in every part. -/
def unescaped : List Char := "%!$&'()*+,;=".toList

/-- The text with percent escapes for all but unreserved characters and some others. -/
def escapeBut (others : List Char) (cs : List Char) : List Char :=
  cs.flatMap fun c =>
    if Octets.isUnreserved c || others.contains c then [c]
    else (Octets.ofChar c).flatMap Octets.percent

/-- Host and port, without the name and the password before them. -/
structure Authority where
  user : Option (List Char)
  password : Option (List Char)
  host : List Char
  port : Option (List Char)

/-- The text behind the last `@`, and the text before it. -/
def splitUser (cs : List Char) : Option (List Char) × List Char :=
  if cs.contains '@' then
    let host := (cs.reverse.takeWhile (· != '@')).reverse
    (some (cs.take (cs.length - host.length - 1)), host)
  else (none, cs)

def Authority.ofHost (cs : List Char) : Authority :=
  let (info, rest) := splitUser cs
  let (host, port) := match rest with
    | '[' :: inner =>
      (inner.takeWhile (· != ']'), ((inner.dropWhile (· != ']')).dropWhile (· != ':')))
    | rest => (rest.takeWhile (· != ':'), rest.dropWhile (· != ':'))
  { user := info.map (Url.cutAt ':' · |>.1)
    password := info.map (Url.cutAt ':' · |>.2)
    host
    port := if port.length < 2 then none else some (port.drop 1) }

/-- A port, which is no more than a number below 65536. Zero counts as none. -/
def portText (port : Option (List Char)) : Except Fault (List Char) :=
  match port with
  | none => .ok []
  | some cs =>
    if !cs.all Decimal.isDigit then .error (.portText (String.ofList cs))
    else
      let n := Decimal.ofDigits cs
      if 65535 < n then .error .portRange else .ok (if n == 0 then [] else ':' :: Decimal.digits n)

/-- The host of an address in ASCII. -/
def asciiAuthority (cs : List Char) : Except Fault (List Char) := do
  let a := Authority.ofHost cs
  let host := Url.asciiHost a.host
  let host := if host.contains ':' then '[' :: host ++ [']'] else host
  let port ← portText a.port
  let given (x : Option (List Char)) : List Char := escapeBut unescaped (x.getD [])
  let user := given a.user
  let password := given a.password
  return (if user.isEmpty then []
      else user ++ (if password.isEmpty then [] else ':' :: password) ++ ['@'])
    ++ host ++ port

/-- An address in ASCII. -/
def asciiAddress (address : String) : Except Fault String := do
  let p ← Url.parts address
  let host ← asciiAuthority p.host
  let others := unescaped ++ ['/', ':', '@']
  return Url.Parts.toText { p with
    host
    path := escapeBut others p.path
    query := escapeBut ('?' :: others) p.query
    fragment := escapeBut ('#' :: '?' :: others) p.fragment }

/-- The address that a reply names for a redirect. -/
def location (target : String) : Except Fault String :=
  let cs := target.toList
  if cs.all (·.val < 128) && (Text.words cs).length == 1 then .ok target else asciiAddress target

end LoginCallback.Site
