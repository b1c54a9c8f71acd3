import LoginCallback.Text.Blank
import LoginCallback.Text.Word

/-!
# Redaction

Secrets in running text are replaced by `[REDACTED]`: the values of form parameters, the credentials
of an authorization header, cookies, and the values of JSON fields. Each rule finds its secrets from
left to right, and the rules are applied one after the other. Names count in any letter case.
-/

namespace LoginCallback.Redaction

open LoginCallback.Text (isBlank isWord)

/-- Letters beyond ASCII that are a case of an ASCII letter: dotted and dotless i, long s, the sign
of the unit kelvin. -/
def foreignCases : List (Char × List Nat) :=
  [('i', [0x130, 0x131]), ('s', [0x17F]), ('k', [0x212A])]

/-- Whether `c` is the small ASCII character `key` in any case. -/
def isCaseOf (key c : Char) : Bool :=
  c.toLower == key || ((foreignCases.lookup key).getD []).contains c.toNat

/-- What follows a name at the front, in any case. -/
def afterName? : List Char → List Char → Option (List Char)
  | [], cs => some cs
  | _ :: _, [] => none
  | k :: ks, c :: cs => if isCaseOf k c then afterName? ks cs else none

/-- What a rule finds at a place: what is written instead, and of how many characters. -/
structure Hit where
  shown : List Char
  size : Nat

/-- Replaces hits from left to right; `skip` characters belong to the last one. `before` is the
preceding character. -/
def replace (find : Option Char → List Char → Option Hit) :
    (skip : Nat) → (before : Option Char) → List Char → List Char
  | _, _, [] => []
  | skip + 1, _, c :: cs => replace find skip (some c) cs
  | 0, before, c :: cs =>
    match find before (c :: cs) with
    | some h => h.shown ++ replace find (h.size - 1) (some c) cs
    | none => c :: replace find 0 (some c) cs

inductive Rule where
  /-- `name=value`; `wordStart` asks for no word character before the name. -/
  | parameter (name : String) (wordStart : Bool)
  /-- An authorization header of a scheme. -/
  | header (scheme : String)
  /-- A text that begins with a scheme, as the value of an authorization header does. -/
  | credentials (scheme : String)
  /-- A header whose value reaches to the end of the line. -/
  | line (name : String)
  /-- `"name": "value"`. -/
  | field (name : String)

def mark : List Char := "[REDACTED]".toList

def isValueChar (c : Char) : Bool := c != '&' && !isBlank c

def isLineEnd (c : Char) : Bool := c == '\r' || c == '\n'

/-- The first `n` characters stay, the next `m`, at least one, are replaced. -/
def hitAfter (cs : List Char) (n m : Nat) : Option Hit :=
  if m = 0 then none else some ⟨cs.take n ++ mark, n + m⟩

/-- The hit of a value of certain characters behind what was read of `cs`. -/
def hitOf (isPart : Char → Bool) (cs rest : List Char) : Option Hit :=
  hitAfter cs (cs.length - rest.length) (rest.takeWhile isPart).length

def dropBlank (cs : List Char) : List Char := cs.dropWhile isBlank

/-- A scheme, at least one blank, and the credentials. -/
def findCredentials (scheme : String) (cs from' : List Char) : Option Hit :=
  match afterName? scheme.toList from' with
  | some (b :: rest) => if isBlank b then hitOf (!isBlank ·) cs (dropBlank rest) else none
  | _ => none

/-- Where the value of a header line starts: behind the blanks, but a value made of blanks alone
starts with the last of them that does not end a line. -/
def lineValue (rest : List Char) : List Char :=
  match dropBlank rest with
  | [] =>
    (rest.reverse.dropWhile isLineEnd).head?.toList ++ (rest.reverse.takeWhile isLineEnd).reverse
  | value => value

/-- What follows `"name" : "` at the front. -/
def afterField? (name : List Char) (cs : List Char) : Option (List Char × List Char) := do
  let rest ← afterName? ['"'] cs
  let rest' ← afterName? name rest
  let rest' ← afterName? ['"'] rest'
  let rest' ← afterName? [':'] (dropBlank rest')
  let rest' ← afterName? ['"'] (dropBlank rest')
  return (rest.take name.length, rest')

def findField (name : String) (cs : List Char) : Option Hit := do
  let (written, rest) ← afterField? name.toList cs
  let value := rest.takeWhile (· != '"')
  if value.isEmpty || value.length = rest.length then none
  else some ⟨'"' :: written ++ "\": \"".toList ++ mark ++ ['"'],
    cs.length - rest.length + value.length + 1⟩

/-- What a rule finds at the front of `cs`. -/
def Rule.find (r : Rule) (before : Option Char) (cs : List Char) : Option Hit :=
  match r with
  | parameter name wordStart =>
    if wordStart && before.any isWord then none
    else match afterName? (name.toList ++ ['=']) cs with
      | some rest => hitOf isValueChar cs rest
      | none => none
  | header scheme =>
    match afterName? "authorization:".toList cs with
    | some rest => findCredentials scheme cs (dropBlank rest)
    | none => none
  | credentials scheme => if before.isSome then none else findCredentials scheme cs cs
  | line name =>
    match afterName? (name.toList ++ [':']) cs with
    | some rest => hitOf (!isLineEnd ·) cs (lineValue rest)
    | none => none
  | field name => findField name cs

def Rule.apply (r : Rule) (cs : List Char) : List Char := replace r.find 0 none cs

/-- The rules in the order in which they are applied. -/
def rules : List Rule := [
  .parameter "client_secret" false,
  .parameter "code" true,
  .parameter "state" true,
  .parameter "access_token" false,
  .parameter "refresh_token" false,
  .parameter "id_token" false,
  .header "bearer",
  .header "basic",
  .credentials "bearer",
  .credentials "basic",
  .line "cookie",
  .line "set-cookie",
  .field "client_secret",
  .field "access_token",
  .field "refresh_token",
  .field "id_token"]

end LoginCallback.Redaction

namespace LoginCallback

/-- The text without its secrets. -/
def redact (text : String) : String :=
  String.ofList (Redaction.rules.foldl (fun cs r => r.apply cs) text.toList)

end LoginCallback
