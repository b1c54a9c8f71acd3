import LoginCallback.Yaml.Block
import LoginCallback.Yaml.Flow

/-!
# Tokens of YAML texts

What a text is read as before its nesting is known, and the tokens of one character run: anchors,
aliases, tags and directives. A token `fault` stands where reading stopped.
-/

namespace LoginCallback.Yaml

inductive Directive where
  | version (major minor : Nat)
  | tagHandle (handle shorthand : List Char)
  | other
  deriving DecidableEq

inductive Token where
  | streamEnd
  | directive (directive : Directive)
  | documentStart
  | documentEnd
  | blockSequenceStart
  | blockMappingStart
  | blockEnd
  | flowSequenceStart
  | flowSequenceEnd
  | flowMappingStart
  | flowMappingEnd
  | blockEntry
  | flowEntry
  | key
  | value
  | alias (name : List Char)
  | anchor (name : List Char)
  /-- A tag; without a handle it is written in full. -/
  | tag (handle : Option (List Char)) (suffix : List Char)
  | scalar (text : List Char) (isPlain : Bool)
  | fault (fault : Fault)
  deriving DecidableEq

/-! ## Names -/

def isNameChar (c : Char) : Bool := c.isAlphanum || c == '-' || c == '_'

/-- Nothing, a space or the end of a line. -/
def endsField (c : Option Char) : Bool := c == some ' ' || endsLine c

/-- The name of an anchor or an alias whose indicator has been read. -/
def takeName (c : Cursor) : Except Fault (List Char × Cursor) :=
  let (name, c) := c.span isNameChar
  if name.isEmpty || !(endsWord c.peek || c.peek.any "?:,]\x7d%@\x60".toList.contains) then
    .error .malformed
  else .ok (name, c)

/-! ## Tags -/

/-- A handle: `!`, `!!` or a name between exclamation marks. -/
def takeHandle (c : Cursor) : Except Fault (List Char × Cursor) := do
  let c ← c.expect '!'
  if c.peek == some ' ' then return (['!'], c)
  let (name, c) := c.span isNameChar
  let c ← c.expect '!'
  return ('!' :: name ++ ['!'], c)

def isAddressChar (c : Char) : Bool :=
  c.isAlphanum || "-;/?:@&=+$,_.!~*'()[]%".toList.contains c

/-- Octets written by two hexadecimal digits behind a percent sign each. -/
def percentOctets : List Char → Option (List Nat)
  | '%' :: a :: b :: rest =>
    match Octets.hexValue? a, Octets.hexValue? b with
    | some m, some n => (percentOctets rest).map ((m * 16 + n) :: ·)
    | _, _ => none
  | '%' :: _ => none
  | _ => some []

/-- The part of a tag behind its handle; runs of escaped octets are texts in UTF-8. -/
def takeSuffix (c : Cursor) : Nat → Except Fault (List Char × Cursor)
  | 0 => .error .malformed
  | fuel + 1 => do
    let (run, c) := c.span fun x => isAddressChar x && x != '%'
    if c.peek == some '%' then
      let some os := percentOctets c.rest | throw .malformed
      let some escaped := Octets.toUtf8? false os | throw .malformed
      let c := c.skip (3 * os.length)
      if c.peek.any isAddressChar then
        let (text, c) ← takeSuffix c fuel
        return (run ++ escaped ++ text, c)
      else return (run ++ escaped, c)
    else if run.isEmpty then throw .malformed
    else return (run, c)

def takeTagSuffix (c : Cursor) : Except Fault (List Char × Cursor) :=
  takeSuffix c (c.rest.length + 1)

/-- Whether another exclamation mark follows in the word. -/
def hasHandle (c : Cursor) : Bool :=
  (c.next.rest.takeWhile fun x => !endsField (some x)).contains '!'

def takeTag (c : Cursor) : Except Fault (Token × Cursor) := do
  let (handle, suffix, c) ←
    if c.peekAt 1 == some '<' then do
      let (suffix, c) ← takeTagSuffix (c.skip 2)
      pure (none, suffix, ← c.expect '>')
    else if endsWord (c.peekAt 1) then pure (none, ['!'], c.next)
    else do
      let (handle, c) ← if hasHandle c then takeHandle c else pure (['!'], c.next)
      let (suffix, c) ← takeTagSuffix c
      pure (some handle, suffix, c)
  if !endsField c.peek then throw .malformed
  return (.tag handle suffix, c)

/-! ## Directives -/

def takeNumber (c : Cursor) : Except Fault (Nat × Cursor) :=
  let (ds, c) := c.span Decimal.isDigit
  if ds.isEmpty then .error .malformed else .ok (Decimal.ofDigits ds, c)

def takeVersion (c : Cursor) : Except Fault (Directive × Cursor) := do
  let (major, c) ← takeNumber c
  let (minor, c) ← takeNumber (← c.expect '.')
  return (.version major minor, c)

def takeTagHandle (c : Cursor) : Except Fault (Directive × Cursor) := do
  let (handle, c) ← takeHandle c
  let c ← c.expect ' '
  let (shorthand, c) ← takeTagSuffix (c.skipWhile (· == ' '))
  return (.tagHandle handle shorthand, c)

/-- A directive, from its percent sign to the end of its line. -/
def takeDirective (c : Cursor) : Except Fault (Token × Cursor) := do
  let (name, c) := c.next.span isNameChar
  if name.isEmpty || !endsField c.peek then throw .malformed
  let blanks := c.skipWhile (· == ' ')
  let (directive, c) ←
    if name = "YAML".toList then takeVersion blanks
    else if name = "TAG".toList then takeTagHandle blanks
    else pure (.other, c.skipWhile (!isBreak ·))
  if !endsField c.peek then throw .malformed
  return (.directive directive, ← takeEmptyLine c)

end LoginCallback.Yaml
