import LoginCallback.Yaml.Token

/-!
# Layout

Indentation says where the collections of a block begin and end, and a colon makes a key of what
stands before it on its line. The tokens of a text include those that this layout implies. A place
at which a key may have begun is kept by the number of its token, so that the tokens that announce
the key can be inserted later.
-/

namespace LoginCallback.Yaml

/-- A place at which a key may have begun. -/
structure KeyStart where
  /-- How many tokens stand before it. -/
  number : Nat
  /-- Whether a colon must follow, since nothing but a key can stand here. -/
  required : Bool
  index : Nat
  line : Nat
  column : Nat

structure Layout where
  cursor : Cursor
  /-- The tokens so far, the latest first. -/
  tokens : List Token := []
  /-- The possible key of the innermost collection, and of those around it. -/
  possible : Option KeyStart := none
  outer : List (Option KeyStart) := []
  /-- The columns of the open blocks, the innermost first. -/
  columns : List Nat := []
  /-- Whether a key may begin at the cursor. -/
  keyAllowed : Bool := true
  finished : Bool := false

namespace Layout

/-- The column of the innermost block. -/
def indent (l : Layout) : Int :=
  match l.columns with
  | [] => -1
  | c :: _ => c

/-- Whether the cursor is inside brackets. -/
def inFlow (l : Layout) : Bool := !l.outer.isEmpty

def push (l : Layout) (t : Token) : Layout := { l with tokens := t :: l.tokens }

/-- Inserts a token behind the first `number` ones. -/
def insert (l : Layout) (number : Nat) (t : Token) : Layout :=
  { l with tokens := l.tokens.insertIdx (l.tokens.length - number) t }

/-- Closes the blocks that are indented more than the column; brackets close none. -/
def unwind (column : Int) (l : Layout) : Layout :=
  let closed := if l.inFlow then [] else l.columns.takeWhile fun (c : Nat) => decide (column < c)
  { l with columns := l.columns.drop closed.length
           tokens := List.replicate closed.length .blockEnd ++ l.tokens }

/-- A key may not begin earlier on another line, nor more than 1024 characters before its colon. -/
def isStale (c : Cursor) (k : KeyStart) : Bool :=
  k.line != c.line || decide (1024 < c.index - k.index)

/-- Gives up the possible keys that the cursor has left behind. -/
def dropStale (l : Layout) : Except Fault Layout :=
  if (l.possible :: l.outer).any (·.any fun k => isStale l.cursor k && k.required) then
    .error .malformed
  else
    let fresh := fun (k : Option KeyStart) => k.filter (!isStale l.cursor ·)
    .ok { l with possible := fresh l.possible, outer := l.outer.map fresh }

/-- Gives up the possible key of the innermost collection. -/
def dropKey (l : Layout) : Except Fault Layout :=
  if l.possible.any (·.required) then .error .malformed else .ok { l with possible := none }

/-- Notes that a key may begin at the cursor. -/
def noteKey (l : Layout) : Except Fault Layout := do
  if !l.keyAllowed then return l
  let l ← l.dropKey
  return { l with possible := some {
    number := l.tokens.length
    required := !l.inFlow && l.indent == (l.cursor.column : Int)
    index := l.cursor.index, line := l.cursor.line, column := l.cursor.column } }

/-- Opens a block at a column that is indented more than the innermost one. -/
def openBlock (l : Layout) (column number : Nat) (start : Token) : Layout :=
  if l.indent < (column : Int) then { l.insert number start with columns := column :: l.columns }
  else l

/-- The cursor behind blanks, comments and line ends. A key may begin on a new line of a block. -/
def skipBlank (l : Layout) : Nat → Layout
  | 0 => l
  | fuel + 1 =>
    let c := l.cursor.skipWhile (· == ' ')
    let c := if c.peek == some '#' then c.skipWhile (!isBreak ·) else c
    match c.takeBreak with
    | none => { l with cursor := c }
    | some (_, c) => skipBlank { l with cursor := c, keyAllowed := l.keyAllowed || !l.inFlow } fuel

/-- A token of one character. -/
def mark (l : Layout) (t : Token) : Layout := { l.push t with cursor := l.cursor.next }

/-! ## Indicators -/

def atEnd (l : Layout) : Except Fault Layout := do
  let l ← (l.unwind (-1)).dropKey
  return { l.push .streamEnd with finished := true }

/-- A line of its own, which closes all blocks. -/
def directive (l : Layout) : Except Fault Layout := do
  let l ← (l.unwind (-1)).dropKey
  let (t, c) ← takeDirective l.cursor
  return { l.push t with cursor := c, keyAllowed := false }

def documentMark (t : Token) (l : Layout) : Except Fault Layout := do
  let l ← (l.unwind (-1)).dropKey
  return { l.push t with cursor := l.cursor.skip 3, keyAllowed := false }

def flowOpening (t : Token) (l : Layout) : Except Fault Layout := do
  let l ← l.noteKey
  return { l.mark t with possible := none, outer := l.possible :: l.outer, keyAllowed := true }

def flowClosing (t : Token) (l : Layout) : Except Fault Layout := do
  let l ← l.dropKey
  match l.outer with
  | [] => throw .malformed
  | possible :: outer => return { l.mark t with possible, outer, keyAllowed := false }

def flowEntry (l : Layout) : Except Fault Layout := do
  return { (← l.dropKey).mark .flowEntry with keyAllowed := true }

def blockEntry (l : Layout) : Except Fault Layout := do
  let l ← if l.inFlow then pure l
    else if !l.keyAllowed then throw .malformed
    else pure (l.openBlock l.cursor.column l.tokens.length .blockSequenceStart)
  return { (← l.dropKey).mark .blockEntry with keyAllowed := true }

/-- The mapping that begins at a key or a colon for which no key has been noted. -/
def openMapping (l : Layout) : Except Fault Layout :=
  if l.inFlow then .ok l
  else if !l.keyAllowed then .error .malformed
  else .ok (l.openBlock l.cursor.column l.tokens.length .blockMappingStart)

def explicitKey (l : Layout) : Except Fault Layout := do
  let l ← (← l.openMapping).dropKey
  return { l.mark .key with keyAllowed := !l.inFlow }

/-- A colon; it makes a key of what began at the possible key. -/
def colon (l : Layout) : Except Fault Layout := do
  match l.possible with
  | some k =>
    let l := { l.insert k.number .key with possible := none, keyAllowed := false }
    let l := if l.inFlow then l else l.openBlock k.column k.number .blockMappingStart
    return l.mark .value
  | none =>
    let l ← l.openMapping
    return { l.mark .value with keyAllowed := !l.inFlow }

/-! ## Content -/

/-- What may be a key, but has none behind it on its line. -/
def content (take : Cursor → Except Fault (Token × Cursor)) (l : Layout) : Except Fault Layout := do
  let l ← l.noteKey
  let (t, c) ← take l.cursor
  return { l.push t with cursor := c, keyAllowed := false }

def takeAnchor (c : Cursor) : Except Fault (Token × Cursor) := do
  let (name, c) ← takeName c.next
  return (.anchor name, c)

def takeAlias (c : Cursor) : Except Fault (Token × Cursor) := do
  let (name, c) ← takeName c.next
  return (.alias name, c)

def takeQuotedToken (quote : Char) (c : Cursor) : Except Fault (Token × Cursor) := do
  let (text, c) ← takeQuoted quote c.next (c.rest.length + 1)
  return (.scalar text false, c)

def block (folded : Bool) (l : Layout) : Except Fault Layout := do
  let l ← l.dropKey
  let (text, c) ← takeBlock folded l.indent l.cursor.next
  return { l.push (.scalar text false) with cursor := c, keyAllowed := true }

def plain (l : Layout) : Except Fault Layout := do
  let l ← l.noteKey
  let (text, c, broken) :=
    takePlain (l.indent + 1) l.inFlow l.cursor [] false (l.cursor.rest.length + 1)
  return { l.push (.scalar text true) with cursor := c, keyAllowed := broken }

/-- Whether a plain scalar can begin with this character. -/
def startsPlain (l : Layout) (x : Char) : Bool :=
  (!endsWord (some x) && !"-?:,[]\x7b\x7d#&*!|>'\"%@\x60".toList.contains x)
    || (!endsWord (l.cursor.peekAt 1) && (x == '-' || (!l.inFlow && (x == '?' || x == ':'))))

/-! ## Steps -/

/-- What the token at the cursor begins with. -/
def dispatch (l : Layout) (x : Char) : Except Fault Layout :=
  let blankNext := endsWord (l.cursor.peekAt 1)
  let atMargin := l.cursor.column == 0
  if x == '%' && atMargin then l.directive
  else if atMargin && isDocumentMark '-' l.cursor then l.documentMark .documentStart
  else if atMargin && isDocumentMark '.' l.cursor then l.documentMark .documentEnd
  else if x == '[' then l.flowOpening .flowSequenceStart
  else if x == '\x7b' then l.flowOpening .flowMappingStart
  else if x == ']' then l.flowClosing .flowSequenceEnd
  else if x == '\x7d' then l.flowClosing .flowMappingEnd
  else if x == ',' then l.flowEntry
  else if x == '-' && blankNext then l.blockEntry
  else if x == '?' && (l.inFlow || blankNext) then l.explicitKey
  else if x == ':' && (l.inFlow || blankNext) then l.colon
  else if x == '*' then l.content takeAlias
  else if x == '&' then l.content takeAnchor
  else if x == '!' then l.content takeTag
  else if x == '|' && !l.inFlow then l.block false
  else if x == '>' && !l.inFlow then l.block true
  else if x == '\'' || x == '"' then l.content (takeQuotedToken x)
  else if l.startsPlain x then l.plain
  else .error .malformed

/-- The next token, with those that the layout implies. -/
def step (l : Layout) : Except Fault Layout := do
  let l ← (l.skipBlank (l.cursor.rest.length + 1)).dropStale
  let l := l.unwind l.cursor.column
  let l ← match l.cursor.peek with
    | none => l.atEnd
    | some x => l.dispatch x
  l.dropStale

/-- The number of the earliest token that may still become a key. -/
def firstPossible? (l : Layout) : Option Nat :=
  ((l.possible :: l.outer).filterMap (·.map (·.number))).min?

/-- The tokens that are settled when reading stops with a fault. -/
def stop (l : Layout) (f : Fault) : List Token :=
  (l.tokens.reverse.take (l.firstPossible?.getD l.tokens.length)) ++ [.fault f]

/-- The tokens of a text, up to `steps` readings. -/
def run (l : Layout) : Nat → List Token
  | 0 => l.stop .malformed
  | steps + 1 =>
    if l.finished then l.tokens.reverse
    else match l.step with
      | .ok l => run l steps
      | .error f => l.stop f

end Layout

/-- Characters that a text may hold. -/
def isAdmitted (c : Char) : Bool :=
  let n := c.toNat
  n == 9 || n == 10 || n == 13 || (decide (0x20 ≤ n) && decide (n ≤ 0x7E)) || n == 0x85
    || (decide (0xA0 ≤ n) && n != 0xFFFE && n != 0xFFFF)

/-- Carriage returns, with a line feed behind them or without, become line feeds. -/
def unifyBreaks : List Char → List Char
  | '\r' :: '\n' :: cs => '\n' :: unifyBreaks cs
  | '\r' :: cs => '\n' :: unifyBreaks cs
  | c :: cs => c :: unifyBreaks cs
  | [] => []

/-- The tokens of a text. A byte order mark at the front is skipped. -/
def Token.ofText (text : List Char) : List Token :=
  let text := unifyBreaks text
  if !text.all isAdmitted then [.fault .malformed]
  else
    let c : Cursor := { rest := text }
    Layout.run { cursor := if c.peek.any isOrderMark then c.next else c } (text.length + 2)

end LoginCallback.Yaml
