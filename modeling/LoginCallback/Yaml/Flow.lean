import LoginCallback.Yaml.Cursor

/-!
# Scalars within lines

Plain and quoted scalars. Line ends inside them fold: a single one becomes a space, of several all
but the first stay.
-/

namespace LoginCallback.Yaml

/-! ## Plain scalars -/

/-- The characters of a plain scalar up to a blank, a line end or an indicator. -/
def plainRun (inFlow : Bool) : List Char → List Char
  | [] => []
  | c :: cs =>
    if isSpaceOrTab c || isBreak c then []
    else if c == ':'
        && (endsWord cs.head? || (inFlow && (cs.head?.any ",[]\x7b\x7d".toList.contains))) then []
    else if inFlow && ",?[]\x7b\x7d".toList.contains c then []
    else c :: plainRun inFlow cs

/-- Line ends, and the spaces that begin lines, up to `fuel` of them; `none` at a document mark. -/
def takeBreaks (c : Cursor) : Nat → Option (List Char × Cursor)
  | 0 => some ([], c)
  | fuel + 1 =>
    if c.peek == some ' ' then takeBreaks c.next fuel
    else match c.takeBreak with
      | none => some ([], c)
      | some (b, c) =>
        if atDocumentMark c then none else (takeBreaks c fuel).map fun (bs, c) => (b :: bs, c)

/-- How one line end and those that follow it directly fold. -/
def foldBreaks (first : Char) (others : List Char) : List Char :=
  if first != '\n' then first :: others else if others.isEmpty then [' '] else others

/-- What stands between two runs of a plain scalar, and whether it holds a line end. Nothing is
found when the scalar ends here. -/
def plainGap (c : Cursor) : List Char × Cursor × Bool :=
  let (spaces, c) := c.span (· == ' ')
  match c.takeBreak with
  | none => (spaces, c, false)
  | some (first, c) =>
    if atDocumentMark c then ([], c, true)
    else match takeBreaks c (c.rest.length + 1) with
      | none => ([], c.skipWhile fun x => x == ' ' || isBreak x, true)
      | some (others, c) => (foldBreaks first others, c, true)

/-- A plain scalar: its text, the cursor behind it, and whether a line end was passed since its
last character. -/
def takePlain (indent : Int) (inFlow : Bool) (c : Cursor) (gap : List Char) (broken : Bool) :
    Nat → List Char × Cursor × Bool
  | 0 => ([], c, broken)
  | fuel + 1 =>
    let run := if c.peek == some '#' then [] else plainRun inFlow c.rest
    if run.isEmpty then ([], c, broken)
    else
      let (gap', c, broken) := plainGap (c.skip run.length)
      if gap'.isEmpty || c.peek == some '#' || (!inFlow && decide ((c.column : Int) < indent)) then
        (gap ++ run, c, broken)
      else
        let (text, c, broken) := takePlain indent inFlow c gap' broken fuel
        (gap ++ run ++ text, c, broken)

/-! ## Quoted scalars -/

/-- What an escape of one character stands for. -/
def escape? (c : Char) : Option Nat :=
  [('0', 0), ('a', 7), ('b', 8), ('t', 9), ('\t', 9), ('n', 10), ('v', 11), ('f', 12), ('r', 13),
   ('e', 27), (' ', 32), ('"', 34), ('\\', 92), ('/', 47), ('N', 0x85), ('_', 0xA0), ('L', 0x2028),
   ('P', 0x2029)].lookup c

/-- How many hexadecimal digits follow an escape character. -/
def escapeWidth? (c : Char) : Option Nat := [('x', 2), ('u', 4), ('U', 8)].lookup c

/-- The character of a code point. Half a surrogate pair, which no text can hold, is replaced. -/
def codePoint (n : Nat) : Except Fault Char :=
  match Octets.charOf? true n with
  | some c => .ok c
  | none => .error (.noCodePoint (decide (0x80000000 ≤ n)))

def takeHex (c : Cursor) (width : Nat) : Except Fault (Char × Cursor) := do
  let ds := c.rest.take width
  let some values := ds.mapM Octets.hexValue? | throw .malformed
  if values.length < width then throw .malformed
  return (← codePoint (values.foldl (fun n d => n * 16 + d) 0), c.skip width)

/-- Line ends in a quoted scalar, and the blanks that begin lines. -/
def quotedBreaks (c : Cursor) : Nat → Except Fault (List Char × Cursor)
  | 0 => .error .malformed
  | fuel + 1 =>
    if atDocumentMark c then .error .malformed
    else
      let c := c.skipWhile isSpaceOrTab
      match c.takeBreak with
      | none => .ok ([], c)
      | some (b, c) => do
        let (bs, c) ← quotedBreaks c fuel
        return (b :: bs, c)

/-- Blanks and line ends in a quoted scalar. -/
def quotedGap (c : Cursor) : Except Fault (List Char × Cursor) := do
  let (blanks, c) := c.span isSpaceOrTab
  match c.peek, c.takeBreak with
  | none, _ => throw .malformed
  | _, none => return (blanks, c)
  | _, some (first, c) => do
    let (others, c) ← quotedBreaks c (c.rest.length + 1)
    return (foldBreaks first others, c)

/-- An escape sequence whose backslash has been read. -/
def takeEscape (c : Cursor) : Except Fault (List Char × Cursor) := do
  let some x := c.peek | throw .malformed
  match escape? x, escapeWidth? x with
  | some n, _ => return ([Char.ofNat n], c.next)
  | none, some width => do
    let (y, c) ← takeHex c.next width
    return ([y], c)
  | none, none =>
    match c.takeBreak with
    | some (_, c) => quotedBreaks c (c.rest.length + 1)
    | none => throw .malformed

/-- The text of a quoted scalar whose opening quote has been read, up to the closing one. -/
def takeQuoted (quote : Char) (c : Cursor) : Nat → Except Fault (List Char × Cursor)
  | 0 => .error .malformed
  | fuel + 1 => do
    let some x := c.peek | throw .malformed
    if x == quote then
      if quote == '\'' && c.peekAt 1 == some '\'' then
        let (text, c) ← takeQuoted quote (c.skip 2) fuel
        return ('\'' :: text, c)
      else return ([], c.next)
    else if isSpaceOrTab x || isBreak x then
      let (gap, c) ← quotedGap c
      let (text, c) ← takeQuoted quote c fuel
      return (gap ++ text, c)
    else if quote == '"' && x == '\\' then
      let (shown, c) ← takeEscape c.next
      let (text, c) ← takeQuoted quote c fuel
      return (shown ++ text, c)
    else
      let (text, c) ← takeQuoted quote c.next fuel
      return (x :: text, c)

end LoginCallback.Yaml
