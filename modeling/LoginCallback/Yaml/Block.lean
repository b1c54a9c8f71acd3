import LoginCallback.Yaml.Cursor

/-!
# Scalars of several lines

Literal scalars keep their line ends; in folded ones a line end between two lines that do not begin
with a blank becomes a space. The header may give the indentation and say what becomes of the line
ends at the end.
-/

namespace LoginCallback.Yaml

/-- What becomes of the line ends at the end of a scalar. -/
inductive Chomping where
  /-- One of them stays. -/
  | clip
  | strip
  | keep
  deriving DecidableEq

def takeChomping (c : Cursor) : Chomping × Cursor :=
  match c.peek with
  | some '+' => (.keep, c.next)
  | some '-' => (.strip, c.next)
  | _ => (.clip, c)

/-- A digit that gives the indentation; it is not zero. -/
def takeIncrement (c : Cursor) : Except Fault (Option Nat × Cursor) :=
  match c.peek with
  | some d =>
    if d == '0' then .error .malformed
    else if Decimal.isDigit d then .ok (some (Decimal.charValue d), c.next)
    else .ok (none, c)
  | none => .ok (none, c)

/-- The rest of a line that holds at most a comment. -/
def takeEmptyLine (c : Cursor) : Except Fault Cursor :=
  let c := c.skipWhile (· == ' ')
  let c := if c.peek == some '#' then c.skipWhile (!isBreak ·) else c
  if c.peek.isNone then .ok c
  else match c.takeBreak with
    | some (_, c) => .ok c
    | none => .error .malformed

def takeHeader (c : Cursor) : Except Fault (Chomping × Option Nat × Cursor) := do
  let (chomping, c₁) := takeChomping c
  let (increment, c₂) ← takeIncrement c₁
  let (chomping, c₃) := if chomping = .clip then takeChomping c₂ else (chomping, c₂)
  if !(endsLine c₃.peek || c₃.peek == some ' ') then throw .malformed
  return (chomping, increment, ← takeEmptyLine c₃)

/-- Empty lines before the first line, and the largest indentation among them. -/
def takeLeading (c : Cursor) (most : Nat) : Nat → List Char × Nat × Cursor
  | 0 => ([], most, c)
  | fuel + 1 =>
    if c.peek == some ' ' then takeLeading c.next (max most c.next.column) fuel
    else match c.takeBreak with
      | some (b, c) =>
        let (bs, most, c) := takeLeading c most fuel
        (b :: bs, most, c)
      | none => ([], most, c)

/-- Spaces up to a column. -/
def skipIndent (indent : Nat) (c : Cursor) : Cursor :=
  c.skip ((c.rest.takeWhile (· == ' ')).take (indent - c.column)).length

/-- Empty lines between lines of an indentation. -/
def takeEmptyLines (indent : Nat) (c : Cursor) : Nat → List Char × Cursor
  | 0 => ([], c)
  | fuel + 1 =>
    let c := skipIndent indent c
    match c.takeBreak with
    | some (b, c) =>
      let (bs, c) := takeEmptyLines indent c fuel
      (b :: bs, c)
    | none => ([], c)

/-- What stands between two lines of a scalar. -/
def joinLines (folded : Bool) (lineEnd : Char) (blank blankNext : Bool) (empty : List Char) :
    List Char :=
  if folded && lineEnd == '\n' && !blank && !blankNext then if empty.isEmpty then [' '] else empty
  else lineEnd :: empty

/-- What stands behind the last line. -/
def chomp (chomping : Chomping) (lineEnd : List Char) (empty : List Char) : List Char :=
  match chomping with
  | .strip => []
  | .clip => lineEnd
  | .keep => lineEnd ++ empty

/-- The lines of an indentation. -/
def takeLines (folded : Bool) (chomping : Chomping) (indent : Nat) (c : Cursor) :
    Nat → List Char × Cursor
  | 0 => ([], c)
  | fuel + 1 =>
    let blank := c.peek.any isSpaceOrTab
    let (line, c) := c.span (!isBreak ·)
    match c.takeBreak with
    | none => (line, c)
    | some (lineEnd, c) =>
      let (empty, c) := takeEmptyLines indent c (c.rest.length + 1)
      if c.column == indent && c.peek.isSome then
        let (text, c') := takeLines folded chomping indent c fuel
        (line ++ joinLines folded lineEnd blank (c.peek.any isSpaceOrTab) empty ++ text, c')
      else (line ++ chomp chomping [lineEnd] empty, c)

/-- A literal or folded scalar whose indicator has been read, inside a block of the given
indentation. -/
def takeBlock (folded : Bool) (outer : Int) (c : Cursor) : Except Fault (List Char × Cursor) := do
  let (chomping, increment, c) ← takeHeader c
  let least := (max (outer + 1) 1).toNat
  let (empty, indent, c) := match increment with
    | some n =>
      let indent := least + n - 1
      let (empty, c) := takeEmptyLines indent c (c.rest.length + 1)
      (empty, indent, c)
    | none =>
      let (empty, most, c) := takeLeading c 0 (c.rest.length + 1)
      (empty, max least most, c)
  if c.column == indent && c.peek.isSome then
    let (text, c) := takeLines folded chomping indent c (c.rest.length + 1)
    return (empty ++ text, c)
  else return (chomp chomping [] empty, c)

end LoginCallback.Yaml
