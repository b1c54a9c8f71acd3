import LoginCallback.Decimal.Shortest
import LoginCallback.Value.Basic
import LoginCallback.Yaml.Cursor
import LoginCallback.Yaml.Resolution

/-!
# Writing YAML texts

Collections are written as blocks, an entry or item to a line; empty ones as brackets. A text stands
without quotes if it reads back as itself, between single quotes if it has no character beyond
printable ASCII and line feeds, else between double quotes with escapes. Lines longer than 80
columns are folded.

That files are written so is an assumption about the library that writes the settings. A value that
stands in several places is written in each of them, without an anchor.
-/

namespace LoginCallback.Yaml

/-- Lines are folded behind this column. -/
def lineWidth : Nat := 80

def spaces (n : Nat) : List Char := List.replicate n ' '

def newLine (indent : Nat) : List Char := '\n' :: spaces indent

/-! ## Which quotes a text needs -/

/-- Nothing, a blank or the end of a line, also one that is a carriage return. -/
def endsToken (c : Option Char) : Bool := endsWord c || c == some '\r'

/-- Whether a text begins with an indicator. -/
def startsIndicator : List Char → Bool
  | [] => false
  | c :: cs =>
    "#,[]\x7b\x7d&*!|>'\"%@\x60".toList.contains c
      || ("?:-".toList.contains c && endsToken cs.head?)
      || (c :: cs).take 3 == "---".toList || (c :: cs).take 3 == "...".toList

/-- Whether a colon before a blank or a number sign behind one stands in a text. -/
def holdsIndicator : List Char → Bool
  | [] => false
  | [_] => false
  | a :: b :: cs =>
    (b == ':' && endsToken cs.head?) || (b == '#' && endsToken (some a)) || holdsIndicator (b :: cs)

/-- Whether `p` holds of two neighbours. -/
def anyNeighbours (p : Char → Char → Bool) : List Char → Bool
  | a :: b :: cs => p a b || anyNeighbours p (b :: cs)
  | _ => false

def isSpaceOrBreak (c : Char) : Bool := c == ' ' || isBreak c

/-- Whether a character needs an escape. -/
def isSpecial (c : Char) : Bool := c != '\n' && !(decide (' ' ≤ c) && decide (c ≤ '~'))

/-- Whether a text can stand between single quotes. -/
def fitsSingle (cs : List Char) : Bool :=
  !cs.any isSpecial
    && !anyNeighbours (fun a b => (isBreak a && b == ' ') || (a == ' ' && isBreak b)) cs

/-- Whether a text can stand without quotes. -/
def fitsPlain (cs : List Char) : Bool :=
  fitsSingle cs && !cs.any isBreak && !startsIndicator cs && !holdsIndicator cs
    && !cs.head?.any isSpaceOrBreak && !cs.getLast?.any isSpaceOrBreak

/-! ## Texts -/

/-- Whether a line is folded at a space. -/
def foldsAt (before : Option Char) (rest : List Char) (column : Nat) : Bool :=
  before != some ' ' && rest.head? != some ' ' && decide (lineWidth < column)

/-- A text without quotes. -/
def writePlain (indent : Nat) (folding : Bool) (before : Option Char) (column : Nat) :
    List Char → List Char
  | [] => []
  | c :: cs =>
    if c == ' ' && folding && foldsAt before cs column then
      newLine indent ++ writePlain indent folding (some c) indent cs
    else c :: writePlain indent folding (some c) (column + 1) cs

/-- A text between single quotes. A single quote is written twice, and so is the first of several
line feeds. -/
def writeSingle (indent : Nat) (folding : Bool) (before : Option Char) (column : Nat) :
    List Char → List Char
  | [] => ['\'']
  | c :: cs =>
    if c == ' ' && folding && before.isSome && !cs.isEmpty && foldsAt before cs column then
      newLine indent ++ writeSingle indent folding (some c) indent cs
    else if c == '\n' then
      (if before == some '\n' then ['\n'] else ['\n', '\n'])
        ++ (if cs.head? == some '\n' then [] else spaces indent)
        ++ writeSingle indent folding (some c) indent cs
    else if c == '\'' then '\'' :: '\'' :: writeSingle indent folding (some c) (column + 2) cs
    else c :: writeSingle indent folding (some c) (column + 1) cs

def upperHexDigits : Nat → Nat → List Char
  | 0, _ => []
  | width + 1, n => upperHexDigits width (n / 16) ++ [Octets.upperHex (n % 16)]

/-- The escape of a character, and nothing for one that stands for itself. -/
def writeEscape? (c : Char) : Option (List Char) :=
  let n := c.toNat
  let letter := [(0, '0'), (7, 'a'), (8, 'b'), (9, 't'), (10, 'n'), (11, 'v'), (12, 'f'), (13, 'r'),
    (27, 'e'), (34, '"'), (92, '\\'), (0x85, 'N'), (0xA0, '_'), (0x2028, 'L'),
    (0x2029, 'P')].lookup n
  match letter with
  | some x => some ['\\', x]
  | none =>
    if decide (' ' ≤ c) && decide (c ≤ '~') then none
    else if n < 0x100 then some ('\\' :: 'x' :: upperHexDigits 2 n)
    else if n < 0x10000 then some ('\\' :: 'u' :: upperHexDigits 4 n)
    else some ('\\' :: 'U' :: upperHexDigits 8 n)

/-- A text between double quotes. A line is folded at a space or behind an escape, by a backslash at
its end; a space that begins the next line has a backslash too. `behind` tells that an escape comes
before, and `first` that nothing does. -/
def writeDouble (indent : Nat) (folding first behind : Bool) (column : Nat) : List Char → List Char
  | [] => ['"']
  | c :: cs =>
    let folds (column : Nat) : Bool :=
      folding && !first && !cs.isEmpty && decide (lineWidth < column)
    let fold (next : Option Char) : List Char :=
      '\\' :: newLine indent ++ (if next == some ' ' then ['\\'] else [])
    match writeEscape? c with
    | some e =>
      let column := column + e.length
      if folds (column - 1) then
        e ++ fold cs.head?
          ++ writeDouble indent folding false true
            (indent + (if cs.head? == some ' ' then 1 else 0)) cs
      else e ++ writeDouble indent folding false true column cs
    | none =>
      if (c == ' ' || behind) && folds column then
        fold (some c)
          ++ c :: writeDouble indent folding false false (indent + (if c == ' ' then 2 else 1)) cs
      else c :: writeDouble indent folding false false (column + 1) cs

/-- A text at a column; what follows on further lines is indented. A key stays on its line. -/
def writeText (indent column : Nat) (isKey : Bool) (cs : List Char) : List Char :=
  if Tag.ofText cs = .text && fitsPlain cs then writePlain indent (!isKey) none column cs
  else if fitsSingle cs then '\'' :: writeSingle indent (!isKey) none (column + 1) cs
  else '"' :: writeDouble indent (!isKey) true false (column + 1) cs

/-! ## Other scalars -/

/-- A number always has a point, since it would read back as a text without one. -/
def withPoint (cs : List Char) : List Char :=
  if cs.contains '.' then cs
  else
    cs.takeWhile (· != 'e') ++ (if cs.contains 'e' then ".0".toList else [])
      ++ cs.dropWhile (· != 'e')

def writeFloat (x : Float) : List Char :=
  if x.isNaN then ".nan".toList
  else if x == 1.0 / 0.0 then ".inf".toList
  else if x == -(1.0 / 0.0) then "-.inf".toList
  else withPoint (Decimal.ofFloat x).toList

/-- A scalar at a column; empty collections count as such. -/
def writeScalar (indent column : Nat) (isKey : Bool) : Value → List Char
  | .null => "null".toList
  | .bool b => (if b then "true" else "false").toList
  | .int n => Decimal.ofInt n
  | .float x => writeFloat x
  | .text s => writeText indent column isKey s.toList
  | .list _ => ['[', ']']
  | .mapping _ => ['\x7b', '\x7d']
  | .foreign f => f.display.toList

/-! ## Collections -/

/-- Keys of this length and longer ones are announced by a question mark. -/
def longKey : Nat := 123

/-- Whether a key can be written in front of its colon. -/
def isSimpleKey : Value → Bool
  | .text s => decide (s.length < longKey) && !s.isEmpty && !s.toList.any isBreak
  | _ => true

mutual

/-- What stands behind a dash, a question mark or an explicit colon, all in the column `indent`. -/
def writeInline (indent : Nat) : Value → List Char
  | .list xs => if xs.isEmpty then ['[', ']'] else writeItems (indent + 2) xs
  | .mapping es => if es.isEmpty then ['\x7b', '\x7d'] else writeEntries (indent + 2) es
  | v => writeScalar (indent + 2) (indent + 2) false v

/-- What stands behind the colon that ends in a column. -/
def writeValue (indent column : Nat) : Value → List Char
  | .list xs => if xs.isEmpty then " []".toList else newLine indent ++ writeItems indent xs
  | .mapping es =>
    if es.isEmpty then " \x7b\x7d".toList else newLine (indent + 2) ++ writeEntries (indent + 2) es
  | v => ' ' :: writeScalar (indent + 2) (column + 1) false v

/-- Items, of which the first begins in the column `indent` already. -/
def writeItems (indent : Nat) : List Value → List Char
  | [] => []
  | v :: vs =>
    '-' :: ' ' :: writeInline indent v
      ++ (if vs.isEmpty then [] else newLine indent ++ writeItems indent vs)

/-- Entries, of which the first begins in the column `indent` already. -/
def writeEntries (indent : Nat) : List (Value × Value) → List Char
  | [] => []
  | (k, v) :: es =>
    (if isSimpleKey k then
      let key := writeScalar (indent + 2) indent true k
      key ++ ':' :: writeValue indent (indent + key.length + 1) v
    else
      '?' :: ' ' :: writeScalar (indent + 2) (indent + 2) false k
        ++ newLine indent ++ ':' :: ' ' :: writeInline indent v)
      ++ (if es.isEmpty then [] else newLine indent ++ writeEntries indent es)

end

/-- The text of a value. -/
def write (v : Value) : List Char :=
  (match v with
    | .list xs => if xs.isEmpty then ['[', ']'] else writeItems 0 xs
    | .mapping es => if es.isEmpty then ['\x7b', '\x7d'] else writeEntries 0 es
    | v => writeScalar 2 0 false v) ++ ['\n']

end LoginCallback.Yaml
