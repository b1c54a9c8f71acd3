import LoginCallback.Decimal.Digits
import LoginCallback.Octets.Basic
import LoginCallback.Yaml.Fault

/-!
# Reading positions in YAML texts

A cursor is the rest of a text with its place: how many characters were read, in which line and in
which column. Lines end with a line feed, a next-line character, or one of the two separators of
lines and paragraphs; carriage returns have become line feeds before.
-/

namespace LoginCallback.Yaml

def isBreak (c : Char) : Bool :=
  c == '\n' || c.toNat == 0x85 || c.toNat == 0x2028 || c.toNat == 0x2029

def isSpaceOrTab (c : Char) : Bool := c == ' ' || c == '\t'

/-- The byte order mark, which takes no column. -/
def isOrderMark (c : Char) : Bool := c.toNat == 0xFEFF

structure Cursor where
  rest : List Char
  index : Nat := 0
  line : Nat := 0
  column : Nat := 0

namespace Cursor

def peek (c : Cursor) : Option Char := c.rest.head?

def peekAt (c : Cursor) (n : Nat) : Option Char := c.rest[n]?

/-- The cursor behind the next character. -/
def next (c : Cursor) : Cursor :=
  match c.rest with
  | [] => c
  | x :: rest =>
    if isBreak x then ⟨rest, c.index + 1, c.line + 1, 0⟩
    else ⟨rest, c.index + 1, c.line, if isOrderMark x then c.column else c.column + 1⟩

def skip (c : Cursor) : Nat → Cursor
  | 0 => c
  | n + 1 => c.next.skip n

/-- The cursor behind the characters that satisfy `p`, and these characters. -/
def span (c : Cursor) (p : Char → Bool) : List Char × Cursor :=
  let found := c.rest.takeWhile p
  (found, c.skip found.length)

def skipWhile (c : Cursor) (p : Char → Bool) : Cursor := (c.span p).2

/-- Takes the end of a line: the separators of lines and paragraphs stay what they are, every other
end is a line feed. -/
def takeBreak (c : Cursor) : Option (Char × Cursor) :=
  match c.peek with
  | some x =>
    if !isBreak x then none
    else some (if x.toNat == 0x2028 || x.toNat == 0x2029 then x else '\n', c.next)
  | none => none

/-- Takes one given character. -/
def expect (c : Cursor) (x : Char) : Except Fault Cursor :=
  if c.peek == some x then .ok c.next else .error .malformed

end Cursor

/-- Nothing, a blank or the end of a line. -/
def endsWord (c : Option Char) : Bool :=
  match c with
  | none => true
  | some x => isSpaceOrTab x || isBreak x

/-- Nothing or the end of a line. -/
def endsLine (c : Option Char) : Bool := c.all isBreak

/-- Whether a line holds `---` or `...` and nothing else, or something behind a blank. -/
def isDocumentMark (mark : Char) (c : Cursor) : Bool :=
  c.peek == some mark && c.peekAt 1 == some mark && c.peekAt 2 == some mark && endsWord (c.peekAt 3)

def atDocumentMark (c : Cursor) : Bool := isDocumentMark '-' c || isDocumentMark '.' c

end LoginCallback.Yaml
