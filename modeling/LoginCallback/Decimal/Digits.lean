import LoginCallback.Text.Blank

/-!
# Decimal digits

Digits of all scripts, and the texts of natural numbers and integers. A written number may be
surrounded by blanks, may use the digits of any script, and may hold single underscores between
digits.
-/

namespace LoginCallback.Decimal

/-- The code points of the zeros of all scripts; the nine digits that follow each count upwards. -/
def zeros : List Nat :=
  [0x30, 0x660, 0x6f0, 0x7c0, 0x966, 0x9e6, 0xa66, 0xae6, 0xb66, 0xbe6, 0xc66, 0xce6, 0xd66, 0xde6,
   0xe50, 0xed0, 0xf20, 0x1040, 0x1090, 0x17e0, 0x1810, 0x1946, 0x19d0, 0x1a80, 0x1a90, 0x1b50,
   0x1bb0, 0x1c40, 0x1c50, 0xa620, 0xa8d0, 0xa900, 0xa9d0, 0xa9f0, 0xaa50, 0xabf0, 0xff10, 0x104a0,
   0x10d30, 0x11066, 0x110f0, 0x11136, 0x111d0, 0x112f0, 0x11450, 0x114d0, 0x11650, 0x116c0,
   0x11730, 0x118e0, 0x11950, 0x11c50, 0x11d50, 0x11da0, 0x16a60, 0x16ac0, 0x16b50, 0x1d7ce,
   0x1d7d8, 0x1d7e2, 0x1d7ec, 0x1d7f6, 0x1e140, 0x1e2f0, 0x1e950, 0x1fbf0]

/-- The value of a digit of any script. -/
def digitValue? (c : Char) : Option Nat :=
  (zeros.find? fun z => decide (z ≤ c.toNat ∧ c.toNat < z + 10)).map (c.toNat - ·)

def isDigit (c : Char) : Bool := decide ('0' ≤ c ∧ c ≤ '9')

def digitChar (n : Nat) : Char := Char.ofNat (48 + n)

def charValue (c : Char) : Nat := c.toNat - 48

/-- The number written by a list of plain digits. -/
def ofDigits (cs : List Char) : Nat := cs.foldl (fun n c => n * 10 + charValue c) 0

/-- The digits of a number, without leading zeros. -/
def digits (n : Nat) : List Char :=
  if n < 10 then [digitChar n] else digits (n / 10) ++ [digitChar (n % 10)]

/-- The last `width` digits of a number. -/
def padded : Nat → Nat → List Char
  | 0, _ => []
  | width + 1, n => padded width (n / 10) ++ [digitChar (n % 10)]

def ofInt (n : Int) : List Char :=
  if n < 0 then '-' :: digits n.natAbs else digits n.natAbs

/-- Every digit of any script becomes the plain digit and every blank beyond ASCII a space; other
characters beyond ASCII have no place in a number and become a question mark. -/
def normalise (cs : List Char) : List Char :=
  cs.map fun c =>
    if c.val < 127 then c
    else if Text.isBlank c then ' '
    else match digitValue? c with
      | some v => digitChar v
      | none => '?'

/-- Digits with single underscores between them, without the underscores. -/
def joinUnderscored : List Char → Option (List Char)
  | [] => none
  | [c] => if isDigit c then some [c] else none
  | c :: '_' :: rest => if isDigit c then (joinUnderscored rest).map (c :: ·) else none
  | c :: rest => if isDigit c then (joinUnderscored rest).map (c :: ·) else none

/-- The blanks that may surround a number, once it is in ASCII. -/
def isSpace (c : Char) : Bool := decide (9 ≤ c.toNat ∧ c.toNat ≤ 13) || c == ' '

/-- A number in ASCII without the blanks around it. -/
def bare (s : String) : List Char :=
  (((normalise s.toList).dropWhile isSpace).reverse.dropWhile isSpace).reverse

/-- The sign at the front of a number, as a factor, and what follows it. -/
def splitSign : List Char → Bool × List Char
  | '-' :: cs => (true, cs)
  | '+' :: cs => (false, cs)
  | cs => (false, cs)

/-- Numbers of more digits than this are refused. -/
def maxDigits : Nat := 4300

/-- The integer that a text writes in decimal. -/
def readInt? (s : String) : Option Int :=
  let (negative, body) := splitSign (bare s)
  match joinUnderscored body with
  | some ds =>
    if ds.length > maxDigits then none
    else some (if negative then -(ofDigits ds : Int) else ofDigits ds)
  | none => none

end LoginCallback.Decimal
