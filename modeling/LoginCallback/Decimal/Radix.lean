import LoginCallback.Decimal.Digits

/-!
# Numbers in a base

The integers that texts write in a base of at most sixteen, with blanks around them, a sign, and
the mark of the base in front.
-/

namespace LoginCallback.Decimal

/-- The value of a digit of any script, or of one of the letters `a` to `f` in either case. -/
def radixValue? (c : Char) : Option Nat :=
  if 'a' ≤ c ∧ c ≤ 'f' then some (c.toNat - 87)
  else if 'A' ≤ c ∧ c ≤ 'F' then some (c.toNat - 55)
  else digitValue? c

/-- The letter that marks a base. -/
def radixMark? (base : Nat) : Option Char := [(2, 'b'), (8, 'o'), (16, 'x')].lookup base

/-- The digits behind the mark of the base, if it is there. -/
def dropMark (base : Nat) (cs : List Char) : List Char :=
  match cs with
  | '0' :: x :: rest => if radixMark? base == some x.toLower then rest else cs
  | cs => cs

/-- The number that digits write in a base. -/
def ofRadix? (base : Nat) (cs : List Char) : Option Nat := do
  if cs.isEmpty then none
  let ds ← cs.mapM radixValue?
  if ds.all (· < base) then some (ds.foldl (fun n d => n * base + d) 0) else none

/-- The integer that a text writes in a base. -/
def readRadix? (base : Nat) (s : String) : Option Int :=
  let (negative, body) := splitSign (bare s)
  (ofRadix? base (dropMark base body)).map fun n => if negative then -(n : Int) else n

/-- How many digits a text consists of, if it is an integer in decimal. -/
def digitCount? (s : String) : Option Nat :=
  let (_, body) := splitSign (bare s)
  if body.isEmpty || !body.all isDigit then none else some body.length

end LoginCallback.Decimal
