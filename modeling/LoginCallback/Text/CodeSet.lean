/-!
# Sets of code points

A set of characters is given by the ascending list of the code points at which membership flips:
a character belongs to it when an odd number of flips lies at or below it.
-/

namespace LoginCallback.Text.CodeSet

/-- How many entries of the ascending array are at most `n`, sought between `lo` and `hi`. -/
def countUpTo (flips : Array Nat) (n lo hi : Nat) : Nat :=
  if _h : lo < hi then
    let mid := (lo + hi) / 2
    if flips.getD mid 0 ≤ n then countUpTo flips n (mid + 1) hi else countUpTo flips n lo mid
  else lo
termination_by hi - lo

def contains (flips : Array Nat) (c : Char) : Bool :=
  countUpTo flips c.toNat 0 flips.size % 2 == 1

end LoginCallback.Text.CodeSet
