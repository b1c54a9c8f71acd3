import LoginCallback.Octets.Basic

/-!
# Base 64

Three octets in four characters, the last group filled up with `=`.
-/

namespace LoginCallback.Octets

/-- The character of a group of six bits. -/
def sixBits (n : Nat) : Char :=
  if n < 26 then Char.ofNat (65 + n)
  else if n < 52 then Char.ofNat (71 + n)
  else if n < 62 then Char.ofNat (n - 4)
  else if n == 62 then '+' else '/'

def toBase64 : List Nat → List Char
  | [] => []
  | [a] => [sixBits (a / 4), sixBits (a % 4 * 16), '=', '=']
  | [a, b] => [sixBits (a / 4), sixBits (a % 4 * 16 + b / 16), sixBits (b % 16 * 4), '=']
  | a :: b :: c :: rest =>
    sixBits (a / 4) :: sixBits (a % 4 * 16 + b / 16) :: sixBits (b % 16 * 4 + c / 64)
      :: sixBits (c % 64) :: toBase64 rest

end LoginCallback.Octets
