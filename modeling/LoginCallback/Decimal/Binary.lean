import LoginCallback.Decimal.Digits

/-!
# Exact values of floating point numbers

A finite double is `m · 2 ^ q`. Here it is taken apart into that form, written as a quotient of
natural numbers, and put together from a decimal text.
-/

namespace LoginCallback.Decimal

/-- A double, taken apart. -/
inductive Parts where
  | nan
  | infinite (negative : Bool)
  /-- The number `mantissa · 2 ^ exponent`; `lowest` marks the least exponent of its mantissa's
  length, where the next smaller number is only half a step away. -/
  | finite (negative : Bool) (mantissa : Nat) (exponent : Int) (lowest : Bool)

/-- The bit in front of the 52 bits of a fraction. -/
def hiddenBit : Nat := 0x10000000000000

def parts (x : Float) : Parts :=
  let bits : Nat := x.toBits.toNat
  let negative := bits / 0x8000000000000000 == 1
  let field : Nat := bits / hiddenBit % 2048
  let fraction : Nat := bits % hiddenBit
  if field == 2047 then if fraction == 0 then .infinite negative else .nan
  else if field == 0 then .finite negative fraction (-1074) false
  else .finite negative (hiddenBit + fraction) ((field : Int) - 1075) (fraction == 0 && field > 1)

/-- Numerator and denominator of `m · 2 ^ q`. -/
def ratio (m : Nat) (q : Int) : Nat × Nat :=
  if 0 ≤ q then (m * Nat.pow 2 q.toNat, 1) else (m, Nat.pow 2 (-q).toNat)

/-- The double nearest to `± mantissa · 10 ^ exponent`. Exponents far outside the range of doubles
are settled without computing the power. -/
def ofScientific (negative : Bool) (mantissa : Nat) (exponent : Int) : Float :=
  let size : Int := (digits mantissa).length + exponent
  let x :=
    if mantissa == 0 || size < -400 then 0.0
    else if size > 400 then 1.0 / 0.0
    else if 0 ≤ exponent then Float.ofScientific (mantissa * Nat.pow 10 exponent.toNat) false 0
    else Float.ofScientific mantissa true (-exponent).toNat
  if negative then -x else x

/-- The double nearest to an integer. -/
def ofIntNearest (n : Int) : Float := ofScientific (n < 0) n.natAbs 0

/-- The largest integer that is at most `num / den` in size, with the sign kept: the integral part
of a finite double. -/
def truncate? (x : Float) : Option Int :=
  match parts x with
  | .finite negative m q _ =>
    let (num, den) := ratio m q
    some (if negative then -(num / den : Nat) else (num / den : Nat))
  | _ => none

/-- The parts of an unsigned number `digits [. digits] [e [sign] digits]`: all digits of the
mantissa, how many of them follow the point, and the exponent. -/
structure Written where
  mantissa : List Char
  decimals : Nat
  exponent : Int

/-- Reads a mantissa with at least one digit and an optional exponent; `none` if characters are
left over. -/
def readUnsigned? (cs : List Char) : Option Written :=
  let whole := cs.takeWhile isDigit
  let rest := cs.dropWhile isDigit
  let (frac, rest) := match rest with
    | '.' :: r => (r.takeWhile isDigit, r.dropWhile isDigit)
    | r => ([], r)
  if whole.isEmpty && frac.isEmpty then none
  else match rest with
    | [] => some ⟨whole ++ frac, frac.length, 0⟩
    | e :: r =>
      if e == 'e' || e == 'E' then
        let (negative, ds) := splitSign r
        if ds.isEmpty || !ds.all isDigit then none
        else
          let n : Int := ofDigits ds
          some ⟨whole ++ frac, frac.length, if negative then -n else n⟩
      else none

def Written.toFloat (w : Written) (negative : Bool) : Float :=
  ofScientific negative (ofDigits w.mantissa) (w.exponent - w.decimals)

/-- Removes underscores, each of which must stand between two digits. -/
def dropUnderscores? (before : Char) : List Char → Option (List Char)
  | [] => if before == '_' then none else some []
  | c :: cs =>
    if c == '_' then if isDigit before then dropUnderscores? '_' cs else none
    else if before == '_' && !isDigit c then none
    else (dropUnderscores? c cs).map (c :: ·)

/-- The double that a text writes: digits with an optional point and exponent, `inf`, `infinity`
or `nan`, in any letter case. -/
def readFloat? (s : String) : Option Float :=
  match dropUnderscores? ' ' (bare s) with
  | none => none
  | some cs =>
    let (negative, body) := splitSign cs
    let word := String.ofList (body.map Char.toLower)
    if word == "inf" || word == "infinity" then some (if negative then -(1.0 / 0.0) else 1.0 / 0.0)
    else if word == "nan" then some (0.0 / 0.0)
    else (readUnsigned? body).map (·.toFloat negative)

end LoginCallback.Decimal
