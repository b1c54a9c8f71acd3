import LoginCallback.Decimal.Binary

/-!
# Shortest decimal texts

The text of a double has the fewest digits that read back as the same double and, among those, lies
nearest to it. For 1, 2, … 17 digits the two neighbours of the value on that decimal grid are
tested in exact arithmetic; the first grid with a hit wins.
-/

namespace LoginCallback.Decimal

/-- `a / b < c / d` for quotients of natural numbers. -/
def ratioLT (a c : Nat × Nat) : Bool := a.1 * c.2 < c.1 * a.2

/-- `k · 10 ^ t` as a quotient. -/
def decimalRatio (k : Nat) (t : Int) : Nat × Nat :=
  if 0 ≤ t then (k * Nat.pow 10 t.toNat, 1) else (k, Nat.pow 10 (-t).toNat)

/-- The interval of reals that read as `m · 2 ^ q`; its ends belong to it when `m` is even. -/
structure Interval where
  low : Nat × Nat
  high : Nat × Nat
  closed : Bool

def Interval.contains (i : Interval) (x : Nat × Nat) : Bool :=
  if i.closed then !ratioLT x i.low && !ratioLT i.high x else ratioLT i.low x && ratioLT x i.high

def intervalOf (m : Nat) (q : Int) (lowest : Bool) : Interval :=
  ⟨if lowest then ratio (4 * m - 1) (q - 2) else ratio (2 * m - 1) (q - 1),
   ratio (2 * m + 1) (q - 1), m % 2 == 0⟩

/-- The least `p` from `start` on with `x < 10 ^ p`, sought over `fuel` steps. -/
def magnitudeFrom (x : Nat × Nat) (start : Int) : Nat → Int
  | 0 => start
  | fuel + 1 =>
    if ratioLT x (decimalRatio 1 start) then start else magnitudeFrom x (start + 1) fuel

/-- The `p` with `10 ^ (p - 1) ≤ x < 10 ^ p`, for a positive `x`. -/
def magnitude (x : Nat × Nat) : Int :=
  let bits : Int := (x.1.log2 : Int) - x.2.log2 - 1
  magnitudeFrom x (bits * 30103 / 100000 - 1) 8

/-- Which of two candidates is nearer to `x`; a tie goes to the even one. -/
def nearer (x : Nat × Nat) (t : Int) (k : Nat) : Nat :=
  -- compares `2 x` with `2 k + 1` on the grid `10 ^ t`
  let middle := decimalRatio (2 * k + 1) t
  let twice := (2 * x.1, x.2)
  if ratioLT twice middle then k
  else if ratioLT middle twice then k + 1
  else if k % 2 == 0 then k else k + 1

/-- A hit on the grid of `n` significant digits. -/
def hit? (x : Nat × Nat) (i : Interval) (p : Int) (n : Nat) : Option (Nat × Int) :=
  let t := p - n
  let g := decimalRatio 1 t
  let k := x.1 * g.2 / (x.2 * g.1)
  let below := i.contains (decimalRatio k t)
  let above := i.contains (decimalRatio (k + 1) t)
  if below && above then some (nearer x t k, t)
  else if below then some (k, t)
  else if above then some (k + 1, t)
  else none

/-- Digits and exponent: the value is `0.d₁d₂… · 10 ^ point`. -/
structure Shortest where
  digits : List Char
  point : Int

def shortest (m : Nat) (q : Int) (lowest : Bool) : Shortest :=
  let x := ratio m q
  let i := intervalOf m q lowest
  let p := magnitude x
  let found := (List.range 17).findSome? fun n => hit? x i p (n + 1)
  let (k, t) := found.getD (0, 0)
  let ds := Decimal.digits k
  let trimmed := Text.dropTrailing '0' ds
  ⟨trimmed, t + ds.length⟩

/-- How a shortest decimal is set: positional for exponents from `least` to below `most`, else with
an exponent of a sign and at least two digits. -/
structure Setting where
  least : Int
  most : Int
  nanText : String
  infText : String

/-- Numbers are written positionally from `0.0001` up to sixteen digits before the point. -/
def Setting.plain : Setting := ⟨-4, 16, "nan", "inf"⟩

def setDigits (s : Setting) (d : Shortest) : List Char :=
  let e := d.point - 1
  let n : Int := d.digits.length
  if s.least ≤ e && e < s.most then
    if d.point ≤ 0 then
      '0' :: '.' :: List.replicate (-d.point).toNat '0' ++ d.digits
    else if n ≤ d.point then
      d.digits ++ List.replicate (d.point - n).toNat '0' ++ ['.', '0']
    else
      d.digits.take d.point.toNat ++ '.' :: d.digits.drop d.point.toNat
  else
    let mantissa := match d.digits with
      | [] => []
      | [c] => [c]
      | c :: cs => c :: '.' :: cs
    let size := e.natAbs
    mantissa ++ 'e' :: (if e < 0 then '-' else '+') ::
      (if size < 10 then padded 2 size else Decimal.digits size)

/-- The shortest text of a double. -/
def ofFloat (x : Float) : String :=
  match parts x with
  | .nan => Setting.plain.nanText
  | .infinite negative => (if negative then "-" else "") ++ Setting.plain.infText
  | .finite negative m q lowest =>
    let body := if m == 0 then ['0', '.', '0'] else setDigits .plain (shortest m q lowest)
    String.ofList (if negative then '-' :: body else body)

/-- `num / den` rounded to the nearest integer, ties to the even one. -/
def roundHalfEven (num den : Nat) : Nat :=
  let k := num / den
  let twice := 2 * (num % den)
  if twice < den then k else if den < twice then k + 1 else if k % 2 == 0 then k else k + 1

/-- A double with exactly `places` (at least one) digits after the point, rounded half to even on
its exact value. -/
def fixed (places : Nat) (x : Float) : String :=
  match parts x with
  | .nan => Setting.plain.nanText
  | .infinite negative => (if negative then "-" else "") ++ Setting.plain.infText
  | .finite negative m q _ =>
    let (num, den) := ratio m q
    let scale := Nat.pow 10 places
    let k := roundHalfEven (num * scale) den
    let body := digits (k / scale) ++ '.' :: padded places (k % scale)
    String.ofList (if negative then '-' :: body else body)

end LoginCallback.Decimal
