import LoginCallback.Octets.Form
import LoginCallback.Text.Case

/-!
# Host names beyond ASCII

A label with other characters is written as its characters in ASCII and, behind a hyphen, the other
ones in the order of their code points: for each, how many insertions are skipped before it, as a
number with digits of changing weight. Which labels are valid, the tables of Unicode say, which are
not part of this.
-/

namespace LoginCallback.Url.Punycode

/-- The digits `a` to `z` and `0` to `9`. -/
def digit (n : Nat) : Char := if n < 26 then Char.ofNat (97 + n) else Char.ofNat (22 + n)

/-- The digits below this end a number; the position is counted in steps of 36. -/
def threshold (position bias : Nat) : Nat := min 26 (max 1 (position - bias))

/-- Divides by 35 until the number is at most 455, counting in steps of 36. -/
def settle (n count : Nat) : Nat × Nat :=
  if 455 < n then settle (n / 35) (count + 36) else (n, count)
termination_by n
decreasing_by exact Nat.div_lt_self (by omega) (by omega)

/-- The bias after a number, when so many characters are written. -/
def adapt (number written : Nat) (first : Bool) : Nat :=
  let n := if first then number / 700 else number / 2
  let (n, count) := settle (n + n / written) 0
  count + 36 * n / (n + 38)

/-- A number, its least digit first, up to `fuel` digits. -/
def number (bias : Nat) (position n : Nat) : Nat → List Char
  | 0 => []
  | fuel + 1 =>
    let t := threshold position bias
    if n < t then [digit n]
    else digit (t + (n - t) % (36 - t)) :: number bias (position + 36) ((n - t) / (36 - t)) fuel

/-- What is written so far behind the hyphen, the skipped insertions, the bias, and how many
characters are written. -/
structure State where
  shown : List Char := []
  skipped : Nat := 0
  bias : Nat := 72
  written : Nat

/-- One character of the label, while those of code point `m` are written. -/
def visit (plain m : Nat) (s : State) (c : Char) : State :=
  if c.toNat < m then { s with skipped := s.skipped + 1 }
  else if c.toNat == m then
    { shown := s.shown ++ number s.bias 36 s.skipped (s.skipped + 1)
      skipped := 0
      bias := adapt s.skipped (s.written + 1) (s.written == plain)
      written := s.written + 1 }
  else s

/-- Writes the characters of each code point in turn; `n` is the least that may come. -/
def visitAll (label : List Char) (plain : Nat) : List Nat → Nat → State → State
  | [], _, s => s
  | m :: ms, n, s =>
    let s := label.foldl (visit plain m) { s with skipped := s.skipped + (m - n) * (s.written + 1) }
    visitAll label plain ms (m + 1) { s with skipped := s.skipped + 1 }

def isPlain (c : Char) : Bool := decide (c.toNat < 128)

def encode (label : List Char) : List Char :=
  let plain := label.filter isPlain
  let points := ((label.filter (!isPlain ·)).map Char.toNat).mergeSort.eraseDups
  let s := visitAll label plain.length points 128 { written := plain.length }
  plain ++ (if plain.isEmpty then [] else ['-']) ++ s.shown

def digitValue? (c : Char) : Option Nat :=
  let c := c.toLower
  if decide ('a' ≤ c ∧ c ≤ 'z') then some (c.toNat - 97)
  else if decide ('0' ≤ c ∧ c ≤ '9') then some (c.toNat - 22)
  else none

/-- What is read so far of the characters of a label: where the next one goes, the least code point
it can have, and what is known of the number that is being read. -/
structure Reading where
  shown : List Char
  place : Nat := 0
  point : Nat := 128
  bias : Nat := 72
  sum : Nat := 0
  weight : Nat := 1
  position : Nat := 36

/-- Puts in the character that a number stands for. -/
def Reading.insert (plain : Nat) (r : Reading) (number : Nat) : Option Reading :=
  let written := r.shown.length + 1
  let point := r.point + (r.place + number) / written
  let place := (r.place + number) % written
  if h : point.isValidChar then
    some {
      shown := r.shown.take place ++ Char.ofNatAux point h :: r.shown.drop place
      place := place + 1
      point
      bias := adapt number written (r.shown.length == plain) }
  else none

def Reading.step (plain : Nat) (r : Reading) (c : Char) : Option Reading := do
  let d ← digitValue? c
  let sum := r.sum + d * r.weight
  let t := threshold r.position r.bias
  if d < t then r.insert plain sum
  else some { r with sum, weight := r.weight * (36 - t), position := r.position + 36 }

/-- The label that was written so, if there is one. -/
def decode? (written : List Char) : Option (List Char) := do
  let rest := (written.reverse.takeWhile (· != '-')).reverse
  let plain := written.take (written.length - rest.length - 1)
  let r ← rest.foldlM (Reading.step plain.length) { shown := plain }
  if r.weight == 1 then some r.shown else none

end Punycode

/-- What the labels in ASCII begin with that stand for others. -/
def labelMark : List Char := "xn--".toList

/-- A label of a host name in ASCII. -/
def asciiLabel (label : List Char) : List Char :=
  if label.all Punycode.isPlain then label else labelMark ++ Punycode.encode label

/-- The characters that divide labels. -/
def isLabelEnd (c : Char) : Bool := c == '.' || [0x3002, 0xFF0E, 0xFF61].contains c.toNat

/-- A host name in ASCII and in small letters. -/
def asciiHost (host : List Char) : List Char :=
  let small := (Text.lower (String.ofList host)).toList
  let labels := Octets.splitOn '.' (small.map fun c => if isLabelEnd c then '.' else c)
  Octets.joinWith '.' (labels.map asciiLabel)

/-- The label that a label in ASCII stands for, or why it stands for none. -/
def shownLabel (label : List Char) : Except String (List Char) :=
  let small := label.map Char.toLower
  if labelMark.isPrefixOf small then
    let written := small.drop labelMark.length
    if written.isEmpty then .error "Malformed A-label, no Punycode eligible content found"
    else if written.getLast? == some '-' then .error "A-label must not end with a hyphen"
    else match Punycode.decode? written with
      | some cs => .ok cs
      | none => .error "Invalid A-label"
  else .ok small

/-- The host name that one in ASCII stands for. -/
def shownHost (host : List Char) : Except String (List Char) := do
  return Octets.joinWith '.' (← (Octets.splitOn '.' host).mapM shownLabel)

end LoginCallback.Url
