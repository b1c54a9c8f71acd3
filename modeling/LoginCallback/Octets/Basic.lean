/-!
# Octets

Texts as sequences of octets: the UTF-8 form of a text, the texts that octets in one of the Unicode
encoding forms stand for, and hexadecimal notation.
-/

namespace LoginCallback.Octets

/-- The UTF-8 form of a text. -/
def ofText (s : String) : List Nat := s.toUTF8.toList.map (·.toNat)

/-- The UTF-8 form of a character. -/
def ofChar (c : Char) : List Nat :=
  let n := c.toNat
  if n < 0x80 then [n]
  else if n < 0x800 then [0xC0 + n / 64, 0x80 + n % 64]
  else if n < 0x10000 then [0xE0 + n / 4096, 0x80 + n / 64 % 64, 0x80 + n % 64]
  else [0xF0 + n / 262144, 0x80 + n / 4096 % 64, 0x80 + n / 64 % 64, 0x80 + n % 64]

/-- What stands in for half a surrogate pair, which no text can hold. -/
def replacement : Char := Char.ofNat 0xFFFD

def isSurrogate (n : Nat) : Bool := decide (0xD800 ≤ n ∧ n < 0xE000)

/-- The character of a code point; `lenient` admits lone surrogates, replacing them. -/
def charOf? (lenient : Bool) (n : Nat) : Option Char :=
  if isSurrogate n then if lenient then some replacement else none
  else if n < 0x110000 then some (Char.ofNat n) else none

def isContinuation (n : Nat) : Bool := decide (0x80 ≤ n ∧ n < 0xC0)

/-- The text of which the octets are the UTF-8 form. Overlong forms are refused. -/
def toUtf8? (lenient : Bool) : List Nat → Option (List Char)
  | [] => some []
  | a :: rest =>
    if a < 0x80 then (toUtf8? lenient rest).map (Char.ofNat a :: ·)
    else match rest with
      | [] => none
      | b :: rest₁ =>
        if !isContinuation b then none
        else if 0xC2 ≤ a ∧ a < 0xE0 then
          (toUtf8? lenient rest₁).map (Char.ofNat ((a - 0xC0) * 64 + (b - 0x80)) :: ·)
        else match rest₁ with
          | [] => none
          | c :: rest₂ =>
            if !isContinuation c then none
            else if 0xE0 ≤ a ∧ a < 0xF0 then
              let n := (a - 0xE0) * 4096 + (b - 0x80) * 64 + (c - 0x80)
              if n < 0x800 then none
              else match charOf? lenient n with
                | some x => (toUtf8? lenient rest₂).map (x :: ·)
                | none => none
            else match rest₂ with
              | [] => none
              | d :: rest₃ =>
                if !isContinuation d || a < 0xF0 || 0xF5 ≤ a then none
                else
                  let n := (a - 0xF0) * 262144 + (b - 0x80) * 4096 + (c - 0x80) * 64 + (d - 0x80)
                  if n < 0x10000 || 0x110000 ≤ n then none
                  else (toUtf8? lenient rest₃).map (Char.ofNat n :: ·)

/-- Pairs of surrogates are joined, lone ones replaced. -/
def joinSurrogates : List Nat → List Char
  | [] => []
  | [a] => [(charOf? true a).getD replacement]
  | a :: b :: rest =>
    if decide (0xD800 ≤ a ∧ a < 0xDC00) && decide (0xDC00 ≤ b ∧ b < 0xE000) then
      Char.ofNat (0x10000 + (a - 0xD800) * 0x400 + (b - 0xDC00)) :: joinSurrogates rest
    else (charOf? true a).getD replacement :: joinSurrogates (b :: rest)

/-- Units of two octets. -/
def pairs? (bigEndian : Bool) : List Nat → Option (List Nat)
  | [] => some []
  | [_] => none
  | a :: b :: rest =>
    (pairs? bigEndian rest).map ((if bigEndian then a * 256 + b else b * 256 + a) :: ·)

/-- The text of octets in UTF-16. -/
def toUtf16? (bigEndian : Bool) (os : List Nat) : Option (List Char) :=
  (pairs? bigEndian os).map joinSurrogates

/-- The text of octets in UTF-32. -/
def toUtf32? (bigEndian : Bool) : List Nat → Option (List Char)
  | [] => some []
  | a :: b :: c :: d :: rest =>
    let n := if bigEndian then ((a * 256 + b) * 256 + c) * 256 + d
      else ((d * 256 + c) * 256 + b) * 256 + a
    match charOf? true n with
    | some x => (toUtf32? bigEndian rest).map (x :: ·)
    | none => none
  | _ => none

def hexValue? (c : Char) : Option Nat :=
  if '0' ≤ c ∧ c ≤ '9' then some (c.toNat - 48)
  else if 'a' ≤ c ∧ c ≤ 'f' then some (c.toNat - 87)
  else if 'A' ≤ c ∧ c ≤ 'F' then some (c.toNat - 55)
  else none

def upperHex (n : Nat) : Char := if n < 10 then Char.ofNat (48 + n) else Char.ofNat (55 + n)

/-- The octets that pairs of hexadecimal digits stand for. -/
def ofHex : List Char → List Nat
  | a :: b :: rest =>
    match hexValue? a, hexValue? b with
    | some m, some n => (m * 16 + n) :: ofHex rest
    | _, _ => []
  | _ => []

end LoginCallback.Octets
