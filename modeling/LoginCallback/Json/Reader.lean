import LoginCallback.Decimal.Binary
import LoginCallback.Octets.Basic
import LoginCallback.Platform

/-!
# Reading JSON

A JSON text gives a value. Numbers without point and exponent are integers of any size up to a
digit limit; `NaN`, `Infinity` and `-Infinity` are numbers too; of equal keys the last one counts,
at the place of the first. Octets may be in any of the Unicode encoding forms. How many lists and
objects may be open at once, the platform says.

That texts are read so is an assumption about the library that the program uses for it.
-/

namespace LoginCallback.Json

def isSpace (c : Char) : Bool := c == ' ' || c == '\t' || c == '\n' || c == '\r'

def skip (cs : List Char) : List Char := cs.dropWhile isSpace

def hex4? (a b c d : Char) : Option Nat :=
  match Octets.hexValue? a, Octets.hexValue? b, Octets.hexValue? c, Octets.hexValue? d with
  | some w, some x, some y, some z => some (((w * 16 + x) * 16 + y) * 16 + z)
  | _, _, _, _ => none

def escape? : Char → Option Nat
  | '"' => some 0x22
  | '\\' => some 0x5C
  | '/' => some 0x2F
  | 'b' => some 8
  | 'f' => some 12
  | 'n' => some 10
  | 'r' => some 13
  | 't' => some 9
  | _ => none

/-- The code points of a string whose opening quote has been read, up to its closing quote. Escapes
of surrogates stand there singly. -/
def readUnits : List Char → Option (List Nat × List Char)
  | [] => none
  | '"' :: rest => some ([], rest)
  | '\\' :: 'u' :: a :: b :: c :: d :: rest =>
    match hex4? a b c d, readUnits rest with
    | some n, some (ns, r) => some (n :: ns, r)
    | _, _ => none
  | '\\' :: e :: rest =>
    match escape? e, readUnits rest with
    | some n, some (ns, r) => some (n :: ns, r)
    | _, _ => none
  | c :: rest =>
    if c.toNat < 32 || c == '\\' then none
    else match readUnits rest with
      | some (ns, r) => some (c.toNat :: ns, r)
      | none => none

def readString (cs : List Char) : Option (String × List Char) :=
  (readUnits cs).map fun (ns, r) => (String.ofList (Octets.joinSurrogates ns), r)

/-- A number, or `none` if none starts here or it has too many digits. -/
def readNumber (cs : List Char) : Option (Value × List Char) :=
  let (negative, body) := match cs with
    | '-' :: r => (true, r)
    | r => (false, r)
  let whole := match body with
    | '0' :: _ => ['0']
    | r => r.takeWhile Decimal.isDigit
  if whole.isEmpty then none
  else
    let rest := body.drop whole.length
    let (frac, rest₁) := match rest with
      | '.' :: d :: r =>
        if Decimal.isDigit d then
          (d :: r.takeWhile Decimal.isDigit, r.dropWhile Decimal.isDigit)
        else ([], rest)
      | _ => ([], rest)
    let exponent : Option (Bool × List Char × List Char) := match rest₁ with
      | e :: r =>
        if e == 'e' || e == 'E' then
          let (minus, r') := Decimal.splitSign r
          let ds := r'.takeWhile Decimal.isDigit
          if ds.isEmpty then none else some (minus, ds, r'.dropWhile Decimal.isDigit)
        else none
      | [] => none
    match frac, exponent with
    | [], none =>
      if whole.length > Decimal.maxDigits then none
      else
        let n : Int := Decimal.ofDigits whole
        some (.int (if negative then -n else n), rest)
    | frac, none =>
      some (.float ((Decimal.Written.mk (whole ++ frac) frac.length 0).toFloat negative), rest₁)
    | frac, some (minus, ds, r) =>
      let n : Int := Decimal.ofDigits ds
      let w : Decimal.Written := ⟨whole ++ frac, frac.length, if minus then -n else n⟩
      some (.float (w.toFloat negative), r)

/-- The rest after a word at the front. -/
def afterWord? : List Char → List Char → Option (List Char)
  | [], cs => some cs
  | w :: ws, c :: cs => if w == c then afterWord? ws cs else none
  | _ :: _, [] => none

def words : List (String × Value) :=
  [("null", .null), ("true", .bool true), ("false", .bool false), ("NaN", .float (0.0 / 0.0)),
   ("Infinity", .float (1.0 / 0.0)), ("-Infinity", .float (-(1.0 / 0.0)))]

def readWord (cs : List Char) : Option (Value × List Char) :=
  words.findSome? fun (w, v) => (afterWord? w.toList cs).map (v, ·)

/-- Why a text gives no value. -/
inductive Fault where
  | malformed
  /-- Too many lists and objects inside each other; the last one is a list or an object. -/
  | tooDeep (inList : Bool)
  deriving DecidableEq

/-- The result of a step, or `malformed`. -/
def orMalformed {α : Type} : Option α → Except Fault α
  | some x => .ok x
  | none => .error .malformed

mutual

/-- The value at the front and what follows it; `fuel` bounds the number of values and of lists of
items or fields, and `depth` how deeply they may be nested. -/
def readValue (depth : Nat) : Nat → List Char → Except Fault (Value × List Char)
  | 0, _ => .error .malformed
  | fuel + 1, cs =>
    match cs with
    | '"' :: rest => (orMalformed (readString rest)).map fun (s, r) => (.text s, r)
    | '[' :: rest =>
      match depth with
      | 0 => .error (.tooDeep true)
      | depth + 1 => match skip rest with
        | ']' :: r => .ok (.list [], r)
        | r => (readItems depth fuel r).map fun (xs, r) => (.list xs, r)
    | '\x7b' :: rest =>
      match depth with
      | 0 => .error (.tooDeep false)
      | depth + 1 => match skip rest with
        | '\x7d' :: r => .ok (.mapping [], r)
        | r => (readFields depth fuel [] r).map fun (es, r) => (.mapping es, r)
    | cs => match readWord cs with
      | some found => .ok found
      | none => orMalformed (readNumber cs)

/-- The items of a list up to its closing bracket. -/
def readItems (depth : Nat) : Nat → List Char → Except Fault (List Value × List Char)
  | 0, _ => .error .malformed
  | fuel + 1, cs =>
    match readValue depth fuel cs with
    | .error e => .error e
    | .ok (v, r) => match skip r with
      | ']' :: r => .ok ([v], r)
      | ',' :: r => (readItems depth fuel (skip r)).map fun (vs, r) => (v :: vs, r)
      | _ => .error .malformed

/-- The fields of an object up to its closing brace, added to those found before. -/
def readFields (depth : Nat) : Nat → Entries → List Char → Except Fault (Entries × List Char)
  | 0, _, _ => .error .malformed
  | fuel + 1, found, cs =>
    match cs with
    | '"' :: rest => match readString rest with
      | none => .error .malformed
      | some (key, r) => match skip r with
        | ':' :: r => match readValue depth fuel (skip r) with
          | .error e => .error e
          | .ok (v, r) =>
            let found := found.insert (.text key) v
            match skip r with
            | '\x7d' :: r => .ok (found, r)
            | ',' :: r => readFields depth fuel found (skip r)
            | _ => .error .malformed
        | _ => .error .malformed
    | _ => .error .malformed

end

/-- The value of a JSON text. A character begins a value and its items at most. -/
def read [Platform] (cs : List Char) : Except Fault Value := do
  let (v, r) ← readValue Platform.jsonDepth (2 * cs.length + 1) (skip cs)
  if (skip r).isEmpty then .ok v else .error .malformed

/-- The text of octets in the encoding form that their beginning shows. -/
def decode? (os : List Nat) : Option (List Char) :=
  match os with
  | 0 :: 0 :: 0xFE :: 0xFF :: rest => Octets.toUtf32? true rest
  | 0xFF :: 0xFE :: 0 :: 0 :: rest => Octets.toUtf32? false rest
  | 0xFE :: 0xFF :: rest => Octets.toUtf16? true rest
  | 0xFF :: 0xFE :: rest => Octets.toUtf16? false rest
  | 0xEF :: 0xBB :: 0xBF :: rest => Octets.toUtf8? true rest
  | a :: b :: c :: d :: _ =>
    if a == 0 then if b == 0 then Octets.toUtf32? true os else Octets.toUtf16? true os
    else if b == 0 then
      if c == 0 && d == 0 then Octets.toUtf32? false os else Octets.toUtf16? false os
    else Octets.toUtf8? true os
  | [a, b] =>
    if a == 0 then Octets.toUtf16? true os
    else if b == 0 then Octets.toUtf16? false os
    else Octets.toUtf8? true os
  | os => Octets.toUtf8? true os

def readOctets [Platform] (os : List Nat) : Except Fault Value := do
  read (← orMalformed (decode? os))

end LoginCallback.Json
