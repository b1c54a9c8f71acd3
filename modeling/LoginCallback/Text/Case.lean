import LoginCallback.Text.CaseTable

/-!
# Letter case

Full case mapping of texts: a capital form may have several characters, and a sigma that closes a
word takes its closing form in lower case.
-/

namespace LoginCallback.Text

/-- The code point that a table of runs gives for `n`. -/
def mapRuns (runs : Array (Nat × Nat × Nat × Int)) (n : Nat) : Nat :=
  match runs.find? (fun r => decide (r.1 ≤ n) && decide (n ≤ r.2.1)) with
  | some r => if (n - r.1) % r.2.2.1 == 0 then ((n : Int) + r.2.2.2).toNat else n
  | none => n

/-- The capital form of one character. -/
def upperChar (c : Char) : List Char :=
  if c.val < 128 then [c.toUpper]
  else match upperExpansions.lookup c.toNat with
    | some ns => ns.map Char.ofNat
    | none => [Char.ofNat (mapRuns upperRuns c.toNat)]

/-- The text in capitals. -/
def upper (s : String) : String := String.ofList (s.toList.flatMap upperChar)

/-- Whether the nearest character that is not skipped has a case. -/
def meetsCased (cs : List Char) : Bool :=
  match cs.dropWhile (CodeSet.contains caseIgnorableFlips) with
  | [] => false
  | c :: _ => CodeSet.contains casedFlips c

/-- The small form of `c` between the characters before it (nearest first) and after it. -/
def lowerChar (before : List Char) (c : Char) (after : List Char) : List Char :=
  if c.val < 128 then [c.toLower]
  else if c.toNat == 0x3A3 then
    [if meetsCased before && !meetsCased after then Char.ofNat 0x3C2 else Char.ofNat 0x3C3]
  else if c.toNat == 0x130 then [Char.ofNat 0x69, Char.ofNat 0x307]
  else [Char.ofNat (mapRuns lowerRuns c.toNat)]

def lowerFrom (before : List Char) : List Char → List Char
  | [] => []
  | c :: cs => lowerChar before c cs ++ lowerFrom (c :: before) cs

/-- The text in small letters. -/
def lower (s : String) : String := String.ofList (lowerFrom [] s.toList)

end LoginCallback.Text
