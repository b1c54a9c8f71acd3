import LoginCallback.Octets.Form

/-!
# Faulty octets

The text of octets that need not be in UTF-8. Octets that begin a character without finishing it
are faulty together, every other octet that is out of place on its own; what stands for them in the
text is left to the caller.
-/

namespace LoginCallback.Octets

/-- How many octets follow the first one of a character, and the range of the first that does. -/
def following (lead : Nat) : Nat × Nat × Nat :=
  if lead < 0xC2 then (0, 0, 0)
  else if lead < 0xE0 then (1, 0x80, 0xC0)
  else if lead == 0xE0 then (2, 0xA0, 0xC0)
  else if lead == 0xED then (2, 0x80, 0xA0)
  else if lead < 0xF0 then (2, 0x80, 0xC0)
  else if lead == 0xF0 then (3, 0x90, 0xC0)
  else if lead < 0xF4 then (3, 0x80, 0xC0)
  else if lead == 0xF4 then (3, 0x80, 0x90)
  else (0, 0, 0)

/-- The octets of the character that a lead octet begins, as far as they are there, without the lead
octet itself. -/
def continuation (lead : Nat) (rest : List Nat) : List Nat :=
  let (count, low, high) := following lead
  match rest with
  | [] => []
  | b :: rest =>
    if count == 0 || b < low || high ≤ b then []
    else b :: (rest.take (count - 1)).takeWhile isContinuation

/-- The text of octets; `repair` gives the characters that stand for faulty ones. -/
def toTextWith (repair : List Nat → List Char) : Nat → List Nat → List Char
  | 0, _ => []
  | _, [] => []
  | fuel + 1, a :: rest =>
    if a < 0x80 then Char.ofNat a :: toTextWith repair fuel rest
    else
      let more := continuation a rest
      let shown := match toUtf8? false (a :: more) with
        | some cs => if (following a).1 == 0 then repair (a :: more) else cs
        | none => repair (a :: more)
      shown ++ toTextWith repair fuel (rest.drop more.length)

/-- The text of octets, in which one mark stands for each faulty place. -/
def toTextMarked (os : List Nat) : List Char := toTextWith (fun _ => [replacement]) os.length os

/-- The text of octets, in which faulty ones are percent escapes. -/
def toTextEscaped (os : List Nat) : List Char := toTextWith (·.flatMap percent) os.length os

end LoginCallback.Octets
