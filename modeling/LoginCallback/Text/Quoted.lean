import LoginCallback.Text.Printable

/-!
# Quoted text

The form in which a message shows a text: between single quotes, or between double quotes when the
text holds a single quote and no double one. The quote in use, the backslash and whatever is not
printable are escaped, with two, four or eight hexadecimal digits as the code point needs.
-/

namespace LoginCallback.Text.Quoted

def hexDigit (n : Nat) : Char := if n < 10 then Char.ofNat (48 + n) else Char.ofNat (87 + n)

/-- The last `width` hexadecimal digits of `n`. -/
def hexDigits : Nat → Nat → List Char
  | 0, _ => []
  | width + 1, n => hexDigits width (n / 16) ++ [hexDigit (n % 16)]

/-- The escape of a code point, in the shortest of the three widths. -/
def escapeCode (n : Nat) : List Char :=
  if n < 0x100 then '\\' :: 'x' :: hexDigits 2 n
  else if n < 0x10000 then '\\' :: 'u' :: hexDigits 4 n
  else '\\' :: 'U' :: hexDigits 8 n

/-- One character between the given quotes; `plain` says which are shown as they are. -/
def encodeChar (plain : Char → Bool) (quote c : Char) : List Char :=
  if c == quote || c == '\\' then ['\\', c]
  else if c == '\t' then ['\\', 't']
  else if c == '\n' then ['\\', 'n']
  else if c == '\r' then ['\\', 'r']
  else if plain c then [c]
  else escapeCode c.toNat

/-- The quote that a text is shown in. -/
def quoteFor (cs : List Char) : Char :=
  if cs.contains '\'' && !cs.contains '"' then '"' else '\''

def encodeWith (plain : Char → Bool) (s : String) : String :=
  let cs := s.toList
  let q := quoteFor cs
  String.ofList (q :: cs.flatMap (encodeChar plain q) ++ [q])

end LoginCallback.Text.Quoted

namespace LoginCallback.Text

/-- The text as a message shows it. -/
def quoted (s : String) : String := Quoted.encodeWith isPrintable s

/-- The escape of every character beyond ASCII in a text that is already quoted. -/
def Quoted.toAscii (s : String) : String :=
  String.ofList (s.toList.flatMap fun c => if c.val < 128 then [c] else Quoted.escapeCode c.toNat)

end LoginCallback.Text
