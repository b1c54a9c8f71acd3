import LoginCallback.Decimal.Shortest
import LoginCallback.Text.Quoted
import LoginCallback.Value.Basic

/-!
# Writing JSON

Values as JSON texts in ASCII: entries in order, `, ` and `: ` as separators, characters beyond
ASCII as escapes of their UTF-16 units.
-/

namespace LoginCallback.Json

open LoginCallback.Text.Quoted (hexDigits)

def escapeUnit (n : Nat) : List Char := '\\' :: 'u' :: hexDigits 4 n

def writeChar (c : Char) : List Char :=
  let n := c.toNat
  if c == '"' then ['\\', '"']
  else if c == '\\' then ['\\', '\\']
  else if c == '\n' then ['\\', 'n']
  else if c == '\r' then ['\\', 'r']
  else if c == '\t' then ['\\', 't']
  else if n == 12 then ['\\', 'f']
  else if n == 8 then ['\\', 'b']
  else if decide (32 ≤ n ∧ n < 127) then [c]
  else if n < 0x10000 then escapeUnit n
  else
    let m := n - 0x10000
    escapeUnit (0xD800 + m / 0x400) ++ escapeUnit (0xDC00 + m % 0x400)

def writeString (s : String) : List Char := '"' :: s.toList.flatMap writeChar ++ ['"']

def writeFloat (x : Float) : String :=
  match Decimal.parts x with
  | .nan => "NaN"
  | .infinite negative => if negative then "-Infinity" else "Infinity"
  | _ => Decimal.ofFloat x

/-- A key that is no text is written as the text of its scalar. -/
def keyText : Value → String
  | .text s => s
  | .null => "null"
  | .bool b => if b then "true" else "false"
  | .int n => String.ofList (Decimal.ofInt n)
  | .float x => writeFloat x
  | _ => ""

mutual

def write : Value → List Char
  | .null => "null".toList
  | .bool b => if b then "true".toList else "false".toList
  | .int n => Decimal.ofInt n
  | .float x => (writeFloat x).toList
  | .text s => writeString s
  | .list xs => '[' :: writeItems xs ++ [']']
  | .mapping es => '\x7b' :: writeFields es ++ ['\x7d']
  | .foreign f => writeString f.display

def writeItems : List Value → List Char
  | [] => []
  | [x] => write x
  | x :: y :: xs => write x ++ ',' :: ' ' :: writeItems (y :: xs)

def writeFields : List (Value × Value) → List Char
  | [] => []
  | [(k, v)] => writeString (keyText k) ++ ':' :: ' ' :: write v
  | (k, v) :: e :: es =>
    writeString (keyText k) ++ ':' :: ' ' :: write v ++ ',' :: ' ' :: writeFields (e :: es)

end

def toText (v : Value) : String := String.ofList (write v)

end LoginCallback.Json
