import LoginCallback.Octets.Basic

/-!
# Form encoding

Fields `name=value` joined by `&`. Letters, digits and `_.-~` stand for themselves, a space is
written `+`, and every other character as the percent escapes of its UTF-8 form. The reader keeps
escapes that are no hexadecimal numbers as they are.
-/

namespace LoginCallback.Octets

def isUnreserved (c : Char) : Bool :=
  c.isAlphanum || c == '_' || c == '.' || c == '-' || c == '~'

def percent (n : Nat) : List Char := ['%', upperHex (n / 16), upperHex (n % 16)]

def encodeFormChar (c : Char) : List Char :=
  if isUnreserved c then [c]
  else if c == ' ' then ['+']
  else (ofChar c).flatMap percent

def encodeFormText (cs : List Char) : List Char := cs.flatMap encodeFormChar

/-- One field. -/
def encodeField (f : String × String) : List Char :=
  encodeFormText f.1.toList ++ '=' :: encodeFormText f.2.toList

def joinWith (separator : Char) : List (List Char) → List Char
  | [] => []
  | [x] => x
  | x :: y :: xs => x ++ separator :: joinWith separator (y :: xs)

def encodeForm (fields : List (String × String)) : String :=
  String.ofList (joinWith '&' (fields.map encodeField))

def splitOn (separator : Char) : List Char → List (List Char)
  | [] => [[]]
  | c :: cs =>
    if c == separator then [] :: splitOn separator cs
    else match splitOn separator cs with
      | [] => [[c]]
      | p :: ps => (c :: p) :: ps

/-- The octets of a text with percent escapes. -/
def unescape : List Char → List Nat
  | [] => []
  | '%' :: a :: b :: rest =>
    match hexValue? a, hexValue? b with
    | some m, some n => (m * 16 + n) :: unescape rest
    | _, _ => ofChar '%' ++ unescape (a :: b :: rest)
  | c :: rest => ofChar c ++ unescape rest

end LoginCallback.Octets
