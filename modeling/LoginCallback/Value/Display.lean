import LoginCallback.Decimal.Shortest
import LoginCallback.Text.Quoted
import LoginCallback.Value.Basic

/-!
# How values appear in messages

`display` is the text of a value. `quoted` differs from it only for foreign values and for texts,
which it puts between quotes, as they are inside lists and mappings.
-/

namespace LoginCallback.Value

def displayBool (b : Bool) : String := if b then "True" else "False"

mutual

/-- The value as it is written inside a message: texts quoted, lists in brackets. -/
def quoted : Value → String
  | null => "None"
  | bool b => displayBool b
  | int n => String.ofList (Decimal.ofInt n)
  | float x => Decimal.ofFloat x
  | text s => Text.quoted s
  | list xs => "[" ++ quotedItems xs ++ "]"
  | mapping es => "\x7b" ++ quotedEntries es ++ "\x7d"
  | foreign f => f.quoted

def quotedItems : List Value → String
  | [] => ""
  | [x] => quoted x
  | x :: y :: xs => quoted x ++ ", " ++ quotedItems (y :: xs)

def quotedEntries : List (Value × Value) → String
  | [] => ""
  | [(k, v)] => quoted k ++ ": " ++ quoted v
  | (k, v) :: e :: es => quoted k ++ ": " ++ quoted v ++ ", " ++ quotedEntries (e :: es)

end

/-- The text of a value: a text is itself, most other values are as they are written in messages. -/
def display : Value → String
  | text s => s
  | foreign f => f.display
  | v => quoted v

/-- A fixed sequence in parentheses; a single item is followed by a comma. -/
def quotedTuple : List Value → String
  | [x] => "(" ++ quoted x ++ ",)"
  | xs => "(" ++ quotedItems xs ++ ")"

end LoginCallback.Value
