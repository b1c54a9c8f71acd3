import LoginCallback.Time.Iso

/-!
# Faults of YAML texts

Most faults say no more than that a text is malformed. Those of numbers, booleans and moments are
told apart, since a tag can ask for one where another text stands.
-/

namespace LoginCallback.Yaml

/-- Why a text gives no value. -/
inductive Fault where
  | malformed
  /-- A text that a number in a base was expected of. -/
  | notInteger (base : Nat) (text : String)
  | notFloat (text : String)
  | notMoment (fault : Time.ReadFault)
  | notBoolean (text : String)
  /-- A number without any character. -/
  | noNumber
  | tooManyDigits (count : Nat)
  /-- A text with the tag of a moment that is not written like one. -/
  | momentForm
  /-- An escape of a code point that does not exist; `large` if it has more than 31 bits. -/
  | noCodePoint (large : Bool)
  deriving DecidableEq

/-- At most this much of a text that is no integer is shown. -/
def Fault.shownLength : Nat := 200

def Fault.message : Fault → String
  | .malformed => "malformed text"
  | .notInteger base s =>
    "invalid literal for int() with base " ++ toString base ++ ": "
      ++ String.ofList ((Text.quoted s).toList.take shownLength)
  | .notFloat s => "could not convert string to float: " ++ Text.quoted s
  | .notMoment f => f.message
  | .notBoolean s => Text.quoted s
  | .noNumber => "string index out of range"
  | .tooManyDigits n =>
    "Exceeds the limit (4300 digits) for integer string conversion: value has " ++ toString n
      ++ " digits; use sys.set_int_max_str_digits() to increase the limit"
  | .momentForm => "'NoneType' object has no attribute 'groupdict'"
  | .noCodePoint false => "chr() arg not in range(0x110000)"
  | .noCodePoint true => "Python int too large to convert to C int"

end LoginCallback.Yaml
