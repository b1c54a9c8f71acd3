import LoginCallback.Decimal.Digits
import LoginCallback.Value.Access

/-!
# Templates: pieces

A template is text with replacement fields in braces; a doubled brace stands for itself. A field is
a name with an optional conversion and an optional setting, `name!c:setting`, and the setting may
hold fields again. Cutting a template gives the list of its pieces. A place where it is malformed
ends the list, so that whatever stands before it is still expanded first.
-/

namespace LoginCallback.Template

/-- Why a template could not be expanded. -/
inductive Fault where
  | loneOpening
  | loneClosing
  | openingInName
  /-- The template ends inside a field. -/
  | unclosed
  | noConversion
  | afterConversion
  | unclosedSetting
  | tooDeep
  | unknownConversion (c : Char)
  | tooManyDigits
  | noPositional (index : Nat)
  | emptyMember
  | afterBracket
  | unclosedBracket
  | missingPrecision
  | bothSeparators
  | separatorWith (separator type : Char)
  | invalidSetting (setting kind : String)
  | unknownType (type : Char) (kind : String)
  | signOnText
  | spaceOnText
  | negativeZeroOnText
  | alternateOnText
  | innerAlignmentOnText
  | negativeZeroOnInteger
  | precisionOnInteger
  | settingOn (kind : String)
  | value (fault : Value.Fault)

/-- A character as a message shows it: itself if it is above the space and below `bound`. -/
def visible (bound : Nat) (c : Char) : String :=
  if 32 < c.toNat && c.toNat < bound then String.singleton c
  else "\\x" ++ String.ofList ((Nat.toDigits 16 c.toNat))

def Fault.message : Fault → String
  | .loneOpening => "Single '\x7b' encountered in format string"
  | .loneClosing => "Single '\x7d' encountered in format string"
  | .openingInName => "unexpected '\x7b' in field name"
  | .unclosed => "expected '\x7d' before end of string"
  | .noConversion => "end of string while looking for conversion specifier"
  | .afterConversion => "expected ':' after conversion specifier"
  | .unclosedSetting => "unmatched '\x7b' in format spec"
  | .tooDeep => "Max string recursion exceeded"
  | .unknownConversion c => "Unknown conversion specifier " ++ visible 127 c
  | .tooManyDigits => "Too many decimal digits in format string"
  | .noPositional i =>
    "Replacement index " ++ toString i ++ " out of range for positional args tuple"
  | .emptyMember => "Empty attribute in format string"
  | .afterBracket => "Only '.' or '[' may follow ']' in format field specifier"
  | .unclosedBracket => "Missing ']' in format string"
  | .missingPrecision => "Format specifier missing precision"
  | .bothSeparators => "Cannot specify both ',' and '_'."
  | .separatorWith s t =>
    "Cannot specify '" ++ String.singleton s ++ "' with '" ++ visible 128 t ++ "'."
  | .invalidSetting s k => "Invalid format specifier '" ++ s ++ "' for object of type '" ++ k ++ "'"
  | .unknownType t k =>
    "Unknown format code '" ++ visible 128 t ++ "' for object of type '" ++ k ++ "'"
  | .signOnText => "Sign not allowed in string format specifier"
  | .spaceOnText => "Space not allowed in string format specifier"
  | .negativeZeroOnText => "Negative zero coercion (z) not allowed in string format specifier"
  | .alternateOnText => "Alternate form (#) not allowed in string format specifier"
  | .innerAlignmentOnText => "'=' alignment not allowed in string format specifier"
  | .negativeZeroOnInteger =>
    "Negative zero coercion (z) not allowed in integer format specifier"
  | .precisionOnInteger => "Precision not allowed in integer format specifier"
  | .settingOn k => "unsupported format string passed to " ++ k ++ ".__format__"
  | .value f => f.message

/-- A replacement field, as written. -/
structure Field where
  name : List Char
  conversion : Option Char
  setting : List Char
  /-- The setting holds braces and has to be expanded itself. -/
  nested : Bool

inductive Piece where
  | literal (c : Char)
  | field (f : Field)
  | malformed (fault : Fault)

/-- The name of a field, the character that ends it, and what follows. Inside square brackets only
the closing bracket counts. -/
def takeName (inBracket : Bool) : List Char → Except Fault (List Char × Char × List Char)
  | [] => .error .unclosed
  | c :: cs =>
    if inBracket then do
      let (name, e, rest) ← takeName (c != ']') cs
      return (c :: name, e, rest)
    else if c == '\x7b' then .error .openingInName
    else if c == '\x7d' || c == ':' || c == '!' then .ok ([], c, cs)
    else do
      let (name, e, rest) ← takeName (c == '[') cs
      return (c :: name, e, rest)

/-- A setting up to the brace that closes its field, `depth` inner braces being open. -/
def takeSetting (depth : Nat) : List Char → Except Fault (List Char × List Char)
  | [] => .error .unclosedSetting
  | c :: cs =>
    if c == '\x7d' then
      match depth with
      | 0 => .ok ([], cs)
      | depth + 1 => do
        let (setting, rest) ← takeSetting depth cs
        return (c :: setting, rest)
    else do
      let (setting, rest) ← takeSetting (if c == '\x7b' then depth + 1 else depth) cs
      return (c :: setting, rest)

/-- A field whose opening brace has been read, and what follows it. -/
def takeField (cs : List Char) : Except Fault (Field × List Char) := do
  let (name, ending, rest) ← takeName false cs
  let withSetting (conversion : Option Char) (rest : List Char) :
      Except Fault (Field × List Char) := do
    let (setting, rest) ← takeSetting 0 rest
    return (⟨name, conversion, setting, setting.contains '\x7b'⟩, rest)
  if ending == '\x7d' then return (⟨name, none, [], false⟩, rest)
  else if ending == ':' then withSetting none rest
  else match rest with
    | [] => .error .noConversion
    | c :: '\x7d' :: rest => return (⟨name, some c, [], false⟩, rest)
    | c :: ':' :: rest => withSetting (some c) rest
    | [_] => .error .unclosedSetting
    | _ => .error .afterConversion

/-- The pieces of a template of at most `fuel` characters. -/
def piecesFrom : Nat → List Char → List Piece
  | 0, _ => []
  | _, [] => []
  | fuel + 1, c :: cs =>
    if c == '\x7d' then
      match cs with
      | '\x7d' :: rest => .literal '\x7d' :: piecesFrom fuel rest
      | _ => [.malformed .loneClosing]
    else if c == '\x7b' then
      match cs with
      | [] => [.malformed .loneOpening]
      | '\x7b' :: rest => .literal '\x7b' :: piecesFrom fuel rest
      | _ => match takeField cs with
        | .ok (f, rest) => .field f :: piecesFrom fuel rest
        | .error e => [.malformed e]
    else .literal c :: piecesFrom fuel cs

def pieces (cs : List Char) : List Piece := piecesFrom (cs.length + 1) cs

end LoginCallback.Template
