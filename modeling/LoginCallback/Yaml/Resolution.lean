import LoginCallback.Decimal.Digits

/-!
# What a plain scalar is

A scalar without quotes and without a tag is what it looks like: a boolean, a number, a moment,
nothing, or a text. `Tag.ofText` says which; it reads the text as it stands and leaves the value to
others.
-/

namespace LoginCallback.Yaml

/-- What a node is meant to be. -/
inductive Tag where
  | null
  | bool
  | int
  | float
  | moment
  | text
  | sequence
  | mapping
  /-- The key `<<`, whose value is merged into the mapping. -/
  | merge
  /-- The key `=`, which stands for the value of a mapping. -/
  | value
  /-- A tag that has no meaning here. -/
  | unknown
  deriving DecidableEq

/-! ## Numbers -/

def dropSign : List Char → List Char
  | '-' :: cs => cs
  | '+' :: cs => cs
  | cs => cs

def isDigitOrLow (c : Char) : Bool := Decimal.isDigit c || c == '_'

/-- Whether a list is not empty and all its members satisfy `p`. -/
def someAll (p : Char → Bool) (cs : List Char) : Bool := !cs.isEmpty && cs.all p

/-- One or two digits below sixty. -/
def isSixtieth : List Char → Bool
  | [c] => Decimal.isDigit c
  | [c, d] => decide ('0' ≤ c ∧ c ≤ '5') && Decimal.isDigit d
  | _ => false

/-- A text cut at every character `x`. -/
def cutAt (x : Char) : List Char → List (List Char)
  | [] => [[]]
  | c :: cs =>
    if c == x then [] :: cutAt x cs
    else match cutAt x cs with
      | part :: parts => (c :: part) :: parts
      | [] => [[c]]

/-- Numbers to the base sixty: `1:30:00`. -/
def isSexagesimal (cs : List Char) : Bool :=
  match cutAt ':' cs with
  | first :: rest => first.all isDigitOrLow && !rest.isEmpty && rest.all isSixtieth
  | [] => false

def isInteger (cs : List Char) : Bool :=
  match dropSign cs with
  | '0' :: 'b' :: ds => someAll (fun c => c == '0' || c == '1' || c == '_') ds
  | '0' :: 'x' :: ds =>
    someAll (fun c => isDigitOrLow c || decide ('a' ≤ c ∧ c ≤ 'f') || decide ('A' ≤ c ∧ c ≤ 'F')) ds
  | '0' :: ds => ds.all fun c => decide ('0' ≤ c ∧ c ≤ '7') || c == '_'
  | c :: ds => Decimal.isDigit c && (ds.all isDigitOrLow || isSexagesimal (c :: ds))
  | [] => false

/-- Nothing, or an exponent with a sign. -/
def isExponent : List Char → Bool
  | [] => true
  | e :: s :: ds => (e == 'e' || e == 'E') && (s == '+' || s == '-') && someAll Decimal.isDigit ds
  | _ => false

/-- A digit, then digits and underscores, then perhaps an exponent. -/
def isFraction : List Char → Bool
  | c :: cs => Decimal.isDigit c && isExponent (cs.dropWhile isDigitOrLow)
  | [] => false

def isFloat (cs : List Char) : Bool :=
  let unsigned := dropSign cs
  match unsigned with
  | '.' :: rest =>
    [".inf", ".Inf", ".INF"].any (·.toList = unsigned)
      || (unsigned.length == cs.length
        && (isFraction rest || [".nan", ".NaN", ".NAN"].any (·.toList = unsigned)))
  | c :: _ =>
    Decimal.isDigit c && (match cutAt '.' unsigned with
      | [whole, rest] =>
        (whole.all isDigitOrLow && isExponent (rest.dropWhile isDigitOrLow))
          || (isSexagesimal whole && rest.all isDigitOrLow)
      | _ => false)
  | [] => false

/-! ## Moments -/

/-- A written moment: the digits of its fields as they stand. -/
structure MomentForm where
  year : List Char
  month : List Char
  day : List Char
  /-- Hour, minute, second and fraction, if there is a time of day. -/
  clock : Option (List Char × List Char × List Char × List Char) := none
  /-- The sign, hours and minutes of the distance from universal time; `Z` is one of nothing. -/
  offset : Option (Bool × List Char × List Char) := none

/-- Between `least` and `most` digits at the front. -/
def digitsBetween (least most : Nat) (cs : List Char) : Option (List Char × List Char) :=
  let ds := (cs.take most).takeWhile Decimal.isDigit
  if ds.length < least then none else some (ds, cs.drop ds.length)

def dropChar (x : Char) : List Char → Option (List Char)
  | [] => none
  | c :: cs => if c == x then some cs else none

def isSpaceOrTabulator (c : Char) : Bool := c == ' ' || c == '\t'

/-- The distance from universal time at the end of a moment: nothing, `Z`, or `+01:30`. -/
def offsetForm (cs : List Char) : Option (Option (Bool × List Char × List Char)) := do
  if cs.isEmpty then return none
  match cs.dropWhile isSpaceOrTabulator with
  | ['Z'] => return some (false, [], [])
  | s :: rest =>
    if s != '+' && s != '-' then none
    let (hours, rest) ← digitsBetween 1 2 rest
    match rest with
    | [] => return some (s == '-', hours, [])
    | ':' :: rest => do
      let (minutes, rest) ← digitsBetween 2 2 rest
      if rest.isEmpty then return some (s == '-', hours, minutes) else none
    | _ => none
  | [] => none

/-- What stands between date and time: a letter or blanks. -/
def dropSeparator : List Char → Option (List Char)
  | [] => none
  | c :: cs =>
    if c == 'T' || c == 't' then some cs
    else if isSpaceOrTabulator c then some (cs.dropWhile isSpaceOrTabulator) else none

/-- A date, or a date and a time of day. -/
def MomentForm.ofText? (cs : List Char) : Option MomentForm := do
  let (year, rest) ← digitsBetween 4 4 cs
  let (month, rest) ← digitsBetween 1 2 (← dropChar '-' rest)
  let (day, rest) ← digitsBetween 1 2 (← dropChar '-' rest)
  if rest.isEmpty then return { year, month, day }
  let (hour, rest) ← digitsBetween 1 2 (← dropSeparator rest)
  let (minute, rest) ← digitsBetween 2 2 (← dropChar ':' rest)
  let (second, rest) ← digitsBetween 2 2 (← dropChar ':' rest)
  let (fraction, rest) := match rest with
    | '.' :: rest => rest.span Decimal.isDigit
    | rest => ([], rest)
  return {
    year, month, day
    clock := some (hour, minute, second, fraction)
    offset := ← offsetForm rest }

/-- Whether a text of this form is a moment without being tagged as one: the month and the day of a
date alone then have two digits. -/
def MomentForm.needsNoTag (m : MomentForm) : Bool :=
  m.clock.isSome || (m.month.length == 2 && m.day.length == 2)

/-! ## Tags -/

def booleans : List String :=
  ["yes", "Yes", "YES", "no", "No", "NO", "true", "True", "TRUE", "false", "False", "FALSE",
   "on", "On", "ON", "off", "Off", "OFF"]

def nulls : List String := ["", "~", "null", "Null", "NULL"]

/-- A text without the line feed that may end it. -/
def dropFinalBreak (cs : List Char) : List Char :=
  match cs.reverse with
  | '\n' :: rest => if rest.isEmpty then cs else rest.reverse
  | _ => cs

/-- What a plain scalar of this text is. -/
def Tag.ofText (text : List Char) : Tag :=
  let cs := dropFinalBreak text
  let s := String.ofList cs
  if booleans.contains s then .bool
  else if isFloat cs then .float
  else if isInteger cs then .int
  else if s = "<<" then .merge
  else if nulls.contains s then .null
  else if (MomentForm.ofText? cs).any (·.needsNoTag) then .moment
  else if s = "=" then .value
  else if ["!", "&", "*"].contains s then .unknown
  else .text

/-- The tags that are known by name. -/
def Tag.named : List (String × Tag) :=
  [("null", .null), ("bool", .bool), ("int", .int), ("float", .float), ("timestamp", .moment),
   ("str", .text), ("seq", .sequence), ("map", .mapping), ("merge", .merge), ("value", .value)]

/-- What the tags that are known begin with in full. -/
def Tag.scope : String := "tag:yaml.org,2002:"

/-- The tag of a full name. -/
def Tag.ofName (name : List Char) : Tag :=
  if name.take scope.length = scope.toList then
    (named.lookup (String.ofList (name.drop scope.length))).getD .unknown
  else .unknown

end LoginCallback.Yaml
