import LoginCallback.Template.Piece

/-!
# Templates: settings

The setting of a field, `[[fill]align][sign][z][#][0][width][,][_][.precision][type]`, and how it
sets texts and integers.
-/

namespace LoginCallback.Template

structure Setting where
  fill : Char := ' '
  align : Char
  sign : Option Char := none
  noNegativeZero : Bool := false
  alternate : Bool := false
  width : Option Nat := none
  separator : Option Char := none
  precision : Option Nat := none
  type : Char

def isAlignment (c : Char) : Bool := c == '<' || c == '>' || c == '=' || c == '^'

def isSign (c : Char) : Bool := c == ' ' || c == '+' || c == '-'

/-- Numbers in templates stay below this bound. -/
def maxNumber : Nat := 0x7FFFFFFFFFFFFFFF

/-- A number at the front: `none` if there is no digit. -/
def takeNumber (value : Nat) (seen : Bool) :
    List Char → Except Fault (Option Nat × List Char)
  | [] => .ok (if seen then some value else none, [])
  | c :: cs =>
    match Decimal.digitValue? c with
    | some d =>
      if value * 10 + d > maxNumber then .error .tooManyDigits
      else takeNumber (value * 10 + d) true cs
    | none => .ok (if seen then some value else none, c :: cs)

/-- Takes `c` from the front, telling whether it was there. -/
def takeChar (c : Char) : List Char → Bool × List Char
  | d :: cs => if d == c then (true, cs) else (false, d :: cs)
  | [] => (false, [])

/-- Fill and alignment, if given. -/
def takeAlignment : List Char → Option Char × Option Char × List Char
  | f :: a :: cs =>
    if isAlignment a then (some f, some a, cs)
    else if isAlignment f then (none, some f, a :: cs)
    else (none, none, f :: a :: cs)
  | [a] => if isAlignment a then (none, some a, []) else (none, none, [a])
  | [] => (none, none, [])

/-- A separator goes with decimal types; an underscore also with the binary ones. -/
def checkSeparator (separator : Option Char) (type : Char) : Except Fault Unit :=
  match separator with
  | none => .ok ()
  | some s =>
    if "defgEG%F".toList.contains type || type == '\x00' then .ok ()
    else if s == '_' && "boxX".toList.contains type then .ok ()
    else .error (.separatorWith s type)

/-- Reads a setting for a value of the given kind, with its default type and alignment. -/
def Setting.parse (kind : String) (type align : Char) (cs : List Char) : Except Fault Setting := do
  let (fill, alignment, rest) := takeAlignment cs
  let (sign, rest) := match rest with
    | c :: r => if isSign c then (some c, r) else (none, c :: r)
    | [] => (none, [])
  let (noNegativeZero, rest) := takeChar 'z' rest
  let (alternate, rest) := takeChar '#' rest
  let (zero, rest) := if fill.isNone then takeChar '0' rest else (false, rest)
  let inner := zero && alignment.isNone && align == '>'
  let (width, rest) ← takeNumber 0 false rest
  let (comma, rest) := takeChar ',' rest
  let (underscore, rest) := takeChar '_' rest
  if comma && underscore then throw .bothSeparators
  let (comma', rest') := takeChar ',' rest
  if underscore && comma' then throw .bothSeparators
  let rest := if underscore then rest' else rest
  let separator := if comma then some ',' else if underscore then some '_' else none
  let (dot, rest) := takeChar '.' rest
  let (precision, rest) ← if dot then takeNumber 0 false rest else .ok (none, rest)
  if dot && precision.isNone then throw .missingPrecision
  let type ← match rest with
    | [] => .ok type
    | [t] => .ok t
    | _ => .error (.invalidSetting (String.ofList cs) kind)
  checkSeparator separator type
  return {
    fill := if zero then '0' else fill.getD ' '
    align := if inner then '=' else alignment.getD align
    sign, noNegativeZero, alternate, width, separator, precision, type }

/-- Puts `body` into the width of the setting. -/
def Setting.pad (s : Setting) (body : List Char) : List Char :=
  let missing := s.width.getD 0 - body.length
  let left := if s.align == '>' then missing else if s.align == '^' then missing / 2 else 0
  List.replicate left s.fill ++ body ++ List.replicate (missing - left) s.fill

/-- A text in a field: cut to the precision, then filled up to the width. -/
def setText (s : String) (cs : List Char) : Except Fault String :=
  if cs.isEmpty then .ok s
  else do
    let f ← Setting.parse "str" 's' '<' cs
    if f.type != 's' then throw (.unknownType f.type "str")
    match f.sign with
    | some c => throw (if c == ' ' then .spaceOnText else .signOnText)
    | none => pure ()
    if f.noNegativeZero then throw .negativeZeroOnText
    if f.alternate then throw .alternateOnText
    if f.align == '=' then throw .innerAlignmentOnText
    let body := match f.precision with
      | some p => s.toList.take p
      | none => s.toList
    return String.ofList (f.pad body)

/-- Groups digits from the right, `size` at a time. -/
def group (separator : Char) (size : Nat) (ds : List Char) : List Char :=
  (go 0 ds.reverse).reverse
where
  go : Nat → List Char → List Char
    | _, [] => []
    | n, c :: cs =>
      if n == size then separator :: c :: go 1 cs else c :: go (n + 1) cs

/-- The digits in groups, with leading zeros until they fill `width`. -/
def fillGroups (separator : Option Char) (size width : Nat) (ds : List Char) : List Char :=
  match separator with
  | none => List.replicate (width - ds.length) '0' ++ ds
  | some s =>
    -- `n` digits take `n + (n - 1) / size` places
    let fits (n : Nat) : Bool := width ≤ n + (n - 1) / size
    let n := ((List.range (width + 1)).find? fun n => n ≥ ds.length && fits n).getD ds.length
    group s size (List.replicate (n - ds.length) '0' ++ ds)

/-- Base, mark of the alternate form, and group size of an integer type. -/
def baseOf? (type : Char) : Option (Nat × List Char × Nat) :=
  match type with
  | 'd' => some (10, [], 3)
  | 'n' => some (10, [], 3)
  | 'b' => some (2, ['0', 'b'], 4)
  | 'o' => some (8, ['0', 'o'], 4)
  | 'x' => some (16, ['0', 'x'], 4)
  | 'X' => some (16, ['0', 'X'], 4)
  | _ => none

/-- An integer in a field: sign, digits in the base of the type, padding inside or outside. -/
def setInteger (n : Int) (kind : String) (cs : List Char) : Except Fault String := do
  let f ← Setting.parse kind 'd' '>' cs
  match baseOf? f.type with
  | none => throw (.unknownType f.type kind)
  | some (base, mark, size) =>
    if f.precision.isSome then throw .precisionOnInteger
    if f.noNegativeZero then throw .negativeZeroOnInteger
    let ds := Nat.toDigits base n.natAbs
    let ds := if f.type == 'X' then ds.map Char.toUpper else ds
    let sign := if n < 0 then ['-'] else match f.sign with
      | some '+' => ['+']
      | some ' ' => [' ']
      | _ => []
    let front := sign ++ (if f.alternate then mark else [])
    let room := f.width.getD 0 - front.length
    let zeros := if f.align == '=' && f.fill == '0' then room else 0
    let ds := fillGroups f.separator size zeros ds
    let inner := if f.align == '=' then room - ds.length else 0
    return String.ofList (f.pad (front ++ List.replicate inner f.fill ++ ds))

/-- Any value in a field. Only texts and integers take a setting that is not empty. -/
def setValue (v : Value) (cs : List Char) : Except Fault String :=
  match v with
  | .text s => setText s cs
  | .int n => if cs.isEmpty then .ok v.display else setInteger n "int" cs
  | .bool b => if cs.isEmpty then .ok v.display else setInteger (if b then 1 else 0) "bool" cs
  | v => if cs.isEmpty then .ok v.display else .error (.settingOn v.kind)

end LoginCallback.Template
