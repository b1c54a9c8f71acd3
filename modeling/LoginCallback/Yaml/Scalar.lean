import LoginCallback.Decimal.Binary
import LoginCallback.Decimal.Radix
import LoginCallback.Text.Case
import LoginCallback.Yaml.Cursor
import LoginCallback.Yaml.Resolution

/-!
# Values of scalars

Numbers may be grouped by underscores and may be written to the base sixty. A scalar whose tag was
given may hold any text, so every reading can fail. Dates and moments are foreign values, of which
only the texts and the identity are known.
-/

namespace LoginCallback.Yaml

def withoutLows (cs : List Char) : List Char := cs.filter (· != '_')

/-- The sign of a number and what follows it; a number has at least one character. -/
def signed (cs : List Char) : Except Fault (Bool × List Char) :=
  match cs with
  | [] => .error .noNumber
  | c :: rest => .ok (c == '-', if c == '-' || c == '+' then rest else cs)

/-- An integer in a base. -/
def integerOf (base : Nat) (cs : List Char) : Except Fault Int :=
  let s := String.ofList cs
  let count := (Decimal.digitCount? s).getD 0
  if base == 10 && count > Decimal.maxDigits then .error (.tooManyDigits count)
  else match Decimal.readRadix? base s with
    | some n => .ok n
    | none => .error (.notInteger base s)

def floatOf (cs : List Char) : Except Fault Float :=
  match Decimal.readFloat? (String.ofList cs) with
  | some x => .ok x
  | none => .error (.notFloat (String.ofList cs))

def Scalar.int (text : List Char) : Except Fault Int := do
  let (negative, cs) ← signed (withoutLows text)
  let size ← match cs with
    | [] => throw .noNumber
    | ['0'] => pure 0
    | '0' :: 'b' :: ds => integerOf 2 ds
    | '0' :: 'x' :: ds => integerOf 16 ds
    | '0' :: _ => integerOf 8 cs
    | _ =>
      if cs.contains ':' then do
        let parts ← (cutAt ':' cs).mapM (integerOf 10)
        pure (parts.foldl (fun n d => n * 60 + d) 0)
      else integerOf 10 cs
  return if negative then -size else size

/-- A number to the base sixty, from its least part on. -/
def sexagesimal (parts : List Float) : Float :=
  (parts.foldr (fun d (sum, base) => (sum + d * Decimal.ofIntNearest base, base * 60))
    ((0.0 : Float), (1 : Int))).1

def Scalar.float (text : List Char) : Except Fault Float := do
  let (negative, cs) ← signed (Text.lower (String.ofList (withoutLows text))).toList
  let size ←
    if cs = ".inf".toList then pure (1.0 / 0.0)
    else if cs = ".nan".toList then pure (0.0 / 0.0)
    else if cs.contains ':' then do pure (sexagesimal (← (cutAt ':' cs).mapM floatOf))
    else floatOf cs
  return if negative then -size else size

def Scalar.bool (text : List Char) : Except Fault Bool :=
  let word := Text.lower (String.ofList text)
  if ["yes", "true", "on"].contains word then .ok true
  else if ["no", "false", "off"].contains word then .ok false
  else .error (.notBoolean word)

/-- The fault of a moment that does not exist. The distance from universal time comes first, then
the date, then the time of day. -/
def MomentForm.fault? (m : MomentForm) : Option Time.ReadFault :=
  let year := Decimal.ofDigits m.year
  let month := Decimal.ofDigits m.month
  let day := Decimal.ofDigits m.day
  let distant := m.offset.bind fun (negative, hours, minutes) =>
    let size : Int :=
      (Decimal.ofDigits hours * 60 + Decimal.ofDigits minutes) * 60 * Time.microsPerSecond
    if size < Time.microsPerDay then none
    else some (.offset (if negative then -size else size))
  let (hour, minute, second) := match m.clock with
    | none => (0, 0, 0)
    | some (h, mi, s, _) => (Decimal.ofDigits h, Decimal.ofDigits mi, Decimal.ofDigits s)
  match distant with
  | some f => some f
  | none =>
    if year == 0 then some (.year year)
    else if month == 0 || month > 12 then some .month
    else if day == 0 || day > Time.daysInMonth year month then some .day
    else if hour > 23 then some .hour
    else if minute > 59 then some .minute
    else if second > 59 then some .second
    else none

/-- A date without a time of day. -/
def dateValue (d : Time.Date) : Foreign :=
  let quoted :=
    "datetime.date(" ++ String.intercalate ", " ([d.year, d.month, d.day].map toString) ++ ")"
  { kind := "datetime.date"
    display := String.ofList (Decimal.padded 4 d.year ++ '-' :: Decimal.padded 2 d.month
      ++ '-' :: Decimal.padded 2 d.day)
    quoted
    identity := quoted }

/-- A date with a time of day. Two of them with known distances from universal time are equal if
they are at the same time. -/
def momentValue (m : Time.Moment) : Foreign :=
  { kind := "datetime.datetime"
    display := String.ofList (m.write.map fun c => if c == 'T' then ' ' else c)
    quoted := m.quoted
    identity := match m.offset with
      | some o => "datetime.datetime " ++ toString (m.ticks - o)
      | none => m.quoted }

/-- What an existing moment is as a value. The fraction counts to the sixth digit. -/
def MomentForm.value (m : MomentForm) : Foreign :=
  let d : Time.Date :=
    ⟨Decimal.ofDigits m.year, Decimal.ofDigits m.month, Decimal.ofDigits m.day⟩
  match m.clock with
  | none => dateValue d
  | some (h, mi, s, fraction) =>
    let t : Time.ClockTime :=
      { hour := Decimal.ofDigits h
        minute := Decimal.ofDigits mi
        second := Decimal.ofDigits s
        micro := Decimal.ofDigits ((fraction ++ List.replicate 6 '0').take 6) }
    let offset : Option Int := m.offset.map fun (negative, hours, minutes) =>
      let size : Int :=
        (Decimal.ofDigits hours * 60 + Decimal.ofDigits minutes) * 60 * Time.microsPerSecond
      if negative then -size else size
    momentValue ⟨d.toDays * Time.microsPerDay + t.micros, offset⟩

def Scalar.moment (text : List Char) : Except Fault Foreign :=
  match MomentForm.ofText? (dropFinalBreak text) with
  | none => .error .momentForm
  | some m => match m.fault? with
    | some f => .error (.notMoment f)
    | none => .ok m.value

end LoginCallback.Yaml
