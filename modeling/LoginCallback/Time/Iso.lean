import LoginCallback.Time.Moment

/-!
# Written moments

The text of a moment, `2024-01-01T12:00:00.000500+01:00`, with the fraction only if it is not zero,
and the reading of such texts. The reader also takes the basic form without separators, week dates,
any character between date and time, and fractions of any number of digits.
-/

namespace LoginCallback.Time

open LoginCallback.Decimal (padded)

/-- Why a text is no moment. -/
inductive ReadFault where
  | malformed (text : String)
  | year (n : Nat)
  | month
  | day
  | hour
  | minute
  | second
  /-- The distance from universal time is a day or more. -/
  | offset (micros : Int)
  deriving DecidableEq

/-- The way a distance of a day or more is shown. -/
def showSpan (micros : Int) : String :=
  let days := micros / microsPerDay
  let rest := (micros % microsPerDay).toNat
  let seconds := rest / microsPerSecond
  let fraction := rest % microsPerSecond
  let parts := (if days == 0 then [] else ["days=" ++ toString days])
    ++ (if seconds == 0 then [] else ["seconds=" ++ toString seconds])
    ++ (if fraction == 0 then [] else ["microseconds=" ++ toString fraction])
  "datetime.timedelta(" ++ (if parts.isEmpty then "0" else String.intercalate ", " parts) ++ ")"

def ReadFault.message : ReadFault → String
  | .malformed s => "Invalid isoformat string: " ++ Text.quoted s
  | .year n => "year " ++ toString n ++ " is out of range"
  | .month => "month must be in 1..12"
  | .day => "day is out of range for month"
  | .hour => "hour must be in 0..23"
  | .minute => "minute must be in 0..59"
  | .second => "second must be in 0..59"
  | .offset n =>
    "offset must be a timedelta strictly between -timedelta(hours=24) and timedelta(hours=24), not "
      ++ showSpan n ++ "."

/-! ## Writing -/

/-- Hours, minutes and seconds of a number of microseconds below a day, and what is left over. -/
def clockFields (micros : Nat) : Nat × Nat × Nat × Nat :=
  let seconds := micros / microsPerSecond
  (seconds / 3600, seconds / 60 % 60, seconds % 60, micros % microsPerSecond)

def writeFraction (micros : Nat) : List Char :=
  if micros == 0 then [] else '.' :: padded 6 micros

def writeOffset (micros : Int) : List Char :=
  let (h, m, s, f) := clockFields micros.natAbs
  (if micros < 0 then '-' else '+') :: padded 2 h ++ ':' :: padded 2 m
    ++ (if s == 0 && f == 0 then [] else ':' :: padded 2 s ++ writeFraction f)

def Moment.write (m : Moment) : List Char :=
  let d := m.date
  let (h, mi, s, f) := clockFields m.timeOfDay
  padded 4 d.year ++ '-' :: padded 2 d.month ++ '-' :: padded 2 d.day
    ++ 'T' :: padded 2 h ++ ':' :: padded 2 mi ++ ':' :: padded 2 s ++ writeFraction f
    ++ (match m.offset with
      | some o => writeOffset o
      | none => [])

def Moment.toText (m : Moment) : String := String.ofList m.write

/-! ## Reading -/

/-- A number of exactly `n` digits at the front. -/
def takeDigits : Nat → List Char → Option (Nat × List Char)
  | n, cs =>
    let ds := cs.take n
    if ds.length == n && ds.all Decimal.isDigit then some (Decimal.ofDigits ds, cs.drop n) else none

/-- How many characters of a text of at least seven belong to the date. -/
def dateLength? (cs : List Char) : Option Nat :=
  let charAt (i : Nat) : Char := cs.getD i '\x00'
  let n := cs.length
  if n == 7 then some 7
  else if charAt 4 == '-' then
    if charAt 5 == 'W' then
      if n > 8 && charAt 8 == '-' then
        if n == 9 then none
        else if n > 10 && Decimal.isDigit (charAt 10) then some 8
        else some 10
      else some 8
    else some 10
  else if charAt 4 == 'W' then
    let i := 7 + ((cs.drop 7).takeWhile Decimal.isDigit).length
    if i < 9 then some i else if i % 2 == 0 then some 7 else some 8
  else some 8

/-- Either a date that is checked later, or the date of a week day. -/
def readDate? (cs : List Char) : Option Date := do
  let (year, rest) ← takeDigits 4 cs
  let separated := rest.head? == some '-'
  let rest := if separated then rest.drop 1 else rest
  let skip (r : List Char) : Option (List Char) :=
    if !separated then some r else match r with
      | '-' :: r => some r
      | _ => none
  match rest with
  | 'W' :: rest => do
    let (week, rest) ← takeDigits 2 rest
    if rest.isEmpty then Date.ofWeek? year week 1
    else do
      let (day, _) ← takeDigits 1 (← skip rest)
      Date.ofWeek? year week day
  | rest => do
    let (month, rest) ← takeDigits 2 rest
    let (day, _) ← takeDigits 2 (← skip rest)
    return ⟨year, month, day⟩

/-- A clock time as it was read: hours, minutes, seconds, microseconds. -/
structure ClockTime where
  hour : Nat
  minute : Nat
  second : Nat
  micro : Nat

def ClockTime.micros (t : ClockTime) : Nat :=
  ((t.hour * 60 + t.minute) * 60 + t.second) * microsPerSecond + t.micro

/-- A fraction of a second; digits after the sixth do not count. The second part tells whether
characters other than digits are left. -/
def readFraction? (cs : List Char) (after : List Char) : Option (Nat × Bool) :=
  let ds := cs.take 6
  if cs.isEmpty then some (0, !(after.dropWhile Decimal.isDigit).isEmpty)
  else if ds.all Decimal.isDigit then
    let scale := Nat.pow 10 (6 - ds.length)
    some (Decimal.ofDigits ds * scale, !((cs.drop 6 ++ after).dropWhile Decimal.isDigit).isEmpty)
  else none

/-- Hours, then minutes and seconds with or without colons, then a fraction. `cs` holds the time
itself and `after` what follows it in the text. The result tells whether something is left. -/
def readClock? (cs after : List Char) : Option (ClockTime × Bool) := do
  let all := cs ++ after
  let (hour, _) ← takeDigits 2 all
  let rest := cs.drop 2
  match rest with
  | [] => return (⟨hour, 0, 0, 0⟩, !after.isEmpty)
  | c :: rest' =>
    let colons := c == ':'
    if rest'.isEmpty then if c.val < 128 then return (⟨hour, 0, 0, 0⟩, true) else none
    if !colons && (c == '.' || c == ',') then
      let (f, left) ← readFraction? rest' after
      return (⟨hour, 0, 0, f⟩, left)
    let rest := if colons then rest' else rest
    let (minute, _) ← takeDigits 2 (rest ++ after)
    match rest.drop 2 with
    | [] => return (⟨hour, minute, 0, 0⟩, !after.isEmpty)
    | c :: rest' =>
      if rest'.isEmpty then if c.val < 128 then return (⟨hour, minute, 0, 0⟩, true) else none
      if c == '.' || c == ',' then
        let (f, left) ← readFraction? rest' after
        return (⟨hour, minute, 0, f⟩, left)
      if colons && c != ':' then none
      let rest := if colons then rest' else rest.drop 2
      let (second, _) ← takeDigits 2 (rest ++ after)
      match rest.drop 2 with
      | [] => return (⟨hour, minute, second, 0⟩, !after.isEmpty)
      | c :: rest' =>
        if rest'.isEmpty then if c.val < 128 then return (⟨hour, minute, second, 0⟩, true) else none
        if c == '.' || c == ',' || (colons && c == ':') then
          let (f, left) ← readFraction? rest' after
          return (⟨hour, minute, second, f⟩, left)
        if colons then none
        let (f, left) ← readFraction? (rest.drop 2) after
        return (⟨hour, minute, second, f⟩, left)

def isZoneMark (c : Char) : Bool := c == '+' || c == '-' || c == 'Z'

/-- A clock time and its distance from universal time, if it is given. -/
def readTime? (cs : List Char) : Option (ClockTime × Option Int) := do
  let time := cs.takeWhile (!isZoneMark ·)
  match cs.dropWhile (!isZoneMark ·) with
  | [] => do
    let (t, left) ← readClock? time []
    if left then none else return (t, none)
  | mark :: zone => do
    let (t, _) ← readClock? time (mark :: zone)
    if mark == 'Z' then
      if zone.isEmpty then return (t, some 0) else none
    else do
      let (z, left) ← readClock? zone []
      if left then none
      else
        let n : Int := z.micros
        return (t, some (if z.micros / microsPerSecond == 0 then 0
          else if mark == '-' then -n else n))

/-- The moment that a text writes. -/
def Moment.read (s : String) : Except ReadFault Moment :=
  let cs := s.toList
  let parsed : Option (Date × ClockTime × Option Int) := do
    if cs.length < 7 then none
    let n ← dateLength? cs
    let date ← readDate? (cs.take n)
    match cs.drop n with
    | [] => return (date, ⟨0, 0, 0, 0⟩, none)
    | _ :: time => return (date, ← readTime? time)
  match parsed with
  | none => .error (.malformed s)
  | some (d, t, offset) => do
    match offset with
    | some o => if o.natAbs ≥ microsPerDay then throw (.offset o)
    | none => pure ()
    if d.year < 1 || 9999 < d.year then throw (.year d.year)
    if d.month < 1 || 12 < d.month then throw .month
    if d.day < 1 || daysInMonth d.year d.month < d.day then throw .day
    if t.hour > 23 then throw .hour
    if t.minute > 59 then throw .minute
    if t.second > 59 then throw .second
    return ⟨d.toDays * microsPerDay + t.micros, offset⟩

/-! ## Moments in messages -/

/-- A moment as it is written inside a message. -/
def Moment.quoted (m : Moment) : String :=
  let d := m.date
  let (h, mi, s, f) := clockFields m.timeOfDay
  let numbers := [d.year, d.month, d.day, h, mi]
    ++ (if s == 0 && f == 0 then [] else [s]) ++ (if f == 0 then [] else [f])
  let zone := match m.offset with
    | none => ""
    | some 0 => ", tzinfo=datetime.timezone.utc"
    | some o => ", tzinfo=datetime.timezone(" ++ showSpan o ++ ")"
  "datetime.datetime(" ++ String.intercalate ", " (numbers.map toString) ++ zone ++ ")"

end LoginCallback.Time
