import LoginCallback.Decimal.Digits
import LoginCallback.Text.Case
import LoginCallback.Time.Calendar

/-!
# Dates of cookies

The second at which a cookie expires, as a header writes it: `Wed, 09 Feb 1994 22:23:32 GMT`, or in
one of several looser forms. Seconds are counted from the start of year 1. A short year is completed
to the nearest one that ends so. Some texts do not only name no second but spoil the header.

These forms are part of what is assumed about the jar of the client (`Http.Cookie`), and that the
clock of the machine shows universal time, from which the current year is taken.
-/

namespace LoginCallback.Http.CookieDate

open LoginCallback.Decimal (isDigit isSpace)

/-- A result, or nothing that can be made of the header. -/
abbrev Read (α : Type) := Except Unit α

def monthNames : List String :=
  ["jan", "feb", "mar", "apr", "may", "jun", "jul", "aug", "sep", "oct", "nov", "dec"]

def weekdayNames : List String := ["sun", "mon", "tue", "wed", "thu", "fri", "sat"]

def isSmall (c : Char) : Bool := decide ('a' ≤ c ∧ c ≤ 'z')

/-- A letter, a digit or a low line of ASCII. -/
def isWordChar (c : Char) : Bool := c.isAlphanum || c == '_'

/-- The fields of a date, as they stand. -/
structure Fields where
  day : List Char
  month : List Char
  year : List Char
  /-- Hours, minutes and seconds. -/
  clock : List Char × List Char × List Char := ([], [], [])
  zone : List Char := []

/-! ## Seconds -/

/-- The second of a date and a time of day, which may be that of a leap second. There is none before
1970 and none after the end of the calendar. -/
def second? (year month day hour minute second : Nat) : Read (Option Int) :=
  if year < 1970 || month < 1 || 12 < month || day < 1 || 31 < day || 24 < hour || 59 < minute
      || 61 < second then .ok none
  else if 9999 < year then .error ()
  else
    let days := Time.Date.toDays ⟨year, month, 1⟩ + (day - 1)
    .ok (some (days * 86400 + hour * 3600 + minute * 60 + second : Nat))

/-- The year that a number below a thousand stands for. -/
def completedYear (current year : Nat) : Nat :=
  if year < 1000 then
    let ending := current % 100
    let near := year + current - ending
    if year + 50 < ending then near + 100
    else if ending + 50 < year then near - 100
    else near
  else year

/-- The number of a month by its name or its digits. -/
def monthNumber? (cs : List Char) : Option Nat :=
  match monthNames.idxOf? (String.ofList (cs.map Char.toLower)) with
  | some i => some (i + 1)
  | none => match Decimal.readInt? (String.ofList cs) with
    | some n => if 1 ≤ n ∧ n ≤ 12 then some n.toNat else none
    | none => none

/-- How many seconds a zone is ahead of universal time; no zone is universal time. -/
def zoneSeconds? (cs : List Char) : Option Int :=
  let cs := cs.map Char.toUpper
  if ["", "GMT", "UTC", "UT", "Z"].contains (String.ofList cs) then some 0
  else
    let (negative, ds) := match cs with
      | '-' :: ds => (true, ds)
      | '+' :: ds => (false, ds)
      | ds => (false, ds)
    if ds.isEmpty || !ds.all isDigit then none
    else
      let hours := ds.take (if ds.length == 3 then 1 else 2)
      let size : Int :=
        Decimal.ofDigits hours * 3600 + Decimal.ofDigits (ds.drop hours.length) * 60
      some (if negative then -size else size)

/-- The second of a loosely written date. -/
def Fields.second? (current : Nat) (f : Fields) : Read (Option Int) := do
  if Decimal.maxDigits < f.year.length then throw ()
  let year := Decimal.ofDigits f.year
  if 9999 < year then return none
  let some month := monthNumber? f.month | return none
  let (hour, minute, second) := f.clock
  let some s ← CookieDate.second? (completedYear current year) month (Decimal.ofDigits f.day)
    (Decimal.ofDigits hour) (Decimal.ofDigits minute) (Decimal.ofDigits second) | return none
  return (zoneSeconds? f.zone).map (s - ·)

/-! ## The strict form -/

/-- The characters of `Wed, 09 Feb 1994 22:23:32 GMT`, one by one. -/
def strictShape : List (Char → Bool) :=
  let among (s : String) (c : Char) : Bool := s.toList.contains c
  let word := [isSmall, isSmall]
  let two := [isDigit, isDigit]
  (among "SMTWF" :: word) ++ [(· == ','), (· == ' ')] ++ two ++ [(· == ' ')]
    ++ (among "JFMASOND" :: word) ++ [(· == ' ')] ++ two ++ two ++ [(· == ' ')]
    ++ two ++ [(· == ':')] ++ two ++ [(· == ':')] ++ two
    ++ [(· == ' '), (· == 'G'), (· == 'M'), (· == 'T')]

/-- The fields of a strictly written date; a line end may follow. -/
def strictFields? (cs : List Char) : Option Fields :=
  let cs := if cs.length == 30 && cs.getLast? == some '\n' then cs.dropLast else cs
  if cs.length == strictShape.length && (cs.zip strictShape).all fun (c, p) => p c then
    let at' (n length : Nat) : List Char := (cs.drop n).take length
    some {
      day := at' 5 2, month := at' 8 3, year := at' 12 4
      clock := (at' 17 2, at' 20 2, at' 23 2) }
  else none

/-- The second of a strictly written date, whose month must exist. -/
def Fields.strictSecond? (f : Fields) : Read (Option Int) :=
  let (hour, minute, second) := f.clock
  match monthNames.idxOf? (String.ofList (f.month.map Char.toLower)) with
  | none => .error ()
  | some i => CookieDate.second? (Decimal.ofDigits f.year) (i + 1) (Decimal.ofDigits f.day)
    (Decimal.ofDigits hour) (Decimal.ofDigits minute) (Decimal.ofDigits second)

/-! ## Looser forms -/

/-- Between `least` and `most` digits at the front. -/
def takeDigits (least most : Nat) (cs : List Char) : Option (List Char × List Char) :=
  let ds := (cs.take most).takeWhile isDigit
  if ds.length < least then none else some (ds, cs.drop ds.length)

/-- Characters of a sort at the front, at least one. -/
def takeRun (p : Char → Bool) (cs : List Char) : Option (List Char × List Char) :=
  if (cs.takeWhile p).isEmpty then none else some (cs.takeWhile p, cs.dropWhile p)

def dropChar (x : Char) : List Char → Option (List Char)
  | [] => none
  | c :: cs => if c == x then some cs else none

/-- What follows blanks or one of `marks`. -/
def dropSeparator (marks : List Char) : List Char → Option (List Char)
  | [] => none
  | c :: cs =>
    if isSpace c then some (cs.dropWhile isSpace) else if marks.contains c then some cs else none

/-- A day of the week at the front does not count. -/
def dropWeekday (cs : List Char) : List Char :=
  if weekdayNames.contains (String.ofList ((cs.take 3).map Char.toLower)) then
    let rest := (cs.drop 3).dropWhile Char.isAlpha
    ((dropChar ',' rest).getD rest).dropWhile isSpace
  else cs

/-- A time of day at the front: hours and minutes, and perhaps seconds. -/
def takeClock (cs : List Char) : Option ((List Char × List Char × List Char) × List Char) := do
  let (hour, rest) ← takeDigits 1 2 (← dropSeparator [':'] cs)
  let (minute, rest) ← takeDigits 2 2 (← dropChar ':' rest)
  match dropChar ':' rest with
  | some r => match takeDigits 2 2 r with
    | some (second, r) => return ((hour, minute, second), r)
    | none => return ((hour, minute, []), rest)
  | none => return ((hour, minute, []), rest)

/-- A zone at the front: a distance of two to four digits, or a name. The halves of the day are no
zones. -/
def takeZone (cs : List Char) : Option (List Char × List Char) :=
  match cs with
  | [] => none
  | s :: rest =>
    if s == '+' || s == '-' then (takeDigits 2 4 rest).map fun (ds, r) => (s :: ds, r)
    else if isDigit s then takeDigits 2 4 cs
    else do
      let (name, r) ← takeRun Char.isAlpha cs
      if ["am", "pm"].contains (String.ofList (name.map Char.toLower)) then none else some (name, r)

/-- What follows a remark in parentheses. -/
def dropRemark (cs : List Char) : List Char :=
  let rest := do
    let (_, r) ← takeRun isWordChar (← dropChar '(' cs)
    dropChar ')' r
  (rest.map (·.dropWhile isSpace)).getD cs

def looseFields? (cs : List Char) : Option Fields := do
  let (day, rest) ← takeDigits 1 2 cs
  let (month, rest) ← takeRun isWordChar (← dropSeparator ['-', '/'] rest)
  let (year, rest) ← takeRun isDigit (← dropSeparator ['-', '/'] rest)
  let (clock, rest) := (takeClock rest).getD (([], [], []), rest)
  let rest := rest.dropWhile isSpace
  let (zone, rest) := (takeZone rest).getD ([], rest)
  if (dropRemark (rest.dropWhile isSpace)).isEmpty then return { day, month, year, clock, zone }
  else none

/-- The second that a text names in the year `current`, if it names one. -/
def read (current : Nat) (cs : List Char) : Read (Option Int) :=
  match strictFields? cs with
  | some f => f.strictSecond?
  | none => match looseFields? (dropWeekday (cs.dropWhile Text.isBlank)) with
    | some f => f.second? current
    | none => .ok none

end LoginCallback.Http.CookieDate
