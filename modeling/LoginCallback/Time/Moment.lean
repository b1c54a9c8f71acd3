import LoginCallback.Value.Display
import LoginCallback.Time.Calendar

/-!
# Moments and durations

A moment is a reading of a clock in microseconds, with the distance of the clock from universal
time if that is known. A duration is a number of microseconds. Both are bounded: moments lie in the
years 1 to 9999, durations below a thousand million days.
-/

namespace LoginCallback.Time

/-- Why a computation with times has no result. -/
inductive Fault where
  /-- The moment lies outside the years 1 to 9999. -/
  | momentRange
  /-- The duration of so many days is too long. -/
  | durationDays (days : Int)
  /-- The duration is too long even to be counted in days. -/
  | durationSize
  | infiniteSeconds
  | unknownSeconds
  /-- Seconds of a kind that is no number. -/
  | secondsKind (kind : String)
  /-- A moment with and one without known distance from universal time. -/
  | mixedZones

def Fault.message : Fault → String
  | .momentRange => "date value out of range"
  | .durationDays n => "days=" ++ toString n ++ "; must have magnitude <= 999999999"
  | .durationSize => "Python int too large to convert to C int"
  | .infiniteSeconds => "cannot convert float infinity to integer"
  | .unknownSeconds => "cannot convert float NaN to integer"
  | .secondsKind k => "unsupported type for timedelta seconds component: " ++ k
  | .mixedZones => "can't compare offset-naive and offset-aware datetimes"

def microsPerSecond : Nat := 1000000

def microsPerDay : Nat := 86400 * microsPerSecond

/-- A number of microseconds. -/
structure Duration where
  micros : Int
  deriving DecidableEq

namespace Duration

/-- A duration that is not too long. -/
def ofMicros (n : Int) : Except Fault Duration :=
  let days := n / microsPerDay
  if days < -0x80000000 || 0x80000000 ≤ days then .error .durationSize
  else if days < -999999999 || 999999999 < days then .error (.durationDays days)
  else .ok ⟨n⟩

/-- The integer nearest to a double that is not infinite; half goes away from zero. -/
def roundAway (x : Float) : Int := (Decimal.truncate? x.round).getD 0

/-- The fraction of a second, in microseconds, is rounded to the nearest integer together with the
whole microseconds it is added to; a tie goes to the even sum. -/
def roundWith (whole : Int) (fraction : Float) : Int :=
  let rounded := fraction.round
  if (rounded - fraction).abs == 0.5 then
    let odd : Float := if whole % 2 == 0 then 0.0 else 1.0
    roundAway (2.0 * ((fraction + odd) * 0.5).round - odd)
  else roundAway rounded

/-- A number of seconds. The integral part counts exactly, the fraction to the microsecond. -/
def ofFloatSeconds (x : Float) : Except Fault Duration :=
  match Decimal.parts x with
  | .nan => .error .unknownSeconds
  | .infinite _ => .error .infiniteSeconds
  | .finite .. =>
    let seconds := (Decimal.truncate? x).getD 0
    let fraction := x - Decimal.ofIntNearest seconds
    let micros := fraction * 1000000.0
    let wholeMicros := (Decimal.truncate? micros).getD 0
    let rest := micros - Decimal.ofIntNearest wholeMicros
    let whole := seconds * microsPerSecond + wholeMicros
    ofMicros (whole + roundWith whole rest)

/-- The duration of a number of seconds, which must be a number. -/
def ofSeconds (v : Value) : Except Fault Duration :=
  match v with
  | .int n => ofMicros (n * microsPerSecond)
  | .bool b => ofMicros ((if b then 1 else 0) * microsPerSecond)
  | .float x => ofFloatSeconds x
  | v => .error (.secondsKind v.kind)

/-- The number of seconds, as the nearest double. -/
def toSeconds (d : Duration) : Float := Decimal.ofScientific (d.micros < 0) d.micros.natAbs (-6)

end Duration

/-- A reading of a clock: microseconds since the start of year 1, and how far the clock is ahead of
universal time, in microseconds. -/
structure Moment where
  ticks : Int
  offset : Option Int
  deriving DecidableEq

namespace Moment

/-- The end of year 9999. -/
def endTicks : Int := dayCount * microsPerDay

def add (m : Moment) (d : Duration) : Except Fault Moment :=
  let t := m.ticks + d.micros
  if t < 0 || endTicks ≤ t then .error .momentRange else .ok { m with ticks := t }

/-- A moment within the calendar, or none. -/
theorem add_cases (m : Moment) (d : Duration) :
    (0 ≤ m.ticks + d.micros ∧ m.ticks + d.micros < endTicks ∧
      m.add d = .ok { m with ticks := m.ticks + d.micros }) ∨
    ((m.ticks + d.micros < 0 ∨ endTicks ≤ m.ticks + d.micros) ∧ m.add d = .error .momentRange) := by
  unfold add
  by_cases hout : m.ticks + d.micros < 0 ∨ endTicks ≤ m.ticks + d.micros
  · exact Or.inr ⟨hout, by simp [hout]⟩
  · exact Or.inl ⟨by omega, by omega, by simp [hout]⟩

/-- Whether the first moment is not later than the second. -/
def notAfter (a b : Moment) : Except Fault Bool :=
  match a.offset, b.offset with
  | some o, some p => .ok (decide (a.ticks - o ≤ b.ticks - p))
  | none, none => .ok (decide (a.ticks ≤ b.ticks))
  | _, _ => .error .mixedZones

def date (m : Moment) : Date := Date.ofDays (m.ticks / microsPerDay).toNat

/-- Microseconds since midnight. -/
def timeOfDay (m : Moment) : Nat := (m.ticks % microsPerDay).toNat

end Moment

end LoginCallback.Time
