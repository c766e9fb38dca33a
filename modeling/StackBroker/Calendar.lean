/-!
# Calendar

Instants in seconds of universal time and their dates in the proleptic Gregorian
calendar. Days are counted in eras of four hundred years that begin on the first
of March, so that the leap day is the last day of its year.
-/
namespace StackBroker

/-- A second of universal time, counted from the start of 1970, within the years
    that the calendar covers. -/
structure Instant where
  seconds : Int
  covered : -8334601228800 ≤ seconds ∧ seconds ≤ 8210266876799 := by decide
deriving DecidableEq, Repr

namespace Instant

/-- The instant at some seconds, if the calendar covers it. -/
def ofSeconds? (seconds : Int) : Option Instant :=
  if covered : -8334601228800 ≤ seconds ∧ seconds ≤ 8210266876799 then some ⟨seconds,covered⟩ else none

/-- The start of 1970. -/
def epoch : Instant := { seconds := 0 }

instance : Inhabited Instant := ⟨epoch⟩

/-- The minute that an instant lies in, counted from the start of 1970. -/
def minute (time : Instant) : Int := time.seconds/60

end Instant

/-- A day of the calendar. -/
structure Date where
  year : Int
  month : Nat
  day : Nat
deriving DecidableEq, Repr

namespace Date

/-- The days from the first of March of the year 0 to the start of 1970. -/
def epochShift : Int := 719468

/-- The days of four hundred years. -/
def daysOfEra : Int := 146097

/-- The year of an era, from its first of March, that a day of the era lies in. -/
def yearOfEra (day : Nat) : Nat := (day-day/1460+day/36524-day/146096)/365

/-- The days of an era before one of its years. -/
def daysBefore (year : Nat) : Nat := 365*year+year/4-year/100

/-- The month, from March on, that a day of a year from March on lies in. -/
def monthFromMarch (day : Nat) : Nat := (5*day+2)/153

/-- The date of a day counted from the start of 1970. -/
def ofDays (days : Int) : Date :=
  let shifted := days+epochShift
  let era := shifted/daysOfEra
  let dayOfEra := (shifted%daysOfEra).toNat
  let year := yearOfEra dayOfEra
  let dayOfYear := dayOfEra-daysBefore year
  let fromMarch := monthFromMarch dayOfYear
  let month := if fromMarch < 10 then fromMarch+3 else fromMarch-9
  { year := era*400+year+(if month ≤ 2 then 1 else 0)
    month := month
    day := dayOfYear-(153*fromMarch+2)/5+1 }

/-- The day of a date counted from the start of 1970. -/
def toDays (date : Date) : Int :=
  let year := if date.month ≤ 2 then date.year-1 else date.year
  let fromMarch := if date.month ≤ 2 then date.month+9 else date.month-3
  let yearOfEra := (year%400).toNat
  year/400*daysOfEra+daysBefore yearOfEra+((153*fromMarch+2)/5+date.day-1 : Nat)-epochShift

end Date

namespace Instant

/-- The date of an instant. -/
def date (time : Instant) : Date := .ofDays (time.seconds/86400)

/-- The hour of the day. -/
def hour (time : Instant) : Nat := (time.seconds%86400/3600).toNat

/-- The minute of the hour. -/
def minuteOfHour (time : Instant) : Nat := (time.seconds%3600/60).toNat

/-! ### Text -/

/-- The last two decimal digits of a number. -/
def twoDigits (value : Nat) : List Char := [Nat.digitChar (value/10%10),Nat.digitChar (value%10)]

/-- The English abbreviations of the months. -/
def monthNames : List String :=
  ["Jan","Feb","Mar","Apr","May","Jun","Jul","Aug","Sep","Oct","Nov","Dec"]

/-- The day, the month, the last two digits of the year, the hour and minute, and
    the zone, as in `02 Jan 06 15:04 +0000`. -/
def timestamp (time : Instant) : String :=
  let date := time.date
  String.ofList (twoDigits date.day ++ [' '] ++ (monthNames.getD (date.month-1) "").toList ++ [' '] ++
    twoDigits (date.year%100).toNat ++ [' '] ++ twoDigits time.hour ++ [':'] ++
    twoDigits time.minuteOfHour ++ " +0000".toList)

end Instant
end StackBroker
