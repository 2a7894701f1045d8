/-
Module: RecordMapping.Calendar
Purpose: Dates, times of day and timestamps, and how they are written.
Main exports: Date, Time, Timestamp, Date.make?, Time.make?, Date.text, Time.text,
  Timestamp.text
-/
import RecordMapping.Text.Digits

namespace RecordMapping

/-!
Dates are those of the Gregorian calendar, extended to years before it and to
negative years.  A date exists by construction: the day is within its month.
Times have nanoseconds and no leap second.
-/

/-- Whether a year has a 29th of February. -/
def isLeapYear (year : Int) : Bool :=
  year % 4 == 0 && (year % 100 != 0 || year % 400 == 0)

/-- The number of days of a month. -/
def daysInMonth (year : Int) : Nat → Nat
  | 2 => if isLeapYear year then 29 else 28
  | 4 | 6 | 9 | 11 => 30
  | _ => 31

/-- The dates that exist, in years of at most four digits. -/
def Date.Exists (year : Int) (month day : Nat) : Prop :=
  (-9999 ≤ year ∧ year ≤ 9999) ∧ (1 ≤ month ∧ month ≤ 12) ∧
    (1 ≤ day ∧ day ≤ daysInMonth year month)

instance (year : Int) (month day : Nat) : Decidable (Date.Exists year month day) :=
  inferInstanceAs (Decidable (_ ∧ _ ∧ _))

/-- A day of the calendar. -/
structure Date where
  year : Int
  month : Nat
  day : Nat
  valid : Date.Exists year month day
deriving DecidableEq

/-- The times of day that exist. -/
def Time.Exists (hour minute second nanosecond : Nat) : Prop :=
  hour < 24 ∧ minute < 60 ∧ second < 60 ∧ nanosecond < 1000000000

instance (hour minute second nanosecond : Nat) :
    Decidable (Time.Exists hour minute second nanosecond) :=
  inferInstanceAs (Decidable (_ ∧ _ ∧ _ ∧ _))

/-- A time of day. -/
structure Time where
  hour : Nat
  minute : Nat
  second : Nat
  nanosecond : Nat
  valid : Time.Exists hour minute second nanosecond
deriving DecidableEq

/-- A time of a day. -/
structure Timestamp where
  date : Date
  time : Time
deriving DecidableEq

namespace Date

instance : Repr Date where
  reprPrec date _ := repr (date.year, date.month, date.day)

/-- The date with the given parts, if it exists. -/
def make? (year : Int) (month day : Nat) : Option Date :=
  if valid : Exists year month day then some ⟨year, month, day, valid⟩ else none

/-- The first date. -/
def first : Date := ⟨-9999, 1, 1, by decide⟩

/-- Year, month and day between hyphens; the year has four digits and a minus
in front when it is negative. -/
def text (date : Date) : String :=
  (if date.year < 0 then "-" else "") ++ Text.padded 4 date.year.natAbs ++ "-" ++
    Text.padded 2 date.month ++ "-" ++ Text.padded 2 date.day

end Date

namespace Time

instance : Repr Time where
  reprPrec time _ := repr (time.hour, time.minute, time.second, time.nanosecond)

/-- The time with the given parts, if it exists. -/
def make? (hour minute second nanosecond : Nat) : Option Time :=
  if valid : Exists hour minute second nanosecond then
    some ⟨hour, minute, second, nanosecond, valid⟩
  else none

/-- The first time of a day. -/
def midnight : Time := ⟨0, 0, 0, 0, by decide⟩

/-- The digits of a fraction of a second: nine of them without the trailing
zeros, but at least one. -/
def fractionText (nanosecond : Nat) : String :=
  let digits := (Text.padded 9 nanosecond).toList
  match (digits.reverse.dropWhile (· == '0')).reverse with
  | [] => "0"
  | kept => String.ofList kept

/-- Minute, second and fraction of a time. -/
def lowerText (time : Time) : String :=
  ":" ++ Text.padded 2 time.minute ++ ":" ++ Text.padded 2 time.second ++ "." ++
    fractionText time.nanosecond

/-- The time as people write it: the hour has no leading zero. -/
def text (time : Time) : String :=
  toString time.hour ++ time.lowerText

/-- The time as columns store it: the hour has two digits. -/
def columnText (time : Time) : String :=
  Text.padded 2 time.hour ++ time.lowerText

end Time

namespace Timestamp

instance : Repr Timestamp where
  reprPrec timestamp _ := repr (timestamp.date, timestamp.time)

/-- The first moment of the first date. -/
def first : Timestamp := ⟨Date.first, Time.midnight⟩

/-- The date and the time as people write them. -/
def text (timestamp : Timestamp) : String :=
  timestamp.date.text ++ " " ++ timestamp.time.text

/-- The date and the time as columns store them. -/
def columnText (timestamp : Timestamp) : String :=
  timestamp.date.text ++ " " ++ timestamp.time.columnText

end Timestamp

end RecordMapping
