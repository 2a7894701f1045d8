/-
Module: RecordMapping.Calendar.Reading
Purpose: Dates, times and timestamps read from the texts that columns hold.
Main exports: Date.parse, TimeForm, Time.parse, Timestamp.forms, Timestamp.parse
-/
import RecordMapping.Calendar

namespace RecordMapping

/-!
Every field has a fixed number of digits except the fraction of a second, and
nothing may follow the last field.  A time may stop after its minute or its
second.  A timestamp has a blank or a `T` between date and time; the form that
stops after the minute is only read after a blank.
-/

/-- A number of exactly `count` digits at the front of a text. -/
def fixedDigits (count : Nat) (text : List Char) : Option (Nat × List Char) :=
  if text.length < count then none
  else (Text.digits? (text.take count)).map fun digits =>
    (Text.natOfDigits 10 digits, text.drop count)

/-- The text after a mark that it has to begin with. -/
def expectMark (mark : Char) : List Char → Option (List Char)
  | [] => none
  | character :: rest => if character = mark then some rest else none

namespace Date

/-- A year at the front of a text: an optional sign and four digits. -/
def readYear : List Char → Option (Int × List Char)
  | '-' :: rest => (fixedDigits 4 rest).map fun (year, rest) => (-(year : Int), rest)
  | '+' :: rest => (fixedDigits 4 rest).map fun (year, rest) => ((year : Int), rest)
  | text => (fixedDigits 4 text).map fun (year, rest) => ((year : Int), rest)

/-- A date at the front of a text. -/
def read (text : List Char) : Option (Date × List Char) := do
  let (year, rest) ← readYear text
  let (month, rest) ← fixedDigits 2 (← expectMark '-' rest)
  let (day, rest) ← fixedDigits 2 (← expectMark '-' rest)
  let date ← make? year month day
  return (date, rest)

/-- The date that a text denotes. -/
def parse (text : String) : Option Date :=
  match read text.toList with
  | some (date, []) => some date
  | _ => none

end Date

/-- The last field that a time is written with. -/
inductive TimeForm where
  | fraction
  | second
  | minute
deriving Repr, DecidableEq

namespace Time

/-- The nanoseconds of the digits after the point: the first nine count, as
if followed by zeros, and there are at most 32. -/
def readFraction (text : List Char) : Option Nat :=
  if text.isEmpty || 32 < text.length then none
  else (Text.digits? text).map fun digits =>
    Text.natOfDigits 10 ((digits ++ List.replicate 9 0).take 9)

/-- A whole text read as a time of the given form. -/
def readForm (form : TimeForm) (text : List Char) : Option Time := do
  let (hour, rest) ← fixedDigits 2 text
  let (minute, rest) ← fixedDigits 2 (← expectMark ':' rest)
  match form with
  | .minute => if rest.isEmpty then make? hour minute 0 0 else none
  | .second =>
      let (second, rest) ← fixedDigits 2 (← expectMark ':' rest)
      if rest.isEmpty then make? hour minute second 0 else none
  | .fraction =>
      let (second, rest) ← fixedDigits 2 (← expectMark ':' rest)
      let nanosecond ← readFraction (← expectMark '.' rest)
      make? hour minute second nanosecond

/-- The forms in which a time may be written. -/
def forms : List TimeForm := [.fraction, .second, .minute]

/-- The time that a text denotes. -/
def parse (text : String) : Option Time :=
  forms.findSome? fun form => readForm form text.toList

end Time

namespace Timestamp

/-- The separators and times with which a timestamp may be written. -/
def forms : List (Char × TimeForm) :=
  [(' ', .fraction), ('T', .fraction), (' ', .second), ('T', .second), (' ', .minute)]

/-- A whole text read as a timestamp of the given form. -/
def readForm (separator : Char) (form : TimeForm) (text : List Char) :
    Option Timestamp := do
  let (date, rest) ← Date.read text
  let time ← Time.readForm form (← expectMark separator rest)
  return ⟨date, time⟩

/-- The timestamp that a text denotes. -/
def parse (text : String) : Option Timestamp :=
  forms.findSome? fun (separator, form) => readForm separator form text.toList

end Timestamp

end RecordMapping
