/-
Module: RecordMapping.Proofs.TimestampReading
Purpose: Which texts are dates, times and timestamps, and that a timestamp is a date and a
  time with a separator between them.
Main exports: Date.parse_eq_some_iff, Time.parse_eq_some_iff, Timestamp.parse_halves_iff,
  timestamp_reads_date_and_time
-/
import Mathlib.Data.List.Basic
import RecordMapping.Proofs.CalendarReading
import RecordMapping.Proofs.IntegerReading
import RecordMapping.Value.Conversion

namespace RecordMapping

/-!
A date and a time are written in fields of digits with marks between them, and what is read
is exactly what is written so.  The blank and the `T` of a timestamp are no marks of either
half, so there is one place to part it; and the colons and points of a time tell its last
field, so that the order in which the forms are tried does not matter.
-/

/-! ### Fields -/

namespace Text

/-- Digits, so many of them, and the number that they denote. -/
structure FixedNumeral (count : Nat) (digits : List Char) (number : Nat) : Prop where
  length : digits.length = count
  decimal : ∀ character ∈ digits, character.isDigit = true
  value : Nat.ofDigitChars 10 digits 0 = number

theorem digits?_eq_some_iff {characters : List Char} {values : List Nat} :
    digits? characters = some values ↔
      (∀ character ∈ characters, character.isDigit = true) ∧
        characters.map digitValue = values := by
  constructor
  · intro read
    have decimal : ∀ character ∈ characters, character.isDigit = true := by
      intro character member
      by_contra other
      have unread := IntType.digitValue?_of_not_isDigit (by simpa using other)
      obtain ⟨front, back, rfl⟩ := List.append_of_mem member
      simp [digits?, unread] at read
    rw [digits?_eq_some decimal] at read
    exact ⟨decimal, Option.some.inj read⟩
  · rintro ⟨decimal, rfl⟩
    exact digits?_eq_some decimal

end Text

theorem fixedDigits_eq_some_iff {count number : Nat} {text rest : List Char} :
    fixedDigits count text = some (number, rest) ↔
      ∃ digits, Text.FixedNumeral count digits number ∧ text = digits ++ rest := by
  constructor
  · intro read
    rw [fixedDigits] at read
    split at read
    · cases read
    · rename_i enough
      obtain ⟨values, digits, same⟩ := Option.map_eq_some_iff.mp read
      obtain ⟨decimal, rfl⟩ := Text.digits?_eq_some_iff.mp digits
      obtain ⟨rfl, rfl⟩ := Prod.mk.inj same
      refine ⟨text.take count, ⟨?_, decimal, (Text.natOfDigits_map _).symm⟩,
        (List.take_append_drop count text).symm⟩
      rw [List.length_take]
      omega
  · rintro ⟨digits, ⟨rfl, decimal, rfl⟩, rfl⟩
    rw [fixedDigits, if_neg (by simp), List.take_left, List.drop_left,
      Text.digits?_eq_some decimal, Option.map_some, Text.natOfDigits_map]

theorem expectMark_eq_some_iff {mark : Char} {text rest : List Char} :
    expectMark mark text = some rest ↔ text = mark :: rest := by
  cases text with
  | nil => simp [expectMark]
  | cons first others => simp [expectMark, eq_comm]

/-! ### Dates -/

namespace Date

/-- Four digits behind an optional sign, and the year that they denote. -/
inductive YearNumeral : List Char → Int → Prop
  | plain {digits : List Char} {number : Nat} (numeral : Text.FixedNumeral 4 digits number) :
      YearNumeral digits number
  | plus {digits : List Char} {number : Nat} (numeral : Text.FixedNumeral 4 digits number) :
      YearNumeral ('+' :: digits) number
  | minus {digits : List Char} {number : Nat} (numeral : Text.FixedNumeral 4 digits number) :
      YearNumeral ('-' :: digits) (-(number : Int))

/-- The texts in which a date may be written. -/
inductive SpelledBy (date : Date) : List Char → Prop
  | fields {year month day : List Char} (inYear : YearNumeral year date.year)
      (inMonth : Text.FixedNumeral 2 month date.month)
      (inDay : Text.FixedNumeral 2 day date.day) :
      SpelledBy date (year ++ '-' :: (month ++ '-' :: day))

theorem readYear_eq_some_iff {year : Int} {text rest : List Char} :
    readYear text = some (year, rest) ↔
      ∃ front, YearNumeral front year ∧ text = front ++ rest := by
  constructor
  · intro read
    have unsigned (signed : Nat → Int) {text : List Char}
        (read : (fixedDigits 4 text).map (fun found => (signed found.1, found.2)) =
          some (year, rest)) :
        ∃ digits number, Text.FixedNumeral 4 digits number ∧ signed number = year ∧
          text = digits ++ rest := by
      obtain ⟨⟨number, behind⟩, parted, same⟩ := Option.map_eq_some_iff.mp read
      obtain ⟨digits, numeral, rfl⟩ := fixedDigits_eq_some_iff.mp parted
      obtain ⟨inYear, rfl⟩ := Prod.mk.inj same
      exact ⟨digits, number, numeral, inYear, rfl⟩
    unfold readYear at read
    split at read
    · obtain ⟨digits, number, numeral, rfl, rfl⟩ := unsigned (fun number => -number) read
      exact ⟨_, .minus numeral, rfl⟩
    · obtain ⟨digits, number, numeral, rfl, rfl⟩ := unsigned Nat.cast read
      exact ⟨_, .plus numeral, rfl⟩
    · obtain ⟨digits, number, numeral, rfl, rfl⟩ := unsigned Nat.cast read
      exact ⟨_, .plain numeral, rfl⟩
  · rintro ⟨front, spelled, rfl⟩
    cases spelled with
    | plain numeral =>
        have read := fixedDigits_eq_some_iff.mpr ⟨front, numeral, (rfl : _ = front ++ rest)⟩
        obtain ⟨first, others, rfl⟩ :=
          List.exists_cons_of_length_eq_add_one numeral.length
        rw [List.cons_append, readYear_of_digit (numeral.decimal _ List.mem_cons_self),
          ← List.cons_append, read, Option.map_some]
    | plus numeral | minus numeral =>
        rw [List.cons_append, readYear, fixedDigits_eq_some_iff.mpr ⟨_, numeral, rfl⟩,
          Option.map_some]

theorem make?_eq_some_iff {year : Int} {month day : Nat} {date : Date} :
    make? year month day = some date ↔
      date.year = year ∧ date.month = month ∧ date.day = day := by
  constructor
  · intro made
    unfold make? at made
    split at made
    · cases made
      exact ⟨rfl, rfl, rfl⟩
    · cases made
  · rintro ⟨rfl, rfl, rfl⟩
    exact make?_of_valid date

/-- A date is read exactly where it is written at the front of a text. -/
theorem read_eq_some_iff {date : Date} {text rest : List Char} :
    read text = some (date, rest) ↔ ∃ front, date.SpelledBy front ∧ text = front ++ rest := by
  simp only [read, Option.bind_eq_bind, Option.bind_eq_some_iff, Prod.exists,
    readYear_eq_some_iff, expectMark_eq_some_iff, fixedDigits_eq_some_iff, make?_eq_some_iff]
  constructor
  · rintro ⟨_, _, ⟨year, inYear, rfl⟩, _, rfl, _, _, ⟨month, inMonth, rfl⟩, _, rfl, _, _,
      ⟨day, inDay, rfl⟩, _, ⟨rfl, rfl, rfl⟩, same⟩
    obtain ⟨rfl, rfl⟩ := Prod.mk.inj (Option.some.inj same)
    exact ⟨_, .fields inYear inMonth inDay, by simp⟩
  · rintro ⟨_, ⟨inYear, inMonth, inDay⟩, rfl⟩
    exact ⟨_, _, ⟨_, inYear, List.append_assoc _ _ _⟩, _, rfl, _, _,
      ⟨_, inMonth, List.append_assoc _ _ _⟩, _, rfl, _, _, ⟨_, inDay, rfl⟩, date,
      ⟨rfl, rfl, rfl⟩, rfl⟩

theorem parse_eq_some_iff {date : Date} {text : String} :
    parse text = some date ↔ date.SpelledBy text.toList := by
  have whole : read text.toList = some (date, []) ↔ date.SpelledBy text.toList := by
    simp only [read_eq_some_iff, List.append_nil, exists_eq_right']
  rw [← whole, parse]
  split
  · rename_i found read
    simp [read]
  · rename_i other
    refine iff_of_false (fun found => ?_) (other date)
    cases found

end Date

/-! ### Times -/

namespace Time

/-- The texts in which a time may be written, by the last field that is written. -/
inductive SpelledBy (time : Time) : TimeForm → List Char → Prop
  | minute {hour minute : List Char} (inHour : Text.FixedNumeral 2 hour time.hour)
      (inMinute : Text.FixedNumeral 2 minute time.minute) (atSecond : time.second = 0)
      (atNanosecond : time.nanosecond = 0) :
      SpelledBy time .minute (hour ++ ':' :: minute)
  | second {hour minute second : List Char} (inHour : Text.FixedNumeral 2 hour time.hour)
      (inMinute : Text.FixedNumeral 2 minute time.minute)
      (inSecond : Text.FixedNumeral 2 second time.second) (atNanosecond : time.nanosecond = 0) :
      SpelledBy time .second (hour ++ ':' :: (minute ++ ':' :: second))
  | fraction {hour minute second fraction : List Char}
      (inHour : Text.FixedNumeral 2 hour time.hour)
      (inMinute : Text.FixedNumeral 2 minute time.minute)
      (inSecond : Text.FixedNumeral 2 second time.second)
      (inFraction : readFraction fraction = some time.nanosecond) :
      SpelledBy time .fraction (hour ++ ':' :: (minute ++ ':' :: (second ++ '.' :: fraction)))

theorem make?_eq_some_iff {hour minute second nanosecond : Nat} {time : Time} :
    make? hour minute second nanosecond = some time ↔
      time.hour = hour ∧ time.minute = minute ∧ time.second = second ∧
        time.nanosecond = nanosecond := by
  constructor
  · intro made
    unfold make? at made
    split at made
    · cases made
      exact ⟨rfl, rfl, rfl, rfl⟩
    · cases made
  · rintro ⟨rfl, rfl, rfl, rfl⟩
    exact make?_of_valid time

/-- A text is read as a time exactly if it is written so. -/
theorem readForm_eq_some_iff {form : TimeForm} {time : Time} {text : List Char} :
    readForm form text = some time ↔ time.SpelledBy form text := by
  cases form <;>
    simp only [readForm, Option.bind_eq_bind, Option.bind_eq_some_iff, Prod.exists,
      expectMark_eq_some_iff, fixedDigits_eq_some_iff, Option.ite_none_right_eq_some,
      List.isEmpty_iff, make?_eq_some_iff]
  case minute =>
    constructor
    · rintro ⟨_, _, ⟨hour, inHour, rfl⟩, _, rfl, _, _, ⟨minute, inMinute, rfl⟩, rfl, rfl, rfl,
        atSecond, atNanosecond⟩
      rw [List.append_nil]
      exact .minute inHour inMinute atSecond atNanosecond
    · intro spelled
      obtain ⟨inHour, inMinute, atSecond, atNanosecond⟩ := spelled
      exact ⟨_, _, ⟨_, inHour, rfl⟩, _, rfl, _, _, ⟨_, inMinute, (List.append_nil _).symm⟩,
        rfl, rfl, rfl, atSecond, atNanosecond⟩
  case second =>
    constructor
    · rintro ⟨_, _, ⟨hour, inHour, rfl⟩, _, rfl, _, _, ⟨minute, inMinute, rfl⟩, _, rfl, _, _,
        ⟨second, inSecond, rfl⟩, rfl, rfl, rfl, rfl, atNanosecond⟩
      rw [List.append_nil]
      exact .second inHour inMinute inSecond atNanosecond
    · intro spelled
      obtain - | ⟨inHour, inMinute, inSecond, atNanosecond⟩ := spelled
      exact ⟨_, _, ⟨_, inHour, rfl⟩, _, rfl, _, _, ⟨_, inMinute, rfl⟩, _, rfl, _, _,
        ⟨_, inSecond, (List.append_nil _).symm⟩, rfl, rfl, rfl, rfl, atNanosecond⟩
  case fraction =>
    constructor
    · rintro ⟨_, _, ⟨hour, inHour, rfl⟩, _, rfl, _, _, ⟨minute, inMinute, rfl⟩, _, rfl, _, _,
        ⟨second, inSecond, rfl⟩, _, rfl, _, inFraction, rfl, rfl, rfl, rfl⟩
      exact .fraction inHour inMinute inSecond inFraction
    · intro spelled
      obtain - | - | ⟨inHour, inMinute, inSecond, inFraction⟩ := spelled
      exact ⟨_, _, ⟨_, inHour, rfl⟩, _, rfl, _, _, ⟨_, inMinute, rfl⟩, _, rfl, _, _,
        ⟨_, inSecond, rfl⟩, _, rfl, _, inFraction, rfl, rfl, rfl, rfl⟩

end Time

/-! ### Marks -/

theorem Text.FixedNumeral.notMem {count number : Nat} {digits : List Char} {mark : Char}
    (numeral : Text.FixedNumeral count digits number) (other : mark.isDigit = false) :
    mark ∉ digits := by
  intro member
  rw [numeral.decimal mark member] at other
  cases other

theorem Time.notMem_of_readFraction {text : List Char} {nanosecond : Nat} (mark : Char)
    (read : readFraction text = some nanosecond) (other : mark.isDigit = false) :
    mark ∉ text := by
  unfold readFraction at read
  split at read
  · cases read
  · obtain ⟨values, digits, -⟩ := Option.map_eq_some_iff.mp read
    intro member
    rw [(Text.digits?_eq_some_iff.mp digits).1 mark member] at other
    cases other

namespace TimeForm

/-- The colons of a time. -/
def colons : TimeForm → Nat
  | .minute => 1
  | .second | .fraction => 2

/-- The points of a time. -/
def points : TimeForm → Nat
  | .minute | .second => 0
  | .fraction => 1

theorem eq_of_marks {form other : TimeForm} :
    form.colons = other.colons → form.points = other.points → form = other := by
  cases form <;> cases other <;> decide

end TimeForm

namespace Date

variable {date other : Date} {text : List Char}

theorem YearNumeral.notMem {year : Int} {mark : Char} (numeral : YearNumeral text year)
    (undigit : mark.isDigit = false) (unsigned : mark ≠ '+' ∧ mark ≠ '-') : mark ∉ text := by
  cases numeral with
  | plain numeral => exact numeral.notMem undigit
  | plus numeral | minus numeral => simp [unsigned, numeral.notMem undigit]

/-- No date contains what separates it from a time. -/
theorem SpelledBy.unseparated (spelled : date.SpelledBy text) {separator : Char}
    (known : separator ∈ [' ', 'T']) : separator ∉ text := by
  obtain ⟨undigit, unsigned⟩ :
      separator.isDigit = false ∧ separator ≠ '+' ∧ separator ≠ '-' := by
    simp only [List.mem_cons, List.not_mem_nil, or_false] at known
    rcases known with rfl | rfl <;> decide
  obtain ⟨inYear, inMonth, inDay⟩ := spelled
  simp [inYear.notMem undigit unsigned, inMonth.notMem undigit, inDay.notMem undigit, unsigned]

theorem SpelledBy.ne_nil (spelled : date.SpelledBy text) : text ≠ [] := by
  obtain ⟨_, _, _⟩ := spelled
  simp

theorem SpelledBy.unique (spelled : date.SpelledBy text) (again : other.SpelledBy text) :
    date = other := by
  have read := read_eq_some_iff.mpr ⟨text, spelled, (List.append_nil text).symm⟩
  rw [read_eq_some_iff.mpr ⟨text, again, (List.append_nil text).symm⟩] at read
  exact (congrArg Prod.fst (Option.some.inj read)).symm

end Date

namespace Time

variable {time other : Time} {form otherForm : TimeForm} {text : List Char}

/-- No time contains what separates it from a date. -/
theorem SpelledBy.unseparated (spelled : time.SpelledBy form text) {separator : Char}
    (known : separator ∈ [' ', 'T']) : separator ∉ text := by
  obtain ⟨undigit, uncolon, unpoint⟩ :
      separator.isDigit = false ∧ separator ≠ ':' ∧ separator ≠ '.' := by
    simp only [List.mem_cons, List.not_mem_nil, or_false] at known
    rcases known with rfl | rfl <;> decide
  cases spelled with
  | minute inHour inMinute => simp [uncolon, inHour.notMem undigit, inMinute.notMem undigit]
  | second inHour inMinute inSecond =>
      simp [uncolon, inHour.notMem undigit, inMinute.notMem undigit, inSecond.notMem undigit]
  | fraction inHour inMinute inSecond inFraction =>
      simp [uncolon, unpoint, inHour.notMem undigit, inMinute.notMem undigit,
        inSecond.notMem undigit, notMem_of_readFraction separator inFraction undigit]

theorem SpelledBy.ne_nil (spelled : time.SpelledBy form text) : text ≠ [] := by
  cases spelled <;> simp

/-- The marks in a time tell its last field. -/
theorem SpelledBy.counts (spelled : time.SpelledBy form text) :
    text.count ':' = form.colons ∧ text.count '.' = form.points := by
  have unmarked {count number : Nat} {digits : List Char}
      (numeral : Text.FixedNumeral count digits number) :
      digits.count ':' = 0 ∧ digits.count '.' = 0 :=
    ⟨List.count_eq_zero.mpr (numeral.notMem rfl), List.count_eq_zero.mpr (numeral.notMem rfl)⟩
  cases spelled with
  | minute inHour inMinute =>
      simp [unmarked inHour, unmarked inMinute, TimeForm.colons, TimeForm.points]
  | second inHour inMinute inSecond =>
      simp [unmarked inHour, unmarked inMinute, unmarked inSecond, TimeForm.colons,
        TimeForm.points]
  | fraction inHour inMinute inSecond inFraction =>
      have colonless := List.count_eq_zero.mpr (notMem_of_readFraction ':' inFraction rfl)
      have pointless := List.count_eq_zero.mpr (notMem_of_readFraction '.' inFraction rfl)
      simp [unmarked inHour, unmarked inMinute, unmarked inSecond, colonless, pointless,
        TimeForm.colons, TimeForm.points]

theorem SpelledBy.form_unique (spelled : time.SpelledBy form text)
    (again : other.SpelledBy otherForm text) : form = otherForm := by
  obtain ⟨colons, points⟩ := spelled.counts
  rw [again.counts.1] at colons
  rw [again.counts.2] at points
  exact TimeForm.eq_of_marks colons.symm points.symm

theorem SpelledBy.unique (spelled : time.SpelledBy form text)
    (again : other.SpelledBy otherForm text) : time = other := by
  obtain rfl := spelled.form_unique again
  have read := readForm_eq_some_iff.mpr spelled
  rw [readForm_eq_some_iff.mpr again] at read
  exact (Option.some.inj read).symm

end Time

/-! ### Forms -/

/-- Where all candidates that find anything find the same, their order does not matter. -/
theorem findSome?_eq_some_iff_of_agree {α β : Type} {find : α → Option β} {candidates : List α}
    (agree : ∀ first second found other, find first = some found → find second = some other →
      found = other) {found : β} :
    candidates.findSome? find = some found ↔
      ∃ candidate ∈ candidates, find candidate = some found := by
  constructor
  · exact List.exists_of_findSome?_eq_some
  · rintro ⟨candidate, member, here⟩
    have succeeds : (candidates.findSome? find).isSome = true :=
      List.findSome?_isSome_iff.mpr ⟨candidate, member, by rw [here]; rfl⟩
    obtain ⟨other, first⟩ := Option.isSome_iff_exists.mp succeeds
    obtain ⟨earlier, -, there⟩ := List.exists_of_findSome?_eq_some first
    rw [first, agree _ _ _ _ here there]

theorem Time.parse_eq_some_iff {time : Time} {text : String} :
    parse text = some time ↔ ∃ form, time.SpelledBy form text.toList := by
  have every (form : TimeForm) : form ∈ forms := by cases form <;> decide
  rw [parse, findSome?_eq_some_iff_of_agree]
  · simp only [every, true_and, readForm_eq_some_iff]
  · intro _ _ _ _ here there
    exact (readForm_eq_some_iff.mp here).unique (readForm_eq_some_iff.mp there)

namespace Timestamp

variable {moment : Timestamp} {separator : Char} {form : TimeForm} {day clock : List Char}

theorem readForm_eq_some_iff {text : List Char} :
    readForm separator form text = some moment ↔
      ∃ day clock, moment.date.SpelledBy day ∧ moment.time.SpelledBy form clock ∧
        text = day ++ separator :: clock := by
  simp only [readForm, Option.bind_eq_bind, Option.bind_eq_some_iff, Prod.exists,
    Date.read_eq_some_iff, expectMark_eq_some_iff, Time.readForm_eq_some_iff]
  constructor
  · rintro ⟨date, _, ⟨day, dated, rfl⟩, clock, rfl, time, timed, same⟩
    obtain rfl := Option.some.inj same
    exact ⟨day, clock, dated, timed, rfl⟩
  · rintro ⟨day, clock, dated, timed, rfl⟩
    exact ⟨_, _, ⟨day, dated, rfl⟩, clock, rfl, _, timed, rfl⟩

/-- Neither half contains the separator, so that there is one place to part them. -/
theorem readForm_halves_iff (known : separator ∈ [' ', 'T']) {mark : Char} :
    readForm mark form (day ++ separator :: clock) = some moment ↔
      mark = separator ∧ moment.date.SpelledBy day ∧ moment.time.SpelledBy form clock := by
  rw [readForm_eq_some_iff]
  constructor
  · rintro ⟨front, back, dated, timed, whole⟩
    obtain ⟨rfl, rfl, rfl⟩ := (List.append_cons_inj_of_notMem (dated.unseparated known)
      (timed.unseparated known)).mp whole.symm
    exact ⟨rfl, dated, timed⟩
  · rintro ⟨rfl, dated, timed⟩
    exact ⟨day, clock, dated, timed, rfl⟩

theorem mem_forms_iff (known : separator ∈ [' ', 'T']) :
    (separator, form) ∈ forms ↔ separator = ' ' ∨ form.colons = 2 := by
  simp only [List.mem_cons, List.not_mem_nil, or_false] at known
  rcases known with rfl | rfl <;> cases form <;> decide

/-- A date and a time with a separator between them are read as the two are, except that a
time that stops after its minute is read behind a blank only. -/
theorem parse_halves_iff (known : separator ∈ [' ', 'T']) {text : String}
    (whole : text.toList = day ++ separator :: clock) :
    parse text = some moment ↔
      moment.date.SpelledBy day ∧ (∃ form, moment.time.SpelledBy form clock) ∧
        (separator = ' ' ∨ clock.count ':' = 2) := by
  rw [parse, whole, findSome?_eq_some_iff_of_agree]
  · simp only [Prod.exists, readForm_halves_iff known]
    constructor
    · rintro ⟨_, form, listed, rfl, dated, timed⟩
      rw [timed.counts.1]
      exact ⟨dated, ⟨form, timed⟩, (mem_forms_iff known).mp listed⟩
    · rintro ⟨dated, ⟨form, timed⟩, complete⟩
      rw [timed.counts.1] at complete
      exact ⟨separator, form, (mem_forms_iff known).mpr complete, rfl, dated, timed⟩
  · rintro ⟨_, _⟩ ⟨_, _⟩ ⟨date, time⟩ ⟨otherDate, otherTime⟩ here there
    obtain ⟨-, dated, timed⟩ := (readForm_halves_iff known).mp here
    obtain ⟨-, datedToo, timedToo⟩ := (readForm_halves_iff known).mp there
    exact congrArg₂ Timestamp.mk (dated.unique datedToo) (timed.unique timedToo)

end Timestamp

/-! ### Edges -/

namespace Text

theorem head_of_dropWhile {characters : List Char}
    (kept : characters.dropWhile isBlank = characters) :
    ∀ character ∈ characters.head?, isBlank character = false := by
  cases characters with
  | nil => nofun
  | cons first rest =>
      intro character front
      obtain rfl : first = character := by simpa using front
      by_contra blank
      rw [List.dropWhile_cons_of_pos (by simpa using blank)] at kept
      have shorter := List.length_dropWhile_le isBlank rest
      rw [kept, List.length_cons] at shorter
      omega

/-- A text that is kept by a trim neither begins nor ends with a blank. -/
theorem edges_of_trim {text : String} (trimmed : trim text = text) :
    (∀ character ∈ text.toList.head?, isBlank character = false) ∧
      ∀ character ∈ text.toList.getLast?, isBlank character = false := by
  have whole := congrArg String.toList trimmed
  rw [trim, toList_trimEnd, toList_trimStart] at whole
  have started : text.toList.dropWhile isBlank = text.toList := by
    apply (List.dropWhile_suffix isBlank).eq_of_length_le
    have shorter := List.length_dropWhile_le isBlank (text.toList.dropWhile isBlank).reverse
    rw [← List.length_reverse, whole, List.length_reverse] at shorter
    exact shorter
  have turned : text.toList.reverse.dropWhile isBlank = text.toList.reverse := by
    rw [started] at whole
    rw [← List.reverse_inj, whole, List.reverse_reverse]
  refine ⟨head_of_dropWhile started, ?_⟩
  rw [← List.head?_reverse]
  exact head_of_dropWhile turned

/-- Blanks around a text that is kept by a trim are all that a trim removes. -/
theorem trim_of_framed {text core : String} (framed : Framed text core.toList)
    (trimmed : trim core = core) : trim text = core := by
  obtain ⟨front, back, split, blankFront, blankBack⟩ := framed
  obtain ⟨head, last⟩ := edges_of_trim trimmed
  have turned : core.toList.reverse.dropWhile isBlank = core.toList.reverse := by
    apply dropWhile_of_head
    rwa [List.head?_reverse]
  have ended : (core.toList ++ back).reverse.dropWhile isBlank = core.toList.reverse := by
    rw [List.reverse_append, List.dropWhile_append_of_pos fun character member =>
      blankBack character (List.mem_reverse.mp member), turned]
  apply String.toList_injective
  rw [trim, toList_trimEnd, toList_trimStart, split, List.append_assoc,
    List.dropWhile_append_of_pos blankFront]
  by_cases empty : core.toList = []
  · rw [empty, List.nil_append, List.dropWhile_eq_nil_iff.mpr blankBack]
    rfl
  · have started : (core.toList ++ back).dropWhile isBlank = core.toList ++ back := by
      apply dropWhile_of_head
      rwa [List.head?_append_of_ne_nil _ empty]
    rw [started, ended, List.reverse_reverse]

end Text

namespace Value

variable {day clock : String} {separator : Char} {moment : Timestamp}

theorem convertible_eq_ok_iff {α : Type} {value : Value} {scalar : ScalarType}
    {found : Option α} {content : α} :
    value.convertible scalar found = .ok content ↔ found = some content := by
  cases found <;> simp [convertible, unconvertible]

theorem toList_halves :
    (day ++ String.singleton separator ++ clock).toList =
      day.toList ++ separator :: clock.toList := by
  simp

/-- A separator is removed by a trim if it is a blank next to an empty half, and kept
otherwise. -/
theorem trim_halves (dayTrimmed : Text.trim day = day) (clockTrimmed : Text.trim clock = clock)
    (known : separator ∈ [' ', 'T']) :
    Text.trim (day ++ String.singleton separator ++ clock) =
      if separator = ' ' ∧ (day = "" ∨ clock = "") then day ++ clock
      else day ++ String.singleton separator ++ clock := by
  split
  · rename_i outer
    have blank : ∀ character ∈ [' '], Text.isBlank character = true :=
      List.forall_mem_singleton.mpr rfl
    obtain ⟨rfl, rfl | rfl⟩ := outer
    · refine Text.trim_of_framed ⟨[' '], [], by simp, blank, nofun⟩ ?_
      simpa using clockTrimmed
    · refine Text.trim_of_framed ⟨[], [' '], by simp, nofun, blank⟩ ?_
      simpa using dayTrimmed
  · rename_i inner
    have edge (outer : day = "" ∨ clock = "") : Text.isBlank separator = false := by
      simp only [List.mem_cons, List.not_mem_nil, or_false] at known
      rcases known with rfl | rfl
      · exact absurd ⟨rfl, outer⟩ inner
      · decide
    apply Text.trim_of_edges
    · intro character first
      rw [toList_halves, List.head?_append] at first
      cases head : day.toList.head? with
      | none =>
          obtain rfl : separator = character := by simpa [head] using first
          exact edge (.inl (String.toList_eq_nil_iff.mp (List.head?_eq_none_iff.mp head)))
      | some here =>
          obtain rfl : here = character := by simpa [head] using first
          exact (Text.edges_of_trim dayTrimmed).1 here head
    · intro character last
      rw [toList_halves, List.getLast?_append, List.getLast?_cons, Option.some_or] at last
      cases final : clock.toList.getLast? with
      | none =>
          obtain rfl : separator = character := by simpa [final] using last
          exact edge (.inr (String.toList_eq_nil_iff.mp (List.getLast?_eq_none_iff.mp final)))
      | some here =>
          obtain rfl : here = character := by simpa [final] using last
          exact (Text.edges_of_trim clockTrimmed).2 here final

end Value

/-- Of a date and a time, with a blank or a `T` between them, a timestamp is read exactly if
both are read and, behind a `T`, the time has a second; and it is that date at that time.
Only where a half is empty next to a blank, which is trimmed then, the other half is read
by itself. -/
theorem timestamp_reads_date_and_time (day clock : String) (separator : Char)
    (moment : Timestamp) (dayTrimmed : Text.trim day = day)
    (clockTrimmed : Text.trim clock = clock) (known : separator ∈ [' ', 'T']) :
    (Value.varchar (some (day ++ String.singleton separator ++ clock))).toTimestamp = .ok moment ↔
      ((Value.varchar (some day)).toDate = .ok moment.date ∧
        (Value.varchar (some clock)).toTime = .ok moment.time ∧
          (separator = ' ' ∨ clock.toList.count ':' = 2)) ∨
      (separator = ' ' ∧ (day = "" ∨ clock = "") ∧
        (Value.varchar (some (day ++ clock))).toTimestamp = .ok moment) := by
  have trimmed := Value.trim_halves dayTrimmed clockTrimmed known
  simp only [Value.toTimestamp, Value.toDate, Value.toTime, Value.convertible_eq_ok_iff,
    dayTrimmed, clockTrimmed, trimmed, Date.parse_eq_some_iff, Time.parse_eq_some_iff]
  split
  · rename_i outer
    obtain ⟨rfl, empty⟩ := outer
    have alone : Text.trim (day ++ clock) = day ++ clock := by
      rcases empty with rfl | rfl
      · simpa using clockTrimmed
      · simpa using dayTrimmed
    have halfless : ¬ (moment.date.SpelledBy day.toList ∧
        (∃ form, moment.time.SpelledBy form clock.toList) ∧
          (' ' = ' ' ∨ clock.toList.count ':' = 2)) := by
      rintro ⟨dated, ⟨form, timed⟩, -⟩
      rcases empty with rfl | rfl
      · exact dated.ne_nil rfl
      · exact timed.ne_nil rfl
    rw [or_iff_right halfless, alone]
    exact ⟨fun read => ⟨rfl, empty, read⟩, fun read => read.2.2⟩
  · rename_i inner
    rw [Timestamp.parse_halves_iff known Value.toList_halves]
    exact (or_iff_left fun ⟨blank, empty, _⟩ => inner ⟨blank, empty⟩).symm

/-- A date and a time with a second, read together behind a `T`. -/
theorem timestamp_reads_date_and_time_behind_mark :
    let day := "2024-02-29"
    let clock := "10:20:30"
    let moment : Timestamp := ⟨⟨2024, 2, 29, by decide⟩, ⟨10, 20, 30, 0, by decide⟩⟩
    (Value.varchar (some (day ++ String.singleton 'T' ++ clock))).toTimestamp = .ok moment := by
  intro day clock moment
  have dated : (Value.varchar (some day)).toDate = .ok moment.date := by decide +kernel
  have timed : (Value.varchar (some clock)).toTime = .ok moment.time := by decide +kernel
  exact (timestamp_reads_date_and_time day clock 'T' moment (by decide +kernel)
    (by decide +kernel) (by decide)).mpr (.inl ⟨dated, timed, .inr (by decide +kernel)⟩)

/-- The date is read, and so is the time, but not the two of them with a `T` between. -/
theorem minute_time_unread_behind_mark :
    let day := "2024-03-01"
    let clock := "10:20"
    let whole := Value.varchar (some (day ++ String.singleton 'T' ++ clock))
    (Text.trim day = day ∧ Text.trim clock = clock) ∧
      (Value.varchar (some day)).toDate = .ok ⟨2024, 3, 1, by decide⟩ ∧
      (Value.varchar (some clock)).toTime = .ok ⟨10, 20, 0, 0, by decide⟩ ∧
      whole.toTimestamp = whole.unconvertible .timestamp := by
  intro day clock whole
  exact ⟨by decide +kernel, by decide +kernel, by decide +kernel, by decide +kernel⟩

end RecordMapping
