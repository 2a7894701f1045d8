/-
Module: RecordMapping.Sqlite.Datum
Purpose: The storage classes of SQLite, and the cells read from them.
Main exports: Datum, Datum.toValue, Datum.numeric, Datum.compare, Datum.equals
-/
import RecordMapping.Sqlite.Fault

namespace RecordMapping.Sqlite

/-!
SQLite knows five storage classes.  A datum read back is a cell of the widest
column type of its class, and the `NULL` of no type in particular.

Not-a-number is held as `NULL`, so no stored number is without place in the
order of numbers.
-/

/-- A stored value. -/
inductive Datum where
  | null
  | integer (number : IntType.int64.Number)
  | real (number : Binary64)
  | text (content : String)
  | blob (bytes : List UInt8)
deriving Repr, DecidableEq

namespace Datum

instance : Inhabited Datum := ⟨.null⟩

/-- A floating-point number, or `NULL` for not-a-number. -/
def ofReal (number : Binary64) : Datum :=
  match number with
  | .nan => .null
  | number => .real number

/-- What a datum is read as. -/
def toValue : Datum → Value
  | .null => .null
  | .integer number => .integer .int64 (some number)
  | .real number => .float64 (some number)
  | .text content => .varchar (some content)
  | .blob bytes => .blob (some bytes)

/-- The place of a storage class in the order of all data. -/
def rank : Datum → Nat
  | .null => 0
  | .integer _ | .real _ => 1
  | .text _ => 2
  | .blob _ => 3

/-- A floating-point number in units of the least positive one; an infinity
stands one step beyond the greatest finite number. -/
def realUnits : Binary64 → Int
  | .nan => 0
  | .finite negative code =>
      (if negative then -1 else 1) * Binary.units .double code
  | .infinite negative =>
      (if negative then -1 else 1) * Binary.units .double (BinaryFormat.finiteCodes .double)

/-- A number in units of the least positive floating-point number. -/
def units : Datum → Int
  | .integer number => number.val * Nat.pow 2 (BinaryFormat.depth .double)
  | .real number => realUnits number
  | _ => 0

/-- The order of data: first by class, then numbers by value, text and bytes
by their bytes. -/
def compare (first second : Datum) : Ordering :=
  (Ord.compare first.rank second.rank).then
    (match first, second with
      | .text one, .text two => compareOfLessAndEq one two
      | .blob one, .blob two => compareOfLessAndEq one two
      | one, two => Ord.compare one.units two.units)

/-- Whether two data are equal as in a condition: `NULL` equals nothing. -/
def equals (first second : Datum) : Bool :=
  first != .null && second != .null && first.compare second == .eq

/-- The integer with the value of a floating-point number, if it is one that
is stored as an integer. -/
def wholeOf? (number : Binary64) : Option IntType.int64.Number :=
  let one : Int := Nat.pow 2 (BinaryFormat.depth .double)
  let units := realUnits number
  if number.isFinite && units % one == 0 then
    let whole := units / one
    if IntType.int64.least < whole ∧ whole < IntType.int64.greatest then
      IntType.int64.ofInt? whole
    else none
  else none

/-- What may stand around a numeral. -/
def isSpace (character : Char) : Bool :=
  character ∈ [' ', '\t', '\n', '\x0b', '\x0c', '\r']

/-- The characters of decimal numerals. -/
def isNumeralCharacter (character : Char) : Bool :=
  character.isDigit || character ∈ ['+', '-', '.', 'e', 'E']

/-- The number that a text is a numeral of. -/
def numberOfText? (content : String) : Option Datum :=
  let characters :=
    ((content.toList.dropWhile isSpace).reverse.dropWhile isSpace).reverse
  let text := String.ofList characters
  match IntType.int64.parse text with
  | .ok number => some (.integer number)
  | .error _ =>
      if characters.all isNumeralCharacter then
        (Binary.parse .double text).map fun number =>
          match wholeOf? number with
          | some whole => .integer whole
          | none => .real number
      else none

/-- A datum under numeric affinity: a text that is a numeral becomes its
number, and a whole floating-point number becomes an integer. -/
def numeric : Datum → Datum
  | .text content => (numberOfText? content).getD (.text content)
  | .real number => ((wholeOf? number).map .integer).getD (.real number)
  | datum => datum

/-- A datum as the key of a row: an integer under numeric affinity. -/
def toKey (datum : Datum) : Except Fault IntType.int64.Number :=
  match datum.numeric with
  | .integer key => .ok key
  | _ => .error .keyType

end Datum

end RecordMapping.Sqlite
