/-
Module: RecordMapping.Value
Purpose: The cells exchanged with a database.
Main exports: Value, Value.isNull, Value.isZero, Value.sameValue, Value.bytes?,
  Value.sqlName, Value.text
-/
import RecordMapping.Number.IntType
import RecordMapping.Number.Binary.Text
import RecordMapping.Number.Decimal.Binary
import RecordMapping.Calendar
import RecordMapping.Uuid
import RecordMapping.Text.Utf8

namespace RecordMapping

/-!
A cell knows its column type.  Under a type it holds a value or the `NULL` of
that type; an untyped `NULL` is what a database returns for an empty cell
whose type it does not know.
-/

/-- A dynamically typed cell. -/
inductive Value where
  | null
  | boolean (content : Option Bool)
  | integer (type : IntType) (content : Option type.Number)
  | float32 (content : Option Binary32)
  | float64 (content : Option Binary64)
  | decimal (content : Option Decimal)
  | varchar (content : Option String)
  | blob (content : Option (List UInt8))
  | date (content : Option Date)
  | time (content : Option Time)
  | timestamp (content : Option Timestamp)
  | uuid (content : Option Uuid)
deriving Repr, DecidableEq

namespace Value

instance : Inhabited Value := ⟨.null⟩

/-- Whether a cell is the untyped `NULL` or the `NULL` of a type. -/
def isNull : Value → Bool
  | .null => true
  | .boolean content => content.isNone
  | .integer _ content => content.isNone
  | .float32 content => content.isNone
  | .float64 content => content.isNone
  | .decimal content => content.isNone
  | .varchar content => content.isNone
  | .blob content => content.isNone
  | .date content => content.isNone
  | .time content => content.isNone
  | .timestamp content => content.isNone
  | .uuid content => content.isNone

/-- Whether a cell holds the zero of its type: a zero number, `false`, empty
text or bytes, the first date, midnight, the first timestamp or the nil
identifier.  A `NULL` is not zero. -/
def isZero : Value → Bool
  | .boolean (some flag) => !flag
  | .integer _ (some number) => number.val == 0
  | .float32 (some number) => number.isZero
  | .float64 (some number) => number.isZero
  | .decimal (some number) => number.isZero
  | .varchar (some text) => text.isEmpty
  | .blob (some bytes) => bytes.isEmpty
  | .date (some day) => day == Date.first
  | .time (some clock) => clock == Time.midnight
  | .timestamp (some moment) => moment == Timestamp.first
  | .uuid (some identifier) => identifier == Uuid.nil
  | _ => false

/-- Equality of two optional contents under an equality of contents. -/
def sameContent {α : Type} (same : α → α → Bool) : Option α → Option α → Bool
  | none, none => true
  | some first, some second => same first second
  | _, _ => false

/-- Equality of cells: the column types agree, and so do the contents as
numbers, texts or moments.  Cells of different types are never equal. -/
def sameValue : Value → Value → Bool
  | .null, .null => true
  | .boolean first, .boolean second => first == second
  | .integer firstType first, .integer secondType second =>
      firstType == secondType && first.map (·.val) == second.map (·.val)
  | .float32 first, .float32 second => sameContent Binary.sameNumber first second
  | .float64 first, .float64 second => sameContent Binary.sameNumber first second
  | .decimal first, .decimal second => sameContent Decimal.sameNumber first second
  | .varchar first, .varchar second => first == second
  | .blob first, .blob second => first == second
  | .date first, .date second => first == second
  | .time first, .time second => first == second
  | .timestamp first, .timestamp second => first == second
  | .uuid first, .uuid second => first == second
  | _, _ => false

/-- The bytes of a textual or binary cell that is not `NULL`. -/
def bytes? : Value → Option (List UInt8)
  | .varchar (some text) => some (Text.Utf8.encode text)
  | .blob (some bytes) => some bytes
  | _ => none

/-- The column type in SQL wording. -/
def sqlName : Value → String
  | .null => "NULL"
  | .boolean _ => "BOOLEAN"
  | .integer type _ => type.sqlName
  | .float32 _ => "FLOAT"
  | .float64 _ => "DOUBLE"
  | .decimal _ => "DECIMAL"
  | .varchar _ => "VARCHAR"
  | .blob _ => "BLOB"
  | .date _ => "DATE"
  | .time _ => "TIME"
  | .timestamp _ => "TIMESTAMP"
  | .uuid _ => "UUID"

/-- A cell as it is quoted in messages: text in quotes, bytes by their number,
any `NULL` as `nil`. -/
def text : Value → String
  | .boolean (some flag) => if flag then "true" else "false"
  | .integer _ (some number) => toString number.val
  | .float32 (some number) => number.text
  | .float64 (some number) => number.text
  | .decimal (some number) => number.text
  | .varchar (some content) => "'" ++ content ++ "'"
  | .blob (some bytes) => s!"<{bytes.length} bytes>"
  | .date (some day) => day.text
  | .time (some clock) => clock.text
  | .timestamp (some moment) => moment.text
  | .uuid (some identifier) => identifier.text
  | _ => "nil"

/-- A text as a cell. -/
def ofText (content : String) : Value := .varchar (some content)

/-- The number of an integer type with the given value, or its `NULL` when the
type does not hold it. -/
def ofInt (type : IntType) (number : Int) : Value :=
  .integer type (type.ofInt? number)

theorem isZero_eq_false_of_isNull {value : Value} (null : value.isNull = true) :
    value.isZero = false := by
  cases value with
  | null => rfl
  | integer type content =>
      cases content with
      | none => rfl
      | some content => simp [isNull] at null
  | _ content =>
      cases content with
      | none => rfl
      | some content => simp [isNull] at null

end Value

end RecordMapping
