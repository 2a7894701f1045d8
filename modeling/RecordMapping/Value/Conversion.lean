/-
Module: RecordMapping.Value.Conversion
Purpose: Typed contents of cells, and cells converted to a type.
Main exports: ScalarType, ScalarType.Content, ScalarType.toValue, ScalarType.nullValue,
  ScalarType.ofValue, ColumnType, ColumnType.convert
-/
import RecordMapping.Failure
import RecordMapping.Number.Decimal.Text
import RecordMapping.Calendar.Reading
import RecordMapping.Text.Column

namespace RecordMapping

/-!
Each scalar type has one column type that its contents are stored under.
Databases often report another one: every integer as the widest, every cell as
text.  A conversion therefore also accepts the neighbouring column types,
checks ranges and reads texts without the blanks around them.  A `NULL` only
converts to an optional type.
-/

/-- The types of single cells. -/
inductive ScalarType where
  | integer (type : IntType)
  | boolean
  | float32
  | float64
  | decimal
  | text
  | bytes
  | uuid
  | date
  | time
  | timestamp
deriving Repr, DecidableEq

namespace ScalarType

/-- The contents of a scalar type. -/
def Content : ScalarType → Type
  | .integer type => type.Number
  | .boolean => Bool
  | .float32 => Binary32
  | .float64 => Binary64
  | .decimal => Decimal
  | .text => String
  | .bytes => List UInt8
  | .uuid => Uuid
  | .date => Date
  | .time => Time
  | .timestamp => Timestamp

/-- The name of a type in messages. -/
def name : ScalarType → String
  | .integer type => type.name
  | .boolean => "bool"
  | .float32 => "f32"
  | .float64 => "f64"
  | .decimal => "rust_decimal::decimal::Decimal"
  | .text => "alloc::string::String"
  | .bytes => "alloc::boxed::Box<[u8]>"
  | .uuid => "uuid::Uuid"
  | .date => "time::date::Date"
  | .time => "time::time::Time"
  | .timestamp => "time::plain_date_time::PlainDateTime"

/-- An optional content under the column type of its scalar type. -/
def optionValue : (scalar : ScalarType) → Option scalar.Content → Value
  | .integer type, content => .integer type content
  | .boolean, content => .boolean content
  | .float32, content => .float32 content
  | .float64, content => .float64 content
  | .decimal, content => .decimal content
  | .text, content => .varchar content
  | .bytes, content => .blob content
  | .uuid, content => .uuid content
  | .date, content => .date content
  | .time, content => .time content
  | .timestamp, content => .timestamp content

/-- A content as a cell. -/
def toValue (scalar : ScalarType) (content : scalar.Content) : Value :=
  scalar.optionValue (some content)

/-- The `NULL` of a type. -/
def nullValue (scalar : ScalarType) : Value :=
  scalar.optionValue none

/-- The content a new record has before anything is stored in it. -/
def blank : (scalar : ScalarType) → scalar.Content
  | .integer type => type.zero
  | .boolean => false
  | .float32 => Binary.zero .single false
  | .float64 => Binary.zero .double false
  | .decimal => Decimal.zero
  | .text => ""
  | .bytes => []
  | .uuid => Uuid.nil
  | .date => Date.first
  | .time => Time.midnight
  | .timestamp => Timestamp.first

end ScalarType

namespace Value

/-- The failure of a cell that has no counterpart in a type. -/
def unconvertible {α : Type} (value : Value) (scalar : ScalarType) : Outcome α :=
  .error (.ofCause (.conversion value scalar.name))

/-- The content that was found, or the failure that there is none. -/
def convertible {α : Type} (value : Value) (scalar : ScalarType) :
    Option α → Outcome α
  | some content => .ok content
  | none => value.unconvertible scalar

/-- The number of an integer type that an integer denotes, range checked. -/
def integerInRange (type : IntType) (number : Int) : Outcome type.Number :=
  match type.ofInt? number with
  | some held => .ok held
  | none => .error (.ofCause (.outOfRange number type))

/-- A cell as a number of an integer type: any integer or truth value, a
decimal without fraction, or a numeral. -/
def toInteger (type : IntType) (value : Value) : Outcome type.Number :=
  match value with
  | .integer _ (some number) => integerInRange type number.val
  | .boolean (some flag) => integerInRange type flag.toNat
  | .decimal (some number) =>
      if number.isIntegral then integerInRange type number.whole
      else value.unconvertible (.integer type)
  | .varchar (some content) =>
      match type.parse (Text.trim content) with
      | .ok number => .ok number
      | .error fault =>
          .error ⟨[.parsing content type.name], .integerText fault⟩
  | _ => value.unconvertible (.integer type)

/-- The truth values that a text may denote, in any case. -/
def truthOfText (content : String) : Option Bool :=
  let word := Text.columnKey content
  if word = "true" ∨ word = "t" ∨ word = "1" then some true
  else if word = "false" ∨ word = "f" ∨ word = "0" then some false
  else none

/-- A cell as a truth value: an integer is true unless it is zero. -/
def toBoolean (value : Value) : Outcome Bool :=
  match value with
  | .boolean (some flag) => .ok flag
  | .integer _ (some number) => .ok (number.val != 0)
  | .varchar (some content) =>
      value.convertible .boolean (truthOfText (Text.trim content))
  | _ => value.unconvertible .boolean

/-- The scalar type of a floating-point format. -/
def scalarOfFormat : BinaryFormat → ScalarType
  | .single => .float32
  | .double => .float64

/-- A decimal in a floating-point format. -/
def decimalToBinary : (format : BinaryFormat) → Decimal → Binary format
  | .single, number => number.toSingle
  | .double, number => number.toDouble

/-- A cell as a floating-point number: any number, rounded, or a numeral. -/
def toBinary (format : BinaryFormat) (value : Value) : Outcome (Binary format) :=
  match value with
  | .float32 (some number) => .ok (number.convert format)
  | .float64 (some number) => .ok (number.convert format)
  | .integer _ (some number) => .ok (Binary.ofInt format number.val)
  | .decimal (some number) => .ok (decimalToBinary format number)
  | .varchar (some content) =>
      value.convertible (scalarOfFormat format)
        (Binary.parse format (Text.trim content))
  | _ => value.unconvertible (scalarOfFormat format)

/-- A cell as a decimal: any number that fits, or a numeral. -/
def toDecimal (value : Value) : Outcome Decimal :=
  match value with
  | .decimal (some number) => .ok number
  | .float32 (some number) => value.convertible .decimal (Decimal.ofBinary? number)
  | .float64 (some number) => value.convertible .decimal (Decimal.ofBinary? number)
  | .integer _ (some number) => value.convertible .decimal (Decimal.ofInt? number.val)
  | .varchar (some content) =>
      value.convertible .decimal (Decimal.parse (Text.trim content))
  | _ => value.unconvertible .decimal

/-- A cell as text: text as it is, bytes if they encode text. -/
def toText (value : Value) : Outcome String :=
  match value with
  | .varchar (some content) => .ok content
  | .blob (some bytes) =>
      match Text.Utf8.decode bytes with
      | .ok content => .ok content
      | .error fault => .error ⟨[.readingBlob], .utf8 fault⟩
  | _ => value.unconvertible .text

/-- A cell as bytes: bytes as they are, text encoded. -/
def toBytes (value : Value) : Outcome (List UInt8) :=
  match value with
  | .blob (some bytes) => .ok bytes
  | .varchar (some content) => .ok (Text.Utf8.encode content)
  | _ => value.unconvertible .bytes

/-- The identifier that was found, or the failure of a text or bytes that are
none, under the conversion that was attempted. -/
def identifierOr (value : Value) : Option Uuid → Outcome Uuid
  | some identifier => .ok identifier
  | none =>
      .error ⟨[.converting value ScalarType.uuid.name], .uuidText⟩

/-- A cell as an identifier: its text or its sixteen bytes. -/
def toUuid (value : Value) : Outcome Uuid :=
  match value with
  | .uuid (some identifier) => .ok identifier
  | .varchar (some content) => value.identifierOr (Uuid.parse (Text.trim content))
  | .blob (some bytes) => value.identifierOr (Uuid.ofBytes? bytes)
  | _ => value.unconvertible .uuid

/-- A cell as a date. -/
def toDate (value : Value) : Outcome Date :=
  match value with
  | .date (some day) => .ok day
  | .varchar (some content) =>
      value.convertible .date (Date.parse (Text.trim content))
  | _ => value.unconvertible .date

/-- A cell as a time of day. -/
def toTime (value : Value) : Outcome Time :=
  match value with
  | .time (some clock) => .ok clock
  | .varchar (some content) =>
      value.convertible .time (Time.parse (Text.trim content))
  | _ => value.unconvertible .time

/-- A cell as a timestamp. -/
def toTimestamp (value : Value) : Outcome Timestamp :=
  match value with
  | .timestamp (some moment) => .ok moment
  | .varchar (some content) =>
      value.convertible .timestamp (Timestamp.parse (Text.trim content))
  | _ => value.unconvertible .timestamp

end Value

namespace ScalarType

/-- A cell as a content of a type. -/
def ofValue : (scalar : ScalarType) → Value → Outcome scalar.Content
  | .integer type, value => value.toInteger type
  | .boolean, value => value.toBoolean
  | .float32, value => value.toBinary .single
  | .float64, value => value.toBinary .double
  | .decimal, value => value.toDecimal
  | .text, value => value.toText
  | .bytes, value => value.toBytes
  | .uuid, value => value.toUuid
  | .date, value => value.toDate
  | .time, value => value.toTime
  | .timestamp, value => value.toTimestamp

end ScalarType

/-- A scalar type, or the type that also has its `NULL`. -/
structure ColumnType where
  scalar : ScalarType
  optional : Bool
deriving Repr, DecidableEq

namespace ColumnType

/-- A cell converted to a column type: an optional type takes any `NULL`, and
every other cell is read as a content and stored under its own column type. -/
def convert (column : ColumnType) (value : Value) : Outcome Value :=
  if column.optional && value.isNull then .ok column.scalar.nullValue
  else (column.scalar.ofValue value).map column.scalar.toValue

/-- The cell of a new record: `NULL` where that is possible. -/
def blank (column : ColumnType) : Value :=
  if column.optional then column.scalar.nullValue
  else column.scalar.toValue column.scalar.blank

end ColumnType

end RecordMapping
