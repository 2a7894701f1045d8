/-
Module: RecordMapping.Sqlite.Binding
Purpose: Cells as they are handed to SQLite, and what SQLite holds of them.
Main exports: Binding, Binding.ofValue, narrowed, Holding, holdWithin, Refusal, bindValue,
  Datum.ofValue
-/
import RecordMapping.Sqlite.Datum

namespace RecordMapping.Sqlite

/-!
A cell is handed over in the class that loses least: truth values become
integers, decimals become floating-point numbers, moments and identifiers become
text.  Beside a text or bytes the engine is told how many bytes to take.  That
number is passed in 32 bits with a sign, so the size of a content from two
gigabytes on is not the number that the engine sees.

What the engine holds of a parameter is its own affair, and it may refuse one.
SQLite takes as many bytes as it is told, up to the first nul character if it is
told a negative number, and refuses what is longer than its limit on lengths.
-/

/-- A cell as it is handed over; a text and bytes with the number of bytes that
the engine is told. -/
inductive Binding where
  | null
  | integer (number : IntType.int64.Number)
  | real (number : Binary64)
  | text (content : String) (length : Int)
  | blob (bytes : List UInt8) (length : Int)
deriving Repr, DecidableEq

/-- The least size that 32 bits with a sign cannot hold: two gigabytes. -/
def firstUntold : Nat := 2147483648

/-- A size as a signed number of 32 bits. -/
def narrowed (size : Nat) : Int := Int.bmod size (2 * firstUntold)

namespace Binding

/-- A truth value as one or zero. -/
def ofFlag (flag : Bool) : Binding :=
  .integer (if flag then ⟨1, by decide⟩ else ⟨0, by decide⟩)

/-- A text with its size. -/
def ofText (content : String) : Binding := .text content (narrowed content.utf8ByteSize)

/-- Bytes with their number. -/
def ofBytes (bytes : List UInt8) : Binding := .blob bytes (narrowed bytes.length)

/-- How a cell is handed over.  Only an integer beyond the signed 64-bit range
cannot be, which is the error. -/
def ofValue : Value → Except Int Binding
  | .boolean (some flag) => .ok (ofFlag flag)
  | .integer _ (some number) =>
      match IntType.int64.ofInt? number.val with
      | some held => .ok (.integer held)
      | none => .error number.val
  | .float32 (some number) => .ok (.real (number.convert .double))
  | .float64 (some number) => .ok (.real number)
  | .decimal (some number) => .ok (.real number.toDouble)
  | .varchar (some content) => .ok (ofText content)
  | .blob (some bytes) => .ok (ofBytes bytes)
  | .date (some day) => .ok (ofText day.text)
  | .time (some clock) => .ok (ofText clock.columnText)
  | .timestamp (some moment) => .ok (ofText moment.columnText)
  | .uuid (some identifier) => .ok (ofText identifier.text)
  | _ => .ok .null

end Binding

/-- What an engine holds of a parameter from then on, or why it refuses it. -/
abbrev Holding := Binding → Except String Datum

/-- The number of bytes in front of the first nul character, if there is one. -/
def nulPosition? (text : String) : Option Nat :=
  let (before, rest) := text.toList.span (· != '\x00')
  if rest.isEmpty then none else some (String.ofList before).utf8ByteSize

/-- The first bytes of a text, as a text; a character that is cut through is read
as the replacement character. -/
def leadingText (content : String) (count : Nat) : String :=
  if content.utf8ByteSize ≤ count then content
  else
    let whole := Text.cutAt content count
    if whole.utf8ByteSize = count then whole else whole.push '\uFFFD'

/-- The refusal of a length beyond the limit. -/
def tooBig : String := "string or blob too big"

/-- What SQLite holds under a limit on lengths.  It is undefined for bytes of
which it is told a negative number; they are refused here. -/
def holdWithin (limit : Nat) : Holding
  | .null => .ok .null
  | .integer number => .ok (.integer number)
  | .real number => .ok (.ofReal number)
  | .text content length =>
      let taken :=
        if length < 0 then (nulPosition? content).getD content.utf8ByteSize
        else length.toNat
      if limit < taken then .error tooBig else .ok (.text (leadingText content taken))
  | .blob bytes length =>
      if length < 0 ∨ limit < length.toNat then .error tooBig
      else .ok (.blob (bytes.take length.toNat))

/-- The limit that SQLite has unless it is built with another one. -/
def lengthLimit : Nat := 1000000000

/-- Why a parameter cannot be bound. -/
inductive Refusal where
  /-- An integer that no storage class has. -/
  | tooLarge (number : Int)
  /-- The engine refuses it, with its own words. -/
  | unheld (reason : String)
deriving Repr, DecidableEq

/-- The fault of a parameter at an index, which counts from one. -/
def Refusal.fault (index : Nat) : Refusal → Fault
  | .tooLarge number => .tooLarge number
  | .unheld reason => .unbound index reason

/-- What an engine holds of a cell that is bound to a parameter. -/
def bindValue (hold : Holding) (value : Value) : Except Refusal Datum :=
  match Binding.ofValue value with
  | .error number => .error (.tooLarge number)
  | .ok binding =>
      match hold binding with
      | .error reason => .error (.unheld reason)
      | .ok datum => .ok datum

/-- What SQLite holds of a cell. -/
def Datum.ofValue (value : Value) : Except Refusal Datum :=
  bindValue (holdWithin lengthLimit) value

end RecordMapping.Sqlite
