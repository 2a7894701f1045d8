/-
Module: RecordMapping.Sqlite.Fault
Purpose: What can go wrong between a script and an SQLite database.
Main exports: Fault, Fault.failure
-/
import RecordMapping.Failure

namespace RecordMapping.Sqlite

/-!
Most faults are found by the engine: while a statement is compiled, or while
it runs.  The others are found around it: a text that cannot be handed over, a
cell that no storage class holds, a number of parameters that does not agree
with the statements.
-/

/-- A fault of a script or of a database. -/
inductive Fault where
  /-- A statement cannot go on with a token. -/
  | unexpected (spelling : String)
  /-- A statement ends too early. -/
  | incomplete
  /-- Characters that begin no token. -/
  | unrecognized (spelling : String)
  /-- A table that is not there. -/
  | noTable (name : String)
  /-- A table that is there already. -/
  | tableExists (name : String)
  /-- A column that no table in reach has. -/
  | noColumn (name : String)
  /-- A column to insert that the table does not have. -/
  | noTargetColumn (table column : String)
  /-- More or fewer values than columns to insert. -/
  | valueCount (values columns : Nat)
  /-- All columns of nothing. -/
  | noSource
  /-- A second row with the same key. -/
  | duplicateKey (table column : String)
  /-- A key that is not an integer. -/
  | keyType
  /-- No key is left for another row. -/
  | full
  | alreadyInTransaction
  | nothingToCommit
  | nothingToRollBack
  /-- An integer that is too large to be stored. -/
  | tooLarge (number : Int)
  /-- A parameter that the engine refuses, in its words. -/
  | unbound (index : Nat) (reason : String)
  /-- Too few parameters for a statement. -/
  | missingParameters (expected : Nat)
  /-- Parameters that no statement takes. -/
  | unusedParameters (count : Nat)
  /-- A script with a nul character. -/
  | nulInScript (position : Nat)
deriving Repr, DecidableEq

/-- The wording for a nul character at a byte position of a text. -/
def nulMessage (position : Nat) : String :=
  s!"nul byte found in provided data at position: {position}"

namespace Fault

/-- The wording of a fault. -/
def message : Fault → String
  | .unexpected spelling => s!"near \"{spelling}\": syntax error"
  | .incomplete => "incomplete input"
  | .unrecognized spelling => s!"unrecognized token: \"{spelling}\""
  | .noTable name => s!"no such table: {name}"
  | .tableExists name => s!"table {name} already exists"
  | .noColumn name => s!"no such column: {name}"
  | .noTargetColumn table column => s!"table {table} has no column named {column}"
  | .valueCount values columns => s!"{values} values for {columns} columns"
  | .noSource => "no tables specified"
  | .duplicateKey table column => s!"UNIQUE constraint failed: {table}.{column}"
  | .keyType => "datatype mismatch"
  | .full => "database or disk is full"
  | .alreadyInTransaction => "cannot start a transaction within a transaction"
  | .nothingToCommit => "cannot commit - no transaction is active"
  | .nothingToRollBack => "cannot rollback - no transaction is active"
  | .tooLarge number =>
      s!"Cannot bind the value {number} into a sqlite integer because it's out of bounds"
  | .unbound _ reason => reason
  | .missingParameters expected =>
      s!"The query expects at least {expected} parameters, but fewer were provided"
  | .unusedParameters count => s!"{count} parameters were not used by the query"
  | .nulInScript position => nulMessage position

/-- A fault as a failure of the statement that it was found in. -/
def failure : Fault → Failure
  | .nulInScript position =>
      (Failure.ofText (nulMessage position)).within
        (.note "The query contains a nul character")
  | .unbound index reason =>
      (Failure.ofText reason).within (.note s!"Cannot bind the parameter {index}")
  | fault => .ofText fault.message

end Fault

end RecordMapping.Sqlite
