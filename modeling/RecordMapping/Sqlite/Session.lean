/-
Module: RecordMapping.Sqlite.Session
Purpose: The state of a connection, and statements run against it.
Main exports: Session, Session.fresh, Plan.run
-/
import RecordMapping.Sqlite.Plan

namespace RecordMapping.Sqlite

/-!
A session holds the tables, the tables as they were when the open transaction
began, the key of the row inserted last, and the number of rows changed so far.
Rolling back restores the tables and nothing else: neither the last key nor the
count ever goes back.

A statement takes effect as a whole or, with a fault, not at all.
-/

/-- The state of a connection. -/
structure Session where
  database : Database
  /-- The tables that a rollback restores, while a transaction is open. -/
  saved : Option Database
  /-- The key of the row inserted last; zero before the first. -/
  lastKey : Int
  /-- The number of rows inserted, updated and deleted. -/
  changes : Nat
deriving Repr, DecidableEq

namespace Session

/-- The state of a new connection. -/
def fresh : Session := ⟨.empty, none, 0, 0⟩

/-- Whether a transaction is open. -/
def inTransaction (session : Session) : Bool := session.saved.isSome

/-- The session with other tables, after a number of changes. -/
def changed (session : Session) (database : Database) (count : Nat) : Session :=
  { session with database := database, changes := session.changes + count }

end Session

namespace Operand

/-- The datum of an operand. -/
def datum (parameters : List Datum) (row : Row) : Operand → Datum
  | .parameter index => (parameters[index]?).getD .null
  | .column index => row.datum index
  | .text content => .text content

/-- Whether an operand is the key. -/
def isKey (operand : Operand) : Bool := operand == .column 0

end Operand

/-- Whether a row meets a condition; what is compared with the key is taken as
a number if it can be. -/
def Condition.holds (parameters : List Datum) (row : Row) (condition : Condition) :
    Bool :=
  let left := condition.1.datum parameters row
  let right := condition.2.datum parameters row
  if condition.1.isKey || condition.2.isKey then left.numeric.equals right.numeric
  else left.equals right

/-- Whether a row meets all conditions. -/
def meets (parameters : List Datum) (conditions : List Condition) (row : Row) : Bool :=
  conditions.all fun condition => Condition.holds parameters row condition

/-- The results of a row. -/
def resultsOf (parameters : List Datum) (outputs : List Output) (row : Row) :
    List Datum :=
  outputs.map fun output => output.operand.datum parameters row

/-- Whether a row may stand in front of another one in the order of operands. -/
def notAfter (parameters : List Datum) (order : List Operand) (first second : Row) :
    Bool :=
  match order with
  | [] => true
  | operand :: rest =>
      match (operand.datum parameters first).compare (operand.datum parameters second) with
      | .lt => true
      | .gt => false
      | .eq => notAfter parameters rest first second

namespace Plan

/-- What a statement leaves behind: its result rows and the state after it. -/
abbrev Effect := Except Fault (List (List Datum) × Session)

/-- The row that an insert adds; what it leaves out is `NULL`, and a key that is
`NULL` is generated. -/
def newRow (target : Relation) (columns : List Nat) (data : List Datum) :
    Except Fault Row := do
  let given := columns.zip data
  let key ←
    match ((given.find? fun entry => entry.1 == 0).map (·.2)).getD .null with
    | .null => target.nextKey
    | datum => datum.toKey
  let blank : Row := ⟨key, target.columns.map fun _ => .null⟩
  return given.foldl
    (fun row (column, datum) =>
      if column = 0 then row else row.withDatum column datum)
    blank

/-- A row after assignments, which all see the row as it was. -/
def assignedRow (parameters : List Datum) (assignments : List (Nat × Operand))
    (row : Row) : Except Fault Row :=
  assignments.foldlM
    (fun changed (column, operand) =>
      let datum := operand.datum parameters row
      if column = 0 then datum.toKey.map fun key => { changed with key := key }
      else .ok (changed.withDatum column datum))
    row

/-- Runs a statement with its parameters. -/
def run (plan : Plan) (parameters : List Datum) (session : Session) : Plan.Effect :=
  match plan with
  | .select rows outputs conditions order =>
      let chosen := rows.filter (meets parameters conditions)
      .ok ((chosen.mergeSort (notAfter parameters order)).map
        (resultsOf parameters outputs), session)
  | .insert target columns operands outputs => do
      let data := operands.map (Operand.datum parameters ⟨IntType.int64.zero, []⟩)
      let row ← newRow target columns data
      let relation ← target.insertRow row
      return ((if outputs.isEmpty then [] else [resultsOf parameters outputs row]),
        { session.changed (session.database.replace relation) 1 with
          lastKey := row.key.val })
  | .update target assignments conditions => do
      let chosen := target.rows.filter (meets parameters conditions)
      let relation ←
        Relation.updateRows (assignedRow parameters assignments) chosen target
      return ([], session.changed (session.database.replace relation) chosen.length)
  | .delete target conditions =>
      let relation := target.deleteRows (meets parameters conditions)
      .ok ([], session.changed (session.database.replace relation)
        (target.rows.length - relation.rows.length))
  | .create relation =>
      .ok ([], session.changed (session.database.replace relation) 0)
  | .drop relation =>
      .ok ([], session.changed (session.database.remove relation.name) 0)
  | .begin =>
      if session.inTransaction then .error .alreadyInTransaction
      else .ok ([], { session with saved := some session.database })
  | .commit =>
      if session.inTransaction then .ok ([], { session with saved := none })
      else .error .nothingToCommit
  | .rollback =>
      match session.saved with
      | some database => .ok ([], { session with database := database, saved := none })
      | none => .error .nothingToRollBack

end Plan

end RecordMapping.Sqlite
