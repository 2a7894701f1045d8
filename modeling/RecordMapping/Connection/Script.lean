/-
Module: RecordMapping.Connection.Script
Purpose: Connections that answer statements from a list of prepared responses.
Main exports: Script, Script.connection
-/
import RecordMapping.Connection

namespace RecordMapping

/-!
A script stands in for a database: each statement that is sent takes the next
response, whatever the statement is, and an empty one when they have run out.
A statement counts as sent from then on, whether or not its response is read.
Beginning, committing and rolling back are statements like any other.
-/

/-- The responses still to come and the statements sent so far. -/
structure Script where
  responses : List (List (Outcome Response))
  /-- The statements that have been sent, the last first. -/
  sentReversed : List Statement
deriving Repr

namespace Script

/-- A script before the first statement. -/
def ofResponses (responses : List (List (Outcome Response))) : Script :=
  ⟨responses, []⟩

/-- The statements that have been sent, in order. -/
def sent (script : Script) : List Statement := script.sentReversed.reverse

/-- Sends a statement: the next response, and the script after it. -/
def send (statement : Statement) (script : Script) :
    List (Outcome Response) × Script :=
  (script.responses.headD [],
    ⟨script.responses.drop 1, statement :: script.sentReversed⟩)

/-- The reply to a statement. -/
def run (statement : Statement) (script : Script) : Reply Script :=
  match script.send statement with
  | (response, after) =>
      ⟨after, response.map fun item => (item, after), after⟩

/-- Runs a statement whose changes do not matter. -/
def perform (sql : String) (script : Script) : Outcome Unit × Script :=
  match (run (.ofSql sql) script).changes with
  | (outcome, script) => (outcome.map fun _ => (), script)

/-- The connection that a script answers for. -/
def connection : Connection Script where
  run := run
  begin := perform "BEGIN"
  commit := perform "COMMIT"
  rollback := perform "ROLLBACK"
  abandon := id

end Script

end RecordMapping
