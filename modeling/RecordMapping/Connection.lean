/-
Module: RecordMapping.Connection
Purpose: What runs statements: executors, their replies, and connections with transactions.
Main exports: Reply, Reply.rows, Reply.changes, Executor, Connection
-/
import RecordMapping.Failure
import RecordMapping.Dialect
import RecordMapping.Statement

namespace RecordMapping

/-!
A statement is sent, and its items are then taken one by one.  Taking an item
may do work, so a reply records the state of the database after each step:
once the statement is sent, after every item, and after the end has been seen.
A reader that stops early leaves the database in the state of the last item it
took.
-/

/-- The items that a statement sends back, with the states they leave behind. -/
structure Reply (σ : Type) where
  /-- The state once the statement is sent. -/
  opened : σ
  /-- Each item with the state after it has been taken. -/
  items : List (Outcome Response × σ)
  /-- The state after the end has been seen. -/
  closed : σ

namespace Reply

variable {σ : Type}

/-- An item as an item of a reading of rows: counts are passed over. -/
def rowItem : Outcome Response × σ → Option (Outcome LabeledRow × σ)
  | (.ok (.row row), state) => some (.ok row, state)
  | (.ok (.affected _), _) => none
  | (.error failure, state) => some (.error failure, state)

/-- The rows and failures of a reply. -/
def rows (reply : Reply σ) : List (Outcome LabeledRow × σ) :=
  reply.items.filterMap rowItem

/-- The changes summed up over items, up to the first failure. -/
def sumChanges (closed : σ) (changes : RowsAffected) :
    List (Outcome Response × σ) → Outcome RowsAffected × σ
  | [] => (.ok changes, closed)
  | (.ok (.row _), _) :: rest => sumChanges closed changes rest
  | (.ok (.affected further), _) :: rest =>
      sumChanges closed (changes.extend further) rest
  | (.error failure, state) :: _ => (.error failure, state)

/-- What a statement changed in all; rows are passed over, and the first
failure ends the reading. -/
def changes (reply : Reply σ) : Outcome RowsAffected × σ :=
  sumChanges reply.closed .none reply.items

end Reply

/-- What runs statements against a state. -/
structure Executor (σ : Type) where
  run : Statement → σ → Reply σ

namespace Executor

variable {σ : Type}

/-- Runs a statement to its end and sums up what it changed. -/
def execute (executor : Executor σ) (statement : Statement) (state : σ) :
    Outcome RowsAffected × σ :=
  (executor.run statement state).changes

end Executor

/-- An executor that can also open, commit, roll back and abandon a
transaction. -/
structure Connection (σ : Type) extends Executor σ where
  begin : σ → Outcome Unit × σ
  commit : σ → Outcome Unit × σ
  rollback : σ → Outcome Unit × σ
  /-- What becomes of a transaction that is neither committed nor rolled back. -/
  abandon : σ → σ

end RecordMapping
