/-
Module: RecordMapping.Scan.Cursor
Purpose: Cursors that take the rows of a statement one by one.
Main exports: CursorPhase, Cursor, Cursor.next, Cursor.scan, Cursor.close
-/
import RecordMapping.Connection
import RecordMapping.Scan.Scanner

namespace RecordMapping

/-!
A cursor stands before the first row, on a row, behind the last row, or is
closed.  Advancing takes one row or failure from the statement; scanning binds
the current row and takes nothing.  The statement is released when its rows
are exhausted or the cursor is closed.
-/

/-- Where a cursor stands. -/
inductive CursorPhase where
  | fresh
  | onRow
  | exhausted
  | closed
deriving Repr, DecidableEq

/-- A cursor over the rows of a statement. -/
structure Cursor (σ : Type) where
  /-- What the statement still has to give, while it is held. -/
  remaining : Option (List (Outcome LabeledRow × σ))
  /-- The state of the database after the end of the rows. -/
  finished : σ
  /-- The state of the database now. -/
  state : σ
  current : Option LabeledRow
  phase : CursorPhase

namespace Cursor

variable {σ : Type}

/-- The cursor over a reply, before its first row. -/
def ofReply (reply : Reply σ) : Cursor σ :=
  ⟨some reply.rows, reply.closed, reply.opened, none, .fresh⟩

/-- Why no row is available in the present phase. -/
def unavailable (cursor : Cursor σ) : Failure :=
  .ofCause (.cursor (match cursor.phase with
    | .fresh => .notStarted
    | .onRow => .noRow
    | .exhausted => .exhausted
    | .closed => .closed))

/-- Advances to the next row; `false` once there is none.  A failure leaves
the cursor where it is, but has been taken. -/
def next (cursor : Cursor σ) : Outcome Bool × Cursor σ :=
  if cursor.phase = .exhausted then (.ok false, cursor)
  else
    match cursor.remaining with
    | none => (.error cursor.unavailable, cursor)
    | some [] =>
        (.ok false,
          { cursor with
            remaining := none, state := cursor.finished, current := none
            phase := .exhausted })
    | some ((.error failure, state) :: rest) =>
        (.error failure, { cursor with remaining := some rest, state := state })
    | some ((.ok row, state) :: rest) =>
        (.ok true,
          { cursor with
            remaining := some rest, state := state, current := some row
            phase := .onRow })

/-- The labels of the current row. -/
def columns? (cursor : Cursor σ) : Option (List String) :=
  cursor.current.map (·.labels)

/-- Binds the current row to a target. -/
def scan (cursor : Cursor σ) (type : TargetType) (target : Target) :
    Target × Outcome Unit :=
  match cursor.current with
  | none => (target, .error cursor.unavailable)
  | some row =>
      match Scanner.make type with
      | .error failure => (target, .error failure)
      | .ok scanner => (scanner.scanInto row target).2

/-- Releases the statement and the current row. -/
def close (cursor : Cursor σ) : Cursor σ :=
  { cursor with remaining := none, current := none, phase := .closed }

/-- Whether the cursor has been closed. -/
def isClosed (cursor : Cursor σ) : Bool := cursor.phase == .closed

end Cursor

end RecordMapping
