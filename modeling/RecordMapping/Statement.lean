/-
Module: RecordMapping.Statement
Purpose: Statements, and the rows and counts that come back.
Main exports: Statement, Statement.text, RowsAffected, LabeledRow, Response
-/
import RecordMapping.Value
import RecordMapping.Text.Column
import RecordMapping.Text.Excerpt
import RecordMapping.Text.Separated

namespace RecordMapping

/-- SQL text with its parameters by position. -/
structure Statement where
  sql : String
  parameters : List Value
deriving Repr, DecidableEq

namespace Statement

/-- A statement without parameters. -/
def ofSql (sql : String) : Statement := ⟨sql, []⟩

/-- Equality of text and, as cells, of parameters. -/
def sameStatement (first second : Statement) : Bool :=
  first.sql == second.sql &&
    first.parameters.length == second.parameters.length &&
    (first.parameters.zip second.parameters).all fun (left, right) =>
      left.sameValue right

/-- A statement as it is quoted in messages: an excerpt of its text, and of
its parameters if there are any. -/
def text (statement : Statement) : String :=
  Text.excerpt statement.sql ++
    if statement.parameters.isEmpty then ""
    else
      " [" ++
        Text.excerpt (Text.separated ", " (statement.parameters.map Value.text)) ++ "]"

end Statement

/-- What a statement changed: the number of rows, and the last identifier that
was generated, if the database reports it. -/
structure RowsAffected where
  count : Nat
  lastId : Option Int
deriving Repr, DecidableEq

namespace RowsAffected

/-- No change. -/
def none : RowsAffected := ⟨0, .none⟩

/-- The changes of two statements, one after the other: the counts add up and
the later identifier wins. -/
def extend (earlier later : RowsAffected) : RowsAffected :=
  ⟨earlier.count + later.count, later.lastId.or earlier.lastId⟩

end RowsAffected

/-- A result row with the names of its columns. -/
structure LabeledRow where
  labels : List String
  values : List Value
deriving Repr, DecidableEq

/-- The value of the column with a name, in any ASCII case. -/
def LabeledRow.column? (row : LabeledRow) (name : String) : Option Value :=
  (row.labels.findIdx? fun label => Text.sameColumn label name).bind
    (row.values[·]?)

/-- One item of what a statement sends back. -/
inductive Response where
  | row (content : LabeledRow)
  | affected (changes : RowsAffected)
deriving Repr, DecidableEq

end RecordMapping
