/-
Module: RecordMapping.Statement.Selection
Purpose: Queries completed by the list of selected columns.
Main exports: startsWithSelect, Layout.selectItems, Dialect.select
-/
import RecordMapping.Dialect
import RecordMapping.Record.Layout
import RecordMapping.Text.Separated
import RecordMapping.Text.Blank

namespace RecordMapping

/-!
A query may leave out the selected columns and begin with its source; then the
columns of the scan target are selected, in the order in which the scanner
expects them.  A query that selects for itself is kept as it is, which is
possible only where columns are found by their names.
-/

/-- Whether a query selects for itself: after leading blanks it has the letters
of the keyword in any ASCII case, and then its end, a blank, a star or an
opening parenthesis. -/
def startsWithSelect (query : String) : Bool :=
  let characters := (Text.trimStart query).toList
  (characters.take 6).map Char.toLower == "select".toList &&
    match characters.drop 6 with
    | [] => true
    | next :: _ => Text.isBlank next || next == '*' || next == '('

/-- The selected columns of a layout as they are written: quoted, and behind
their alias in a join. -/
def Layout.selectItems (dialect : Dialect) : Layout → List String
  | .table metadata => metadata.columns.map dialect.identifier
  | .join parts =>
      parts.flatMap fun part =>
        part.metadata.columns.map fun column =>
          dialect.identifier part.tableAlias ++ "." ++ dialect.identifier column

/-- The complete text of a query whose rows are scanned by a layout. -/
def Dialect.select (dialect : Dialect) (layout : Layout) (query : String) :
    Outcome String :=
  if startsWithSelect query then
    if layout.isJoin then misconfigured .selectIntoNested else .ok query
  else
    .ok ("SELECT " ++ Text.separated ", " (layout.selectItems dialect) ++ " " ++
      Text.trimStart query)

end RecordMapping
