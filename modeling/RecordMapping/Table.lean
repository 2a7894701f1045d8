/-
Module: RecordMapping.Table
Purpose: The table an operation is aimed at, and the columns that identify its rows.
Main exports: Table, Table.named, Table.isId, Table.validate
-/
import RecordMapping.Failure
import RecordMapping.Text.Column

namespace RecordMapping

/-!
A table is described by its name and its identifying columns.  A descriptor
can be written down wrong, so every operation validates it before anything
else.
-/

/-- A table and its identifying columns. -/
structure Table where
  name : String
  ids : List String
deriving Repr, DecidableEq

namespace Table

/-- A table identified by the single column `id`. -/
def named (name : String) : Table := ⟨name, ["id"]⟩

/-- Whether a column is an identifying one, in any ASCII case. -/
def isId (table : Table) (column : String) : Bool :=
  table.ids.any fun id => Text.sameColumn id column

theorem isId_iff {table : Table} {column : String} :
    table.isId column = true ↔ ∃ id ∈ table.ids, Text.sameColumn id column = true := by
  simp [isId]

theorem isId_of_sameColumn {table : Table} {id column : String} (member : id ∈ table.ids)
    (same : Text.sameColumn column id = true) : table.isId column = true :=
  isId_iff.mpr ⟨id, member, by rwa [Text.sameColumn_comm]⟩

/-- Columns that differ in case only are identifying together. -/
theorem isId_congr {table : Table} {column other : String}
    (same : Text.sameColumn column other = true) : table.isId column = table.isId other := by
  simp only [isId, Text.sameColumn, Text.sameColumn_iff.mp same]

/-- Refuses a table without name, without identifying columns or with one that
has no name. -/
def validate (table : Table) : Outcome Unit :=
  if table.name.isEmpty then misconfigured .emptyTableName
  else if table.ids.isEmpty then misconfigured .noIdColumn
  else if table.ids.any String.isEmpty then misconfigured .emptyIdColumn
  else .ok ()

end Table

end RecordMapping
