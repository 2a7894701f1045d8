/-
Module: RecordMapping.Sqlite.Database
Purpose: Tables, their rows, and the changes that keep keys apart.
Main exports: Row, Relation, Relation.insertRow, Relation.updateRows,
  Relation.deleteRows, Database
-/
import RecordMapping.Sqlite.Datum
import RecordMapping.Text.Column

namespace RecordMapping.Sqlite

/-!
A table has one integer key and further columns without type, which store data
as they are bound.  Its rows stand in the order of their keys, and no two have
the same key.  Columns are counted with the key at zero.
-/

/-- The key of a row. -/
abbrev Key := IntType.int64.Number

/-- A row: its key and the data of the further columns. -/
structure Row where
  key : Key
  cells : List Datum
deriving Repr, DecidableEq

namespace Row

/-- The datum of a column. -/
def datum (row : Row) (column : Nat) : Datum :=
  match column with
  | 0 => .integer row.key
  | column + 1 => (row.cells[column]?).getD .null

/-- The row with a datum in a further column, counted from one. -/
def withDatum (row : Row) (column : Nat) (datum : Datum) : Row :=
  { row with cells := row.cells.set (column - 1) datum }

end Row

/-- A table. -/
structure Relation where
  name : String
  keyColumn : String
  columns : List String
  rows : List Row
deriving Repr, DecidableEq

namespace Relation

/-- The names of all columns, the key first. -/
def columnNames (relation : Relation) : List String :=
  relation.keyColumn :: relation.columns

/-- The place of a column among all columns, in any ASCII case. -/
def columnIndex? (relation : Relation) (name : String) : Option Nat :=
  relation.columnNames.findIdx? fun column => Text.sameColumn column name

/-- The greatest key of a row, which is the last one; zero without rows. -/
def greatestKey (relation : Relation) : Int :=
  (relation.rows.getLast?.map fun row => row.key.val).getD 0

/-- The key that follows the greatest one; one for the first row. -/
def nextKey (relation : Relation) : Except Fault Key :=
  match IntType.int64.ofInt? (relation.greatestKey + 1) with
  | some key => .ok key
  | none => .error .full

/-- The fault of a key that a row has already. -/
def duplicate (relation : Relation) : Fault :=
  .duplicateKey relation.name relation.keyColumn

/-- Rows with one more in its place, unless its key is taken. -/
def place (row : Row) : List Row → Option (List Row)
  | [] => some [row]
  | held :: rest =>
      if row.key.val < held.key.val then some (row :: held :: rest)
      else if held.key.val < row.key.val then (place row rest).map (held :: ·)
      else none

/-- The table with one more row. -/
def insertRow (relation : Relation) (row : Row) : Except Fault Relation :=
  match place row relation.rows with
  | some rows => .ok { relation with rows := rows }
  | none => .error relation.duplicate

/-- The rows without the one that has a key. -/
def without (key : Key) (rows : List Row) : List Row :=
  rows.filter fun row => row.key != key

/-- The table with a row in place of the one that has a key. -/
def replaceRow (relation : Relation) (key : Key) (row : Row) :
    Except Fault Relation :=
  { relation with rows := without key relation.rows }.insertRow row

/-- The table after the given rows have been changed one after another. -/
def updateRows (change : Row → Except Fault Row) :
    List Row → Relation → Except Fault Relation
  | [], relation => .ok relation
  | row :: rest, relation => do
      let changed ← change row
      updateRows change rest (← relation.replaceRow row.key changed)

/-- The table without the rows that have a property. -/
def deleteRows (relation : Relation) (selects : Row → Bool) : Relation :=
  { relation with rows := relation.rows.filter fun row => !selects row }

end Relation

/-- The tables of a database. -/
structure Database where
  relations : List Relation
deriving Repr, DecidableEq

namespace Database

/-- A database without tables. -/
def empty : Database := ⟨[]⟩

/-- The table with a name, in any ASCII case. -/
def find? (database : Database) (name : String) : Option Relation :=
  database.relations.find? fun relation => Text.sameColumn relation.name name

/-- The table that a statement names. -/
def relation (database : Database) (name : String) : Except Fault Relation :=
  match database.find? name with
  | some relation => .ok relation
  | none => .error (.noTable name)

/-- The database without the table with a name. -/
def remove (database : Database) (name : String) : Database :=
  ⟨database.relations.filter fun relation => !Text.sameColumn relation.name name⟩

/-- The database with a table in place of the one with its name. -/
def replace (database : Database) (relation : Relation) : Database :=
  ⟨relation :: (database.remove relation.name).relations⟩

end Database

end RecordMapping.Sqlite
