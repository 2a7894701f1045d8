/-
Module: RecordMapping.Statement.Change
Purpose: Update and delete statements.
Main exports: Dialect.conditions, Dialect.update, Dialect.delete
-/
import RecordMapping.Statement.Insertion

namespace RecordMapping

/-!
A change addresses its row by one condition per identifying column.  An update
sets every other column, except that a `NULL` in a nullable field leaves its
column unchanged.  Parameters are numbered through the whole statement.
-/

namespace Dialect

/-- Columns with a placeholder each, numbered from `first` on. -/
def bindings (dialect : Dialect) (first : Nat) (columns : List String) : List String :=
  columns.zipIdx.map fun (column, index) =>
    dialect.identifier column ++ " = " ++ dialect.placeholder (first + index)

/-- The conditions on identifying columns. -/
def conditions (dialect : Dialect) (first : Nat) (columns : List String) : String :=
  "\nWHERE " ++ Text.separated " AND " (dialect.bindings first columns)

end Dialect

/-- The column and the value of each identifier of a record; every one must be
mapped and not `NULL`. -/
def updateKeys (metadata : RecordMeta) (values : List Value) :
    List String → Outcome (List (String × Value))
  | [] => .ok []
  | id :: rest =>
      match metadata.fieldIndex? id with
      | none => misconfigured (.unmappedId id metadata.typeName)
      | some index =>
          let value := (values[index]?).getD .null
          if value.isNull then misconfigured (.nullId id)
          else
            (updateKeys metadata values rest).map
              ((((metadata.columns[index]?).getD id), value) :: ·)

/-- The fields that an update sets, with their values. -/
def updatedFields (table : Table) (metadata : RecordMeta) (values : List Value) :
    List (FieldDef × Value) :=
  (metadata.fields.zip values).filter fun (definition, value) =>
    !table.isId definition.column && !(definition.nullable && value.isNull)

namespace Dialect

/-- The update of the row that a record with the given field values identifies. -/
def update (dialect : Dialect) (table : Table) (metadata : RecordMeta)
    (values : List Value) : Outcome Statement := do
  table.validate
  checkWidth metadata values
  let keys ← updateKeys metadata values table.ids
  let changed := updatedFields table metadata values
  if changed.isEmpty then
    misconfigured (.nothingToUpdate table.name metadata.typeName)
  else
    let columns := changed.map fun (definition, _) => definition.column
    return {
      sql :=
        "UPDATE " ++ dialect.identifier table.name ++ "\nSET " ++
          Text.separated ", " (dialect.bindings 0 columns) ++
          dialect.conditions columns.length (keys.map (·.1))
      parameters := changed.map (·.2) ++ keys.map (·.2) }

/-- The delete of the row with the given values of the identifying columns. -/
def delete (dialect : Dialect) (table : Table) (keys : List (String × Value)) :
    Outcome Statement := do
  table.validate
  return {
    sql :=
      "DELETE FROM " ++ dialect.identifier table.name ++
        dialect.conditions 0 (keys.map (·.1))
    parameters := keys.map (·.2) }

end Dialect

end RecordMapping
