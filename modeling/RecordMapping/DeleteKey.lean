/-
Module: RecordMapping.DeleteKey
Purpose: The keys that select the rows of a delete.
Main exports: DeleteKey, DeleteKey.resolve, DeleteKey.ofRecord
-/
import RecordMapping.Record
import RecordMapping.Table

namespace RecordMapping

/-!
A key is resolved to one value per identifying column of the table before a
delete is built.  A value that is `NULL` or the zero of its type identifies
nothing and is refused, so a delete never loses a condition.
-/

/-- What selects the rows of a delete. -/
inductive DeleteKey where
  /-- The mapped columns of a record, with their values. -/
  | byRecord (fields : List (String × Value))
  /-- Values by the names of columns, each name once. -/
  | byFields (fields : List (String × Value))
  /-- The value of the only identifying column. -/
  | byScalar (value : Value)
deriving Repr, DecidableEq

namespace DeleteKey

/-- Refuses a value that identifies nothing. -/
def checkId (id : String) (value : Value) : Outcome Value :=
  if value.isNull || value.isZero then misconfigured (.invalidKey id value)
  else .ok value

/-- The value of an identifying column among those of a record. -/
def recordValue (fields : List (String × Value)) (id : String) : Outcome Value :=
  match fields.find? fun entry => Text.sameColumn entry.1 id with
  | none => misconfigured (.missingKey id)
  | some (_, value) =>
      if value.isNull then misconfigured (.nullKey id) else checkId id value

/-- The name under which a map holds an identifying column: the very name if
the map has it, and otherwise the first that equals it in any ASCII case. -/
def fieldName? (fields : List (String × Value)) (id : String) : Option String :=
  if fields.any fun entry => entry.1 == id then some id
  else (fields.find? fun entry => Text.sameColumn entry.1 id).map (·.1)

/-- The values of the identifying columns, in order.  Each entry of a map is
used at most once. -/
def resolveFields : List String → List (String × Value) →
    Outcome (List (String × Value))
  | [], _ => .ok []
  | id :: rest, fields =>
      match fieldName? fields id with
      | none => misconfigured (.missingKey id)
      | some name =>
          let value :=
            ((fields.find? fun entry => entry.1 == name).map (·.2)).getD .null
          match checkId id value with
          | .error failure => .error failure
          | .ok value =>
              (resolveFields rest (fields.filter fun entry => entry.1 != name)).map
                ((id, value) :: ·)

/-- The values of the identifying columns among those of a record, in order. -/
def resolveRecord (fields : List (String × Value)) :
    List String → Outcome (List (String × Value))
  | [] => .ok []
  | id :: rest =>
      match recordValue fields id with
      | .error failure => .error failure
      | .ok value => (resolveRecord fields rest).map ((id, value) :: ·)

/-- The column and the value of every identifying column of a table. -/
def resolve (key : DeleteKey) (table : Table) : Outcome (List (String × Value)) := do
  table.validate
  match key with
  | .byScalar value =>
      match table.ids with
      | [id] => (checkId id value).map fun value => [(id, value)]
      | ids => misconfigured (.scalarKey table.name ids.length)
  | .byRecord fields => resolveRecord fields table.ids
  | .byFields fields => resolveFields table.ids fields

/-- A record as the key of its own row. -/
def ofRecord (record : Record) : Outcome DeleteKey := do
  let metadata ← record.type.metadata
  let values ← record.values
  return .byRecord (metadata.columns.zip values)

end DeleteKey

end RecordMapping
