/-
Module: RecordMapping.Record.Metadata
Purpose: Validated mappings between the columns of a record and its fields.
Main exports: FieldDef, ColumnIndex, RecordMeta, RecordMeta.build, RecordMeta.fieldIndex?,
  RecordMeta.field?
-/
import RecordMapping.Failure
import RecordMapping.Text.Column

namespace RecordMapping

/-!
A field list maps columns to fields when it is not empty, every column has a
name, every field is public, and no two columns are equal in any ASCII case.
The fields are entered one after the other into an index from column keys to
places, which is also what finds columns that are already taken.  Metadata can
only be had of a list that is entered to its end, and keeps its index.
-/

/-- One mapped field of a record type. -/
structure FieldDef where
  field : String
  column : String
  /-- The field has a `NULL`, which inserts and updates leave out. -/
  nullable : Bool
  /-- The field is stored as JSON text. -/
  json : Bool
  /-- The field is visible outside its module. -/
  isPublic : Bool
deriving Repr, DecidableEq

/-- The places of fields by the keys of their columns. -/
abbrev ColumnIndex := List (String × Nat)

namespace RecordMeta

/-- Enters fields from a place on, until one cannot follow those entered so far. -/
def enterColumns (typeName : String) (entered : ColumnIndex) (place : Nat) :
    List FieldDef → Except ConfigFault ColumnIndex
  | [] => .ok entered
  | definition :: rest =>
      let key := Text.columnKey definition.column
      if definition.column.isEmpty then
        .error (.emptyColumn definition.field typeName)
      else if !definition.isPublic then
        .error (.privateField definition.field typeName definition.column)
      else if (entered.lookup key).isSome then
        .error (.duplicateColumn definition.column typeName)
      else enterColumns typeName ((key, place) :: entered) (place + 1) rest

/-- The index of a field list, or the fault of the list. -/
def index (typeName : String) (fields : List FieldDef) : Except ConfigFault ColumnIndex :=
  if fields.isEmpty then .error (.noMappedField typeName)
  else enterColumns typeName [] 0 fields

end RecordMeta

/-- The mapping of a record type whose field list has no fault. -/
structure RecordMeta where
  typeName : String
  fields : List FieldDef
  byColumn : ColumnIndex
  indexed : RecordMeta.index typeName fields = .ok byColumn

namespace RecordMeta

/-- The metadata of a field list, or its fault. -/
def build (typeName : String) (fields : List FieldDef) : Outcome RecordMeta :=
  match indexed : index typeName fields with
  | .ok byColumn => .ok ⟨typeName, fields, byColumn, indexed⟩
  | .error fault => misconfigured fault

/-- The mapped columns, in field order. -/
def columns (metadata : RecordMeta) : List String :=
  metadata.fields.map (·.column)

/-- The index of the field mapped to a column, in any ASCII case. -/
def fieldIndex? (metadata : RecordMeta) (column : String) : Option Nat :=
  metadata.byColumn.lookup (Text.columnKey column)

/-- The field mapped to a column, in any ASCII case. -/
def field? (metadata : RecordMeta) (column : String) : Option FieldDef :=
  (metadata.fieldIndex? column).bind (metadata.fields[·]?)

end RecordMeta

end RecordMapping
