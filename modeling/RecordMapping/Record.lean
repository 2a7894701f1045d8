/-
Module: RecordMapping.Record
Purpose: Record types, records, and what a row can be scanned into.
Main exports: encodeJson, decodeJson, FieldContent, RecordType, Record, Record.values,
  Record.set, TargetType, Target
-/
import RecordMapping.Record.Layout
import RecordMapping.Value.Conversion
import RecordMapping.Json.Shape

namespace RecordMapping

/-!
A record holds one cell per mapped field: a value of the column type of the
field, or a JSON document of the shape of the field.  Values go in through the
conversion of the field and come out in field order, documents as their text.
Fields without a column keep their contents through all of this.
-/

/-- A document as a cell: its text, or `NULL` for the empty document. -/
def encodeJson (document : Json.Document) : Value :=
  let text := document.render
  if text = "null" then .varchar none else .varchar (some text)

/-- The document of a cell, by a shape; any `NULL` keeps the present document. -/
def decodeJson (shape : Json.Shape) (present : Json.Document) (value : Value) :
    Outcome Json.Document :=
  if value.isNull then .ok present
  else
    match value.bytes? with
    | none => .error (.ofCause (.jsonCell value.sqlName))
    | some bytes =>
        match shape.read bytes with
        | some document => .ok document
        | none => .error ⟨[.decodingJson], .jsonText⟩

/-- What a field of a record holds. -/
inductive FieldContent where
  | scalar (column : ColumnType)
  | json (shape : Json.Shape)
deriving Repr

/-- A mapped field: its definition and what it holds. -/
structure Field where
  definition : FieldDef
  content : FieldContent
deriving Repr

/-- What a record holds in one field. -/
inductive Cell where
  | value (content : Value)
  | document (content : Json.Document)
  /-- A content that there is no JSON text of, and why. -/
  | unwritable (reason : String)
deriving Repr

/-- A type of records. -/
structure RecordType where
  typeName : String
  /-- The mapped fields. -/
  fields : List Field
  /-- What a new record holds in its fields without a column. -/
  unmapped : List Cell
  /-- The size of a record in bytes. -/
  footprint : Nat
deriving Repr

namespace FieldContent

/-- The cell of a new record. -/
def blank : FieldContent → Cell
  | .scalar column => .value column.blank
  | .json shape => .document shape.blank

/-- The cell of a field after a value has been stored in it. -/
def store (content : FieldContent) (present : Cell) (value : Value) : Outcome Cell :=
  match content, present with
  | .scalar column, _ => (column.convert value).map .value
  | .json shape, .document document => (decodeJson shape document value).map .document
  | .json shape, present =>
      if value.isNull then .ok present
      else (decodeJson shape shape.blank value).map .document

end FieldContent

/-- A cell as it is sent to a database. -/
def Cell.toValue : Cell → Outcome Value
  | .value content => .ok content
  | .document content => .ok (encodeJson content)
  | .unwritable reason => .error ⟨[.encodingJson], .reported reason⟩

namespace RecordType

/-- The definitions of the mapped fields. -/
def definitions (type : RecordType) : List FieldDef :=
  type.fields.map (·.definition)

/-- The validated mapping of a record type. -/
def metadata (type : RecordType) : Outcome RecordMeta :=
  RecordMeta.build type.typeName type.definitions

/-- The layout of rows that are scanned into one record. -/
def layout (type : RecordType) : Outcome Layout :=
  type.metadata.map .table

/-- The metadata of a record type are those of its field list, which has no
fault. -/
theorem metadata_eq_ok {type : RecordType} {metadata : RecordMeta}
    (built : type.metadata = .ok metadata) :
    metadata.fields = type.definitions ∧
      RecordMeta.index type.typeName type.definitions = .ok metadata.byColumn := by
  unfold RecordType.metadata RecordMeta.build at built
  split at built
  · rename_i byColumn indexed
    cases built
    exact ⟨rfl, indexed⟩
  · cases built

end RecordType

/-- A record: its type, one cell per mapped field, and the contents of its
fields without a column. -/
structure Record where
  type : RecordType
  cells : List Cell
  unmapped : List Cell
deriving Repr

namespace Record

/-- A record that nothing has been stored in. -/
def blank (type : RecordType) : Record :=
  ⟨type, type.fields.map fun field => field.content.blank, type.unmapped⟩

/-- The values of the mapped fields, in field order; the first field that has no
JSON text decides the failure. -/
def values (record : Record) : Outcome (List Value) :=
  record.cells.mapM Cell.toValue

/-- The record after a value has been stored in the field at an index. -/
def set (record : Record) (index : Nat) (value : Value) : Outcome Record :=
  match record.type.fields[index]?, record.cells[index]? with
  | some field, some present =>
      match field.content.store present value with
      | .ok cell => .ok { record with cells := record.cells.set index cell }
      | .error failure => .error failure
  | _, _ => .error (.ofCause (.noField record.type.typeName index))

/-- What storing in mapped fields leaves alone: the type of a record, and its
fields without a column. -/
def frame (record : Record) : RecordType × List Cell := (record.type, record.unmapped)

/-- The cell of the field mapped to a column. -/
def cell? (record : Record) (column : String) : Option Cell :=
  (record.type.fields.findIdx? fun field => field.definition.column == column).bind
    (record.cells[·]?)

/-- The value of the field mapped to a column; the untyped `NULL` when there is
no such field or no value of it. -/
def value (record : Record) (column : String) : Value :=
  ((record.cell? column).bind fun cell => cell.toValue.toOption).getD .null

/-- The record with a cell in place of that of the field mapped to a column. -/
def withCell (record : Record) (column : String) (cell : Cell) : Record :=
  match record.type.fields.findIdx? fun field => field.definition.column == column with
  | some index => { record with cells := record.cells.set index cell }
  | none => record

@[simp] theorem length_cells_blank (type : RecordType) :
    (blank type).cells.length = type.fields.length := by
  simp [blank]

end Record

/-- What a row is scanned into: a record, or one record per part of a join. -/
abbrev Target := List Record

/-- A type of scan targets. -/
structure TargetType where
  typeName : String
  layout : Outcome Layout
  /-- A target that nothing has been stored in. -/
  blank : Target
  /-- The size of a target in bytes. -/
  footprint : Nat

namespace TargetType

/-- Single records as targets. -/
def ofRecord (type : RecordType) : TargetType :=
  ⟨type.typeName, type.layout, [Record.blank type], type.footprint⟩

/-- Joined records as targets: each part has the field that holds it, the
alias of its table and its record type. -/
def ofJoin (typeName : String) (parts : List (String × String × RecordType))
    (footprint : Nat) : TargetType where
  typeName := typeName
  layout := Layout.fromParts typeName
    (parts.map fun (field, tableAlias, type) => ⟨field, tableAlias, type.metadata⟩)
  blank := parts.map fun (_, _, type) => Record.blank type
  footprint := footprint

end TargetType

end RecordMapping
