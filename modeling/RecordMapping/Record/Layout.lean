/-
Module: RecordMapping.Record.Layout
Purpose: How the columns of a row are distributed over a record or joined records.
Main exports: JoinPart, JoinedMeta, Layout, Layout.fromParts, Layout.width
-/
import RecordMapping.Record.Metadata

namespace RecordMapping

/-!
A row is scanned into one record, whose columns are found by their names, or
into one record per joined table, whose columns stand one after another in the
order of the parts.  The parts of a join are checked in order; the metadata of
a part is only looked at when its alias is in order.
-/

/-- One part of a joined type: a field that holds the record of a table alias. -/
structure JoinPart where
  field : String
  tableAlias : String
  metadata : Outcome RecordMeta

/-- A checked part of a joined type. -/
structure JoinedMeta where
  tableAlias : String
  field : String
  metadata : RecordMeta

/-- The distribution of columns over a scan target. -/
inductive Layout where
  | table (metadata : RecordMeta)
  | join (parts : List JoinedMeta)

namespace Layout

/-- Checks the parts that follow those in `done`, which are in reverse order. -/
def checkParts (typeName : String) (done : List JoinedMeta) :
    List JoinPart → Outcome (List JoinedMeta)
  | [] => .ok done.reverse
  | part :: rest =>
      if part.tableAlias.isEmpty then misconfigured (.emptyAlias part.field typeName)
      else if done.any fun earlier => Text.sameColumn earlier.tableAlias part.tableAlias then
        misconfigured (.duplicateAlias part.tableAlias typeName)
      else
        match part.metadata with
        | .error failure => .error failure
        | .ok metadata =>
            checkParts typeName (⟨part.tableAlias, part.field, metadata⟩ :: done) rest

/-- The layout of a joined type, or the fault of its first wrong part. -/
def fromParts (typeName : String) (parts : List JoinPart) : Outcome Layout :=
  if parts.isEmpty then misconfigured (.noJoinedPart typeName)
  else (checkParts typeName [] parts).map .join

/-- Whether rows are scanned into joined records. -/
def isJoin : Layout → Bool
  | .table _ => false
  | .join _ => true

/-- The metadata of the records, in order. -/
def metadatas : Layout → List RecordMeta
  | .table metadata => [metadata]
  | .join parts => parts.map (·.metadata)

/-- The number of columns that a scan binds. -/
def width (layout : Layout) : Nat :=
  (layout.metadatas.flatMap fun metadata => metadata.fields).length

/-- The positions of the columns of a join: the part, and the field in it. -/
def positions (parts : List JoinedMeta) : List (Nat × Nat) :=
  parts.zipIdx.flatMap fun (part, index) =>
    (List.range part.metadata.fields.length).map fun field => (index, field)

/-- The type name and the definition of a field by its position. -/
def fieldAt? (layout : Layout) (part field : Nat) : Option (String × FieldDef) :=
  match layout.metadatas[part]? with
  | none => none
  | some metadata =>
      (metadata.fields[field]?).map fun definition => (metadata.typeName, definition)

end Layout

end RecordMapping
