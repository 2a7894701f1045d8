/-
Module: RecordMapping.Scan.Scanner
Purpose: Result rows bound to the fields of a target.
Main exports: Layout.mapLabels, Scanner, Scanner.scanInto, Scanner.scan
-/
import RecordMapping.Record
import RecordMapping.Statement

namespace RecordMapping

/-!
A scanner assigns each column of a row a field of the target.  For a single
record the label decides, and a column without field is skipped; for joined
records the position decides, and the number of columns has to be right.  The
assignment is kept for as long as the labels stay the same.
-/

/-- The part and the field that receive a column; nothing for a skipped one. -/
abbrev Slot := Option (Nat × Nat)

/-- The slots of the columns with the given labels. -/
def Layout.mapLabels (layout : Layout) (typeName : String) (labels : List String) :
    Outcome (List Slot) :=
  match layout with
  | .table metadata =>
      .ok (labels.map fun label =>
        (metadata.fieldIndex? label).map fun index => (0, index))
  | .join parts =>
      if labels.length = layout.width then .ok ((Layout.positions parts).map some)
      else
        .error (.ofCause (.columnCount typeName layout.width labels.length))

/-- Stores a value in one field of a target. -/
def storeSlot (typeName : String) (layout : Layout) (label : String)
    (part index : Nat) (value : Value) (target : Target) : Outcome Target :=
  match target[part]? with
  | none => .error (.ofCause (.noPart typeName part))
  | some record =>
      match record.set index value with
      | .ok stored => .ok (target.set part stored)
      | .error failure =>
          match layout.fieldAt? part index with
          | some (recordName, definition) =>
              .error (failure.within
                (.scanningColumn label definition.field recordName))
          | none => .error failure

/-- Stores columns one after another.  The first that cannot be stored ends
the scan; those before it stay stored. -/
def storeColumns (typeName : String) (layout : Layout) :
    List (String × Slot × Value) → Target → Target × Outcome Unit
  | [], target => (target, .ok ())
  | (_, none, _) :: rest, target => storeColumns typeName layout rest target
  | (label, some (part, index), value) :: rest, target =>
      match storeSlot typeName layout label part index value target with
      | .ok stored => storeColumns typeName layout rest stored
      | .error failure => (target, .error failure)

/-- A scanner for the targets of a type. -/
structure Scanner where
  type : TargetType
  layout : Layout
  /-- The labels that the slots belong to. -/
  labels : Option (List String)
  slots : List Slot

namespace Scanner

/-- A scanner that has seen no row. -/
def withLayout (type : TargetType) (layout : Layout) : Scanner :=
  ⟨type, layout, none, []⟩

/-- A scanner of a target type, if the layout of the type is valid. -/
def make (type : TargetType) : Outcome Scanner :=
  type.layout.map (withLayout type)

/-- The scanner with slots for the given labels. -/
def adjusted (scanner : Scanner) (labels : List String) : Outcome Scanner :=
  if scanner.labels = some labels then .ok scanner
  else
    (scanner.layout.mapLabels scanner.type.typeName labels).map fun slots =>
      { scanner with labels := some labels, slots := slots }

/-- Stores a row in a target. -/
def scanInto (scanner : Scanner) (row : LabeledRow) (target : Target) :
    Scanner × Target × Outcome Unit :=
  match scanner.adjusted row.labels with
  | .error failure => (scanner, target, .error failure)
  | .ok scanner =>
      let columns := row.labels.zip (scanner.slots.zip row.values)
      (scanner, storeColumns scanner.type.typeName scanner.layout columns target)

/-- A row as a new target. -/
def scan (scanner : Scanner) (row : LabeledRow) : Scanner × Outcome Target :=
  match scanner.scanInto row scanner.type.blank with
  | (scanner, target, .ok ()) => (scanner, .ok target)
  | (scanner, _, .error failure) => (scanner, .error failure)

end Scanner

end RecordMapping
