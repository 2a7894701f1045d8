/-
Module: RecordMapping.Proofs.DataFaults
Purpose: What fails while values are stored fails by what a database holds.
Main exports: ScalarType.ofData_ofValue, Record.ofData_set, Scanner.ofData_scanInto,
  Scanner.ofData_scan
-/
import RecordMapping.Proofs.FailureKinds
import RecordMapping.Scan.Scanner

namespace RecordMapping

/-!
A value that does not fit its field, a document that cannot be read and a row of
the wrong width are faults of what a database holds.  They are told apart from
the mistakes of a program by their cause.
-/

/-! ### Conversions -/

namespace Value

variable {α : Type} (value : Value)

@[simp] theorem ofData_unconvertible (scalar : ScalarType) :
    Outcome.OfData (value.unconvertible scalar : Outcome α) := by
  intro failure converted
  cases converted
  rfl

@[simp] theorem ofData_convertible (scalar : ScalarType) (found : Option α) :
    Outcome.OfData (value.convertible scalar found) := by
  cases found with
  | none => exact ofData_unconvertible value scalar
  | some content => exact .ok content

@[simp] theorem ofData_integerInRange (type : IntType) (number : Int) :
    Outcome.OfData (integerInRange type number) := by
  unfold integerInRange
  split
  · exact .ok _
  · exact .error rfl

theorem ofData_toInteger (type : IntType) : Outcome.OfData (value.toInteger type) := by
  unfold toInteger
  split
  · exact ofData_integerInRange type _
  · exact ofData_integerInRange type _
  · split
    · exact ofData_integerInRange type _
    · exact ofData_unconvertible _ _
  · split
    · exact .ok _
    · exact .error rfl
  · exact ofData_unconvertible _ _

theorem ofData_toBoolean : Outcome.OfData value.toBoolean := by
  unfold toBoolean
  split <;> simp

theorem ofData_toBinary (format : BinaryFormat) :
    Outcome.OfData (value.toBinary format) := by
  unfold toBinary
  split <;> simp

theorem ofData_toDecimal : Outcome.OfData value.toDecimal := by
  unfold toDecimal
  split <;> simp

theorem ofData_toText : Outcome.OfData value.toText := by
  unfold toText
  split
  · exact .ok _
  · split
    · exact .ok _
    · exact .error rfl
  · exact ofData_unconvertible _ _

theorem ofData_toBytes : Outcome.OfData value.toBytes := by
  unfold toBytes
  split <;> simp

@[simp] theorem ofData_identifierOr (found : Option Uuid) :
    Outcome.OfData (value.identifierOr found) := by
  cases found with
  | none => exact .error rfl
  | some identifier => exact .ok identifier

theorem ofData_toUuid : Outcome.OfData value.toUuid := by
  unfold toUuid
  split <;> simp

theorem ofData_toDate : Outcome.OfData value.toDate := by
  unfold toDate
  split <;> simp

theorem ofData_toTime : Outcome.OfData value.toTime := by
  unfold toTime
  split <;> simp

theorem ofData_toTimestamp : Outcome.OfData value.toTimestamp := by
  unfold toTimestamp
  split <;> simp

end Value

theorem ScalarType.ofData_ofValue (scalar : ScalarType) (value : Value) :
    Outcome.OfData (scalar.ofValue value) := by
  cases scalar with
  | integer type => exact value.ofData_toInteger type
  | boolean => exact value.ofData_toBoolean
  | float32 => exact value.ofData_toBinary .single
  | float64 => exact value.ofData_toBinary .double
  | decimal => exact value.ofData_toDecimal
  | text => exact value.ofData_toText
  | bytes => exact value.ofData_toBytes
  | uuid => exact value.ofData_toUuid
  | date => exact value.ofData_toDate
  | time => exact value.ofData_toTime
  | timestamp => exact value.ofData_toTimestamp

theorem ColumnType.ofData_convert (column : ColumnType) (value : Value) :
    Outcome.OfData (column.convert value) := by
  unfold convert
  split
  · exact .ok _
  · exact (column.scalar.ofData_ofValue value).map _

theorem ofData_decodeJson (shape : Json.Shape) (present : Json.Document) (value : Value) :
    Outcome.OfData (decodeJson shape present value) := by
  unfold decodeJson
  split
  · exact .ok _
  · split
    · exact .error rfl
    · split
      · exact .ok _
      · exact .error rfl

/-! ### Fields, rows and targets -/

theorem FieldContent.ofData_store (content : FieldContent) (present : Cell)
    (value : Value) : Outcome.OfData (content.store present value) := by
  unfold store
  split
  · exact (ColumnType.ofData_convert _ value).map _
  · exact (ofData_decodeJson _ _ value).map _
  · split
    · exact .ok _
    · exact (ofData_decodeJson _ _ value).map _

theorem Record.ofData_set (record : Record) (index : Nat) (value : Value) :
    Outcome.OfData (record.set index value) := by
  unfold set
  split
  · rename_i field present _ _
    have stored := field.content.ofData_store present value
    split
    · exact .ok _
    · rename_i failure failed
      exact .error (stored failure failed)
  · exact .error rfl

theorem Layout.ofData_mapLabels (layout : Layout) (typeName : String)
    (labels : List String) : Outcome.OfData (layout.mapLabels typeName labels) := by
  unfold mapLabels
  split
  · exact .ok _
  · split
    · exact .ok _
    · exact .error rfl

theorem ofData_storeSlot (typeName : String) (layout : Layout) (label : String)
    (part index : Nat) (value : Value) (target : Target) :
    Outcome.OfData (storeSlot typeName layout label part index value target) := by
  unfold storeSlot
  split
  · exact .error rfl
  · rename_i record _
    have stored := record.ofData_set index value
    split
    · exact .ok _
    · rename_i failure failed
      -- The context in front of the failure leaves its cause alone.
      split
      · exact .error (stored failure failed)
      · exact .error (stored failure failed)

theorem ofData_storeColumns (typeName : String) (layout : Layout)
    (columns : List (String × Slot × Value)) (target : Target) :
    (storeColumns typeName layout columns target).2.OfData := by
  induction columns generalizing target with
  | nil => exact .ok ()
  | cons column rest inductionHypothesis =>
      obtain ⟨label, slot, value⟩ := column
      cases slot with
      | none => exact inductionHypothesis target
      | some place =>
          obtain ⟨part, index⟩ := place
          have stored := ofData_storeSlot typeName layout label part index value target
          unfold storeColumns
          split
          · exact inductionHypothesis _
          · rename_i failure failed
            exact .error (stored failure failed)

namespace Scanner

theorem ofData_adjusted (scanner : Scanner) (labels : List String) :
    Outcome.OfData (scanner.adjusted labels) := by
  unfold adjusted
  split
  · exact .ok scanner
  · exact (Layout.ofData_mapLabels _ _ labels).map _

theorem ofData_scanInto (scanner : Scanner) (row : LabeledRow) (target : Target) :
    (scanner.scanInto row target).2.2.OfData := by
  have adjusts := scanner.ofData_adjusted row.labels
  unfold scanInto
  split
  · rename_i failure failed
    exact .error (adjusts failure failed)
  · exact ofData_storeColumns _ _ _ target

theorem ofData_scan (scanner : Scanner) (row : LabeledRow) :
    (scanner.scan row).2.OfData := by
  have stores := scanner.ofData_scanInto row scanner.type.blank
  unfold scan
  split
  · exact .ok _
  · rename_i failure scanned
    rw [scanned] at stores
    exact .error (stores failure rfl)

end Scanner

end RecordMapping
