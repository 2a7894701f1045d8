/-
Module: RecordMapping.Statement.Insertion
Purpose: Insert statements, and what is to be done with what they report.
Main exports: checkWidth, InsertPlan, Dialect.insert, InsertPlan.Plans,
  Dialect.insert_eq_ok_iff, Dialect.exists_insert
-/
import RecordMapping.Dialect
import RecordMapping.Record.Metadata
import RecordMapping.Statement
import RecordMapping.Table

namespace RecordMapping

/-!
An insert sends every field except those the database is to fill in: an
identifying field that is `NULL` or zero, and a nullable field that is `NULL`.
What the database generates is asked for in the way of the dialect.
-/

/-- Refuses values that are not one per mapped field. -/
def checkWidth (metadata : RecordMeta) (values : List Value) : Outcome Unit :=
  if values.length = metadata.fields.length then .ok ()
  else
    misconfigured
      (.valueCount metadata.typeName metadata.fields.length values.length)

/-- An insert statement and the use of its outcome. -/
structure InsertPlan where
  statement : Statement
  /-- The columns that are written. -/
  columns : List String
  /-- The identifying columns that come back in a row. -/
  returning : List String
  /-- The field that receives the last identifier a driver reports. -/
  lastIdField : Option Nat
deriving Repr

namespace InsertPlan

/-- Whether an insert sends a field. -/
def sends (table : Table) (definition : FieldDef) (value : Value) : Bool :=
  !(table.isId definition.column && (value.isNull || value.isZero)) &&
    !(definition.nullable && value.isNull)

/-- The fields that an insert sends, with their values. -/
def sentFields (table : Table) (metadata : RecordMeta) (values : List Value) :
    List (FieldDef × Value) :=
  (metadata.fields.zip values).filter fun (definition, value) =>
    sends table definition value

/-- The identifying columns that a row of the insert brings back. -/
def returnedColumns (method : InsertMethod) (table : Table) (metadata : RecordMeta) :
    List String :=
  if method.returnsRow then
    table.ids.filterMap fun id => (metadata.field? id).map (·.column)
  else []

/-- The field of the only identifying column, if the insert leaves it out and
the driver reports the last identifier. -/
def reportedField (method : InsertMethod) (table : Table) (metadata : RecordMeta)
    (columns : List String) : Option Nat :=
  if method = .lastInsertId ∧ table.ids.length = 1 then
    (table.ids.findSome? metadata.fieldIndex?).filter fun index =>
      !((metadata.columns[index]?).any columns.contains)
  else none

/-- Identifiers between commas. -/
def identifiers (dialect : Dialect) (columns : List String) : String :=
  Text.separated ", " (columns.map dialect.identifier)

/-- The text of an insert statement. -/
def text (dialect : Dialect) (table : Table) (columns returning : List String) : String :=
  "INSERT INTO " ++ dialect.identifier table.name ++
    (if columns.isEmpty then "" else " (" ++ identifiers dialect columns ++ ")") ++
    (if dialect.insertMethod = .output ∧ returning ≠ [] then
      "\nOUTPUT " ++
        Text.separated ", "
          (returning.map fun column => "INSERTED." ++ dialect.identifier column)
    else "") ++
    (if columns.isEmpty then
      if dialect.insertMethod = .output then Dialect.standardDefaultValues
      else dialect.defaultValues
    else
      "\nVALUES (" ++
        Text.separated ", " ((List.range columns.length).map dialect.placeholder) ++ ")") ++
    (if dialect.insertMethod = .returning ∧ returning ≠ [] then
      "\nRETURNING " ++ identifiers dialect returning
    else "")

end InsertPlan

/-- The insert of a record with the given field values into a table. -/
def Dialect.insert (dialect : Dialect) (table : Table) (metadata : RecordMeta)
    (values : List Value) : Outcome InsertPlan := do
  table.validate
  checkWidth metadata values
  let sent := InsertPlan.sentFields table metadata values
  let columns := sent.map fun (definition, _) => definition.column
  let returning := InsertPlan.returnedColumns dialect.insertMethod table metadata
  return {
    statement :=
      ⟨InsertPlan.text dialect table columns returning, sent.map (·.2)⟩
    columns := columns
    returning := returning
    lastIdField :=
      InsertPlan.reportedField dialect.insertMethod table metadata columns }

/-- What a plan says of the values that are to be inserted. -/
structure InsertPlan.Plans (plan : InsertPlan) (dialect : Dialect) (table : Table)
    (metadata : RecordMeta) (values : List Value) : Prop where
  sql : plan.statement.sql = text dialect table plan.columns plan.returning
  columns : plan.columns =
    (sentFields table metadata values).map fun (definition, _) => definition.column
  parameters : plan.statement.parameters = (sentFields table metadata values).map (·.2)
  returning : plan.returning = returnedColumns dialect.insertMethod table metadata
  lastIdField : plan.lastIdField =
    reportedField dialect.insertMethod table metadata plan.columns

theorem InsertPlan.Plans.returning_eq_nil {plan : InsertPlan} {dialect : Dialect}
    {table : Table} {metadata : RecordMeta} {values : List Value}
    (plans : plan.Plans dialect table metadata values)
    (silent : dialect.insertMethod.returnsRow = false) : plan.returning = [] := by
  simp [plans.returning, returnedColumns, silent]

theorem checkWidth_eq_ok_iff {metadata : RecordMeta} {values : List Value} :
    checkWidth metadata values = .ok () ↔ values.length = metadata.fields.length := by
  unfold checkWidth
  split
  · simp_all
  · simp_all [misconfigured]

/-- A valid table and one value for each field are all that a plan needs. -/
theorem Dialect.insert_eq_ok_iff {dialect : Dialect} {table : Table} {metadata : RecordMeta}
    {values : List Value} {plan : InsertPlan} :
    dialect.insert table metadata values = .ok plan ↔
      table.validate = .ok () ∧ values.length = metadata.fields.length ∧
        plan.Plans dialect table metadata values := by
  rw [← checkWidth_eq_ok_iff]
  unfold Dialect.insert
  cases table.validate with
  | error failure => simp [bind, Except.bind]
  | ok _ =>
      cases checkWidth metadata values with
      | error failure => simp [bind, Except.bind]
      | ok _ =>
          simp only [bind, Except.bind, pure, Except.pure, Except.ok.injEq, true_and]
          constructor
          · rintro rfl
            exact ⟨rfl, rfl, rfl, rfl, rfl⟩
          · intro plans
            obtain ⟨⟨_, _⟩, _, _, _⟩ := plan
            obtain ⟨sql, columns, parameters, returning, lastIdField⟩ := plans
            dsimp only at sql columns parameters returning lastIdField
            subst sql columns parameters returning lastIdField
            rfl

/-- A valid table and one value for each field have a plan. -/
theorem Dialect.exists_insert (dialect : Dialect) {table : Table} {metadata : RecordMeta}
    {values : List Value} (valid : table.validate = .ok ())
    (width : values.length = metadata.fields.length) :
    ∃ plan, dialect.insert table metadata values = .ok plan ∧
      InsertPlan.Plans plan dialect table metadata values := by
  obtain ⟨plan, planned⟩ : ∃ plan, dialect.insert table metadata values = .ok plan := by
    unfold Dialect.insert
    rw [valid, checkWidth_eq_ok_iff.mpr width]
    exact ⟨_, rfl⟩
  exact ⟨plan, planned, (Dialect.insert_eq_ok_iff.mp planned).2.2⟩

end RecordMapping
