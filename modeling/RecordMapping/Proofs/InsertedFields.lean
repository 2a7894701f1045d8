/-
Module: RecordMapping.Proofs.InsertedFields
Purpose: An insert sends every field except those that the database is to fill in, and
  asks for the identifiers that it leaves out.
Main exports: Table.LeavesOut, RecordMeta.MappedTo, InsertCoverage, InsertPlan.Plans.covers,
  insert_covers_fields_and_ids
-/
import RecordMapping.Proofs.ColumnLookup
import RecordMapping.Proofs.KeyResolution
import RecordMapping.Statement.Insertion

namespace RecordMapping

/-!
What an insert sends is decided field by field; what it asks for is found by walks over
the identifying columns of the table.  An identifier that is left out and not asked for
would be lost to the caller, so the two have to agree on which fields identify, in
whatever case the columns are written.
-/

/-- A field, with its value, that an insert leaves to the database: an identifying one
that is `NULL` or a zero, or a nullable one that is `NULL`. -/
def Table.LeavesOut (table : Table) (field : FieldDef × Value) : Prop :=
  (table.isId field.1.column = true ∧ (field.2.isNull = true ∨ field.2.Zero)) ∨
    (field.1.nullable = true ∧ field.2.isNull = true)

/-- A column of a record that is the one meant by a name, in any ASCII case. -/
def RecordMeta.MappedTo (metadata : RecordMeta) (name column : String) : Prop :=
  column ∈ metadata.columns ∧ Text.sameColumn column name = true

/-- Whether a record has a column for a name. -/
def RecordMeta.maps (metadata : RecordMeta) (name : String) : Bool :=
  metadata.columns.any fun column => Text.sameColumn column name

/-- What the plan of an insert makes of the fields of a record with their values. -/
structure InsertCoverage (dialect : Dialect) (table : Table) (metadata : RecordMeta)
    (values : List Value) (plan : InsertPlan) : Prop where
  ordered : plan.columns.Sublist metadata.columns
  /-- No column is written twice, in whatever case. -/
  distinct : (plan.columns.map Text.columnKey).Nodup
  /-- Each parameter is the value of the field whose column has its position. -/
  parameters : List.Forall₂
    (fun column value => ∃ field ∈ metadata.fields.zip values,
      field.1.column = column ∧ field.2 = value) plan.columns plan.statement.parameters
  omitted : ∀ field ∈ metadata.fields.zip values,
    field.1.column ∉ plan.columns ↔ table.LeavesOut field
  /-- A zero that does not identify is sent, and so are a `NULL` in a field that is
  neither identifying nor nullable and an identifier that is neither `NULL` nor a zero. -/
  sent : ∀ field ∈ metadata.fields.zip values,
    (table.isId field.1.column = false ∧
        (field.2.Zero ∨ field.1.nullable = false ∧ field.2.isNull = true)) ∨
      (table.isId field.1.column = true ∧ field.2.Identifies) →
    field.1.column ∈ plan.columns
  /-- A row brings back every identifying column of the record, in the order of the
  table. -/
  returned : dialect.insertMethod.returnsRow = true →
    List.Forall₂ metadata.MappedTo (table.ids.filter metadata.maps) plan.returning ∧
      (∀ column ∈ metadata.columns, table.isId column = true → column ∈ plan.returning) ∧
      plan.lastIdField = none
  /-- A number that is reported is that of the only identifying column, if this is left
  out. -/
  reported : dialect.insertMethod = .lastInsertId → ∀ id, table.ids = [id] →
    plan.returning = [] ∧
      ∀ index, plan.lastIdField = some index ↔
        ∃ field, (metadata.fields.zip values)[index]? = some field ∧
          Text.sameColumn field.1.column id = true ∧ field.1.column ∉ plan.columns
  unreported : dialect.insertMethod = .noIdRetrieval ∨
      (dialect.insertMethod = .lastInsertId ∧ table.ids.length ≠ 1) →
    plan.returning = [] ∧ plan.lastIdField = none

section Coverage

variable {dialect : Dialect} {table : Table} {metadata : RecordMeta} {values : List Value}
  {plan : InsertPlan}

/-! ### What is sent -/

theorem sends_iff {field : FieldDef × Value} :
    InsertPlan.sends table field.1 field.2 = true ↔ ¬ table.LeavesOut field := by
  unfold InsertPlan.sends Table.LeavesOut
  rw [← Value.isZero_iff]
  simp [not_or, imp_iff_not_or]

theorem Table.not_leavesOut {field : FieldDef × Value}
    (kept : (table.isId field.1.column = false ∧
        (field.2.Zero ∨ field.1.nullable = false ∧ field.2.isNull = true)) ∨
      (table.isId field.1.column = true ∧ field.2.Identifies)) : ¬ table.LeavesOut field := by
  rcases kept with ⟨plain, zero | ⟨required, null⟩⟩ | ⟨identifies, present, filled⟩
  · have present : field.2.isNull = false := by
      by_contra null
      have unzero := Value.isZero_eq_false_of_isNull (by simpa using null)
      rw [Value.isZero_iff.mpr zero] at unzero
      cases unzero
    simp [LeavesOut, plain, present]
  · simp [LeavesOut, plain, required]
  · simp [LeavesOut, present, filled]

theorem mem_sentFields {field : FieldDef × Value} :
    field ∈ InsertPlan.sentFields table metadata values ↔
      field ∈ metadata.fields.zip values ∧ ¬ table.LeavesOut field := by
  rw [← sends_iff]
  simp [InsertPlan.sentFields, List.mem_filter]

/-- Columns are told apart by their names, so a column is written for the field that it
belongs to. -/
theorem mem_columns_iff (plans : plan.Plans dialect table metadata values)
    {field : FieldDef × Value} (member : field ∈ metadata.fields.zip values) :
    field.1.column ∈ plan.columns ↔ ¬ table.LeavesOut field := by
  rw [plans.columns, List.mem_map]
  constructor
  · rintro ⟨other, sent, named⟩
    obtain ⟨present, kept⟩ := mem_sentFields.mp sent
    have same : Text.sameColumn other.1.column field.1.column = true := by
      simp [named]
    rwa [RecordMeta.eq_of_mem_zip present member same] at kept
  · intro kept
    exact ⟨field, mem_sentFields.mpr ⟨member, kept⟩, rfl⟩

theorem columns_sublist (plans : plan.Plans dialect table metadata values)
    (width : values.length = metadata.fields.length) :
    plan.columns.Sublist metadata.columns := by
  have definitions : (metadata.fields.zip values).map Prod.fst = metadata.fields :=
    List.map_fst_zip (Nat.le_of_eq width.symm)
  have all : (metadata.fields.zip values).map (fun field => field.1.column) =
      metadata.columns := by
    rw [RecordMeta.columns, ← definitions, List.map_map, definitions]
    rfl
  rw [plans.columns, ← all]
  exact List.filter_sublist.map _

theorem columns_distinct (metadata : RecordMeta) {columns : List String}
    (ordered : columns.Sublist metadata.columns) : (columns.map Text.columnKey).Nodup := by
  refine List.Nodup.sublist (ordered.map Text.columnKey) ?_
  simpa [RecordMeta.columns, RecordMeta.columnKeys, Function.comp_def] using
    metadata.columnKeys_nodup

theorem parameters_beside_columns (plans : plan.Plans dialect table metadata values) :
    List.Forall₂
      (fun column value => ∃ field ∈ metadata.fields.zip values,
        field.1.column = column ∧ field.2 = value) plan.columns plan.statement.parameters := by
  rw [plans.columns, plans.parameters, List.forall₂_map_left_iff, List.forall₂_map_right_iff,
    List.forall₂_same]
  intro field sent
  exact ⟨field, (mem_sentFields.mp sent).1, rfl, rfl⟩

/-! ### What is asked for -/

theorem field?_eq_none_of_not_maps {id : String} (unmapped : metadata.maps id = false) :
    metadata.field? id = none := by
  rw [Option.eq_none_iff_forall_ne_some]
  intro definition found
  obtain ⟨member, same⟩ := RecordMeta.field?_eq_some_iff.mp found
  have present : definition.column ∈ metadata.columns := List.mem_map_of_mem member
  rw [RecordMeta.maps, List.any_eq_false] at unmapped
  exact unmapped definition.column present same

theorem exists_field?_of_maps {id : String} (mapped : metadata.maps id = true) :
    ∃ definition, metadata.field? id = some definition ∧
      metadata.MappedTo id definition.column := by
  obtain ⟨column, member, same⟩ := List.any_eq_true.mp mapped
  obtain ⟨definition, held, rfl⟩ := List.mem_map.mp member
  exact ⟨definition, RecordMeta.field?_eq_some_iff.mpr ⟨held, same⟩, member, same⟩

theorem forall₂_returned (metadata : RecordMeta) (ids : List String) :
    List.Forall₂ metadata.MappedTo (ids.filter metadata.maps)
      (ids.filterMap fun id => (metadata.field? id).map fun field => field.column) := by
  induction ids with
  | nil => exact .nil
  | cons id rest inductionHypothesis =>
      cases mapped : metadata.maps id with
      | false =>
          simpa [mapped, field?_eq_none_of_not_maps mapped] using inductionHypothesis
      | true =>
          obtain ⟨definition, found, answers⟩ := exists_field?_of_maps mapped
          simpa [mapped, found] using ⟨answers, inductionHypothesis⟩

theorem mem_returned {column : String} (member : column ∈ metadata.columns)
    (identifies : table.isId column = true) :
    column ∈ table.ids.filterMap fun id => (metadata.field? id).map fun field => field.column := by
  obtain ⟨id, present, same⟩ := Table.isId_iff.mp identifies
  obtain ⟨definition, held, rfl⟩ := List.mem_map.mp member
  rw [Text.sameColumn_comm] at same
  have found := RecordMeta.field?_eq_some_iff.mpr ⟨held, same⟩
  exact List.mem_filterMap.mpr ⟨id, present, by simp [found]⟩

/-- The field of the only identifying column is reported if its column is not written. -/
theorem reportedField_eq_some_iff (width : values.length = metadata.fields.length)
    {id : String} (single : table.ids = [id]) {columns : List String} {index : Nat} :
    InsertPlan.reportedField .lastInsertId table metadata columns = some index ↔
      ∃ field, (metadata.fields.zip values)[index]? = some field ∧
        Text.sameColumn field.1.column id = true ∧ field.1.column ∉ columns := by
  have located : InsertPlan.reportedField .lastInsertId table metadata columns =
      (metadata.fieldIndex? id).filter fun index =>
        !((metadata.columns[index]?).any columns.contains) := by
    simp [InsertPlan.reportedField, single]
  rw [located, Option.filter_eq_some_iff]
  constructor
  · rintro ⟨mapped, unwritten⟩
    obtain ⟨field, placed, same⟩ := RecordMeta.exists_zip_of_fieldIndex? width mapped
    obtain ⟨defined, _⟩ := List.getElem?_zip_eq_some.mp placed
    refine ⟨field, placed, same, ?_⟩
    simpa [RecordMeta.columns, defined] using unwritten
  · rintro ⟨field, placed, same, unwritten⟩
    obtain ⟨defined, _⟩ := List.getElem?_zip_eq_some.mp placed
    refine ⟨RecordMeta.fieldIndex?_eq_some_iff.mpr ⟨field.1, defined, same⟩, ?_⟩
    simpa [RecordMeta.columns, defined] using unwritten

/-- A plan covers the fields that it was made from. -/
theorem InsertPlan.Plans.covers (plans : plan.Plans dialect table metadata values)
    (width : values.length = metadata.fields.length) :
    InsertCoverage dialect table metadata values plan := by
  have ordered := columns_sublist plans width
  refine ⟨ordered, columns_distinct metadata ordered, parameters_beside_columns plans,
    ?_, ?_, ?_, ?_, ?_⟩
  · intro field member
    rw [mem_columns_iff plans member, not_not]
  · intro field member kept
    exact (mem_columns_iff plans member).mpr (Table.not_leavesOut kept)
  · intro answers
    have returning : plan.returning = table.ids.filterMap fun id =>
        (metadata.field? id).map fun field => field.column := by
      rw [plans.returning, InsertPlan.returnedColumns, if_pos answers]
    rw [returning]
    refine ⟨forall₂_returned metadata table.ids, fun column => mem_returned, ?_⟩
    rw [plans.lastIdField, InsertPlan.reportedField, if_neg]
    rintro ⟨method, _⟩
    simp [method, InsertMethod.returnsRow] at answers
  · intro method id single
    refine ⟨plans.returning_eq_nil (by rw [method]; rfl), fun index => ?_⟩
    rw [plans.lastIdField, method]
    exact reportedField_eq_some_iff width single
  · rintro (method | ⟨method, several⟩)
    · refine ⟨plans.returning_eq_nil (by rw [method]; rfl), ?_⟩
      simp [plans.lastIdField, InsertPlan.reportedField, method]
    · refine ⟨plans.returning_eq_nil (by rw [method]; rfl), ?_⟩
      simp [plans.lastIdField, InsertPlan.reportedField, several]

/-! ### What is asked for, and what is stored -/

/-- Columns are asked for if rows answer and the record has one of them. -/
theorem returning_ne_nil_iff
    (plans : plan.Plans dialect table metadata values)
    (covers : InsertCoverage dialect table metadata values plan) :
    plan.returning ≠ [] ↔ dialect.insertMethod.returnsRow = true ∧
      ∃ id ∈ table.ids, metadata.maps id = true := by
  cases answers : dialect.insertMethod.returnsRow with
  | false => simp [plans.returning_eq_nil answers]
  | true =>
      have even := (covers.returned answers).1.length_eq
      rw [← List.length_pos_iff, ← even, List.length_pos_iff]
      simp [List.filter_eq_nil_iff]

/-- The columns that are asked for are identifying. -/
theorem isId_of_returned
    (plans : plan.Plans dialect table metadata values)
    (covers : InsertCoverage dialect table metadata values plan) {column : String}
    (asked : column ∈ plan.returning) : table.isId column = true := by
  obtain ⟨answers, _⟩ := (returning_ne_nil_iff plans covers).mp (List.ne_nil_of_mem asked)
  obtain ⟨id, member, _, same⟩ := exists_mem_of_forall₂ (covers.returned answers).1 asked
  exact Table.isId_of_sameColumn (List.mem_filter.mp member).1 same

/-- A number is stored for the only identifying column, if it is left out. -/
theorem lastIdField_eq_some
    (plans : plan.Plans dialect table metadata values)
    (covers : InsertCoverage dialect table metadata values plan) {index : Nat}
    (stores : plan.lastIdField = some index) :
    dialect.insertMethod = .lastInsertId ∧ ∃ id field, table.ids = [id] ∧
      (metadata.fields.zip values)[index]? = some field ∧
      Text.sameColumn field.1.column id = true ∧ table.LeavesOut field := by
  have asks : dialect.insertMethod = .lastInsertId ∧ table.ids.length = 1 := by
    by_contra silent
    rw [plans.lastIdField, InsertPlan.reportedField, if_neg silent] at stores
    cases stores
  obtain ⟨method, single⟩ := asks
  obtain ⟨id, only⟩ := List.length_eq_one_iff.mp single
  obtain ⟨field, placed, same, unwritten⟩ :=
    ((covers.reported method id only).2 index).mp stores
  exact ⟨method, id, field, only, placed, same,
    (covers.omitted field (List.mem_of_getElem? placed)).mp unwritten⟩

/-- The field for a number is an identifying one. -/
theorem isId_of_lastIdField
    (plans : plan.Plans dialect table metadata values)
    (covers : InsertCoverage dialect table metadata values plan) {index : Nat}
    (stores : plan.lastIdField = some index) {definition : FieldDef}
    (defined : metadata.fields[index]? = some definition) :
    table.isId definition.column = true := by
  obtain ⟨_, id, field, only, placed, same, _⟩ := lastIdField_eq_some plans covers stores
  obtain ⟨here, _⟩ := List.getElem?_zip_eq_some.mp placed
  obtain rfl := Option.some.inj (defined.symm.trans here)
  exact Table.isId_of_sameColumn (by simp [only]) same

end Coverage

/-- A valid table and a value for each field give a plan that sends every field but those
the database is to fill in, and that asks for the identifiers among these in the way of
the dialect. -/
theorem insert_covers_fields_and_ids (dialect : Dialect) (table : Table)
    (metadata : RecordMeta) (values : List Value) (valid : table.validate = .ok ())
    (width : values.length = metadata.fields.length) :
    ∃ plan, dialect.insert table metadata values = .ok plan ∧
      InsertCoverage dialect table metadata values plan := by
  obtain ⟨plan, planned, plans⟩ := dialect.exists_insert valid width
  exact ⟨plan, planned, plans.covers width⟩

/-- The only identifying column is written in another case than in the record and is to be
generated: the flag is sent although it is a zero, the note is left out, and the number
that is reported goes to the third field. -/
theorem insert_covers_fields_and_ids_generated_number :
    let table : Table := ⟨"users", ["ID"]⟩
    let metadata : RecordMeta :=
      ⟨"User", [⟨"note", "note", true, false, true⟩, ⟨"flag", "Flag", false, false, true⟩,
        ⟨"id", "Id", false, false, true⟩], _, rfl⟩
    let values : List Value := [.varchar none, .boolean (some false), .ofInt .uint64 0]
    table.validate = .ok () ∧ values.length = metadata.fields.length ∧
      ∃ plan, Dialect.mysql.insert table metadata values = .ok plan ∧
        InsertCoverage .mysql table metadata values plan ∧ plan.columns = ["Flag"] ∧
        plan.lastIdField = some 2 := by
  intro table metadata values
  obtain ⟨plan, planned, covers⟩ :=
    insert_covers_fields_and_ids .mysql table metadata values rfl rfl
  refine ⟨rfl, rfl, plan, planned, covers, ?_, ?_⟩
  · cases planned
    rfl
  · cases planned
    rfl

end RecordMapping
