/-
Module: RecordMapping.Proofs.UpdatePartition
Purpose: An update splits the fields of a record into those it sets, those it finds the
  row by, and those it leaves alone.
Main exports: Grammar.UpdateText, Grammar.readUpdate, UpdatePartition,
  update_partitions_record
-/
import RecordMapping.Proofs.ChangeReading
import RecordMapping.Proofs.FlawedCalls

namespace RecordMapping

/-!
The columns that are set are found by a walk over the fields, those in the conditions by
a walk over the identifying columns of the table, and the placeholders are numbered
through both.  The two walks know nothing of each other; that they meet no field twice
rests on the names of columns alone.
-/

/-! ### The text of an update -/

namespace Grammar

/-- What the text of an update says: the table, the columns that are assigned the
parameters with the given indexes, and the columns that have to equal theirs. -/
structure UpdateText where
  table : String
  assignments : List (String × Nat)
  conditions : List (String × Nat)
deriving Repr, DecidableEq

/-- An update of a dialect. -/
def updating (dialect : Dialect) : Reader UpdateText := do
  require "UPDATE "
  let table ← identifier dialect
  require "\nSET "
  let assigned ← list ", " (binding dialect)
  let found ← conditions dialect assigned.length
  return ⟨table, assigned, found⟩

/-- A text that is an update from its beginning to its end. -/
def readUpdate (dialect : Dialect) (text : String) : Option UpdateText :=
  match updating dialect text.toList with
  | some (update, []) => some update
  | _ => none

variable {dialect : Dialect}

/-- An update is read as its table, the columns that it sets and the columns of its
conditions, whose parameters go on behind those of the former. -/
theorem readUpdate_text (spaced : dialect.Spaced) (table : String)
    {assigned conditional : List String} (filled : assigned ≠ []) (keyed : conditional ≠ []) :
    readUpdate dialect
        ("UPDATE " ++ dialect.identifier table ++ "\nSET " ++
          Text.separated ", " (dialect.bindings 0 assigned) ++
          dialect.conditions assigned.length conditional) =
      some ⟨table, assigned.zipIdx, conditional.zipIdx assigned.length⟩ := by
  have assignments : Reads (list ", " (binding dialect))
      (Text.separated ", " (dialect.bindings 0 assigned)) assigned.zipIdx
      fun rest => EndsNumber rest ∧ ¬ ", ".toList <+: rest := by
    simpa using reads_bindings spaced (by decide : ", " ≠ "") (by simp [EndsNumber]) 0 filled
  have selection : Reads (conditions dialect assigned.zipIdx.length)
      (dialect.conditions assigned.length conditional) (conditional.zipIdx assigned.length)
      fun rest => rest = [] := by
    rw [List.length_zipIdx]
    exact reads_conditions spaced assigned.length keyed
  have whole : Reads (updating dialect)
      ("UPDATE " ++ (dialect.identifier table ++ ("\nSET " ++
        (Text.separated ", " (dialect.bindings 0 assigned) ++
          dialect.conditions assigned.length conditional))))
      ⟨table, assigned.zipIdx, conditional.zipIdx assigned.length⟩
      fun rest => rest = [] := by
    refine (reads_require "UPDATE ").bind ?_ fun _ _ => trivial
    refine (reads_identifier dialect table).bind ?_ ?_
    · refine (reads_require "\nSET ").bind ?_ fun _ _ => trivial
      refine assignments.bind (selection.map (UpdateText.mk table assigned.zipIdx)) ?_
      intro rest _
      rw [Dialect.conditions, String.toList_append, List.append_assoc]
      exact ⟨by simp [EndsNumber], by simp⟩
    · intro rest _
      rw [String.toList_append, List.append_assoc]
      exact endsName_of_begins spaced (List.prefix_append _ _) (by decide)
  have read := whole [] rfl
  rw [List.append_nil] at read
  simp only [String.append_assoc, readUpdate, read]

end Grammar

/-! ### The split of a record -/

/-- What a planned update says of the fields of a record with their values: which ones
it sets, and which ones it finds the row by. -/
structure UpdatePartition (dialect : Dialect) (table : Table) (metadata : RecordMeta)
    (values : List Value) (statement : Statement) (assigned keys : List (FieldDef × Value)) :
    Prop where
  /-- Its dialect reads the columns of both, numbered in the order of the text. -/
  text : dialect.Spaced → Grammar.readUpdate dialect statement.sql = some
    ⟨table.name, (assigned.map fun field => field.1.column).zipIdx,
      (keys.map fun field => field.1.column).zipIdx assigned.length⟩
  /-- The parameter of each number is the value beside the column with that number. -/
  parameters : statement.parameters = (assigned ++ keys).map Prod.snd
  /-- What is set keeps the order of the fields. -/
  ordered : assigned.Sublist (metadata.fields.zip values)
  complete : ∀ field ∈ metadata.fields.zip values, field ∈ assigned ↔ table.SetsField field
  /-- There is one key for each identifying column, in the order of the table. -/
  keyed : List.Forall₂ (metadata.KeyField values) table.ids keys
  apart : ∀ field ∈ assigned, ∀ key ∈ keys,
    Text.sameColumn field.1.column key.1.column = false
  /-- The insert of the same values sends what is set, and identifying columns at most
  beside it. -/
  inserted : ∃ plan, dialect.insert table metadata values = .ok plan ∧
    columnValues assigned = (plan.columns.zip plan.statement.parameters).filter
      fun sent => !table.isId sent.1

section Partition

variable {dialect : Dialect} {table : Table} {metadata : RecordMeta} {values : List Value}

/-- The column of a key is identifying. -/
theorem isId_of_keyed {keys : List (FieldDef × Value)}
    (keyed : List.Forall₂ (metadata.KeyField values) table.ids keys) {key : FieldDef × Value}
    (member : key ∈ keys) : table.isId key.1.column = true := by
  obtain ⟨id, identified, _, same, _⟩ := exists_mem_of_forall₂ keyed member
  exact Table.isId_of_sameColumn identified same

/-- What an update sets is what an insert sends of the fields that do not identify. -/
theorem updatedFields_eq_filter_sentFields (table : Table) (metadata : RecordMeta)
    (values : List Value) :
    updatedFields table metadata values =
      (InsertPlan.sentFields table metadata values).filter
        fun field => !table.isId field.1.column := by
  rw [updatedFields, InsertPlan.sentFields, List.filter_filter]
  refine List.filter_congr fun field _ => ?_
  cases identifies : table.isId field.1.column <;> simp [InsertPlan.sends, identifies]

theorem columnValues_updatedFields {plan : InsertPlan}
    (plans : plan.Plans dialect table metadata values) :
    columnValues (updatedFields table metadata values) =
      (plan.columns.zip plan.statement.parameters).filter fun sent => !table.isId sent.1 := by
  rw [plans.columns, plans.parameters, List.zip_map', List.filter_map,
    updatedFields_eq_filter_sentFields]
  rfl

theorem updatePartition_of_update {statement : Statement}
    (planned : dialect.update table metadata values = .ok statement) :
    ∃ assigned keys, UpdatePartition dialect table metadata values statement assigned keys := by
  obtain ⟨valid, width, keys, keyed, filled, rfl⟩ := Dialect.update_eq_ok_iff.mp planned
  obtain ⟨_, identified, _⟩ := Table.validate_eq_ok_iff.mp valid
  have assignments :
      ((updatedFields table metadata values).map fun field => field.1.column) ≠ [] := by
    simpa using filled
  have conditions : (keys.map fun field => field.1.column) ≠ [] := by
    intro none
    obtain rfl := List.map_eq_nil_iff.mp none
    exact identified (List.forall₂_nil_right_iff.mp keyed)
  refine ⟨updatedFields table metadata values, keys, ?_, rfl, List.filter_sublist, ?_, keyed,
    ?_, ?_⟩
  · intro spaced
    simpa using Grammar.readUpdate_text spaced table.name assignments conditions
  · intro field member
    rw [mem_updatedFields]
    exact ⟨fun both => both.2, fun sets => ⟨member, sets⟩⟩
  · intro field member key chosen
    obtain ⟨_, plain, _⟩ := mem_updatedFields.mp member
    by_contra alike
    rw [Table.isId_congr (by simpa using alike), isId_of_keyed keyed chosen] at plain
    cases plain
  · obtain ⟨plan, inserted, plans⟩ := dialect.exists_insert valid width
    exact ⟨plan, inserted, columnValues_updatedFields plans⟩

end Partition

/-- An update is planned exactly if the table is in order, there is a value for each
field, every identifying column is mapped with a value other than `NULL`, and there is a
field to set.  It then splits the fields into those it sets, those it finds the row by,
and those it leaves alone. -/
theorem update_partitions_record (dialect : Dialect) (table : Table) (metadata : RecordMeta)
    (values : List Value) :
    ((∃ statement, dialect.update table metadata values = .ok statement) ↔
        table.validate = .ok () ∧ values.length = metadata.fields.length ∧
          (∀ id ∈ table.ids, ∃ field, metadata.KeyField values id field) ∧
          ∃ field ∈ metadata.fields.zip values, table.SetsField field) ∧
      ∀ statement, dialect.update table metadata values = .ok statement →
        ∃ assigned keys,
          UpdatePartition dialect table metadata values statement assigned keys := by
  constructor
  · have settable : updatedFields table metadata values ≠ [] ↔
        ∃ field ∈ metadata.fields.zip values, table.SetsField field := by
      constructor
      · intro filled
        obtain ⟨field, member⟩ := List.exists_mem_of_ne_nil _ filled
        exact ⟨field, mem_updatedFields.mp member⟩
      · rintro ⟨field, sets⟩
        exact List.ne_nil_of_mem (mem_updatedFields.mpr sets)
    rw [← exists_forall₂_iff, ← settable]
    constructor
    · rintro ⟨statement, planned⟩
      obtain ⟨valid, width, keys, keyed, filled, _⟩ := Dialect.update_eq_ok_iff.mp planned
      exact ⟨valid, width, ⟨keys, keyed⟩, filled⟩
    · rintro ⟨valid, width, ⟨keys, keyed⟩, filled⟩
      exact ⟨_, Dialect.update_eq_ok_iff.mpr ⟨valid, width, keys, keyed, filled, rfl⟩⟩
  · intro statement planned
    exact updatePartition_of_update planned

/-- A table and columns named to break out of their quotes, and identifying columns in
other cases than those of the record: the blank text and the `NULL` of a field that is
not nullable are set, the `NULL` of the nullable field is left alone, and the row is found
by both keys, of which one is a zero. -/
theorem update_partitions_record_hostile_names :
    let table : Table := ⟨"a\"\nSET \"b", ["KEY", "part]"]⟩
    let metadata : RecordMeta :=
      ⟨"Odd", [⟨"part", "Part]", false, false, true⟩, ⟨"note", "no\"te", true, false, true⟩,
        ⟨"gone", "gone", true, false, true⟩, ⟨"mark", "mark = $9", false, false, true⟩,
        ⟨"key", "key", false, false, true⟩], _, rfl⟩
    let values : List Value :=
      [.ofInt .int64 3, .varchar (some ""), .varchar none, .varchar none, .ofInt .int64 0]
    Dialect.postgres.Spaced ∧
      ∃ statement assigned keys,
        Dialect.postgres.update table metadata values = .ok statement ∧
        UpdatePartition .postgres table metadata values statement assigned keys ∧
        Grammar.readUpdate .postgres statement.sql =
          some ⟨"a\"\nSET \"b", [("no\"te", 0), ("mark = $9", 1)], [("key", 2), ("Part]", 3)]⟩ ∧
        statement.parameters =
          [.varchar (some ""), .varchar none, .ofInt .int64 0, .ofInt .int64 3] := by
  intro table metadata values
  have spaced : Dialect.postgres.Spaced := Dialect.spaced_of_known (by decide)
  obtain ⟨statement, planned⟩ :
      ∃ statement, Dialect.postgres.update table metadata values = .ok statement := ⟨_, rfl⟩
  obtain ⟨assigned, keys, split⟩ :=
    (update_partitions_record .postgres table metadata values).2 statement planned
  refine ⟨spaced, statement, assigned, keys, planned, split, ?_, ?_⟩
  · cases planned
    decide +kernel
  · cases planned
    rfl

end RecordMapping
