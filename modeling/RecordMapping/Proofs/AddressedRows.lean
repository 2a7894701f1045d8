/-
Module: RecordMapping.Proofs.AddressedRows
Purpose: The rows that an update and a delete of the same record find.
Main exports: Grammar.updateAsks, Grammar.deleteAsks, resolve_ofRecord_eq_ok_iff,
  AddressOneRow, changes_spell_columns_differently, changes_address_one_row
-/
import RecordMapping.Proofs.KeyForms
import RecordMapping.Proofs.QualifiedDeletes
import RecordMapping.Proofs.UpdatePartition

namespace RecordMapping

/-!
A record is looked up by its identifying columns, whether it is updated or deleted.  An
update goes from an identifying column of the table to a field of the record and writes
the column of the field; a delete goes the same way for the value alone and writes the
column of the table.  The two are the same column in any ASCII case, and the same text
only if the record spells it as the table does.
-/

/-! ### What a change asks of a row -/

namespace Grammar

/-- The columns of conditions, each with the parameter that it has to equal. -/
def conditionValues (conditions : List (String × Nat)) (parameters : List Value) :
    List (String × Option Value) :=
  conditions.map fun (column, index) => (column, parameters[index]?)

/-- What an update asks of the rows that it changes, as its dialect reads it. -/
def updateAsks (dialect : Dialect) (statement : Statement) :
    Option (List (String × Option Value)) :=
  (readUpdate dialect statement.sql).map fun update =>
    conditionValues update.conditions statement.parameters

/-- What a delete asks of the rows that it removes, as its dialect reads it. -/
def deleteAsks (dialect : Dialect) (statement : Statement) :
    Option (List (String × Option Value)) :=
  (readDelete dialect statement.sql).map fun delete =>
    conditionValues delete.conditions statement.parameters

/-- Columns that are numbered from the first of their own parameters on have to equal
these parameters. -/
theorem conditionValues_zipIdx {columns : List String} {values : List Value}
    (even : columns.length = values.length) (front : List Value) :
    conditionValues (columns.zipIdx front.length) (front ++ values) =
      columns.zip (values.map some) := by
  induction columns generalizing front values with
  | nil => rfl
  | cons column rest inductionHypothesis =>
      cases values with
      | nil => cases even
      | cons value others =>
          have behind := inductionHypothesis (Nat.succ.inj even) (front ++ [value])
          rw [List.length_append, List.append_assoc] at behind
          simpa [conditionValues] using behind

end Grammar

/-! ### Keys of a record -/

section Keys

variable {table : Table} {metadata : RecordMeta} {values : List Value} {id : String}
  {ids : List String} {keys : List (FieldDef × Value)} {value : Value}

/-- A pair of a record is the column of a field with the value of the field. -/
theorem mem_columns_zip {name : String} :
    (name, value) ∈ metadata.columns.zip values ↔
      ∃ field ∈ metadata.fields.zip values, field.1.column = name ∧ field.2 = value := by
  simp [RecordMeta.columns, List.zip_map_left]

/-- No two pairs of a record have columns that differ in case only. -/
theorem columns_zip_distinct (width : values.length = metadata.fields.length) :
    ((metadata.columns.zip values).map fun entry => Text.columnKey entry.1).Nodup := by
  have columns : (metadata.columns.zip values).map Prod.fst = metadata.columns :=
    List.map_fst_zip (by simp [RecordMeta.columns, width])
  have keys : (metadata.columns.zip values).map (fun entry => Text.columnKey entry.1) =
      RecordMeta.columnKeys metadata.fields :=
    calc (metadata.columns.zip values).map (fun entry => Text.columnKey entry.1)
      _ = ((metadata.columns.zip values).map Prod.fst).map Text.columnKey := by
        rw [List.map_map]
        rfl
      _ = RecordMeta.columnKeys metadata.fields := by
        rw [columns, RecordMeta.columns, List.map_map]
        rfl
  rw [keys]
  exact metadata.columnKeys_nodup

/-- The value that a record has for an identifying column is that of the field which an
update finds the row by, if it is not `NULL`. -/
theorem recordHas_iff_keyField (width : values.length = metadata.fields.length) :
    RecordHas (metadata.columns.zip values) id value ∧ value.isNull = false ↔
      ∃ field, metadata.KeyField values id field ∧ field.2 = value := by
  simp only [recordHas_iff_mem (columns_zip_distinct width), mem_columns_zip]
  constructor
  · rintro ⟨⟨_, ⟨field, member, rfl, rfl⟩, same⟩, present⟩
    exact ⟨field, ⟨member, same, present⟩, rfl⟩
  · rintro ⟨field, ⟨member, same, present⟩, rfl⟩
    exact ⟨⟨_, ⟨field, member, rfl, rfl⟩, same⟩, present⟩

/-- The values that identify something are those of the keys of an update that are not
the zeros of their types. -/
theorem recordHas_identifying_iff (width : values.length = metadata.fields.length)
    {found : List Value} :
    List.Forall₂ (RecordHas (metadata.columns.zip values)) ids found ∧
        (∀ value ∈ found, value.Identifies) ↔
      ∃ keys, List.Forall₂ (metadata.KeyField values) ids keys ∧
        (∀ key ∈ keys, ¬ key.2.Zero) ∧ found = keys.map Prod.snd := by
  induction ids generalizing found with
  | nil =>
      constructor
      · rintro ⟨⟨⟩, _⟩
        exact ⟨[], .nil, by simp, rfl⟩
      · rintro ⟨_, ⟨⟩, _, rfl⟩
        exact ⟨.nil, by simp⟩
  | cons id rest inductionHypothesis =>
      constructor
      · rintro ⟨has, identify⟩
        cases has with
        | cons has found =>
            obtain ⟨⟨present, filled⟩, others⟩ := List.forall_mem_cons.mp identify
            obtain ⟨field, key, rfl⟩ := (recordHas_iff_keyField width).mp ⟨has, present⟩
            obtain ⟨keys, keyed, zeroless, rfl⟩ := inductionHypothesis.mp ⟨found, others⟩
            exact ⟨field :: keys, .cons key keyed,
              List.forall_mem_cons.mpr ⟨filled, zeroless⟩, rfl⟩
      · rintro ⟨_, keyed, zeroless, rfl⟩
        cases keyed with
        | @cons _ field _ keys key keyed =>
            obtain ⟨filled, others⟩ := List.forall_mem_cons.mp zeroless
            obtain ⟨has, present⟩ := (recordHas_iff_keyField width).mpr ⟨field, key, rfl⟩
            obtain ⟨found, identify⟩ := inductionHypothesis.mpr ⟨keys, keyed, others, rfl⟩
            exact ⟨.cons has found, List.forall_mem_cons.mpr ⟨⟨present, filled⟩, identify⟩⟩

/-- A record is resolved as a key exactly if an update finds a row by it and none of the
values there is the zero of its type. -/
theorem resolve_ofRecord_eq_ok_iff (width : values.length = metadata.fields.length)
    {resolved : List (String × Value)} :
    (DeleteKey.byRecord (metadata.columns.zip values)).resolve table = .ok resolved ↔
      table.validate = .ok () ∧
        ∃ keys, List.Forall₂ (metadata.KeyField values) table.ids keys ∧
          (∀ key ∈ keys, ¬ key.2.Zero) ∧ resolved = table.ids.zip (keys.map Prod.snd) := by
  rw [DeleteKey.resolve_eq_ok_iff]
  constructor
  · rintro ⟨valid, found, supplies, identify, rfl⟩
    cases supplies with
    | record has =>
        obtain ⟨keys, keyed, zeroless, rfl⟩ := (recordHas_identifying_iff width).mp ⟨has, identify⟩
        exact ⟨valid, keys, keyed, zeroless, rfl⟩
  · rintro ⟨valid, keys, keyed, zeroless, rfl⟩
    obtain ⟨has, identify⟩ := (recordHas_identifying_iff width).mpr ⟨keys, keyed, zeroless, rfl⟩
    exact ⟨valid, _, .record has, identify, rfl⟩

/-- A table and a record have one list of keys. -/
theorem keys_unique (keyed : List.Forall₂ (metadata.KeyField values) ids keys)
    {others : List (FieldDef × Value)}
    (again : List.Forall₂ (metadata.KeyField values) ids others) : keys = others := by
  refine List.right_unique_forall₂' ?_ keyed again
  intro id field other ⟨member, same, _⟩ ⟨present, alike, _⟩
  have agree : Text.sameColumn field.1.column other.1.column = true := by
    rw [Text.sameColumn_iff] at same alike ⊢
    exact same.trans alike.symm
  exact RecordMeta.eq_of_mem_zip member present agree

/-- The keys are written as the table has them exactly if the record has every one of its
columns under its very name. -/
theorem key_columns_eq_iff (keyed : List.Forall₂ (metadata.KeyField values) ids keys) :
    (keys.map fun key => key.1.column) = ids ↔ ∀ id ∈ ids, id ∈ metadata.columns := by
  induction keyed with
  | nil => simp
  | @cons id field rest keys key _ inductionHypothesis =>
      obtain ⟨member, same, _⟩ := key
      have defined : field.1 ∈ metadata.fields := (List.of_mem_zip member).1
      have own : field.1.column = id ↔ id ∈ metadata.columns := by
        constructor
        · rintro rfl
          exact List.mem_map_of_mem defined
        · intro spelled
          obtain ⟨definition, present, rfl⟩ := List.mem_map.mp spelled
          have one : field.1 = definition := List.inj_on_of_nodup_map metadata.columnKeys_nodup
            defined present (Text.sameColumn_iff.mp same)
          rw [one]
      rw [List.map_cons, List.cons.injEq, inductionHypothesis, own, List.forall_mem_cons]

end Keys

/-! ### Both changes -/

/-- What an update and a delete of one record, planned with the given keys, have in common
and in what they differ. -/
structure AddressOneRow (dialect : Dialect) (table : Table) (metadata : RecordMeta)
    (update delete : Statement) (keys : List (FieldDef × Value)) : Prop where
  /-- The update ends in conditions on the columns of the fields, for the last parameters. -/
  updated : ∃ front assigned,
    update.sql = front ++ dialect.conditions assigned.length (keys.map fun key => key.1.column) ∧
      update.parameters = assigned ++ keys.map Prod.snd
  /-- The delete ends in conditions on the columns of the table, for all parameters. -/
  deleted : ∃ front, delete.sql = front ++ dialect.conditions 0 table.ids ∧
    delete.parameters = keys.map Prod.snd
  /-- Its dialect reads what each of them asks for. -/
  updateAsks : dialect.Spaced → Grammar.updateAsks dialect update =
    some ((keys.map fun key => key.1.column).zip ((keys.map Prod.snd).map some))
  deleteAsks : dialect.Spaced → Grammar.deleteAsks dialect delete =
    some (table.ids.zip ((keys.map Prod.snd).map some))
  /-- They ask for the same, to the letter, exactly if the record has the identifying
  columns under their very names. -/
  alike : dialect.Spaced →
    (Grammar.updateAsks dialect update = Grammar.deleteAsks dialect delete ↔
      ∀ id ∈ table.ids, id ∈ metadata.columns)

section Changes

variable {dialect : Dialect} {table : Table} {metadata : RecordMeta} {values : List Value}
  {keys : List (FieldDef × Value)} {statement : Statement}

theorem updateAsks_of_update (spaced : dialect.Spaced)
    (keyed : List.Forall₂ (metadata.KeyField values) table.ids keys)
    (planned : dialect.update table metadata values = .ok statement) :
    Grammar.updateAsks dialect statement =
      some ((keys.map fun key => key.1.column).zip ((keys.map Prod.snd).map some)) := by
  obtain ⟨assigned, found, split⟩ := updatePartition_of_update planned
  obtain rfl := keys_unique keyed split.keyed
  have even : (keys.map fun key => key.1.column).length = (keys.map Prod.snd).length := by simp
  have numbered := Grammar.conditionValues_zipIdx even (assigned.map Prod.snd)
  rw [List.length_map] at numbered
  rw [Grammar.updateAsks, split.text spaced, split.parameters, Option.map_some,
    List.map_append, numbered]

theorem deleteAsks_of_text (spaced : dialect.Spaced) (identified : table.ids ≠ [])
    (even : table.ids.length = (keys.map Prod.snd).length) :
    Grammar.deleteAsks dialect
        ⟨"DELETE FROM " ++ dialect.identifier table.name ++ dialect.conditions 0 table.ids,
          keys.map Prod.snd⟩ =
      some (table.ids.zip ((keys.map Prod.snd).map some)) := by
  have numbered := Grammar.conditionValues_zipIdx even []
  rw [Grammar.deleteAsks, Grammar.readDelete_text spaced table.name identified]
  exact congrArg some numbered

theorem addressOneRow_of_planned {update delete : Statement} {resolved : List (String × Value)}
    (updates : dialect.update table metadata values = .ok update)
    (keyed : List.Forall₂ (metadata.KeyField values) table.ids keys)
    (resolves : resolved = table.ids.zip (keys.map Prod.snd))
    (deletes : dialect.delete table resolved = .ok delete) :
    AddressOneRow dialect table metadata update delete keys := by
  obtain ⟨valid, width, found, again, _, written⟩ := Dialect.update_eq_ok_iff.mp updates
  obtain rfl := keys_unique keyed again
  obtain ⟨_, identified, _⟩ := Table.validate_eq_ok_iff.mp valid
  have even : table.ids.length = (keys.map Prod.snd).length := by simp [keyed.length_eq]
  rw [resolves, dialect.delete_zip valid even.symm] at deletes
  cases deletes
  have updateAsks := fun spaced : dialect.Spaced => updateAsks_of_update spaced keyed updates
  have deleteAsks := fun spaced : dialect.Spaced => deleteAsks_of_text spaced identified even
  refine ⟨?_, ⟨_, rfl, rfl⟩, updateAsks, deleteAsks, fun spaced => ?_⟩
  · have numbered : (updatedFields table metadata values).length =
        ((updatedFields table metadata values).map Prod.snd).length := by simp
    rw [written, List.map_append, numbered]
    exact ⟨_, _, rfl, rfl⟩
  · rw [updateAsks spaced, deleteAsks spaced, Option.some.injEq, ← key_columns_eq_iff keyed]
    constructor
    · intro same
      have columns := congrArg (List.map Prod.fst) same
      rwa [List.map_fst_zip (by simp), List.map_fst_zip (by simpa using Nat.le_of_eq even)] at columns
    · intro same
      rw [same]

end Changes

/-- An update and a delete of the same record may ask for different columns. -/
theorem changes_spell_columns_differently :
    ¬ ∀ (dialect : Dialect) (table : Table) (metadata : RecordMeta) (values : List Value)
      (update delete : Statement) (resolved : List (String × Value)),
      dialect ∈ Dialect.known → dialect.update table metadata values = .ok update →
        (DeleteKey.byRecord (metadata.columns.zip values)).resolve table = .ok resolved →
          dialect.delete table resolved = .ok delete →
            Grammar.updateAsks dialect update = Grammar.deleteAsks dialect delete := by
  intro always
  let metadata : RecordMeta :=
    ⟨"Item", [⟨"id", "id", false, false, true⟩, ⟨"name", "name", false, false, true⟩], _, rfl⟩
  have same := always .postgres ⟨"items", ["ID"]⟩ metadata
    [.ofInt .int64 7, .varchar (some "x")] _ _ _ (by decide) rfl rfl rfl
  exact absurd same (by decide +kernel)

/-- A record that can be updated can be used as the key of a delete if none of its
identifying values is the zero of its type.  Both changes then have a condition for each
identifying column of the table, in the same order and for the same value: the update
names the column as the record has it, and the delete as the table has it. -/
theorem changes_address_one_row (dialect : Dialect) (table : Table) (metadata : RecordMeta)
    (values : List Value) {update : Statement}
    (updates : dialect.update table metadata values = .ok update) :
    ∃ keys, List.Forall₂ (metadata.KeyField values) table.ids keys ∧
      ((∃ resolved, (DeleteKey.byRecord (metadata.columns.zip values)).resolve table =
          .ok resolved) ↔ ∀ key ∈ keys, ¬ key.2.Zero) ∧
      ∀ resolved delete,
        (DeleteKey.byRecord (metadata.columns.zip values)).resolve table = .ok resolved →
          dialect.delete table resolved = .ok delete →
            AddressOneRow dialect table metadata update delete keys := by
  obtain ⟨valid, width, keys, keyed, _, _⟩ := Dialect.update_eq_ok_iff.mp updates
  refine ⟨keys, keyed, ⟨?_, ?_⟩, ?_⟩
  · rintro ⟨resolved, resolves⟩
    obtain ⟨_, others, again, zeroless, _⟩ := (resolve_ofRecord_eq_ok_iff width).mp resolves
    obtain rfl := keys_unique keyed again
    exact zeroless
  · intro zeroless
    exact ⟨_, (resolve_ofRecord_eq_ok_iff width).mpr ⟨valid, keys, keyed, zeroless, rfl⟩⟩
  · intro resolved delete resolves deletes
    obtain ⟨_, others, again, _, same⟩ := (resolve_ofRecord_eq_ok_iff width).mp resolves
    obtain rfl := keys_unique keyed again
    exact addressOneRow_of_planned updates keyed same deletes

/-- A record that has both identifying columns of its table to the letter, quotes and case
included: what the delete asks for is what is read from the update. -/
theorem changes_address_one_row_own_names :
    let table : Table := ⟨"a\"\nSET \"b", ["kEy", "part\" = $9"]⟩
    let metadata : RecordMeta :=
      ⟨"Odd", [⟨"part", "part\" = $9", false, false, true⟩, ⟨"note", "note", true, false, true⟩,
        ⟨"key", "kEy", false, false, true⟩], _, rfl⟩
    let values : List Value := [.ofInt .int64 3, .varchar (some ""), .ofInt .int64 5]
    ∃ update resolved delete, Dialect.postgres.update table metadata values = .ok update ∧
      (DeleteKey.byRecord (metadata.columns.zip values)).resolve table = .ok resolved ∧
      Dialect.postgres.delete table resolved = .ok delete ∧
      Grammar.deleteAsks .postgres delete =
        some [("kEy", some (.ofInt .int64 5)), ("part\" = $9", some (.ofInt .int64 3))] := by
  intro table metadata values
  have spaced : Dialect.postgres.Spaced := Dialect.spaced_of_known (by decide)
  obtain ⟨update, updates⟩ :
      ∃ update, Dialect.postgres.update table metadata values = .ok update := ⟨_, rfl⟩
  obtain ⟨keys, keyed, _, both⟩ := changes_address_one_row .postgres table metadata values updates
  have same := (both _ _ rfl rfl).alike spaced
  refine ⟨update, _, _, updates, rfl, rfl, (same.mpr (by decide)).symm.trans ?_⟩
  cases updates
  decide +kernel

end RecordMapping
