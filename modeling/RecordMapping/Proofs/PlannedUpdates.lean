/-
Module: RecordMapping.Proofs.PlannedUpdates
Purpose: The fields that an update sets and those it finds the row by, and when it is
  planned from them.
Main exports: RecordMeta.KeyField, Table.SetsField, columnValues, updateKeys_eq_ok_iff,
  Dialect.update_eq_ok_iff
-/
import RecordMapping.Proofs.ColumnLookup
import RecordMapping.Proofs.FailureKinds
import RecordMapping.Statement.Change

namespace RecordMapping

/-!
An update is planned in two walks, one over the identifying columns of the table and one
over the fields of the record.  What the first one looks up by name is described here by
the fields themselves, each with its value, and so is what the second one keeps.
-/

section Related

variable {α β : Type} {relation : α → β → Prop} {items : List α}

theorem exists_forall₂_iff :
    (∃ found, List.Forall₂ relation items found) ↔ ∀ item ∈ items, ∃ other, relation item other := by
  induction items with
  | nil => simp
  | cons item rest inductionHypothesis =>
      simp [List.forall₂_cons_left_iff, ← inductionHypothesis]

theorem exists_mem_of_forall₂ {found : List β} (related : List.Forall₂ relation items found)
    {other : β} (member : other ∈ found) : ∃ item ∈ items, relation item other := by
  have paired : List.Forall₂ (fun item other => item ∈ items ∧ relation item other) items found :=
    (List.forall₂_and_left items found).mpr ⟨fun _ here => here, related⟩
  exact exists_forall₂_iff.mp ⟨items, paired.flip⟩ other member

end Related

/-- A field, with its value, that an identifying column finds the row by: the column is
mapped to it in any ASCII case, and its value is not `NULL`. -/
def RecordMeta.KeyField (metadata : RecordMeta) (values : List Value) (id : String)
    (field : FieldDef × Value) : Prop :=
  field ∈ metadata.fields.zip values ∧ Text.sameColumn field.1.column id = true ∧
    field.2.isNull = false

/-- A field, with its value, that an update sets: it does not identify the row, and it
is no nullable field that holds `NULL`.  A zero is set, and so is the `NULL` of a field
that is not nullable. -/
def Table.SetsField (table : Table) (field : FieldDef × Value) : Prop :=
  table.isId field.1.column = false ∧ ¬ (field.1.nullable = true ∧ field.2.isNull = true)

/-- Fields as the columns that are written for them, with their values. -/
def columnValues (fields : List (FieldDef × Value)) : List (String × Value) :=
  fields.map fun field => (field.1.column, field.2)

section Fields

variable {table : Table} {metadata : RecordMeta} {values : List Value}

theorem mem_updatedFields {field : FieldDef × Value} :
    field ∈ updatedFields table metadata values ↔
      field ∈ metadata.fields.zip values ∧ table.SetsField field := by
  simp [updatedFields, Table.SetsField, List.mem_filter, ← Bool.not_eq_true, imp_iff_not_or]

/-- An identifying column is looked up, and only a `NULL` there keeps its field from
being a key. -/
theorem updateKeys_cons {id : String} {rest : List String} {index : Nat}
    {field : FieldDef × Value} (mapped : metadata.fieldIndex? id = some index)
    (placed : (metadata.fields.zip values)[index]? = some field) :
    updateKeys metadata values (id :: rest) =
      if field.2.isNull then misconfigured (.nullId id)
      else (updateKeys metadata values rest).map ((field.1.column, field.2) :: ·) := by
  obtain ⟨defined, valued⟩ := List.getElem?_zip_eq_some.mp placed
  simp [updateKeys, mapped, valued, RecordMeta.columns, defined]

/-- The keys of an update are a field for each identifying column, in the order of the
columns. -/
theorem updateKeys_eq_ok_iff (width : values.length = metadata.fields.length)
    {ids : List String} {found : List (String × Value)} :
    updateKeys metadata values ids = .ok found ↔
      ∃ keys, List.Forall₂ (metadata.KeyField values) ids keys ∧ found = columnValues keys := by
  induction ids generalizing found with
  | nil =>
      constructor
      · rintro ⟨⟩
        exact ⟨[], .nil, rfl⟩
      · rintro ⟨_, none, rfl⟩
        cases none
        rfl
  | cons id rest inductionHypothesis =>
      constructor
      · intro resolved
        cases mapped : metadata.fieldIndex? id with
        | none => simp [updateKeys, mapped, misconfigured] at resolved
        | some index =>
            obtain ⟨field, placed, same⟩ := RecordMeta.exists_zip_of_fieldIndex? width mapped
            rw [updateKeys_cons mapped placed] at resolved
            split at resolved
            · cases resolved
            · rename_i present
              obtain ⟨others, behind, rfl⟩ := Outcome.map_eq_ok_iff.mp resolved
              obtain ⟨keys, found, rfl⟩ := inductionHypothesis.mp behind
              have key : metadata.KeyField values id field :=
                ⟨List.mem_of_getElem? placed, same, by simpa using present⟩
              exact ⟨field :: keys, .cons key found, rfl⟩
      · rintro ⟨_, found, rfl⟩
        cases found with
        | @cons _ field _ keys key found =>
            obtain ⟨member, same, present⟩ := key
            obtain ⟨index, mapped, placed⟩ := RecordMeta.exists_index_of_mem_zip member same
            have behind := inductionHypothesis.mpr ⟨keys, found, rfl⟩
            rw [updateKeys_cons mapped placed, behind]
            simp [present, columnValues, Except.map]

/-- What an update is planned from: a valid table, a value for each field, a key for
each identifying column and a field to set. -/
theorem Dialect.update_eq_ok_iff {dialect : Dialect} {statement : Statement} :
    dialect.update table metadata values = .ok statement ↔
      table.validate = .ok () ∧ values.length = metadata.fields.length ∧
        ∃ keys, List.Forall₂ (metadata.KeyField values) table.ids keys ∧
          updatedFields table metadata values ≠ [] ∧
          statement =
            { sql :=
                "UPDATE " ++ dialect.identifier table.name ++ "\nSET " ++
                  Text.separated ", " (dialect.bindings 0
                    ((updatedFields table metadata values).map fun field => field.1.column)) ++
                  dialect.conditions (updatedFields table metadata values).length
                    (keys.map fun field => field.1.column)
              parameters := (updatedFields table metadata values ++ keys).map Prod.snd } := by
  have written : ∀ keys : List (FieldDef × Value),
      (columnValues keys).map Prod.fst = (keys.map fun field => field.1.column) ∧
        (columnValues keys).map Prod.snd = keys.map Prod.snd := by
    intro keys
    simp [columnValues, Function.comp_def]
  unfold update
  constructor
  · intro planned
    obtain ⟨_, valid, planned⟩ := ok_of_bind planned
    obtain ⟨_, checked, planned⟩ := ok_of_bind planned
    have width := checkWidth_eq_ok_iff.mp checked
    obtain ⟨_, resolved, planned⟩ := ok_of_bind planned
    obtain ⟨keys, found, rfl⟩ := (updateKeys_eq_ok_iff width).mp resolved
    dsimp only at planned
    split at planned
    · cases planned
    · rename_i filled
      refine ⟨valid, width, keys, found, by simpa using filled, ?_⟩
      cases planned
      simp [written keys]
  · rintro ⟨valid, width, keys, found, filled, rfl⟩
    have resolved := (updateKeys_eq_ok_iff width).mpr ⟨keys, found, rfl⟩
    simp [bind, Except.bind, valid, checkWidth_eq_ok_iff.mpr width, resolved, filled,
      written keys, pure, Except.pure]

end Fields

end RecordMapping
